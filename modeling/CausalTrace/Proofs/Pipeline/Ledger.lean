import Mathlib.Data.List.Nodup
import CausalTrace.Proofs.Pipeline.Sites

/-!
# Whose hooks are on the bus

A ledger is what the changes of a site come to: one line for each hook that a user or a member has
placed, in the order in which they were placed.  The lines of a member go when its run ends.  A call
that removes a hook by its id crosses its line out, whoever placed the hook: ids are handed to
anybody, and nothing ties them to those who may use them.

What is on the bus is what stands in the ledger and is not crossed out, and the lines of a member
are the pair of hooks of its run, if it has one.  This holds after every deed, so it holds
throughout.
-/

namespace CausalTrace

/-- A hook that was placed. -/
structure Placement where
  owner : Owner
  side : Side
  id : Nat
  hook : Hook
  /-- Whether no call has removed it by its id. -/
  present : Bool
  deriving DecidableEq

/-- A placement after the hook with an id was removed. -/
def Placement.strike (id : Nat) (placement : Placement) : Placement :=
  { placement with present := placement.present && placement.id != id }

/-- The hooks that are placed for the run of a member. -/
def Run.placements (place : Nat) (run : Run) : List Placement :=
  match run.hooks.ids with
  | none => []
  | some (outbound, inbound) =>
    [⟨.member place, .outbound, outbound, .capture run.recorder .sent, true⟩,
      ⟨.member place, .inbound, inbound, .capture run.recorder .received, true⟩]

/-- The hooks that were placed and belong to somebody still, in the order of their placing. -/
abbrev Ledger := List Placement

namespace Ledger

/-- What a change does to the ledger. -/
def note (ledger : Ledger) : Change → Ledger
  | .placed side id hook => ledger ++ [⟨.user, side, id, hook, true⟩]
  | .removed id => ledger.map (Placement.strike id)
  | .began place run => ledger ++ run.placements place
  | .ended place => ledger.filter fun placement => placement.owner ≠ .member place

/-- What changes come to. -/
def ofChanges (changes : List Change) : Ledger := changes.foldl note []

/-- The hooks on one side that are not crossed out. -/
def chain (ledger : Ledger) (side : Side) : List (Nat × Hook) :=
  (ledger.filter fun placement => placement.present && placement.side = side).map fun placement =>
    (placement.id, placement.hook)

/-- The placements of a member. -/
def of (ledger : Ledger) (place : Nat) : List Placement :=
  ledger.filter fun placement => placement.owner = .member place

/-- A member without a run has no hooks.  One with a run has placed one hook on each side, which
are the hooks of the run. -/
def Shows (ledger : Ledger) (place : Nat) : Option Run → Prop
  | none => ledger.of place = []
  | some run => ∃ outbound inbound there here, run.hooks.ids = some (outbound, inbound) ∧
    ledger.of place =
      [⟨.member place, .outbound, outbound, .capture run.recorder .sent, there⟩,
        ⟨.member place, .inbound, inbound, .capture run.recorder .received, here⟩]

variable {ledger : Ledger} {bus after : Bus} {place : Nat} {run : Option Run}

/-! ## The chains of a ledger -/

/-- Later placements stand behind earlier ones. -/
theorem chain_append (ledger more : Ledger) (side : Side) :
    chain (ledger ++ more) side = ledger.chain side ++ more.chain side := by
  simp [chain]

/-- Crossing out an id takes its hook from the chain of either side. -/
theorem chain_strike (ledger : Ledger) (id : Nat) (side : Side) :
    chain (ledger.map (Placement.strike id)) side =
      (ledger.chain side).filter fun entry => entry.1 != id := by
  induction ledger with
  | nil => rfl
  | cons placement rest ih =>
    obtain ⟨owner, placed, known, hook, present⟩ := placement
    have rest := ih
    simp only [chain, List.map_cons, List.filter_cons, Placement.strike] at rest ⊢
    cases present with
    | false => simpa using rest
    | true =>
      by_cases here : placed = side <;> by_cases named : known = id <;> simp [here, named, rest]

/-- Without the placements of a member, a chain is without the entries that bear their ids. -/
theorem chain_without {outbound inbound : Nat}
    (own : ∀ placement ∈ ledger,
      placement.owner = .member place ↔ placement.id = outbound ∨ placement.id = inbound)
    (side : Side) :
    chain (ledger.note (.ended place)) side =
      ((ledger.chain side).filter fun entry => entry.1 != outbound).filter fun entry =>
        entry.1 != inbound := by
  simp only [chain, note, List.filter_map, List.filter_filter]
  congr 1
  apply List.filter_congr
  intro placement there
  have settled := own placement there
  by_cases owner : placement.owner = .member place
  · rcases settled.1 owner with named | named <;> simp [owner, named]
  · have unnamed := mt settled.2 owner
    rw [not_or] at unnamed
    simp [owner, bne_iff_ne.2 unnamed.1, bne_iff_ne.2 unnamed.2]

/-! ## Ledgers and the bus -/

/-- What is on a bus is what stands in a ledger, and ids were given out in its order. -/
structure Mirrors (ledger : Ledger) (bus : Bus) : Prop where
  chains : ∀ side, bus.hooks side = ledger.chain side
  ascending : (ledger.map Placement.id).Pairwise (· < ·)
  given : ∀ placement ∈ ledger, placement.id < bus.next

/-- A ledger stands for every bus with the same hooks. -/
theorem Mirrors.later (mirrors : ledger.Mirrors bus) (same : bus.SameHooks after) :
    ledger.Mirrors after where
  chains side := (same.hooks side).trans (mirrors.chains side)
  ascending := mirrors.ascending
  given placement there := Nat.lt_of_lt_of_le (mirrors.given placement there) same.next

/-- A hook that is placed gets the next id and stands last. -/
theorem Mirrors.placed (mirrors : ledger.Mirrors bus) (owner : Owner) (side : Side) (hook : Hook) :
    Mirrors (ledger ++ [⟨owner, side, bus.next, hook, true⟩]) (bus.place side hook).2 where
  chains other := by
    rw [Bus.hooks_place, chain_append, mirrors.chains]
    by_cases same : other = side
    · subst same
      simp [chain]
    · simp [chain, same, Ne.symm same]
  ascending := by
    rw [List.map_append, List.pairwise_append]
    refine ⟨mirrors.ascending, List.pairwise_singleton _ _, ?_⟩
    intro earlier known id last
    obtain ⟨placement, there, rfl⟩ := List.mem_map.1 known
    rw [List.mem_singleton.1 last]
    exact mirrors.given placement there
  given placement there := by
    rw [Bus.next_place]
    rcases List.mem_append.1 there with earlier | last
    · exact Nat.lt_succ_of_lt (mirrors.given placement earlier)
    · rw [List.mem_singleton.1 last]
      exact Nat.lt_succ_self bus.next

/-- A hook that is removed is crossed out. -/
theorem Mirrors.strike (mirrors : ledger.Mirrors bus) (id : Nat) :
    Mirrors (ledger.map (Placement.strike id)) (bus.remove id).2 where
  chains side := by rw [Bus.hooks_remove, chain_strike, mirrors.chains]
  ascending := by
    rw [List.map_map]
    exact mirrors.ascending
  given placement there := by
    obtain ⟨former, known, rfl⟩ := List.mem_map.1 there
    exact mirrors.given former known

/-- Nobody else has an id of a member's pair. -/
theorem Mirrors.own (mirrors : ledger.Mirrors bus) {outbound inbound : Placement}
    (pair : ledger.of place = [outbound, inbound]) {placement : Placement}
    (there : placement ∈ ledger) :
    placement.owner = .member place ↔ placement.id = outbound.id ∨ placement.id = inbound.id := by
  have distinct : (ledger.map Placement.id).Nodup := mirrors.ascending.imp Nat.ne_of_lt
  have listed (own : Placement) (among : own ∈ [outbound, inbound]) :
      own ∈ ledger ∧ own.owner = .member place := by
    rw [← pair] at among
    simpa [of] using among
  constructor
  · intro owner
    have among : placement ∈ ledger.of place := by simp [of, there, owner]
    rw [pair] at among
    rcases List.mem_cons.1 among with rfl | among
    · exact .inl rfl
    · exact .inr (congrArg Placement.id (List.mem_singleton.1 among))
  · rintro (named | named)
    · obtain ⟨known, owner⟩ := listed outbound (by simp)
      rw [List.inj_on_of_nodup_map distinct there known named]
      exact owner
    · obtain ⟨known, owner⟩ := listed inbound (by simp)
      rw [List.inj_on_of_nodup_map distinct there known named]
      exact owner

/-- A pair that is removed from the bus goes from the ledger with its owner. -/
theorem Mirrors.without (mirrors : ledger.Mirrors bus) {outbound inbound : Placement}
    (pair : ledger.of place = [outbound, inbound]) :
    (ledger.note (.ended place)).Mirrors ((bus.remove outbound.id).2.remove inbound.id).2 where
  chains side := by
    rw [chain_without fun _ there => mirrors.own pair there, Bus.hooks_remove, Bus.hooks_remove,
      mirrors.chains]
  ascending := mirrors.ascending.sublist (List.filter_sublist.map Placement.id)
  given placement there := mirrors.given placement (List.mem_filter.1 there).1

/-! ## Ledgers and members -/

/-- The hooks of a run belong to the member that runs. -/
theorem owner_placements {run : Run} {placement : Placement}
    (there : placement ∈ run.placements place) : placement.owner = .member place := by
  unfold Run.placements at there
  split at there
  · cases there
  · rcases List.mem_cons.1 there with rfl | there
    · rfl
    · rw [List.mem_singleton.1 there]

/-- What a ledger shows of a member depends on its own placements only. -/
theorem Shows.of_eq {later : Ledger} (same : later.of place = ledger.of place)
    (shows : ledger.Shows place run) : later.Shows place run := by
  cases run with
  | none => exact same.trans shows
  | some run =>
    obtain ⟨outbound, inbound, there, here, ids, pair⟩ := shows
    exact ⟨outbound, inbound, there, here, ids, same.trans pair⟩

/-- What others place is nothing to a member. -/
theorem Shows.append (shows : ledger.Shows place run) {more : Ledger}
    (others : ∀ placement ∈ more, placement.owner ≠ .member place) :
    Shows (ledger ++ more) place run := by
  refine shows.of_eq ?_
  have none : more.of place = [] := by
    rw [of, List.filter_eq_nil_iff]
    intro placement there
    simpa using others placement there
  rw [of, List.filter_append]
  exact (congrArg (ledger.of place ++ ·) none).trans (List.append_nil _)

/-- A member has its run whether or not its hooks were crossed out. -/
theorem Shows.strike (shows : ledger.Shows place run) (id : Nat) :
    Shows (ledger.map (Placement.strike id)) place run := by
  have struck : of (ledger.map (Placement.strike id)) place =
      (ledger.of place).map (Placement.strike id) := List.filter_map
  cases run with
  | none =>
    have none : ledger.of place = [] := shows
    rw [none] at struck
    exact struck
  | some run =>
    obtain ⟨outbound, inbound, there, here, ids, pair⟩ := shows
    rw [pair] at struck
    exact ⟨outbound, inbound, _, _, ids, struck⟩

/-- A member shows the same when another one has ended. -/
theorem Shows.without (shows : ledger.Shows place run) {other : Nat} (another : place ≠ other) :
    (ledger.note (.ended other)).Shows place run := by
  refine shows.of_eq ?_
  rw [of, note, List.filter_filter]
  apply List.filter_congr
  intro placement _
  by_cases own : placement.owner = .member place
  · simp [own, another]
  · simp [own]

/-- A member that has ended shows no run. -/
theorem shows_ended (ledger : Ledger) (place : Nat) :
    (ledger.note (.ended place)).Shows place none := by
  show of (ledger.note (.ended place)) place = []
  rw [of, List.filter_eq_nil_iff]
  intro placement there
  have gone := (List.mem_filter.1 there).2
  simpa using gone

/-! ## Ledgers through deeds -/

/-- A ledger that agrees with a site. -/
structure Keeps (ledger : Ledger) (site : Site) : Prop where
  mirrors : ledger.Mirrors site.traffic.bus
  shows : ∀ place, ledger.Shows place (site.runOf place)

/-- The empty ledger agrees with a site that has just been opened. -/
theorem keeps_new (recording : Recording) : Keeps [] (.new recording) where
  mirrors :=
    { chains := fun side => by cases side <;> rfl
      ascending := .nil
      given := fun _ there => nomatch there }
  shows _ := rfl

variable {site next : Site}

/-- A run begins: two lines are added. -/
theorem Keeps.began (keeps : ledger.Keeps site) (idle : site.runOf place = none)
    (recorder : Nat) (directory : Option String)
    (bus : next.traffic.bus = ((HookPair.new recorder).place site.traffic.bus).2)
    (runs : next.runOf = Function.update site.runOf place
      (some ⟨((HookPair.new recorder).place site.traffic.bus).1, directory⟩)) :
    (ledger.note
      (.began place ⟨((HookPair.new recorder).place site.traffic.bus).1, directory⟩)).Keeps
      next where
  mirrors := by
    have first := keeps.mirrors.placed (.member place) .outbound (.capture recorder .sent)
    have second := first.placed (.member place) .inbound (.capture recorder .received)
    rw [List.append_assoc] at second
    rw [bus]
    exact second
  shows other := by
    rw [runs]
    by_cases own : other = place
    · subst own
      rw [Function.update_self]
      have none : ledger.of other = [] := by
        have shows := keeps.shows other
        rw [idle] at shows
        exact shows
      refine ⟨_, _, true, true, rfl, ?_⟩
      rw [note, of, List.filter_append, ← of, none, List.filter_eq_self.2]
      · rfl
      · intro placement there
        simpa using owner_placements there
    · rw [Function.update_of_ne own]
      refine (keeps.shows other).append ?_
      intro placement there same
      rw [owner_placements there] at same
      exact own (Owner.member.inj same).symm

/-- A run ends: its lines go. -/
theorem Keeps.ended (keeps : ledger.Keeps site) {run : Run} (was : site.runOf place = some run)
    (bus : next.traffic.bus = (run.hooks.remove site.traffic.bus).2)
    (runs : next.runOf = Function.update site.runOf place none) :
    (ledger.note (.ended place)).Keeps next where
  mirrors := by
    have shows := keeps.shows place
    rw [was] at shows
    obtain ⟨outbound, inbound, there, here, ids, pair⟩ := shows
    rw [bus, HookPair.remove, ids]
    exact keeps.mirrors.without pair
  shows other := by
    rw [runs]
    by_cases own : other = place
    · subst own
      rw [Function.update_self]
      exact shows_ended ledger other
    · rw [Function.update_of_ne own]
      exact (keeps.shows other).without own

/-- What one deed does to a site, its change does to the ledger. -/
theorem Keeps.effect (keeps : ledger.Keeps site) {change : Option Change}
    (effect : site.Effect next change) : Keeps (change.toList.foldl note ledger) next := by
  cases effect with
  | quiet bus runs => exact ⟨keeps.mirrors.later bus, fun place => runs ▸ keeps.shows place⟩
  | placed side hook bus runs =>
    constructor
    · rw [bus]
      exact keeps.mirrors.placed .user side hook
    · intro place
      rw [runs]
      refine (keeps.shows place).append ?_
      simp
  | removed id bus runs =>
    constructor
    · rw [bus]
      exact keeps.mirrors.strike id
    · intro place
      rw [runs]
      exact (keeps.shows place).strike id
  | turned place run turn runs =>
    -- A member whose turn it is goes on as it was, or its run begins or ends.
    generalize was : site.runOf place = former at turn
    cases turn with
    | kept same bus =>
      have still : next.runOf = site.runOf := by rw [runs, ← was, Function.update_eq_self]
      have nothing : Change.ofRuns place run run = none := by cases run <;> rfl
      rw [nothing]
      exact ⟨bus ▸ keeps.mirrors, fun place => still ▸ keeps.shows place⟩
    | began recorder directory bus => exact keeps.began was recorder directory bus runs
    | ended run bus => exact keeps.ended was bus runs

/-- The ledger of a list of deeds agrees with the site that they lead to. -/
theorem Keeps.follow (keeps : ledger.Keeps site) (deeds : List Deed) :
    Keeps ((site.follow deeds).1.foldl note ledger) (site.follow deeds).2 := by
  induction deeds generalizing ledger site with
  | nil => exact keeps
  | cons deed rest ih =>
    have first := keeps.effect (site.effect_perform deed)
    simp only [Site.follow, List.foldl_append]
    exact ih first

/-! ## Who crosses lines out -/

/-- Only a call that names its id crosses a line out. -/
theorem struck_note {change : Change} {placement : Placement}
    (there : placement ∈ ledger.note change) (struck : placement.present = false) :
    (∃ former ∈ ledger, former.id = placement.id ∧ former.present = false) ∨
      change = .removed placement.id := by
  cases change with
  | placed side id hook =>
    rcases List.mem_append.1 there with known | added
    · exact .inl ⟨placement, known, rfl, struck⟩
    · rw [List.mem_singleton.1 added] at struck
      cases struck
  | began place run =>
    rcases List.mem_append.1 there with known | added
    · exact .inl ⟨placement, known, rfl, struck⟩
    · have fresh : placement.present = true := by
        unfold Run.placements at added
        split at added
        · cases added
        · rcases List.mem_cons.1 added with rfl | added
          · rfl
          · rw [List.mem_singleton.1 added]
      rw [fresh] at struck
      cases struck
  | ended place => exact .inl ⟨placement, (List.mem_filter.1 there).1, rfl, struck⟩
  | removed id =>
    obtain ⟨former, known, rfl⟩ := List.mem_map.1 there
    by_cases named : former.id = id
    · subst named
      exact .inr rfl
    · refine .inl ⟨former, known, rfl, ?_⟩
      simpa [Placement.strike, named] using struck

/-- What is crossed out was crossed out before, or one of the changes was the removal of its id. -/
theorem struck_foldl {changes : List Change} {placement : Placement}
    (there : placement ∈ changes.foldl note ledger) (struck : placement.present = false) :
    (∃ former ∈ ledger, former.id = placement.id ∧ former.present = false) ∨
      .removed placement.id ∈ changes := by
  induction changes generalizing ledger with
  | nil => exact .inl ⟨placement, there, rfl, struck⟩
  | cons change rest ih =>
    rcases ih there with ⟨middle, known, id, gone⟩ | later
    · rcases struck_note known gone with ⟨former, first, same, was⟩ | now
      · exact .inl ⟨former, first, same.trans id, was⟩
      · rw [id] at now
        exact .inr (now ▸ List.mem_cons_self)
    · exact .inr (List.mem_cons_of_mem _ later)

end Ledger

/-! ## What holds after every deed -/

/-- The hooks on the bus of a site are accounted for by its changes, and its
pipelines are lawful. -/
structure Site.Accounted (site : Site) (changes : List Change) : Prop where
  /-- On the bus is what users and members have placed and what was not removed. -/
  chains : ∀ side, site.traffic.bus.hooks side = (Ledger.ofChanges changes).chain side
  /-- Ids are given out in the order of placing. -/
  ascending : ((Ledger.ofChanges changes).map Placement.id).Pairwise (· < ·)
  /-- Members that run have placed a pair of hooks, the others none. -/
  members : ∀ place, (Ledger.ofChanges changes).Shows place (site.runOf place)
  /-- A hook of a user or of a running member is gone only if a call has named its id. -/
  named : ∀ placement ∈ Ledger.ofChanges changes, placement.present = false →
    .removed placement.id ∈ changes
  lawful : ∀ (place : Nat) (pipeline : Pipeline),
    site.members[place]? = some (.pipeline pipeline) → pipeline.Lawful site.traffic
  /-- Whatever is done later, a pipeline can be started with a store that opens, if it is stopped
  then, its settings are valid and the system gives a thread. -/
  startsLater : ∀ (place : Nat) (pipeline : Pipeline) (deeds : List Deed),
    site.members[place]? = some (.pipeline pipeline) →
    ∃ later : Pipeline, (site.follow deeds).2.members[place]? = some (.pipeline later) ∧
      ∀ source, later.state = "stopped" → pipeline.config.validate = .ok () →
        (∃ opened tree, Pipeline.openStore pipeline.config
          (site.follow deeds).2.traffic.recording source = (.ok opened, tree)) →
        ∃ started after,
          later.start (site.follow deeds).2.traffic source (.ok ()) = (.ok (), started, after)

/-- After any deeds on a new bus, its hooks are those of users and of running members. -/
theorem Site.accounted_follow (recording : Recording) (deeds : List Deed) :
    ((Site.new recording).follow deeds).2.Accounted ((Site.new recording).follow deeds).1 := by
  have keeps := (Ledger.keeps_new recording).follow deeds
  exact {
    chains := keeps.mirrors.chains
    ascending := keeps.mirrors.ascending
    members := keeps.shows
    named := by
      intro placement there struck
      rcases Ledger.struck_foldl there struck with ⟨_, known, -⟩ | named
      · cases known
      · exact named
    lawful := fun _ pipeline _ => pipeline.lawful _
    startsLater := by
      intro place pipeline more known
      obtain ⟨later, there, config⟩ := Site.retains_follow _ more place pipeline known
      refine ⟨later, there, ?_⟩
      intro source stopped valid opens
      rw [← config] at valid opens
      exact Pipeline.start_ok_iff.2 ⟨stopped, valid, opens, rfl⟩ }

namespace Site

/-- A pipeline was started, and then somebody had the hook with the first id removed. -/
def afterUnhook : Site :=
  ((new (.new default 0)).follow
    [.make .default, .start 0 (.provided (.memory .new)) (.ok ()), .unhook 1]).2

/-- A pipeline that has room for nothing was to be started. -/
def afterRefusal : Site :=
  ((new (.new default 0)).follow
    [.make { Config.default with channelCapacity := 0 },
      .start 0 (.provided (.memory .new)) (.ok ())]).2

/-- A pipeline was to be started when the system had no thread to give. -/
def afterNoThread : Site :=
  ((new (.new default 0)).follow
    [.make .default, .start 0 (.provided (.memory .new)) (.error "no threads")]).2

/-- A pipeline can run with one hook only, because the id of the other was named.  One whose
settings are not valid cannot be started later either, though the store is at hand, and neither can
one whose settings are valid as long as the system gives no thread. -/
theorem hook_lost_and_start_refused :
    ((afterUnhook.runOf 0).isSome ∧ afterUnhook.traffic.bus.hooks .outbound = [] ∧
        afterUnhook.traffic.bus.hooks .inbound = [(2, .capture 0 .received)]) ∧
      (∃ pipeline failure, afterRefusal.members[0]? = some (.pipeline pipeline) ∧
        pipeline.state = "stopped" ∧
        pipeline.start afterRefusal.traffic (.provided (.memory .new)) (.ok ()) =
          (.error failure, pipeline, afterRefusal.traffic)) ∧
      ∃ pipeline failure, afterNoThread.members[0]? = some (.pipeline pipeline) ∧
        pipeline.state = "stopped" ∧ pipeline.config.validate = .ok () ∧
        pipeline.start afterNoThread.traffic (.provided (.memory .new)) (.error "no threads") =
          (.error failure, pipeline, afterNoThread.traffic) :=
  ⟨⟨rfl, rfl, rfl⟩, ⟨_, _, rfl, rfl, rfl⟩, _, _, rfl, rfl, rfl, rfl⟩

end Site

end CausalTrace
