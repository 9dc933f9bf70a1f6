import CausalTrace.Proofs.Bus.Awaiting
import Mathlib.Data.List.Pairwise
import Mathlib.Data.List.Perm.Subperm

/-!
# Who is registered

The register of a bus has an entry for each address that has consumers and none for any other, so
that the consumer whose turn it is can be found by counting.  Ids are drawn from one counter, for
consumers, for hooks and for the addresses of replies, and are never put back.  Both is so from the
start, and every demand that is met preserves it.

It follows that a consumer is retired by its id alone: there is one with that id or none.
-/

namespace CausalTrace

namespace Bus

/-! ## Consumers and their addresses -/

/-- All consumers. -/
def staff (bus : Bus) : List Consumer := bus.consumers.flatMap Prod.snd

section Entries

variable {entries : List (String × List Consumer)}

/-- An address gets an entry with its first consumer, behind all others, and no second one. -/
theorem keys_enlist (consumer : Consumer) (address : String)
    (entries : List (String × List Consumer)) :
    (enlist consumer address entries).map Prod.fst =
      if address ∈ entries.map Prod.fst then entries.map Prod.fst
      else entries.map Prod.fst ++ [address] := by
  induction entries with
  | nil => rfl
  | cons entry rest ih =>
    obtain ⟨other, those⟩ := entry
    rw [enlist]
    split
    next same => simp [same]
    next apart =>
      rw [List.map_cons, ih]
      simp only [List.map_cons, List.mem_cons, Ne.symm apart, false_or]
      split <;> rfl

/-- The first entry of an address is the one that is found. -/
theorem lookup_entry (key : String) (those : List Consumer)
    (rest : List (String × List Consumer)) (address : String) :
    ((key, those) :: rest).lookup address =
      if address = key then some those else rest.lookup address := by
  rw [List.lookup_cons]
  by_cases same : address = key
  · simp [same]
  · rw [beq_false_of_ne same, if_neg same]

/-- A consumer is enlisted last at its address and nowhere else. -/
theorem lookup_enlist (consumer : Consumer) (address other : String)
    (entries : List (String × List Consumer)) :
    (enlist consumer address entries).lookup other =
      if other = address then some ((entries.lookup address).getD [] ++ [consumer])
      else entries.lookup other := by
  induction entries with
  | nil => exact lookup_entry address [consumer] [] other
  | cons entry rest ih =>
    obtain ⟨key, those⟩ := entry
    rw [enlist]
    split
    next here =>
      subst here
      rw [lookup_entry, lookup_entry, if_pos rfl, lookup_entry]
      split <;> rfl
    next here =>
      rw [lookup_entry, ih, lookup_entry, lookup_entry, if_neg (Ne.symm here)]
      by_cases same : other = address
      · rw [if_neg (same ▸ Ne.symm here), if_pos same, if_pos same]
      · rw [if_neg same, if_neg same]

/-- Nobody else comes or goes. -/
theorem perm_enlist (consumer : Consumer) (address : String)
    (entries : List (String × List Consumer)) :
    ((enlist consumer address entries).flatMap Prod.snd).Perm
      (consumer :: entries.flatMap Prod.snd) := by
  induction entries with
  | nil => exact .refl _
  | cons entry rest ih =>
    obtain ⟨other, those⟩ := entry
    rw [enlist]
    split
    next =>
      simp only [List.flatMap_cons, List.append_assoc, List.singleton_append]
      exact List.perm_middle
    next =>
      simp only [List.flatMap_cons]
      exact (ih.append_left those).trans List.perm_middle

/-- No entry is empty after a consumer was enlisted. -/
theorem staffed_enlist {consumer : Consumer} {address : String}
    (staffed : ∀ entry ∈ entries, entry.2 ≠ []) :
    ∀ entry ∈ enlist consumer address entries, entry.2 ≠ [] := by
  induction entries with
  | nil => simp [enlist]
  | cons first rest ih =>
    obtain ⟨other, those⟩ := first
    rw [enlist]
    split
    next =>
      rintro entry (_ | ⟨_, among⟩)
      · simp
      · exact staffed entry (List.mem_cons_of_mem _ among)
    next =>
      rintro entry (_ | ⟨_, among⟩)
      · exact staffed _ List.mem_cons_self
      · exact ih (fun entry among => staffed entry (List.mem_cons_of_mem _ among)) entry among

/-- An entry that is found is one of the entries. -/
theorem mem_of_lookup {address : String} {those : List Consumer}
    (found : entries.lookup address = some those) : (address, those) ∈ entries := by
  obtain ⟨before, behind, split, -⟩ := List.lookup_eq_some_iff.1 found
  rw [split]
  exact List.mem_append_right _ List.mem_cons_self

/-- Where each address has one entry, every entry is found. -/
theorem lookup_of_mem (once : (entries.map Prod.fst).Nodup) {address : String}
    {those : List Consumer} (among : (address, those) ∈ entries) :
    entries.lookup address = some those := by
  induction entries with
  | nil => cases among
  | cons entry rest ih =>
    obtain ⟨key, first⟩ := entry
    rw [List.map_cons, List.nodup_cons] at once
    rw [lookup_entry]
    rcases List.mem_cons.1 among with same | later
    · cases same
      exact if_pos rfl
    · have other : address ≠ key := fun same =>
        once.1 (same ▸ List.mem_map.2 ⟨_, later, rfl⟩)
      rw [if_neg other, ih once.2 later]

end Entries

/-! ## Who is enrolled -/

/-- The ids of the consumers and of the hooks on both sides. -/
def enlisted (bus : Bus) : List Nat :=
  bus.staff.map Consumer.id ++ (bus.outbound ++ bus.inbound).map Prod.fst

/-- The ids that are drawn to meet a demand. -/
def drawn (bus : Bus) : Demand → List Nat
  | .consume address handler => [(bus.consume address handler).1]
  | .ask _ _ _ => [bus.next]
  | .place side hook => [(bus.place side hook).1]
  | _ => []

/-- No address has nobody, and nobody has an id that was not drawn for them alone. -/
structure Enrolled (bus : Bus) (ids : List Nat) : Prop where
  addresses : (bus.consumers.map Prod.fst).Nodup
  staffed : ∀ entry ∈ bus.consumers, entry.2 ≠ []
  distinct : ids.Nodup
  below : ∀ id ∈ ids, id < bus.next
  /-- Handlers wait at reply addresses whose numbers are as different. -/
  own : ∃ numbers, bus.awaiting = numbers.map replyAddress ∧ (bus.enlisted ++ numbers).Subperm ids

namespace Enrolled

variable {bus after : Bus} {ids : List Nat}

/-- Nobody is enrolled on an empty bus. -/
theorem empty : Bus.empty.Enrolled [] :=
  ⟨.nil, nofun, .nil, nofun, [], rfl, .refl []⟩

/-- The next id is a new one. -/
theorem next_notMem (enrolled : bus.Enrolled ids) : bus.next ∉ ids :=
  fun among => Nat.lt_irrefl _ (enrolled.below _ among)

/-- Nobody has the id of somebody else. -/
theorem nodup (enrolled : bus.Enrolled ids) :
    ∃ numbers, bus.awaiting = numbers.map replyAddress ∧ (bus.enlisted ++ numbers).Nodup ∧
      ∀ id ∈ bus.enlisted ++ numbers, id ∈ ids := by
  obtain ⟨numbers, waiting, own⟩ := enrolled.own
  have known := own.subset
  obtain ⟨those, perm, among⟩ := own
  exact ⟨numbers, waiting, perm.nodup_iff.1 (enrolled.distinct.sublist among), known⟩

/-- It makes no difference if some go and nobody comes, as long as no address is
left with nobody. -/
theorem fewer (enrolled : bus.Enrolled ids)
    (addresses : (after.consumers.map Prod.fst).Nodup)
    (staffed : ∀ entry ∈ after.consumers, entry.2 ≠ [])
    (staff : after.staff.Sublist bus.staff) (outbound : after.outbound.Sublist bus.outbound)
    (inbound : after.inbound.Sublist bus.inbound)
    (waiting : after.waiting.Sublist bus.waiting) (next : bus.next ≤ after.next) :
    after.Enrolled ids := by
  obtain ⟨numbers, awaiting, own⟩ := enrolled.own
  have fewer : after.awaiting.Sublist (numbers.map replyAddress) :=
    awaiting ▸ waiting.map Waiting.address
  obtain ⟨those, some, same⟩ := List.sublist_map_iff.1 fewer
  refine ⟨addresses, staffed, enrolled.distinct,
    fun id among => Nat.lt_of_lt_of_le (enrolled.below id among) next, those, same, ?_⟩
  refine List.Sublist.subperm (.append (.append ?_ ?_) some) |>.trans own
  · exact staff.map Consumer.id
  · exact (outbound.append inbound).map Prod.fst

/-- Somebody comes with the next id. -/
theorem more (enrolled : bus.Enrolled ids)
    (addresses : (after.consumers.map Prod.fst).Nodup)
    (staffed : ∀ entry ∈ after.consumers, entry.2 ≠ [])
    (one : ∀ numbers, bus.awaiting = numbers.map replyAddress →
      ∃ more, after.awaiting = more.map replyAddress ∧
        (after.enlisted ++ more).Perm (bus.next :: (bus.enlisted ++ numbers)))
    (next : after.next = bus.next + 1) : after.Enrolled (ids ++ [bus.next]) := by
  obtain ⟨numbers, awaiting, own⟩ := enrolled.own
  obtain ⟨more, waiting, perm⟩ := one numbers awaiting
  refine ⟨addresses, staffed, ?_, fun id among => ?_, more, waiting, ?_⟩
  · exact List.nodup_append'.2 ⟨enrolled.distinct, List.nodup_singleton _,
      by simpa using enrolled.next_notMem⟩
  · rw [next]
    rcases List.mem_append.1 among with before | new
    · exact Nat.lt_succ_of_lt (enrolled.below id before)
    · exact List.mem_singleton.1 new ▸ Nat.lt_succ_self _
  · have grown : (bus.next :: (bus.enlisted ++ numbers)).Subperm (bus.next :: ids) :=
      (List.subperm_cons _).2 own
    exact perm.subperm.trans (grown.trans (List.perm_append_singleton _ _).symm.subperm)

/-- A consumer that is registered is enrolled under a newly drawn id. -/
theorem consume (enrolled : bus.Enrolled ids) (address : String) (handler : Handler) :
    (bus.consume address handler).2.Enrolled (ids ++ [bus.next]) := by
  refine enrolled.more ?_ (staffed_enlist enrolled.staffed)
    (fun numbers waiting => ⟨numbers, waiting, ?_⟩) rfl
  · change ((enlist ⟨bus.next, handler⟩ address bus.consumers).map Prod.fst).Nodup
    rw [keys_enlist]
    split
    next => exact enrolled.addresses
    next new =>
      exact List.nodup_append'.2 ⟨enrolled.addresses, List.nodup_singleton _, by simpa using new⟩
  · have staff := (perm_enlist ⟨bus.next, handler⟩ address bus.consumers).map Consumer.id
    exact (staff.append_right _).append_right _

/-- A hook that is placed is enrolled under a newly drawn id. -/
theorem place (enrolled : bus.Enrolled ids) (side : Side) (hook : Hook) :
    (bus.place side hook).2.Enrolled (ids ++ [bus.next]) := by
  have same : (bus.place side hook).2.consumers = bus.consumers ∧
      (bus.place side hook).2.awaiting = bus.awaiting := by cases side <;> exact ⟨rfl, rfl⟩
  refine enrolled.more (same.1 ▸ enrolled.addresses) (same.1 ▸ enrolled.staffed)
    (fun numbers waiting => ⟨numbers, same.2.trans waiting, ?_⟩) (bus.next_place side hook)
  suffices grown : (bus.place side hook).2.enlisted.Perm (bus.next :: bus.enlisted) from
    grown.append_right numbers
  cases side with
  | outbound =>
    have between : (bus.place .outbound hook).2.enlisted
        = (bus.staff.map Consumer.id ++ bus.outbound.map Prod.fst)
          ++ bus.next :: bus.inbound.map Prod.fst := by
      simp [enlisted, Bus.place, staff]
    have before : bus.enlisted = (bus.staff.map Consumer.id ++ bus.outbound.map Prod.fst)
        ++ bus.inbound.map Prod.fst := by
      rw [enlisted, List.map_append, List.append_assoc]
    rw [between, before]
    exact List.perm_middle
  | inbound =>
    have behind : (bus.place .inbound hook).2.enlisted = bus.enlisted ++ [bus.next] := by
      simp [enlisted, Bus.place, staff]
    rw [behind]
    exact List.perm_append_singleton _ _

/-- A handler that waits draws an id for its address, which nobody is enrolled under. -/
theorem await (enrolled : bus.Enrolled ids) (handler : Handler) (owned : List Delivery) :
    (bus.await handler owned).2.Enrolled (ids ++ [bus.next]) := by
  refine enrolled.more enrolled.addresses enrolled.staffed
    (fun numbers waiting => ⟨numbers ++ [bus.next], ?_, ?_⟩) rfl
  · rw [awaiting_await, waiting, List.map_append]
    rfl
  · rw [← List.append_assoc]
    exact List.perm_append_singleton _ _

/-! ## Going -/

/-- Who stays when the consumer with an id goes. -/
theorem staff_retire (bus : Bus) (id : Nat) :
    (bus.retire id).2.staff = bus.staff.filter fun consumer => consumer.id != id := by
  simp only [staff, retire]
  induction bus.consumers with
  | nil => rfl
  | cons entry rest ih =>
    rw [List.map_cons, List.filter_cons, List.flatMap_cons, List.filter_append, ← ih]
    cases entry.2.filter fun consumer => consumer.id != id <;> simp

/-- Whoever is retired is taken out, with the entry if it was the last at its address. -/
theorem retire (enrolled : bus.Enrolled ids) (id : Nat) : (bus.retire id).2.Enrolled ids := by
  refine enrolled.fewer ?_ (fun entry among => ?_) ?_ (.refl _) (.refl _) (.refl _) (Nat.le_refl _)
  · refine List.Nodup.sublist ((List.filter_sublist).map Prod.fst) ?_
    rw [List.map_map]
    exact enrolled.addresses
  · have some := (List.mem_filter.1 among).2
    intro empty
    rw [empty] at some
    cases some
  · rw [staff_retire]
    exact List.filter_sublist

/-- Whoever receives a message, nobody comes, and nobody goes but the handler that waited there. -/
theorem reached (enrolled : bus.Enrolled ids) (address : String) (mode : Mode) :
    (bus.reached address mode).Enrolled ids := by
  have same : (bus.reached address mode).consumers = bus.consumers := by
    unfold Bus.reached takeWaiting
    cases bus.waitingAt address with
    | some waiting => rfl
    | none =>
      cases mode with
      | toAll => rfl
      | toOne =>
        simp only [audience]
        split <;> rfl
  have hooks := bus.sameHooks_reached address mode
  refine enrolled.fewer (same ▸ enrolled.addresses) (same ▸ enrolled.staffed) ?_ ?_ ?_ ?_ hooks.next
  · rw [staff, same]
    exact .refl _
  · rw [show (bus.reached address mode).outbound = bus.outbound from hooks.hooks .outbound]
  · rw [show (bus.reached address mode).inbound = bus.inbound from hooks.hooks .inbound]
  · rw [waiting_reached]
    exact List.filter_sublist

/-- Handlers that are let go were enrolled under nothing. -/
theorem without (enrolled : bus.Enrolled ids) (addresses : List String) :
    (bus.without addresses).Enrolled ids :=
  enrolled.fewer enrolled.addresses enrolled.staffed (.refl _) (.refl _) (.refl _)
    List.filter_sublist (Nat.le_refl _)

/-- A hook that is removed is taken out; its id is not put back. -/
theorem remove (enrolled : bus.Enrolled ids) (id : Nat) : (bus.remove id).2.Enrolled ids :=
  enrolled.fewer enrolled.addresses enrolled.staffed (.refl _) List.filter_sublist
    List.filter_sublist (.refl _) (Nat.le_refl _)

/-- Whatever is demanded, everybody has an id of their own and no address has nobody. -/
theorem meet (enrolled : bus.Enrolled ids) {demand : Demand} (met : bus.meet demand = some after) :
    after.Enrolled (ids ++ bus.drawn demand) := by
  have quietly (none : bus.drawn demand = []) (same : after.Enrolled ids) :
      after.Enrolled (ids ++ bus.drawn demand) := by rwa [none, List.append_nil]
  cases demand with
  | nothing =>
    cases met
    exact quietly rfl enrolled
  | consume address handler =>
    cases met
    exact enrolled.consume address handler
  | retire id =>
    cases met
    exact quietly rfl (enrolled.retire id)
  | reach address mode =>
    cases met
    exact quietly rfl (enrolled.reached address mode)
  | ask handler owned address =>
    cases met
    exact (enrolled.await handler owned).reached address .toOne
  | giveUp address =>
    rw [release_eq_some met] at quietly ⊢
    exact quietly rfl (enrolled.without [address])
  | drop deliveries =>
    rw [dropAll_eq_some met] at quietly ⊢
    exact quietly rfl (enrolled.without _)
  | place side hook =>
    cases met
    exact enrolled.place side hook
  | remove id =>
    cases met
    exact quietly rfl (enrolled.remove id)

end Enrolled

/-! ## Registering and retiring -/

/-- Registering adds a consumer behind the others of its address, and changes no other address. -/
theorem consumersOf_consume (bus : Bus) (address other : String) (handler : Handler) :
    (bus.consume address handler).2.consumersOf other =
      if other = address then bus.consumersOf address ++ [⟨bus.next, handler⟩]
      else bus.consumersOf other := by
  simp only [consumersOf, consume, lookup_enlist]
  split <;> rfl

/-- An id is registered if a consumer has it. -/
theorem hasConsumer_iff {bus : Bus} {id : Nat} :
    bus.hasConsumer id = true ↔ ∃ consumer ∈ bus.staff, consumer.id = id := by
  simp only [hasConsumer, staff, List.any_eq_true, beq_iff_eq, List.mem_flatMap]
  constructor
  · rintro ⟨entry, known, consumer, among, same⟩
    exact ⟨consumer, ⟨entry, known, among⟩, same⟩
  · rintro ⟨consumer, ⟨entry, known, among⟩, same⟩
    exact ⟨entry, known, consumer, among, same⟩

/-- Where ids are different, leaving one out leaves out one consumer. -/
theorem filter_id_ne {before behind : List Consumer} {consumer : Consumer}
    (once : ((before ++ consumer :: behind).map Consumer.id).Nodup) :
    ((before ++ consumer :: behind).filter fun other => other.id != consumer.id)
      = before ++ behind := by
  rw [List.map_append, List.map_cons, List.nodup_append, List.nodup_cons] at once
  obtain ⟨-, ⟨strange, -⟩, apart⟩ := once
  have stays : (before.filter fun other => other.id != consumer.id) = before :=
    List.filter_eq_self.2 fun other there => by
      simpa using apart _ (List.mem_map_of_mem there) _ List.mem_cons_self
  have staysBehind : (behind.filter fun other => other.id != consumer.id) = behind :=
    List.filter_eq_self.2 fun other there => by
      simpa using fun same : other.id = consumer.id => strange (same ▸ List.mem_map_of_mem there)
  rw [List.filter_append, List.filter_cons, stays, staysBehind]
  simp

/-- What retiring an id comes to. -/
structure Retires (bus : Bus) (id : Nat) (found : Bool) (after : Bus) : Prop where
  known : found = true ↔ ∃ address, ∃ consumer ∈ bus.consumersOf address, consumer.id = id
  nobody : found = false → after = bus
  /-- One consumer goes, and all others stay where they are. -/
  one : found = true → ∃ address before consumer behind,
    bus.consumersOf address = before ++ consumer :: behind ∧ consumer.id = id ∧
      after.consumersOf address = before ++ behind ∧
      (∀ other, other ≠ address → after.consumersOf other = bus.consumersOf other) ∧
      after = { bus with consumers := after.consumers }

namespace Enrolled

variable {bus : Bus} {ids : List Nat}

/-- The consumers of an address are those of its entry. -/
theorem consumersOf_of_mem (enrolled : bus.Enrolled ids) {entry : String × List Consumer}
    (known : entry ∈ bus.consumers) : bus.consumersOf entry.1 = entry.2 := by
  rw [consumersOf, lookup_of_mem enrolled.addresses known]
  rfl

/-- An address that has a consumer has an entry. -/
theorem mem_of_consumersOf {address : String} {consumer : Consumer}
    (among : consumer ∈ bus.consumersOf address) :
    (address, bus.consumersOf address) ∈ bus.consumers := by
  cases found : bus.consumers.lookup address with
  | none =>
    rw [consumersOf, found] at among
    cases among
  | some those =>
    rw [consumersOf, found]
    exact mem_of_lookup found

/-- Everybody is a consumer of some address. -/
theorem mem_staff_iff (enrolled : bus.Enrolled ids) {consumer : Consumer} :
    consumer ∈ bus.staff ↔ ∃ address, consumer ∈ bus.consumersOf address := by
  rw [staff, List.mem_flatMap]
  constructor
  · rintro ⟨entry, known, among⟩
    exact ⟨entry.1, enrolled.consumersOf_of_mem known ▸ among⟩
  · rintro ⟨address, among⟩
    exact ⟨_, mem_of_consumersOf among, among⟩

/-- Who stays at an address when the consumer with an id goes. -/
theorem consumersOf_retire (enrolled : bus.Enrolled ids) (id : Nat) (address : String) :
    (bus.retire id).2.consumersOf address =
      (bus.consumersOf address).filter fun consumer => consumer.id != id := by
  have once := enrolled.addresses
  simp only [consumersOf, Bus.retire]
  generalize bus.consumers = entries at once
  induction entries with
  | nil => rfl
  | cons entry rest ih =>
    obtain ⟨key, those⟩ := entry
    rw [List.map_cons, List.nodup_cons] at once
    have later := ih once.2
    rw [List.map_cons, List.filter_cons, lookup_entry]
    by_cases here : address = key
    · subst here
      have absent : rest.lookup address = none := by
        cases found : rest.lookup address with
        | none => rfl
        | some others => exact absurd (List.mem_map.2 ⟨_, mem_of_lookup found, rfl⟩) once.1
      rw [absent] at later
      cases left : those.filter fun consumer => consumer.id != id with
      | nil => simpa [left] using later
      | cons first others => simp [left]
    · rw [if_neg here, ← later]
      split
      · rw [lookup_entry, if_neg here]
      · rfl

/-- Each consumer has one address and one place there. -/
theorem nodup_staff (enrolled : bus.Enrolled ids) :
    (bus.consumers.flatMap fun entry => entry.2.map Consumer.id).Nodup := by
  obtain ⟨numbers, -, nodup, -⟩ := enrolled.nodup
  have single := (List.nodup_append.1 (List.nodup_append.1 nodup).1).1
  rwa [staff, List.map_flatMap] at single

/-- Nobody at another address has the id of a consumer. -/
theorem id_ne (enrolled : bus.Enrolled ids) {address other : String} (apart : other ≠ address)
    {consumer another : Consumer} (among : consumer ∈ bus.consumersOf address)
    (amongOther : another ∈ bus.consumersOf other) : another.id ≠ consumer.id := by
  have single := List.nodup_flatMap.1 enrolled.nodup_staff
  have symmetric : Std.Symm (Function.onFun List.Disjoint
      fun entry : String × List Consumer => entry.2.map Consumer.id) :=
    ⟨fun _ _ apart _ first second => apart second first⟩
  intro same
  have disjoint := single.2.forall (mem_of_consumersOf among) (mem_of_consumersOf amongOther)
    fun same => apart (congrArg Prod.fst same).symm
  exact disjoint (List.mem_map_of_mem among) (same ▸ List.mem_map_of_mem amongOther)

/-- Retiring an id that no consumer has changes nothing. -/
theorem retire_nobody (enrolled : bus.Enrolled ids) {id : Nat}
    (others : ∀ entry ∈ bus.consumers, ∀ consumer ∈ entry.2, consumer.id ≠ id) :
    (bus.retire id).2 = bus := by
  have unchanged : (bus.consumers.map fun entry =>
      (entry.1, entry.2.filter fun consumer => consumer.id != id)) = bus.consumers := by
    refine (List.map_congr_left fun entry present => ?_).trans (List.map_id _)
    have all : (entry.2.filter fun consumer => consumer.id != id) = entry.2 :=
      List.filter_eq_self.2 fun consumer among => by
        simpa using others entry present consumer among
    rw [all]
    rfl
  have staffed : (bus.consumers.filter fun entry => !entry.2.isEmpty) = bus.consumers :=
    List.filter_eq_self.2 fun entry present => by simpa using enrolled.staffed entry present
  rw [Bus.retire, unchanged, staffed]

/-- Retiring an id takes away the one consumer that has it, if there is one. -/
theorem retires (enrolled : bus.Enrolled ids) (id : Nat) :
    bus.Retires id (bus.retire id).1 (bus.retire id).2 := by
  have known : (bus.retire id).1 = true ↔
      ∃ address, ∃ consumer ∈ bus.consumersOf address, consumer.id = id := by
    change bus.hasConsumer id = true ↔ _
    simp only [hasConsumer_iff, enrolled.mem_staff_iff]
    constructor
    · rintro ⟨consumer, ⟨address, among⟩, same⟩
      exact ⟨address, consumer, among, same⟩
    · rintro ⟨address, consumer, among, same⟩
      exact ⟨consumer, ⟨address, among⟩, same⟩
  refine ⟨known, fun missing => ?_, fun found => ?_⟩
  · refine enrolled.retire_nobody fun entry present consumer among same => ?_
    have there := known.2 ⟨entry.1, consumer, enrolled.consumersOf_of_mem present ▸ among, same⟩
    rw [missing] at there
    cases there
  · obtain ⟨address, consumer, among, rfl⟩ := known.1 found
    obtain ⟨before, behind, split⟩ := List.append_of_mem among
    refine ⟨address, before, consumer, behind, split, rfl, ?_, fun other apart => ?_, rfl⟩
    · have once := (List.nodup_flatMap.1 enrolled.nodup_staff).1 _ (mem_of_consumersOf among)
      simp only [split] at once
      rw [enrolled.consumersOf_retire, split, filter_id_ne once]
    · rw [enrolled.consumersOf_retire, List.filter_eq_self]
      intro another amongOther
      simpa using enrolled.id_ne apart among amongOther

end Enrolled

end Bus

end CausalTrace
