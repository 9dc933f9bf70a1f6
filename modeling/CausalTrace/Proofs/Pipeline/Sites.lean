import Mathlib.Logic.Function.Basic
import CausalTrace.Proofs.Pipeline.Lifecycle

/-!
# Sites

A site is a bus with any number of pipelines and tracers that share it.  `Deed` lists what can be
done there, in any order: pipelines are made, started and stopped, tracers are attached, shut down
and dropped, users place and remove hooks, from outside or in programs on the bus, and messages go
on in between, one step at a time.

Every deed tells what it changed, and the changes are a history of the site.  `Site.effect_perform`
says once what a deed can do to the hooks on the bus and to the runs of the members.
-/

namespace CausalTrace

/-- A pipeline or a tracer on a shared bus. -/
inductive Member where
  | pipeline (pipeline : Pipeline)
  | tracer (tracer : Tracer)

/-- The run of a member, if it has one. -/
def Member.run : Member → Option Run
  | pipeline own => own.run
  | tracer attached => attached.run

/-- Who places hooks. -/
inductive Owner where
  | user
  /-- The member with a place at the site. -/
  | member (place : Nat)
  deriving DecidableEq

/-- A bus and those who share it. -/
structure Site where
  traffic : Traffic
  members : List Member

/-- One thing that is done at a site. -/
inductive Deed where
  /-- A pipeline is made. -/
  | make (config : Config)
  /-- A pipeline is started, and the system gives its writer a thread or does not. -/
  | start (place : Nat) (source : StoreSource) (thread : Except String Unit)
  | stop (place : Nat)
  /-- A tracer is attached, or is disabled. -/
  | attach (config : Config) (source : StoreSource) (thread : Except String Unit)
  /-- A tracer is attached, or there is none. -/
  | tryAttach (config : Config) (source : StoreSource) (thread : Except String Unit)
  | shutdown (place : Nat)
  /-- A tracer is dropped. -/
  | forget (place : Nat)
  | hook (side : Side) (hook : Hook)
  | unhook (id : Nat)
  /-- An outside caller begins a program, if nothing is under way. -/
  | begin (program : Program)
  /-- The next thing happens on the bus. -/
  | step
  /-- Writers work and time passes. -/
  | elapse (recording : Recording)

/-- What a deed changed. -/
inductive Change where
  /-- A user placed a hook. -/
  | placed (side : Side) (id : Nat) (hook : Hook)
  /-- A user had the hook with an id removed. -/
  | removed (id : Nat)
  | began (place : Nat) (run : Run)
  | ended (place : Nat)

/-- What changed when a member that had one run has another. -/
def Change.ofRuns (place : Nat) : Option Run → Option Run → Option Change
  | none, some run => some (began place run)
  | some _, none => some (ended place)
  | _, _ => none

/-- What the next step changes. -/
def Traffic.change (traffic : Traffic) : Option Change :=
  match traffic.demand with
  | .place side hook => some (.placed side traffic.bus.next hook)
  | .remove id => some (.removed id)
  | _ => none

namespace Site

/-- A bus with nobody on it that nobody shares. -/
def new (recording : Recording) : Site := ⟨.new recording, []⟩

/-- The run of the member with a place. -/
def runOf (site : Site) (place : Nat) : Option Run := site.members[place]?.bind Member.run

/-- A member has got to where it is now. -/
def put (site : Site) (place : Nat) (member : Member) (traffic : Traffic) :
    Option Change × Site :=
  (Change.ofRuns place (site.runOf place) member.run, ⟨traffic, site.members.set place member⟩)

/-- A new member joins. -/
def join (site : Site) (member : Member) (traffic : Traffic) : Option Change × Site :=
  (Change.ofRuns site.members.length none member.run, ⟨traffic, site.members ++ [member]⟩)

/-- A pipeline does something, if there is one with the place. -/
def onPipeline (site : Site) (place : Nat) (act : Pipeline → Pipeline × Traffic) :
    Option Change × Site :=
  match site.members[place]? with
  | some (.pipeline pipeline) => site.put place (.pipeline (act pipeline).1) (act pipeline).2
  | _ => (none, site)

/-- A tracer goes, if there is one with the place. -/
def withoutTracer (site : Site) (place : Nat) (act : Tracer → Traffic) : Option Change × Site :=
  match site.members[place]? with
  | some (.tracer tracer) => site.put place (.tracer ⟨none, tracer.reason⟩) (act tracer)
  | _ => (none, site)

/-- Something is done at a site.  What is asked of a member that is not there is not done. -/
def perform (site : Site) : Deed → Option Change × Site
  | .make config => site.join (.pipeline (.new config)) site.traffic
  | .start place source thread =>
    site.onPipeline place fun pipeline => (pipeline.start site.traffic source thread).2
  | .stop place => site.onPipeline place fun pipeline => (pipeline.stop site.traffic).2
  | .attach config source thread =>
    let (tracer, traffic) := Tracer.attach site.traffic config source thread
    site.join (.tracer tracer) traffic
  | .tryAttach config source thread =>
    match Tracer.tryAttach site.traffic config source thread with
    | (.ok tracer, traffic) => site.join (.tracer tracer) traffic
    | (.error _, traffic) => (none, { site with traffic := traffic })
  | .shutdown place => site.withoutTracer place fun tracer => (tracer.shutdown site.traffic).2
  | .forget place => site.withoutTracer place fun tracer => tracer.forget site.traffic
  | .hook side hook =>
    let (id, bus) := site.traffic.bus.place side hook
    (some (.placed side id hook), { site with traffic := { site.traffic with bus := bus } })
  | .unhook id =>
    let (_, bus) := site.traffic.bus.remove id
    (some (.removed id), { site with traffic := { site.traffic with bus := bus } })
  | .begin program =>
    if site.traffic.isIdle then (none, { site with traffic := site.traffic.start program })
    else (none, site)
  | .step =>
    match site.traffic.step with
    | some traffic => (site.traffic.change, { site with traffic := traffic })
    | none => (none, site)
  | .elapse recording =>
    (none, { site with traffic := { site.traffic with recording := recording } })

/-- The changes that a list of deeds brings about, and the site after them. -/
def follow (site : Site) : List Deed → List Change × Site
  | [] => ([], site)
  | deed :: rest =>
    let (change, after) := site.perform deed
    let (changes, last) := after.follow rest
    (change.toList ++ changes, last)

/-! ## The runs of members -/

variable {site : Site} {place : Nat} {member : Member} {traffic : Traffic}

/-- Only the member at the place has another run. -/
theorem runOf_put (known : place < site.members.length) :
    (site.put place member traffic).2.runOf = Function.update site.runOf place member.run := by
  funext other
  by_cases same : other = place
  · subst same
    simp [runOf, put, known]
  · simp [runOf, put, same, List.getElem?_set_ne (Ne.symm same)]

/-- Only the new member has a run that was not there. -/
theorem runOf_join : (site.join member traffic).2.runOf =
    Function.update site.runOf site.members.length member.run := by
  funext other
  rcases Nat.lt_trichotomy other site.members.length with before | rfl | behind
  · simp [runOf, join, Nat.ne_of_lt before, List.getElem?_append_left before]
  · simp [runOf, join]
  · have beyond : (site.members ++ [member]).length ≤ other := by
      rw [List.length_append]
      exact behind
    simp [runOf, join, Nat.ne_of_gt behind, List.getElem?_eq_none beyond,
      List.getElem?_eq_none (Nat.le_of_lt behind)]

/-! ## What a deed can do -/

/-- What a deed can do: one member has its turn, a user changes the hooks, or neither hooks
nor runs change. -/
inductive Effect (site after : Site) : Option Change → Prop where
  | quiet (bus : site.traffic.bus.SameHooks after.traffic.bus) (runs : after.runOf = site.runOf) :
      Effect site after none
  | placed (side : Side) (hook : Hook)
      (bus : after.traffic.bus = (site.traffic.bus.place side hook).2)
      (runs : after.runOf = site.runOf) :
      Effect site after (some (.placed side site.traffic.bus.next hook))
  | removed (id : Nat) (bus : after.traffic.bus = (site.traffic.bus.remove id).2)
      (runs : after.runOf = site.runOf) : Effect site after (some (.removed id))
  | turned (place : Nat) (run : Option Run)
      (turn : Turn site.traffic.bus after.traffic.bus (site.runOf place) run)
      (runs : after.runOf = Function.update site.runOf place run) :
      Effect site after (Change.ofRuns place (site.runOf place) run)

/-- As long as the bus stays, nothing has changed. -/
theorem Effect.nothing (bus : traffic.bus = site.traffic.bus) :
    Effect site { site with traffic := traffic } none :=
  .quiet (bus ▸ .refl _) rfl

/-- A member that gets somewhere else has had its turn. -/
theorem effect_put (known : site.members[place]? = some member) {moved : Member}
    (turn : Turn site.traffic.bus traffic.bus member.run moved.run) :
    Effect site (site.put place moved traffic).2 (site.put place moved traffic).1 := by
  obtain ⟨within, -⟩ := List.getElem?_eq_some_iff.1 known
  have was : site.runOf place = member.run := by rw [runOf, known]; rfl
  refine .turned place moved.run ?_ (runOf_put within)
  rw [was]
  exact turn

/-- A pipeline that does something has had its turn; one that is not there has done nothing. -/
theorem effect_onPipeline {act : Pipeline → Pipeline × Traffic}
    (turn : ∀ pipeline, Turn site.traffic.bus (act pipeline).2.bus pipeline.run
      (act pipeline).1.run) :
    Effect site (site.onPipeline place act).2 (site.onPipeline place act).1 := by
  unfold onPipeline
  split
  next pipeline known => exact effect_put known (turn pipeline)
  next => exact .nothing rfl

/-- A tracer that goes leaves no run. -/
theorem effect_withoutTracer {act : Tracer → Traffic}
    (turn : ∀ tracer, Turn site.traffic.bus (act tracer).bus tracer.run none) :
    Effect site (site.withoutTracer place act).2 (site.withoutTracer place act).1 := by
  unfold withoutTracer
  split
  next tracer known => exact effect_put known (turn tracer)
  next => exact .nothing rfl

/-- A new member had no run before its turn. -/
theorem effect_join (turn : Turn site.traffic.bus traffic.bus none member.run) :
    Effect site (site.join member traffic).2 (site.join member traffic).1 := by
  have vacant : site.runOf site.members.length = none := by
    rw [runOf, List.getElem?_eq_none (Nat.le_refl _)]
    rfl
  have effect : Effect site (site.join member traffic).2
      (Change.ofRuns site.members.length (site.runOf site.members.length) member.run) := by
    refine .turned _ member.run ?_ runOf_join
    rw [vacant]
    exact turn
  rw [vacant] at effect
  exact effect

/-- A step of the traffic changes hooks only where a program asks for it. -/
theorem effect_step (stepped : site.traffic.step = some traffic) :
    Effect site { site with traffic := traffic } site.traffic.change := by
  have meets := (Traffic.step_meets stepped).bus
  unfold Traffic.change
  split
  next side hook demand =>
    rw [demand] at meets
    exact .placed side hook meets rfl
  next id demand =>
    rw [demand] at meets
    exact .removed id meets rfl
  next noPlace noRemove =>
    have aside : site.traffic.demand.changesHooks = false := by
      cases demand : site.traffic.demand with
      | place side hook => exact absurd demand (noPlace side hook)
      | remove id => exact absurd demand (noRemove id)
      | _ => rfl
    refine .quiet ?_ rfl
    rw [meets]
    cases met : site.traffic.bus.meet site.traffic.demand with
    | none => exact .refl _
    | some bus => exact Bus.sameHooks_meet aside met

/-- Whatever is done has one of these effects. -/
theorem effect_perform (site : Site) (deed : Deed) :
    Effect site (site.perform deed).2 (site.perform deed).1 := by
  cases deed with
  | make config => exact effect_join (.kept none rfl)
  | start place source thread =>
    exact effect_onPipeline fun pipeline => pipeline.turn_start site.traffic source thread
  | stop place => exact effect_onPipeline fun pipeline => pipeline.turn_stop site.traffic
  | attach config source thread =>
    exact effect_join (Tracer.turn_attach site.traffic config source thread)
  | tryAttach config source thread =>
    have turn := Tracer.turn_tryAttach site.traffic config source thread
    simp only [perform]
    split
    next tracer traffic attached =>
      rw [attached] at turn
      exact effect_join turn
    next failure traffic refused =>
      rw [refused] at turn
      cases turn with
      | kept run same => exact .nothing same
  | shutdown | forget =>
    exact effect_withoutTracer fun tracer => tracer.turn_shutdown site.traffic
  | hook side hook => exact .placed side hook rfl rfl
  | unhook id => exact .removed id rfl rfl
  | begin program =>
    simp only [perform]
    split <;> exact .nothing rfl
  | step =>
    simp only [perform]
    split
    next traffic stepped => exact effect_step stepped
    next => exact .nothing rfl
  | elapse recording => exact .nothing rfl

/-! ## Pipelines keep their places and their settings -/

/-- The pipeline at a place is still there, with the settings that it had. -/
def Retains (site after : Site) : Prop :=
  ∀ (place : Nat) (pipeline : Pipeline), site.members[place]? = some (.pipeline pipeline) →
    ∃ later, after.members[place]? = some (.pipeline later) ∧ later.config = pipeline.config

/-- A pipeline retains its settings while nothing happens. -/
theorem Retains.refl (site : Site) : site.Retains site := fun _ pipeline known =>
  ⟨pipeline, known, rfl⟩

/-- Settings that are retained twice are retained. -/
theorem Retains.trans {middle last : Site} (first : site.Retains middle)
    (second : middle.Retains last) : site.Retains last := by
  intro place pipeline known
  obtain ⟨later, there, config⟩ := first place pipeline known
  obtain ⟨latest, still, same⟩ := second place later there
  exact ⟨latest, still, same.trans config⟩

/-- A new member takes nobody's place. -/
theorem retains_join : site.Retains (site.join member traffic).2 := by
  intro place pipeline known
  obtain ⟨within, -⟩ := List.getElem?_eq_some_iff.1 known
  exact ⟨pipeline, (List.getElem?_append_left within).trans known, rfl⟩

/-- A member is exchanged for one that is a pipeline with the same settings, if it was one. -/
theorem retains_put (known : site.members[place]? = some member) {moved : Member}
    (keeps : ∀ pipeline, member = .pipeline pipeline →
      ∃ later, moved = .pipeline later ∧ later.config = pipeline.config) :
    site.Retains (site.put place moved traffic).2 := by
  intro other pipeline there
  obtain ⟨within, -⟩ := List.getElem?_eq_some_iff.1 known
  by_cases same : place = other
  · subst same
    rw [known] at there
    obtain ⟨later, rfl, config⟩ := keeps pipeline (Option.some.inj there)
    exact ⟨later, List.getElem?_set_self within, config⟩
  · exact ⟨pipeline, (List.getElem?_set_ne same).trans there, rfl⟩

/-- A pipeline that keeps its settings retains them in its place. -/
theorem retains_onPipeline {act : Pipeline → Pipeline × Traffic}
    (keeps : ∀ pipeline, (act pipeline).1.config = pipeline.config) :
    site.Retains (site.onPipeline place act).2 := by
  unfold onPipeline
  split
  next pipeline known =>
    refine retains_put known ?_
    rintro _ ⟨⟩
    exact ⟨_, rfl, keeps pipeline⟩
  next => exact .refl site

/-- A tracer that goes is no pipeline. -/
theorem retains_withoutTracer {act : Tracer → Traffic} :
    site.Retains (site.withoutTracer place act).2 := by
  unfold withoutTracer
  split
  next tracer known =>
    refine retains_put known ?_
    rintro _ ⟨⟩
  next => exact .refl site

/-- Nothing that is done changes the settings of a pipeline. -/
theorem retains_perform (site : Site) (deed : Deed) : site.Retains (site.perform deed).2 := by
  cases deed with
  | make | attach => exact retains_join
  | start => exact retains_onPipeline fun pipeline => pipeline.config_start
  | stop => exact retains_onPipeline fun pipeline => pipeline.config_stop
  | shutdown | forget => exact retains_withoutTracer
  | tryAttach =>
    simp only [perform]
    split
    · exact retains_join
    · exact .refl site
  | begin | step =>
    simp only [perform]
    split <;> exact .refl site
  | hook | unhook | elapse => exact .refl site

/-- Whatever is done at a site, its pipelines stay and keep their settings. -/
theorem retains_follow (site : Site) (deeds : List Deed) : site.Retains (site.follow deeds).2 := by
  induction deeds generalizing site with
  | nil => exact .refl site
  | cons deed rest ih => exact (site.retains_perform deed).trans (ih _)

end Site

end CausalTrace
