import CausalTrace.Proofs.Bus.Receivers
import Mathlib.Data.Nat.ModEq

/-!
# Consumers take turns

A message to one consumer of an address goes to each of them in turn, but a bus has one count of
turns for all its addresses.  So it matters how many messages went to one consumer of whatever
address in between: two messages to an address are handed to the same consumer of it exactly when
the number of turns from one to the other is a multiple of the number of consumers.

While one address alone has such traffic its consumers come round one after the other.  If another
one has as well, a consumer may never have its turn.
-/

namespace CausalTrace

/-! ## Turns -/

/-- The address and the place of the consumer that has its turn, if a message goes to one. -/
def Posting.turn? : Posting → Option (String × Nat)
  | .sent address (.oneOf place) => some (address, place)
  | _ => none

/-- The turns on a bus, the newest first. -/
def turns (postings : List Posting) : List (String × Nat) := postings.filterMap Posting.turn?

/-- The turns at an address, the newest first: how many there were on the bus before, and the
place of the consumer. -/
def turnsAt (address : String) : List (String × Nat) → List (Nat × Nat)
  | [] => []
  | (other, place) :: earlier =>
    if other = address then (earlier.length, place) :: turnsAt address earlier
    else turnsAt address earlier

/-- A turn at an address is one of the turns on the bus. -/
theorem turnsAt_lt (address : String) (turns : List (String × Nat)) :
    ∀ turn ∈ turnsAt address turns, turn.1 < turns.length := by
  induction turns with
  | nil => exact nofun
  | cons latest earlier ih =>
    have before : ∀ turn ∈ turnsAt address earlier, turn.1 < earlier.length + 1 :=
      fun turn among => Nat.lt_succ_of_lt (ih turn among)
    rw [turnsAt]
    split
    · intro turn among
      rcases List.mem_cons.1 among with rfl | older
      · exact Nat.lt_succ_self _
      · exact before turn older
    · exact before

/-- Later turns have more turns before them. -/
theorem turnsAt_descend (address : String) (turns : List (String × Nat)) :
    (turnsAt address turns).Pairwise fun later earlier => earlier.1 < later.1 := by
  induction turns with
  | nil => exact .nil
  | cons latest earlier ih =>
    rw [turnsAt]
    split
    · exact .cons (turnsAt_lt address earlier) ih
    · exact ih

/-- Where one address alone has its consumers served, no turn goes elsewhere. -/
theorem length_turnsAt {address : String} {turns : List (String × Nat)}
    (alone : ∀ turn ∈ turns, turn.1 = address) :
    (turnsAt address turns).length = turns.length := by
  induction turns with
  | nil => rfl
  | cons latest earlier ih =>
    rw [turnsAt, if_pos (alone latest (.head _)), List.length_cons, List.length_cons,
      ih fun turn among => alone turn (.tail _ among)]

namespace Bus

variable {bus after : Bus}

/-- If a message goes to one consumer, it is the one whose turn it is, and the count goes on. -/
theorem turns_receiver (bus : Bus) (address : String) (mode : Mode) :
    turns [.sent address (bus.receiver address mode)] = [] ∧
        (bus.reached address mode).turn = bus.turn ∨
      turns [.sent address (bus.receiver address mode)]
          = [(address, bus.turn % (bus.consumersOf address).length)] ∧
        (bus.reached address mode).turn = bus.turn + 1 := by
  simp only [reached, takeWaiting, receiver, audience]
  cases bus.waitingAt address with
  | some waiting => exact .inl ⟨rfl, rfl⟩
  | none =>
    cases bus.consumersOf address with
    | nil => cases mode <;> exact .inl ⟨rfl, rfl⟩
    | cons first others =>
      cases mode with
      | toAll => exact .inl ⟨rfl, rfl⟩
      | toOne =>
        have inside : bus.turn % (first :: others).length < (first :: others).length :=
          Nat.mod_lt _ (Nat.succ_pos _)
        simp only [List.getElem?_eq_getElem inside]
        exact .inr ⟨rfl, trivial⟩

/-- To meet a demand, at most one consumer has its turn. -/
theorem turns_meet {demand : Demand} (met : bus.meet demand = some after) :
    turns (bus.postings demand) = [] ∧ after.turn = bus.turn ∨
      ∃ address, turns (bus.postings demand)
          = [(address, bus.turn % (bus.consumersOf address).length)] ∧
        after.turn = bus.turn + 1 := by
  cases demand with
  | reach address mode =>
    cases met
    exact (bus.turns_receiver address mode).imp_right fun turn => ⟨address, turn⟩
  | ask handler owned address =>
    cases met
    have turn := (bus.await handler owned).2.turns_receiver address .toOne
    exact turn.imp_right fun turn => ⟨address, turn⟩
  | giveUp address =>
    rw [release_eq_some met]
    exact .inl ⟨rfl, rfl⟩
  | drop deliveries =>
    rw [dropAll_eq_some met]
    exact .inl ⟨rfl, rfl⟩
  | place side hook =>
    cases met
    cases side <;> exact .inl ⟨rfl, rfl⟩
  | _ =>
    cases met
    exact .inl ⟨rfl, rfl⟩

end Bus

namespace Traffic

variable {traffic after start : Traffic} {address : String} {ids : List Nat}
  {postings : List Posting}

/-- In a step at most one consumer has its turn. -/
theorem turns_step (stepped : traffic.step = some after) :
    turns traffic.postings = [] ∧ after.bus.turn = traffic.bus.turn ∨
      ∃ address, turns traffic.postings
          = [(address, traffic.bus.turn % (traffic.bus.consumersOf address).length)] ∧
        after.bus.turn = traffic.bus.turn + 1 := by
  have meets := step_meets stepped
  cases met : traffic.bus.meet traffic.demand with
  | some bus =>
    rw [meets.bus, met]
    exact Bus.turns_meet met
  | none =>
    rw [meets.bus, met]
    refine .inl ⟨?_, rfl⟩
    unfold Traffic.postings
    cases demand : traffic.demand with
    | reach | ask =>
      rw [demand] at met
      cases met
    | _ => rfl

/-- The consumers of an address have these ids. -/
def Staffed (address : String) (ids : List Nat) (traffic : Traffic) : Prop :=
  (traffic.bus.consumersOf address).map Consumer.id = ids

instance : DecidablePred (Staffed address ids) := fun _ => inferInstanceAs (Decidable (_ = _))

namespace History

/-- The count of turns is that of all turns on the bus. -/
theorem turn {fit : Traffic → Prop} (history : History fit start postings traffic) :
    traffic.bus.turn = start.bus.turn + (turns postings).length := by
  induction history with
  | here => rfl
  | @step postings traffic after _ _ stepped ih =>
    rw [turns, List.filterMap_append, List.length_append]
    rcases turns_step stepped with ⟨none, same⟩ | ⟨address, one, next⟩
    · rw [turns] at none
      rw [none, same, ih]
      simp [turns]
    · rw [turns] at one
      rw [one, next, ih]
      simp [turns]
      omega
  | begins _ _ _ ih => exact ih
  | attends _ attended ih =>
    obtain ⟨bus, recording, rfl, changed⟩ := attended.eq_of_rehooked
    exact changed.turn.trans ih

/-- Each turn at an address goes to the consumer that the turns on the whole bus have come to. -/
theorem place_eq (history : History (Staffed address ids) start postings traffic) :
    ∀ turn ∈ turnsAt address (turns postings), turn.2 = (start.bus.turn + turn.1) % ids.length := by
  induction history with
  | here => exact nofun
  | @step postings traffic after prior staffed stepped ih =>
    rw [turns, List.filterMap_append]
    rcases turns_step stepped with ⟨none, -⟩ | ⟨other, one, -⟩
    · rw [turns] at none
      rw [none]
      exact ih
    · rw [turns] at one
      rw [one, List.singleton_append, turnsAt]
      split
      next same =>
        subst same
        intro turn among
        rcases List.mem_cons.1 among with rfl | earlier
        · rw [prior.turn, ← staffed, List.length_map]
          rfl
        · exact ih turn earlier
      next => exact ih
  | begins _ _ _ ih => exact ih
  | attends _ _ ih => exact ih

/-- Messages to one consumer of an address go to the consumers that the turns on the whole bus have
come to.  So they go to different ones exactly when no two of them are a multiple of the number of
consumers apart, counted in turns of the whole bus, and as many of them as there are consumers do so
for certain if no other address has turns in between. -/
theorem rotates (history : History (Staffed address ids) start postings traffic) :
    (∀ turn ∈ turnsAt address (turns postings), turn.2 = (start.bus.turn + turn.1) % ids.length) ∧
      (((turnsAt address (turns postings)).map Prod.snd).Nodup ↔
        (turnsAt address (turns postings)).Pairwise fun later earlier =>
          ¬ later.1 ≡ earlier.1 [MOD ids.length]) ∧
      ((∀ turn ∈ turns postings, turn.1 = address) →
        (turnsAt address (turns postings)).length ≤ ids.length →
          ((turnsAt address (turns postings)).map Prod.snd).Nodup) := by
  have places := history.place_eq
  have different : ((turnsAt address (turns postings)).map Prod.snd).Nodup ↔
      (turnsAt address (turns postings)).Pairwise fun later earlier =>
        ¬ later.1 ≡ earlier.1 [MOD ids.length] := by
    rw [List.Nodup, List.pairwise_map]
    refine List.Pairwise.iff_of_mem fun {later earlier} one other => not_congr ?_
    rw [places later one, places earlier other]
    exact ⟨Nat.ModEq.add_left_cancel' _, Nat.ModEq.add_left _⟩
  refine ⟨places, different, fun alone few => different.2 ?_⟩
  rw [length_turnsAt alone] at few
  have below := turnsAt_lt address (turns postings)
  have descend := turnsAt_descend address (turns postings)
  refine descend.imp_of_mem fun {later earlier} one other less => ?_
  rw [Nat.ModEq, Nat.mod_eq_of_lt (Nat.lt_of_lt_of_le (below later one) few),
    Nat.mod_eq_of_lt (Nat.lt_of_lt_of_le (below earlier other) few)]
  exact Nat.ne_of_gt less

end History

/-- Two consumers at one address and one at another; a message to the first address, one to the
other, and one to the first again. -/
def crossing : Program :=
  .consume "a" "one" (fun _ => .finish .done) fun _ =>
  .consume "a" "two" (fun _ => .finish .done) fun _ =>
  .consume "b" "three" (fun _ => .finish .done) fun _ =>
  .dispatch ⟨"a", .text "", none⟩ .toOne fun _ =>
  .dispatch ⟨"b", .text "", none⟩ .toOne fun _ =>
  .dispatch ⟨"a", .text "", none⟩ .toOne fun _ => .finish .done

/-- The moment at which all three consumers are there. -/
def crossed : Traffic := ((Traffic.new (.new default 0)).start crossing).run 3

/-- Both consumers of the first address stay where they are. -/
theorem staffed_crossed : ∀ taken < 12, Staffed "a" [1, 2] (crossed.run taken) := by
  decide +kernel

/-- With a message to another address in between, one consumer has both turns. -/
theorem History.rotates_crossed :
    let those := turnsAt "a" (turns (crossed.postingsOf 12))
    (∀ taken < 12, Staffed "a" [1, 2] (crossed.run taken)) ∧
      (∀ turn ∈ those, turn.2 = (crossed.bus.turn + turn.1) % 2) ∧
      ((those.map Prod.snd).Nodup ↔
        those.Pairwise fun later earlier => ¬ later.1 ≡ earlier.1 [MOD 2]) := by
  obtain ⟨places, different, -⟩ := (history_run _ 12 crossed staffed_crossed).rotates
  exact ⟨staffed_crossed, places, different⟩

/-- Both messages to the first address go to the first of its two consumers. -/
theorem crossed_starves :
    (∀ taken < 12, Staffed "a" [1, 2] (crossed.run taken)) ∧
      (turnsAt "a" (turns (crossed.postingsOf 12))).map Prod.snd = [0, 0] :=
  ⟨staffed_crossed, by decide +kernel⟩

end Traffic

end CausalTrace
