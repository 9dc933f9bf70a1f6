import CausalTrace.Proofs.Writing.Batches
import CausalTrace.Proofs.Writing.Runs

/-!
# What an acknowledgement promises

A writer may try a batch several times, and any of its attempts may have been applied, the failed
ones too.  What its store holds in the end does not tell how many were: a batch that is applied
again changes nothing.  An acknowledged record therefore stays what it is.  Its number is used for
no other event, and its index entry is set down at the latest with the acknowledgement and by no
batch after it.

`Tries` notes the attempts for one batch, `Noted` the calls of a run with their attempts; every run
on an atomic store can be noted.
-/

namespace CausalTrace

/-- Contents after a batch was applied or was not. -/
def Contents.applyIf (contents : Contents) (applied : Bool) (batch : Batch) : Contents :=
  if applied then contents.apply batch else contents

/-- A batch that is applied again changes nothing, so it matters only whether it was
applied at all. -/
theorem Contents.applyIf_applyIf (contents : Contents) (first second : Bool) (batch : Batch) :
    (contents.applyIf first batch).applyIf second batch
      = contents.applyIf (first || second) batch := by
  cases first <;> cases second <;> simp [applyIf, apply_apply_self]

namespace Writer

/-! ## Attempts -/

section Tries

variable {σ : Type} [Store σ] [AtomicStore σ]

open AtomicStore

/-- The attempts to commit a batch, with what each did to the contents of the store: it applied the
batch or did not, and was acknowledged only if it did. -/
inductive Tries (batch : Batch) :
    Nat → σ → Contents → List Bool → Settlement → σ → Contents → Prop where
  | stored {left store contents after}
      (committed : Store.commit (Store.arrive store) batch = (.done, after))
      (holds : Holds after (contents.applyIf true batch)) :
      Tries batch left store contents [true] .stored after (contents.applyIf true batch)
  | abandoned {store contents failure after} (applied : Bool)
      (committed : Store.commit (Store.arrive store) batch = (.failed failure, after))
      (holds : Holds after (contents.applyIf applied batch)) :
      Tries batch 0 store contents [applied] (.abandoned failure) after
        (contents.applyIf applied batch)
  | again {left store contents failure between applications settlement after found}
      (applied : Bool)
      (committed : Store.commit (Store.arrive store) batch = (.failed failure, between))
      (holds : Holds between (contents.applyIf applied batch))
      (rest : Tries batch left between (contents.applyIf applied batch) applications settlement
        after found) :
      Tries batch (left + 1) store contents (applied :: applications) settlement after found

variable {batch : Batch} {left : Nat} {store after : σ} {contents found : Contents}
  {applications : List Bool} {settlement : Settlement}

/-- The attempts are those of the writer. -/
theorem Tries.tryCommit
    (tries : Tries batch left store contents applications settlement after found) :
    Writer.tryCommit batch left store = (settlement, after) := by
  induction tries with
  | stored committed holds =>
    unfold Writer.tryCommit
    simp only [committed]
  | abandoned applied committed holds =>
    unfold Writer.tryCommit
    simp only [committed]
  | again applied committed holds rest ih =>
    unfold Writer.tryCommit
    simp only [committed, ih]

/-- The store holds what the attempts are said to leave. -/
theorem Tries.holds
    (tries : Tries batch left store contents applications settlement after found) :
    Holds after found := by
  induction tries with
  | stored committed holds => exact holds
  | abandoned applied committed holds => exact holds
  | again applied committed holds rest ih => exact ih

/-- Attempts that can be noted are not those of a store that broke down. -/
theorem Tries.survived
    (tries : Tries batch left store contents applications settlement after found) :
    settlement ≠ .lost := by
  induction tries with
  | stored committed holds => exact nofun
  | abandoned applied committed holds => exact nofun
  | again applied committed holds rest ih => exact ih

/-- What the attempts leave depends on whether any of them was applied. -/
theorem Tries.found_eq
    (tries : Tries batch left store contents applications settlement after found) :
    found = contents.applyIf (applications.any id) batch := by
  induction tries with
  | stored committed holds => rfl
  | abandoned applied committed holds => rw [List.any_cons, List.any_nil, Bool.or_false, id]
  | again applied committed holds rest ih =>
    rw [ih, Contents.applyIf_applyIf, List.any_cons, id]

/-- Where an attempt was acknowledged, one was applied. -/
theorem Tries.applied_of_stored
    (tries : Tries batch left store contents applications settlement after found)
    (done : settlement = .stored) : applications.any id = true := by
  induction tries with
  | stored committed holds => rfl
  | abandoned applied committed holds => cases done
  | again applied committed holds rest ih => rw [List.any_cons, ih done, Bool.or_true]

/-- An attempt that failed has applied the batch or has not. -/
theorem exists_applyIf {failure : StoreError} (held : Holds store contents)
    (committed : Store.commit (Store.arrive store) batch = (.failed failure, after)) :
    ∃ applied, Holds after (contents.applyIf applied batch) := by
  rcases holdsFailed (holdsArrive held) committed with kept | applied
  · exact ⟨false, kept⟩
  · exact ⟨true, applied⟩

/-- Whatever a writer tried and survived, its attempts can be noted. -/
theorem exists_tries (held : Holds store contents) (survived : settlement ≠ .lost)
    (tried : Writer.tryCommit batch left store = (settlement, after)) :
    ∃ applications found, Tries batch left store contents applications settlement after found := by
  fun_induction Writer.tryCommit batch left store generalizing contents with
  | case1 left store taken committed =>
    cases tried
    exact ⟨_, _, .stored committed (holdsDone (holdsArrive held) committed)⟩
  | case2 left store taken committed =>
    cases tried
    exact absurd rfl survived
  | case3 store failure taken committed =>
    cases tried
    obtain ⟨applied, holds⟩ := exists_applyIf held committed
    exact ⟨_, _, .abandoned applied committed holds⟩
  | case4 store failure taken committed left ih =>
    obtain ⟨applied, holds⟩ := exists_applyIf held committed
    obtain ⟨applications, found, rest⟩ := ih holds tried
    exact ⟨_, _, .again applied committed holds rest⟩

end Tries

/-! ## Calls -/

/-- A call of a writer: its event, the number it used, which of its attempts were applied, and
how it was settled. -/
structure Call where
  event : Event
  number : RecordId
  applications : List Bool
  settlement : Settlement

/-- What matters of a call for the contents of a store. -/
structure Fate where
  event : Event
  /-- Some attempt was applied. -/
  applied : Bool
  /-- The last attempt was acknowledged. -/
  acknowledged : Bool

namespace Call

/-- What the caller was told. -/
def result (call : Call) : Except TraceError RecordId :=
  call.settlement.result call.number

/-- The record that the call tried to store. -/
def record (call : Call) : Record :=
  .ofEvent call.number call.event

/-- The call as runs list it. -/
def outcome (call : Call) : Event × Settlement := (call.event, call.settlement)

def fate (call : Call) : Fate :=
  ⟨call.event, call.applications.any id, call.settlement == .stored⟩

/-- The numbers that were returned, in the order of the calls. -/
def returned (calls : List Call) : List RecordId :=
  calls.filterMap fun call => call.result.toOption

/-- Whether a call acknowledged a sent record of a message id. -/
def introduces (messageId : MessageId) (call : Call) : Bool :=
  call.settlement == .stored && (call.record.isIndexable && call.record.messageId == messageId)

/-- The first call that acknowledged a sent record of a message id. -/
def first? (calls : List Call) (messageId : MessageId) : Option Call :=
  calls.find? (introduces messageId)

/-- A caller was given a number if and only if its event was acknowledged under it. -/
theorem result_ok_iff {call : Call} {id : RecordId} :
    call.result = .ok id ↔ call.settlement = .stored ∧ call.number = id := by
  cases settled : call.settlement <;> simp [result, settled, Settlement.result]

/-- The number that a call returned is the one that it used. -/
theorem toOption_result_iff {call : Call} {id : RecordId} :
    call.result.toOption = some id ↔ call.settlement = .stored ∧ call.number = id := by
  rw [← result_ok_iff]
  cases call.result <;> simp [Except.toOption]

/-- A call introduces a message id if it acknowledged a sent record of it. -/
theorem introduces_iff {messageId : MessageId} {call : Call} :
    call.introduces messageId = true ↔ call.settlement = .stored ∧
      call.record.isIndexable = true ∧ call.record.messageId = messageId := by
  simp [introduces]

/-- A later call introduces a message id only if none before it did. -/
theorem first?_concat (calls : List Call) (last : Call) (messageId : MessageId) :
    first? (calls ++ [last]) messageId = (first? calls messageId).or
      (if last.introduces messageId then some last else none) := by
  rw [first?, first?, List.find?_append, List.find?_singleton]

/-- A message id stays introduced, and the last call may introduce it. -/
theorem isSome_first?_concat (calls : List Call) (last : Call) (messageId : MessageId) :
    (first? (calls ++ [last]) messageId).isSome = true ↔
      (first? calls messageId).isSome = true ∨ last.introduces messageId = true := by
  rw [first?_concat, Option.isSome_or, Bool.or_eq_true]
  split <;> simp [*]

end Call

section Noted

variable {σ : Type} [Store σ] [AtomicStore σ]

open AtomicStore

/-- The calls that a new writer has made so far, with their attempts, and what they left of the
writer, its store and the contents of the store. -/
inductive Noted (attempts : Nat) (start : σ) (base : Contents) :
    List Call → Writer → σ → Contents → Prop where
  | new (holds : Holds start base) : Noted attempts start base [] (.new attempts) start base
  | persist {past writer store contents event applications settlement after later found}
      (prior : Noted attempts start base past writer store contents)
      (written : writer.persist store event = (settlement, after, later))
      (tries : Tries (writer.batch event) (writer.attempts - 1) store contents applications
        settlement later found) :
      Noted attempts start base (past ++ [⟨event, writer.next, applications, settlement⟩]) after
        later found

variable {attempts : Nat} {start store : σ} {base contents : Contents} {calls : List Call}
  {writer : Writer}

/-- The store holds what the calls are said to leave. -/
theorem Noted.holds (noted : Noted attempts start base calls writer store contents) :
    Holds store contents := by
  cases noted with
  | new holds => exact holds
  | persist prior written tries => exact tries.holds

/-- Every run can be noted. -/
theorem Runs.noted {past : List (Event × Settlement)} (run : Runs attempts start past writer store)
    (holds : Holds start base) :
    ∃ calls contents, Noted attempts start base calls writer store contents ∧
      calls.map Call.outcome = past := by
  induction run with
  | new => exact ⟨[], base, .new holds, rfl⟩
  | persist prior survived written ih =>
    obtain ⟨calls, contents, noted, rfl⟩ := ih
    obtain ⟨applications, found, tries⟩ :=
      exists_tries noted.holds survived (persist_eq written).1
    exact ⟨_, found, .persist noted written tries, by rw [List.map_append]; rfl⟩

/-! ## What the calls leave -/

/-- What holds of the calls made so far, the writer's memory and the contents of its store. -/
structure Recorded (calls : List Call) (writer : Writer) (contents : Contents) : Prop where
  next : writer.next = UInt64.ofNat (calls.length + 1)
  /-- Every call has used a number of its own. -/
  numbered : ∀ place (known : place < calls.length),
    calls[place].number = UInt64.ofNat (place + 1)
  /-- The writer knows the message ids of the sent records that were acknowledged. -/
  known : ∀ messageId, writer.index.contains messageId = true ↔
    (Call.first? calls messageId).isSome = true
  records : ∀ call ∈ calls, call.settlement = .stored →
    contents.get? Record.partition call.number.key = some call.record.encode
  entries : ∀ messageId call, Call.first? calls messageId = some call →
    contents.get? Record.indexPartition messageId = some (Utf8.encode call.number.key)

/-- A new writer has recorded nothing. -/
theorem Recorded.new (attempts : Nat) (base : Contents) : Recorded [] (.new attempts) base where
  next := rfl
  numbered place known := absurd known (Nat.not_lt_zero place)
  known messageId := Iff.rfl
  records call present := by cases present
  entries messageId call found := by cases found

section Call

variable (recorded : Recorded calls writer contents) (fits : calls.length + 1 < 2 ^ 64)

include recorded fits

/-- The numbers that were used are smaller than the next one. -/
theorem Recorded.number_lt {call : Call} (present : call ∈ calls) : call.number < writer.next := by
  obtain ⟨place, known, rfl⟩ := List.getElem_of_mem present
  rw [recorded.next, recorded.numbered place known, UInt64.lt_iff_toNat_lt,
    UInt64.toNat_ofNat_of_lt' (by omega : place + 1 < 2 ^ 64), UInt64.toNat_ofNat_of_lt' fits]
  omega

/-- A record that was acknowledged is not replaced by the next batch. -/
theorem Recorded.record_kept {call : Call} (present : call ∈ calls)
    (stored : call.settlement = .stored) (event : Event) (applied : Bool) :
    (contents.applyIf applied (writer.batch event)).get? Record.partition call.number.key
      = some call.record.encode := by
  have before := recorded.records call present stored
  cases applied with
  | false => exact before
  | true =>
    have other : writer.next.key ≠ call.number.key := by
      intro same
      have smaller := recorded.number_lt fits present
      rw [RecordId.key_injective same] at smaller
      exact UInt64.lt_irrefl _ smaller
    rw [Contents.applyIf, if_pos rfl, get?_apply_batch_record, if_neg other, before]

omit fits in
/-- The entry of an acknowledged record is not set down again: the writer knows it. -/
theorem Recorded.entry_kept {messageId : MessageId} {call : Call}
    (found : Call.first? calls messageId = some call) (event : Event) (applied : Bool) :
    (contents.applyIf applied (writer.batch event)).get? Record.indexPartition messageId
      = some (Utf8.encode call.number.key) := by
  have before := recorded.entries messageId call found
  cases applied with
  | false => exact before
  | true =>
    have known : writer.index.contains messageId = true := by
      rw [recorded.known, found]
      rfl
    rw [Contents.applyIf, if_pos rfl, get?_apply_batch_entry, if_neg, before]
    rintro ⟨needed, rfl⟩
    simp [Index.needs, known] at needed

/-- One more call, whatever became of it. -/
theorem Recorded.call {event : Event} {applications : List Bool} {settlement : Settlement}
    (survived : settlement ≠ .lost)
    (applied : settlement = .stored → applications.any id = true) :
    Recorded (calls ++ [⟨event, writer.next, applications, settlement⟩])
      (writer.settled event settlement)
      (contents.applyIf (applications.any id) (writer.batch event)) where
  next := by
    rw [next_settled survived, recorded.next, List.length_append, List.length_singleton,
      UInt64.ofNat_add (calls.length + 1) 1]
    rfl
  numbered place known := by
    rw [List.length_append, List.length_singleton] at known
    by_cases earlier : place < calls.length
    · rw [List.getElem_append_left earlier]
      exact recorded.numbered place earlier
    · have last : place = calls.length := by omega
      subst last
      rw [List.getElem_append_right (Nat.le_refl _)]
      simpa using recorded.next
  known messageId := by
    rw [Call.isSome_first?_concat, Call.introduces_iff, ← recorded.known]
    cases settlement with
    | stored =>
      refine (contains_acknowledged writer event messageId).trans (or_congr Iff.rfl ?_)
      exact ⟨fun sent => ⟨rfl, sent⟩, fun sent => sent.2⟩
    | abandoned failure => exact ⟨.inl, fun known => known.resolve_right nofun⟩
    | lost => exact absurd rfl survived
  records call present stored := by
    rcases List.mem_append.1 present with earlier | last
    · exact recorded.record_kept fits earlier stored event _
    · cases List.mem_singleton.1 last
      rw [applied stored, Contents.applyIf, if_pos rfl, get?_apply_batch_record, if_pos rfl]
      rfl
  entries messageId call found := by
    cases earlier : Call.first? calls messageId with
    | some first =>
      rw [Call.first?_concat, earlier] at found
      cases found
      exact recorded.entry_kept earlier event _
    | none =>
      rw [Call.first?_concat, earlier, Option.none_or, Option.ite_none_right_eq_some] at found
      obtain ⟨introduces, same⟩ := found
      cases same
      obtain ⟨stored, sent, named⟩ := Call.introduces_iff.1 introduces
      -- The writer does not know the id, so this call writes the entry.
      have new : ¬writer.index.contains messageId = true := by
        rw [recorded.known, earlier]
        exact nofun
      have needed : writer.index.needs (writer.record event) = true := by
        rw [Index.needs, Bool.and_eq_true, Bool.not_eq_true', Bool.eq_false_iff]
        exact ⟨sent, named.symm ▸ new⟩
      rw [applied stored, Contents.applyIf, if_pos rfl, get?_apply_batch_entry,
        if_pos ⟨needed, named⟩]

end Call

/-- Whatever calls can be noted are recorded in the contents that they leave. -/
theorem Noted.recorded (noted : Noted attempts start base calls writer store contents)
    (fits : calls.length < 2 ^ 64) : Recorded calls writer contents := by
  induction noted with
  | new holds => exact .new attempts base
  | persist prior written tries ih =>
    rw [List.length_append, List.length_singleton] at fits
    rw [(persist_eq written).2, tries.found_eq]
    exact (ih (by omega)).call fits tries.survived tries.applied_of_stored

/-! ## What the contents depend on -/

/-- What a call does to a writer and to contents, told from its fate alone. -/
def follow (state : Writer × Contents) (fate : Fate) : Writer × Contents :=
  (if fate.acknowledged then state.1.acknowledged fate.event else state.1.passed,
    state.2.applyIf fate.applied (state.1.batch fate.event))

/-- The fates of the calls determine what is left, with no word on the attempts. -/
theorem Noted.follow_fates (noted : Noted attempts start base calls writer store contents) :
    (calls.map Call.fate).foldl follow (.new 1, base)
      = (⟨writer.index, writer.next, 1⟩, contents) := by
  induction noted with
  | new holds => rfl
  | @persist past writer store contents event applications settlement after later found prior
      written tries ih =>
    rw [List.map_append, List.foldl_append, ih, (persist_eq written).2, tries.found_eq]
    cases settlement with
    | stored => rfl
    | abandoned failure => rfl
    | lost => exact absurd rfl tries.survived

/-- What holds of the calls of a run and the contents that they leave over those at its start. -/
structure Final (base : Contents) (calls : List Call) (contents : Contents) : Prop where
  /-- The numbers that are returned ascend. -/
  ascending : (Call.returned calls).Pairwise (· < ·)
  /-- No number is used for two calls. -/
  distinct : (calls.map Call.number).Nodup
  /-- Under a number that was returned there is the record of that event. -/
  record : ∀ call ∈ calls, ∀ id, call.result = .ok id →
    contents.get? Record.partition id.key = some (Record.ofEvent id call.event).encode
  /-- A message id leads to the first acknowledged of its sent records. -/
  entry : ∀ messageId call, Call.first? calls messageId = some call → ∀ id, call.result = .ok id →
    contents.get? Record.indexPartition messageId = some (Utf8.encode id.key)
  /-- Any other store, under any other attempts, is left with the same contents if the calls have
  the same fates. -/
  determined : ∀ {τ : Type} [Store τ] [AtomicStore τ] {attempts start others writer store found},
    Noted (σ := τ) attempts start base others writer store found →
      others.map Call.fate = calls.map Call.fate → found = contents

/-- The numbers of calls ascend, since none is used twice. -/
theorem Recorded.ascending (recorded : Recorded calls writer contents)
    (fits : calls.length < 2 ^ 64) : (calls.map Call.number).Pairwise (· < ·) := by
  rw [List.pairwise_map, List.pairwise_iff_getElem]
  intro earlier later earlierKnown laterKnown before
  rw [recorded.numbered earlier earlierKnown, recorded.numbered later laterKnown,
    UInt64.lt_iff_toNat_lt, UInt64.toNat_ofNat_of_lt' (by omega : earlier + 1 < 2 ^ 64),
    UInt64.toNat_ofNat_of_lt' (by omega : later + 1 < 2 ^ 64)]
  omega

/-- What the calls leave is final, as `Final` has it. -/
theorem Noted.leaves (noted : Noted attempts start base calls writer store contents)
    (fits : calls.length < 2 ^ 64) : Final base calls contents where
  ascending := by
    have ascending := (noted.recorded fits).ascending fits
    rw [List.pairwise_map] at ascending
    refine List.pairwise_filterMap.2 (ascending.imp fun smaller id returned other later => ?_)
    rw [← (Call.toOption_result_iff.1 returned).2, ← (Call.toOption_result_iff.1 later).2]
    exact smaller
  distinct := by
    refine List.Pairwise.imp ?_ ((noted.recorded fits).ascending fits)
    rintro number _ smaller rfl
    exact UInt64.lt_irrefl _ smaller
  record call present id returned := by
    obtain ⟨stored, rfl⟩ := Call.result_ok_iff.1 returned
    exact (noted.recorded fits).records call present stored
  entry messageId call found id returned := by
    obtain ⟨-, rfl⟩ := Call.result_ok_iff.1 returned
    exact (noted.recorded fits).entries messageId call found
  determined other same := by
    have left := other.follow_fates
    rw [same, noted.follow_fates] at left
    exact (congrArg Prod.snd left).symm

/-- Whatever attempts of a run fail, and whichever of the failed ones were applied: the numbers that
are returned ascend and no number is used twice, a record that was acknowledged is there after every
later call, the index leads to the first acknowledged sent record of a message id, and the contents
depend only on which events were applied at all and which were acknowledged. -/
theorem Runs.final {past : List (Event × Settlement)} (run : Runs attempts start past writer store)
    (holds : Holds start base) (fits : past.length < 2 ^ 64) :
    (∃ calls contents, Noted attempts start base calls writer store contents ∧
      calls.map Call.outcome = past) ∧
    ∀ calls contents, Noted attempts start base calls writer store contents →
      calls.map Call.outcome = past → Holds store contents ∧ Final base calls contents := by
  refine ⟨run.noted holds, ?_⟩
  rintro calls contents noted rfl
  rw [List.length_map] at fits
  exact ⟨noted.holds, noted.leaves fits⟩

end Noted

/-- Both attempts for a sent record are applied and reported as failed.  The record of the next
event with the same message id is acknowledged. -/
theorem Runs.final_afterDenials :
    let event : Event := ⟨⟨"a", none, .empty, "b"⟩, some ⟨"m", [], none⟩, .sent, 0⟩
    let start : UnreliableStore :=
      ⟨"", .new, Outcome.plan [.deny .closed, .deny .closed, .accept] false, 0, 0, false, none⟩
    let first := (Writer.new 2).persist start event
    let second := first.2.1.persist first.2.2 event
    let past := [(event, first.1), (event, second.1)]
    first.1 = .abandoned .closed ∧ second.1 = .stored ∧
      (∃ calls contents, Noted 2 start .empty calls second.2.1 second.2.2 contents ∧
        calls.map Call.outcome = past) ∧
      ∀ calls contents, Noted 2 start .empty calls second.2.1 second.2.2 contents →
        calls.map Call.outcome = past →
          AtomicStore.Holds second.2.2 contents ∧ Final .empty calls contents := by
  intro event start first second past
  have denied : first.1 = .abandoned .closed := rfl
  have stored : second.1 = .stored := rfl
  have one : Runs 2 start [(event, first.1)] first.2.1 first.2.2 :=
    .persist .new (by simp [denied]) rfl
  have two : Runs 2 start past second.2.1 second.2.2 :=
    .persist one (by simp [stored]) rfl
  exact ⟨denied, stored, two.final rfl (by simp [past])⟩

end Writer

end CausalTrace
