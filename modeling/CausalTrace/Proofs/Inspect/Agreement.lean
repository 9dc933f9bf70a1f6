import CausalTrace.Proofs.Inspect.Ancestry
import Mathlib.Data.List.Chain

/-!
# The index and a scan agree

A message id is looked up through an index entry that was set down once.  A scan over all records
finds the first sent one with that id.  Where failed commits leave no trace the two answers are the
same: the entry was applied with the first such record, no batch after it sets the entry down again,
and every later record has a greater number.

A store that takes a batch and denies it would break this.  Its writer does not know of the entry
and sets it down again for the next record of the same message, so the index then leads past the
first one.

A chain goes from each record to what its first parent is looked up as, so that each record of it is
among the children of the next.
-/

namespace CausalTrace

/-- A property of stores that lasts, and under which a commit that does not succeed
leaves no trace. -/
structure Truthful {σ : Type} [Store σ] [AtomicStore σ] (honest : σ → Prop) : Prop where
  arrive {store : σ} : honest store → honest (Store.arrive store)
  commit {store after : σ} {batch : Batch} {answer : CommitAnswer} :
    honest store → Store.commit store batch = (answer, after) → honest after
  untouched {store after : σ} {contents : Contents} {batch : Batch} {answer : CommitAnswer} :
    honest store → AtomicStore.Holds store contents →
      Store.commit store batch = (answer, after) → answer ≠ .done →
        AtomicStore.Holds after contents

/-- A store in memory that never denies a batch which it has taken. -/
theorem UnreliableStore.truthful :
    Truthful fun store : UnreliableStore => ∀ turn failure, store.plan turn ≠ .deny failure where
  arrive honest := honest
  commit {store after batch answer} honest committed := by
    have same : (store.commit batch).2.plan = store.plan := by
      simp only [UnreliableStore.commit]
      split
      · rfl
      · rfl
      · rfl
      · split <;> rfl
    change store.commit batch = _ at committed
    rw [committed] at same
    exact same ▸ honest
  untouched {store after contents batch answer} honest holds committed failed := by
    change store.commit batch = _ at committed
    simp only [UnreliableStore.commit] at committed
    split at committed
    next =>
      cases committed
      exact holds
    next =>
      cases committed
      exact holds
    next =>
      rcases store.memory.commit_cases batch with refused | ⟨taken, accepted, -⟩
      · rw [refused] at committed
        cases committed
        exact holds
      · rw [accepted] at committed
        cases committed
        exact absurd rfl failed
    next denial denies => exact absurd denies (honest _ _)

namespace Inspect

variable {contents : Contents}

/-! ## Chains -/

/-- A record that some message is looked up as. -/
def LookedUp (contents : Contents) (record : Record) : Prop :=
  ∃ messageId, lookup contents messageId = .ok (some record)

/-- A walk that is not empty begins with what its message is looked up as. -/
theorem lookup_of_chainFrom {unseen : List MessageId} {messageId : MessageId} {first : Record}
    {older : List Record} (walked : chainFrom contents unseen messageId = .ok (first :: older)) :
    lookup contents messageId = .ok (some first) := by
  unfold chainFrom at walked
  split at walked
  next =>
    split at walked
    next => cases walked
    next => cases walked
    next found there =>
      rw [there]
      split at walked
      next =>
        cases walked
        rfl
      next parent _ _ =>
        cases above : chainFrom contents (others unseen messageId) parent with
        | error failure =>
          rw [above] at walked
          cases walked
        | ok rest =>
          rw [above] at walked
          cases walked
          rfl
  next => cases walked

/-- In a walk every record is looked up, and each but the first as the first parent of
the one before it. -/
theorem chainFrom_linked {unseen : List MessageId} {messageId : MessageId} {walk : List Record}
    (walked : chainFrom contents unseen messageId = .ok walk) :
    walk.IsChain fun younger older => LookedUp contents younger ∧
      ∃ parent others, younger.parents = parent :: others ∧
        lookup contents parent = .ok (some older) := by
  induction unseen, messageId using chainFrom.induct contents generalizing walk with
  | case1 unseen messageId known failure failed =>
    rw [chainFrom, dif_pos known, failed] at walked
    cases walked
  | case2 unseen messageId known none =>
    rw [chainFrom, dif_pos known, none] at walked
    cases walked
    exact .nil
  | case3 unseen messageId known record found start =>
    rw [chainFrom, dif_pos known, found] at walked
    simp only [start] at walked
    cases walked
    exact .singleton _
  | case4 unseen messageId known record found parent others descends ih =>
    rw [chainFrom, dif_pos known, found] at walked
    simp only [descends] at walked
    cases above : chainFrom contents (Inspect.others unseen messageId) parent with
    | error failure =>
      rw [above] at walked
      cases walked
    | ok older =>
      rw [above] at walked
      cases walked
      -- The rest of the walk begins with what the parent is looked up as.
      cases older with
      | nil => exact .singleton _
      | cons first rest =>
        exact .cons_cons
          ⟨⟨messageId, found⟩, parent, others, descends, lookup_of_chainFrom above⟩ (ih above)
  | case5 unseen messageId unknown =>
    rw [chainFrom, dif_neg unknown] at walked
    cases walked
    exact .nil

/-! ## What agrees -/

/-- Questions that are answered through the index have the answers of a scan. -/
structure QueriesAgree (contents : Contents) : Prop where
  /-- A message is looked up as the first sent record that has its id. -/
  lookup : ∃ all, records contents = .ok all ∧ ∀ messageId, messageId ≠ "" →
    Inspect.lookup contents messageId = .ok (all.find? fun record =>
      record.direction = .sent && record.messageId = messageId)
  /-- Of two successive records of a chain the second is what the first parent of the first is
  looked up as, and the first is a child of the second. -/
  chain : ∀ messageId, ∃ walk, Inspect.chain contents messageId = .ok walk ∧
    walk.IsChain fun younger older =>
      (∃ parent others, younger.parents = parent :: others ∧
        Inspect.lookup contents parent = .ok (some older)) ∧
      ∃ found, children contents older.messageId = .ok found ∧ younger ∈ found

/-- Among records in the order of their numbers, the first of a kind is the one with the
smallest number. -/
theorem find?_least {all : List Record} (ascending : (all.map Record.id).Pairwise (· ≤ ·))
    {kind : Record → Bool} {first : Record} (present : first ∈ all) (isKind : kind first = true)
    (least : ∀ record ∈ all, kind record = true → first.id ≤ record.id)
    (alone : ∀ record ∈ all, record.id = first.id → record = first) :
    all.find? kind = some first := by
  cases found : all.find? kind with
  | none => exact absurd isKind (List.find?_eq_none.1 found first present)
  | some record =>
    obtain ⟨recordIsKind, before, behind, rfl, others⟩ :=
      List.find?_eq_some_iff_append.1 found
    rw [List.pairwise_map] at ascending
    have notBehind : record.id ≤ first.id := by
      rcases List.mem_append.1 present with earlier | later
      · exact absurd isKind (by simpa using others first earlier)
      · rcases List.mem_cons.1 later with rfl | last
        · exact UInt64.le_refl _
        · exact (List.pairwise_cons.1 (List.pairwise_append.1 ascending).2.1).1 first last
    have among : record ∈ before ++ record :: behind := by simp
    rw [alone record among (UInt64.le_antisymm notBehind (least record among recordIsKind))]

end Inspect

namespace Writer

open Inspect

/-! ## What a call preserves -/

section Atomic

variable {σ : Type} [Store σ] [AtomicStore σ] {honest : σ → Prop} {store after : σ}
  {contents : Contents} {batch : Batch} {settlement : Settlement}

/-- What a truthful store holds after the attempts for a batch: the batch if it was acknowledged,
and else what it held before. -/
theorem tryCommit_truthful (truthful : Truthful honest) {left : Nat} (isHonest : honest store)
    (holds : AtomicStore.Holds store contents)
    (tried : tryCommit batch left store = (settlement, after)) :
    honest after ∧ (settlement = .stored ∧ AtomicStore.Holds after (contents.apply batch) ∨
      settlement ≠ .stored ∧ AtomicStore.Holds after contents) := by
  have arrived := truthful.arrive isHonest
  have held := AtomicStore.holdsArrive holds
  fun_induction tryCommit batch left store with
  | case1 left store taken committed =>
    cases tried
    exact ⟨truthful.commit arrived committed, .inl ⟨rfl, AtomicStore.holdsDone held committed⟩⟩
  | case2 left store taken committed =>
    cases tried
    exact ⟨truthful.commit arrived committed,
      .inr ⟨by simp, truthful.untouched arrived held committed (by simp)⟩⟩
  | case3 store failure taken committed =>
    cases tried
    exact ⟨truthful.commit arrived committed,
      .inr ⟨by simp, truthful.untouched arrived held committed (by simp)⟩⟩
  | case4 store failure taken committed left ih =>
    have still := truthful.commit arrived committed
    have kept := truthful.untouched arrived held committed (by simp)
    exact ih still kept tried (truthful.arrive still) (AtomicStore.holdsArrive kept)

end Atomic

variable {writer : Writer} {contents : Contents} {event : Event}

/-- The writer knows of every index entry, and an entry has the smallest number of all sent
records of its message. -/
structure Leads (writer : Writer) (contents : Contents) : Prop where
  known : ∀ messageId, (contents.get? Record.indexPartition messageId).isSome = true →
    writer.index.contains messageId = true
  first : ∀ record : Record, Stored contents record → record.isIndexable = true →
    ∀ id : RecordId, contents.get? Record.indexPartition record.messageId
      = some (Utf8.encode id.key) → id ≤ record.id

/-- A new writer leads nowhere, and there are no entries to lead on. -/
theorem Leads.new {attempts : Nat} (noRecords : contents.keys Record.partition = [])
    (noEntries : contents.keys Record.indexPartition = []) : Leads (.new attempts) contents where
  known messageId present := by
    have among := Contents.mem_keys_iff.2 present
    rw [noEntries] at among
    cases among
  first record stored := by
    have among := Contents.mem_keys_iff.2 (Option.isSome_of_eq_some stored)
    rw [noRecords] at among
    cases among

/-- An event that was let go without a trace changes nothing. -/
theorem Leads.passed (leads : Leads writer contents) : Leads writer.passed contents where
  known := leads.known
  first := leads.first

/-- The number in an index entry was given out. -/
theorem Agrees.entry_lt (agrees : writer.Agrees contents) {messageId : MessageId} {id : RecordId}
    (entry : contents.get? Record.indexPartition messageId = some (Utf8.encode id.key)) :
    id < writer.next := by
  obtain ⟨record, -, -, same, stored⟩ := agrees.entries messageId _ entry
  have keys := congrArg Utf8.decode? same
  rw [Utf8.decode?_encode, Utf8.decode?_encode, Option.some.injEq] at keys
  obtain ⟨other, smaller, here, -⟩ := agrees.records _ _ stored
  rw [RecordId.key_injective (keys.trans here)]
  exact smaller

/-- An acknowledged record comes behind all others, and its entry is its own or an older one. -/
theorem Leads.acknowledged (leads : Leads writer contents) (agrees : writer.Agrees contents)
    (numbered : writer.next < writer.next + 1) :
    Leads (writer.acknowledged event) (contents.apply (writer.batch event)) where
  known messageId present := by
    rw [contains_acknowledged]
    rw [get?_apply_batch_entry] at present
    split at present
    next due =>
      have needed := due.1
      rw [Index.needs, Bool.and_eq_true] at needed
      exact .inr ⟨needed.1, due.2⟩
    next => exact .inl (leads.known messageId present)
  first record stored indexable id entry := by
    have agreed : (writer.acknowledged event).Agrees (contents.apply (writer.batch event)) :=
      agrees.acknowledged numbered
    have given := agreed.entry_lt entry
    rw [Stored, get?_apply_batch_record] at stored
    split at stored
    next same =>
      -- The record is the new one, and no number is greater than its own.
      have last : record.id = writer.next := RecordId.key_injective same.symm
      have next : (writer.acknowledged event).next = writer.next + 1 := rfl
      rw [next, UInt64.lt_iff_toNat_lt] at given
      rw [UInt64.lt_iff_toNat_lt] at numbered
      rw [last, UInt64.le_iff_toNat_le]
      rw [UInt64.toNat_add, UInt64.toNat_one] at given numbered
      omega
    next =>
      have before := leads.known record.messageId (agrees.indexed record indexable stored)
      rw [get?_apply_batch_entry, if_neg] at entry
      · exact leads.first record stored indexable id entry
      · rintro ⟨due, same⟩
        simp [Index.needs, same, before] at due

/-! ## Every run -/

/-- What is looked up through the index is what a scan finds. -/
theorem Agrees.lookup_eq_find? (agrees : writer.Agrees contents) (leads : Leads writer contents)
    {all : List Record} (ascending : (all.map Record.id).Pairwise (· ≤ ·))
    (listed : ∀ record, record ∈ all ↔ Stored contents record) {messageId : MessageId}
    (named : messageId ≠ "") :
    lookup contents messageId = .ok (all.find? fun record =>
      record.direction = .sent && record.messageId = messageId) := by
  have indexable {record : Record}
      (isKind : (record.direction = .sent && record.messageId = messageId : Bool) = true) :
      record.isIndexable = true ∧ record.messageId = messageId := by
    simp only [Bool.and_eq_true, decide_eq_true_eq] at isKind
    exact ⟨Record.isIndexable_iff.2 ⟨isKind.1, isKind.2 ▸ named⟩, isKind.2⟩
  rcases agrees.lookup_cases messageId with none | ⟨record, found, -, same, sent, stored⟩
  · rw [none, List.find?_eq_none.2]
    intro record among isKind
    obtain ⟨sent, rfl⟩ := indexable isKind
    have entry := agrees.indexed record sent ((listed record).1 among)
    obtain ⟨value, there⟩ := Option.isSome_iff_exists.1 entry
    obtain ⟨other, -, -, rfl, stored⟩ := agrees.entries _ value there
    rw [lookup_entry there stored] at none
    cases none
  · rw [found, find?_least ascending ((listed record).2 stored) (by simp [same, sent])]
    · intro other among isKind
      obtain ⟨sentToo, sameToo⟩ := indexable isKind
      refine leads.first other ((listed other).1 among) sentToo record.id ?_
      -- The entry is the one that led to the record.
      cases there : contents.get? Record.indexPartition messageId with
      | none =>
        rw [lookup, locate, there] at found
        cases found
      | some value =>
        obtain ⟨entered, -, -, rfl, held⟩ := agrees.entries messageId value there
        rw [lookup_entry there held, Except.ok.injEq, Option.some.injEq] at found
        rw [sameToo, there, found]
    · intro other among number
      have there := (listed other).1 among
      rw [Stored, number, stored, Option.some.injEq] at there
      have decoded := congrArg Record.decode? there
      rw [Record.decode?_encode, Record.decode?_encode, Option.some.injEq] at decoded
      exact decoded.symm

/-- No walk meets a document that is not a record. -/
theorem Agrees.chainFrom_ok (agrees : writer.Agrees contents) (unseen : List MessageId)
    (messageId : MessageId) : ∃ walk, chainFrom contents unseen messageId = .ok walk := by
  induction unseen, messageId using chainFrom.induct contents with
  | case1 unseen messageId known failure failed =>
    rcases agrees.lookup_cases messageId with none | ⟨record, found, -⟩
    · rw [failed] at none
      cases none
    · rw [failed] at found
      cases found
  | case2 unseen messageId known none => exact ⟨[], by rw [chainFrom, dif_pos known, none]⟩
  | case3 unseen messageId known record found start =>
    exact ⟨[record], by rw [chainFrom, dif_pos known, found]; simp only [start]⟩
  | case4 unseen messageId known record found parent others descends ih =>
    obtain ⟨older, above⟩ := ih
    refine ⟨record :: older, ?_⟩
    rw [chainFrom, dif_pos known, found]
    simp only [descends, above]
    rfl
  | case5 unseen messageId unknown => exact ⟨[], by rw [chainFrom, dif_neg unknown]⟩

/-- Where records and entries agree with a writer, all queries agree with each other. -/
theorem Agrees.queries (agrees : writer.Agrees contents) (leads : Leads writer contents) :
    QueriesAgree contents := by
  obtain ⟨all, read, ascending, listed⟩ := agrees.records_ascending
  refine ⟨⟨all, read, fun messageId named =>
    agrees.lookup_eq_find? leads ascending listed named⟩, fun messageId => ?_⟩
  obtain ⟨walk, walked⟩ := agrees.chainFrom_ok (contents.keys Record.indexPartition) messageId
  refine ⟨walk, walked, (chainFrom_linked walked).imp ?_⟩
  rintro younger older ⟨⟨own, found⟩, parent, others, descends, above⟩
  refine ⟨⟨parent, others, descends, above⟩, _, by rw [children, read]; rfl, ?_⟩
  obtain ⟨-, sent, stored⟩ := agrees.lookup_some found
  obtain ⟨rfl, -, -⟩ := agrees.lookup_some above
  rw [List.mem_filter]
  exact ⟨(listed younger).2 stored, by simp [sent, descends]⟩

variable {σ : Type} [Store σ] [AtomicStore σ] {attempts : Nat} {start store : σ}
  {past : List (Event × Settlement)}

/-- After every call on a truthful store the index leads to first records. -/
theorem Runs.leads {honest : σ → Prop} (truthful : Truthful honest) (isHonest : honest start)
    (run : Runs attempts start past writer store) (holds : AtomicStore.Holds start contents)
    (noRecords : contents.keys Record.partition = [])
    (noEntries : contents.keys Record.indexPartition = []) (numbered : past.length + 1 < 2 ^ 64) :
    honest store ∧ ∃ contents, AtomicStore.Holds store contents ∧ writer.Agrees contents ∧
      Leads writer contents := by
  induction run with
  | new => exact ⟨isHonest, contents, holds, .new noRecords noEntries, .new noRecords noEntries⟩
  | @persist past writer store event settlement after later prior survived written ih =>
    rw [List.length_append, List.length_singleton] at numbered
    obtain ⟨still, contents, before, agrees, leads⟩ := ih (by omega)
    have following : writer.next < writer.next + 1 := by
      rw [UInt64.lt_iff_toNat_lt, UInt64.toNat_add, UInt64.toNat_one, prior.toNat_next (by omega)]
      omega
    obtain ⟨tried, rfl⟩ := persist_eq written
    obtain ⟨lasts, ⟨rfl, applied⟩ | ⟨failed, kept⟩⟩ :=
      tryCommit_truthful truthful still before tried
    · exact ⟨lasts, _, applied, agrees.acknowledged following, leads.acknowledged agrees following⟩
    · cases settlement with
      | stored => exact absurd rfl failed
      | abandoned failure => exact ⟨lasts, _, kept, agrees.passed following, leads.passed⟩
      | lost => exact absurd rfl survived

/-- Whatever commits fail, if those that do leave no trace: after every call, also one that the
writer does not survive, a message is looked up as its first sent record, and a chain goes up
through first parents and down through children. -/
theorem Runs.queriesAgree {honest : σ → Prop} (truthful : Truthful honest)
    (isHonest : honest start) (run : Runs attempts start past writer store)
    (holds : AtomicStore.Holds start contents) (noRecords : contents.keys Record.partition = [])
    (noEntries : contents.keys Record.indexPartition = []) (numbered : past.length + 1 < 2 ^ 64) :
    (∃ contents, AtomicStore.Holds store contents ∧ QueriesAgree contents) ∧
      ∀ event after later, writer.persist store event = (.lost, after, later) →
        ∃ contents, AtomicStore.Holds later contents ∧ QueriesAgree contents := by
  obtain ⟨still, contents, held, agrees, leads⟩ :=
    run.leads truthful isHonest holds noRecords noEntries numbered
  have agree := agrees.queries leads
  refine ⟨⟨contents, held, agree⟩, fun event after later written => ?_⟩
  obtain ⟨-, ⟨stored, -⟩ | ⟨-, kept⟩⟩ :=
    tryCommit_truthful truthful still held (persist_eq written).1
  · cases stored
  · exact ⟨contents, kept, agree⟩

/-- A refused commit, then the same message twice, then an answer to it that is recorded before the
writer is brought down. -/
theorem Runs.queriesAgree_afterRefusal :
    let asks : Event := ⟨⟨"a", none, .empty, "b"⟩, some ⟨"m", [], none⟩, .sent, 0⟩
    let answers : Event := ⟨⟨"b", none, .empty, "b"⟩, some ⟨"n", ["m"], none⟩, .sent, 0⟩
    let start : UnreliableStore :=
      ⟨"", .new, Outcome.plan [.refuse .closed, .accept, .accept, .accept, .collapse] false, 0, 0,
        false, none⟩
    let first := (Writer.new 1).persist start asks
    let second := first.2.1.persist first.2.2 asks
    let third := second.2.1.persist second.2.2 asks
    let fourth := third.2.1.persist third.2.2 answers
    let last := fourth.2.1.persist fourth.2.2 asks
    [first.1, second.1, third.1, fourth.1, last.1] =
        [.abandoned .closed, .stored, .stored, .stored, .lost] ∧
      (∃ contents, AtomicStore.Holds fourth.2.2 contents ∧ QueriesAgree contents) ∧
      ∃ contents, AtomicStore.Holds last.2.2 contents ∧ QueriesAgree contents := by
  intro asks answers start first second third fourth last
  have one : Runs 1 start [(asks, first.1)] first.2.1 first.2.2 := .persist .new nofun rfl
  have two : Runs 1 start [(asks, first.1), (asks, second.1)] second.2.1 second.2.2 :=
    .persist one nofun rfl
  have three : Runs 1 start [(asks, first.1), (asks, second.1), (asks, third.1)] third.2.1
      third.2.2 := .persist two nofun rfl
  have four : Runs 1 start [(asks, first.1), (asks, second.1), (asks, third.1),
      (answers, fourth.1)] fourth.2.1 fourth.2.2 := .persist three nofun rfl
  have honest : ∀ turn failure, start.plan turn ≠ .deny failure := by
    intro turn failure
    simp only [start, Outcome.plan]
    rcases turn with _ | _ | _ | _ | turn <;> simp
  have settled : [first.1, second.1, third.1, fourth.1, last.1] =
      [.abandoned .closed, .stored, .stored, .stored, .lost] := by decide +kernel
  have lost : last.1 = .lost := by decide +kernel
  have written : fourth.2.1.persist fourth.2.2 asks = (.lost, last.2.1, last.2.2) := by
    rw [← lost]
  obtain ⟨during, after⟩ :=
    four.queriesAgree UnreliableStore.truthful honest rfl rfl rfl (by simp)
  have behind := after asks last.2.1 last.2.2 written
  exact ⟨settled, during, behind⟩

end Writer

end CausalTrace
