import CausalTrace.Proofs.Writing.Integrity

/-!
# The walk through first parents

A walk looks up a message, goes on to the first parent of the record that it finds, and so on.  It
ends at a record without parents or at a message of which there is no sent record.  `Inspect.chain`
also ends at a message that it has met before, so that cycles do no harm.  Where every record stands
behind those of its parents there are none, and the walk never ends for that reason.

This is about what a writer agrees with, as the index then leads to sent records alone.
-/

namespace CausalTrace

namespace Inspect

/-- The records of a walk that ends only where it can find no further one. -/
inductive Ancestry (contents : Contents) : MessageId → List Record → Prop where
  /-- There is no sent record of the message. -/
  | missing {messageId} (unknown : lookup contents messageId = .ok none) :
      Ancestry contents messageId []
  | root {messageId record} (found : lookup contents messageId = .ok (some record))
      (start : record.parents = []) : Ancestry contents messageId [record]
  | child {messageId record parent others older}
      (found : lookup contents messageId = .ok (some record))
      (descends : record.parents = parent :: others) (above : Ancestry contents parent older) :
      Ancestry contents messageId (record :: older)

/-- A record that stands under its number. -/
def Stored (contents : Contents) (record : Record) : Prop :=
  contents.get? Record.partition record.id.key = some record.encode

/-- Every record has a greater number than the sent records of its parents. -/
def BehindParents (contents : Contents) : Prop :=
  ∀ parent child, Stored contents parent → Stored contents child → parent.direction = .sent →
    parent.messageId ∈ child.parents → parent.id < child.id

/-- Records are found for all numbers for which there are some. -/
theorem recordsOf_readable {contents : Contents} {numbers : List RecordId}
    (readable : ∀ id ∈ numbers, ∃ record, record.id = id ∧ Stored contents record) :
    ∃ all, recordsOf contents numbers = .ok all ∧ all.map Record.id = numbers ∧
      ∀ record, record ∈ all ↔ record.id ∈ numbers ∧ Stored contents record := by
  induction numbers with
  | nil => exact ⟨[], rfl, rfl, fun record => by simp⟩
  | cons id rest ih =>
    obtain ⟨first, rfl, stored⟩ := readable id (.head _)
    obtain ⟨others, read, same, found⟩ := ih fun other known => readable other (.tail _ known)
    refine ⟨first :: others, ?_, congrArg _ same, fun record => ?_⟩
    · rw [recordsOf, record_stored stored]
      change (recordsOf contents rest >>= _) = _
      rw [read]
      rfl
    · rw [List.mem_cons, List.mem_cons, found, or_and_right]
      refine or_congr ⟨?_, ?_⟩ Iff.rfl
      · rintro rfl
        exact ⟨rfl, stored⟩
      · rintro ⟨same, there⟩
        rw [Stored, same, stored, Option.some.injEq] at there
        have decoded := congrArg Record.decode? there
        rw [Record.decode?_encode, Record.decode?_encode, Option.some.injEq] at decoded
        exact decoded.symm

/-- Under the keys of records there are only records, each under the key of its own number. -/
def HoldsRecords (contents : Contents) : Prop :=
  ∀ key value, contents.get? Record.partition key = some value →
    ∃ record : Record, key = record.id.key ∧ value = record.encode

/-- Then every stored record is listed, in the order of the numbers, and nothing else. -/
theorem HoldsRecords.records_ascending {contents : Contents} (holds : HoldsRecords contents) :
    ∃ all, records contents = .ok all ∧ all.map Record.id = ids contents ∧
      (all.map Record.id).Pairwise (· ≤ ·) ∧ ∀ record, record ∈ all ↔ Stored contents record := by
  have mem_ids (id : RecordId) :
      id ∈ ids contents ↔ ∃ record, record.id = id ∧ Stored contents record := by
    rw [ids, List.mem_mergeSort, List.mem_filterMap]
    constructor
    · rintro ⟨key, present, read⟩
      obtain ⟨value, found⟩ := Option.isSome_iff_exists.1 (Contents.mem_keys_iff.1 present)
      obtain ⟨record, rfl, rfl⟩ := holds key value found
      rw [RecordId.ofKey?_key, Option.some.injEq] at read
      exact ⟨record, read, found⟩
    · rintro ⟨record, rfl, stored⟩
      exact ⟨_, Contents.mem_keys_iff.2 (Option.isSome_of_eq_some stored), RecordId.ofKey?_key _⟩
  obtain ⟨all, read, same, found⟩ := recordsOf_readable fun id known => (mem_ids id).1 known
  refine ⟨all, read, same, same ▸ ids_ascending contents, fun record => (found record).trans
    ⟨And.right, fun stored => ⟨?_, stored⟩⟩⟩
  exact (mem_ids _).2 ⟨record, rfl, stored⟩

end Inspect

namespace Writer

open Inspect

variable {writer : Writer} {contents : Contents}

/-- Whatever agrees with a writer holds readable records only. -/
theorem Agrees.holdsRecords (agrees : writer.Agrees contents) : HoldsRecords contents := by
  intro key value found
  obtain ⟨record, -, here, stored⟩ := agrees.records key value found
  exact ⟨record, here, stored⟩

/-- Every stored record is listed, in the order of the numbers, and nothing else. -/
theorem Agrees.records_ascending (agrees : writer.Agrees contents) :
    ∃ all, Inspect.records contents = .ok all ∧ (all.map Record.id).Pairwise (· ≤ ·) ∧
      ∀ record, record ∈ all ↔ Stored contents record := by
  obtain ⟨all, read, -, ascending, found⟩ := agrees.holdsRecords.records_ascending
  exact ⟨all, read, ascending, found⟩

/-- Listing finds every stored record and nothing else. -/
theorem Agrees.records_ok (agrees : writer.Agrees contents) :
    ∃ all, Inspect.records contents = .ok all ∧
      ∀ record, record ∈ all ↔ Stored contents record := by
  obtain ⟨all, read, -, found⟩ := agrees.records_ascending
  exact ⟨all, read, found⟩

/-- A message is looked up in vain, or leads to its sent record. -/
theorem Agrees.lookup_cases (agrees : writer.Agrees contents) (messageId : MessageId) :
    lookup contents messageId = .ok none ∨ ∃ record, lookup contents messageId = .ok (some record) ∧
      messageId ∈ contents.keys Record.indexPartition ∧ record.messageId = messageId ∧
      record.direction = .sent ∧ Stored contents record := by
  cases found : contents.get? Record.indexPartition messageId with
  | none =>
    refine .inl ?_
    rw [lookup, locate, found]
    rfl
  | some value =>
    obtain ⟨record, indexable, same, rfl, stored⟩ := agrees.entries messageId value found
    exact .inr ⟨record, lookup_entry found stored,
      Contents.mem_keys_iff.2 (Option.isSome_of_eq_some found), same,
      (Record.isIndexable_iff.1 indexable).1, stored⟩

/-- So what is found is the sent record of the message. -/
theorem Agrees.lookup_some (agrees : writer.Agrees contents) {messageId : MessageId}
    {record : Record} (found : lookup contents messageId = .ok (some record)) :
    record.messageId = messageId ∧ record.direction = .sent ∧ Stored contents record := by
  rcases agrees.lookup_cases messageId with none | ⟨other, same, -, named, sent, stored⟩
  · rw [found] at none
    cases none
  · rw [found] at same
    cases same
    exact ⟨named, sent, stored⟩

/-- A walk goes on to smaller numbers. -/
theorem Agrees.lookup_parent_lt (agrees : writer.Agrees contents) (behind : BehindParents contents)
    {messageId parent : MessageId} {others : List MessageId} {record first : Record}
    (found : lookup contents messageId = .ok (some record))
    (descends : record.parents = parent :: others)
    (above : lookup contents parent = .ok (some first)) : first.id < record.id := by
  obtain ⟨-, -, child⟩ := agrees.lookup_some found
  obtain ⟨named, sent, stored⟩ := agrees.lookup_some above
  refine behind first record stored child sent ?_
  rw [named, descends]
  exact .head _

/-- A walk that has come to a message behind which all that it has met stand. -/
theorem Agrees.chainFrom_ancestry (agrees : writer.Agrees contents)
    (behind : BehindParents contents)
    (unseen : List MessageId) (messageId : MessageId)
    (met : ∀ seen ∈ contents.keys Record.indexPartition, seen ∉ unseen →
      ∀ younger record, lookup contents seen = .ok (some younger) →
        lookup contents messageId = .ok (some record) → record.id < younger.id) :
    ∃ found, chainFrom contents unseen messageId = .ok found ∧ Ancestry contents messageId found ∧
      (found.Pairwise fun younger older => older.id < younger.id) ∧
      ∀ older ∈ found, ∀ record, lookup contents messageId = .ok (some record) →
        older.id ≤ record.id := by
  -- The ids that the walk has met belong to records with greater numbers than the one that is
  -- looked up now, so it comes to none of them again.
  induction unseen, messageId using chainFrom.induct contents with
  | case1 unseen messageId known failure failed =>
    rcases agrees.lookup_cases messageId with none | ⟨record, found, -⟩
    · rw [failed] at none
      cases none
    · rw [failed] at found
      cases found
  | case2 unseen messageId known none =>
    refine ⟨[], ?_, .missing none, .nil, nofun⟩
    rw [chainFrom, dif_pos known, none]
  | case3 unseen messageId known record found start =>
    refine ⟨[record], ?_, .root found start, List.pairwise_singleton _ _, ?_⟩
    · rw [chainFrom, dif_pos known, found]
      simp only [start]
    · intro older among same again
      rw [found, Except.ok.injEq, Option.some.injEq] at again
      rw [List.mem_singleton.1 among, again]
      exact UInt64.le_refl _
  | case4 unseen messageId known record found parent others descends ih =>
    have older {first : Record} (above : lookup contents parent = .ok (some first)) :
        first.id < record.id := agrees.lookup_parent_lt behind found descends above
    obtain ⟨rest, walked, ancestry, ascending, below⟩ := ih (by
      intro seen present passed younger first there above
      by_cases same : seen = messageId
      · subst same
        rw [found, Except.ok.injEq, Option.some.injEq] at there
        exact there ▸ older above
      · have earlier : seen ∉ unseen := fun among =>
          passed (List.mem_filter.2 ⟨among, by simpa using same⟩)
        exact UInt64.lt_trans (older above) (met seen present earlier younger record there found))
    have smaller : ∀ other ∈ rest, other.id < record.id := by
      intro other among
      rcases agrees.lookup_cases parent with none | ⟨first, above, -⟩
      · cases ancestry with
        | missing => cases among
        | root above | child above =>
          rw [none] at above
          cases above
      · exact UInt64.lt_of_le_of_lt (below other among first above) (older above)
    refine ⟨record :: rest, ?_, .child found descends ancestry,
      List.pairwise_cons.2 ⟨smaller, ascending⟩, fun other among first again => ?_⟩
    · rw [chainFrom, dif_pos known, found]
      simp only [descends, walked]
      rfl
    · rw [found, Except.ok.injEq, Option.some.injEq] at again
      subst again
      rcases List.mem_cons.1 among with rfl | above
      · exact UInt64.le_refl _
      · exact UInt64.le_of_lt (smaller other above)
  | case5 unseen messageId unknown =>
    have none : lookup contents messageId = .ok none := by
      rcases agrees.lookup_cases messageId with none | ⟨record, found, present, -⟩
      · exact none
      · exact absurd (met messageId present unknown record record found found) (UInt64.lt_irrefl _)
    refine ⟨[], ?_, .missing none, .nil, nofun⟩
    rw [chainFrom, dif_neg unknown]

/-- If every stored record has a greater number than the sent records of its parents, each chain is
the whole ancestry of its message, and its numbers descend. -/
theorem Agrees.chain_ancestry (agrees : writer.Agrees contents) (behind : BehindParents contents)
    (messageId : MessageId) :
    ∃ found, chain contents messageId = .ok found ∧ Ancestry contents messageId found ∧
      found.Pairwise fun younger older => older.id < younger.id := by
  obtain ⟨found, walked, ancestry, descending, -⟩ :=
    agrees.chainFrom_ancestry behind _ messageId fun seen present unseen => absurd present unseen
  exact ⟨found, walked, ancestry, descending⟩

end Writer

end CausalTrace
