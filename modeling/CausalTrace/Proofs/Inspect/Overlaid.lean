import CausalTrace.Proofs.Inspect.Records
import CausalTrace.Proofs.Writing.Batches

/-!
# Runs that number anew

A writer always numbers from one on.  If several runs store into the same place one after the
other, the records of a run take the keys of the earlier records with the same numbers, while an
index entry of an earlier run stays unless its message id comes up again.  So what is left are the
records of the last run and whatever earlier runs stored beyond them, and all records of all runs
are still there only if no run overwrote a record with a different one.
-/

namespace CausalTrace

namespace Record

/-- What is left of the records of several runs that all number from one on. -/
def overlaid (runs : List (List Record)) : List Record :=
  runs.foldl (fun kept run => run ++ kept.drop run.length) []

/-- Of any two runs the records of one are the first records of the other. -/
def Comparable (runs : List (List Record)) : Prop :=
  ∀ one ∈ runs, ∀ other ∈ runs, one <+: other ∨ other <+: one

/-- The last run covers as many records as it has; beyond them the earlier ones stay. -/
theorem overlaid_concat (runs : List (List Record)) (run : List Record) :
    overlaid (runs ++ [run]) = run ++ (overlaid runs).drop run.length := by
  rw [overlaid, List.foldl_append]
  rfl

section Numbers

variable {run records : List Record} (runFromOne : FromOne run) (fromOne : FromOne records)

include runFromOne fromOne

/-- The records behind so many others have other numbers than those. -/
theorem FromOne.id_ne_of_mem_drop {record : Record} (behind : record ∈ records.drop run.length) :
    ∀ other ∈ run, other.id ≠ record.id := by
  intro other present same
  obtain ⟨place, known, rfl⟩ := List.getElem_of_mem behind
  obtain ⟨early, earlyKnown, rfl⟩ := List.getElem_of_mem present
  rw [List.length_drop] at known
  rw [List.getElem_drop] at same
  have number := congrArg UInt64.toNat same
  rw [runFromOne early earlyKnown, fromOne _ (by omega)] at number
  omega

/-- Laying a run over earlier records keeps the numbering. -/
theorem FromOne.overlay : FromOne (run ++ records.drop run.length) := by
  intro place known
  rw [List.length_append, List.length_drop] at known
  rw [List.getElem_append]
  split
  next early => exact runFromOne place early
  next late =>
    rw [List.getElem_drop, fromOne _ (by omega)]
    omega

/-- A run whose records are all left is the beginning of what is left. -/
theorem FromOne.prefix_of_subset (left : ∀ record ∈ run, record ∈ records) : run <+: records := by
  rw [List.prefix_iff_getElem?]
  intro place known
  obtain ⟨here, hereKnown, found⟩ := List.getElem_of_mem (left _ (List.getElem_mem known))
  have number := congrArg (fun record : Record => record.id.toNat) found
  -- its number tells where a record stands
  simp only [fromOne here hereKnown, runFromOne place known] at number
  have same : here = place := by omega
  subst same
  rw [List.getElem?_eq_getElem hereKnown, found]

end Numbers

/-- Runs that are numbered from one leave records that are numbered from one. -/
theorem fromOne_overlaid {runs : List (List Record)} (fromOne : ∀ run ∈ runs, FromOne run) :
    FromOne (overlaid runs) := by
  induction runs using List.reverseRecOn with
  | nil => exact fun place known => absurd known (Nat.not_lt_zero place)
  | append_singleton earlier run ih =>
    have before := ih fun other present => fromOne other (List.mem_append_left _ present)
    rw [overlaid_concat]
    exact (fromOne run (by simp)).overlay before

/-! ## When nothing is lost -/

/-- Runs that are comparable are all at the beginning of what is left. -/
theorem Comparable.prefix_overlaid {runs : List (List Record)} (comparable : Comparable runs) :
    ∀ run ∈ runs, run <+: overlaid runs := by
  induction runs using List.reverseRecOn with
  | nil => exact fun run present => nomatch present
  | append_singleton earlier last ih =>
    have before := ih fun one here other there =>
      comparable one (List.mem_append_left _ here) other (List.mem_append_left _ there)
    intro run present
    rw [overlaid_concat]
    rcases List.mem_append.1 present with older | newest
    · rcases comparable run present last (by simp) with shorter | longer
      · exact shorter.trans (List.prefix_append _ _)
      · -- the run goes on behind the last one, and there it is part of what was left before
        obtain ⟨beyond, rfl⟩ := longer
        obtain ⟨rest, whole⟩ := before _ older
        refine ⟨rest, ?_⟩
        rw [← whole, List.append_assoc, List.drop_left]
    · rw [List.mem_singleton.1 newest]
      exact List.prefix_append _ _

/-- All records of all runs are left exactly if the runs are comparable. -/
theorem comparable_iff_subset {runs : List (List Record)} (fromOne : ∀ run ∈ runs, FromOne run) :
    Comparable runs ↔ ∀ run ∈ runs, ∀ record ∈ run, record ∈ overlaid runs := by
  constructor
  · intro comparable run present record within
    exact (comparable.prefix_overlaid run present).subset within
  · intro left
    have beginning (run : List Record) (present : run ∈ runs) : run <+: overlaid runs :=
      (fromOne run present).prefix_of_subset (fromOne_overlaid fromOne) (left run present)
    exact fun one here other there =>
      List.prefix_or_prefix_of_prefix (beginning one here) (beginning other there)

end Record

/-! ## What is stored -/

/-- Contents in which several runs stored their records one after the other. -/
structure LaidOver (contents : Contents) (runs : List (List Record)) : Prop where
  keys : (contents.keys Record.partition).Perm
    ((Record.overlaid runs).map fun record => record.id.key)
  record : ∀ record ∈ Record.overlaid runs,
    contents.get? Record.partition record.id.key = some record.encode
  entry : ∀ run ∈ runs, ∀ record ∈ run, record.isIndexable = true →
    ∃ other ∈ runs, ∃ target ∈ other,
      (target.isIndexable = true ∧ target.messageId = record.messageId) ∧
      contents.get? Record.indexPartition record.messageId = some (Utf8.encode target.id.key)

namespace LaidOver

/-- No runs lie over an empty store. -/
theorem empty : LaidOver .empty [] where
  keys := .refl _
  record _ present := nomatch present
  entry _ present := nomatch present

section Run

variable {run kept : List Record} (runFromOne : Record.FromOne run) (fromOne : Record.FromOne kept)

include runFromOne fromOne

/-- The first of earlier records lose their keys to a run. -/
theorem mem_keys_of_mem_take {record : Record} (early : record ∈ kept.take run.length) :
    record.id.key ∈ run.map fun other => other.id.key := by
  obtain ⟨place, known, rfl⟩ := List.getElem_of_mem early
  rw [List.length_take] at known
  have within : place < run.length := by omega
  refine List.mem_map.2 ⟨run[place], List.getElem_mem within, congrArg RecordId.key ?_⟩
  rw [List.getElem_take, ← UInt64.toNat_inj, runFromOne place within, fromOne place (by omega)]

/-- The keys that earlier records keep are those of the records behind a run. -/
theorem keys_kept : (kept.map fun record => record.id.key).filter
      (fun key => !(run.map fun record => record.id.key).contains key)
    = (kept.drop run.length).map fun record => record.id.key := by
  have lost : ((kept.take run.length).map fun record => record.id.key).filter
      (fun key => !(run.map fun record => record.id.key).contains key) = [] := by
    rw [List.filter_eq_nil_iff]
    intro key present
    obtain ⟨record, early, rfl⟩ := List.mem_map.1 present
    simpa using mem_keys_of_mem_take runFromOne fromOne early
  have spared : ((kept.drop run.length).map fun record => record.id.key).filter
      (fun key => !(run.map fun record => record.id.key).contains key)
        = (kept.drop run.length).map fun record => record.id.key := by
    rw [List.filter_eq_self]
    intro key present
    obtain ⟨record, behind, rfl⟩ := List.mem_map.1 present
    have apart := runFromOne.id_ne_of_mem_drop fromOne behind
    simpa using fun other there same => apart other there (RecordId.key_injective same)
  conv_lhs => rw [← List.take_append_drop run.length kept]
  rw [List.map_append, List.filter_append, lost, spared, List.nil_append]

end Run

/-- One more run is laid over what was there. -/
theorem concat {base contents : Contents} {runs : List (List Record)} {run : List Record}
    (laid : LaidOver base runs) (stores : Writer.Stores base contents run)
    (fromOne : ∀ other ∈ runs ++ [run], Record.FromOne other) :
    LaidOver contents (runs ++ [run]) := by
  have runFromOne : Record.FromOne run := fromOne run (by simp)
  have keptFromOne : Record.FromOne (Record.overlaid runs) :=
    Record.fromOne_overlaid fun other present => fromOne other (List.mem_append_left _ present)
  refine ⟨?_, ?_, ?_⟩
  · have left := laid.keys.filter fun key => !(run.map fun record => record.id.key).contains key
    rw [keys_kept runFromOne keptFromOne] at left
    rw [stores.keys, Record.overlaid_concat, List.map_append]
    exact (left.append_right _).trans List.perm_append_comm
  · intro record present
    rw [Record.overlaid_concat] at present
    rw [stores.record]
    rcases List.mem_append.1 present with here | behind
    · rw [Record.find?_key runFromOne.ascending here]
      rfl
    · -- Beyond the length of the last run no record has one of its numbers.
      have apart := runFromOne.id_ne_of_mem_drop keptFromOne behind
      have absent := Record.find?_key_eq_none fun other there same =>
        apart other there (RecordId.key_injective same)
      rw [absent, laid.record record (List.mem_of_mem_drop behind)]
      rfl
  · intro other present record within indexable
    rw [stores.entry]
    cases first : Record.firstSent? run record.messageId with
    | some target =>
      have sent : target.isIndexable = true ∧ target.messageId = record.messageId := by
        simpa using List.find?_some first
      exact ⟨run, by simp, target, List.mem_of_find?_eq_some first, sent, rfl⟩
    | none =>
      rcases List.mem_append.1 present with older | newest
      · obtain ⟨owner, there, target, inside, sent, entry⟩ :=
          laid.entry other older record within indexable
        exact ⟨owner, List.mem_append_left _ there, target, inside, sent, entry⟩
      · rw [List.mem_singleton.1 newest] at within
        -- A record of the last run that is indexable would have been found.
        have missed := List.find?_eq_none.1 first record within
        exact absurd (by simpa using indexable) missed

/-- The records of every run are numbered from one, as every writer begins there. -/
theorem fromOne_history {history : List (List Event)}
    (fits : ∀ events ∈ history, events.length < 2 ^ 64) :
    ∀ run ∈ history.map Record.numbered, Record.FromOne run := by
  intro run present
  obtain ⟨events, there, rfl⟩ := List.mem_map.1 present
  exact Record.fromOne_numbered (fits events there)

/-- The batches of new writers, one after the other, lay their records over each other. -/
theorem of_history {history : List (List Event)}
    (fits : ∀ events ∈ history, events.length < 2 ^ 64) :
    LaidOver (Contents.empty.applyAll (history.flatMap (Writer.new 1).batches))
      (history.map Record.numbered) := by
  induction history using List.reverseRecOn with
  | nil => exact empty
  | append_singleton earlier events ih =>
    have before := ih fun other present => fits other (List.mem_append_left _ present)
    have stores := Writer.stores_batches 1
      (Contents.empty.applyAll (earlier.flatMap (Writer.new 1).batches)) (fits events (by simp))
    have fromOne := fromOne_history fits
    rw [List.map_append, List.map_singleton] at fromOne ⊢
    rw [List.flatMap_append, List.flatMap_singleton, Contents.applyAll, List.foldl_append]
    exact before.concat stores fromOne

end LaidOver

/-! ## What an inspector finds of the runs -/

namespace Inspect

/-- All records of all runs are listed, and every sent message id leads to a sent
record of its own. -/
structure FindsAll (contents : Contents) (runs : List (List Record)) : Prop where
  listed : ∃ found, records contents = .ok found ∧
    ∀ run ∈ runs, ∀ record ∈ run, record ∈ found
  located : ∀ run ∈ runs, ∀ record ∈ run, record.isIndexable = true →
    ∃ own, lookup contents record.messageId = .ok (some own) ∧
      own.messageId = record.messageId ∧ own.direction = .sent

variable {contents : Contents} {runs : List (List Record)}

/-- What is listed is what is left. -/
theorem records_laidOver (laid : LaidOver contents runs)
    (fromOne : ∀ run ∈ runs, Record.FromOne run) :
    records contents = .ok (Record.overlaid runs) :=
  records_stored laid.keys (Record.fromOne_overlaid fromOne).ascending laid.record

/-- Everything is found exactly if the runs are comparable. -/
theorem findsAll_iff (laid : LaidOver contents runs)
    (fromOne : ∀ run ∈ runs, Record.FromOne run) :
    FindsAll contents runs ↔ Record.Comparable runs := by
  have listed := records_laidOver laid fromOne
  rw [Record.comparable_iff_subset fromOne]
  constructor
  · rintro ⟨⟨found, same, all⟩, -⟩
    cases listed.symm.trans same
    exact all
  · intro left
    refine ⟨⟨_, listed, left⟩, fun run present record within indexable => ?_⟩
    obtain ⟨owner, there, target, inside, ⟨sent, own⟩, entry⟩ :=
      laid.entry run present record within indexable
    exact ⟨target, lookup_entry entry (laid.record target (left owner there target inside)), own,
      (Record.isIndexable_iff.1 sent).1⟩

end Inspect

end CausalTrace
