import CausalTrace.Storage.Batch

/-!
# What a put and a batch change

Stored contents are known by what `Contents.get?` answers and by the order of `Contents.keys`.  A
put changes both at its own key only.  A batch leaves the puts at other keys in their places and
sets down its own behind them, whatever was stored before; so storing a batch again changes
nothing.  What is found under a key in the end is the last put to it.
-/

namespace CausalTrace

namespace Put

/-- Whether two puts are to the same key of the same partition. -/
def sameKey (left right : Put) : Bool :=
  left.partition == right.partition && left.key == right.key

/-- Two puts are for one key if partition and key agree. -/
theorem sameKey_iff {left right : Put} :
    left.sameKey right = true ↔ left.partition = right.partition ∧ left.key = right.key := by
  simp [sameKey]

end Put

namespace Contents

/-! ## One put -/

/-- A new put takes the place of the old one for its key, at the end. -/
theorem puts_put (contents : Contents) (new : Put) :
    (contents.put new).puts = contents.puts.filter (fun old => !old.sameKey new) ++ [new] :=
  rfl

/-- A put is found under its own key, and every other key keeps its value. -/
theorem get?_put (contents : Contents) (new : Put) (partition key : String) :
    (contents.put new).get? partition key =
      if new.partition = partition ∧ new.key = key then some new.value
      else contents.get? partition key := by
  rw [get?, get?, puts_put, List.find?_append, List.find?_filter]
  split
  next here =>
    obtain ⟨rfl, rfl⟩ := here
    have gone : contents.puts.find? (fun old => decide ((!old.sameKey new) = true ∧
        (old.partition == new.partition && old.key == new.key) = true)) = none := by
      rw [List.find?_eq_none]
      intro old _
      change ¬decide ((!old.sameKey new) = true ∧ old.sameKey new = true) = true
      simp
    rw [gone]
    simp
  next elsewhere =>
    have kept : (fun old : Put => decide ((!old.sameKey new) = true ∧
        (old.partition == partition && old.key == key) = true)) =
        fun old => old.partition == partition && old.key == key := by
      funext old
      by_cases found : old.partition = partition ∧ old.key = key
      · have other : old.sameKey new = false := by
          rw [← Bool.not_eq_true, Put.sameKey_iff, found.1, found.2]
          exact fun same => elsewhere ⟨same.1.symm, same.2.symm⟩
        simp [found, other]
      · have unfound : (old.partition == partition && old.key == key) = false := by
          simpa using found
        rw [unfound]
        simp
    rw [kept]
    simp [elsewhere]

/-- A key of a partition is one that a value is found under. -/
theorem mem_keys_iff {contents : Contents} {partition key : String} :
    key ∈ contents.keys partition ↔ (contents.get? partition key).isSome = true := by
  simp only [keys, get?, List.mem_map, List.mem_filter, Option.isSome_map, List.find?_isSome,
    Bool.and_eq_true, beq_iff_eq]
  constructor
  · rintro ⟨held, ⟨present, here⟩, rfl⟩
    exact ⟨held, present, here, rfl⟩
  · rintro ⟨held, present, here, rfl⟩
    exact ⟨held, ⟨present, here⟩, rfl⟩

/-- The key of a put becomes the last of its partition. -/
theorem keys_put_self (contents : Contents) (new : Put) :
    (contents.put new).keys new.partition
      = (contents.keys new.partition).filter (fun key => !key == new.key) ++ [new.key] := by
  have last : [new].filter (fun held => held.partition == new.partition) = [new] := by simp
  rw [keys, keys, puts_put, List.filter_append, List.map_append, last, List.filter_map,
    List.filter_filter, List.filter_filter]
  congr 2
  refine List.filter_congr fun old _ => ?_
  cases here : old.partition == new.partition <;> simp [Put.sameKey, here]

/-- The keys of other partitions stay. -/
theorem keys_put_other {contents : Contents} {new : Put} {partition : String}
    (elsewhere : new.partition ≠ partition) :
    (contents.put new).keys partition = contents.keys partition := by
  have foreign : [new].filter (fun held => held.partition == partition) = [] := by
    simp [elsewhere]
  rw [keys, keys, puts_put, List.filter_append, foreign, List.append_nil, List.filter_filter]
  congr 1
  refine List.filter_congr fun old _ => ?_
  by_cases here : old.partition = partition
  · have other : old.sameKey new = false := by
      rw [← Bool.not_eq_true, Put.sameKey_iff, here]
      exact fun same => elsewhere same.1.symm
    simp [other]
  · simp [here]

/-! ## A batch -/

/-- Whether a batch leaves a put as it is. -/
def spared (batch : Batch) (old : Put) : Bool :=
  batch.all fun new => !old.sameKey new

/-- An empty batch changes nothing. -/
theorem apply_nil (contents : Contents) : contents.apply [] = contents :=
  rfl

/-- A batch is applied put by put. -/
theorem apply_cons (contents : Contents) (new : Put) (rest : Batch) :
    contents.apply (new :: rest) = (contents.put new).apply rest :=
  rfl

/-- A batch leaves what it spares and puts down the same behind it, whatever was stored before. -/
theorem puts_apply (contents : Contents) (batch : Batch) :
    (contents.apply batch).puts
      = contents.puts.filter (spared batch) ++ (empty.apply batch).puts := by
  induction batch generalizing contents with
  | nil =>
    have all : contents.puts.filter (spared []) = contents.puts := by simp [spared]
    rw [all]
    exact (List.append_nil _).symm
  | cons new rest ih =>
    have first : (empty.put new).puts = [new] := rfl
    have spares : (fun old => spared rest old && !old.sameKey new) = spared (new :: rest) := by
      funext old
      rw [spared, spared, List.all_cons, Bool.and_comm]
    rw [apply_cons, ih, puts_put, List.filter_append, List.filter_filter, spares, apply_cons,
      ih (empty.put new), first, List.append_assoc]

/-- What is stored after a batch was stored before it or comes from the batch. -/
theorem mem_puts_apply {contents : Contents} {batch : Batch} {held : Put}
    (present : held ∈ (contents.apply batch).puts) : held ∈ contents.puts ∨ held ∈ batch := by
  induction batch generalizing contents with
  | nil => exact .inl present
  | cons new rest ih =>
    rcases ih present with before | later
    · rw [puts_put] at before
      rcases List.mem_append.1 before with old | here
      · exact .inl (List.mem_filter.1 old).1
      · exact .inr (List.mem_cons.2 (.inl (List.mem_singleton.1 here)))
    · exact .inr (List.mem_cons_of_mem _ later)

/-- Storing a batch again changes nothing. -/
theorem apply_apply_self (contents : Contents) (batch : Batch) :
    (contents.apply batch).apply batch = contents.apply batch := by
  have replaced : (empty.apply batch).puts.filter (spared batch) = [] := by
    rw [List.filter_eq_nil_iff]
    intro held present
    have new : held ∈ batch := (mem_puts_apply present).resolve_left List.not_mem_nil
    intro untouched
    have apart := List.all_eq_true.1 untouched held new
    simp [Put.sameKey] at apart
  have again : ((contents.apply batch).apply batch).puts = (contents.apply batch).puts := by
    rw [puts_apply (contents.apply batch), puts_apply contents, List.filter_append, replaced,
      List.append_nil, List.filter_filter]
    simp only [Bool.and_self]
  exact congrArg Contents.mk again

/-- Batches in order are one batch of all their puts. -/
theorem applyAll_eq (contents : Contents) (batches : List Batch) :
    contents.applyAll batches = contents.apply batches.flatten :=
  (List.foldl_flatten ..).symm

/-! ## The last put to a key -/

/-- The value of the last put to a key. -/
def lastPut? (puts : List Put) (partition key : String) : Option Bytes :=
  (puts.reverse.find? fun put => put.partition == partition && put.key == key).map Put.value

/-- A later put for the same key goes before an earlier one. -/
theorem lastPut?_cons (new : Put) (rest : List Put) (partition key : String) :
    lastPut? (new :: rest) partition key = (lastPut? rest partition key).or
      (if new.partition = partition ∧ new.key = key then some new.value else none) := by
  rw [lastPut?, lastPut?, List.reverse_cons, List.find?_append, Option.map_or, List.find?_singleton]
  congr 1
  by_cases here : new.partition = partition ∧ new.key = key
  · simp [here]
  · have elsewhere : (new.partition == partition && new.key == key) = false := by simpa using here
    rw [elsewhere, if_neg here]
    rfl

/-- After a batch the last put to a key is found there, and what was there before if there
is no put to it. -/
theorem get?_apply (contents : Contents) (batch : Batch) (partition key : String) :
    (contents.apply batch).get? partition key
      = (lastPut? batch partition key).or (contents.get? partition key) := by
  induction batch generalizing contents with
  | nil => rfl
  | cons new rest ih =>
    rw [apply_cons, ih, get?_put, lastPut?_cons, Option.or_assoc]
    congr 1
    split <;> rfl

/-- No key is listed twice. -/
theorem nodup_keys_apply {contents : Contents} (once : ∀ partition, (contents.keys partition).Nodup)
    (batch : Batch) (partition : String) : ((contents.apply batch).keys partition).Nodup := by
  induction batch generalizing contents with
  | nil => exact once partition
  | cons new rest ih =>
    refine ih fun partition => ?_
    by_cases here : new.partition = partition
    · subst here
      rw [keys_put_self]
      refine List.nodup_append.2 ⟨(once _).filter _, List.pairwise_singleton _ _, ?_⟩
      intro old kept key last
      rw [List.mem_singleton.1 last]
      simpa using (List.mem_filter.1 kept).2
    · rw [keys_put_other here]
      exact once partition

end Contents

end CausalTrace
