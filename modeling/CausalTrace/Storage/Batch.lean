import CausalTrace.Text.Utf8

/-!
# Batches and what a store holds

A store maps a partition and a key to a value.  It changes by whole batches: the puts of a batch
take effect together and in order, so the last put to a key wins.  `Contents` is that mapping as
a value; every store of this library is described by the contents it answers from.
-/

namespace CausalTrace

/-- One value to be stored under a key of a partition. -/
structure Put where
  partition : String
  key : String
  value : Bytes
  deriving DecidableEq, Repr, Inhabited

/-- Puts that take effect together. -/
abbrev Batch := List Put

/-- What a store holds: at most one put for each partition and key, oldest key first. -/
structure Contents where
  puts : List Put
  deriving DecidableEq, Repr, Inhabited

namespace Contents

/-- Nothing. -/
def empty : Contents := ⟨[]⟩

/-- Stores one value in place of any earlier one. -/
def put (contents : Contents) (new : Put) : Contents :=
  ⟨contents.puts.filter (fun old => !(old.partition == new.partition && old.key == new.key))
    ++ [new]⟩

/-- The puts of a batch in order. -/
def apply (contents : Contents) (batch : Batch) : Contents :=
  batch.foldl put contents

/-- Batches in order. -/
def applyAll (contents : Contents) (batches : List Batch) : Contents :=
  batches.foldl apply contents

/-- The value under a key of a partition. -/
def get? (contents : Contents) (partition key : String) : Option Bytes :=
  (contents.puts.find? fun held => held.partition == partition && held.key == key).map Put.value

/-- The keys of a partition, in the order in which they were last put. -/
def keys (contents : Contents) (partition : String) : List String :=
  (contents.puts.filter fun held => held.partition == partition).map Put.key

/-- How many keys a partition has. -/
def count (contents : Contents) (partition : String) : Nat :=
  (contents.keys partition).length

/-- The partitions that hold a value, in alphabetical order. -/
def partitions (contents : Contents) : List String :=
  ((contents.puts.map Put.partition).eraseDups).mergeSort

end Contents

end CausalTrace
