import CausalTrace.Message.Causality

/-!
# Where message ids come from

Ids are drawn one after the other from a source.  No id is empty.  Nothing else is assumed of a
source; that its ids differ is a property of the source, as it is of `IdSource.counting`.
-/

namespace CausalTrace

/-- An endless row of ids and how many were drawn. -/
structure IdSource where
  draw : Nat → MessageId
  drawn : Nat
  draw_ne_empty : ∀ turn, draw turn ≠ ""

namespace IdSource

/-- The next id. -/
def id (source : IdSource) : MessageId := source.draw source.drawn

/-- The source after the next id was drawn. -/
def advance (source : IdSource) : IdSource := { source with drawn := source.drawn + 1 }

end IdSource

namespace MessageId

/-- A part of an id has as many symbols as were asked for. -/
theorem length_symbols (count n : Nat) : (symbols count n).length = count := by
  induction count generalizing n with
  | zero => rfl
  | succ count ih => simp [symbols, ih]

/-- A generated id is never the empty one, which a reserved header must not carry. -/
theorem generated_ne_empty (turn : Nat) : generated turn ≠ "" := by
  intro h
  have : (generated turn).toList.length = generatedSize := by
    simp [generated, length_symbols]
  simp [h, generatedSize] at this

end MessageId

/-- Counts up from a number; the ids of `62 ^ 16` successive turns differ. -/
def IdSource.counting (start : Nat) : IdSource where
  draw turn := MessageId.generated (start + turn)
  drawn := 0
  draw_ne_empty turn := MessageId.generated_ne_empty (start + turn)

instance : Inhabited IdSource := ⟨.counting 0⟩

end CausalTrace
