import CausalTrace.Text.Decimal

/-!
# The figures of a number

A spelling is a row of characters, and most facts about it are facts about the row of values that
the characters stand for.  `figures` is that row, the highest place first.  The canonical spelling
of a number is the spelling of its figures, and reading it gives the number back: record keys and
numbers in documents both come down to this.
-/

namespace CausalTrace.Decimal

/-- The values of the decimal digits of a number, highest place first. -/
def figures (n : Nat) : List Nat :=
  if n < 10 then [n] else figures (n / 10) ++ [n % 10]

/-- The number that a row of figures stands for. -/
def total (row : List Nat) : Nat :=
  row.foldl (fun value figure => value * 10 + figure) 0

/-- A number below ten is its own figure. -/
theorem figures_of_lt {n : Nat} (small : n < 10) : figures n = [n] := by
  rw [figures, if_pos small]

/-- The last figure is the remainder, behind the figures of the quotient. -/
theorem figures_of_not_lt {n : Nat} (large : ¬n < 10) :
    figures n = figures (n / 10) ++ [n % 10] := by
  rw [figures, if_neg large]

/-- Every number has a figure. -/
theorem figures_ne_nil (n : Nat) : figures n ≠ [] := by
  rw [figures]
  split <;> simp

/-- Every figure is below ten. -/
theorem lt_ten_of_mem_figures {n figure : Nat} (present : figure ∈ figures n) : figure < 10 := by
  induction n using figures.induct with
  | case1 n small =>
    rw [figures_of_lt small] at present
    rw [List.mem_singleton.1 present]
    exact small
  | case2 n large ih =>
    rw [figures_of_not_lt large] at present
    rcases List.mem_append.1 present with higher | last
    · exact ih higher
    · rw [List.mem_singleton.1 last]
      exact Nat.mod_lt _ (by decide)

/-- Only zero itself starts with a zero. -/
theorem eq_zero_of_head_zero {n : Nat} (zero : (figures n).head? = some 0) : n = 0 := by
  induction n using figures.induct with
  | case1 n small =>
    rw [figures_of_lt small] at zero
    exact Option.some.inj zero
  | case2 n large ih =>
    have leading : (figures (n / 10)).head? = some 0 := by
      obtain ⟨figure, rest, row⟩ := List.exists_cons_of_ne_nil (figures_ne_nil (n / 10))
      rw [figures_of_not_lt large, row] at zero
      rw [row]
      exact zero
    have := ih leading
    omega

/-- A row that starts with a zero is the row of zero. -/
theorem length_figures_of_head_zero {n : Nat} (zero : (figures n).head? = some 0) :
    (figures n).length = 1 := by
  rw [eq_zero_of_head_zero zero, figures_of_lt (by decide)]
  rfl

@[simp] theorem total_figures (n : Nat) : total (figures n) = n := by
  induction n using figures.induct with
  | case1 n small => rw [figures_of_lt small]; simp [total]
  | case2 n large ih =>
    have step : total (figures (n / 10) ++ [n % 10]) = total (figures (n / 10)) * 10 + n % 10 := by
      simp [total]
    rw [figures_of_not_lt large, step, ih]
    omega

/-- The canonical spelling is the spelling of the figures. -/
theorem toList_render (n : Nat) : (render n).toList = (figures n).map Nat.digitChar := by
  rw [render, String.toList_ofList]
  induction n using figures.induct with
  | case1 n small => rw [figures_of_lt small, Nat.toDigits_of_lt_base small]; rfl
  | case2 n large ih =>
    rw [figures_of_not_lt large, Nat.toDigits_of_base_le (by decide) (by omega), ih]
    simp

/-- A digit character has the value that it was made for. -/
theorem digit?_digitChar : ∀ figure < 10, digit? figure.digitChar = some figure := by
  decide

/-- Reading spelled figures goes on with the number they form. -/
theorem accumulate?_map_digitChar {row : List Nat} (small : ∀ figure ∈ row, figure < 10)
    (value : Nat) : accumulate? value (row.map Nat.digitChar) =
      some (row.foldl (fun value figure => value * 10 + figure) value) := by
  induction row generalizing value with
  | nil => rfl
  | cons figure rest ih =>
    have first := digit?_digitChar figure (small figure (by simp))
    simp only [List.map_cons, accumulate?, first, Option.bind_some, List.foldl_cons]
    exact ih (fun other present => small other (by simp [present])) _

/-- A spelling starts with a digit. -/
theorem exists_toList_render (n : Nat) :
    ∃ figure rest, figure < 10 ∧ (render n).toList = figure.digitChar :: rest := by
  obtain ⟨figure, rest, row⟩ := List.exists_cons_of_ne_nil (figures_ne_nil n)
  refine ⟨figure, rest.map Nat.digitChar, ?_, ?_⟩
  · exact lt_ten_of_mem_figures (n := n) (by simp [row])
  · rw [toList_render, row, List.map_cons]

/-- A number is read back from its canonical spelling. -/
theorem parse?_render {limit n : Nat} (small : n < limit) : parse? limit (render n) = some n := by
  have read : accumulate? 0 (render n).toList = some n := by
    rw [toList_render, accumulate?_map_digitChar fun _ => lt_ten_of_mem_figures]
    exact congrArg some (total_figures n)
  have capped : accumulateUpTo? limit 0 (render n).toList = some n := by
    rw [← Nat.zero_min limit, accumulateUpTo?_eq, read]
    simp [Nat.min_eq_left (Nat.le_of_lt small)]
  obtain ⟨figure, rest, digit, spelled⟩ := exists_toList_render n
  have unsigned : figure.digitChar ≠ '+' :=
    (by decide : ∀ figure < 10, Nat.digitChar figure ≠ '+') figure digit
  rw [spelled] at capped
  simp [parse?, spelled, unsigned, capped, small]

end CausalTrace.Decimal
