import CausalTrace.Storage.FileTree

/-!
# Paths of names within directories

A name that stands alone is its own only piece, and a path that was joined of a directory and such a
name has the names of the directory and then that one.  Nothing is wrong with the text of the path
but what is wrong with that of the directory, or that both together are too long.
-/

namespace CausalTrace.Path

/-! ## Pieces -/

/-- Every text has a piece, if only an empty one. -/
theorem pieces_ne_nil (text : List Char) : pieces text ≠ [] := by
  induction text with
  | nil => exact List.cons_ne_nil _ _
  | cons c rest ih =>
    rw [pieces]
    split
    next => exact List.cons_ne_nil _ _
    next =>
      cases first : pieces rest with
      | nil => exact absurd first ih
      | cons => exact List.cons_ne_nil _ _

/-- A slash parts what is before it from what is behind it. -/
theorem pieces_slash (before after : List Char) :
    pieces (before ++ '/' :: after) = pieces before ++ pieces after := by
  induction before with
  | nil => rfl
  | cons c rest ih =>
    rw [List.cons_append, pieces, pieces, ih]
    split
    next => rfl
    next =>
      cases first : pieces rest with
      | nil => exact absurd first (pieces_ne_nil rest)
      | cons => rfl

/-- A text without slashes is one piece. -/
theorem pieces_slashless {text : List Char} (slashless : '/' ∉ text) : pieces text = [text] := by
  induction text with
  | nil => rfl
  | cons c rest ih =>
    have plain : c ≠ '/' := fun slash => slashless (slash ▸ List.mem_cons_self)
    rw [pieces, if_neg plain, ih fun later => slashless (List.mem_cons_of_mem c later)]
    rfl

/-- The names of a path are those before a slash and those behind it. -/
theorem names_of_slash {path : String} {before after : List Char}
    (text : path.toList = before ++ '/' :: after) :
    names path = names (.ofList before) ++ names (.ofList after) := by
  simp only [names, text, pieces_slash, List.filter_append, List.map_append, String.toList_ofList]

/-! ## Joining -/

/-- A name that can be given to a file or a directory. -/
structure Proper (name : String) : Prop where
  filled : name ≠ ""
  slashless : '/' ∉ name.toList
  unmarked : '\x00' ∉ name.toList
  notDot : name ≠ "."
  notDots : name ≠ ".."
  short : name.utf8ByteSize ≤ FileFault.nameLimit

/-- A name without a slash is its only piece. -/
theorem names_slashless {name : String} (filled : name ≠ "") (slashless : '/' ∉ name.toList) :
    names name = [name] := by
  have some : name.toList ≠ [] := fun empty => filled (String.toList_eq_nil_iff.1 empty)
  rw [names, pieces_slashless slashless, List.filter_cons_of_pos (by simpa using some)]
  simp

/-- The names of a directory are followed by a name within it. -/
theorem names_join {name : String} (alone : names name = [name]) (directory : String) :
    names (join directory name) = names directory ++ [name] := by
  rw [join]
  split
  next empty =>
    rw [empty, alone]
    rfl
  next =>
    split
    next slash =>
      obtain ⟨before, text⟩ : ∃ before, directory.toList = before ++ ['/'] :=
        List.getLast?_eq_some_iff.1 (by simpa [endsInSlash] using slash)
      have whole : (directory ++ name).toList = before ++ '/' :: name.toList := by
        rw [String.toList_append, text, List.append_assoc, List.singleton_append]
      have nothing : names (.ofList []) = [] := rfl
      rw [names_of_slash whole, names_of_slash text, nothing, String.ofList_toList, alone,
        List.append_nil]
    next =>
      have whole : (directory ++ "/" ++ name).toList = directory.toList ++ '/' :: name.toList := by
        rw [String.toList_append, String.toList_append, List.append_assoc]
        rfl
      rw [names_of_slash whole, String.ofList_toList, String.ofList_toList, alone]

/-- A path that was joined is that of the directory, a slash at the most, and the name. -/
theorem exists_join (directory name : String) :
    ∃ slash, (slash = "" ∨ slash = "/") ∧ join directory name = directory ++ slash ++ name := by
  rw [join]
  split
  next empty => exact ⟨"", .inl rfl, by rw [empty]; simp⟩
  next =>
    split
    · exact ⟨"", .inl rfl, by simp⟩
    · exact ⟨"/", .inr rfl, rfl⟩

/-- How a path is joined depends on the directory alone, so longer names make longer paths. -/
theorem size_join_le {left right : String} (less : left.utf8ByteSize ≤ right.utf8ByteSize)
    (directory : String) :
    (join directory left).utf8ByteSize ≤ (join directory right).utf8ByteSize := by
  unfold join
  split
  · exact less
  · split <;> simp only [String.utf8ByteSize_append] <;> omega

/-- A path grows by what is joined to it. -/
theorem size_lt_size_join {name : String} (filled : name ≠ "") (directory : String) :
    directory.utf8ByteSize < (join directory name).utf8ByteSize := by
  have some : 0 < name.utf8ByteSize :=
    Nat.pos_of_ne_zero fun none => filled (String.utf8ByteSize_eq_zero_iff.1 none)
  obtain ⟨slash, -, joined⟩ := exists_join directory name
  rw [joined, String.utf8ByteSize_append, String.utf8ByteSize_append]
  omega

/-- A path that ends in a proper name does not end in a slash. -/
theorem endsInSlash_join {name : String} (proper : Proper name) (directory : String) :
    endsInSlash (join directory name) = false := by
  obtain ⟨slash, -, joined⟩ := exists_join directory name
  have some : name.toList ≠ [] := fun empty => proper.filled (String.toList_eq_nil_iff.1 empty)
  have last := List.getLast?_eq_some_getLast some
  rw [endsInSlash, joined, String.toList_append, List.getLast?_append, last, Option.some_or]
  refine decide_eq_false fun slash => proper.slashless ?_
  exact List.mem_of_getLast? (last.trans slash)

/-- Nothing is wrong with the text of a path, for all that can be. -/
theorem ofPath?_eq_none_iff {path : String} :
    FileFault.ofPath? path = none ↔
      '\x00' ∉ path.toList ∧ path ≠ "" ∧ path.utf8ByteSize < FileFault.pathLimit := by
  unfold FileFault.ofPath?
  split
  next marked => simp [List.contains_iff_mem.1 marked]
  next unmarked =>
    have clean : '\x00' ∉ path.toList := fun marked => unmarked (List.contains_iff_mem.2 marked)
    split
    next empty => simp [empty]
    next filled =>
      split
      next long => simp [Nat.not_lt.2 long]
      next short => simp [clean, filled, Nat.lt_of_not_le short]

/-- What is wrong with the text of a path is wrong with that of a path within it. -/
theorem ofPath?_of_join {directory name : String} (filled : directory ≠ "")
    (valid : FileFault.ofPath? (join directory name) = none) :
    FileFault.ofPath? directory = none := by
  obtain ⟨slash, -, joined⟩ := exists_join directory name
  rw [ofPath?_eq_none_iff, joined] at valid
  obtain ⟨clean, -, short⟩ := valid
  simp only [String.toList_append, List.mem_append, String.utf8ByteSize_append] at clean short
  exact ofPath?_eq_none_iff.2 ⟨fun marked => clean (.inl (.inl marked)), filled, by omega⟩

/-- The path of a proper name is in order if there is room for it, and if not, just that
is wrong with it. -/
theorem ofPath?_join {directory name : String} (proper : Proper name)
    (valid : directory = "" ∨ FileFault.ofPath? directory = none) :
    FileFault.ofPath? (join directory name)
      = if (join directory name).utf8ByteSize < FileFault.pathLimit then none
        else some .nameTooLong := by
  have filled : join directory name ≠ "" := fun empty => by
    have longer := size_lt_size_join proper.filled directory
    rw [empty, String.utf8ByteSize_empty] at longer
    exact Nat.not_lt_zero _ longer
  have unmarked : '\x00' ∉ directory.toList := by
    rcases valid with rfl | valid
    · exact List.not_mem_nil
    · exact (ofPath?_eq_none_iff.1 valid).1
  obtain ⟨slash, either, joined⟩ := exists_join directory name
  have between : '\x00' ∉ slash.toList := by
    rcases either with rfl | rfl <;> decide
  have clean : ¬(join directory name).toList.contains '\x00' := fun marked => by
    rw [List.contains_iff_mem, joined, String.toList_append, String.toList_append] at marked
    rcases List.mem_append.1 marked with before | behind
    · exact (List.mem_append.1 before).elim unmarked between
    · exact proper.unmarked behind
  rw [FileFault.ofPath?, if_neg clean, if_neg filled]
  split
  next long => rw [if_neg (Nat.not_lt.2 long)]
  next short => rw [if_pos (Nat.lt_of_not_le short)]

end CausalTrace.Path
