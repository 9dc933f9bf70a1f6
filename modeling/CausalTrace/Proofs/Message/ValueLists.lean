import CausalTrace.Message.Headers

/-!
# Headers as lists of values

All entries of a message's headers stand in one list, in many spellings.  To a reader they are one
plain list of values for each class of equal names: a change of one name acts on the list of that
name as it would act on a plain list, and on nothing else.  `Headers.change_entries` and
`Headers.change_others` say so of one change, and what holds of any number of them follows.
-/

namespace CausalTrace

section Names

variable {left right third : String}

/-- Names are equal just when their keys are. -/
theorem sameName_iff : sameName left right = true ↔ nameKey left = nameKey right :=
  beq_iff_eq

@[simp] theorem sameName_self (name : String) : sameName name name = true :=
  sameName_iff.2 rfl

/-- Equality of names is symmetric. -/
theorem sameName_comm (left right : String) : sameName left right = sameName right left :=
  Bool.eq_iff_iff.2 ⟨fun same => sameName_iff.2 (sameName_iff.1 same).symm,
    fun same => sameName_iff.2 (sameName_iff.1 same).symm⟩

/-- Equal names are equal to the same names. -/
theorem sameName_congr (same : sameName left right = true) (third : String) :
    sameName third left = sameName third right := by
  rw [sameName, sameName, sameName_iff.1 same]

/-- A name that is equal to one of two unequal names is unequal to the other. -/
theorem sameName_exclusive (different : sameName left right = false)
    (same : sameName third right = true) : sameName third left = false := by
  rw [sameName_comm third left, sameName_congr same left, different]

end Names

namespace Headers

/-- One change of headers. -/
inductive Change where
  | add (name value : String)
  | set (name value : String)
  | remove (name : String)
  deriving DecidableEq, Repr

namespace Change

/-- The name that is changed. -/
def name : Change → String
  | add name _ | set name _ | remove name => name

/-- Whether a name is the one that is changed, in whatever spelling. -/
def concerns (change : Change) (name : String) : Bool :=
  sameName change.name name

/-- What a change does to a plain list of values. -/
def onValues (values : List String) : Change → List String
  | add _ value => values ++ [value]
  | set _ value => [value]
  | remove _ => []

end Change

/-- Headers after a change. -/
def change (headers : Headers) : Change → Headers
  | .add name value => headers.add name value
  | .set name value => headers.set name value
  | .remove name => (headers.remove name).1

/-- The entries under a name, each in its own spelling. -/
def under (headers : Headers) (name : String) : List (String × String) :=
  headers.entries.filter fun entry => sameName entry.1 name

section Readings

variable (headers : Headers) (name : String)

/-- All values of a name are the values of its entries. -/
theorem getAll_eq_map_under : headers.getAll name = (headers.under name).map Prod.snd := rfl

/-- The first value is the first of all values. -/
theorem get?_eq_head? : headers.get? name = (headers.getAll name).head? := by
  rw [getAll, List.head?_map, List.head?_filter, get?]

/-- A name is contained if and only if it has a value. -/
theorem contains_eq_not_isEmpty : headers.contains name = !(headers.getAll name).isEmpty := by
  rw [contains, get?_eq_head?]
  cases headers.getAll name <;> rfl

/-- As many values are removed as there are. -/
theorem count_eq_length : headers.count name = (headers.getAll name).length := by
  rw [count, List.countP_eq_length_filter, getAll, List.length_map]

end Readings

section Steps

variable {name other : String}

@[simp] theorem under_add_same (headers : Headers) (value : String)
    (same : sameName other name = true) :
    (headers.add other value).under name = headers.under name ++ [(other, value)] := by
  simp [under, add, same]

@[simp] theorem under_add_other (headers : Headers) (value : String)
    (different : sameName other name = false) :
    (headers.add other value).under name = headers.under name := by
  simp [under, add, different]

@[simp] theorem under_without_same (headers : Headers) (same : sameName other name = true) :
    (headers.without other).under name = [] := by
  refine List.filter_eq_nil_iff.2 fun entry among found => ?_
  have kept := (List.mem_filter.1 among).2
  rw [sameName_congr same entry.1, found] at kept
  exact Bool.noConfusion kept

@[simp] theorem under_without_other (headers : Headers) (different : sameName other name = false) :
    (headers.without other).under name = headers.under name := by
  rw [under, without, List.filter_filter]
  refine List.filter_congr fun entry _ => ?_
  cases found : sameName entry.1 name with
  | false => rfl
  | true => rw [sameName_exclusive different found]; rfl

@[simp] theorem without_add_same (headers : Headers) (value : String)
    (same : sameName other name = true) :
    (headers.add other value).without name = headers.without name := by
  simp [without, add, same]

@[simp] theorem without_add_other (headers : Headers) (value : String)
    (different : sameName other name = false) :
    (headers.add other value).without name = (headers.without name).add other value := by
  simp [without, add, different]

/-- Names are taken out in any order. -/
theorem without_comm (headers : Headers) (name other : String) :
    (headers.without other).without name = (headers.without name).without other := by
  simp only [without, List.filter_filter, Bool.and_comm]

@[simp] theorem without_without_same (headers : Headers) (same : sameName other name = true) :
    (headers.without other).without name = headers.without name := by
  rw [without, without, List.filter_filter, without, mk.injEq]
  refine List.filter_congr fun entry _ => ?_
  rw [sameName_congr same entry.1, Bool.and_self]

/-- What is under the name that is changed has the values that the change makes of a plain list. -/
theorem change_entries (headers : Headers) (change : Change)
    (concerned : change.concerns name = true) :
    (headers.change change).getAll name = change.onValues (headers.getAll name) := by
  rw [getAll_eq_map_under, getAll_eq_map_under]
  cases change with
  | add other value =>
    have same : sameName other name = true := concerned
    rw [Headers.change, under_add_same headers value same, List.map_append]
    rfl
  | set other value =>
    have same : sameName other name = true := concerned
    rw [Headers.change, set, under_add_same _ value same, under_without_same headers same]
    rfl
  | remove other =>
    have same : sameName other name = true := concerned
    rw [Headers.change, remove, under_without_same headers same]
    rfl

/-- The entries under any other name stay as they are, in their spellings and their order. -/
theorem change_others (headers : Headers) (change : Change)
    (unconcerned : change.concerns name = false) :
    (headers.change change).under name = headers.under name := by
  cases change with
  | add other value => exact under_add_other headers value unconcerned
  | set other value =>
    have different : sameName other name = false := unconcerned
    rw [Headers.change, set, under_add_other _ value different,
      under_without_other headers different]
  | remove other => exact under_without_other headers unconcerned

/-- So do the entries of all other names together: no two of them change places. -/
theorem without_change (headers : Headers) (change : Change)
    (concerned : change.concerns name = true) :
    (headers.change change).without name = headers.without name := by
  have same : sameName change.name name = true := concerned
  cases change with
  | add other value => exact without_add_same headers value same
  | set other value =>
    exact (without_add_same _ value same).trans (without_without_same headers same)
  | remove other => exact without_without_same headers same

/-- A change of one of the other names is made among the entries of the other names alone. -/
theorem without_change_other (headers : Headers) (change : Change)
    (unconcerned : change.concerns name = false) :
    (headers.change change).without name = (headers.without name).change change := by
  have different : sameName change.name name = false := unconcerned
  cases change with
  | add other value => exact without_add_other headers value different
  | set other value =>
    exact (without_add_other _ value different).trans
      (congrArg (·.add other value) (headers.without_comm name other))
  | remove other => exact headers.without_comm name other

end Steps

section Runs

/-- What is under a name after any number of changes is what the changes of that name make
of a plain list. -/
theorem getAll_foldl_change (changes : List Change) (headers : Headers) (name : String) :
    (changes.foldl change headers).getAll name
      = (changes.filter (·.concerns name)).foldl Change.onValues (headers.getAll name) := by
  induction changes generalizing headers with
  | nil => rfl
  | cons first rest later =>
    rw [List.foldl_cons, later]
    cases concerned : first.concerns name with
    | true =>
      rw [List.filter_cons_of_pos (by exact concerned), List.foldl_cons,
        headers.change_entries first concerned]
    | false =>
      rw [List.filter_cons_of_neg (by rw [concerned]; exact Bool.false_ne_true),
        getAll_eq_map_under, headers.change_others first concerned, getAll_eq_map_under]

/-- What is under all other names is what the changes of the other names make of it. -/
theorem without_foldl_change (changes : List Change) (headers : Headers) (name : String) :
    (changes.foldl change headers).without name
      = (changes.filter (!·.concerns name)).foldl change (headers.without name) := by
  induction changes generalizing headers with
  | nil => rfl
  | cons first rest later =>
    rw [List.foldl_cons, later]
    cases concerned : first.concerns name with
    | true =>
      rw [List.filter_cons_of_neg (by rw [concerned]; exact Bool.false_ne_true),
        headers.without_change first concerned]
    | false =>
      rw [List.filter_cons_of_pos (by rw [concerned]; rfl), List.foldl_cons,
        headers.without_change_other first concerned]

end Runs

/-- Headers that show a reader the values of a plain list under a name, in every way of asking. -/
structure Shows (headers : Headers) (name : String) (values : List String) : Prop where
  all : headers.getAll name = values
  first : headers.get? name = values.head?
  present : headers.contains name = !values.isEmpty
  removed : (headers.remove name).2 = values.length
  emptied : (headers.remove name).1.getAll name = []

/-- Headers show what they have under a name. -/
theorem shows_getAll (headers : Headers) (name : String) :
    headers.Shows name (headers.getAll name) where
  all := rfl
  first := headers.get?_eq_head? name
  present := headers.contains_eq_not_isEmpty name
  removed := headers.count_eq_length name
  emptied := headers.change_entries (.remove name) (sameName_self name)

/-- Headers are one plain list of values for each name, whatever the spellings and however the
entries of the names are mixed.  After any changes of any headers, every name has the values that
the changes of that name alone make of a plain list; what is left without the name is the entries
of all other names, in the order that they have, and is what the changes of the others alone make
of it; and no further change, of whatever name, moves or alters an entry of another name. -/
theorem projects_onto_values (start : Headers) (changes : List Change) (name : String) :
    let after := changes.foldl change start
    after.Shows name ((changes.filter (·.concerns name)).foldl Change.onValues
      (start.getAll name)) ∧
      (after.without name).entries
        = after.entries.filter (fun entry => !sameName entry.1 name) ∧
      after.without name = (changes.filter (!·.concerns name)).foldl change (start.without name) ∧
      (∀ further : Change, (after.change further).entries.filter
          (fun entry => !sameName entry.1 further.name)
        = after.entries.filter fun entry => !sameName entry.1 further.name) ∧
      ∀ (further : Change) (other : String), sameName further.name other = false →
        (after.change further).getAll other = after.getAll other := by
  intro after
  refine ⟨?_, rfl, without_foldl_change changes start name, fun further => ?_,
    fun further other different => ?_⟩
  · rw [← getAll_foldl_change]
    exact after.shows_getAll name
  · exact congrArg entries (after.without_change further (sameName_self further.name))
  · rw [getAll_eq_map_under, after.change_others further different, ← getAll_eq_map_under]

/-- A reserved entry is replaced while others come and go, in mixed spellings. -/
example :
    let changes : List Change := [.add "Trace" "1", .add "Kind" "a", .add "KIND" "b",
      .set "TRACE" "2", .remove "none", .add "kind" "c"]
    (changes.foldl change empty).entries
        = [("Kind", "a"), ("KIND", "b"), ("TRACE", "2"), ("kind", "c")] ∧
      (changes.foldl change empty).getAll "kinD" = ["a", "b", "c"] := by
  decide +kernel

end Headers

end CausalTrace
