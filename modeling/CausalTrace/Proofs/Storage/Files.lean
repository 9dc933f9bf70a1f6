import CausalTrace.Storage.FileTree

/-!
# What stays found in a tree

A tree only grows at free names.  What a path led to is still found there afterwards, and what was
put under a free name is found under the path that led to it.  Filling a file changes its content
and no name, and an opened file is one that can be filled.
-/

namespace CausalTrace.FileTree

/-! ## Names and contents -/

/-- Where names lead does not depend on what is in the files. -/
theorem locate_congr {tree other : FileTree} (same : tree.entries = other.entries) (here : Nat)
    (above : List Nat) (names : List String) :
    tree.locate here above names = other.locate here above names := by
  induction names generalizing here above with
  | nil => rfl
  | cons name rest ih =>
    have node : tree.node? here name = other.node? here name := by rw [node?, node?, same]
    rw [locate, locate, node]
    simp only [ih]

/-- Paths lead where they led, whatever is written to files. -/
theorem resolve_fill (tree : FileTree) (number : Nat) (content : Bytes) (path : String) :
    (tree.fill number content).resolve path = tree.resolve path := by
  have same : (tree.fill number content).entries = tree.entries := rfl
  unfold resolve
  split
  · rfl
  · exact locate_congr same 0 [] _

@[simp] theorem file_fill (tree : FileTree) (number : Nat) (content : Bytes) (path : String) :
    (tree.fill number content).file path = tree.file path := by
  rw [file, file, resolve_fill]

@[simp] theorem content_fill_self {tree : FileTree} {number : Nat}
    (filled : number < tree.contents.length) (content : Bytes) :
    (tree.fill number content).content number = content := by
  rw [FileTree.content, fill, List.getD_eq_getElem?_getD, List.getElem?_set_self filled]
  rfl

/-- A file that is filled with what is in it stays as it is. -/
theorem fill_content (tree : FileTree) (number : Nat) :
    tree.fill number (tree.content number) = tree := by
  have same : tree.contents.set number (tree.contents.getD number []) = tree.contents := by
    refine List.ext_getElem (by simp) fun place within _ => ?_
    rw [List.getElem_set]
    split
    next here =>
      subst here
      rw [List.getD_eq_getElem?_getD, List.getElem?_eq_getElem (by simpa using within)]
      rfl
    next => rfl
  cases tree
  simp only [fill, content, same]

/-- The empty tree has nothing in any file. -/
theorem content_empty (number : Nat) : FileTree.empty.content number = [] :=
  List.getD_nil

/-- A file that is found has a content. -/
theorem lt_of_locate {tree : FileTree} {here number : Nat} {above : List Nat} {names : List String}
    (found : tree.locate here above names = .ok (.taken (.file number))) :
    number < tree.contents.length := by
  fun_induction tree.locate here above names with
  | case1 => cases found
  | case2 _ _ _ ih => exact ih found
  | case3 _ _ _ _ ih => exact ih found
  | case4 => cases found
  | case5 => cases found
  | case6 => cases found
  | case7 here above name _ _ _ other present =>
    cases found
    unfold node? at present
    obtain ⟨before, after, listed, _⟩ := List.lookup_eq_some_iff.1 present
    exact tree.filled (here, name) number (by simp [listed])
  | case8 => cases found
  | case9 _ _ _ _ _ _ _ _ _ ih => exact ih found

/-! ## Growing -/

/-- Names that stood for something stand for the same still. -/
def Grows (tree grown : FileTree) : Prop :=
  ∀ directory name node, tree.node? directory name = some node →
    grown.node? directory name = some node

theorem Grows.refl (tree : FileTree) : Grows tree tree :=
  fun _ _ _ found => found

/-- Writing to a file is growth: no name changes. -/
theorem Grows.fill (tree : FileTree) (number : Nat) (content : Bytes) :
    Grows tree (tree.fill number content) :=
  fun _ _ _ found => found

section Growing

variable {tree grown : FileTree} {here : Nat} {above : List Nat} {names : List String}

/-- What names led to is found there afterwards. -/
theorem Grows.locate_taken (grows : Grows tree grown) {node : Node}
    (found : tree.locate here above names = .ok (.taken node)) :
    grown.locate here above names = .ok (.taken node) := by
  fun_induction tree.locate here above names with
  | case1 =>
    rw [locate]
    exact found
  | case2 _ _ _ ih =>
    rw [locate, if_pos rfl]
    exact ih found
  | case3 _ _ _ other ih =>
    rw [locate, if_neg other, if_pos rfl]
    exact ih found
  | case4 => cases found
  | case5 => cases found
  | case6 => cases found
  | case7 _ _ _ dot dots short _ present =>
    rw [locate, if_neg dot, if_neg dots, if_neg short, grows _ _ _ present]
    exact found
  | case8 => cases found
  | case9 _ _ _ _ dot dots short _ present ih =>
    rw [locate, if_neg dot, if_neg dots, if_neg short, grows _ _ _ present]
    exact ih found

/-- What is put under a free name is found where the name was free. -/
theorem Grows.locate_free (grows : Grows tree grown) {directory : Nat} {name : String} {node : Node}
    (free : tree.locate here above names = .ok (.free directory name))
    (put : grown.node? directory name = some node) :
    grown.locate here above names = .ok (.taken node) := by
  fun_induction tree.locate here above names with
  | case1 => cases free
  | case2 _ _ _ ih =>
    rw [locate, if_pos rfl]
    exact ih free
  | case3 _ _ _ other ih =>
    rw [locate, if_neg other, if_pos rfl]
    exact ih free
  | case4 => cases free
  | case5 _ _ _ dot dots short _ =>
    cases free
    rw [locate, if_neg dot, if_neg dots, if_neg short, put]
    cases node <;> rfl
  | case6 => cases free
  | case7 => cases free
  | case8 => cases free
  | case9 _ _ _ _ dot dots short _ present ih =>
    rw [locate, if_neg dot, if_neg dots, if_neg short, grows _ _ _ present]
    exact ih free

/-- A name is free where nothing stands under it. -/
theorem node?_of_locate_free {directory : Nat} {name : String}
    (free : tree.locate here above names = .ok (.free directory name)) :
    tree.node? directory name = none := by
  fun_induction tree.locate here above names with
  | case1 => cases free
  | case2 _ _ _ ih => exact ih free
  | case3 _ _ _ _ ih => exact ih free
  | case4 => cases free
  | case5 _ _ _ _ _ _ absent =>
    cases free
    exact absent
  | case6 => cases free
  | case7 => cases free
  | case8 => cases free
  | case9 _ _ _ _ _ _ _ _ _ ih => exact ih free

end Growing

/-- A tree that has one more entry, at a free name, grows. -/
theorem Grows.of_entries {tree grown : FileTree} {directory : Nat} {name : String} {node : Node}
    (free : tree.node? directory name = none)
    (added : grown.entries = ((directory, name), node) :: tree.entries) : Grows tree grown := by
  intro other otherName found present
  have apart : ((other, otherName) == (directory, name)) = false := by
    rw [beq_eq_false_iff_ne]
    intro same
    cases same
    rw [free] at present
    cases present
  rw [node?, added, List.lookup_cons, apart]
  exact present

/-- A directory under a free name is growth. -/
theorem Grows.addDirectory {tree : FileTree} {directory : Nat} {name : String}
    (free : tree.node? directory name = none) : Grows tree (tree.addDirectory directory name) :=
  .of_entries free rfl

/-- A file under a free name is growth. -/
theorem Grows.addFile {tree : FileTree} {directory : Nat} {name : String}
    (free : tree.node? directory name = none) : Grows tree (tree.addFile directory name) :=
  .of_entries free rfl

/-- A new directory is found under its name, with the next number. -/
theorem node?_addDirectory (tree : FileTree) (directory : Nat) (name : String) :
    (tree.addDirectory directory name).node? directory name
      = some (.directory (tree.directories + 1)) :=
  List.lookup_cons_self

/-- A new file is found under its name, with the next number. -/
theorem node?_addFile (tree : FileTree) (directory : Nat) (name : String) :
    (tree.addFile directory name).node? directory name = some (.file tree.contents.length) :=
  List.lookup_cons_self

/-! ## Directories and opened files -/

/-- A path without faults is resolved by following its names. -/
theorem resolve_of_valid {tree : FileTree} {path : String} (valid : FileFault.ofPath? path = none) :
    tree.resolve path = tree.follow (Path.names path) := by
  rw [resolve, valid]

/-- A directory that could be made or found is found, and every name leads where it led. -/
theorem ensure_ok {tree after : FileTree} {names : List String}
    (made : tree.ensure names = (.ok (), after)) :
    ∃ number, after.follow names = .ok (.taken (.directory number)) := by
  unfold ensure at made
  split at made
  next => cases made
  next number found =>
    cases made
    exact ⟨number, found⟩
  next => cases made
  next directory name free =>
    cases made
    have added := Grows.addDirectory (node?_of_locate_free free)
    exact ⟨_, added.locate_free free (node?_addDirectory tree directory name)⟩

/-- When all directories of a path were made, the innermost is there. -/
theorem ensureAll_ok {tree after : FileTree} {inner : List String} {outer : List (List String)}
    (made : tree.ensureAll (inner :: outer) = (.ok (), after)) :
    ∃ number, after.follow inner = .ok (.taken (.directory number)) := by
  rw [ensureAll] at made
  split at made
  next between _ =>
    split at made
    next around _ => exact ensure_ok made
    next failed => exact absurd made (by simpa using failed after)
  next => exact ensure_ok made

/-- A path leads to a directory that is there. -/
def HasDirectory (tree : FileTree) (path : String) : Prop :=
  path = "" ∨ FileFault.ofPath? path = none ∧
    ∃ number, tree.follow (Path.names path) = .ok (.taken (.directory number))

/-- A directory is still there after growth. -/
theorem Grows.hasDirectory {tree grown : FileTree} {path : String} (grows : Grows tree grown)
    (there : tree.HasDirectory path) : grown.HasDirectory path := by
  rcases there with here | ⟨valid, number, found⟩
  · exact .inl here
  · exact .inr ⟨valid, number, grows.locate_taken found⟩

/-- A directory that was made is there. -/
theorem makeDirectories_ok {tree after : FileTree} {path : String}
    (made : tree.makeDirectories path = (.ok (), after)) : after.HasDirectory path := by
  unfold makeDirectories at made
  split at made
  next here => exact .inl here
  next =>
    split at made
    next => cases made
    next valid => exact .inr ⟨valid, ensureAll_ok made⟩

/-- A directory that is there is made without a change. -/
theorem HasDirectory.makeDirectories {tree : FileTree} {path : String}
    (there : tree.HasDirectory path) : tree.makeDirectories path = (.ok (), tree) := by
  rcases there with here | ⟨valid, number, found⟩
  · rw [FileTree.makeDirectories, if_pos here]
  · have inner : tree.ensure (Path.names path) = (.ok (), tree) := by rw [ensure, found]
    unfold FileTree.makeDirectories
    split
    · rfl
    · rw [valid]
      dsimp only
      rw [Path.ancestors, ensureAll, inner]

/-- Making a directory writes to no file. -/
theorem contents_ensure (tree : FileTree) (names : List String) :
    (tree.ensure names).2.contents = tree.contents := by
  unfold ensure
  split <;> rfl

/-- Making directories writes to no file. -/
theorem contents_ensureAll (tree : FileTree) (ways : List (List String)) :
    (tree.ensureAll ways).2.contents = tree.contents := by
  induction ways generalizing tree with
  | nil => rfl
  | cons inner outer ih =>
    have first := contents_ensure tree inner
    rw [ensureAll]
    split
    next between missing =>
      rw [missing] at first
      have others := ih between
      split
      next around made =>
        rw [made] at others
        rw [contents_ensure, others, first]
      next => rw [others, first]
    next => exact first

/-- Making directories changes no file. -/
theorem contents_makeDirectories (tree : FileTree) (path : String) :
    (tree.makeDirectories path).2.contents = tree.contents := by
  unfold makeDirectories
  split
  · rfl
  · split
    · rfl
    · exact contents_ensureAll tree _

/-- A file that was found is what its path leads to, and the path does not end in a slash. -/
theorem file_ok {tree : FileTree} {path : String} {number : Nat}
    (found : tree.file path = .ok number) :
    tree.resolve path = .ok (.taken (.file number)) ∧ Path.endsInSlash path = false := by
  unfold file at found
  split at found
  next => cases found
  next => cases found
  next => cases found
  next other leads =>
    split at found
    next => cases found
    next plain =>
      cases found
      exact ⟨leads, Bool.not_eq_true _ ▸ plain⟩

/-- What a path without a final slash leads to is found as a file if it is one. -/
theorem file_of_resolve {tree : FileTree} {path : String} {number : Nat}
    (leads : tree.resolve path = .ok (.taken (.file number)))
    (plain : Path.endsInSlash path = false) : tree.file path = .ok number := by
  rw [file, leads]
  simp [plain]

/-- A file that is found can be filled. -/
theorem file_lt {tree : FileTree} {path : String} {number : Nat}
    (found : tree.file path = .ok number) : number < tree.contents.length := by
  have leads := (file_ok found).1
  unfold resolve at leads
  split at leads
  next => cases leads
  next => exact lt_of_locate leads

/-- Opening finds a file or adds one, and then the file is found. -/
theorem openFile_ok {tree after : FileTree} {path : String} {number : Nat}
    (opened : tree.openFile path = (.ok number, after)) :
    after.file path = .ok number ∧ Grows tree after := by
  unfold openFile at opened
  split at opened
  next => cases opened
  next place leads =>
    split at opened
    next => cases opened
    next slash =>
      have plain : Path.endsInSlash path = false := Bool.not_eq_true _ ▸ slash
      split at opened
      next => cases opened
      next =>
        cases opened
        exact ⟨file_of_resolve leads plain, .refl tree⟩
      next directory name =>
        cases opened
        unfold resolve at leads
        split at leads
        next => cases leads
        next valid =>
          have added := Grows.addFile (node?_of_locate_free leads)
          refine ⟨file_of_resolve ?_ plain, added⟩
          rw [resolve_of_valid valid]
          exact added.locate_free leads (node?_addFile tree directory name)

/-- Opening changes the content of no file: a file that is added is empty. -/
theorem content_openFile (tree : FileTree) (path : String) (number : Nat) :
    (tree.openFile path).2.content number = tree.content number := by
  unfold openFile
  split
  · rfl
  · split
    · rfl
    · split
      · rfl
      · rfl
      · simp only [FileTree.content, addFile, List.getD_eq_getElem?_getD, List.getElem?_append]
        split
        next => rfl
        next beyond =>
          have none : tree.contents[number]? = none := by simpa using beyond
          rw [none]
          cases number - tree.contents.length <;> rfl

/-- A file that is found is opened without a change. -/
theorem openFile_found {tree : FileTree} {path : String} {number : Nat}
    (found : tree.file path = .ok number) : tree.openFile path = (.ok number, tree) := by
  obtain ⟨leads, plain⟩ := file_ok found
  rw [openFile, leads]
  simp [plain]

/-- A file that was found is read whole. -/
theorem read_of_file {tree : FileTree} {path : String} {number : Nat}
    (found : tree.file path = .ok number) : tree.read path = .ok (tree.content number) := by
  rw [read, found]
  rfl

end CausalTrace.FileTree
