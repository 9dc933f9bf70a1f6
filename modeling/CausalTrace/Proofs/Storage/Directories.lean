import CausalTrace.Proofs.Storage.Logs
import CausalTrace.Proofs.Storage.Paths

/-!
# Names within a directory

Whether a path within a directory is free is decided by what the directory has under the name.  In a
tree where every directory has been made before it was spoken of, a new directory is empty, and so
is the log that is opened in it.
-/

namespace CausalTrace

/-- A place in a directory whose number is within a limit, or such a directory itself. -/
def Place.Within (limit : Nat) : Place → Prop
  | .taken (.directory number) => number ≤ limit
  | .taken (.file _) => True
  | .free directory _ => directory ≤ limit

namespace FileTree

variable {tree grown : FileTree}

/-! ## Where a path within a directory leads -/

/-- A path leads to the directory with a number.  The empty path leads to the top. -/
def LeadsTo (tree : FileTree) (path : String) (number : Nat) : Prop :=
  path = "" ∧ number = 0 ∨ tree.resolve path = .ok (.taken (.directory number))

/-- What a name in a directory is: taken or free. -/
def placeOf (tree : FileTree) (directory : Nat) (name : String) : Place :=
  match tree.node? directory name with
  | some node => .taken node
  | none => .free directory name

/-- A path that is resolved has no fault of its own, and its names lead there. -/
theorem resolve_ok {path : String} {place : Place} (resolved : tree.resolve path = .ok place) :
    FileFault.ofPath? path = none ∧ tree.follow (Path.names path) = .ok place := by
  unfold resolve at resolved
  split at resolved
  next => cases resolved
  next valid => exact ⟨valid, resolved⟩

/-- What a path leads to is there. -/
theorem LeadsTo.hasDirectory {path : String} {number : Nat} (leads : tree.LeadsTo path number) :
    tree.HasDirectory path := by
  rcases leads with ⟨empty, -⟩ | resolved
  · exact .inl empty
  · obtain ⟨valid, found⟩ := resolve_ok resolved
    exact .inr ⟨valid, number, found⟩

/-- A directory that is there has a number. -/
theorem HasDirectory.exists_leadsTo {path : String} (there : tree.HasDirectory path) :
    ∃ number, tree.LeadsTo path number := by
  rcases there with empty | ⟨valid, number, found⟩
  · exact ⟨0, .inl ⟨empty, rfl⟩⟩
  · exact ⟨number, .inr ((resolve_of_valid valid).trans found)⟩

/-- A path leads to one directory. -/
theorem LeadsTo.unique {path : String} {number other : Nat} (leads : tree.LeadsTo path number)
    (again : tree.LeadsTo path other) : number = other := by
  have nowhere : tree.resolve "" = .error .notFound := rfl
  rcases leads with ⟨empty, zero⟩ | resolved <;> rcases again with ⟨same, zero'⟩ | resolved'
  · rw [zero, zero']
  · rw [empty, nowhere] at resolved'
    cases resolved'
  · rw [same, nowhere] at resolved
    cases resolved
  · cases resolved.symm.trans resolved'
    rfl

/-- Growth adds up. -/
theorem Grows.trans {last : FileTree} (first : Grows tree grown) (second : Grows grown last) :
    Grows tree last :=
  fun directory name node found => second directory name node (first directory name node found)

/-- Whatever a path led to, it still leads to after growth. -/
theorem Grows.resolve_taken (grows : Grows tree grown) {path : String} {node : Node}
    (resolved : tree.resolve path = .ok (.taken node)) :
    grown.resolve path = .ok (.taken node) := by
  obtain ⟨valid, found⟩ := resolve_ok resolved
  exact (resolve_of_valid valid).trans (grows.locate_taken found)

/-- A path leads to the same directory after growth. -/
theorem Grows.leadsTo (grows : Grows tree grown) {path : String} {number : Nat}
    (leads : tree.LeadsTo path number) : grown.LeadsTo path number :=
  leads.imp_right grows.resolve_taken

/-- One proper name is looked for in the directory at hand. -/
theorem locate_proper (tree : FileTree) (here : Nat) (above : List Nat) {name : String}
    (proper : Path.Proper name) : tree.locate here above [name] = .ok (tree.placeOf here name) := by
  rw [locate, if_neg proper.notDot, if_neg proper.notDots, if_neg (Nat.not_lt.2 proper.short),
    placeOf]
  cases tree.node? here name with
  | none => rfl
  | some node => cases node <;> rfl

/-- Behind names that lead to a directory, further names are looked up there. -/
theorem locate_append {here number : Nat} {above : List Nat} {names : List String}
    (found : tree.locate here above names = .ok (.taken (.directory number))) :
    ∃ around, ∀ more, tree.locate here above (names ++ more) = tree.locate number around more := by
  fun_induction tree.locate here above names with
  | case1 here above =>
    cases found
    exact ⟨above, fun _ => rfl⟩
  | case2 here above rest ih =>
    obtain ⟨around, further⟩ := ih found
    exact ⟨around, fun more => by rw [List.cons_append, locate, if_pos rfl, further]⟩
  | case3 here above rest other ih =>
    obtain ⟨around, further⟩ := ih found
    exact ⟨around, fun more => by rw [List.cons_append, locate, if_neg other, if_pos rfl, further]⟩
  | case4 => cases found
  | case5 => cases found
  | case6 => cases found
  | case7 => cases found
  | case8 => cases found
  | case9 here above name rest dot dots short next present ih =>
    obtain ⟨around, further⟩ := ih found
    refine ⟨around, fun more => ?_⟩
    rw [List.cons_append, locate, if_neg dot, if_neg dots, if_neg short, present]
    exact further more

/-- A name joined to a path is looked for in the directory of the path. -/
theorem LeadsTo.follow_join {parent name : String} {number : Nat}
    (leads : tree.LeadsTo parent number) (proper : Path.Proper name) :
    tree.follow (Path.names (Path.join parent name)) = .ok (tree.placeOf number name) := by
  have alone := Path.names_slashless proper.filled proper.slashless
  rw [Path.names_join alone]
  rcases leads with ⟨rfl, rfl⟩ | resolved
  · exact tree.locate_proper 0 [] proper
  · obtain ⟨around, further⟩ := locate_append (resolve_ok resolved).2
    exact (further [name]).trans (tree.locate_proper number around proper)

/-- A path within a directory leads to what the directory has there, if there is room for it. -/
theorem LeadsTo.resolve_join {parent name : String} {number : Nat}
    (leads : tree.LeadsTo parent number) (proper : Path.Proper name) :
    tree.resolve (Path.join parent name)
      = if (Path.join parent name).utf8ByteSize < FileFault.pathLimit
        then .ok (tree.placeOf number name) else .error .nameTooLong := by
  have valid : parent = "" ∨ FileFault.ofPath? parent = none :=
    leads.imp And.left fun resolved => (resolve_ok resolved).1
  rw [resolve, Path.ofPath?_join proper valid]
  split
  next long =>
    split at long
    next => cases long
    next room =>
      cases long
      rw [if_neg room]
  next short =>
    split at short
    next room => rw [if_pos room, leads.follow_join proper]
    next => cases short

/-- A name that no entry has is free. -/
theorem placeOf_free {directory : Nat} {name : String} (free : tree.node? directory name = none) :
    tree.placeOf directory name = .free directory name := by
  rw [placeOf, free]

/-- A name that an entry has is taken by its node. -/
theorem placeOf_taken {directory : Nat} {name : String} {node : Node}
    (taken : tree.node? directory name = some node) :
    tree.placeOf directory name = .taken node := by
  rw [placeOf, taken]

/-! ## Trees in which nothing is spoken of before it is made -/

/-- Every directory that is spoken of, as one that has names or as one that a name stands
for, has been made. -/
structure Sound (tree : FileTree) : Prop where
  holders : ∀ {directory name node}, ((directory, name), node) ∈ tree.entries →
    directory ≤ tree.directories
  named : ∀ {place number}, (place, Node.directory number) ∈ tree.entries →
    number ≤ tree.directories

/-- The empty tree is sound. -/
theorem Sound.empty : Sound .empty where
  holders := nofun
  named := nofun

/-- What is in files has nothing to do with soundness. -/
theorem Sound.fill (sound : tree.Sound) (number : Nat) (content : Bytes) :
    (tree.fill number content).Sound where
  holders := sound.holders
  named := sound.named

/-- A directory added to a known one gets the next number, so the tree stays sound. -/
theorem Sound.addDirectory (sound : tree.Sound) {directory : Nat}
    (known : directory ≤ tree.directories) (name : String) :
    (tree.addDirectory directory name).Sound where
  holders present := by
    rcases List.mem_cons.1 present with new | old
    · cases new
      exact Nat.le_succ_of_le known
    · exact Nat.le_succ_of_le (sound.holders old)
  named present := by
    rcases List.mem_cons.1 present with new | old
    · cases new
      exact Nat.le_refl _
    · exact Nat.le_succ_of_le (sound.named old)

/-- A file added to a known directory leaves the tree sound. -/
theorem Sound.addFile (sound : tree.Sound) {directory : Nat}
    (known : directory ≤ tree.directories) (name : String) :
    (tree.addFile directory name).Sound where
  holders present := by
    rcases List.mem_cons.1 present with new | old
    · cases new
      exact known
    · exact sound.holders old
  named present := by
    rcases List.mem_cons.1 present with new | old
    · cases new
    · exact sound.named old

/-- A node that is found is that of an entry. -/
theorem mem_of_node? {directory : Nat} {name : String} {node : Node}
    (present : tree.node? directory name = some node) :
    ((directory, name), node) ∈ tree.entries := by
  obtain ⟨before, after, listed, -⟩ := List.lookup_eq_some_iff.1 present
  rw [listed]
  exact List.mem_append_right _ List.mem_cons_self

/-- A directory that has not been made has nothing in it. -/
theorem Sound.node?_beyond (sound : tree.Sound) {directory : Nat}
    (beyond : tree.directories < directory) (name : String) :
    tree.node? directory name = none := by
  cases present : tree.node? directory name with
  | none => rfl
  | some node => exact absurd (sound.holders (mem_of_node? present)) (Nat.not_le.2 beyond)

/-- From known directories only known directories are reached, upwards and downwards. -/
theorem Sound.within_locate (sound : tree.Sound) {here : Nat} {above : List Nat}
    {names : List String} {place : Place} (known : here ≤ tree.directories)
    (around : ∀ outer ∈ above, outer ≤ tree.directories)
    (found : tree.locate here above names = .ok place) : place.Within tree.directories := by
  fun_induction tree.locate here above names with
  | case1 here above =>
    cases found
    exact known
  | case2 here above rest ih => exact ih known around found
  | case3 here above rest other ih =>
    refine ih ?_ (fun outer later => around outer (List.mem_of_mem_tail later)) found
    cases above with
    | nil => exact known
    | cons first _ => exact around first List.mem_cons_self
  | case4 => cases found
  | case5 =>
    cases found
    exact known
  | case6 => cases found
  | case7 =>
    cases found
    trivial
  | case8 => cases found
  | case9 here above name rest dot dots short next present ih =>
    refine ih (sound.named (mem_of_node? present)) (fun outer later => ?_) found
    rcases List.mem_cons.1 later with rfl | before
    · exact known
    · exact around outer before

/-- Names that are followed from the root lead to known directories only. -/
theorem Sound.within_follow (sound : tree.Sound) {names : List String} {place : Place}
    (found : tree.follow names = .ok place) : place.Within tree.directories :=
  sound.within_locate (Nat.zero_le _) (fun _ none => absurd none List.not_mem_nil) found

/-- A path that is resolved lies in a known directory. -/
theorem Sound.within_resolve (sound : tree.Sound) {path : String} {place : Place}
    (resolved : tree.resolve path = .ok place) : place.Within tree.directories :=
  sound.within_follow (resolve_ok resolved).2

/-- A directory that a path leads to has been made. -/
theorem Sound.le_of_leadsTo (sound : tree.Sound) {path : String} {number : Nat}
    (leads : tree.LeadsTo path number) : number ≤ tree.directories := by
  rcases leads with ⟨-, rfl⟩ | resolved
  · exact Nat.zero_le _
  · exact sound.within_resolve resolved

/-! ## A new directory -/

section New

variable {parent name : String} {directory : Nat} (leads : tree.LeadsTo parent directory)
  (free : tree.node? directory name = none)

include leads free

/-- A directory that was made is found under its path. -/
theorem LeadsTo.addDirectory (proper : Path.Proper name)
    (room : (Path.join parent name).utf8ByteSize < FileFault.pathLimit) :
    (tree.addDirectory directory name).LeadsTo (Path.join parent name) (tree.directories + 1) := by
  have after := (Grows.addDirectory free).leadsTo leads
  refine .inr ?_
  rw [after.resolve_join proper, if_pos room,
    placeOf_taken (node?_addDirectory tree directory name)]

/-- It is empty. -/
theorem Sound.node?_addDirectory (sound : tree.Sound) (inner : String) :
    (tree.addDirectory directory name).node? (tree.directories + 1) inner = none := by
  have known := sound.le_of_leadsTo leads
  have apart : ((tree.directories + 1, inner) == (directory, name)) = false := by
    rw [beq_eq_false_iff_ne]
    intro same
    cases same
    omega
  rw [node?, FileTree.addDirectory, List.lookup_cons, apart]
  exact sound.node?_beyond (Nat.lt_succ_self _) inner

end New

/-! ## What is found and what is read -/

/-- A log stays found. -/
theorem Grows.logAt (grows : Grows tree grown) {directory : String} {file : Nat}
    (log : tree.LogAt directory file) : grown.LogAt directory file where
  made := grows.hasDirectory log.made
  found := by
    obtain ⟨leads, plain⟩ := file_ok log.found
    exact file_of_resolve (grows.resolve_taken leads) plain

/-- A directory has one log. -/
theorem LogAt.unique {directory : String} {file other : Nat} (log : tree.LogAt directory file)
    (again : tree.LogAt directory other) : file = other :=
  Except.ok.inj (log.found.symm.trans again.found)

/-- What was read is still read where no content has become another. -/
theorem Grows.read (grows : Grows tree grown) (contents : tree.contents <+: grown.contents)
    {path : String} {bytes : Bytes} (read : tree.read path = .ok bytes) :
    grown.read path = .ok bytes := by
  cases found : tree.file path with
  | error fault =>
    rw [FileTree.read, found] at read
    cases read
  | ok number =>
    obtain ⟨leads, plain⟩ := file_ok found
    have same : grown.content number = tree.content number := by
      obtain ⟨more, whole⟩ := contents
      rw [content, content, ← whole, List.getD_eq_getElem?_getD, List.getD_eq_getElem?_getD,
        List.getElem?_append_left (file_lt found)]
    rw [read_of_file (file_of_resolve (grows.resolve_taken leads) plain), same,
      ← read_of_file found, read]

/-! ## Making and opening -/

/-- What may become of a tree where nothing is taken away. -/
structure Lasts (tree after : FileTree) : Prop where
  grows : Grows tree after
  sound : tree.Sound → after.Sound

theorem Lasts.refl (tree : FileTree) : Lasts tree tree := ⟨.refl tree, id⟩

/-- What lasts twice lasts. -/
theorem Lasts.trans {last : FileTree} (first : Lasts tree grown) (second : Lasts grown last) :
    Lasts tree last :=
  ⟨first.grows.trans second.grows, fun sound => second.sound (first.sound sound)⟩

/-- Filling a file takes no name away. -/
theorem Lasts.fill (tree : FileTree) (number : Nat) (content : Bytes) :
    Lasts tree (tree.fill number content) :=
  ⟨.fill tree number content, fun sound => sound.fill number content⟩

/-- Making one directory takes nothing away, whether or not it goes well. -/
theorem Lasts.ensure (tree : FileTree) (names : List String) :
    Lasts tree (tree.ensure names).2 := by
  unfold FileTree.ensure
  split
  next => exact .refl tree
  next => exact .refl tree
  next => exact .refl tree
  next directory name free =>
    exact ⟨.addDirectory (node?_of_locate_free free),
      fun sound => sound.addDirectory (sound.within_follow free) name⟩

/-- Making directories one after the other takes nothing away, wherever it stops. -/
theorem Lasts.ensureAll (tree : FileTree) (ways : List (List String)) :
    Lasts tree (tree.ensureAll ways).2 := by
  induction ways generalizing tree with
  | nil => exact .refl tree
  | cons inner outer ih =>
    have first := Lasts.ensure tree inner
    rw [FileTree.ensureAll]
    split
    next between missing =>
      rw [missing] at first
      have others := first.trans (ih between)
      split
      next around made =>
        rw [made] at others
        exact others.trans (.ensure around inner)
      next => exact others
    next => exact first

/-- Making all directories of a path takes nothing away. -/
theorem Lasts.makeDirectories (tree : FileTree) (path : String) :
    Lasts tree (tree.makeDirectories path).2 := by
  unfold FileTree.makeDirectories
  split
  · exact .refl tree
  · split
    · exact .refl tree
    · exact .ensureAll tree _

/-- Opening a file makes it at most. -/
theorem Lasts.openFile (tree : FileTree) (path : String) : Lasts tree (tree.openFile path).2 := by
  unfold FileTree.openFile
  split
  next => exact .refl tree
  next place resolved =>
    split
    · exact .refl tree
    · split
      next => exact .refl tree
      next => exact .refl tree
      next directory name =>
        have free := (resolve_ok resolved).2
        exact ⟨.addFile (node?_of_locate_free free),
          fun sound => sound.addFile (sound.within_follow free) name⟩

/-- Making a directory takes nothing away. -/
theorem Lasts.makeDirectory (tree : FileTree) (path : String) :
    Lasts tree (tree.makeDirectory path).2 := by
  unfold FileTree.makeDirectory
  split
  next => exact .refl tree
  next => exact .refl tree
  next directory name resolved =>
    have free := (resolve_ok resolved).2
    exact ⟨.addDirectory (node?_of_locate_free free),
      fun sound => sound.addDirectory (sound.within_follow free) name⟩

end FileTree

namespace LogStore

open FileTree

/-- Opening a store takes no name away, also when it fails. -/
theorem lasts_openIn (tree : FileTree) (directory : String) (sync : SyncMode) :
    Lasts tree (openIn tree directory sync).2 := by
  have made := Lasts.makeDirectories tree directory
  unfold openIn
  split
  next failed =>
    rw [failed] at made
    exact made
  next between done =>
    rw [done] at made
    have opened := made.trans (Lasts.openFile between (filePath directory))
    split
    next failed =>
      rw [failed] at opened
      exact opened
    next number found done =>
      rw [done] at opened
      split
      · exact opened
      · exact opened.trans (.fill found number _)

/-- The name of the log can stand in a directory. -/
theorem proper_fileName : Path.Proper fileName :=
  ⟨by decide, by decide, by decide, by decide, by decide, by decide⟩

/-- In an empty directory a log is opened that has only its head. -/
theorem openIn_empty {tree : FileTree} {path : String} {number : Nat}
    (leads : tree.LeadsTo path number) (free : tree.node? number fileName = none)
    (room : (filePath path).utf8ByteSize < FileFault.pathLimit) (sync : SyncMode) :
    openIn tree path sync
      = (.ok ⟨path, tree.contents.length, sync, 0, Log.head.length, ⟨0, 0⟩⟩,
        (tree.addFile number fileName).fill tree.contents.length Log.head) := by
  have resolved : tree.resolve (filePath path) = .ok (.free number fileName) := by
    rw [filePath, leads.resolve_join proper_fileName, placeOf_free free]
    exact if_pos room
  have opened : tree.openFile (filePath path)
      = (.ok tree.contents.length, tree.addFile number fileName) := by
    rw [FileTree.openFile, resolved]
    simp [filePath, Path.endsInSlash_join proper_fileName]
  have blank : (tree.addFile number fileName).content tree.contents.length = [] := by
    simp [FileTree.content, FileTree.addFile]
  rw [openIn, leads.hasDirectory.makeDirectories]
  simp only [opened, blank]
  rfl

end LogStore

end CausalTrace
