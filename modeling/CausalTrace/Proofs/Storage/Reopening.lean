import CausalTrace.Proofs.Storage.Grammar
import CausalTrace.Proofs.Storage.Paths

/-!
# Opening what can be read

Opening a log and reading it replay the same bytes, so they agree on what is there and on whether it
is damaged.  Opening also cuts off a torn tail.  No byte in front of it tells that it was there: the
bytes that stay have the form of the whole with nothing behind the last frame.  So opening repairs
once, and whoever reads or opens the log after it finds the same frames and nothing torn.

The log is all that has to be known: a directory is there if a file is found in it.
-/

namespace CausalTrace

/-! ## The directory of a file -/

/-- The last name of the path of a log is that of its file, behind those of its directory. -/
theorem Path.names_filePath (directory : String) :
    names (LogStore.filePath directory) = names directory ++ [LogStore.fileName] :=
  names_join (by decide) directory

namespace FileTree

/-- Names lead to a file only through a directory. -/
theorem locate_directory {tree : FileTree} {here number : Nat} {above : List Nat}
    {names : List String} {name : String}
    (found : tree.locate here above (names ++ [name]) = .ok (.taken (.file number))) :
    ∃ directory, tree.locate here above names = .ok (.taken (.directory directory)) := by
  induction names generalizing here above with
  | nil => exact ⟨here, rfl⟩
  | cons first rest ih =>
    have more : rest ++ [name] ≠ [] := List.append_ne_nil_of_right_ne_nil _ (List.cons_ne_nil _ _)
    rw [List.cons_append, locate] at found
    rw [locate]
    by_cases dot : first = "."
    · rw [if_pos dot] at found ⊢
      exact ih found
    by_cases dots : first = ".."
    · rw [if_neg dot, if_pos dots] at found ⊢
      exact ih found
    by_cases long : FileFault.nameLimit < first.utf8ByteSize
    · rw [if_neg dot, if_neg dots, if_pos long] at found
      cases found
    rw [if_neg dot, if_neg dots, if_neg long] at found ⊢
    cases stands : tree.node? here first with
    | none => simp only [stands, if_neg more, reduceCtorEq] at found
    | some node =>
      cases node with
      | file _ => simp only [stands, if_neg more, reduceCtorEq] at found
      | directory _ =>
        rw [stands] at found
        exact ih found

/-- Where the log of a directory is found, the directory is. -/
theorem logAt_of_file {tree : FileTree} {directory : String} {file : Nat}
    (found : tree.file (LogStore.filePath directory) = .ok file) : tree.LogAt directory file := by
  refine ⟨?_, found⟩
  by_cases empty : directory = ""
  · exact .inl empty
  · have leads := (file_ok found).1
    unfold resolve at leads
    split at leads
    next => cases leads
    next valid =>
      rw [follow, Path.names_filePath] at leads
      exact .inr ⟨Path.ofPath?_of_join empty valid, locate_directory leads⟩

end FileTree

/-! ## What is left of a log -/

namespace Log

/-- A form without its torn tail. -/
def Form.repaired (form : Form) : Form := { form with tail := [] }

/-- Cut off in front of its torn tail, a log has the form that it had, with nothing behind
the last frame. -/
theorem Form.Of.repaired {form : Form} {bytes : Bytes} (of : form.Of bytes) :
    form.repaired.Of (bytes.take (bytes.length - form.tail.length)) := by
  have whole : (form.head ++ form.frames.flatten) ++ form.tail = bytes := by
    rw [List.append_assoc, of.whole]
  refine ⟨of.head, of.frames, .empty rfl, ?_⟩
  rw [← whole, List.length_append, Nat.add_sub_cancel, List.take_left]
  exact congrArg _ (List.append_nil _)

/-- A log that is replayed has a form. -/
theorem exists_form_of_replay {bytes : Bytes} {found : Replay}
    (replayed : replay bytes = .ok found) :
    ∃ form : Form, form.Of bytes ∧ found = ⟨form.batches, form.tail.length⟩ := by
  have isHead : IsHead (bytes.take headSize) := by
    refine checkHead_ok_iff.1 ?_
    cases checked : checkHead bytes with
    | ok => rfl
    | error fault =>
      rw [replay, checked] at replayed
      cases replayed
  obtain ⟨form, of⟩ | ⟨offset, damage, damaged⟩ := form_or_damagedAt isHead
  · exact ⟨form, of, Except.ok.inj (replayed.symm.trans of.replay)⟩
  · rw [damaged.replay isHead] at replayed
    cases replayed

/-- What stays of a log in front of its torn tail is not empty, and is replayed to the same
batches with nothing torn. -/
theorem replay_kept {bytes : Bytes} {found : Replay} (replayed : replay bytes = .ok found) :
    let kept := bytes.take (bytes.length - found.tornBytes)
    found.tornBytes ≤ bytes.length ∧ kept ≠ [] ∧ replay kept = .ok ⟨found.batches, 0⟩ := by
  obtain ⟨form, of, rfl⟩ := exists_form_of_replay replayed
  refine ⟨?_, ?_, of.repaired.replay⟩
  · rw [← of.whole]
    simp only [List.length_append]
    omega
  · intro empty
    have size := congrArg List.length of.repaired.whole
    rw [empty, List.length_append, of.repaired.head.size, headSize, List.length_nil] at size
    omega

end Log

/-! ## Opening -/

namespace LogStore

open FileTree

/-- What opening a log has done that is read as a snapshot. -/
structure Repaired (tree : FileTree) (directory : String) (content : Bytes)
    (snapshot : LogSnapshot) (store : LogStore) (after : FileTree) : Prop where
  recovery : store.recovery = snapshot.recovery
  torn : snapshot.recovery.tornBytes ≤ content.length
  /-- The log is what it was without the torn bytes, and nothing else is changed. -/
  cut : after.read (filePath directory)
    = .ok (content.take (content.length - snapshot.recovery.tornBytes))
  others : after = tree.fill store.file
    (content.take (content.length - snapshot.recovery.tornBytes))
  size : store.size = content.length - snapshot.recovery.tornBytes
  /-- What is read of it is what was read of it before, with nothing torn. -/
  read : LogSnapshot.read after directory
    = .ok ⟨directory, snapshot.contents, ⟨snapshot.recovery.frames, 0⟩⟩
  /-- Whoever opens it again finds the same frames and changes nothing. -/
  again : ∀ sync, ∃ reopened, openIn after directory sync = (.ok reopened, after) ∧
    reopened.recovery = ⟨snapshot.recovery.frames, 0⟩ ∧ reopened.size = store.size

/-- A log that is replayed is repaired when it is opened. -/
theorem repaired_of_replay {tree : FileTree} {directory : String} {file : Nat}
    {found : Log.Replay} (log : tree.LogAt directory file) (filled : tree.content file ≠ [])
    (replayed : Log.replay (tree.content file) = .ok found) (sync : SyncMode) :
    ∃ store after, openIn tree directory sync = (.ok store, after) ∧
      Repaired tree directory (tree.content file)
        ⟨directory, Contents.empty.applyAll found.batches, found.recovery⟩ store after := by
  obtain ⟨torn, stays, keptReplayed⟩ := Log.replay_kept replayed
  generalize cut : (tree.content file).take ((tree.content file).length - found.tornBytes) = kept
    at stays keptReplayed
  have size : kept.length = (tree.content file).length - found.tornBytes := by
    rw [← cut, List.length_take]
    omega
  have keptLog : (tree.fill file kept).LogAt directory file := log.fill file kept
  have keptContent : (tree.fill file kept).content file = kept := content_fill_self log.lt kept
  have opened : openIn tree directory sync
      = (.ok ⟨directory, file, sync, 0, kept.length, found.recovery⟩, tree.fill file kept) := by
    rw [openIn_log log, repair, if_neg filled, replayed]
    simp only [Except.map, cut]
  refine ⟨_, _, opened, rfl, torn, ?_, congrArg _ cut.symm, size, ?_, fun mode => ?_⟩
  · rw [read_of_file keptLog.found, keptContent]
    exact congrArg _ cut.symm
  · exact read_replayed keptLog (keptContent.symm ▸ keptReplayed)
  · have again := openIn_untorn keptLog (keptContent.symm ▸ stays) (keptContent.symm ▸ keptReplayed)
      mode
    exact ⟨_, again, rfl, congrArg List.length keptContent⟩

/-- Opening a log succeeds exactly if reading it does and finds the same.  If both are refused, it
is for the same damage, and the tree is as it was.  If they succeed, opening has cut off what is
torn, once and for all. -/
theorem open_agrees_with_read {tree : FileTree} {directory : String} {content : Bytes}
    (there : tree.read (filePath directory) = .ok content) (filled : content ≠ [])
    (sync : SyncMode) :
    (∃ damage, LogSnapshot.read tree directory = .error (corruption damage) ∧
        openIn tree directory sync = (.error (corruption damage), tree)) ∨
      ∃ snapshot store after, LogSnapshot.read tree directory = .ok snapshot ∧
        openIn tree directory sync = (.ok store, after) ∧
        Repaired tree directory content snapshot store after := by
  cases found : tree.file (filePath directory) with
  | error fault =>
    rw [FileTree.read, found] at there
    cases there
  | ok file =>
    have log := logAt_of_file found
    obtain rfl : tree.content file = content :=
      Except.ok.inj ((read_of_file found).symm.trans there)
    cases replayed : Log.replay (tree.content file) with
    | error damage =>
      refine .inl ⟨damage, ?_, ?_⟩
      · rw [read_log log, LogSnapshot.ofLog, replayed]
        rfl
      · rw [openIn_log log, repair, if_neg filled, replayed]
        rfl
    | ok replay =>
      obtain ⟨store, after, opened, repaired⟩ := repaired_of_replay log filled replayed sync
      exact .inr ⟨_, store, after, read_replayed log replayed, opened, repaired⟩

/-- A log with one frame, behind which the head of another is cut off. -/
theorem open_agrees_with_read_tornHead :
    let frame : Bytes :=
      [17, 0, 0, 0, 165, 12, 178, 140, 1, 0, 0, 0, 1, 0, 112, 1, 0, 0, 0, 107, 1, 0, 0, 0, 49]
    let content : Bytes := Log.head ++ (frame ++ [17, 0, 0])
    let tree := (openIn .empty "d" .onClose).2.fill 0 content
    tree.read (filePath "d") = .ok content ∧ content ≠ [] ∧
      ∃ snapshot store after, LogSnapshot.read tree "d" = .ok snapshot ∧
        snapshot.recovery = ⟨1, 3⟩ ∧ openIn tree "d" .onClose = (.ok store, after) ∧
        Repaired tree "d" content snapshot store after := by
  intro frame content tree
  have there : tree.read (filePath "d") = .ok content := rfl
  have filled : content ≠ [] := List.cons_ne_nil _ _
  have written : Frame.encode [⟨"p", "k", [49]⟩] = .ok frame :=
    Frame.ok_of_toOption (by decide +kernel)
  have of : Log.Form.Of ⟨Log.head, [frame], [[⟨"p", "k", [49]⟩]], [17, 0, 0]⟩ content :=
    ⟨⟨rfl, rfl, rfl⟩, Log.decodes_iff.2 (by rw [Log.Frames, List.map_singleton, written]; rfl),
      .short (by decide), rfl⟩
  have log : tree.LogAt "d" 0 := logAt_of_file rfl
  have found := read_replayed log of.replay
  obtain ⟨damage, refused, -⟩ | ⟨snapshot, store, after, read, opened, repaired⟩ :=
    open_agrees_with_read there filled .onClose
  · rw [found] at refused
    cases refused
  · rw [found] at read
    cases read
    exact ⟨there, filled, _, store, after, found, rfl, opened, repaired⟩

end LogStore

end CausalTrace
