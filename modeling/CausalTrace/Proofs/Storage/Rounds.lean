import CausalTrace.Proofs.Storage.Bursts
import Mathlib.Data.Prod.Basic

/-!
# Logs that are cut off and written on

A log file that is cut off at any place is opened again as the log of the frames that are still
whole.  The next frame is written where the last whole one ends, so that a cut loses the frames it
hits and no others, however often the file is cut off, opened again and written on.  Two places are
special: without a single byte the file is a new log, and with some but not all bytes of the head it
is refused and left alone.
-/

namespace CausalTrace

namespace Log

/-- Batches have one list of frames. -/
theorem Frames.unique {batches : List Batch} {frames others : List Bytes}
    (written : Frames batches frames) (again : Frames batches others) : frames = others :=
  (List.map_inj_right fun _ _ => Except.ok.inj).1 (written.symm.trans again)

/-- How many frames lie wholly within the first bytes of a log. -/
def WholeWithin (frames : List Bytes) (cut count : Nat) : Prop :=
  count ≤ frames.length ∧
    ∀ other ≤ frames.length, other ≤ count ↔ other = 0 ∨ endOf frames other ≤ cut

instance (frames : List Bytes) (cut count : Nat) : Decidable (WholeWithin frames cut count) :=
  inferInstanceAs (Decidable (_ ∧ _))

/-- There is one number of frames that are whole before a cut. -/
theorem WholeWithin.unique {frames : List Bytes} {cut count other : Nat}
    (counted : WholeWithin frames cut count) (again : WholeWithin frames cut other) :
    other = count := by
  have least := (counted.2 other again.1).trans (again.2 other again.1).symm
  have most := (again.2 count counted.1).trans (counted.2 count counted.1).symm
  exact Nat.le_antisymm (least.2 (Nat.le_refl _)) (most.2 (Nat.le_refl _))

/-- There are none without the whole head. -/
theorem WholeWithin.none {frames : List Bytes} {cut count : Nat}
    (counted : WholeWithin frames cut count) (short : cut < headSize) : count = 0 := by
  refine ((counted.2 count counted.1).1 (Nat.le_refl _)).resolve_right fun inside => ?_
  rw [endOf] at inside
  omega

/-- The last whole frame ends before the cut. -/
theorem WholeWithin.endOf_le {frames : List Bytes} {cut count : Nat}
    (counted : WholeWithin frames cut count) (behindHead : headSize ≤ cut) :
    endOf frames count ≤ cut := by
  rcases (counted.2 count counted.1).1 (Nat.le_refl _) with rfl | inside
  · exact behindHead
  · exact inside

/-- A log that is cut off at the end of one of its frames is the log of the frames up to there. -/
theorem take_endOf (frames : List Bytes) (count : Nat) :
    (head ++ frames.flatten).take (endOf frames count) = head ++ (frames.take count).flatten := by
  have parts : frames.flatten = (frames.take count).flatten ++ (frames.drop count).flatten := by
    rw [← List.flatten_append, List.take_append_drop]
  rw [parts, ← List.append_assoc]
  exact List.take_left' (by rw [List.length_append, length_head, endOf])

/-- A log that is cut off behind its head is replayed to the batches of its whole frames. -/
theorem replay_cut {batches : List Batch} {frames : List Bytes} (written : Frames batches frames)
    {cut : Nat} (behindHead : headSize ≤ cut) :
    ∃ count, WholeWithin frames cut count ∧
      replay ((head ++ frames.flatten).take cut) = .ok ⟨batches.take count,
        ((head ++ frames.flatten).take cut).length - endOf frames count⟩ := by
  by_cases present : cut ≤ (head ++ frames.flatten).length
  · obtain ⟨count, known, counted, replayed⟩ := replay_take written behindHead present
    refine ⟨count, ⟨known, fun other within => ?_⟩, ?_⟩
    · rw [counted other within]
      constructor
      · exact .inr
      · rintro (rfl | inside)
        · exact behindHead
        · exact inside
    · rw [List.length_take_of_le present, replayed]
  · have all := List.take_of_length_le (Nat.le_of_not_le present)
    refine ⟨frames.length, ⟨Nat.le_refl _, fun other within => ?_⟩, ?_⟩
    · have inside := endOf_le_length frames other
      omega
    · rw [all, endOf_length, Nat.sub_self, replay_flatten written, ← written.length_eq,
        List.take_length]

/-- Some but not all bytes of a head are refused. -/
theorem replay_headless {bytes : Bytes} (short : bytes.length < headSize) :
    ∃ reason, replay bytes = .error ⟨0, reason⟩ :=
  ⟨(HeadFault.tooShort bytes.length).message, by rw [replay, checkHead, if_pos short]⟩

end Log

namespace LogStore

/-- The file of a store that is no longer open is cut off, once or several times.  In between its
directory may be opened in vain. -/
inductive Cuts (disk : LogStore × FileTree) : Nat → FileTree → Prop where
  | once (cut : Nat) :
      Cuts disk cut (disk.2.fill disk.1.file ((disk.2.content disk.1.file).take cut))
  | again {prior tree} (cuts : Cuts disk prior tree) (cut : Nat) :
      Cuts disk (min cut prior) (tree.fill disk.1.file ((tree.content disk.1.file).take cut))
  | refused {cut tree sync failure after} (cuts : Cuts disk cut tree)
      (failed : openIn tree disk.1.directory sync = (.error failure, after)) : Cuts disk cut after

/-- Batches that are committed to a log which is cut off now and then and opened again: those
that are still there. -/
inductive Rounds (start : LogStore × FileTree) : List Batch → LogStore × FileTree → Prop where
  | opened : Rounds start [] start
  | commit {batches disk batch after} (prior : Rounds start batches disk) (filled : batch ≠ [])
      (done : disk.1.commit disk.2 batch = (.ok (), after)) :
      Rounds start (batches ++ [batch]) after
  | reopened {batches frames disk cut damaged count sync store after}
      (prior : Rounds start batches disk) (cuts : Cuts disk cut damaged)
      (written : Log.Frames batches frames) (counted : Log.WholeWithin frames cut count)
      (opened : openIn damaged disk.1.directory sync = (.ok store, after)) :
      Rounds start (batches.take count) (store, after)

/-- Opening a directory succeeds and leaves a log of batches, to which more can be committed. -/
def Resumes (tree : FileTree) (directory : String) (sync : SyncMode) (after : FileTree)
    (batches : List Batch) (torn size : Nat) : Prop :=
  ∃ store, openIn tree directory sync = (.ok store, after) ∧
    store.recovery = ⟨batches.length, torn⟩ ∧ store.size = size ∧
    (after.content store.file).length = size ∧
    ∀ more disk, Commits (store, after) more disk →
      LogSnapshot.read disk.2 directory = .ok ⟨directory, Contents.empty.applyAll (batches ++ more),
        ⟨batches.length + more.length, 0⟩⟩

section Cut

variable {disk : LogStore × FileTree} {batches : List Batch} {frames : List Bytes}

/-- Committing goes on from what a log holds. -/
theorem Commits.continue {after : LogStore × FileTree} {more : List Batch}
    (commits : Commits disk more after) (keeps : Keeps disk batches frames) :
    ∃ written, Keeps after (batches ++ more) written := by
  induction commits with
  | opened => exact ⟨frames, by rwa [List.append_nil]⟩
  | commit prior filled done ih =>
    obtain ⟨written, further⟩ := ih
    obtain ⟨frame, last⟩ := further.commit filled done
    exact ⟨written ++ [frame], by rwa [← List.append_assoc]⟩

/-- A store that was opened again resumes behind the frames that it found. -/
theorem Keeps.resumes {tree : FileTree} {sync : SyncMode} {torn : Nat}
    (keeps : Keeps disk batches frames) (found : disk.1.recovery = ⟨batches.length, torn⟩)
    (opened : openIn tree disk.1.directory sync = (.ok disk.1, disk.2)) :
    Resumes tree disk.1.directory sync disk.2 batches torn (Log.endOf frames batches.length) := by
  have size : (disk.2.content disk.1.file).length = Log.endOf frames batches.length := by
    rw [keeps.content, keeps.written.length_eq, Log.endOf_length]
  refine ⟨disk.1, opened, found, keeps.size.trans size, size, fun more after commits => ?_⟩
  obtain ⟨written, further⟩ := commits.continue keeps
  have read := further.read
  rw [commits.same.1, List.length_append] at read
  exact read

/-- What cutting leaves of a log is the first bytes of it, under the same path. -/
theorem Cuts.content (keeps : Keeps disk batches frames) {cut : Nat} {tree : FileTree}
    (cuts : Cuts disk cut tree) :
    tree.LogAt disk.1.directory disk.1.file ∧
      tree.content disk.1.file = (Log.head ++ frames.flatten).take cut := by
  induction cuts with
  | once cut =>
    exact ⟨keeps.log.fill _ _, by rw [FileTree.content_fill_self keeps.log.lt, keeps.content]⟩
  | again cuts cut ih =>
    obtain ⟨log, content⟩ := ih
    exact ⟨log.fill _ _, by rw [FileTree.content_fill_self log.lt, content, List.take_take]⟩
  | @refused cut tree sync failure after cuts failed ih =>
    obtain ⟨log, content⟩ := ih
    have same : after = tree := by
      rw [openIn_log log] at failed
      cases repaired : repair (tree.content disk.1.file) with
      | error found =>
        rw [repaired] at failed
        exact (Prod.mk.inj failed).2.symm
      | ok found =>
        rw [repaired] at failed
        cases (Prod.mk.inj failed).1
    exact same ▸ ⟨log, content⟩

/-- Without a single byte left, opening starts a log. -/
theorem Cuts.open_empty (keeps : Keeps disk batches frames) {tree : FileTree}
    (cuts : Cuts disk 0 tree) (sync : SyncMode) :
    ∃ store : LogStore, store.directory = disk.1.directory ∧ store.file = disk.1.file ∧
      store.recovery = ⟨0, 0⟩ ∧
      openIn tree disk.1.directory sync = (.ok store, tree.fill disk.1.file Log.head) ∧
      Keeps (store, tree.fill disk.1.file Log.head) [] [] := by
  obtain ⟨log, content⟩ := cuts.content keeps
  rw [List.take_zero] at content
  let store : LogStore :=
    ⟨disk.1.directory, disk.1.file, sync, 0, Log.head.length, ⟨0, 0⟩⟩
  have opened :
      openIn tree disk.1.directory sync = (.ok store, tree.fill disk.1.file Log.head) := by
    rw [openIn_log log, content, repair, if_pos rfl]
  exact ⟨store, rfl, rfl, rfl, opened, keeps_openIn opened content⟩

/-- With a part of the head left, opening is refused and changes nothing. -/
theorem Cuts.open_headless (keeps : Keeps disk batches frames) {cut : Nat} {tree : FileTree}
    (cuts : Cuts disk cut tree) (some : 1 ≤ cut) (few : cut ≤ 7) (sync : SyncMode) :
    ∃ reason, openIn tree disk.1.directory sync = (.error (.corruption 0 reason), tree) := by
  obtain ⟨log, content⟩ := cuts.content keeps
  have size : (tree.content disk.1.file).length = cut := by
    rw [content, List.length_take, List.length_append, Log.length_head, Log.headSize]
    omega
  have short : (tree.content disk.1.file).length < Log.headSize := by
    rw [size, Log.headSize]
    omega
  obtain ⟨reason, refused⟩ := Log.replay_headless short
  have filled : tree.content disk.1.file ≠ [] := by
    intro empty
    rw [empty] at size
    cases size
    cases some
  refine ⟨reason, ?_⟩
  rw [openIn_log log, repair, if_neg filled, refused]
  rfl

/-- With the whole head left, opening keeps the whole frames and cuts off the rest. -/
theorem Cuts.open_frames (keeps : Keeps disk batches frames) {cut : Nat} {tree : FileTree}
    (cuts : Cuts disk cut tree) (behindHead : Log.headSize ≤ cut) (sync : SyncMode) :
    ∃ count, Log.WholeWithin frames cut count ∧ ∃ store : LogStore,
      store.directory = disk.1.directory ∧ store.file = disk.1.file ∧
      store.recovery
        = ⟨count, (tree.content disk.1.file).length - Log.endOf frames count⟩ ∧
      let kept := tree.fill disk.1.file ((tree.content disk.1.file).take (Log.endOf frames count))
      openIn tree disk.1.directory sync = (.ok store, kept) ∧
        Keeps (store, kept) (batches.take count) (frames.take count) := by
  obtain ⟨log, content⟩ := cuts.content keeps
  obtain ⟨count, counted, replayed⟩ := Log.replay_cut keeps.written behindHead
  rw [← content] at replayed
  have inside : Log.endOf frames count ≤ (tree.content disk.1.file).length := by
    have within := Log.endOf_le_length frames count
    have before := counted.endOf_le behindHead
    rw [content, List.length_take]
    omega
  have filled : tree.content disk.1.file ≠ [] := by
    intro empty
    rw [empty, List.length_nil, Log.endOf, Log.headSize] at inside
    omega
  have known : (batches.take count).length = count := by
    rw [List.length_take, keeps.written.length_eq]
    exact Nat.min_eq_left counted.1
  have kept : (tree.content disk.1.file).length
      - ((tree.content disk.1.file).length - Log.endOf frames count) = Log.endOf frames count := by
    omega
  have frontBytes : (tree.content disk.1.file).take (Log.endOf frames count)
      = Log.head ++ (frames.take count).flatten := by
    rw [content, List.take_take, Nat.min_eq_left (counted.endOf_le behindHead), Log.take_endOf]
  -- What is opened is the store that would have written the whole frames and no more.
  let recovery : Recovery := ⟨count, (tree.content disk.1.file).length - Log.endOf frames count⟩
  let front := (tree.content disk.1.file).take (Log.endOf frames count)
  let store : LogStore := ⟨disk.1.directory, disk.1.file, sync, 0, front.length, recovery⟩
  refine ⟨count, counted, store, rfl, rfl, rfl, ?_, ?_⟩
  · rw [openIn_log log, repair, if_neg filled, replayed]
    simp only [Except.map, Log.Replay.recovery, known, kept]
    rfl
  exact
    { written := keeps.written.take count
      log := log.fill _ _
      content := (FileTree.content_fill_self log.lt _).trans frontBytes
      size := congrArg List.length (FileTree.content_fill_self log.lt _).symm }

end Cut

/-! ## Rounds -/

/-- Through all rounds the file holds exactly the frames of the batches that are still there. -/
theorem Rounds.keeps {start disk : LogStore × FileTree} {batches : List Batch}
    (rounds : Rounds start batches disk) (opened : Keeps start [] []) :
    disk.1.directory = start.1.directory ∧ disk.1.file = start.1.file ∧
      ∃ frames, Keeps disk batches frames := by
  induction rounds with
  | opened => exact ⟨rfl, rfl, [], opened⟩
  | commit prior filled done ih =>
    obtain ⟨directory, file, frames, keeps⟩ := ih
    obtain ⟨sameDirectory, sameFile⟩ := commit_same done
    obtain ⟨frame, further⟩ := keeps.commit filled done
    exact ⟨sameDirectory.trans directory, sameFile.trans file, _, further⟩
  | @reopened batches written disk cut damaged count sync store after prior cuts encoded counted
      opened ih =>
    obtain ⟨directory, file, frames, keeps⟩ := ih
    cases encoded.unique keeps.written
    by_cases some : cut = 0
    · subst some
      obtain ⟨other, sameDirectory, sameFile, -, again, empty⟩ := cuts.open_empty keeps sync
      rw [opened] at again
      cases again
      rw [counted.none (by decide), List.take_zero]
      exact ⟨sameDirectory.trans directory, sameFile.trans file, [], empty⟩
    by_cases headless : cut ≤ 7
    · obtain ⟨reason, refused⟩ := cuts.open_headless keeps (by omega) headless sync
      rw [opened] at refused
      cases refused
    · obtain ⟨other, again, found, sameDirectory, sameFile, -, reopened, further⟩ :=
        cuts.open_frames keeps (by rw [Log.headSize]; omega) sync
      rw [opened] at reopened
      cases reopened
      cases counted.unique again
      exact ⟨sameDirectory.trans directory, sameFile.trans file, _, further⟩

/-- A log that has gone through any number of rounds is cut off once more.  Without a byte left,
opening starts an empty log; with a part of the head left it is refused and changes nothing; with
the whole head left it keeps exactly the whole frames, cuts the file off behind them, and what is
committed from then on is read back behind their batches. -/
theorem Rounds.cut {tree opened : FileTree} {directory : String} {sync : SyncMode}
    {store : LogStore} {batches : List Batch} {disk : LogStore × FileTree}
    (started : openIn tree directory sync = (.ok store, opened))
    (fresh : tree.content store.file = []) (rounds : Rounds (store, opened) batches disk) :
    ∃ frames, Log.Frames batches frames ∧
      disk.2.content store.file = Log.head ++ frames.flatten ∧
      ∀ cut damaged, Cuts disk cut damaged → ∀ sync,
        let left := damaged.content store.file
        left = (disk.2.content store.file).take cut ∧
        (cut = 0 →
          Resumes damaged directory sync (damaged.fill store.file Log.head) [] 0 8) ∧
        (1 ≤ cut → cut ≤ 7 → ∃ reason,
          openIn damaged directory sync = (.error (.corruption 0 reason), damaged)) ∧
        (8 ≤ cut → ∃ count, Log.WholeWithin frames cut count ∧
          let stop := Log.endOf frames count
          Resumes damaged directory sync (damaged.fill store.file (left.take stop))
            (batches.take count) (left.length - stop) stop) := by
  obtain ⟨sameDirectory, sameFile, frames, keeps⟩ := rounds.keeps (keeps_openIn started fresh)
  replace sameDirectory : disk.1.directory = directory :=
    sameDirectory.trans (openIn_ok started).2.1
  replace sameFile : disk.1.file = store.file := sameFile
  have content := keeps.content
  rw [sameFile] at content
  refine ⟨frames, keeps.written, content, ?_⟩
  intro cut damaged cuts sync left
  refine ⟨?_, ?_, ?_, ?_⟩
  · rw [content, ← (cuts.content keeps).2, sameFile]
  · -- An empty file is a new log.
    rintro rfl
    obtain ⟨found, there, -, recovery, reopened, empty⟩ := cuts.open_empty keeps sync
    rw [sameFile] at reopened empty
    rw [← there] at reopened
    have resumes := empty.resumes recovery reopened
    rw [there, sameDirectory] at resumes
    exact resumes
  · intro some few
    rw [← sameDirectory]
    exact cuts.open_headless keeps some few sync
  · intro behindHead
    obtain ⟨count, counted, found, there, -, recovery, reopened, further⟩ :=
      cuts.open_frames keeps behindHead sync
    have known : (batches.take count).length = count := by
      rw [List.length_take, keeps.written.length_eq]
      exact Nat.min_eq_left counted.1
    have stop : Log.endOf (frames.take count) (batches.take count).length
        = Log.endOf frames count := by
      rw [known, Log.endOf, Log.endOf, List.take_take, Nat.min_self]
    rw [← there] at reopened
    have resumes := further.resumes (by rw [known]; exact recovery) reopened
    rw [stop, there, sameDirectory, sameFile] at resumes
    exact ⟨count, counted, resumes⟩

/-- Of two commits the second is cut into, the log is opened again and a third one follows. -/
theorem Rounds.cut_afterCut :
    let store : LogStore := ⟨"d", 0, .onClose, 0, 8, ⟨0, 0⟩⟩
    let opened := (openIn .empty "d" .onClose).2
    let first : Batch := [⟨"p", "k", [1]⟩]
    let second : Batch := [⟨"p", "l", [2]⟩]
    let third : Batch := [⟨"p", "m", [3]⟩]
    let one := store.commit opened first
    let two := one.2.1.commit one.2.2 second
    let damaged := two.2.2.fill 0 ((two.2.2.content 0).take 40)
    let again : LogStore := ⟨"d", 0, .onClose, 0, 33, ⟨1, 7⟩⟩
    let repaired := (openIn damaged "d" .onClose).2
    let three := again.commit repaired third
    one.1 = .ok () ∧ two.1 = .ok () ∧ openIn damaged "d" .onClose = (.ok again, repaired) ∧
      three.1 = .ok () ∧
      ∃ frames, Log.Frames [first, third] frames ∧
        three.2.2.content store.file = Log.head ++ frames.flatten ∧
        ∀ cut damaged, Cuts three.2 cut damaged → ∀ sync,
          let left := damaged.content store.file
          left = (three.2.2.content store.file).take cut ∧
          (cut = 0 → Resumes damaged "d" sync (damaged.fill store.file Log.head) [] 0 8) ∧
          (1 ≤ cut → cut ≤ 7 → ∃ reason,
            openIn damaged "d" sync = (.error (.corruption 0 reason), damaged)) ∧
          (8 ≤ cut → ∃ count, Log.WholeWithin frames cut count ∧
            let stop := Log.endOf frames count
            Resumes damaged "d" sync (damaged.fill store.file (left.take stop))
              ([first, third].take count) (left.length - stop) stop) := by
  intro store opened first second third one two damaged again repaired three
  have started : openIn .empty "d" .onClose = (.ok store, opened) := rfl
  have firstDone : one.1 = .ok () := rfl
  have secondDone : two.1 = .ok () := rfl
  have written : Log.Frames [first, second]
      [(two.2.2.content 0).drop 8 |>.take 25, (two.2.2.content 0).drop 33] :=
    .of_toOption (by decide +kernel)
  have cutOff : (openIn damaged "d" .onClose).1.toOption = some again := by decide +kernel
  have reopened : openIn damaged "d" .onClose = (.ok again, repaired) :=
    Prod.fst_eq_iff.1 (Frame.ok_of_toOption cutOff)
  have thirdDone : three.1 = .ok () := rfl
  have rounds : Rounds (store, opened) [first, second] two.2 :=
    .commit (.commit .opened (by simp [first]) (Prod.fst_eq_iff.1 firstDone)) (by simp [second])
      (Prod.fst_eq_iff.1 secondDone)
  have kept : Rounds (store, opened) ([first, second].take 1) (again, repaired) :=
    .reopened rounds (.once 40) written (by decide +kernel) reopened
  have last (tree : FileTree) (prior : Rounds (store, opened) [first] (again, tree)) :
      Rounds (store, opened) [first, third] (again.commit tree third).2 :=
    .commit prior (by simp [third]) (Prod.fst_eq_iff.1 rfl)
  exact ⟨firstDone, secondDone, reopened, thirdDone,
    (last repaired kept).cut started rfl⟩

end LogStore

end CausalTrace
