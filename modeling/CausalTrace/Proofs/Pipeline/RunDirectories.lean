import CausalTrace.Proofs.Pipeline.Lifecycle
import CausalTrace.Proofs.Pipeline.RunNames
import CausalTrace.Proofs.Pipeline.Runs
import CausalTrace.Proofs.Recording.Lasting

/-!
# A directory for each run

Names are tried in turn until one is free, so a run takes the free name with the smallest number and
no other.  A tree never gives the number of a directory twice, so the directory of a run is new and
has no log in it.  Runs that follow one another, under whatever clock, therefore have as many
directories as there are runs, each with a log that was empty when its run began.
-/

namespace CausalTrace

namespace RunDirectory

/-- The path of a name that is tried is not too long. -/
def HasRoom (parent name : String) (number : Nat) : Prop :=
  (candidate parent name number).utf8ByteSize < FileFault.pathLimit

instance (parent name : String) (number : Nat) : Decidable (HasRoom parent name number) :=
  inferInstanceAs (Decidable (_ < _))

/-- The free name with the smallest number. -/
structure FirstFree (tree : FileTree) (directory : Nat) (name : String) (number : Nat) : Prop where
  within : number < names
  free : tree.node? directory (numbered name number) = none
  taken : ∀ smaller < number, (tree.node? directory (numbered name smaller)).isSome

/-! ## Trying names -/

section Trying

variable {tree after : FileTree} {parent path : String} {directory : Nat} {clock : Int64}
  (leads : tree.LeadsTo parent directory)

include leads

/-- What is found under a name that is tried. -/
theorem resolve_candidate {number : Nat} (within : number < names) :
    tree.resolve (candidate parent (name clock) number)
      = if HasRoom parent (name clock) number
        then .ok (tree.placeOf directory (numbered (name clock) number))
        else .error .nameTooLong :=
  leads.resolve_join (proper_numbered clock within)

/-- One name is tried: it is too long, or taken, or becomes the directory of the run. -/
theorem makeFrom_succ {left : Nat} (few : left < names) :
    makeFrom tree parent (name clock) (left + 1) =
      let number := names - (left + 1)
      if HasRoom parent (name clock) number then
        if (tree.node? directory (numbered (name clock) number)).isSome then
          makeFrom tree parent (name clock) left
        else .ok (candidate parent (name clock) number,
          tree.addDirectory directory (numbered (name clock) number))
      else .error FileFault.nameTooLong.message := by
  have within : names - (left + 1) < names := by omega
  have resolved : tree.resolve (candidate parent (name clock) (names - (left + 1))) = _ :=
    resolve_candidate leads within
  dsimp only
  by_cases room : HasRoom parent (name clock) (names - (left + 1))
  · rw [if_pos room]
    rw [if_pos room, candidate] at resolved
    cases stands : tree.node? directory (numbered (name clock) (names - (left + 1))) with
    | some node =>
      rw [FileTree.placeOf_taken stands] at resolved
      simp only [makeFrom, FileTree.makeDirectory, resolved, Option.isSome_some, if_true]
    | none =>
      rw [FileTree.placeOf_free stands] at resolved
      simp only [makeFrom, FileTree.makeDirectory, resolved, Option.isSome_none, candidate,
        Bool.false_eq_true, if_false]
  · rw [if_neg room]
    rw [if_neg room, candidate] at resolved
    simp only [makeFrom, FileTree.makeDirectory, resolved]

/-- The name that was taken is the first free one of those that were tried. -/
theorem makeFrom_ok {left : Nat} (few : left ≤ names)
    (done : makeFrom tree parent (name clock) left = .ok (path, after)) :
    ∃ number, number < names ∧ tree.node? directory (numbered (name clock) number) = none ∧
      (∀ smaller, names - left ≤ smaller → smaller < number →
        (tree.node? directory (numbered (name clock) smaller)).isSome) ∧
      path = candidate parent (name clock) number ∧ HasRoom parent (name clock) number ∧
      after = tree.addDirectory directory (numbered (name clock) number) := by
  induction left with
  | zero => cases done
  | succ left ih =>
    rw [makeFrom_succ leads (by omega)] at done
    dsimp only at done
    split at done
    next room =>
      split at done
      next taken =>
        obtain ⟨number, within, free, others, rest⟩ := ih (by omega) done
        refine ⟨number, within, free, fun smaller tried less => ?_, rest⟩
        by_cases first : smaller = names - (left + 1)
        · exact first ▸ taken
        · exact others smaller (by omega) less
      next free =>
        cases done
        refine ⟨names - (left + 1), by omega, Option.not_isSome_iff_eq_none.1 free,
          fun smaller tried less => ?_, rfl, room, rfl⟩
        omega
    next => cases done

/-- The first free name is taken, if there is room for it. -/
theorem makeFrom_of_firstFree {left number : Nat} (few : left ≤ names)
    (first : FirstFree tree directory (name clock) number)
    (room : HasRoom parent (name clock) number) (ahead : names - left ≤ number) :
    makeFrom tree parent (name clock) left
      = .ok (candidate parent (name clock) number,
        tree.addDirectory directory (numbered (name clock) number)) := by
  induction left with
  | zero => exact absurd first.within (Nat.not_lt.2 ahead)
  | succ left ih =>
    have shorter : HasRoom parent (name clock) (names - (left + 1)) :=
      Nat.lt_of_le_of_lt (size_candidate_mono ahead parent (name clock)) room
    rw [makeFrom_succ leads (by omega)]
    dsimp only
    rw [if_pos shorter]
    by_cases here : names - (left + 1) = number
    · rw [here, first.free]
      rfl
    · rw [if_pos (first.taken _ (by omega))]
      exact ih (by omega) (by omega)

/-- Where all names are taken there is none left. -/
theorem makeFrom_of_taken {left : Nat} (few : left ≤ names)
    (taken : ∀ number < names, (tree.node? directory (numbered (name clock) number)).isSome)
    (room : ∀ number < names, HasRoom parent (name clock) number) :
    makeFrom tree parent (name clock) left
      = .error ("no free run directory for " ++ name clock) := by
  induction left with
  | zero => rfl
  | succ left ih =>
    have within : names - (left + 1) < names := by omega
    rw [makeFrom_succ leads (by omega)]
    dsimp only
    rw [if_pos (room _ within), if_pos (taken _ within), ih (by omega)]

end Trying

/-! ## Making the directory of a run -/

section Making

variable {tree made after : FileTree} {parent path : String} {directory number : Nat}
  {clock : Int64}

/-- A directory that was made for a run is the first free one in the directory
that was asked for. -/
theorem make_ok (done : make tree parent clock = (.ok path, after)) :
    ∃ made directory number, tree.makeDirectories parent = (.ok (), made) ∧
      made.LeadsTo parent directory ∧ FirstFree made directory (name clock) number ∧
      path = candidate parent (name clock) number ∧ HasRoom parent (name clock) number ∧
      after = made.addDirectory directory (numbered (name clock) number) := by
  unfold make at done
  split at done
  next => cases done
  next made there =>
    obtain ⟨directory, leads⟩ := (FileTree.makeDirectories_ok there).exists_leadsTo
    split at done
    next found tree tried =>
      cases done
      obtain ⟨number, within, free, taken, rest⟩ := makeFrom_ok leads (Nat.le_refl names) tried
      exact ⟨made, directory, number, there, leads,
        ⟨within, free, fun smaller => taken smaller (by omega)⟩, rest⟩
    next => cases done

/-- A run directory is made under the first free name and is the only thing that is new. -/
theorem make_of_firstFree (there : tree.makeDirectories parent = (.ok (), made))
    (leads : made.LeadsTo parent directory) (first : FirstFree made directory (name clock) number)
    (room : HasRoom parent (name clock) number) :
    make tree parent clock = (.ok (candidate parent (name clock) number),
      made.addDirectory directory (numbered (name clock) number)) := by
  have tried := makeFrom_of_firstFree leads (Nat.le_refl names) first room (by omega)
  rw [make, there]
  simp only [tried]

/-- No directory is made where all names are taken. -/
theorem make_of_taken (there : tree.makeDirectories parent = (.ok (), made))
    (leads : made.LeadsTo parent directory)
    (taken : ∀ number < names, (made.node? directory (numbered (name clock) number)).isSome) :
    ∃ cause, make tree parent clock = (.error cause, made) ∧
      ((∀ number < names, HasRoom parent (name clock) number) →
        cause = "no free run directory for " ++ name clock) := by
  cases tried : makeFrom made parent (name clock) names with
  | ok found =>
    obtain ⟨number, within, free, -⟩ := makeFrom_ok leads (Nat.le_refl names) tried
    have some := taken number within
    rw [free] at some
    cases some
  | error cause =>
    refine ⟨cause, ?_, fun room => ?_⟩
    · rw [make, there]
      simp only [tried]
    · rw [makeFrom_of_taken leads (Nat.le_refl names) taken room] at tried
      exact (Except.error.inj tried).symm

end Making

end RunDirectory

namespace Pipeline

open RunDirectory

/-! ## Opening a log in a directory of its own -/

/-- The files once the directory has been made that runs are to be in. -/
def outputs (config : Config) (recording : Recording) : FileTree :=
  (recording.tree.makeDirectories config.outputDirectory).2

/-- The log that is opened for a run in a new directory. -/
def freshLog (config : Config) (recording : Recording) (path : String) : LogStore :=
  ⟨path, recording.tree.contents.length, config.syncMode, 0, Log.head.length, ⟨0, 0⟩⟩

/-- What has become of the files when a log was opened in a new directory. -/
structure FreshRun (config : Config) (before : Recording) (after : FileTree) (path : String)
    (parent number : Nat) : Prop where
  /-- The directory has the first free name in the output directory. -/
  output : (outputs config before).LeadsTo config.outputDirectory parent
  first : FirstFree (outputs config before) parent (name before.clock) number
  named : path = candidate config.outputDirectory (name before.clock) number
  /-- Nothing was found under its path, and no path led to it. -/
  absent : ¬∃ node, before.tree.resolve path = .ok (.taken node)
  leads : after.LeadsTo path ((outputs config before).directories + 1)
  new : ∀ other, ¬before.tree.LeadsTo other ((outputs config before).directories + 1)
  /-- The directory and its log are all that is added to the output directory and to the files. -/
  entries : after.entries =
    (((outputs config before).directories + 1, LogStore.fileName),
      .file before.tree.contents.length) ::
    ((parent, numbered (name before.clock) number),
      .directory ((outputs config before).directories + 1)) :: (outputs config before).entries
  contents : after.contents = before.tree.contents ++ [Log.head]
  /-- Every path leads where it led, and every file reads as it did. -/
  lasts : before.tree.Lasts after
  reads : ∀ {other bytes}, before.tree.read other = .ok bytes → after.read other = .ok bytes
  /-- The log is found, and it is empty. -/
  log : after.LogAt path before.tree.contents.length
  empty : LogSnapshot.read after path = .ok ⟨path, Contents.empty, ⟨0, 0⟩⟩

/-- A log that was opened in a directory has a path that is not too long. -/
theorem room_of_openIn {tree after : FileTree} {path : String} {sync : SyncMode} {store : LogStore}
    (opened : LogStore.openIn tree path sync = (.ok store, after)) :
    (LogStore.filePath path).utf8ByteSize < FileFault.pathLimit := by
  obtain ⟨resolved, -⟩ := FileTree.file_ok (LogStore.openIn_ok opened).1.found
  exact (Path.ofPath?_eq_none_iff.1 (FileTree.resolve_ok resolved).1).2.2

/-- Making the output directory takes no name away, and writes no file. -/
theorem lasts_outputs (config : Config) (recording : Recording) :
    recording.tree.Lasts (outputs config recording) :=
  .makeDirectories recording.tree config.outputDirectory

/-- Making the directory of all runs writes to no file. -/
theorem contents_outputs (config : Config) (recording : Recording) :
    (outputs config recording).contents = recording.tree.contents :=
  FileTree.contents_makeDirectories recording.tree config.outputDirectory

/-- Where there is room for a log there is room for its directory. -/
theorem hasRoom_of_filePath {parent name : String} {number : Nat}
    (room : (LogStore.filePath (candidate parent name number)).utf8ByteSize
      < FileFault.pathLimit) : HasRoom parent name number :=
  Nat.lt_trans (Path.size_lt_size_join LogStore.proper_fileName.filled _) room

/-- The files once a directory has been made for a run. -/
def withDirectory (config : Config) (recording : Recording) (parent number : Nat) : FileTree :=
  (outputs config recording).addDirectory parent (numbered (name recording.clock) number)

/-- The files once a log has been opened in it. -/
def withLog (config : Config) (recording : Recording) (parent number : Nat) : FileTree :=
  ((withDirectory config recording parent number).addFile
    ((outputs config recording).directories + 1) LogStore.fileName).fill
      recording.tree.contents.length Log.head

section Opening

variable {config : Config} {recording : Recording} {parent number : Nat}

/-- Opening a log in the directory that was made for a run. -/
theorem openIn_withDirectory (sound : recording.tree.Sound)
    (output : (outputs config recording).LeadsTo config.outputDirectory parent)
    (first : FirstFree (outputs config recording) parent (name recording.clock) number)
    (room : (LogStore.filePath
      (candidate config.outputDirectory (name recording.clock) number)).utf8ByteSize
        < FileFault.pathLimit) :
    let path := candidate config.outputDirectory (name recording.clock) number
    LogStore.openIn (withDirectory config recording parent number) path config.syncMode
      = (.ok (freshLog config recording path), withLog config recording parent number) := by
  intro path
  have leads : (withDirectory config recording parent number).LeadsTo path
      ((outputs config recording).directories + 1) :=
    output.addDirectory first.free (proper_numbered _ first.within) (hasRoom_of_filePath room)
  have blank : (withDirectory config recording parent number).node?
      ((outputs config recording).directories + 1) LogStore.fileName = none :=
    FileTree.Sound.node?_addDirectory output first.free ((lasts_outputs _ _).sound sound) _
  have size : (withDirectory config recording parent number).contents.length
      = recording.tree.contents.length := congrArg List.length (contents_outputs _ _)
  rw [LogStore.openIn_empty leads blank room, size]
  rfl

/-- What that leaves of the files. -/
theorem freshRun_withLog (sound : recording.tree.Sound)
    (output : (outputs config recording).LeadsTo config.outputDirectory parent)
    (first : FirstFree (outputs config recording) parent (name recording.clock) number)
    (room : (LogStore.filePath
      (candidate config.outputDirectory (name recording.clock) number)).utf8ByteSize
        < FileFault.pathLimit) :
    FreshRun config recording (withLog config recording parent number)
      (candidate config.outputDirectory (name recording.clock) number) parent number := by
  have short := hasRoom_of_filePath room
  have outer := lasts_outputs config recording
  have opens := openIn_withDirectory sound output first room
  have opening := LogStore.lasts_openIn (withDirectory config recording parent number)
    (candidate config.outputDirectory (name recording.clock) number) config.syncMode
  rw [opens] at opening
  have lasts : recording.tree.Lasts (withLog config recording parent number) := by
    refine outer.trans (.trans ⟨.addDirectory first.free, fun sound => ?_⟩ opening)
    exact sound.addDirectory (sound.le_of_leadsTo output) _
  have written : (withLog config recording parent number).contents
      = recording.tree.contents ++ [Log.head] := by
    simp [withLog, withDirectory, FileTree.fill, FileTree.addFile, FileTree.addDirectory,
      ← contents_outputs config recording]
  -- The file has the next number, and no file has been written under it.
  have nothing : (withDirectory config recording parent number).content
      (freshLog config recording (candidate config.outputDirectory (name recording.clock)
        number)).file = [] := by
    simp [withDirectory, freshLog, FileTree.content, FileTree.addDirectory,
      ← contents_outputs config recording]
  exact {
    output, first
    named := rfl
    absent := by
      rintro ⟨node, found⟩
      have later := outer.grows.resolve_taken found
      rw [resolve_candidate output first.within, if_pos short, FileTree.placeOf_free first.free]
        at later
      cases later
    leads := opening.grows.leadsTo
      (output.addDirectory first.free (proper_numbered _ first.within) short)
    new := fun other found => Nat.not_succ_le_self _
      ((outer.sound sound).le_of_leadsTo (outer.grows.leadsTo found))
    entries := by
      rw [← contents_outputs config recording]
      rfl
    contents := written
    lasts
    reads := lasts.grows.read ⟨_, written.symm⟩
    log := (LogStore.openIn_ok opens).1
    empty := (LogStore.keeps_openIn opens nothing).read }

/-- What is opened for a run is such a log. -/
theorem freshRun_of_openStore {tree : FileTree} {opened : OpenStore × Option String}
    (sound : recording.tree.Sound)
    (done : openStore config recording .runDirectory = (.ok opened, tree)) :
    ∃ path parent number, opened = (.log (freshLog config recording path), some path) ∧
      FreshRun config recording tree path parent number := by
  unfold openStore at done
  dsimp only at done
  split at done
  next path tree found =>
    obtain ⟨made, parent, number, there, output, first, rfl, -, rfl⟩ := make_ok found
    obtain ⟨store, rfl, opens⟩ := openLog_ok done
    have room := room_of_openIn opens
    obtain rfl : outputs config recording = made := by rw [outputs, there]
    have same := (openIn_withDirectory sound output first room).symm.trans opens
    cases same
    exact ⟨_, parent, number, rfl, freshRun_withLog sound output first room⟩
  next => cases done

end Opening

/-! ## Starting -/

section Starting

variable {pipeline running : Pipeline} {before after : Traffic} {parent number : Nat}
  {thread : Except String Unit}

/-- A start that succeeds has opened a log in a new directory and has a writer for it. -/
structure StartedFresh (pipeline running : Pipeline) (before after : Traffic) (path : String)
    (parent number : Nat) : Prop where
  directory : running.directory = some path
  files : FreshRun pipeline.config before.recording after.recording.tree path parent number
  recorders : after.recording.recorders = before.recording.recorders ++
    [⟨.new pipeline.config.channelCapacity pipeline.config.channelPolicy, .zero,
      some (.new pipeline.config.commitAttempts,
        .log (freshLog pipeline.config before.recording path))⟩]

/-- Every start that succeeds is such a start. -/
theorem startedFresh_of_start (sound : before.recording.tree.Sound)
    (begun : pipeline.start before .runDirectory thread = (.ok (), running, after)) :
    ∃ path parent number, StartedFresh pipeline running before after path parent number := by
  obtain ⟨store, directory, tree, run, opened, kept, -, into, added⟩ := start_opened begun
  obtain ⟨path, parent, number, same, fresh⟩ := freshRun_of_openStore sound opened
  cases same
  refine ⟨path, parent, number, ?_, ?_, ?_⟩
  · rw [Pipeline.directory, kept]
    exact into
  · rw [added]
    exact fresh
  · rw [added]
    rfl

/-- All is in order for a start but the name of the directory and the thread of the writer. -/
structure Ready (pipeline : Pipeline) (before : Traffic) (parent : Nat) : Prop where
  stopped : pipeline.state = "stopped"
  valid : pipeline.config.validate = .ok ()
  made : (before.recording.tree.makeDirectories pipeline.config.outputDirectory).1 = .ok ()
  output : (outputs pipeline.config before.recording).LeadsTo pipeline.config.outputDirectory parent

/-- Where all is in order the directory of all runs can be made. -/
theorem Ready.makeDirectories (ready : pipeline.Ready before parent) :
    before.recording.tree.makeDirectories pipeline.config.outputDirectory
      = (.ok (), outputs pipeline.config before.recording) :=
  Prod.ext ready.made rfl

/-- A start succeeds where a name is free, the path of the log in it is not too long and the
system gives a thread. -/
theorem Ready.starts (ready : pipeline.Ready before parent)
    (sound : before.recording.tree.Sound)
    (first : FirstFree (outputs pipeline.config before.recording) parent
      (name before.recording.clock) number)
    (room : (LogStore.filePath (candidate pipeline.config.outputDirectory
      (name before.recording.clock) number)).utf8ByteSize < FileFault.pathLimit) :
    ∃ running after, pipeline.start before .runDirectory (.ok ()) = (.ok (), running, after) := by
  have opens := openIn_withDirectory sound ready.output first room
  have made := make_of_firstFree ready.makeDirectories ready.output first (hasRoom_of_filePath room)
  refine start_ok_iff.2 ⟨ready.stopped, ready.valid, ?_, rfl⟩
  rw [openStore, made]
  dsimp only
  rw [← withDirectory, openLog, opens]
  exact ⟨_, _, rfl⟩

/-- A start fails where no name is free.  Neither the pipeline nor the bus is changed, and of the
files only the output directory is made. -/
theorem Ready.fails (ready : pipeline.Ready before parent)
    (taken : ∀ number < names, ((outputs pipeline.config before.recording).node? parent
      (numbered (name before.recording.clock) number)).isSome) :
    ∃ cause, pipeline.start before .runDirectory thread
        = (.error (.storeUnavailable (pipeline.config.outputDirectory ++ ": " ++ cause)), pipeline,
          before.withTree (outputs pipeline.config before.recording)) ∧
      ((∀ number < names,
          HasRoom pipeline.config.outputDirectory (name before.recording.clock) number) →
        cause = "no free run directory for " ++ name before.recording.clock) := by
  obtain ⟨cause, made, reason⟩ := make_of_taken ready.makeDirectories ready.output taken
  have stopped : pipeline.phase = .stopped := state_eq_stopped_iff.1 ready.stopped
  refine ⟨cause, ?_, reason⟩
  simp only [start, stopped, ready.valid, openStore, made, enter_enter, enter_phase]

end Starting

/-! ## One run after the other -/

/-- Runs that are started in directories of their own, one after the other, by one pipeline or by
several, with the paths of their directories.  Between two of them there may be traffic, while the
clock shows any times; pipelines may stop, start into something else or fail to start; and others
may put what they like into the directories, as long as they take no name away. -/
inductive RunsStarted (first : Traffic) : List String → Traffic → Prop where
  | none : RunsStarted first [] first
  | started {runs before after} {pipeline running : Pipeline} {path : String}
      {thread : Except String Unit} (prior : RunsStarted first runs before)
      (begun : pipeline.start before .runDirectory thread = (.ok (), running, after))
      (into : running.directory = some path) : RunsStarted first (runs ++ [path]) after
  | traffic {runs before after} (prior : RunsStarted first runs before)
      (leads : Traffic.Leads before after) : RunsStarted first runs after
  | stop {runs before} (prior : RunsStarted first runs before) (pipeline : Pipeline) :
      RunsStarted first runs (pipeline.stop before).2.2
  | start {runs before after result} {pipeline running : Pipeline} {source : StoreSource}
      {thread : Except String Unit} (prior : RunsStarted first runs before)
      (tried : pipeline.start before source thread = (result, running, after))
      (other : result = .ok () → source ≠ .runDirectory) : RunsStarted first runs after
  | others {runs before after} (prior : RunsStarted first runs before)
      (lasts : before.recording.tree.Lasts after.recording.tree) : RunsStarted first runs after

/-- Two paths lead to different directories, with different logs. -/
structure Apart (tree : FileTree) (left right : String) : Prop where
  directories : ∀ number, tree.LeadsTo left number → ¬tree.LeadsTo right number
  logs : ∀ file, tree.LogAt left file → ¬tree.LogAt right file

/-- The directory of a run is there with its log. -/
def Kept (tree : FileTree) (path : String) : Prop :=
  (∃ number, tree.LeadsTo path number) ∧ ∃ file, tree.LogAt path file

section Growing

variable {tree grown : FileTree} {left right path : String}

/-- The directory of a run and its log stay while a tree grows. -/
theorem Kept.grows (kept : Kept tree path) (grows : FileTree.Grows tree grown) :
    Kept grown path := by
  obtain ⟨⟨number, leads⟩, file, log⟩ := kept
  exact ⟨⟨number, grows.leadsTo leads⟩, file, grows.logAt log⟩

/-- What is apart stays apart. -/
theorem Apart.grows (apart : Apart tree left right) (first : Kept tree left)
    (second : Kept tree right) (grows : FileTree.Grows tree grown) : Apart grown left right := by
  obtain ⟨⟨number, leads⟩, file, log⟩ := first
  obtain ⟨⟨other, leads'⟩, file', log'⟩ := second
  constructor
  · intro found here there
    obtain rfl := (grows.leadsTo leads).unique here
    obtain rfl := (grows.leadsTo leads').unique there
    exact apart.directories _ leads leads'
  · intro found here there
    obtain rfl := (grows.logAt log).unique here
    obtain rfl := (grows.logAt log').unique there
    exact apart.logs _ log log'

/-- The directory of a new run is apart from that of every run before it. -/
theorem FreshRun.apart {config : Config} {before : Recording} {after : FileTree}
    {parent number : Nat} (fresh : FreshRun config before after path parent number)
    (kept : Kept before.tree left) : Apart after left path := by
  obtain ⟨⟨directory, leads⟩, file, log⟩ := kept
  have grows := fresh.lasts.grows
  constructor
  · intro found here there
    obtain rfl := (grows.leadsTo leads).unique here
    obtain rfl := fresh.leads.unique there
    exact fresh.new left leads
  · intro found here there
    obtain rfl := (grows.logAt log).unique here
    obtain rfl := fresh.log.unique there
    exact Nat.lt_irrefl _ log.lt

end Growing

/-- The directories of runs are there, each apart from the others. -/
structure AllApart (tree : FileTree) (runs : List String) : Prop where
  sound : tree.Sound
  kept : ∀ path ∈ runs, Kept tree path
  apart : runs.Pairwise (Apart tree)

/-- Runs stay apart from each other as long as no name is taken away. -/
theorem AllApart.lasts {tree after : FileTree} {runs : List String} (all : AllApart tree runs)
    (lasts : tree.Lasts after) : AllApart after runs where
  sound := lasts.sound all.sound
  kept path among := (all.kept path among).grows lasts.grows
  apart := all.apart.imp_of_mem fun left right each =>
    each.grows (all.kept _ left) (all.kept _ right) lasts.grows

/-- One more run has a directory apart from all others. -/
theorem AllApart.concat {config : Config} {before : Recording} {after : FileTree} {path : String}
    {parent number : Nat} {runs : List String} (all : AllApart before.tree runs)
    (fresh : FreshRun config before after path parent number) :
    AllApart after (runs ++ [path]) := by
  obtain ⟨sound, kept, apart⟩ := all.lasts fresh.lasts
  refine ⟨sound, fun other among => ?_, List.pairwise_append.2
    ⟨apart, List.pairwise_singleton _ _, fun left among right last => ?_⟩⟩
  · rcases List.mem_append.1 among with earlier | last
    · exact kept other earlier
    · rw [List.mem_singleton.1 last]
      exact ⟨⟨_, fresh.leads⟩, _, fresh.log⟩
  · rw [List.mem_singleton.1 last]
    exact fresh.apart (all.kept left among)

/-- Whatever happens between the starts, the directories of all runs stay apart. -/
theorem RunsStarted.allApart {first last : Traffic} {runs : List String}
    (history : RunsStarted first runs last) (sound : first.recording.tree.Sound) :
    AllApart last.recording.tree runs := by
  induction history with
  | none => exact ⟨sound, fun _ none => absurd none List.not_mem_nil, .nil⟩
  | started prior begun into ih =>
    obtain ⟨own, parent, number, started⟩ := startedFresh_of_start ih.sound begun
    obtain rfl := Option.some.inj (started.directory.symm.trans into)
    exact ih.concat started.files
  | traffic prior leads ih => exact ih.lasts leads.lasts
  | @stop runs before prior pipeline ih => exact ih.lasts (pipeline.lasts_stop before)
  | @start runs before after result pipeline running source thread prior tried other ih =>
    have lasts := pipeline.lasts_start before source thread
    rw [tried] at lasts
    exact ih.lasts lasts
  | others prior lasts ih => exact ih.lasts lasts

/-- What becomes of the next start into a new directory. -/
structure NextStart (pipeline : Pipeline) (before : Traffic) : Prop where
  /-- If it succeeds, the run has a new directory with an empty log, and all else is left. -/
  fresh : ∀ thread running after,
    pipeline.start before .runDirectory thread = (.ok (), running, after) →
      ∃ path parent number, StartedFresh pipeline running before after path parent number
  /-- It succeeds if a name is free and the system gives a thread. -/
  succeeds : ∀ parent number, pipeline.Ready before parent →
    FirstFree (outputs pipeline.config before.recording) parent (name before.recording.clock)
      number →
    (LogStore.filePath (candidate pipeline.config.outputDirectory (name before.recording.clock)
      number)).utf8ByteSize < FileFault.pathLimit →
    ∃ running after, pipeline.start before .runDirectory (.ok ()) = (.ok (), running, after)
  /-- It fails if all names are taken. -/
  fails : ∀ parent thread, pipeline.Ready before parent →
    (∀ number < names, ((outputs pipeline.config before.recording).node? parent
      (numbered (name before.recording.clock) number)).isSome) →
    ∃ cause, pipeline.start before .runDirectory thread
        = (.error (.storeUnavailable (pipeline.config.outputDirectory ++ ": " ++ cause)), pipeline,
          before.withTree (outputs pipeline.config before.recording)) ∧
      ((∀ number < names,
          HasRoom pipeline.config.outputDirectory (name before.recording.clock) number) →
        cause = "no free run directory for " ++ name before.recording.clock)
  /-- Where the output directory is there already, it is not made. -/
  output : before.recording.tree.HasDirectory pipeline.config.outputDirectory →
    outputs pipeline.config before.recording = before.recording.tree

/-- Whatever there is in the output directory, whatever the clock shows and whatever happens between
the starts: all runs have directories of their own, and whoever starts the next run either gets the
first free name, with a new directory and an empty log in it, or is told that no name is free. -/
theorem run_directories_never_collide {first last : Traffic} {runs : List String}
    (sound : first.recording.tree.Sound) (history : RunsStarted first runs last) :
    (∀ path ∈ runs, Kept last.recording.tree path) ∧
      runs.Pairwise (Apart last.recording.tree) ∧
      ∀ pipeline : Pipeline, pipeline.NextStart last := by
  obtain ⟨sound, kept, apart⟩ := history.allApart sound
  refine ⟨kept, apart, fun pipeline => ?_⟩
  exact {
    fresh := fun _ _ _ begun => startedFresh_of_start sound begun
    succeeds := fun _ _ ready first room => ready.starts sound first room
    fails := fun _ _ ready taken => ready.fails taken
    output := fun there => by rw [outputs, there.makeDirectories] }

/-! ## Runs under a clock that goes back, and a crowded directory -/

/-- An idle bus without any files, whose clock shows a time. -/
def busAt (clock : Int64) : Traffic := .new (.new (.counting 0) clock)

/-- A bus whose clock has been set. -/
def setClock (traffic : Traffic) (clock : Int64) : Traffic :=
  { traffic with recording := { traffic.recording with clock := clock } }

/-- A run that begins at five. -/
def runAtFive : Except TraceError Unit × Pipeline × Traffic :=
  (new .default).start (busAt 5) .runDirectory (.ok ())

/-- The bus after that run was stopped and the clock went back. -/
def setBack : Traffic := setClock (runAtFive.2.1.stop runAtFive.2.2).2.2 0

/-- A run that begins at zero. -/
def runAtZero : Except TraceError Unit × Pipeline × Traffic :=
  (new .default).start setBack .runDirectory (.ok ())

/-- The bus when the clock shows five again. -/
def fiveAgain : Traffic := setClock runAtZero.2.2 5

/-- The bus after a third run has begun, while the second goes on. -/
def threeRuns : Traffic := ((new .default).start fiveAgain .runDirectory (.ok ())).2.2

/-- The paths of the three runs. -/
def threePaths : List String :=
  ["./bustrace/bustrace-19700101T000000.005Z", "./bustrace/bustrace-19700101T000000.000Z",
    "./bustrace/bustrace-19700101T000000.005Z-1"]

/-- What the starts compute. -/
theorem computed_threeRuns :
    let starts := [runAtFive, runAtZero, (new .default).start fiveAgain .runDirectory (.ok ())]
    starts.map (·.1.toOption) = [some (), some (), some ()] ∧
      starts.map (·.2.1.directory) = threePaths.map some := by
  decide +kernel

/-- Three runs begin, the first and the last of them while the clock shows the same. -/
theorem runsStarted_threeRuns : RunsStarted (busAt 5) threePaths threeRuns := by
  obtain ⟨begun, into⟩ := computed_threeRuns
  simp only [List.map_cons, List.map_nil, List.cons.injEq, threePaths, and_true] at begun into
  have one : RunsStarted (busAt 5) [_] runAtFive.2.2 :=
    RunsStarted.none.started (Prod.ext (Frame.ok_of_toOption begun.1) rfl) into.1
  have back : RunsStarted (busAt 5) [_] setBack := (one.stop runAtFive.2.1).traffic (.tick .here 0)
  have two := back.started (Prod.ext (Frame.ok_of_toOption begun.2.1) rfl) into.2.1
  have again : RunsStarted (busAt 5) _ fiveAgain := two.traffic (.tick .here 5)
  exact again.started (Prod.ext (Frame.ok_of_toOption begun.2.2) rfl) into.2.2

/-- The name with the number two is the first that is free then. -/
theorem computed_fourth :
    let files := outputs .default threeRuns.recording
    let base := name threeRuns.recording.clock
    (threeRuns.recording.tree.makeDirectories "./bustrace").1.toOption = some () ∧
      (files.resolve "./bustrace").toOption = some (.taken (.directory 1)) ∧
      files.node? 1 (numbered base 2) = none ∧
      (∀ smaller < 2, (files.node? 1 (numbered base smaller)).isSome) ∧
      (LogStore.filePath (candidate "./bustrace" base 2)).utf8ByteSize < FileFault.pathLimit := by
  decide +kernel

/-- The first names of one time, all taken in the top directory. -/
def crowdedTree (count : Nat) : FileTree where
  entries := (List.range count).map fun number =>
    ((0, numbered (name 0) number), .directory (number + 1))
  directories := count
  contents := []
  filled := by simp

/-- The entries of the crowded tree are the names that are taken. -/
theorem mem_crowdedTree {count : Nat} {entry : (Nat × String) × Node} :
    entry ∈ (crowdedTree count).entries ↔
      ∃ number < count, ((0, numbered (name 0) number), .directory (number + 1)) = entry := by
  simp [crowdedTree]

/-- The crowded tree has numbered its directories in order. -/
theorem sound_crowdedTree (count : Nat) : (crowdedTree count).Sound where
  holders present := by
    obtain ⟨number, -, same⟩ := mem_crowdedTree.1 present
    cases same
    exact Nat.zero_le _
  named present := by
    obtain ⟨number, within, same⟩ := mem_crowdedTree.1 present
    cases same
    exact within

/-- Each of the first names is taken. -/
theorem isSome_crowdedTree {count number : Nat} (within : number < count) :
    ((crowdedTree count).node? 0 (numbered (name 0) number)).isSome := by
  cases stands : (crowdedTree count).node? 0 (numbered (name 0) number) with
  | some node => rfl
  | none =>
    have apart := List.lookup_eq_none_iff.1 stands _ (mem_crowdedTree.2 ⟨number, within, rfl⟩)
    simp at apart

/-- A bus with those files. -/
def crowded (count : Nat) : Traffic := (busAt 0).withTree (crowdedTree count)

/-- Settings for runs in the top directory. -/
def inTop : Config := { Config.default with outputDirectory := "" }

/-- The files of the crowded bus are sound. -/
theorem sound_crowded (count : Nat) : (crowded count).recording.tree.Sound :=
  sound_crowdedTree count

/-- They have all of these names where the runs are to be. -/
theorem taken_crowded (count : Nat) : ∀ number < count,
    ((outputs inTop (crowded count).recording).node? 0
      (numbered (name (crowded count).recording.clock) number)).isSome :=
  fun _ within => isSome_crowdedTree within

/-- Nothing else is in the way of a start there. -/
theorem ready_crowded (count : Nat) : (new inTop).Ready (crowded count) 0 :=
  ⟨rfl, rfl, rfl, .inl ⟨rfl, rfl⟩⟩

/-- Three runs under a clock that goes back and forth, and the start of a fourth; and a start where
all names are taken. -/
theorem run_directories_never_collide_threeRuns :
    ((busAt 5).recording.tree.Sound ∧ RunsStarted (busAt 5) threePaths threeRuns ∧
      threePaths.Pairwise (Apart threeRuns.recording.tree) ∧
      ∃ running after,
        (new .default).start threeRuns .runDirectory (.ok ()) = (.ok (), running, after)) ∧
    (crowded names).recording.tree.Sound ∧ RunsStarted (crowded names) [] (crowded names) ∧
      ((new inTop).start (crowded names) .runDirectory (.ok ())).1 = .error (.storeUnavailable
        ": no free run directory for bustrace-19700101T000000.000Z") := by
  obtain ⟨-, apart, next⟩ := run_directories_never_collide .empty runsStarted_threeRuns
  refine ⟨⟨.empty, runsStarted_threeRuns, apart, ?_⟩, sound_crowded names, .none, ?_⟩
  · obtain ⟨made, leads, free, taken, room⟩ := computed_fourth
    exact (next (new .default)).succeeds 1 2
      ⟨rfl, rfl, Frame.ok_of_toOption made, .inr (Frame.ok_of_toOption leads)⟩
      ⟨by decide, free, taken⟩ room
  · have start : RunsStarted (crowded names) [] (crowded names) := .none
    obtain ⟨-, -, next⟩ := run_directories_never_collide (sound_crowded names) start
    obtain ⟨cause, failed, reason⟩ :=
      (next (new inTop)).fails 0 (.ok ()) (ready_crowded names) (taken_crowded names)
    have short : ∀ number < names, HasRoom "" (name 0) number := fun number within =>
      Nat.lt_of_le_of_lt (proper_numbered 0 within).short (by decide)
    rw [failed, reason short]
    decide +kernel

end Pipeline

end CausalTrace
