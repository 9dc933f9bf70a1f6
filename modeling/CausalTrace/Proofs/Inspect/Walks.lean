import CausalTrace.Inspect
import CausalTrace.Proofs.Storage.Contents
import Mathlib.Data.List.Chain
import Mathlib.Data.List.Nodup
import Mathlib.Data.List.Perm.Subperm

/-!
# Walks end

A walk to the root of a chain knows the ids that it has looked up and nothing of the index.  It
looks up where it stands, goes on to the first parent of the record that it finds, and ends where
there is none, where nothing is found and where it has been before.  `Inspect.chain` gives what such
a walk has found, whatever a store holds: cycles, parents of which there is no record, and entries
that lead to records of other messages.

Nothing in the walk itself counts down.  It ends because each lookup that leads on uses up a key of
the index.
-/

namespace CausalTrace.Inspect

/-- A walk between two lookups. -/
structure Walk where
  /-- The ids that were looked up, in order. -/
  asked : List MessageId
  /-- The records that were found. -/
  found : List Record
  /-- The id to be looked up next. -/
  here : MessageId
  deriving DecidableEq, Repr

namespace Walk

/-- How a walk goes on. -/
inductive Turn where
  | goesOn (walk : Walk)
  /-- The walk is over, with the ids that were looked up and what comes of it. -/
  | ends (asked : List MessageId) (result : Except TraceError (List Record))

/-- A walk from a message. -/
def start (messageId : MessageId) : Walk := ⟨[], [], messageId⟩

/-- One turn of a walk, with one lookup unless it has been here before. -/
def turn (contents : Contents) (walk : Walk) : Turn :=
  if walk.here ∈ walk.asked then .ends walk.asked (.ok walk.found)
  else
    match lookup contents walk.here with
    | .error failure => .ends (walk.asked ++ [walk.here]) (.error failure)
    | .ok none => .ends (walk.asked ++ [walk.here]) (.ok walk.found)
    | .ok (some record) =>
      match record.parents with
      | [] => .ends (walk.asked ++ [walk.here]) (.ok (walk.found ++ [record]))
      | parent :: _ => .goesOn ⟨walk.asked ++ [walk.here], walk.found ++ [record], parent⟩

/-- A walk is over after some turns. -/
inductive Ends (contents : Contents) : Walk → List MessageId → Except TraceError (List Record) →
    Prop where
  | atOnce {walk asked result} (ended : walk.turn contents = .ends asked result) :
      Ends contents walk asked result
  | later {walk after asked result} (went : walk.turn contents = .goesOn after)
      (ends : Ends contents after asked result) : Ends contents walk asked result

variable {contents : Contents} {walk after : Walk} {asked : List MessageId}
  {result : Except TraceError (List Record)}

/-- A walk that goes on has found a record here, where it has not been before. -/
theorem turn_on (went : walk.turn contents = .goesOn after) :
    walk.here ∉ walk.asked ∧ ∃ record parent others,
      lookup contents walk.here = .ok (some record) ∧ record.parents = parent :: others ∧
        after = ⟨walk.asked ++ [walk.here], walk.found ++ [record], parent⟩ := by
  unfold turn at went
  split at went
  next => cases went
  next new =>
    split at went
    next => cases went
    next => cases went
    next record there =>
      split at went
      next => cases went
      next parent others descends =>
        cases went
        exact ⟨new, record, parent, others, there, descends, rfl⟩

/-- A walk is over where it has been before, where nothing is found or the lookup fails, and at a
record without parents. -/
theorem turn_over (ended : walk.turn contents = .ends asked result) :
    (walk.here ∈ walk.asked ∧ asked = walk.asked ∧ result = .ok walk.found) ∨
      (walk.here ∉ walk.asked ∧ asked = walk.asked ++ [walk.here] ∧
        ((∃ failure, lookup contents walk.here = .error failure ∧ result = .error failure) ∨
          (lookup contents walk.here = .ok none ∧ result = .ok walk.found) ∨
          ∃ record, lookup contents walk.here = .ok (some record) ∧ record.parents = [] ∧
            result = .ok (walk.found ++ [record]))) := by
  unfold turn at ended
  split at ended
  next before =>
    cases ended
    exact .inl ⟨before, rfl, rfl⟩
  next new =>
    refine .inr ⟨new, ?_⟩
    split at ended
    next failure failed =>
      cases ended
      exact ⟨rfl, .inl ⟨failure, failed, rfl⟩⟩
    next nothing =>
      cases ended
      exact ⟨rfl, .inr (.inl ⟨nothing, rfl⟩)⟩
    next record there =>
      split at ended
      next root =>
        cases ended
        exact ⟨rfl, .inr (.inr ⟨record, there, root, rfl⟩)⟩
      next => cases ended

/-! ## Every walk ends -/

/-- A message of which something is found or goes wrong has an index entry. -/
theorem mem_keys_of_lookup {messageId : MessageId}
    (answered : lookup contents messageId ≠ .ok none) :
    messageId ∈ contents.keys Record.indexPartition := by
  rw [Contents.mem_keys_iff]
  cases entry : contents.get? Record.indexPartition messageId with
  | none =>
    refine absurd ?_ answered
    rw [lookup, locate, entry]
    rfl
  | some value => rfl

/-- The keys of the index that were not yet looked up. -/
def unseen (contents : Contents) (walk : Walk) : List MessageId :=
  (contents.keys Record.indexPartition).filter (· ∉ walk.asked)

/-- A walk that goes on has one key less to see, the one that it just looked up. -/
theorem unseen_on (went : walk.turn contents = .goesOn after) :
    after.unseen contents = others (walk.unseen contents) walk.here := by
  obtain ⟨-, record, parent, rest, -, -, rfl⟩ := turn_on went
  simp only [unseen, others, List.filter_filter, List.mem_append, List.mem_singleton, not_or]
  refine List.filter_congr fun id _ => ?_
  rw [Bool.decide_and, Bool.and_comm]

/-- Each turn that leads on uses up a key. -/
theorem length_unseen_lt (went : walk.turn contents = .goesOn after) :
    (after.unseen contents).length < (walk.unseen contents).length := by
  obtain ⟨new, record, -, -, there, -, -⟩ := turn_on went
  rw [unseen_on went]
  refine others_length_lt (List.mem_filter.2 ⟨mem_keys_of_lookup ?_, by simpa using new⟩)
  rw [there]
  simp

/-- What a chain from here adds to what was found. -/
def outcome (contents : Contents) (walk : Walk) : Except TraceError (List Record) :=
  (chainFrom contents (walk.unseen contents) walk.here).map (walk.found ++ ·)

/-- What comes of a walk does not change from turn to turn. -/
theorem outcome_turn (contents : Contents) (walk : Walk) :
    walk.outcome contents =
      match walk.turn contents with
      | .goesOn after => after.outcome contents
      | .ends _ result => result := by
  by_cases before : walk.here ∈ walk.asked
  · have seen : walk.here ∉ walk.unseen contents := fun among => by
      simpa [before] using (List.mem_filter.1 among).2
    rw [outcome, chainFrom, dif_neg seen, turn, if_pos before]
    simp [Except.map]
  by_cases known : walk.here ∈ contents.keys Record.indexPartition
  · have unmet : walk.here ∈ walk.unseen contents :=
      List.mem_filter.2 ⟨known, by simpa using before⟩
    rw [outcome, chainFrom, dif_pos unmet]
    cases turned : walk.turn contents with
    | goesOn after =>
      have rest := unseen_on turned
      obtain ⟨-, record, parent, others, there, descends, rfl⟩ := turn_on turned
      simp only [there, descends, outcome, rest]
      cases chainFrom contents (Inspect.others (walk.unseen contents) walk.here) parent with
      | error failure => rfl
      | ok older => simp [Except.map]
    | ends asked result =>
      obtain ⟨again, -, -⟩ | ⟨-, -, ⟨failure, failed, rfl⟩ | ⟨nothing, rfl⟩ |
        ⟨record, there, root, rfl⟩⟩ := turn_over turned
      · exact absurd again before
      · rw [failed]
        rfl
      · rw [nothing]
        simp [Except.map]
      · simp only [there, root]
        rfl
  · have unknown : lookup contents walk.here = .ok none :=
      Decidable.not_not.1 (mt mem_keys_of_lookup known)
    have seen : walk.here ∉ walk.unseen contents := fun among => known (List.mem_filter.1 among).1
    rw [outcome, chainFrom, dif_neg seen, turn, if_neg before, unknown]
    simp [Except.map]

/-- A walk ends with what a chain adds. -/
theorem ends_outcome (contents : Contents) (walk : Walk) :
    ∃ asked, walk.Ends contents asked (walk.outcome contents) := by
  induction size : (walk.unseen contents).length using Nat.strongRecOn generalizing walk with
  | ind _ ih =>
    have same := outcome_turn contents walk
    cases turned : walk.turn contents with
    | ends asked result =>
      rw [turned] at same
      exact ⟨asked, .atOnce (same ▸ turned)⟩
    | goesOn after =>
      rw [turned] at same
      obtain ⟨asked, ends⟩ := ih _ (size ▸ length_unseen_lt turned) after rfl
      exact ⟨asked, .later turned (same ▸ ends)⟩

/-! ## What a walk has found -/

/-- What holds between two lookups: every id was looked up once and with a record, and each record
but the first is what the first parent of the one before it was looked up as. -/
structure Trail (contents : Contents) (first : MessageId) (walk : Walk) : Prop where
  once : walk.asked.Nodup
  answered : walk.asked.map (lookup contents) = walk.found.map fun record => .ok (some record)
  starts : ∀ record, walk.found.head? = some record → lookup contents first = .ok (some record)
  follows : walk.found.IsChain fun younger older =>
    ∃ parent, younger.parents.head? = some parent ∧ lookup contents parent = .ok (some older)
  /-- The walk stands at the first parent of the last record. -/
  stands : match walk.found.getLast? with
    | none => walk.here = first
    | some last => last.parents.head? = some walk.here

namespace Trail

variable {first : MessageId}

/-- A walk that begins has nothing behind it. -/
theorem start (contents : Contents) (first : MessageId) : (Walk.start first).Trail contents first :=
  ⟨.nil, rfl, nofun, .nil, rfl⟩

/-- A record that is found here goes on the trail. -/
theorem concat (trail : walk.Trail contents first) {record : Record}
    (there : lookup contents walk.here = .ok (some record)) :
    (∀ head, (walk.found ++ [record]).head? = some head →
        lookup contents first = .ok (some head)) ∧
      (walk.found ++ [record]).IsChain fun younger older =>
        ∃ parent, younger.parents.head? = some parent ∧
          lookup contents parent = .ok (some older) := by
  have stands := trail.stands
  cases last : walk.found.getLast? with
  | none =>
    rw [last] at stands
    rw [List.getLast?_eq_none_iff.1 last]
    refine ⟨fun head is => ?_, .singleton _⟩
    cases is
    exact stands ▸ there
  | some younger =>
    rw [last] at stands
    constructor
    · intro head is
      cases found : walk.found with
      | nil => simp [found] at last
      | cons oldest rest => exact trail.starts head (by simpa [found] using is)
    · refine List.isChain_append.2
        ⟨trail.follows, .singleton _, fun before isLast after isHead => ?_⟩
      rw [last] at isLast
      cases isLast
      cases isHead
      exact ⟨walk.here, stands, there⟩

/-- The ids together with the one that is looked up now. -/
theorem once_concat (trail : walk.Trail contents first) (new : walk.here ∉ walk.asked) :
    (walk.asked ++ [walk.here]).Nodup :=
  List.nodup_append'.2 ⟨trail.once, List.nodup_singleton _, by simpa using new⟩

/-- A turn that leads on keeps the trail. -/
theorem turn (trail : walk.Trail contents first) (went : walk.turn contents = .goesOn after) :
    after.Trail contents first := by
  obtain ⟨new, record, parent, others, there, descends, rfl⟩ := turn_on went
  obtain ⟨starts, follows⟩ := trail.concat there
  exact ⟨trail.once_concat new, by simp [trail.answered, there], starts, follows,
    by simp [descends]⟩

/-- There were no more lookups than there are keys of the index. -/
theorem length_asked_le (trail : walk.Trail contents first) :
    walk.asked.length ≤ (contents.keys Record.indexPartition).length := by
  refine (trail.once.subperm fun id wasAsked => mem_keys_of_lookup ?_).length_le
  have among := List.mem_map_of_mem (f := lookup contents) wasAsked
  rw [trail.answered] at among
  obtain ⟨record, -, there⟩ := List.mem_map.1 among
  simp [← there]

/-- Every lookup of a walk under way has found a record. -/
theorem length_asked (trail : walk.Trail contents first) :
    walk.asked.length = walk.found.length := by
  simpa using congrArg List.length trail.answered

end Trail

/-- Records are the way from a message through first parents, as far as it leads: the first of them
is what the message is looked up as, and each other one what the first parent of the one before it
is looked up as.  The ids are those that were looked up. -/
structure FirstParentPath (contents : Contents) (first : MessageId) (asked : List MessageId)
    (found : List Record) : Prop where
  /-- There is no record only where the message has none. -/
  starts : lookup contents first = .ok found.head?
  follows : found.IsChain fun younger older =>
    ∃ parent, younger.parents.head? = some parent ∧ lookup contents parent = .ok (some older)
  answered : (asked.take found.length).map (lookup contents) =
    found.map fun record => .ok (some record)
  /-- The last record has no parent, or its first parent has no record or was looked up before. -/
  stops : ∀ last, found.getLast? = some last → ∀ parent, last.parents.head? = some parent →
    lookup contents parent = .ok none ∨ parent ∈ asked.take found.length

/-- What comes of a walk that is over. -/
def Concludes (contents : Contents) (first : MessageId) (asked : List MessageId) :
    Except TraceError (List Record) → Prop
  | .ok found => FirstParentPath contents first asked found
  | .error failure => ∃ last, asked.getLast? = some last ∧ lookup contents last = .error failure

/-- A trail that leads no further is a path. -/
theorem Trail.path {first : MessageId} (trail : walk.Trail contents first)
    (before : asked.take walk.found.length = walk.asked)
    (stuck : lookup contents walk.here = .ok none ∨ walk.here ∈ walk.asked) :
    FirstParentPath contents first asked walk.found := by
  have stands := trail.stands
  refine ⟨?_, trail.follows, before ▸ trail.answered, fun last isLast parent isParent => ?_⟩
  · cases found : walk.found with
    | nil =>
      have unasked : walk.asked = [] := by
        rw [← List.length_eq_zero_iff, trail.length_asked, found, List.length_nil]
      rw [found] at stands
      obtain nothing | again := stuck
      · exact stands ▸ nothing
      · exact absurd (unasked ▸ again) List.not_mem_nil
    | cons oldest rest => exact trail.starts oldest (by rw [found]; rfl)
  · rw [isLast] at stands
    obtain rfl : parent = walk.here := Option.some.inj (isParent.symm.trans stands)
    rwa [before]

/-- A walk looks up no id twice and at most one that has no key in the index. -/
theorem Ends.concludes {first : MessageId} (ends : walk.Ends contents asked result)
    (trail : walk.Trail contents first) :
    asked.Nodup ∧ asked.length ≤ (contents.keys Record.indexPartition).length + 1 ∧
      Concludes contents first asked result := by
  induction ends with
  | later went _ ih => exact ih (trail.turn went)
  | @atOnce walk _ _ ended =>
    have few := trail.length_asked_le
    have all : walk.asked.take walk.found.length = walk.asked :=
      List.take_of_length_le (Nat.le_of_eq trail.length_asked)
    have before : (walk.asked ++ [walk.here]).take walk.found.length = walk.asked := by
      rw [← trail.length_asked, List.take_left]
    obtain ⟨again, rfl, rfl⟩ | ⟨new, rfl, last⟩ := turn_over ended
    · exact ⟨trail.once, Nat.le_succ_of_le few, trail.path all (.inr again)⟩
    · refine ⟨trail.once_concat new, by simpa using few, ?_⟩
      obtain ⟨failure, failed, rfl⟩ | ⟨nothing, rfl⟩ | ⟨record, there, root, rfl⟩ := last
      · exact ⟨walk.here, by simp, failed⟩
      · exact trail.path before (.inl nothing)
      · obtain ⟨starts, follows⟩ := trail.concat there
        refine ⟨?_, follows, ?_, fun last isLast parent isParent => ?_⟩
        · cases head : (walk.found ++ [record]).head? with
          | none => simp at head
          | some oldest => exact starts oldest head
        · rw [List.take_of_length_le (by simp [trail.length_asked])]
          simp [trail.answered, there]
        · rw [List.getLast?_concat] at isLast
          cases isLast
          rw [root] at isParent
          cases isParent

end Walk

/-- For every content of a store the walk from a message ends with no lookup done twice and at most
one more than there are keys in the index.  It gives the first parents as far as they lead, unless a
lookup fails; then the failure of that lookup is the answer. -/
theorem chain_is_first_parent_path (contents : Contents) (messageId : MessageId) :
    ∃ asked, (Walk.start messageId).Ends contents asked (chain contents messageId) ∧
      asked.Nodup ∧ asked.length ≤ (contents.keys Record.indexPartition).length + 1 ∧
      ((∃ failure last, chain contents messageId = .error failure ∧
          asked.getLast? = some last ∧ lookup contents last = .error failure) ∨
        ∃ found, chain contents messageId = .ok found ∧
          Walk.FirstParentPath contents messageId asked found) := by
  have whole : (Walk.start messageId).outcome contents = chain contents messageId := by
    have unmet : (Walk.start messageId).unseen contents = contents.keys Record.indexPartition :=
      List.filter_eq_self.2 fun _ _ => by simp [Walk.start]
    rw [Walk.outcome, unmet, chain, Walk.start]
    cases chainFrom contents (contents.keys Record.indexPartition) messageId <;> rfl
  obtain ⟨asked, ends⟩ := Walk.ends_outcome contents (.start messageId)
  rw [whole] at ends
  obtain ⟨once, few, concludes⟩ := ends.concludes (.start contents messageId)
  refine ⟨asked, ends, once, few, ?_⟩
  cases walked : chain contents messageId with
  | error failure =>
    rw [walked] at concludes
    obtain ⟨last, isLast, failed⟩ := concludes
    exact .inl ⟨failure, last, rfl, isLast, failed⟩
  | ok found =>
    rw [walked] at concludes
    exact .inr ⟨found, rfl, concludes⟩

end CausalTrace.Inspect
