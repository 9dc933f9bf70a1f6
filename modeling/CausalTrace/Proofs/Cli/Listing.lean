import CausalTrace.Cli.Answer
import CausalTrace.Proofs.Json.Indented
import CausalTrace.Proofs.Writing.Written

/-!
# Listings for programs

What the command line prints for programs is a document of the records that were asked for.  Whoever
reads it back as records finds those, and so does whoever first takes it apart into values, where
the members of each stand by name, and reads the text of each value.  For people an empty list has a
form of its own, which no line of a record begins like.
-/

namespace CausalTrace

open Json

namespace Record

/-- A record as a value whose members stand in the order of their names. -/
def byName (record : Record) : Value :=
  .object [
    ("body", .text record.body),
    ("direction", .text record.direction.word),
    ("headers", .text record.headers),
    ("label", .text record.label),
    ("message_id", .text record.messageId),
    ("parent_ids", .texts record.parents),
    ("record_id", .integer record.id.toNat),
    ("reply_address", .text record.reply),
    ("target_address", .text record.address),
    ("timestamp", .integer record.time.toInt)]

/-- A record with named members is a value that can be read back. -/
theorem plain_byName (record : Record) : record.byName.Plain := by
  refine .object fun member present => ?_
  simp only [List.mem_cons, List.not_mem_nil, or_false] at present
  rcases present with rfl | rfl | rfl | rfl | rfl | rfl | rfl | rfl | rfl | rfl
  · exact .text _
  · exact .text _
  · exact .text _
  · exact .text _
  · exact .text _
  · exact .texts _
  · exact .integer _
  · exact .text _
  · exact .text _
  · exact .integer _

/-- The document of a record is read as this value. -/
theorem ofDocument?_toValue (record : Record) (depth : Nat) :
    Value.ofDocument? (depth + 2) record.toValue.document = some record.byName := by
  have least := record.time.le_toInt
  have most := record.time.toInt_lt
  have fits := record.id.toNat_lt
  refine (@Value.ofDocument?_object (depth + 1) _ Prod.snd fun member present => ?_).trans ?_
  · simp only [List.mem_cons, List.not_mem_nil, or_false] at present
    rcases present with rfl | rfl | rfl | rfl | rfl | rfl | rfl | rfl | rfl | rfl
    · exact Value.ofDocument?_integer (by omega) (by omega)
    · rfl
    · exact Value.ofDocument?_texts record.parents
    · rfl
    · rfl
    · exact Value.ofDocument?_integer (by omega) (by omega)
    · rfl
    · rfl
    · rfl
    · rfl
  · simp +decide only [Value.insertMember, byName, List.foldl_cons, List.foldl_nil, if_true,
      if_false]

/-- And the text of the value is read as the record, in every field. -/
theorem decode?_byName (record : Record) :
    decode? (Utf8.encode record.byName.render) = some record := by
  rw [decode?, Document.ofBytes?_encode record.plain_byName, Option.bind_some,
    ofDocument?_of_fields rfl]

end Record

namespace Cli

/-! ## Asking for a list of records -/

/-- The words that ask for the records of a directory, or those of a direction, or
the first of them. -/
def listingWords (directory : String) (json : Bool) (direction : Option Direction)
    (limit : Option Nat) : List String :=
  directory :: ((if json then ["--json"] else []) ++ "records" ::
    (direction.elim [] (fun wanted => ["--direction", wanted.word])
      ++ limit.elim [] fun count => ["--limit", Decimal.render count]))

/-- A word that is taken for a directory. -/
structure NamesDirectory (word : String) : Prop where
  operand : Word.ofText word = .operand word
  noCommand : Command.ofName? word = none
  noHelp : word ≠ "help"

/-- A number is no switch. -/
theorem ofText_render (count : Nat) :
    Word.ofText (Decimal.render count) = .operand (Decimal.render count) := by
  obtain ⟨figure, rest, small, spelled⟩ := Decimal.exists_toList_render count
  have digit : figure.digitChar ≠ '-' :=
    (by decide : ∀ figure < 10, Nat.digitChar figure ≠ '-') figure small
  simp [Word.ofText, spelled, digit]

/-- The word for a direction is an operand, not an option. -/
theorem ofText_word (direction : Direction) :
    Word.ofText direction.word = .operand direction.word := by
  cases direction <;> rfl

/-- The words for a limit are read as the limit. -/
theorem read_limit {details : Details} {limit : Option Nat} (free : details.limit = none)
    (fits : ∀ count ∈ limit, count < 2 ^ 64) :
    details.read .records (limit.elim [] fun count => ["--limit", Decimal.render count])
      = .ok { details with limit := limit } := by
  cases limit with
  | none =>
    cases details
    cases free
    rfl
  | some count =>
    have word : Word.ofText "--limit" = .long "limit" none := by decide
    have isLimit : Details.isOption .records "limit" = true := by decide
    change details.read .records ["--limit", Decimal.render count] = _
    rw [Details.read, word]
    simp only [isLimit, if_true, ofText_render, Details.takeValue, free,
      Decimal.parse?_render (fits count rfl), Except.bind, Details.read]

/-- So are the words for a direction and a limit. -/
theorem read_listing (direction : Option Direction) {limit : Option Nat}
    (fits : ∀ count ∈ limit, count < 2 ^ 64) :
    Details.none_.read .records
        (direction.elim [] (fun wanted => ["--direction", wanted.word])
          ++ limit.elim [] fun count => ["--limit", Decimal.render count])
      = .ok ⟨.off, direction, limit, none⟩ := by
  cases direction with
  | none => exact read_limit rfl fits
  | some wanted =>
    have word : Word.ofText "--direction" = .long "direction" none := by decide
    have isDirection : Details.isOption .records "direction" = true := by decide
    change Details.none_.read .records ("--direction" :: wanted.word :: _) = _
    rw [Details.read, word]
    simp only [isDirection, if_true, ofText_word, Details.takeValue, Details.none_,
      Direction.ofWord?_word, Except.bind]
    exact read_limit rfl fits

/-- The words for a list of records are read as the request for it. -/
theorem ofArguments_listing {directory : String} (names : NamesDirectory directory) (json : Bool)
    (direction : Option Direction) {limit : Option Nat} (fits : ∀ count ∈ limit, count < 2 ^ 64) :
    Request.ofArguments (listingWords directory json direction limit)
      = .ok ⟨directory, .records direction limit, json, false⟩ := by
  have asked (switches : Switches) :
      Request.read (some directory) switches ("records" ::
        (direction.elim [] (fun wanted => ["--direction", wanted.word])
          ++ limit.elim [] fun count => ["--limit", Decimal.render count]))
      = .ok ⟨directory, .records direction limit, switches.json || false,
        switches.verbose || false⟩ := by
    have command : Command.ofName? "records" = some .records := rfl
    rw [Request.read, command]
    dsimp only
    rw [read_listing direction fits]
    rfl
  have named (words : List String) : Request.ofArguments (directory :: words)
      = Request.read (some directory) .off words := by
    rw [Request.ofArguments, Request.read, names.noCommand]
    dsimp only
    rw [if_neg names.noHelp, names.operand]
    rfl
  rw [listingWords, named]
  cases json with
  | false => exact asked .off
  | true => exact asked ⟨true, false⟩

/-! ## What is printed -/

namespace Listing

/-- A joined text begins with the first of its parts. -/
theorem exists_toList_intercalate (between first : String) (others : List String) :
    ∃ rest, (String.intercalate between (first :: others)).toList = first.toList ++ rest := by
  cases others with
  | nil => exact ⟨[], by simp⟩
  | cons second others =>
    exact ⟨_, by rw [String.intercalate_cons_cons, String.toList_append, String.toList_append,
      List.append_assoc]⟩

/-- The line of a record begins with a blank or a figure of the number. -/
theorem exists_toList_line (record : Record) :
    ∃ first rest, (line record).toList = first :: rest ∧ first ≠ '(' := by
  obtain ⟨figure, others, small, spelled⟩ := Decimal.exists_toList_render record.id.toNat
  have digit : figure.digitChar ≠ '(' :=
    (by decide : ∀ figure < 10, Nat.digitChar figure ≠ '(') figure small
  obtain ⟨behind, joined⟩ := exists_toList_intercalate "  " (padLeft 6 record.id.key)
    [record.direction.word, Calendar.render record.time.toInt,
      padRight 16 (orDash record.messageId), padRight 16 (idsOrDash record.parents),
      record.address]
  rw [line, joined, padLeft, String.toList_append, String.toList_ofList, RecordId.key, spelled]
  cases 6 - (Decimal.render record.id.toNat).length with
  | zero => exact ⟨_, _, rfl, digit⟩
  | succ width => exact ⟨' ', _, rfl, by decide⟩

/-- For people, an empty list looks like no other. -/
theorem records_human_eq_empty_iff {chosen : List Record} :
    records .human chosen = "(empty)" ↔ chosen = [] := by
  rw [records]
  cases chosen with
  | nil => simp
  | cons record others =>
    obtain ⟨first, rest, spelled, other⟩ := exists_toList_line record
    obtain ⟨behind, joined⟩ := exists_toList_intercalate "\n" (line record) (others.map line)
    rw [if_neg (List.cons_ne_nil _ _), List.map_cons]
    refine iff_of_false (fun same => other ?_) (List.cons_ne_nil _ _)
    rw [same, spelled] at joined
    exact (List.cons.inj joined).1.symm

end Listing

/-- A text for programs that lists these records: it is an array of their documents, and as a value
it is an array of values whose own texts are read as the records. -/
structure ListsBack (output : String) (records : List Record) : Prop where
  documents : ∃ items, Document.ofText? output = some (.array items) ∧
    items.mapM Record.ofDocument? = some records
  values : ∃ items, Value.ofText? output = some (.array items) ∧
    items.mapM (fun item => Record.decode? (Utf8.encode item.render)) = some records

/-- Records that are read from what stands for them are read in order. -/
theorem mapM_records {α : Type} (read : α → Option Record) (form : Record → α)
    (each : ∀ record, read (form record) = some record) (records : List Record) :
    (records.map form).mapM read = some records := by
  induction records with
  | nil => rfl
  | cons record rest ih => rw [List.map_cons, List.mapM_cons, each, ih]; rfl

/-- What is printed for programs lists the records back. -/
theorem listsBack_records (chosen : List Record) :
    ListsBack (Listing.records .json chosen ++ "\n") chosen := by
  have plain : (Value.array (chosen.map Record.toValue)).Plain := by
    refine .array fun item present => ?_
    obtain ⟨record, -, rfl⟩ := List.mem_map.1 present
    exact record.plain_toValue
  have blank : Token.Blank "\n".toList := by simp [Token.Blank, Token.isBlank]
  have read : Document.ofText? (Listing.records .json chosen ++ "\n")
      = some (.array (chosen.map fun record => record.toValue.document)) := by
    rw [Listing.records, Document.ofText?_renderPretty plain blank, Value.document,
      Value.documentItems_eq_map, List.map_map]
    rfl
  have values := mapM_records (fun item : Value => Record.decode? (Utf8.encode item.render))
    Record.byName Record.decode?_byName chosen
  refine ⟨⟨_, read, mapM_records _ _ Record.ofDocument?_document chosen⟩,
    ⟨chosen.map Record.byName, ?_, values⟩⟩
  rw [Value.ofText?, read, Option.bind_some, Value.depthLimit]
  exact Value.ofDocument?_array fun record _ => record.ofDocument?_toValue 124

/-! ## Answers -/

/-- A list is chosen by direction first and by number then. -/
theorem select_eq (direction : Option Direction) (limit : Option Nat) (all : List Record) :
    select direction limit all =
      let ofDirection := direction.elim all fun wanted => all.filter (·.direction = wanted)
      limit.elim ofDirection ofDirection.take := by
  have filtered : all.filter (isOf direction)
      = direction.elim all fun wanted => all.filter (·.direction = wanted) := by
    cases direction with
    | none => exact List.filter_eq_self.2 fun _ _ => rfl
    | some wanted => rfl
  unfold select
  dsimp only
  rw [filtered]
  cases limit <;> rfl

/-- The answer to a request for records. -/
theorem answer_records {arguments : List String} {directory : String}
    {direction : Option Direction} {limit : Option Nat} {json verbose : Bool} {tree : FileTree}
    {snapshot : LogSnapshot} {all : List Record}
    (asked : Request.ofArguments arguments
      = .ok ⟨directory, .records direction limit, json, verbose⟩)
    (read : LogSnapshot.read tree directory = .ok snapshot)
    (listed : Inspect.records snapshot.contents = .ok all) :
    answer arguments (LogSnapshot.read tree)
      = ⟨0, Listing.records (if json then .json else .human) (select direction limit all) ++ "\n",
        ""⟩ := by
  rw [answer, asked]
  dsimp only
  rw [read, Request.answer]
  dsimp only
  rw [Query.answer, listed]
  rfl

/-- Asked for the records of a directory that was written by writers, or for those of a direction,
or for the first of them, the command line lists just these for programs: reading the list back
gives the stored records in the order of their numbers, first those of the direction and of these
the first ones.  For people the list looks empty just when it is. -/
theorem listing_reads_back {tree : FileTree} {directory : String} {content : Bytes}
    {batches : List Batch} (there : tree.read (LogStore.filePath directory) = .ok content)
    (log : WrittenLog content batches) (direction : Option Direction) (limit : Option Nat) :
    ∃ all : List Record,
      (∀ record, record ∈ all ↔ Inspect.Stored (Contents.empty.applyAll batches) record) ∧
      (all.map Record.id).Pairwise (· < ·) ∧
      let ofDirection := direction.elim all fun wanted => all.filter (·.direction = wanted)
      let chosen := limit.elim ofDirection ofDirection.take
      (∀ arguments verbose,
        Request.ofArguments arguments = .ok ⟨directory, .records direction limit, true, verbose⟩ →
        let outcome := answer arguments (LogSnapshot.read tree)
        outcome.code = 0 ∧ ListsBack outcome.output chosen) ∧
      (∀ arguments verbose,
        Request.ofArguments arguments = .ok ⟨directory, .records direction limit, false, verbose⟩ →
        let outcome := answer arguments (LogSnapshot.read tree)
        outcome.code = 0 ∧ (outcome.output = "(empty)\n" ↔ chosen = [])) ∧
      (NamesDirectory directory → (∀ count ∈ limit, count < 2 ^ 64) → ∀ json,
        Request.ofArguments (listingWords directory json direction limit)
          = .ok ⟨directory, .records direction limit, json, false⟩) := by
  obtain ⟨recovery, read⟩ := log.read there
  obtain ⟨all, listed, ascending, stored⟩ := log.records
  refine ⟨all, stored, ascending, ?_⟩
  intro ofDirection chosen
  have selected : select direction limit all = chosen := select_eq direction limit all
  refine ⟨fun arguments verbose asked => ?_, fun arguments verbose asked => ?_,
    fun names fits json => ofArguments_listing names json direction fits⟩
  · rw [answer_records asked read listed, selected]
    exact ⟨rfl, listsBack_records chosen⟩
  · rw [answer_records asked read listed, selected]
    have printed : "(empty)\n" = "(empty)" ++ "\n" := by decide
    refine ⟨rfl, ?_⟩
    rw [printed, String.append_left_inj]
    exact Listing.records_human_eq_empty_iff

/-- Two messages are written, and the frame of the second is torn. -/
theorem listing_reads_back_torn :
    let sent : Event := ⟨⟨"a", none, .empty, "\"b\""⟩, some ⟨"m", [], none⟩, .sent, 0⟩
    let received : Event := ⟨⟨"a", none, .empty, "c"⟩, some ⟨"m", [], none⟩, .received, 1⟩
    let store : LogStore := ⟨"d", 0, .onClose, 0, 8, ⟨0, 0⟩⟩
    let opened := (LogStore.openIn .empty "d" .onClose).2
    let first := (Writer.new 1).persist (store, opened) sent
    let second := first.2.1.persist first.2.2 received
    let content := second.2.2.2.content 0
    let tree := second.2.2.2.fill 0 (content.take (content.length - 3))
    ∃ batches, tree.read (LogStore.filePath "d") = .ok (content.take (content.length - 3)) ∧
      WrittenLog (content.take (content.length - 3)) batches ∧
      ∃ all : List Record,
        (∀ record, record ∈ all ↔ Inspect.Stored (Contents.empty.applyAll batches) record) ∧
        (all.map Record.id).Pairwise (· < ·) ∧
        ListsBack (answer ["d", "--json", "records", "--direction", "sent", "--limit", "1"]
          (LogSnapshot.read tree)).output ((all.filter (·.direction = .sent)).take 1) ∧
        ((answer ["d", "records", "--direction", "sent", "--limit", "1"]
          (LogSnapshot.read tree)).output = "(empty)\n"
            ↔ (all.filter (·.direction = .sent)).take 1 = []) := by
  intro sent received store opened first second content tree
  have started : LogStore.openIn .empty "d" .onClose = (.ok store, opened) := rfl
  -- All that has to be computed of the two commits.
  have known : (first.1 ≠ .lost ∧ second.1 ≠ .lost) ∧ Log.headSize ≤ content.length - 3 ∧
      second.2.2.1.directory = "d" ∧ second.2.2.1.file = 0 := by
    decide +kernel
  obtain ⟨survived, behindHead, directory, file⟩ := known
  have run : Writer.Runs 1 (store, opened) [(sent, first.1), (received, second.1)] second.2.1
      second.2.2 := .persist (.persist .new survived.1 rfl) survived.2 rfl
  obtain ⟨written, frames, keeps, made⟩ :=
    run.keeps_made (LogStore.keeps_openIn started rfl) fun _ absent => nomatch absent
  have here := keeps.log
  rw [directory, file] at here
  have there := FileTree.read_of_file (here.fill 0 (content.take (content.length - 3))).found
  rw [FileTree.content_fill_self here.lt] at there
  obtain ⟨count, -, log⟩ := keeps.writtenLog made behindHead (by rw [file]; exact Nat.sub_le _ _)
  rw [file] at log
  have names : NamesDirectory "d" := ⟨by decide, rfl, by decide⟩
  have small : ∀ count ∈ some 1, count < 2 ^ 64 := by simp
  obtain ⟨all, stored, ascending, programs, people, asked⟩ :=
    listing_reads_back there log (some .sent) (some 1)
  exact ⟨written.take count, there, log, all, stored, ascending,
    (programs _ _ (asked names small true)).2, (people _ _ (asked names small false)).2⟩

end Cli

end CausalTrace
