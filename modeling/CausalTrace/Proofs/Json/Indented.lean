import CausalTrace.Proofs.Json.Reading

/-!
# Reading indented values

The indented text of a value differs from its compact text in the blanks between tokens alone, so it
is scanned into the same tokens and reads back as the same document, also with blanks behind it.  A
reader of values finds the same integers and texts in that document.
-/

namespace CausalTrace.Json

namespace Value

/-- The items of an array are written one by one. -/
theorem prettyItems_eq_map (level : Nat) (items : List Value) :
    pretty.prettyItems level items = items.map (pretty level) := by
  induction items with
  | nil => rfl
  | cons item rest ih => rw [pretty.prettyItems, ih, List.map_cons]

/-- The members of an object are written one by one, a blank behind each colon. -/
theorem prettyMembers_eq_map (level : Nat) (members : List (String × Value)) :
    pretty.prettyMembers level members
      = members.map fun member => quote member.1 ++ ':' :: ' ' :: pretty level member.2 := by
  induction members with
  | nil => rfl
  | cons member rest ih => rw [pretty.prettyMembers, ih, List.map_cons]

/-- A line break and the indentation behind it are blanks to the scanner. -/
theorem blank_lineBreak (level : Nat) : Token.Blank (lineBreak level) := by
  intro c present
  rcases List.mem_cons.1 present with rfl | indent
  · rfl
  · rw [List.eq_of_mem_replicate indent]
    rfl

/-- Parts on lines of their own, between an opening and a closing character. -/
theorem scans_lines {α : Type} {items : List α} {text : α → List Char} {tokens : α → List Token}
    {opening closing : Char} {start stop : Token} {level : Nat}
    (opens : Token.isBlank (some opening) = false)
    (starts : ∀ rest, Token.next? (some opening :: rest) = some (start, rest))
    (closes : Token.isBlank (some closing) = false)
    (ends : ∀ rest, Token.Ends (some closing :: rest))
    (stops : ∀ rest, Token.next? (some closing :: rest) = some (stop, rest))
    (each : ∀ item ∈ items, Token.Scans (text item) (tokens item)) :
    Token.Scans
      (opening :: lineBreak (level + 1)
        ++ separated (',' :: lineBreak (level + 1)) (items.map text)
        ++ lineBreak level ++ [closing])
      (start :: Token.joined (items.map tokens) ++ [stop]) := by
  have inner := Token.scans_separated (blank_lineBreak (level + 1)) each
  have lines := (inner.indent (blank_lineBreak (level + 1))).pad (blank_lineBreak level)
  simpa using lines.enclose opens starts closes ends stops

/-- Scanning the indented text of a value gives its tokens, however far it is indented. -/
theorem Plain.scans_pretty {value : Value} (plain : value.Plain) (level : Nat) :
    Token.Scans (value.pretty level) value.tokens := by
  induction plain generalizing level with
  | null => exact Plain.null.scans
  | boolean value => exact (Plain.boolean value).scans
  | integer value => exact scans_renderInt value
  | text content => exact scans_quote content
  | @array items each ih =>
    cases items with
    | nil => exact (Plain.array each).scans
    | cons item rest =>
      rw [pretty, prettyItems_eq_map, tokens, tokenItems_eq_map]
      exact scans_lines rfl (fun _ => rfl) rfl
        (Token.ends_cons rfl (by decide) (by decide) (by decide)) (fun _ => rfl)
        fun other present => ih other present (level + 1)
  | @object members each ih =>
    cases members with
    | nil => exact (Plain.object each).scans
    | cons member rest =>
      rw [pretty, prettyMembers_eq_map, tokens, tokenMembers_eq_map]
      refine scans_lines rfl (fun _ => rfl) rfl
        (Token.ends_cons rfl (by decide) (by decide) (by decide)) (fun _ => rfl)
        fun other present => ?_
      have space : Token.Blank [' '] := by simp [Token.Blank, Token.isBlank]
      exact .part rfl (Token.ends_cons rfl (by decide) (by decide) (by decide)) (fun _ => rfl)
        (scans_quote other.1) ((ih other present (level + 1)).indent space)

end Value

namespace Document

/-- The indented text of a value reads back as the document of the value, with blanks
behind it or without. -/
theorem ofText?_renderPretty {value : Value} (plain : value.Plain) {behind : String}
    (blank : Token.Blank behind.toList) :
    ofText? (value.renderPretty ++ behind) = some value.document := by
  rw [ofText?, Value.renderPretty, String.toList_append, String.toList_ofList]
  exact ofPlaces?_of_scans plain ((plain.scans_pretty 0).pad blank)

end Document

/-! ## Values in a document -/

namespace Value

variable {depth : Nat}

/-- An integer of 64 bits is read as itself. -/
theorem ofDocument?_integer {value : Int} (low : -2 ^ 63 ≤ value) (high : value < 2 ^ 64) :
    ofDocument? depth (integer value).document = some (integer value) := by
  have read := Numeral.integer?_ofInt low high
  unfold Numeral.integer? at read
  split at read
  next found number =>
    cases read
    change (Numeral.ofInt value).number?.map Value.number = _
    rw [number]
    rfl
  next => cases read

/-- The items of an array are read one by one. -/
theorem ofDocument?_array {α : Type} {items : List α} {document : α → Document} {value : α → Value}
    (each : ∀ item ∈ items, ofDocument? depth (document item) = some (value item)) :
    ofDocument? (depth + 1) (.array (items.map document)) = some (.array (items.map value)) := by
  have read : ofDocument?.ofItems? depth (items.map document) = some (items.map value) := by
    induction items with
    | nil => rfl
    | cons item rest ih =>
      rw [List.map_cons, ofDocument?.ofItems?, each item List.mem_cons_self,
        ih fun other present => each other (List.mem_cons_of_mem _ present)]
      rfl
  rw [ofDocument?, read]
  rfl

/-- A list of texts is found again as a value, at any depth that reaches its items. -/
theorem ofDocument?_texts (contents : List String) :
    ofDocument? (depth + 1) (texts contents).document = some (texts contents) := by
  rw [texts, document, documentItems_eq_map, List.map_map]
  exact ofDocument?_array fun content _ => rfl

/-- The members of an object are read one by one, and put in their places by name. -/
theorem ofDocument?_object {members : List (String × Value)} {value : String × Value → Value}
    (each : ∀ member ∈ members, ofDocument? depth member.2.document = some (value member)) :
    ofDocument? (depth + 1) (object members).document
      = some (.object (members.foldl
          (fun found member => insertMember member.1 (value member) found) [])) := by
  have read (found : List (String × Value)) :
      ofDocument?.ofMembers? depth (document.documentMembers members) found
        = some (members.foldl (fun found member => insertMember member.1 (value member) found)
          found) := by
    induction members generalizing found with
    | nil => rfl
    | cons member rest ih =>
      obtain ⟨name, inner⟩ := member
      rw [document.documentMembers, ofDocument?.ofMembers?, Option.bind_some,
        each (name, inner) List.mem_cons_self, Option.bind_some,
        ih fun other present => each other (List.mem_cons_of_mem _ present)]
      rfl
  rw [document, ofDocument?, read]
  rfl

end Value

end CausalTrace.Json
