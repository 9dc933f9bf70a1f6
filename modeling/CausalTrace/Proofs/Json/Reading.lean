import CausalTrace.Proofs.Json.Scanning

/-!
# What a written value reads back as

`Value.document` is the document that a value is the written form of.  `Document.ofText?_render`
says that a value without doubles reads back as just that document, and `Document.ofBytes?_encode`
says the same of its bytes.  Records and identities are such values, so whoever reads one back only
has to look at a document that is known member by member.
-/

namespace CausalTrace.Json

namespace Value

/-- Values without doubles. -/
inductive Plain : Value → Prop where
  | null : Plain .null
  | boolean (value : Bool) : Plain (.boolean value)
  | integer (value : Int) : Plain (.integer value)
  | text (content : String) : Plain (.text content)
  | array {items : List Value} (each : ∀ item ∈ items, Plain item) : Plain (.array items)
  | object {members : List (String × Value)} (each : ∀ member ∈ members, Plain member.2) :
    Plain (.object members)

/-- The document of a value.  A double has none, and stands as null. -/
def document : Value → Document
  | null => .null
  | boolean value => .boolean value
  | number (.integer value) => .numeral (.ofInt value)
  | number (.real _) => .null
  | text content => .text (some content)
  | array items => .array (documentItems items)
  | object members => .object (documentMembers members)
where
  /-- The document of each item. -/
  documentItems : List Value → List Document
    | [] => []
    | item :: rest => document item :: documentItems rest
  /-- The document of each member. -/
  documentMembers : List (String × Value) → List (Option String × Document)
    | [] => []
    | (name, value) :: rest => (some name, document value) :: documentMembers rest

/-- The tokens of a value. -/
def tokens : Value → List Token
  | null => [.null]
  | boolean value => [.boolean value]
  | number (.integer value) => [.numeral (.ofInt value)]
  | number (.real _) => []
  | text content => [.quoted (some content)]
  | array items => .openArray :: Token.joined (tokenItems items) ++ [.closeArray]
  | object members => .openObject :: Token.joined (tokenMembers members) ++ [.closeObject]
where
  /-- The tokens of each item. -/
  tokenItems : List Value → List (List Token)
    | [] => []
    | item :: rest => tokens item :: tokenItems rest
  /-- The tokens of each member. -/
  tokenMembers : List (String × Value) → List (List Token)
    | [] => []
    | (name, value) :: rest => (.quoted (some name) :: .colon :: tokens value) :: tokenMembers rest

/-! ## The parts of a container, one by one -/

/-- The items of an array are written one by one. -/
theorem compactItems_eq_map (items : List Value) :
    compact.compactItems items = items.map compact := by
  induction items with
  | nil => rfl
  | cons item rest ih => rw [compact.compactItems, ih, List.map_cons]

/-- The members of an object are written one by one. -/
theorem compactMembers_eq_map (members : List (String × Value)) :
    compact.compactMembers members
      = members.map fun member => quote member.1 ++ ':' :: compact member.2 := by
  induction members with
  | nil => rfl
  | cons member rest ih => rw [compact.compactMembers, ih, List.map_cons]

/-- The items of an array are documents of their own. -/
theorem documentItems_eq_map (items : List Value) :
    document.documentItems items = items.map document := by
  induction items with
  | nil => rfl
  | cons item rest ih => rw [document.documentItems, ih, List.map_cons]

/-- The members of an object are documents under readable names. -/
theorem documentMembers_eq_map (members : List (String × Value)) :
    document.documentMembers members
      = members.map fun member => (some member.1, document member.2) := by
  induction members with
  | nil => rfl
  | cons member rest ih => rw [document.documentMembers, ih, List.map_cons]

/-- The tokens of an array are those of its items. -/
theorem tokenItems_eq_map (items : List Value) :
    tokens.tokenItems items = items.map tokens := by
  induction items with
  | nil => rfl
  | cons item rest ih => rw [tokens.tokenItems, ih, List.map_cons]

/-- The tokens of a member are its name, a colon and those of its value. -/
theorem tokenMembers_eq_map (members : List (String × Value)) :
    tokens.tokenMembers members
      = members.map fun member => .quoted (some member.1) :: .colon :: tokens member.2 := by
  induction members with
  | nil => rfl
  | cons member rest ih => rw [tokens.tokenMembers, ih, List.map_cons]

/-! ## Scanning -/

/-- A quoted text is one token. -/
theorem scans_quote (content : String) :
    Token.Scans (quote content) [.quoted (some content)] :=
  .single rfl fun rest _ => Token.next?_quote content rest

/-- A whole number is one token, which keeps its value. -/
theorem scans_renderInt (value : Int) :
    Token.Scans (Decimal.renderInt value).toList [.numeral (.ofInt value)] := by
  have shown : ∃ c text, (Decimal.renderInt value).toList = c :: text
      ∧ Token.isBlank (some c) = false := by
    cases value with
    | ofNat n =>
      obtain ⟨figure, rest, small, spelled⟩ := Decimal.exists_toList_render n
      refine ⟨_, rest, spelled, ?_⟩
      exact (by decide : ∀ n < 10, Token.isBlank (some n.digitChar) = false) figure small
    | negSucc n => exact ⟨'-', _, String.toList_append, rfl⟩
  obtain ⟨c, text, spelled, blank⟩ := shown
  rw [spelled]
  refine .single blank fun rest ends => ?_
  rw [← spelled]
  exact Token.next?_renderInt value ends

/-- Scanning the compact text of a value gives its tokens. -/
theorem Plain.scans {value : Value} (plain : Plain value) :
    Token.Scans value.compact value.tokens := by
  induction plain with
  | null => exact .single rfl fun _ _ => rfl
  | boolean value => cases value <;> exact .single rfl fun _ _ => rfl
  | integer value => exact scans_renderInt value
  | text content => exact scans_quote content
  | array each ih =>
    rw [compact, tokens, compactItems_eq_map, tokenItems_eq_map]
    exact .enclose rfl (fun _ => rfl) rfl (Token.ends_cons rfl (by decide) (by decide) (by decide))
      (fun _ => rfl) (Token.scans_separated .nil ih)
  | object each ih =>
    rw [compact, tokens, compactMembers_eq_map, tokenMembers_eq_map]
    refine .enclose rfl (fun _ => rfl) rfl
      (Token.ends_cons rfl (by decide) (by decide) (by decide)) (fun _ => rfl)
      (Token.scans_separated .nil fun member present => ?_)
    exact .part rfl (Token.ends_cons rfl (by decide) (by decide) (by decide)) (fun _ => rfl)
      (scans_quote member.1) (ih member present)

end Value

namespace Document

/-! ## Building -/

/-- Tokens that form a document, whatever is open around it.  They do not begin with the end of an
array, so they may stand as its first item. -/
structure Builds (tokens : List Token) (document : Document) : Prop where
  starts : tokens.head? ≠ some .closeArray
  nonempty : tokens ≠ []
  forms : ∀ containers,
    tokens.foldlM step? (Awaited.value, containers) = some (.following document, containers)

/-- One token that forms a document by itself builds it inside any containers. -/
theorem Builds.single {token : Token} {document : Document} (starts : token ≠ .closeArray)
    (forms : ∀ containers, start? containers token = some (.following document, containers)) :
    Builds [token] document where
  starts := by simpa using starts
  nonempty := by simp
  forms containers := by simp [step?, forms containers]

/-- Items in a row become the rest of the array that is open. -/
theorem foldlM_items {α : Type} {tokens : α → List Token} {document : α → Document}
    (item : α) (others : List α) (each : ∀ x ∈ item :: others, Builds (tokens x) (document x))
    (done : List Document) (containers : List Open) :
    (Token.joined ((item :: others).map tokens) ++ [Token.closeArray]).foldlM step?
        (Awaited.value, .items done :: containers)
      = some (.following (.array (done.reverse ++ (item :: others).map document)), containers) := by
  induction others generalizing item done with
  | nil =>
    have first := (each item (by simp)).forms (.items done :: containers)
    simp [Token.joined, List.foldlM_append, first, step?]
  | cons next rest ih =>
    have first := (each item (by simp)).forms (.items done :: containers)
    have later := ih next (fun x present => each x (by simp_all)) (document item :: done)
    simp only [List.map_cons, Token.joined, List.append_assoc, List.cons_append,
      List.foldlM_append, first, List.foldlM_cons] at later ⊢
    simpa [step?] using later

/-- Members in a row become the rest of the object that is open. -/
theorem foldlM_members {α : Type} (name : α → String) {tokens : α → List Token}
    {document : α → Document} (member : α) (others : List α)
    (each : ∀ x ∈ member :: others, Builds (tokens x) (document x))
    (done : Members) (containers : List Open) :
    (Token.joined
        ((member :: others).map fun x => Token.quoted (some (name x)) :: .colon :: tokens x)
          ++ [Token.closeObject]).foldlM step? (Awaited.name done, containers)
      = some (.following (.object
          (done.reverse ++ (member :: others).map fun x => (some (name x), document x))),
        containers) := by
  induction others generalizing member done with
  | nil =>
    have first := (each member (by simp)).forms (.members done (some (name member)) :: containers)
    simp [Token.joined, List.foldlM_append, first, step?]
  | cons next rest ih =>
    have first := (each member (by simp)).forms (.members done (some (name member)) :: containers)
    have later := ih next (fun x present => each x (by simp_all))
      ((some (name member), document member) :: done)
    simp only [List.map_cons, Token.joined, List.append_assoc, List.cons_append,
      List.foldlM_append, List.foldlM_cons] at later ⊢
    simpa [step?, first] using later

/-- At the start of an array a first item is read like any other. -/
theorem foldlM_firstItem {first : Token} (starts : first ≠ .closeArray) (rest : List Token)
    (containers : List Open) :
    (first :: rest).foldlM step? (Awaited.firstItem, containers)
      = (first :: rest).foldlM step? (Awaited.value, .items [] :: containers) := by
  have same : step? (Awaited.firstItem, containers) first
      = step? (Awaited.value, .items [] :: containers) first := by
    cases first <;> first | rfl | exact absurd rfl starts
  rw [List.foldlM_cons, List.foldlM_cons, same]

/-- Brackets around items that build documents build the array of these documents. -/
theorem Builds.array {α : Type} {items : List α} {tokens : α → List Token}
    {document : α → Document} (each : ∀ x ∈ items, Builds (tokens x) (document x)) :
    Builds (.openArray :: Token.joined (items.map tokens) ++ [.closeArray])
      (.array (items.map document)) where
  starts := by simp
  nonempty := by simp
  forms containers := by
    have opened : step? (Awaited.value, containers) .openArray
        = some (.firstItem, containers) := rfl
    rw [List.cons_append, List.foldlM_cons, opened, Option.bind_eq_bind, Option.bind_some]
    cases items with
    | nil => rfl
    | cons item others =>
      have row := foldlM_items item others each [] containers
      obtain ⟨first, rest, run⟩ := List.exists_cons_of_ne_nil (each item (by simp)).nonempty
      have starts : first ≠ .closeArray := by
        have := (each item (by simp)).starts
        simpa [run] using this
      have shape : ∃ tail, Token.joined ((item :: others).map tokens) ++ [.closeArray]
          = first :: tail := by
        cases others <;> simp [Token.joined, run]
      obtain ⟨tail, shape⟩ := shape
      rw [shape] at row ⊢
      rw [foldlM_firstItem starts, row]
      rfl

/-- Braces around named members that build documents build the object of these documents. -/
theorem Builds.object {α : Type} {members : List α} {name : α → String}
    {tokens : α → List Token} {document : α → Document}
    (each : ∀ x ∈ members, Builds (tokens x) (document x)) :
    Builds (.openObject
        :: Token.joined (members.map fun x => .quoted (some (name x)) :: .colon :: tokens x)
        ++ [.closeObject])
      (.object (members.map fun x => (some (name x), document x))) where
  starts := by simp
  nonempty := by simp
  forms containers := by
    have opened : step? (Awaited.value, containers) .openObject
        = some (.firstName, containers) := rfl
    rw [List.cons_append, List.foldlM_cons, opened, Option.bind_eq_bind, Option.bind_some]
    cases members with
    | nil => rfl
    | cons member others =>
      have row := foldlM_members name member others each [] containers
      have shape : ∃ tail, Token.joined ((member :: others).map fun x =>
            Token.quoted (some (name x)) :: .colon :: tokens x) ++ [.closeObject]
          = .quoted (some (name member)) :: tail := by
        cases others <;> simp [Token.joined]
      obtain ⟨tail, shape⟩ := shape
      rw [shape] at row ⊢
      -- The first name of an object is read like a name after a comma.
      exact row

/-- The tokens of a value form its document. -/
theorem builds_tokens {value : Value} (plain : value.Plain) :
    Builds value.tokens value.document := by
  induction plain with
  | null => exact .single (by simp) fun _ => rfl
  | boolean value => exact .single (by simp) fun _ => rfl
  | integer value => exact .single (by simp) fun _ => rfl
  | text content => exact .single (by simp) fun _ => rfl
  | array each ih =>
    rw [Value.tokens, Value.document, Value.tokenItems_eq_map, Value.documentItems_eq_map]
    exact .array ih
  | object each ih =>
    rw [Value.tokens, Value.document, Value.tokenMembers_eq_map, Value.documentMembers_eq_map]
    exact .object ih

/-! ## Reading back -/

/-- Whatever text is scanned into the tokens of a value reads back as its document. -/
theorem ofPlaces?_of_scans {value : Value} {text : List Char} (plain : value.Plain)
    (scans : Token.Scans text value.tokens) :
    ofPlaces? (text.map some) = some value.document := by
  have scanned : Token.scan? (text.map some) = some value.tokens := by
    have run := scans [] [] Token.ends_nil
    rw [List.append_nil, List.append_nil] at run
    rw [Token.scan?, run, Token.scanFrom?, List.reverse_reverse]
  rw [ofPlaces?, scanned, Option.bind_some, ofTokens?, (builds_tokens plain).forms]

/-- The compact text of a value reads back as the document of the value. -/
theorem ofText?_render {value : Value} (plain : value.Plain) :
    ofText? value.render = some value.document := by
  rw [ofText?, Value.render, String.toList_ofList, ofPlaces?_of_scans plain plain.scans]

/-- So do the bytes of that text. -/
theorem ofBytes?_encode {value : Value} (plain : value.Plain) :
    ofBytes? (Utf8.encode value.render) = some value.document := by
  rw [ofBytes?, Utf8.symbols_encode, Value.render, String.toList_ofList,
    ofPlaces?_of_scans plain plain.scans]

/-! ## What the parts of a value read as -/

/-- An integer that was written out is read back, if it lies in the range that is asked for. -/
theorem integer?_numeral {low high value : Int} (least : -2 ^ 63 ≤ value)
    (most : value < 2 ^ 64) (range : low ≤ value ∧ value ≤ high) :
    (Document.numeral (.ofInt value)).integer? low high = some value := by
  simp [integer?, Numeral.integer?_ofInt least most, range]

/-- A natural number below `2 ^ 64` is read back. -/
theorem natural?_numeral {n : Nat} (small : n < 2 ^ 64) :
    (Document.numeral (.ofInt n)).natural? = some n := by
  have read : (Document.numeral (.ofInt n)).integer? 0 (2 ^ 64 - 1) = some (n : Int) :=
    integer?_numeral (by omega) (by omega) (by omega)
  rw [natural?, read, Option.map_some, Int.toNat_natCast]

/-- A list of texts is read back as these texts. -/
theorem listOf?_texts (contents : List String) :
    (Value.texts contents).document.listOf? text? = some contents := by
  have each : (contents.map fun content => (Value.text content).document).mapM text?
      = some contents := by
    induction contents with
    | nil => rfl
    | cons content rest ih => rw [List.map_cons, List.mapM_cons, ih]; rfl
  rw [Value.texts, Value.document, Value.documentItems_eq_map, List.map_map]
  exact each

end Document

/-- Texts are among the values that can be read back. -/
theorem Value.Plain.texts (contents : List String) : Plain (Value.texts contents) := by
  refine .array fun item present => ?_
  obtain ⟨content, _, rfl⟩ := List.mem_map.1 present
  exact .text content

end CausalTrace.Json
