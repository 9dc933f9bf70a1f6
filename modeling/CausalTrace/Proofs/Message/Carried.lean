import CausalTrace.Message.Basic
import CausalTrace.Proofs.Json.Reading
import CausalTrace.Proofs.Message.ValueLists
import CausalTrace.Recording

/-!
# Identities that are carried along

An identity with an id reads back from the text that it is written as, and so from every message
that it was put into, whatever labels and ids it holds.  `Causality.reads_back_attached` says so for
headers of any kind, and that nothing else becomes of them.  A hook of either direction leaves a
message alone that carries an identity, and a hook that sees a message leave without one gives it
one.
-/

namespace CausalTrace

open Json

namespace Causality

/-- An identity is written as a value that can be read back. -/
theorem plain_toValue (causality : Causality) : causality.toValue.Plain := by
  refine .object fun member present => ?_
  simp only [List.mem_cons, List.not_mem_nil, or_false] at present
  rcases present with rfl | rfl | rfl
  · exact .text _
  · exact .texts _
  · cases causality.label with
    | none => exact .null
    | some label => exact .text label

/-- The document of an identity is read as this identity. -/
theorem ofDocument?_document (causality : Causality) :
    ofDocument? causality.toValue.document = some causality := by
  obtain ⟨id, parents, label⟩ := causality
  have fields : (Causality.toValue ⟨id, parents, label⟩).document.fields? fieldNames = some [
      some (.text (some id)), some (Value.texts parents).document,
      some ((label.map Value.text).getD .null).document] := by
    rfl
  rw [ofDocument?, fields]
  simp only [Option.bind_eq_bind, Option.bind_some, Option.pure_def, Document.listOf?_texts,
    Document.text?]
  cases label <;> rfl

/-- An identity reads back from its text, or is refused because it has no id. -/
theorem decode_encode_eq (causality : Causality) :
    decode causality.encode =
      if causality.id = "" then .error (.refuse causality.encode MalformedHeader.emptyId)
      else .ok causality := by
  have read : (Document.ofText? causality.encode).bind ofDocument? = some causality := by
    rw [encode, Document.ofText?_render causality.plain_toValue, Option.bind_some,
      ofDocument?_document]
  rw [decode, read]

/-- An identity with an id reads back from its text. -/
theorem decode_encode {causality : Causality} (named : causality.id ≠ "") :
    decode causality.encode = .ok causality := by
  rw [decode_encode_eq, if_neg named]

end Causality

/-- A value that was set is the only one under its name. -/
theorem Headers.filter_set (headers : Headers) (name value : String) :
    ((headers.set name value).entries.filter fun entry => sameName entry.1 name)
      = [(name, value)] := by
  have same := sameName_self name
  change (headers.set name value).under name = _
  rw [set, under_add_same _ value same, under_without_same headers same]
  rfl

/-- Setting a value leaves the entries of all other names as they are. -/
theorem Headers.without_set (headers : Headers) (name value : String) :
    (headers.set name value).without name = headers.without name :=
  headers.without_change (.set name value) (sameName_self name)

/-- A value that was set is the first under its name. -/
theorem Headers.get?_set (headers : Headers) (name value : String) :
    (headers.set name value).get? name = some value := by
  have all : (headers.set name value).getAll name = [value] :=
    headers.change_entries (.set name value) (sameName_self name)
  rw [get?_eq_head?, all]
  rfl

/-- Headers from which a hook reads an identity. -/
def Headers.Carries (headers : Headers) (causality : Causality) : Prop :=
  Causality.extract headers = .ok (some causality)

/-- So do headers that it was put into. -/
theorem Causality.carries_attach {causality : Causality} (named : causality.id ≠ "")
    (headers : Headers) : (causality.attach headers).Carries causality := by
  rw [Headers.Carries, extract, attach, Headers.get?_set]
  simp only [decode_encode named]
  rfl

/-- The text of an identity says just what the identity is, and headers of any kind that it is
attached to have it as their only reserved entry, with all other entries as they were.  Only an
identity without an id is refused. -/
theorem Causality.reads_back_attached (causality : Causality) (headers : Headers) :
    let refusal := MalformedHeader.refuse causality.encode "empty message_id"
    decode causality.encode = (if causality.id = "" then .error refusal else .ok causality) ∧
      extract (causality.attach headers)
        = (if causality.id = "" then .error refusal else .ok (some causality)) ∧
      ((causality.attach headers).entries.filter fun entry => sameName entry.1 headerName)
        = [(headerName, causality.encode)] ∧
      ((causality.attach headers).entries.filter fun entry => !sameName entry.1 headerName)
        = headers.entries.filter fun entry => !sameName entry.1 headerName := by
  intro refusal
  have read : decode causality.encode
      = if causality.id = "" then .error refusal else .ok causality := causality.decode_encode_eq
  refine ⟨read, ?_, headers.filter_set headerName causality.encode,
    congrArg Headers.entries (headers.without_set headerName causality.encode)⟩
  rw [extract, attach, Headers.get?_set]
  simp only [read]
  split <;> rfl

/-- A message whose headers carry an identity has this identity. -/
theorem Headers.Carries.causality {message : Message} {causality : Causality}
    (carries : message.headers.Carries causality) : message.causality = some causality := by
  rw [Message.causality, show Causality.extract message.headers = .ok (some causality) from carries]

/-- What is carried is left alone. -/
theorem Direction.sight_of_carries (direction : Direction) {headers : Headers}
    {causality : Causality} (carries : headers.Carries causality) (ids : IdSource) :
    direction.sight headers ids = ⟨headers, some causality, false, ids⟩ := by
  have extracted : Causality.extract headers = .ok (some causality) := carries
  cases direction <;> simp only [sight, extracted]

/-- What leaves without an identity is given one that descends from nothing. -/
theorem Direction.sight_of_unmarked {headers : Headers}
    (unmarked : Causality.extract headers = .ok none) (ids : IdSource) :
    Direction.sent.sight headers ids = .root headers false ids := by
  simp only [sight, unmarked]

end CausalTrace
