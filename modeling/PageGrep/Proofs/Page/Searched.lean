/-
# What is searched of a part that was received

A test of a whole part searches the part in the page format.  What is there to be searched
is the object as it was received, field by field and in order, whatever of it the reader
left out or took for a text: reading the searched text gives that object back, so different
objects are searched in different texts (`searched_of_parse`).

The empty object is the one exception.  A part cannot be told from one that was built here
by its payload then, and is written by its fields, of which there is always one
(`Part.fields_ne_nil`).
-/
import PageGrep.Proofs.Json.Exact
import PageGrep.Proofs.Page.Fields

namespace PageGrep

/-! ## Fields and payloads -/

/-- The object that a part was read from; empty for a part that was built here. -/
def Part.payload : Part → Payload
  | page p => p.payload
  | member m => m.payload

theorem Part.fields_ne_nil (part : Part) : part.fields ≠ [] := by
  cases part with
  | page p => exact p.fields_ne_nil
  | member m => exact m.fields_ne_nil

theorem Part.fields_eq_payload {part : Part} (h : part.payload ≠ []) :
    part.fields = part.payload := by
  have hsome : part.payload.isEmpty ≠ true := by simpa using h
  cases part with
  | page p => exact if_neg hsome
  | member m =>
      obtain ⟨e, item⟩ := m
      rw [Part.fields, Member.fields]
      exact if_neg hsome

/-! ## Readers -/

/-- What an object may be read as: a member of a story, a member of a journal, or the page
under a slug. -/
inductive Reader where
  | entry
  | action
  | page (slug : String)
deriving DecidableEq, Repr

/-- The part that is read from a value, if there is one. -/
def Reader.part? : Reader → Json → Option Part
  | entry, value => (Member.ofEntry? value).map .member
  | action, value => (Member.ofAction? value).map .member
  | page slug, value => (Page.ofJson slug value).toOption.map .page

namespace Reader

variable {reader : Reader} {fields : Payload} {part : Part}

theorem exists_part (reader : Reader) (fields : Payload) :
    ∃ part, reader.part? (.obj fields) = some part := by
  cases reader with
  | entry => exact ⟨_, rfl⟩
  | action => exact ⟨_, rfl⟩
  | page slug => exact ⟨_, rfl⟩

theorem payload_of_part? (h : reader.part? (.obj fields) = some part) :
    part.payload = fields := by
  cases reader with
  | entry =>
      cases h
      rfl
  | action =>
      cases h
      rfl
  | page slug =>
      cases h
      rfl

/-- What is read from the empty object is as if it were built here, so its fields are exact. -/
theorem isExact_of_part?_nil (h : reader.part? (.obj []) = some part) :
    (Json.obj part.fields).IsExact := by
  cases reader with
  | entry =>
      cases h
      exact Member.IsBuiltEntry.isExact ⟨rfl, rfl⟩
  | action =>
      cases h
      exact Member.IsBuiltEntry.isExact ⟨rfl, rfl⟩
  | page slug =>
      cases h
      exact Page.IsBuilt.isExact ⟨rfl, nofun, nofun⟩

/-- The fields of a part are the object that it was read from, unless that is empty. -/
theorem fields_eq_iff (h : reader.part? (.obj fields) = some part) :
    part.fields = fields ↔ fields ≠ [] := by
  have hpayload := payload_of_part? h
  constructor
  · intro heq hnil
    exact part.fields_ne_nil (heq.trans hnil)
  · intro hne
    rw [← hpayload] at hne ⊢
    exact Part.fields_eq_payload hne

theorem parse_jsonText (h : reader.part? (.obj fields) = some part)
    (hexact : (Json.obj fields).IsExact) : Json.parse part.jsonText = .ok (.obj part.fields) := by
  refine Json.parse_text 1 ?_
  by_cases hnil : fields = []
  · subst hnil
    exact isExact_of_part?_nil h
  · rwa [(fields_eq_iff h).mpr hnil]

end Reader

/-! ## Searched texts -/

/-- How the text that is searched of a part tells the object that the part was read from. -/
structure Part.TellsPayload (part : Part) (fields : Payload) : Prop where
  /-- The text is read as the object just if the object has fields. -/
  parse : Json.parse part.jsonText = .ok (.obj fields) ↔ fields ≠ []
  /-- It is then the object in the page format, whatever was made of it. -/
  text : fields ≠ [] → part.jsonText = (Json.obj fields).text 1
  /-- Another object with fields is searched in another text, whatever it is read as. -/
  distinct : fields ≠ [] → ∀ (source : String) (others : Payload) (reader : Reader) (other : Part),
    Json.parse source = .ok (.obj others) → (Json.obj others).HasNoFloat → others ≠ [] →
    reader.part? (.obj others) = some other → others ≠ fields → other.jsonText ≠ part.jsonText

/-- **A test of a whole part searches what was received.** -/
theorem searched_of_parse {source : String} {fields : Payload}
    (hread : Json.parse source = .ok (.obj fields)) (hfloat : (Json.obj fields).HasNoFloat)
    (reader : Reader) :
    ∃ part, reader.part? (.obj fields) = some part ∧ part.TellsPayload fields := by
  obtain ⟨part, hpart⟩ := reader.exists_part fields
  have hparse := Reader.parse_jsonText hpart (Json.isExact_of_parse hread hfloat)
  refine ⟨part, hpart, ?_, ?_, ?_⟩
  · rw [hparse, Except.ok.injEq, Json.obj.injEq]
    exact Reader.fields_eq_iff hpart
  · intro hne
    rw [Part.jsonText, (Reader.fields_eq_iff hpart).mpr hne]
  · intro hne source' others reader' other hread' hfloat' hne' hother hdiffer hsame
    have hparse' := Reader.parse_jsonText hother (Json.isExact_of_parse hread' hfloat')
    rw [hsame, hparse, Except.ok.injEq, Json.obj.injEq, (Reader.fields_eq_iff hpart).mpr hne,
      (Reader.fields_eq_iff hother).mpr hne'] at hparse'
    exact hdiffer hparse'.symm

/-- An action whose fields are of other sorts than are asked for, and that has a name with a
quote, a backslash and a control character in what it is about. -/
theorem searched_of_parse_odd_action :
    let fields : Payload :=
      [("text", .obj [("b", .int (-12)), ("a", .arr [])]),
        ("item", .arr [.null, .obj [("\x01\"\\é", .obj [])]]), ("type", .bool true)]
    Json.parse ((Json.obj fields).text 0) = .ok (.obj fields) ∧ (Json.obj fields).HasNoFloat ∧
      ∃ part, Reader.action.part? (.obj fields) = some part ∧ part.TellsPayload fields := by
  intro fields
  have hfloat : (Json.obj fields).HasNoFloat := by
    simp [fields, Json.HasNoFloat, Json.HaveNoFloat, Json.HoldNoFloat]
  have hexact : (Json.obj fields).IsExact := by
    simp [fields, Json.IsExact, Json.AreExact, Json.HoldExact, Json.IsShort, Nat.toDigits_eq_if,
      Text.Numeral.digitLimit]
  have hread := Json.parse_text 0 hexact
  exact ⟨hread, hfloat, searched_of_parse hread hfloat .action⟩

end PageGrep
