/-
# The fields of what was built here

A part of a page that was built here, and not received, is written by its fields.  Its
names are all different, so each field is found again under its name
(`Entry.ofFields_fields`), and texts are all that it holds in the end, so its written form
is exact (`Page.IsBuilt.isExact`).
-/
import PageGrep.Page.Field
import PageGrep.Page.Reading
import PageGrep.Proofs.Json.RoundTrip

namespace PageGrep

/-! ## Looking up fields -/

namespace Json

theorem lookup?_append {α : Type} (name : String) (xs ys : List (String × α)) :
    lookup? name (xs ++ ys) = (lookup? name xs).or (lookup? name ys) := by
  induction xs with
  | nil => rfl
  | cons field xs ih =>
      obtain ⟨key, value⟩ := field
      rw [List.cons_append, lookup?, lookup?]
      split
      · rfl
      · exact ih

theorem lookup?_eq_none {α : Type} {name : String} {fields : List (String × α)}
    (h : name ∉ fields.map Prod.fst) : lookup? name fields = none := by
  induction fields with
  | nil => rfl
  | cons field fields ih =>
      obtain ⟨key, value⟩ := field
      rw [List.map_cons, List.mem_cons, not_or] at h
      rw [lookup?, if_neg (by simpa using Ne.symm h.1), ih h.2]

end Json

theorem Field.name_injective {f g : Field} (h : f.name = g.name) : f = g := by
  cases f <;> cases g <;> first | rfl | exact absurd h (by decide)

theorem Entry.names_texts (e : Entry) :
    (e.texts.map Prod.fst).Sublist (Field.all.map Field.name) := by
  have hlist (fs : List Field) : ((fs.filterMap fun f =>
      (f.ofEntry e).map fun s => (f.name, Json.str s)).map Prod.fst).Sublist
        (fs.map Field.name) := by
    induction fs with
    | nil => exact List.Sublist.refl []
    | cons f fs ih =>
        rw [List.filterMap_cons]
        cases hf : f.ofEntry e with
        | none => exact ih.cons f.name
        | some s => exact ih.cons_cons f.name
  exact hlist Field.all

theorem Entry.lookup?_texts (e : Entry) (f : Field) :
    Json.lookup? f.name e.texts = (f.ofEntry e).map Json.str := by
  have hlist (fs : List Field) : Json.lookup? f.name
      (fs.filterMap fun g => (g.ofEntry e).map fun s => (g.name, Json.str s))
        = if f ∈ fs then (f.ofEntry e).map Json.str else none := by
    induction fs with
    | nil => rfl
    | cons g fs ih =>
        rw [List.filterMap_cons]
        by_cases hfg : f = g
        · subst hfg
          rw [if_pos List.mem_cons_self]
          cases hf : f.ofEntry e with
          | none =>
              simp only [Option.map_none, ih, hf, ite_self]
          | some s =>
              simp only [Option.map_some, Json.lookup?, beq_self_eq_true, if_pos]
        · have hname : (g.name == f.name) = false :=
            beq_false_of_ne fun heq => hfg (Field.name_injective heq).symm
          have hmem : f ∈ g :: fs ↔ f ∈ fs := by simp [hfg]
          simp only [hmem]
          rw [← ih]
          cases hg : g.ofEntry e with
          | none => rfl
          | some s => simp only [Option.map_some, Json.lookup?, hname, Bool.false_eq_true, if_false]
  rw [Entry.texts, hlist, if_pos (by cases f <;> decide)]

/-! ## What was built here -/

/-- Whether a member of a story was built here: it keeps no object, and it is about no other
member. -/
structure Member.IsBuiltEntry (m : Member) : Prop where
  payload : m.payload = []
  item : m.item = none

/-- Whether a member of a journal was built here, with the member that it is about. -/
structure Member.IsBuiltAction (m : Member) : Prop where
  payload : m.payload = []
  item : ∀ item ∈ m.item, item.IsBuiltEntry

/-- Whether a page was built here, with all its members. -/
structure Page.IsBuilt (p : Page) : Prop where
  payload : p.payload = []
  story : ∀ m ∈ p.story, m.IsBuiltEntry
  journal : ∀ m ∈ p.journal, m.IsBuiltAction

theorem Member.fields_of_payload {m : Member} (h : m.payload = []) :
    m.fields = ("type", .str m.kind) :: (m.texts ++ itemFields m.item) := by
  obtain ⟨e, item⟩ := m
  rw [Member.fields, if_pos (by rw [h]; rfl)]

theorem Member.fields_ne_nil (m : Member) : m.fields ≠ [] := by
  obtain ⟨e, item⟩ := m
  rw [Member.fields]
  split
  · exact List.cons_ne_nil _ _
  · rename_i h
    simpa using h

theorem Page.fields_ne_nil (p : Page) : p.fields ≠ [] := by
  rw [Page.fields]
  split
  · exact List.cons_ne_nil _ _
  · rename_i h
    simpa using h

theorem Page.IsBuilt.fields {p : Page} (h : p.IsBuilt) :
    p.fields = [("slug", .str p.slug), ("title", .str p.title),
      ("story", .arr (p.story.map fun m => .obj m.fields)),
      ("journal", .arr (p.journal.map fun m => .obj m.fields))] := by
  rw [Page.fields, if_pos (by rw [h.payload]; rfl)]

/-! ## Entries read back -/

theorem Entry.lookup?_texts_eq_none {name : String} (h : name ∉ Field.all.map Field.name)
    (e : Entry) : Json.lookup? name e.texts = none :=
  Json.lookup?_eq_none fun hmem => h (e.names_texts.subset hmem)

theorem Member.lookup?_fields {m : Member} (h : m.payload = []) (f : Field) :
    Json.lookup? f.name m.fields = (f.ofEntry m.toEntry).map Json.str := by
  have htype : ("type" == f.name) = false := by cases f <;> rfl
  have hitem : Json.lookup? f.name (itemFields m.item) = none := by
    cases hm : m.item with
    | none => rfl
    | some item =>
        have hname : ("item" == f.name) = false := by cases f <;> rfl
        rw [itemFields, Json.lookup?, hname, if_neg Bool.false_ne_true]
        rfl
  rw [Member.fields_of_payload h, Json.lookup?, htype, if_neg Bool.false_ne_true,
    Json.lookup?_append, Entry.lookup?_texts, hitem, Option.or_none]

theorem Member.lookup?_type {m : Member} (h : m.payload = []) :
    Json.lookup? "type" m.fields = some (.str m.kind) := by
  rw [Member.fields_of_payload h]
  rfl

theorem Member.lookup?_item {m : Member} (h : m.payload = []) :
    Json.lookup? "item" m.fields = m.item.map fun item => .obj item.fields := by
  have htype : ("type" == "item") = false := rfl
  rw [Member.fields_of_payload h, Json.lookup?, htype, if_neg Bool.false_ne_true,
    Json.lookup?_append, Entry.lookup?_texts_eq_none (by decide), Option.none_or]
  cases m.item <;> rfl

theorem Entry.ofFields_fields {m : Member} (h : m.payload = []) :
    Entry.ofFields m.fields = { m.toEntry with payload := m.fields } := by
  have hfield (f : Field) : (Json.obj m.fields).textField? f.name = f.ofEntry m.toEntry := by
    rw [Json.textField?, Json.field, Member.lookup?_fields h]
    cases f.ofEntry m.toEntry <;> rfl
  have htype : (Json.obj m.fields).textField? "type" = some m.kind := by
    rw [Json.textField?, Json.field, Member.lookup?_type h]
    rfl
  have htext : (Json.obj m.fields).textField? "text" = m.text := hfield .text
  have htitle : (Json.obj m.fields).textField? "title" = m.title := hfield .title
  have hsite : (Json.obj m.fields).textField? "site" = m.site := hfield .site
  have hid : (Json.obj m.fields).textField? "id" = m.id := hfield .id
  have halias : (Json.obj m.fields).textField? "alias" = m.otherName := hfield .otherName
  simp only [Entry.ofFields, htype, htext, htitle, hsite, hid, halias, Option.getD_some]

/-! ## Exactness -/

theorem Entry.isExact_of_mem_texts {e : Entry} {f : String × Json} (h : f ∈ e.texts) :
    f.2.IsExact := by
  obtain ⟨g, -, hg⟩ := List.mem_filterMap.mp h
  obtain ⟨s, -, rfl⟩ := Option.map_eq_some_iff.mp hg
  rw [Json.IsExact]
  trivial

theorem Member.isExact_fields {m : Member} (h : m.payload = [])
    (hitem : ∀ item ∈ m.item, (Json.obj item.fields).IsExact) : (Json.obj m.fields).IsExact := by
  rw [Json.IsExact, Json.holdExact_iff, Member.fields_of_payload h]
  constructor
  · have hlast : ((itemFields m.item).map Prod.fst).Sublist ["item"] := by
      cases m.item with
      | none => exact List.nil_sublist _
      | some item => exact List.Sublist.refl _
    have hnames : ("type" :: (Field.all.map Field.name ++ ["item"])).Nodup := by decide
    rw [List.map_cons, List.map_append]
    exact hnames.sublist ((m.names_texts.append hlast).cons_cons "type")
  · intro f hf
    rcases List.mem_cons.mp hf with rfl | hf
    · rw [Json.IsExact]
      trivial
    · rcases List.mem_append.mp hf with hf | hf
      · exact Entry.isExact_of_mem_texts hf
      · cases hm : m.item with
        | none =>
            rw [hm] at hf
            nomatch hf
        | some item =>
            rw [hm, itemFields, List.mem_singleton] at hf
            rw [hf]
            exact hitem item hm

theorem Member.IsBuiltEntry.isExact {m : Member} (h : m.IsBuiltEntry) :
    (Json.obj m.fields).IsExact :=
  Member.isExact_fields h.payload fun item hitem => by
    rw [h.item] at hitem
    nomatch hitem

theorem Member.IsBuiltAction.isExact {m : Member} (h : m.IsBuiltAction) :
    (Json.obj m.fields).IsExact :=
  Member.isExact_fields h.payload fun item hitem => (h.item item hitem).isExact

theorem Page.IsBuilt.isExact {p : Page} (h : p.IsBuilt) : (Json.obj p.fields).IsExact := by
  have hstory := List.forall_mem_map.mpr fun m hm => (h.story m hm).isExact
  have hjournal := List.forall_mem_map.mpr fun m hm => (h.journal m hm).isExact
  rw [h.fields, Json.IsExact, Json.holdExact_iff]
  refine ⟨by simp, ?_⟩
  simp only [List.forall_mem_cons, Json.IsExact, Json.areExact_iff, true_and]
  exact ⟨hstory, hjournal, nofun⟩

end PageGrep
