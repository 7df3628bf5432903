/-
# What parts keep

A part that was received keeps the object that it was read from behind a view: its fields
can be looked at, and nobody can change them.  A view is no value of the page format, so it
cannot be written as it stands, and a part that was built here holds the views of whatever
in it was received.  Writing a part therefore takes two steps, which can be told apart: the
views are opened all the way down (`Kept.opened`), and what is left is written, if there is
no view in it (`Kept.value?`).

Opening leaves no view, whatever is kept (`Kept.value?_opened`), and of a part it leaves
just the fields by which the part is written (`Part.value?_kept`).  So there is a text for
every part, those that mix what was received with what was built here among them.
-/
import PageGrep.Page.Field

namespace PageGrep

/-- What a part keeps: values, and views of objects that were received, perhaps within lists
and objects that were made here. -/
inductive Kept where
  | value (v : Json)
  | view (fields : Payload)
  | list (items : List Kept)
  | object (fields : List (String × Kept))

/-- A view cannot be written. -/
inductive Unwritable where
  | view
deriving DecidableEq, Repr

namespace Kept

def field (f : String × Json) : String × Kept := (f.1, value f.2)

/-! ## Opening and writing -/

mutual

/-- What is kept, with the views in it made objects. -/
def opened : Kept → Kept
  | value v => value v
  | view fields => object (fields.map field)
  | list items => list (openedItems items)
  | object fields => object (openedFields fields)

/-- The items of a list, opened. -/
def openedItems : List Kept → List Kept
  | [] => []
  | item :: items => item.opened :: openedItems items

/-- The fields of an object, opened. -/
def openedFields : List (String × Kept) → List (String × Kept)
  | [] => []
  | (name, k) :: fields => (name, k.opened) :: openedFields fields

end

mutual

/-- The value that can be written, if there is no view in what is kept. -/
def value? : Kept → Except Unwritable Json
  | value v => .ok v
  | view _ => .error .view
  | list items => (valueItems? items).map .arr
  | object fields => (valueFields? fields).map .obj

def valueItems? : List Kept → Except Unwritable (List Json)
  | [] => .ok []
  | item :: items => do return (← item.value?) :: (← valueItems? items)

def valueFields? : List (String × Kept) → Except Unwritable Payload
  | [] => .ok []
  | (name, k) :: fields => do return (name, ← k.value?) :: (← valueFields? fields)

end

mutual

/-- The value that is kept, views counted as the objects that they show. -/
def toJson : Kept → Json
  | value v => v
  | view fields => .obj fields
  | list items => .arr (toItems items)
  | object fields => .obj (toFields fields)

def toItems : List Kept → List Json
  | [] => []
  | item :: items => item.toJson :: toItems items

def toFields : List (String × Kept) → Payload
  | [] => []
  | (name, k) :: fields => (name, k.toJson) :: toFields fields

end

theorem valueFields?_map_field (fields : Payload) :
    valueFields? (fields.map field) = .ok fields := by
  induction fields with
  | nil => rfl
  | cons f fields ih =>
      rw [List.map_cons, field, valueFields?, ih, value?]
      rfl

mutual

theorem value?_opened : ∀ k : Kept, k.opened.value? = .ok k.toJson
  | value v => rfl
  | view fields => by
      rw [opened, value?, valueFields?_map_field, toJson]
      rfl
  | list items => by
      rw [opened, value?, valueItems?_opened items, toJson]
      rfl
  | object fields => by
      rw [opened, value?, valueFields?_opened fields, toJson]
      rfl

theorem valueItems?_opened : ∀ items : List Kept,
    valueItems? (openedItems items) = .ok (toItems items)
  | [] => rfl
  | item :: items => by
      rw [openedItems, valueItems?, value?_opened item, valueItems?_opened items, toItems]
      rfl

theorem valueFields?_opened : ∀ fields : List (String × Kept),
    valueFields? (openedFields fields) = .ok (toFields fields)
  | [] => rfl
  | (name, k) :: fields => by
      rw [openedFields, valueFields?, value?_opened k, valueFields?_opened fields, toFields]
      rfl

end

theorem toItems_map {α : Type} (f : α → Kept) (xs : List α) :
    toItems (xs.map f) = xs.map fun x => (f x).toJson := by
  induction xs with
  | nil => rfl
  | cons x xs ih => rw [List.map_cons, List.map_cons, toItems, ih]

theorem toFields_append (fields fields' : List (String × Kept)) :
    toFields (fields ++ fields') = toFields fields ++ toFields fields' := by
  induction fields with
  | nil => rfl
  | cons f fields ih =>
      obtain ⟨name, k⟩ := f
      rw [List.cons_append, toFields, toFields, ih, List.cons_append]

theorem toFields_map_field (fields : Payload) : toFields (fields.map field) = fields := by
  induction fields with
  | nil => rfl
  | cons f fields ih =>
      rw [List.map_cons, field, toFields, ih, toJson]

end Kept

/-! ## Parts -/

mutual

/-- What a member keeps: the view of its object, or its own fields. -/
def Member.kept : Member → Kept
  | ⟨e, item⟩ =>
    if e.payload.isEmpty then
      .object (("type", .value (.str e.kind)) :: (e.texts.map Kept.field ++ itemKept item))
    else .view e.payload

/-- The field for what a member is about, as it is kept. -/
def itemKept : Option Member → List (String × Kept)
  | none => []
  | some item => [("item", item.kept)]

end

/-- What a page keeps: the view of its object, or its own fields. -/
def Page.kept (p : Page) : Kept :=
  if p.payload.isEmpty then
    .object [("slug", .value (.str p.slug)), ("title", .value (.str p.title)),
      ("story", .list (p.story.map Member.kept)), ("journal", .list (p.journal.map Member.kept))]
  else .view p.payload

def Part.kept : Part → Kept
  | page p => p.kept
  | member m => m.kept

mutual

theorem Member.toJson_kept : ∀ m : Member, m.kept.toJson = .obj m.fields
  | ⟨e, item⟩ => by
      rw [Member.kept, Member.fields]
      split
      · rw [Kept.toJson, Kept.toFields, Kept.toJson, Kept.toFields_append,
          Kept.toFields_map_field, toFields_itemKept item]
      · rfl

theorem toFields_itemKept : ∀ item : Option Member, Kept.toFields (itemKept item) = itemFields item
  | none => rfl
  | some item => by
      rw [itemKept, Kept.toFields, Member.toJson_kept item, itemFields]
      rfl

end

theorem Page.toJson_kept (p : Page) : p.kept.toJson = .obj p.fields := by
  rw [Page.kept, Page.fields]
  split
  · simp only [Kept.toJson, Kept.toFields, Kept.toItems_map, Member.toJson_kept]
  · rfl

theorem Part.value?_kept (part : Part) : part.kept.opened.value? = .ok (.obj part.fields) := by
  rw [Kept.value?_opened]
  cases part with
  | page p => exact congrArg Except.ok p.toJson_kept
  | member m => exact congrArg Except.ok m.toJson_kept

end PageGrep
