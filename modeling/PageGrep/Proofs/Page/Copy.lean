/-
# Copies of pages built here

Reading what is written of a page that was built here gives a page that says the same,
each part of it together with the object that it was written as (`Page.received`).  What a
test reads of a part is the same before and after: its texts are kept, and its fields are
that object.  So a program holds of the one page just if it holds of the other
(`matchPage_received`), and a page and its copy cannot be told apart (`copy_of_isBuilt`).
-/
import PageGrep.Program.Match
import PageGrep.Proofs.Page.Fields

namespace PageGrep

/-! ## What is received -/

mutual

/-- A member as it is received when its fields are sent. -/
def Member.received : Member → Member
  | ⟨e, item⟩ => ⟨{ e with payload := Member.fields ⟨e, item⟩ }, itemReceived item⟩

/-- What a member is about, as it is received. -/
def itemReceived : Option Member → Option Member
  | none => none
  | some item => some item.received

end

def Page.received (p : Page) : Page :=
  { p with
    story := p.story.map Member.received
    journal := p.journal.map Member.received
    payload := p.fields }

def Part.received : Part → Part
  | page p => page p.received
  | member m => member m.received

theorem Member.fields_received (m : Member) : m.received.fields = m.fields := by
  obtain ⟨e, item⟩ := m
  rw [Member.received, Member.fields, if_neg]
  simpa using Member.fields_ne_nil ⟨e, item⟩

theorem Page.fields_received (p : Page) : p.received.fields = p.fields := by
  rw [Page.received, Page.fields, if_neg]
  simpa using Page.fields_ne_nil p

/-! ## Matching -/

theorem Field.read_received (f : Field) (part : Part) : f.read part.received = f.read part := by
  cases part with
  | page p => rfl
  | member m =>
      obtain ⟨e, item⟩ := m
      cases item with
      | none => cases f <;> rfl
      | some item =>
          obtain ⟨e', item'⟩ := item
          cases f <;> rfl

theorem Subject.read_received (s : Subject) (part : Part) :
    s.read part.received = s.read part := by
  cases s with
  | field f => exact f.read_received part
  | whole =>
      have hfields : part.received.fields = part.fields := by
        cases part with
        | page p => exact p.fields_received
        | member m => exact m.fields_received
      rw [Subject.read, Subject.read, Part.jsonText, Part.jsonText, hfields]

theorem Collection.select_received (c : Collection) (kind : String) (p : Page) :
    c.select kind p.received = (c.select kind p).map Member.received := by
  have hmembers : c.members p.received = (c.members p).map Member.received := by cases c <;> rfl
  have hkind : (fun m : Member => kind == "" || m.kind == kind) ∘ Member.received
      = fun m : Member => kind == "" || m.kind == kind := by
    funext ⟨e, item⟩
    rfl
  rw [Collection.select, Collection.select, hmembers, List.filter_map, hkind]

section Asking

variable {m : Type → Type} [Monad m]

theorem anyM_map {α β : Type} (f : α → β) (asked : β → m Bool) (xs : List α) :
    (xs.map f).anyM asked = xs.anyM fun x => asked (f x) := by
  induction xs with
  | nil => rfl
  | cons x xs ih => rw [List.map_cons, List.anyM_cons, List.anyM_cons, ih]

theorem Collection.anyM_select_received (c : Collection) (kind : String) (p : Page)
    {asked asked' : Member → m Bool} (h : ∀ m, asked' m.received = asked m) :
    (c.select kind p.received).anyM asked' = (c.select kind p).anyM asked := by
  rw [Collection.select_received, anyM_map, funext h]

theorem askPart_received (look : Pattern → String → m Bool) (p : Page) (chained : Bool)
    (part : Part) (program : Program) :
    askPart look p.received chained part.received program
      = askPart look p chained part program := by
  induction program generalizing part with
  | nil => rfl
  | cons step rest ih =>
      cases step with
      | select c kind =>
          rw [askPart, askPart, c.anyM_select_received kind p fun m => ih (.member m)]
      | test s pattern => rw [askPart, askPart, Subject.read_received, ih]

end Asking

/-- A program holds of a page just if it holds of what is received of it. -/
theorem matchPage_received (p : Page) (program : Program) (chained : Bool) :
    matchPage p.received program chained = matchPage p program chained := by
  have hpart := askPart_received Pattern.search p chained
  cases program with
  | nil => rfl
  | cons step rest =>
      cases step with
      | select c kind => exact c.anyM_select_received kind p fun m => hpart (.member m) rest
      | test s pattern => exact hpart (.page p) (.test s pattern :: rest)

/-! ## Reading back -/

theorem Member.IsBuiltEntry.readsBack {m : Member} (h : m.IsBuiltEntry) :
    Member.ofEntry? (.obj m.fields) = some m.received := by
  obtain ⟨e, item⟩ := m
  obtain ⟨hpayload, hitem⟩ := h
  have hentry := Entry.ofFields_fields hpayload
  dsimp only at hitem
  subst hitem
  rw [Member.ofEntry?, hentry, Member.received]
  rfl

theorem Member.IsBuiltAction.readsBack {m : Member} (h : m.IsBuiltAction) :
    Member.ofAction? (.obj m.fields) = some m.received := by
  have hentry := Entry.ofFields_fields h.payload
  have hitem : Member.ofEntry? (Json.field (.obj m.fields) "item") = itemReceived m.item := by
    rw [Json.field, Member.lookup?_item h.payload]
    cases hm : m.item with
    | none => rfl
    | some item => exact (h.item item hm).readsBack
  obtain ⟨e, item⟩ := m
  rw [Member.ofAction?, hentry, hitem, Member.received]

theorem filterMap_map_eq_map {α β γ : Type} {f : α → β} {g : β → Option γ} {k : α → γ}
    {xs : List α} (h : ∀ x ∈ xs, g (f x) = some (k x)) :
    (xs.map f).filterMap g = xs.map k := by
  induction xs with
  | nil => rfl
  | cons x xs ih =>
      rw [List.forall_mem_cons] at h
      rw [List.map_cons, List.filterMap_cons, h.1, ih h.2, List.map_cons]

theorem Page.IsBuilt.ofJson {p : Page} (h : p.IsBuilt) (htitle : p.title ≠ "") :
    Page.ofJson p.slug (.obj p.fields) = .ok p.received := by
  have hfields := h.fields
  have hstory := filterMap_map_eq_map fun m hm => (h.story m hm).readsBack
  have hjournal := filterMap_map_eq_map fun m hm => (h.journal m hm).readsBack
  have hnamed : (Json.obj p.fields).textField? "title" = some p.title := by
    rw [hfields]
    rfl
  have hstory' :
      ((Json.obj p.fields).field "story").items = p.story.map fun m => .obj m.fields := by
    rw [hfields]
    rfl
  have hjournal' :
      ((Json.obj p.fields).field "journal").items = p.journal.map fun m => .obj m.fields := by
    rw [hfields]
    rfl
  have htitle' : (p.title == "") = false := beq_false_of_ne htitle
  simp only [Page.ofJson, hnamed, hstory', hjournal', hstory, hjournal, Option.getD_some, htitle',
    Bool.false_eq_true, if_false]
  rfl

/-! ## Copies -/

mutual

/-- A member without the objects that it and what it is about were read from. -/
def Member.bare : Member → Member
  | ⟨e, item⟩ => ⟨{ e with payload := [] }, itemBare item⟩

/-- What a member is about, without the objects read. -/
def itemBare : Option Member → Option Member
  | none => none
  | some item => some item.bare

end

/-- A page that cannot be told apart from another. -/
structure Page.IsCopy (q p : Page) : Prop where
  /-- It has the same slug. -/
  slug : q.slug = p.slug
  /-- It has the same title. -/
  title : q.title = p.title
  /-- Its story says the same, member by member. -/
  story : q.story.map Member.bare = p.story
  /-- Its journal says the same, with what the actions are about. -/
  journal : q.journal.map Member.bare = p.journal
  /-- Every program gives the same answer, plain and chained. -/
  answer : ∀ program chained, matchPage q program chained = matchPage p program chained

theorem Member.IsBuiltEntry.bare_received {m : Member} (h : m.IsBuiltEntry) :
    m.received.bare = m := by
  obtain ⟨⟨kind, text, title, site, id, otherName, payload⟩, item⟩ := m
  obtain ⟨rfl, rfl⟩ := h
  rfl

theorem Member.IsBuiltAction.bare_received {m : Member} (h : m.IsBuiltAction) :
    m.received.bare = m := by
  obtain ⟨⟨kind, text, title, site, id, otherName, payload⟩, item⟩ := m
  obtain ⟨hpayload, hitem⟩ := h
  dsimp only at hpayload
  subst hpayload
  cases item with
  | none => rfl
  | some item =>
      have hsame := (hitem item rfl).bare_received
      rw [Member.received, Member.bare, itemReceived, itemBare, hsame]

/-- **A page built here and the page read from its text cannot be told apart.** -/
theorem copy_of_isBuilt {p : Page} (h : p.IsBuilt) (htitle : p.title ≠ "") :
    ∃ value q, Json.parse (Part.page p).jsonText = .ok value ∧
      Page.ofJson p.slug value = .ok q ∧ q.IsCopy p := by
  have hstory : p.story.map (Member.bare ∘ Member.received) = p.story.map id :=
    List.map_congr_left fun m hm => (h.story m hm).bare_received
  have hjournal : p.journal.map (Member.bare ∘ Member.received) = p.journal.map id :=
    List.map_congr_left fun m hm => (h.journal m hm).bare_received
  refine ⟨.obj p.fields, p.received, Json.parse_text 1 h.isExact, h.ofJson htitle, rfl, rfl, ?_,
    ?_, matchPage_received p⟩
  · rw [Page.received, List.map_map, hstory, List.map_id]
  · rw [Page.received, List.map_map, hjournal, List.map_id]

/-- A page whose texts have quotes, a backslash, line breaks and a control character, and with
an action that is about a member. -/
def escapedPage : Page where
  slug := "a-page"
  title := "A \"page\""
  story := [{ kind := "paragraph", text := some "\\ \n \x01 é\uFEFF", otherName := some "" }]
  journal := [{
    kind := "add"
    id := some "1"
    item := some { kind := "reference", title := some "null", site := some "[[]]\r\n" } }]

theorem copy_of_isBuilt_escapedPage :
    escapedPage.IsBuilt ∧ escapedPage.title ≠ "" ∧
      ∃ value q, Json.parse (Part.page escapedPage).jsonText = .ok value ∧
        Page.ofJson escapedPage.slug value = .ok q ∧ q.IsCopy escapedPage := by
  have hbuilt : escapedPage.IsBuilt := by
    refine ⟨rfl, ?_, ?_⟩
    · simp only [escapedPage, List.forall_mem_singleton]
      exact ⟨rfl, rfl⟩
    · simp only [escapedPage, List.forall_mem_singleton]
      refine ⟨rfl, ?_⟩
      rintro item ⟨⟩
      exact ⟨rfl, rfl⟩
  exact ⟨hbuilt, by decide, copy_of_isBuilt hbuilt (by decide)⟩

end PageGrep
