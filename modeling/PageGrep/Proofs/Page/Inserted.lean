/-
# Members put in

A page is read member by member, and a program asks for members one at a time, so what else
stands in a story or a journal takes nothing away from a page: whatever is put between the
members, a program that held of the page still does, unless a test of it breaks down at a member
that was put in (`askPage_growsTo`).  What is no object is no member at all, and the page that
is read is the same but for the fields it keeps as they were received (`PutIn.filterMap_eq`).

Those fields are what a test of the whole page reads, and it may hold no longer when more stands
in them, so the program must not begin with such a test.  After a selecting step tests are about
a member, which keeps its own fields and no others.

Members are asked in their order up to the first of which the steps hold.  A member that was put
in comes before others, and a test that breaks down there keeps them from being asked.
-/
import PageGrep.Page.Reading
import PageGrep.Proofs.Program.Outline

namespace PageGrep

/-! ## Lists with elements put in -/

/-- A list and the list with elements of some sort put in, anywhere and any number of them. -/
inductive PutIn {α : Type} (sort : α → Prop) : List α → List α → Prop
  | nil : PutIn sort [] []
  | keep {x : α} {xs ys : List α} : PutIn sort xs ys → PutIn sort (x :: xs) (x :: ys)
  | put {y : α} {xs ys : List α} : sort y → PutIn sort xs ys → PutIn sort xs (y :: ys)

namespace PutIn

variable {α β : Type} {sort : α → Prop} {xs ys : List α}

theorem filterMap_eq (h : PutIn sort xs ys) {f : α → Option β} (hf : ∀ y, sort y → f y = none) :
    ys.filterMap f = xs.filterMap f := by
  induction h with
  | nil => rfl
  | keep _ ih => rw [List.filterMap_cons, List.filterMap_cons, ih]
  | put hy _ ih => rw [List.filterMap_cons_none (hf _ hy), ih]

theorem filterMap {sort' : β → Prop} (h : PutIn sort xs ys) {f : α → Option β}
    (hf : ∀ y b, sort y → f y = some b → sort' b) :
    PutIn sort' (xs.filterMap f) (ys.filterMap f) := by
  induction h with
  | nil => exact .nil
  | @keep x _ _ _ ih =>
      rw [List.filterMap_cons, List.filterMap_cons]
      cases f x with
      | none => exact ih
      | some _ => exact .keep ih
  | @put y _ _ hy _ ih =>
      rw [List.filterMap_cons]
      cases hfy : f y with
      | none => exact ih
      | some b => exact .put (hf y b hy hfy) ih

theorem filter (h : PutIn sort xs ys) (keeps : α → Bool) :
    PutIn sort (xs.filter keeps) (ys.filter keeps) := by
  rw [← List.filterMap_eq_filter]
  refine h.filterMap fun y b hy hb => ?_
  obtain ⟨rfl, -⟩ := Option.guard_eq_some_iff.mp hb
  exact hy

theorem imp {sort' : α → Prop} (hsort : ∀ y, sort y → sort' y) (h : PutIn sort xs ys) :
    PutIn sort' xs ys := by
  induction h with
  | nil => exact .nil
  | keep _ ih => exact .keep ih
  | put hy _ ih => exact .put (hsort _ hy) ih

theorem anyM_eq_true {ε : Type} {asked asked' : α → Except ε Bool} (h : PutIn sort xs ys)
    (hyes : ∀ x, asked x = .ok true → asked' x = .ok true)
    (hno : ∀ x, asked x = .ok false → asked' x = .ok false)
    (hput : ∀ y, sort y → ∃ b, asked' y = .ok b) (hask : xs.anyM asked = .ok true) :
    ys.anyM asked' = .ok true := by
  induction h with
  | nil => nomatch hask
  | keep _ ih =>
      rw [List.anyM_cons] at hask ⊢
      obtain ⟨first, hfirst, hrest⟩ := bind_eq_ok_iff.mp hask
      cases first with
      | true => exact bind_eq_ok_iff.mpr ⟨true, hyes _ hfirst, rfl⟩
      | false => exact bind_eq_ok_iff.mpr ⟨false, hno _ hfirst, ih hrest⟩
  | put hy _ ih =>
      rw [List.anyM_cons]
      obtain ⟨first, hfirst⟩ := hput _ hy
      refine bind_eq_ok_iff.mpr ⟨first, hfirst, ?_⟩
      cases first with
      | true => rfl
      | false => exact ih hask

end PutIn

/-! ## Pages with the same members -/

theorem Subject.read_page_eq {p q : Page} (h : q.title = p.title) {s : Subject} (hs : s ≠ .whole) :
    s.read (.page q) = s.read (.page p) := by
  cases s with
  | field f => simp only [Subject.read, Field.read, h]
  | whole => exact absurd rfl hs

section Same

variable {m : Type → Type} [Monad m] (look : Pattern → String → m Bool) {p q : Page}
variable {program : Program} {chained : Bool}

theorem askPart_congr (hmembers : ∀ c : Collection, c.members q = c.members p) {part part' : Part}
    (hreads : ∀ t ∈ (Outline.ofProgram program).first,
      t.subject.read part' = t.subject.read part) :
    askPart look q chained part' program = askPart look p chained part program := by
  induction program generalizing part part' with
  | nil => rfl
  | cons step rest ih =>
      cases step with
      | select c kind =>
          have hselect : c.select kind q = c.select kind p := by
            rw [Collection.select, Collection.select, hmembers c]
          rw [askPart, askPart, hselect]
          have hsame : (fun m => askPart look q chained (.member m) rest)
              = fun m => askPart look p chained (.member m) rest :=
            funext fun _ => ih fun _ _ => rfl
          rw [hsame]
      | test s pattern =>
          rw [Outline.ofProgram, List.forall_mem_cons] at hreads
          obtain ⟨hread, hrest⟩ := hreads
          rw [askPart, askPart, hread, ih hrest]

/-- To a program that does not begin by asking for the whole page, pages with the same title and
the same members are the same. -/
theorem askPage_congr (htitle : q.title = p.title)
    (hmembers : ∀ c : Collection, c.members q = c.members p)
    (hprogram : ∀ t ∈ (Outline.ofProgram program).first, t.subject ≠ .whole) :
    askPage look q program chained = askPage look p program chained := by
  match program with
  | [] => rfl
  | .test s pattern :: rest =>
      exact askPart_congr look hmembers fun t ht => Subject.read_page_eq htitle (hprogram t ht)
  | .select c kind :: rest =>
      have hselect : c.select kind q = c.select kind p := by
        rw [Collection.select, Collection.select, hmembers c]
      rw [askPage, askPage, hselect]
      exact congrArg (List.anyM · _)
        (funext fun _ => askPart_congr look hmembers fun _ _ => rfl)

end Same

/-! ## Pages with more members -/

/-- A page has the title of another one and its members, with members of some sort put in. -/
structure Page.GrowsTo (sort : Member → Prop) (p q : Page) : Prop where
  title : q.title = p.title
  members : ∀ c : Collection, PutIn sort (c.members p) (c.members q)

/-- No test of a program breaks down at a member. -/
def Program.AnswersAt (look : Look) (program : Program) (m : Member) : Prop :=
  ∀ e, ¬ program.BreaksAt look (.member m) e

section Asking

variable {look : Look} {p q : Page} {program : Program} {chained : Bool}

theorem Program.AnswersAt.tail {step : Step} {m : Member}
    (h : AnswersAt look (step :: program) m) : AnswersAt look program m :=
  fun e hbreaks => h e (hbreaks.cons step)

theorem Finder.answersAt_look (find : Finder) (program : Program) (m : Member) :
    program.AnswersAt find.look m := by
  rintro e ⟨_, _, -, hlook⟩
  nomatch hlook

theorem Page.GrowsTo.imp {sort sort' : Member → Prop} (h : p.GrowsTo sort q)
    (hsort : ∀ m, sort m → sort' m) : p.GrowsTo sort' q :=
  ⟨h.title, fun c => (h.members c).imp hsort⟩

theorem Page.GrowsTo.tail {step : Step}
    (h : p.GrowsTo (Program.AnswersAt look (step :: program)) q) :
    p.GrowsTo (Program.AnswersAt look program) q :=
  h.imp fun _ => Program.AnswersAt.tail

/-- If the steps hold of one part, then from any other they come to an answer at least, unless a
test of theirs breaks down there: what comes after the next selecting step is the same. -/
theorem exists_askPart_of_true {part : Part} {m : Member}
    (hask : askPart look p chained part program = .ok true) (hm : program.AnswersAt look m) :
    ∃ b, askPart look p chained (.member m) program = .ok b := by
  induction program generalizing part with
  | nil => exact ⟨true, rfl⟩
  | cons step rest ih =>
      cases step with
      | select c kind => exact ⟨true, hask⟩
      | test s pattern =>
          cases hlook : look pattern (s.read (.member m)) with
          | error e => exact absurd ⟨s, pattern, List.mem_cons_self, hlook⟩ (hm e)
          | ok found =>
              cases found with
              | false => exact ⟨false, askPart_test_eq_ok_iff.mpr (.inl ⟨hlook, rfl⟩)⟩
              | true =>
                  cases chained with
                  | false => exact ⟨true, askPart_test_eq_ok_iff.mpr (.inr ⟨hlook, rfl⟩)⟩
                  | true =>
                      rcases askPart_test_eq_ok_iff.mp hask with ⟨-, hfalse⟩ | ⟨-, hrest⟩
                      · nomatch hfalse
                      · obtain ⟨b, hb⟩ := ih hrest hm.tail
                        exact ⟨b, askPart_test_eq_ok_iff.mpr (.inr ⟨hlook, hb⟩)⟩

/-- If the steps hold of one part and not of another, then it is a test of the other that finds
nothing, and what else is on the page makes no difference. -/
theorem askPart_false_of_true {part : Part} {m : Member}
    (hask : askPart look p chained part program = .ok true)
    (hm : askPart look p chained (.member m) program = .ok false) :
    askPart look q chained (.member m) program = .ok false := by
  induction program generalizing part with
  | nil => nomatch hm
  | cons step rest ih =>
      cases step with
      | select c kind => nomatch hask.symm.trans hm
      | test s pattern =>
          refine askPart_test_eq_ok_iff.mpr ?_
          rcases askPart_test_eq_ok_iff.mp hm with hfalse | ⟨hlook, hm⟩
          · exact .inl hfalse
          · cases chained with
            | false => nomatch hm
            | true =>
                rcases askPart_test_eq_ok_iff.mp hask with ⟨-, hfalse⟩ | ⟨-, hrest⟩
                · nomatch hfalse
                · exact .inr ⟨hlook, ih hrest hm⟩

theorem anyM_select_growsTo (h : p.GrowsTo (program.AnswersAt look) q) (c : Collection)
    (kind : String)
    (hpart : ∀ m, askPart look p chained (.member m) program = .ok true →
      askPart look q chained (.member m) program = .ok true)
    (hask : ((c.select kind p).anyM fun m => askPart look p chained (.member m) program)
      = .ok true) :
    ((c.select kind q).anyM fun m => askPart look q chained (.member m) program) = .ok true := by
  obtain ⟨m, -, hm⟩ := exists_of_anyM_eq_true hask
  exact ((h.members c).filter _).anyM_eq_true hpart (fun _ => askPart_false_of_true hm)
    (fun _ => exists_askPart_of_true (hpart m hm)) hask

/-- What holds of a part still does, from a part on that reads the same to the tests that are
asked of it.  The tests after a selecting step are asked of one and the same member of both
pages. -/
theorem askPart_growsTo (h : p.GrowsTo (program.AnswersAt look) q) {part part' : Part}
    (hreads : ∀ t ∈ (Outline.ofProgram program).first, t.subject.read part' = t.subject.read part)
    (hask : askPart look p chained part program = .ok true) :
    askPart look q chained part' program = .ok true := by
  induction program generalizing part part' with
  | nil => rfl
  | cons step rest ih =>
      cases step with
      | test s pattern =>
          rw [Outline.ofProgram, List.forall_mem_cons] at hreads
          obtain ⟨hread, hrest⟩ := hreads
          rcases askPart_test_eq_ok_iff.mp hask with ⟨-, hfalse⟩ | ⟨hlook, hask⟩
          · cases hfalse
          · refine askPart_test_eq_ok_iff.mpr (.inr ⟨by rw [hread]; exact hlook, ?_⟩)
            cases chained with
            | false => rfl
            | true => exact ih h.tail hrest hask
      | select c kind =>
          rw [askPart] at hask ⊢
          cases chained with
          | false => cases hask
          | true => exact anyM_select_growsTo h.tail c kind (fun _ => ih h.tail fun _ _ => rfl) hask

/-- A program that does not begin by asking for the whole page and holds of a page holds of the
page with more members, if none of its tests breaks down at one of these. -/
theorem askPage_growsTo (h : p.GrowsTo (program.AnswersAt look) q)
    (hprogram : ∀ t ∈ (Outline.ofProgram program).first, t.subject ≠ .whole)
    (hask : askPage look p program chained = .ok true) :
    askPage look q program chained = .ok true := by
  match program with
  | [] => rfl
  | .test s pattern :: rest =>
      exact askPart_growsTo h (fun t ht => Subject.read_page_eq h.title (hprogram t ht)) hask
  | .select c kind :: rest =>
      exact anyM_select_growsTo h.tail c kind
        (fun _ => askPart_growsTo h.tail fun _ _ => rfl) hask

/-- What holds of a page holds of the page with more members, unless a test breaks down at one
of these. -/
theorem askPage_growsTo_cases {sort : Member → Prop} (h : p.GrowsTo sort q)
    (hprogram : ∀ t ∈ (Outline.ofProgram program).first, t.subject ≠ .whole)
    (hask : askPage look p program chained = .ok true) :
    askPage look q program chained = .ok true ∨
      ∃ e, askPage look q program chained = .error e ∧
        ∃ m, sort m ∧ program.BreaksAt look (.member m) e := by
  by_cases hbreaks : ∃ m e, sort m ∧ program.BreaksAt look (.member m) e
  · obtain ⟨m, e, hm, hbreaks⟩ := hbreaks
    have hfinder : askPage look.finder.look q program chained = .ok true := by
      refine askPage_growsTo (h.imp fun m _ => Finder.answersAt_look _ program m) hprogram ?_
      rw [askPage_look, matchPageBy_finder hask]
    rw [askPage_look] at hfinder
    cases hq : askPage look q program chained with
    | ok b => exact .inl ((congrArg Except.ok (matchPageBy_finder hq)).symm.trans hfinder)
    | error e' =>
        cases e
        cases e'
        exact .inr ⟨_, rfl, m, hm, hbreaks⟩
  · have hanswers (m : Member) (hm : sort m) : program.AnswersAt look m :=
      fun e hat => hbreaks ⟨m, e, hm, hat⟩
    exact .inl (askPage_growsTo (h.imp hanswers) hprogram hask)

end Asking

/-! ## Pages that are read -/

namespace Json

theorem lookup?_put_self {α : Type} (name : String) (value : α) (fields : List (String × α)) :
    lookup? name (put name value fields) = some value := by
  induction fields with
  | nil => simp [put, lookup?]
  | cons field fields ih =>
      obtain ⟨key, old⟩ := field
      rw [put]
      split
      · rename_i hkey
        rw [lookup?, if_pos hkey]
      · rename_i hkey
        rw [lookup?, if_neg hkey, ih]

theorem lookup?_put_of_ne {α : Type} {name name' : String} (h : name' ≠ name) (value : α)
    (fields : List (String × α)) : lookup? name (put name' value fields) = lookup? name fields := by
  induction fields with
  | nil => simp [put, lookup?, h]
  | cons field fields ih =>
      obtain ⟨key, old⟩ := field
      rw [put]
      split
      · rename_i hkey
        have hne : ¬ (key == name) = true := by
          rw [beq_iff_eq.mp hkey, beq_iff_eq]
          exact h
        rw [lookup?, lookup?, if_neg hne, if_neg hne]
      · rw [lookup?, lookup?, ih]

end Json

/-- The fields of a page with another story and another journal in their places. -/
def Payload.withMembers (story journal : List Json) (fields : Payload) : Payload :=
  Json.put "journal" (.arr journal) (Json.put "story" (.arr story) fields)

section Reading

variable {fields : Payload} {story journal story' journal' : List Json}

theorem Payload.lookup?_withMembers {name : String} (hstory : "story" ≠ name)
    (hjournal : "journal" ≠ name) :
    Json.lookup? name (fields.withMembers story' journal') = Json.lookup? name fields := by
  rw [withMembers, Json.lookup?_put_of_ne hjournal, Json.lookup?_put_of_ne hstory]

theorem Payload.story_withMembers (fields : Payload) (story' journal' : List Json) :
    Json.lookup? "story" (fields.withMembers story' journal') = some (.arr story') := by
  rw [withMembers, Json.lookup?_put_of_ne (by decide), Json.lookup?_put_self]

theorem Payload.journal_withMembers (fields : Payload) (story' journal' : List Json) :
    Json.lookup? "journal" (fields.withMembers story' journal') = some (.arr journal') := by
  rw [withMembers, Json.lookup?_put_self]

/-- What a page that is read from some fields is called. -/
def Page.titleIn (slug : String) (fields : Payload) : String :=
  let title := ((Json.obj fields).textField? "title").getD ""
  if title == "" then slug else title

theorem Page.titleIn_withMembers (slug : String) (fields : Payload) (story' journal' : List Json) :
    Page.titleIn slug (fields.withMembers story' journal') = Page.titleIn slug fields := by
  rw [titleIn, titleIn, Json.textField?, Json.textField?, Json.field, Json.field,
    Payload.lookup?_withMembers (by decide) (by decide)]

/-- A page is read from its title, the items of its story and those of its journal. -/
theorem Page.ofJson_of_lists (slug : String)
    (hstory : Json.lookup? "story" fields = some (.arr story))
    (hjournal : Json.lookup? "journal" fields = some (.arr journal)) :
    Page.ofJson slug (.obj fields)
      = .ok
        { slug := slug
          title := Page.titleIn slug fields
          story := story.filterMap Member.ofEntry?
          journal := journal.filterMap Member.ofAction?
          payload := fields } := by
  have hitems (name : String) (items : List Json)
      (h : Json.lookup? name fields = some (.arr items)) :
      ((Json.obj fields).field name).items = items := by
    rw [Json.field, h]
    rfl
  rw [Page.ofJson, hitems "story" story hstory, hitems "journal" journal hjournal]
  rfl

end Reading

/-- A value is no object. -/
def Json.IsNoObject (value : Json) : Prop := ∀ fields, value ≠ .obj fields

theorem Member.ofEntry?_eq_none {value : Json} (h : value.IsNoObject) :
    Member.ofEntry? value = none := by
  cases value with
  | obj fields => exact absurd rfl (h fields)
  | _ => rfl

theorem Member.ofAction?_eq_none {value : Json} (h : value.IsNoObject) :
    Member.ofAction? value = none := by
  cases value with
  | obj fields => exact absurd rfl (h fields)
  | _ => rfl

/-- A value is a member with some property, in the story or in the journal. -/
def Json.IsMember (value : Json) (sort : Member → Prop) : Prop :=
  ∃ m, (Member.ofEntry? value = some m ∨ Member.ofAction? value = some m) ∧ sort m

/-- **What is put between the members of a page takes nothing away from it**, but for one thing.
Of a program that does not begin by asking for the whole page, the answer stays the same if what
is put in is no object.  Whatever is put in, the answer stays yes unless a test of the program
breaks down at it. -/
theorem matchPage_of_putIn (slug : String) {fields : Payload} {story journal : List Json}
    (hstory : Json.lookup? "story" fields = some (.arr story))
    (hjournal : Json.lookup? "journal" fields = some (.arr journal)) {program : Program}
    (hprogram : ∀ t ∈ (Outline.ofProgram program).first, t.subject ≠ .whole) :
    ∃ p, Page.ofJson slug (.obj fields) = .ok p ∧
      (∀ story' journal', PutIn Json.IsNoObject story story' →
        PutIn Json.IsNoObject journal journal' →
        ∃ p', Page.ofJson slug (.obj (fields.withMembers story' journal')) = .ok p' ∧
          ∀ chained, matchPage p' program chained = matchPage p program chained) ∧
      ∀ (sort : Json → Prop) (story' journal' : List Json), PutIn sort story story' →
        PutIn sort journal journal' →
        ∃ p', Page.ofJson slug (.obj (fields.withMembers story' journal')) = .ok p' ∧
          ∀ chained, matchPage p program chained = .ok true →
            matchPage p' program chained = .ok true ∨
              ∃ e, matchPage p' program chained = .error e ∧ ∃ value, sort value ∧
                value.IsMember fun m => program.BreaksAt Pattern.search (.member m) e := by
  have hread (story' journal' : List Json) :=
    Page.ofJson_of_lists slug (Payload.story_withMembers fields story' journal')
      (Payload.journal_withMembers fields story' journal')
  have htitle := Page.titleIn_withMembers slug fields
  refine ⟨_, Page.ofJson_of_lists slug hstory hjournal, ?_, ?_⟩
  · intro story' journal' hputStory hputJournal
    refine ⟨_, hread story' journal', fun chained => ?_⟩
    refine askPage_congr _ (htitle _ _) (fun c => ?_) hprogram
    cases c with
    | story => exact hputStory.filterMap_eq fun _ => Member.ofEntry?_eq_none
    | journal => exact hputJournal.filterMap_eq fun _ => Member.ofAction?_eq_none
  · intro sort story' journal' hputStory hputJournal
    refine ⟨_, hread story' journal', fun chained hmatch => ?_⟩
    let sort' (m : Member) : Prop := ∃ value, sort value ∧ value.IsMember (· = m)
    refine (askPage_growsTo_cases (⟨htitle story' journal', fun c => ?members⟩ :
      Page.GrowsTo sort' _ _) hprogram hmatch).imp_right ?breaks
    case members =>
      cases c with
      | story =>
          exact hputStory.filterMap fun value m hvalue hm => ⟨value, hvalue, m, .inl hm, rfl⟩
      | journal =>
          exact hputJournal.filterMap fun value m hvalue hm => ⟨value, hvalue, m, .inr hm, rfl⟩
    case breaks =>
      rintro ⟨e, herror, m, ⟨value, hvalue, _, hmember, rfl⟩, hbreaks⟩
      exact ⟨e, herror, value, hvalue, _, hmember, hbreaks⟩

/-- Null and a text are put around a member, and an object whose type is a list before it; the
test of the whole comes after the selecting step. -/
theorem matchPage_of_putIn_odd_members :
    let quote : Json := .obj [("type", .str "quote")]
    let odd : Json := .obj [("type", .arr []), ("item", .obj [])]
    let fields : Payload :=
      [("title", .str "Home"), ("story", .arr [quote]), ("journal", .arr [])]
    let every : Pattern := ⟨"", [], none, 0, 0⟩
    let program : Program :=
      [.test (.field .title) every, .select .story "quote", .test .whole every]
    Json.lookup? "story" fields = some (.arr [quote]) ∧
      Json.lookup? "journal" fields = some (.arr []) ∧
      (∀ t ∈ (Outline.ofProgram program).first, t.subject ≠ .whole) ∧
      PutIn Json.IsNoObject [quote] [.null, quote, .str "x"] ∧
      PutIn Json.IsNoObject [] [.bool true] ∧
      PutIn (· = odd) [quote] [odd, quote] ∧ PutIn (· = odd) [] [odd] ∧
      ∃ p p' p'', Page.ofJson "home" (.obj fields) = .ok p ∧
        Page.ofJson "home" (.obj (fields.withMembers [.null, quote, .str "x"] [.bool true]))
          = .ok p' ∧
        Page.ofJson "home" (.obj (fields.withMembers [odd, quote] [odd])) = .ok p'' ∧
        matchPage p program true = .ok true ∧ matchPage p' program true = .ok true ∧
        matchPage p'' program true = .ok true := by
  intro quote odd fields every program
  have hstory : Json.lookup? "story" fields = some (.arr [quote]) := rfl
  have hjournal : Json.lookup? "journal" fields = some (.arr []) := rfl
  have hprogram : ∀ t ∈ (Outline.ofProgram program).first, t.subject ≠ .whole := by
    intro t ht
    rw [List.mem_singleton.mp ht]
    nofun
  have hscalars : PutIn Json.IsNoObject [quote] [.null, quote, .str "x"] :=
    .put nofun (.keep (.put nofun .nil))
  have hscalar : PutIn Json.IsNoObject [] [.bool true] := .put nofun .nil
  have hodds : PutIn (· = odd) [quote] [odd, quote] := .put rfl (.keep .nil)
  have hodd : PutIn (· = odd) [] [odd] := .put rfl .nil
  obtain ⟨p, hp, hsame, hmore⟩ := matchPage_of_putIn "home" hstory hjournal hprogram
  obtain ⟨p', hp', hmatch'⟩ := hsame _ _ hscalars hscalar
  obtain ⟨p'', hp'', hmatch''⟩ := hmore _ _ _ hodds hodd
  have hmatch : matchPage p program true = .ok true := by
    cases hp
    cbv
  refine ⟨hstory, hjournal, hprogram, hscalars, hscalar, hodds, hodd, p, p', p'', hp, hp', hp'',
    hmatch, (hmatch' true).trans hmatch, ?_⟩
  rcases hmatch'' true hmatch with htrue | ⟨e, -, value, rfl, m, hm, s, pattern, hmem, hlook⟩
  · exact htrue
  · have hsteps : s = .field .title ∧ pattern = every ∨ s = .whole ∧ pattern = every := by
      simpa [program] using hmem
    obtain rfl : pattern = every := hsteps.elim And.right And.right
    have hfound : every.search (s.read (.member m)) = .ok true := by
      simp [every, Pattern.search, Pattern.find, Pattern.findIn, Pattern.findFrom, Pattern.findAt,
        Pattern.mayStart, Pattern.Node.walkAll, Pattern.accept, Pattern.Trail.isGarbled,
        Pattern.Trail.start, Pattern.Trail.note]
    cases hlook.symm.trans hfound

/-- A member in which a search breaks down is put before one that is found, and the page that the
program held of gets no answer any more. -/
theorem garbled_member_takes_answer :
    let quiet : Json := .obj [("text", .str "q")]
    let garbled : Json := .obj [("text", .str "xyz")]
    let fields : Payload := [("story", .arr [quiet]), ("journal", .arr [])]
    ∃ c p p', compile .late "ITEM\nTEXT ((x)|y|z)*+" = .ok c ∧
      (∀ t ∈ (Outline.ofProgram c.program).first, t.subject ≠ .whole) ∧
      Page.ofJson "home" (.obj fields) = .ok p ∧
      Page.ofJson "home" (.obj (fields.withMembers [garbled, quiet] [])) = .ok p' ∧
      matchPage p c.program true = .ok true ∧ matchPage p' c.program true = .error .garbled := by
  intro quiet garbled fields
  obtain ⟨c, pattern, hc, -, hprogram, hq, hxyz⟩ := exists_compile_garbled .late
  refine ⟨c, _, _, hc, ?_, rfl, rfl, ?_, ?_⟩
  · rw [hprogram]
    nofun
  · rw [hprogram]
    exact matchPage_of_first rfl (by decide +kernel) hq nofun true
  · rw [hprogram]
    exact matchPage_of_first rfl (by decide +kernel) hxyz nofun true

end PageGrep
