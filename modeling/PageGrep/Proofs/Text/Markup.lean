/-
# Reading markup back

Escaped text is read back by undoing entities from the front on (`unescape`), and joined
pieces by cutting at the mark between them (`cutAtMark`).  Both find what was written,
whatever the text:

* every ampersand of an escaped text starts an entity, so a text that spells an entity is
  not mistaken for one (`unescape_escape`, `unescape_escapeAttribute`);
* the mark starts nowhere in a piece, nor at the end of one across to what follows, if in
  each piece the first character of the mark is followed by another than its second
  (`avoids`, `cutAtMark_intercalate`).

Escaped text is also a run of text: a reader of markup sees no tag in it, and no entity but
those that stand for a character (`isRun`).
-/
import PageGrep.Text.Markup

namespace PageGrep.Text

/-! ## Entities -/

/-- The entities between tags and what they stand for. -/
def textEntities : List (List Char × Char) :=
  [("&amp;".toList, '&'), ("&lt;".toList, '<'), ("&gt;".toList, '>')]

/-- The entities between the quotes of an attribute and what they stand for. -/
def attributeEntities : List (List Char × Char) :=
  textEntities ++ [("&quot;".toList, '"'), ("&#x27;".toList, '\'')]

def entityAt? (entities : List (List Char × Char)) (cs : List Char) : Option (List Char × Char) :=
  entities.find? fun entity => entity.1.isPrefixOf cs

/-- The text with its entities undone, from the front on. -/
def unescape (entities : List (List Char × Char)) : List Char → List Char
  | [] => []
  | c :: rest =>
    match entityAt? entities (c :: rest) with
    | some (written, char) => char :: unescape entities (rest.drop (written.length - 1))
    | none => c :: unescape entities rest
termination_by cs => cs.length
decreasing_by all_goals simp only [List.length_cons, List.length_drop]; omega

/-- Entities undo a way of writing: each character is written as one of them or, where none
can start, as itself. -/
def Undoes (entities : List (List Char × Char)) (write : Char → List Char) : Prop :=
  ∀ c rest, write c ≠ [] ∧
    (entityAt? entities (write c ++ rest) = some (write c, c) ∨
      write c = [c] ∧ entityAt? entities (c :: rest) = none)

theorem unescape_flatMap {entities : List (List Char × Char)} {write : Char → List Char}
    (h : Undoes entities write) (cs : List Char) : unescape entities (cs.flatMap write) = cs := by
  induction cs with
  | nil => rw [List.flatMap_nil, unescape]
  | cons c cs ih =>
      rw [List.flatMap_cons]
      obtain ⟨hne, hentity | ⟨hself, hnone⟩⟩ := h c (cs.flatMap write)
      · obtain ⟨first, others, hwritten⟩ := List.exists_cons_of_ne_nil hne
        rw [hwritten, List.cons_append] at hentity ⊢
        rw [unescape, hentity]
        simp only [List.length_cons, Nat.add_sub_cancel, List.drop_left, ih]
      · rw [hself, List.singleton_append, unescape, hnone]
        simp only [ih]

theorem entityAt?_of_ne {entities : List (List Char × Char)}
    (hall : ∀ entity ∈ entities, entity.1.head? = some '&') {c : Char} (hc : c ≠ '&')
    (rest : List Char) : entityAt? entities (c :: rest) = none := by
  rw [entityAt?, List.find?_eq_none]
  intro entity hmem hstart
  obtain ⟨name, hname⟩ : ∃ name, entity.1 = '&' :: name := by
    cases hwritten : entity.1 with
    | nil => simpa [hwritten] using hall entity hmem
    | cons first name =>
        have hfirst : first = '&' := by simpa [hwritten] using hall entity hmem
        exact ⟨name, by rw [hfirst]⟩
  rw [hname, List.isPrefixOf_iff_prefix, List.cons_prefix_cons] at hstart
  exact hc hstart.1.symm

theorem entity_eq_self {c : Char} (h : c ∉ ['&', '<', '>']) : entity c = [c] := by
  simp only [List.mem_cons, List.not_mem_nil, or_false, not_or] at h
  simp [entity, h]

theorem attributeEntity_eq_self {c : Char} (h : c ∉ ['"', '\'', '&', '<', '>']) :
    attributeEntity c = [c] := by
  simp only [List.mem_cons, List.not_mem_nil, or_false, not_or] at h
  simp [attributeEntity, entity, h]

theorem undoes_entity : Undoes textEntities entity := by
  intro c rest
  by_cases hc : c ∈ ['&', '<', '>']
  · simp only [List.mem_cons, List.not_mem_nil, or_false] at hc
    rcases hc with rfl | rfl | rfl
    all_goals exact ⟨by decide, .inl rfl⟩
  · have hamp : c ≠ '&' := fun heq => hc (heq ▸ List.mem_cons_self)
    have hself := entity_eq_self hc
    exact ⟨by simp [hself], .inr ⟨hself, entityAt?_of_ne (by decide) hamp rest⟩⟩

theorem undoes_attributeEntity : Undoes attributeEntities attributeEntity := by
  intro c rest
  by_cases hc : c ∈ ['"', '\'', '&', '<', '>']
  · simp only [List.mem_cons, List.not_mem_nil, or_false] at hc
    rcases hc with rfl | rfl | rfl | rfl | rfl
    all_goals exact ⟨by decide, .inl rfl⟩
  · have hamp : c ≠ '&' := by
      rintro rfl
      exact hc (by decide)
    have hself := attributeEntity_eq_self hc
    exact ⟨by simp [hself], .inr ⟨hself, entityAt?_of_ne (by decide) hamp rest⟩⟩

theorem unescape_escape (s : String) : unescape textEntities (escape s).toList = s.toList := by
  rw [escape, String.toList_ofList, unescape_flatMap undoes_entity]

theorem unescape_escapeAttribute (s : String) :
    unescape attributeEntities (escapeAttribute s).toList = s.toList := by
  rw [escapeAttribute, String.toList_ofList, unescape_flatMap undoes_attributeEntity]

/-! ## Runs of text -/

/-- Whether characters are a run of text: no angle bracket is among them, and at each
ampersand an entity starts. -/
def isRun : List Char → Bool
  | [] => true
  | c :: rest =>
    c != '<' && c != '>' && (c != '&' || (entityAt? attributeEntities (c :: rest)).isSome)
      && isRun rest

theorem isSome_entityAt?_append {entities : List (List Char × Char)} {cs : List Char}
    (h : (entityAt? entities cs).isSome = true) (rest : List Char) :
    (entityAt? entities (cs ++ rest)).isSome = true := by
  rw [entityAt?, List.find?_isSome] at h ⊢
  obtain ⟨entity, hmem, hstart⟩ := h
  rw [List.isPrefixOf_iff_prefix] at hstart
  exact ⟨entity, hmem, List.isPrefixOf_iff_prefix.mpr (hstart.trans (List.prefix_append _ _))⟩

theorem isRun_append {cs cs' : List Char} (h : isRun cs = true) (h' : isRun cs' = true) :
    isRun (cs ++ cs') = true := by
  induction cs with
  | nil => exact h'
  | cons c rest ih =>
      simp only [List.cons_append, isRun, Bool.and_eq_true, Bool.or_eq_true] at h ⊢
      obtain ⟨⟨⟨hopen, hclose⟩, hamp⟩, hrest⟩ := h
      refine ⟨⟨⟨hopen, hclose⟩, hamp.imp_right fun hentity => ?_⟩, ih hrest⟩
      rw [← List.cons_append]
      exact isSome_entityAt?_append hentity cs'

theorem isRun_flatMap {write : Char → List Char} (h : ∀ c, isRun (write c) = true)
    (cs : List Char) : isRun (cs.flatMap write) = true := by
  induction cs with
  | nil => rfl
  | cons c cs ih =>
      rw [List.flatMap_cons]
      exact isRun_append (h c) ih

theorem not_mem_of_isRun {cs : List Char} (h : isRun cs = true) : '<' ∉ cs ∧ '>' ∉ cs := by
  induction cs with
  | nil => exact ⟨List.not_mem_nil, List.not_mem_nil⟩
  | cons c rest ih =>
      simp only [isRun, Bool.and_eq_true, bne_iff_ne] at h
      obtain ⟨⟨⟨hopen, hclose⟩, -⟩, hrest⟩ := h
      obtain ⟨hopen', hclose'⟩ := ih hrest
      exact ⟨by simp [Ne.symm hopen, hopen'], by simp [Ne.symm hclose, hclose']⟩

theorem isRun_entity (c : Char) : isRun (entity c) = true := by
  by_cases hc : c ∈ ['&', '<', '>']
  · simp only [List.mem_cons, List.not_mem_nil, or_false] at hc
    rcases hc with rfl | rfl | rfl
    all_goals decide
  · rw [entity_eq_self hc]
    simp only [List.mem_cons, List.not_mem_nil, or_false, not_or] at hc
    simp [isRun, hc]

theorem isRun_attributeEntity (c : Char) : isRun (attributeEntity c) = true := by
  by_cases hc : c ∈ ['"', '\'']
  · simp only [List.mem_cons, List.not_mem_nil, or_false] at hc
    rcases hc with rfl | rfl
    all_goals decide
  · simp only [List.mem_cons, List.not_mem_nil, or_false, not_or] at hc
    have hentity : attributeEntity c = entity c := by simp [attributeEntity, hc]
    rw [hentity]
    exact isRun_entity c

theorem isRun_escape (s : String) : isRun (escape s).toList = true := by
  rw [escape, String.toList_ofList]
  exact isRun_flatMap isRun_entity s.toList

theorem isRun_escapeAttribute (s : String) : isRun (escapeAttribute s).toList = true := by
  rw [escapeAttribute, String.toList_ofList]
  exact isRun_flatMap isRun_attributeEntity s.toList

theorem not_mem_escape (s : String) : '<' ∉ (escape s).toList :=
  (not_mem_of_isRun (isRun_escape s)).1

theorem not_mem_escapeAttribute (s : String) :
    '<' ∉ (escapeAttribute s).toList ∧ '"' ∉ (escapeAttribute s).toList := by
  refine ⟨(not_mem_of_isRun (isRun_escapeAttribute s)).1, ?_⟩
  rw [escapeAttribute, String.toList_ofList, List.mem_flatMap]
  rintro ⟨c, -, hmem⟩
  by_cases hc : c ∈ ['"', '\'', '&', '<', '>']
  · simp only [List.mem_cons, List.not_mem_nil, or_false] at hc
    rcases hc with rfl | rfl | rfl | rfl | rfl
    all_goals exact absurd hmem (by decide)
  · rw [attributeEntity_eq_self hc, List.mem_singleton] at hmem
    exact hc (hmem ▸ by decide)

/-! ## Pieces between marks -/

/-- The pieces of a text between the places where a mark stands, found from the front on. -/
def cutAtMark (mark : List Char) : List Char → List (List Char)
  | [] => [[]]
  | c :: rest =>
    if mark.isPrefixOf (c :: rest) then [] :: cutAtMark mark (rest.drop (mark.length - 1))
    else
      match cutAtMark mark rest with
      | [] => [[c]]
      | piece :: pieces => (c :: piece) :: pieces
termination_by cs => cs.length
decreasing_by all_goals simp only [List.length_cons, List.length_drop]; omega

def pieces (mark text : String) : List String :=
  (cutAtMark mark.toList text.toList).map String.ofList

/-- Whether a mark that starts with two characters starts nowhere in a piece, whatever
follows the piece. -/
def avoids (first second : Char) : List Char → Bool
  | [] => true
  | c :: rest => (c != first || rest.head?.any (· != second)) && avoids first second rest

theorem avoids_of_not_mem {first : Char} (second : Char) {piece : List Char}
    (h : first ∉ piece) : avoids first second piece = true := by
  induction piece with
  | nil => rfl
  | cons c rest ih =>
      have hc : c ≠ first := fun heq => h (heq ▸ List.mem_cons_self)
      simp [avoids, hc, ih fun hmem => h (List.mem_cons_of_mem _ hmem)]

theorem avoids_append {first second : Char} {piece piece' : List Char}
    (h : avoids first second piece = true) (h' : avoids first second piece' = true) :
    avoids first second (piece ++ piece') = true := by
  induction piece with
  | nil => exact h'
  | cons c rest ih =>
      obtain ⟨hc, hrest⟩ := Bool.and_eq_true_iff.mp h
      refine Bool.and_eq_true_iff.mpr ⟨?_, ih hrest⟩
      cases rest with
      | nil =>
          rw [List.head?_nil, Option.any_none, Bool.or_false] at hc
          rw [hc, Bool.true_or]
      | cons _ _ => exact hc

section Cut

variable {first second : Char} {others : List Char}

theorem isPrefixOf_of_avoids {c : Char} {piece : List Char} (rest : List Char)
    (h : avoids first second (c :: piece) = true) :
    (first :: second :: others).isPrefixOf (c :: (piece ++ rest)) = false := by
  obtain ⟨hc, -⟩ := Bool.and_eq_true_iff.mp h
  rw [← Bool.not_eq_true, List.isPrefixOf_iff_prefix]
  intro hstart
  obtain ⟨rfl, hrest⟩ := List.cons_prefix_cons.mp hstart
  cases piece with
  | nil => simp at hc
  | cons d piece =>
      obtain ⟨rfl, -⟩ := List.cons_prefix_cons.mp hrest
      simp at hc

theorem cutAtMark_of_avoids {piece : List Char} (h : avoids first second piece = true) :
    cutAtMark (first :: second :: others) piece = [piece] := by
  induction piece with
  | nil => rw [cutAtMark]
  | cons c piece ih =>
      have hstart : (first :: second :: others).isPrefixOf (c :: piece) = false := by
        simpa using isPrefixOf_of_avoids [] h
      rw [cutAtMark, hstart, ih (Bool.and_eq_true_iff.mp h).2]
      rfl

theorem cutAtMark_append {piece : List Char} (rest : List Char)
    (h : avoids first second piece = true) :
    cutAtMark (first :: second :: others) (piece ++ (first :: second :: others ++ rest))
      = piece :: cutAtMark (first :: second :: others) rest := by
  induction piece with
  | nil =>
      have hstart : (first :: second :: others).isPrefixOf (first :: second :: (others ++ rest))
          = true := by
        simp [List.isPrefixOf_iff_prefix]
      rw [List.nil_append, List.cons_append, List.cons_append, cutAtMark, if_pos hstart]
      simp
  | cons c piece ih =>
      rw [List.cons_append, cutAtMark, isPrefixOf_of_avoids _ h,
        ih (Bool.and_eq_true_iff.mp h).2]
      rfl

theorem cutAtMark_intercalate {pieces : List (List Char)} (hne : pieces ≠ [])
    (h : ∀ piece ∈ pieces, avoids first second piece = true) :
    cutAtMark (first :: second :: others) ((first :: second :: others).intercalate pieces)
      = pieces := by
  induction pieces with
  | nil => exact absurd rfl hne
  | cons piece rest ih =>
      have hpiece := h piece List.mem_cons_self
      cases rest with
      | nil => simpa [List.intercalate] using cutAtMark_of_avoids hpiece
      | cons next rest =>
          rw [List.intercalate_cons_cons, List.append_assoc, cutAtMark_append _ hpiece,
            ih (List.cons_ne_nil _ _) fun piece' hmem => h piece' (List.mem_cons_of_mem _ hmem)]

end Cut

end PageGrep.Text
