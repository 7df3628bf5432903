/-
# Reading back what was written

`Json.parse` reads from the written form of a value the value itself (`parse_text`), with
the fields of every object in their order.  Two kinds of values are lost, and
`Json.IsExact` leaves them out: those with a number of the binary format somewhere, and
those with a whole number too long to be read.  Names are asked to be different within an
object, as those of a value that was read are.

The written form has line feeds only, so a text file with it is read as it was written
(`return_not_mem_text`).

What carries the induction is that a reader stops where the written form ends, whatever
follows it.  For a whole number that depends on what follows: within a written value it is
the end, a comma or a line break (`Follows`).
-/
import Mathlib.Data.Nat.Init
import PageGrep.Json.Parser
import PageGrep.Json.Printer

namespace PageGrep.Json

/-! ## Texts -/

theorem hexDigits_control : ∀ n < 32,
    Text.Quoted.hexDigits 4 n
        = ['0', '0', Text.Quoted.hexDigit (n / 16), Text.Quoted.hexDigit (n % 16)] ∧
      hex4? '0' '0' (Text.Quoted.hexDigit (n / 16)) (Text.Quoted.hexDigit (n % 16)) = some n := by
  decide

theorem codeChar_toNat (c : Char) : codeChar c.toNat = c := by
  have hvalid : ¬ (0xD800 ≤ c.toNat ∧ c.toNat ≤ 0xDFFF) := by
    have := c.valid
    simp only [UInt32.isValidChar, Nat.isValidChar, Char.toNat] at *
    omega
  rw [codeChar]
  simp only [Bool.and_eq_true, decide_eq_true_eq, if_neg hvalid]
  exact Char.ofNat_toNat c

theorem readCode_control {c : Char} (h : c.toNat < 0x20) {rest : List Char} (hrest : rest ≠ []) :
    readCode ('u' :: (Text.Quoted.hexDigits 4 c.toNat ++ rest)) = .ok (c, rest) := by
  obtain ⟨hdigits, hvalue⟩ := hexDigits_control c.toNat h
  obtain ⟨next, others, rfl⟩ := List.exists_cons_of_ne_nil hrest
  have hhalf : isHighHalf c.toNat = false := by
    simp only [isHighHalf, Bool.and_eq_false_iff, decide_eq_false_iff_not]
    omega
  rw [hdigits]
  simp only [List.cons_append, List.nil_append, readCode, hvalue, hhalf, codeChar_toNat,
    Bool.false_eq_true, if_false]
  split <;> rfl

/-- The characters with a letter of their own after the backslash. -/
def lettered : List Char := ['"', '\\', '\n', '\r', '\t', '\x08', '\x0c']

/-- Other characters are written by their codes, if they are control characters, or as
themselves. -/
theorem escapeChar_of_not_mem {c : Char} (h : c ∉ lettered) :
    escapeChar c
      = if c.toNat < 0x20 then '\\' :: 'u' :: Text.Quoted.hexDigits 4 c.toNat else [c] := by
  simp only [lettered, List.mem_cons, List.not_mem_nil, or_false, not_or] at h
  simp [escapeChar, h]

theorem escapeChar_ne_nil (c : Char) : escapeChar c ≠ [] := by
  by_cases hc : c ∈ lettered
  · simp only [lettered, List.mem_cons, List.not_mem_nil, or_false] at hc
    rcases hc with rfl | rfl | rfl | rfl | rfl | rfl | rfl
    all_goals exact List.cons_ne_nil _ _
  · rw [escapeChar_of_not_mem hc]
    split <;> exact List.cons_ne_nil _ _

theorem readChars_escapeChar (start : List Char) (fuel : Nat) (c : Char) {rest : List Char}
    (hrest : rest ≠ []) :
    readChars start (fuel + 1) (escapeChar c ++ rest)
      = (readChars start fuel rest).map fun (xs, rest) => (c :: xs, rest) := by
  by_cases hc : c ∈ lettered
  · simp only [lettered, List.mem_cons, List.not_mem_nil, or_false] at hc
    rcases hc with rfl | rfl | rfl | rfl | rfl | rfl | rfl
    all_goals rfl
  · rw [escapeChar_of_not_mem hc]
    split
    · rename_i hcontrol
      rw [List.cons_append, List.cons_append]
      simp [readChars, readCode_control hcontrol hrest]
    · rename_i hcontrol
      have hquote : c ≠ '"' := fun heq => hc (heq ▸ by decide)
      have hslash : c ≠ '\\' := fun heq => hc (heq ▸ by decide)
      simp [readChars, hquote, hslash, hcontrol]

theorem readChars_flatMap (start : List Char) {fuel : Nat} (cs rest : List Char)
    (hfuel : cs.length < fuel) :
    readChars start fuel (cs.flatMap escapeChar ++ '"' :: rest) = .ok (cs, rest) := by
  induction cs generalizing fuel with
  | nil =>
      obtain ⟨fuel, rfl⟩ : ∃ n, fuel = n + 1 := ⟨fuel - 1, by simp at hfuel; omega⟩
      simp [readChars]
  | cons c cs ih =>
      obtain ⟨fuel, rfl⟩ : ∃ n, fuel = n + 1 := ⟨fuel - 1, by simp at hfuel; omega⟩
      rw [List.flatMap_cons, List.append_assoc,
        readChars_escapeChar start fuel c (by simp), ih (by simpa using hfuel)]
      rfl

theorem length_le_length_flatMap (cs : List Char) :
    cs.length ≤ (cs.flatMap escapeChar).length := by
  induction cs with
  | nil => exact Nat.le_refl 0
  | cons c cs ih =>
      have hone := List.length_pos_iff.mpr (escapeChar_ne_nil c)
      rw [List.flatMap_cons, List.length_append, List.length_cons]
      omega

theorem readString_renderString (s : String) (rest : List Char) :
    readString (renderString s ++ rest) = .ok (s, rest) := by
  have htext : renderString s ++ rest = '"' :: (s.toList.flatMap escapeChar ++ '"' :: rest) := by
    simp [renderString]
  have hfuel : s.toList.length < ('"' :: (s.toList.flatMap escapeChar ++ '"' :: rest)).length := by
    have hlength := length_le_length_flatMap s.toList
    rw [List.length_cons, List.length_append]
    omega
  rw [htext, readString, List.drop_one, List.tail_cons, readChars_flatMap _ _ _ hfuel]
  simp [Except.map]

/-! ## Spaces -/

theorem skipSpace_cons {c : Char} (h : isSpace c = false) (rest : List Char) :
    skipSpace (c :: rest) = c :: rest := by
  rw [skipSpace, List.dropWhile_cons_of_neg (by simp [h])]

theorem skipSpace_renderString (s : String) (rest : List Char) :
    skipSpace (renderString s ++ rest) = renderString s ++ rest :=
  skipSpace_cons rfl _

theorem skipSpace_newLine (step depth : Nat) (rest : List Char) :
    skipSpace (newLine step depth ++ rest) = skipSpace rest := by
  have hspaces : ∀ c ∈ newLine step depth, isSpace c = true := by
    intro c hc
    rcases List.mem_cons.mp hc with rfl | hspace
    · rfl
    · rw [List.eq_of_mem_replicate hspace]
      rfl
  exact List.dropWhile_append_of_pos hspaces

/-! ## Whole numbers -/

/-- What may follow a value where values are written one below the other. -/
def Follows (rest : List Char) : Prop := ∀ c ∈ rest.head?, c = ',' ∨ c = '\n'

theorem isDecimal_of_mem_toDigits {n : Nat} {c : Char} (h : c ∈ Nat.toDigits 10 n) :
    isDecimal c = true := by
  have hdigit := Nat.isDigit_of_mem_toDigits (by decide) (by decide) h
  rw [Char.isDigit_iff_toNat] at hdigit
  simpa [isDecimal, Text.isBasicDigit] using hdigit

theorem decimalValue_toDigits (n : Nat) : decimalValue (Nat.toDigits 10 n) = n := by
  have hvalue := Nat.ofDigitChars_ten_toDigits (n := n)
  rw [Nat.ofDigitChars_eq_foldl] at hvalue
  refine Eq.trans ?_ hvalue
  rw [decimalValue]
  congr 1
  funext so c
  rw [Nat.mul_comm]
  rfl

theorem exists_toDigits_eq_cons (n : Nat) :
    ∃ c digits, isDecimal c = true ∧ Nat.toDigits 10 n = c :: digits := by
  obtain ⟨c, digits, hcons⟩ := List.exists_cons_of_ne_nil (Nat.toDigits_ne_nil (n := n) (b := 10))
  exact ⟨c, digits, isDecimal_of_mem_toDigits (hcons ▸ List.mem_cons_self), hcons⟩

/-- Zero has one digit; the digits of another number do not start with a zero. -/
theorem toDigits_eq (n : Nat) :
    n = 0 ∧ Nat.toDigits 10 n = ['0'] ∨
      ∃ c digits, c ≠ '0' ∧ isDecimal c = true ∧ Nat.toDigits 10 n = c :: digits := by
  induction n using Nat.strongRecOn with
  | ind n ih =>
      by_cases hone : n < 10
      · have hsmall : ∀ n < 10, n = 0 ∧ [n.digitChar] = ['0'] ∨
            n.digitChar ≠ '0' ∧ isDecimal n.digitChar = true := by decide
        rw [Nat.toDigits_eq_if (by decide), if_pos hone]
        rcases hsmall n hone with hzero | ⟨hne, hdecimal⟩
        · exact .inl hzero
        · exact .inr ⟨_, [], hne, hdecimal, rfl⟩
      · rw [Nat.toDigits_eq_if (by decide), if_neg hone]
        rcases ih (n / 10) (by omega) with ⟨hzero, -⟩ | ⟨c, digits, hne, hdecimal, hdigits⟩
        · omega
        · exact .inr ⟨c, _, hne, hdecimal, by rw [hdigits, List.cons_append]⟩

theorem readWhole_toDigits (n : Nat) {rest : List Char} (hrest : Follows rest) :
    readWhole (Nat.toDigits 10 n ++ rest) = some (Nat.toDigits 10 n, rest) := by
  have hall : ∀ c ∈ Nat.toDigits 10 n, isDecimal c = true :=
    fun c hc => isDecimal_of_mem_toDigits hc
  have htake : rest.takeWhile isDecimal = [] ∧ rest.dropWhile isDecimal = rest := by
    cases rest with
    | nil => exact ⟨rfl, rfl⟩
    | cons c rest =>
        have hc : isDecimal c = false := by rcases hrest c rfl with rfl | rfl <;> rfl
        simp [hc]
  have hspan : (Nat.toDigits 10 n ++ rest).takeWhile isDecimal = Nat.toDigits 10 n ∧
      (Nat.toDigits 10 n ++ rest).dropWhile isDecimal = rest := by
    rw [List.takeWhile_append_of_pos hall, List.dropWhile_append_of_pos hall, htake.1, htake.2]
    exact ⟨List.append_nil _, rfl⟩
  rcases toDigits_eq n with ⟨-, hzero⟩ | ⟨c, digits, hne, hdecimal, hdigits⟩
  · rw [hzero]
    rfl
  · rw [hdigits] at hspan ⊢
    rw [List.cons_append] at hspan ⊢
    simp [readWhole, hdecimal, hspan]

theorem readFraction_of_follows {rest : List Char} (h : Follows rest) :
    readFraction rest = ([], rest) := by
  cases rest with
  | nil => rfl
  | cons c rest => rcases h c rfl with rfl | rfl <;> rfl

theorem readExponent_of_follows {rest : List Char} (h : Follows rest) :
    readExponent rest = (none, rest) := by
  cases rest with
  | nil => rfl
  | cons c rest => rcases h c rfl with rfl | rfl <;> rfl

/-- Whether a number has no more digits than are read. -/
def IsShort (n : Nat) : Prop := (Nat.toDigits 10 n).length ≤ Text.Numeral.digitLimit

theorem toList_toString (i : Int) :
    (toString i).toList = Nat.toDigits 10 i.natAbs ∧ 0 ≤ i ∨
      (toString i).toList = '-' :: Nat.toDigits 10 i.natAbs ∧ i < 0 := by
  cases i with
  | ofNat n => exact .inl ⟨by simp [toString, Int.repr], Int.natCast_nonneg n⟩
  | negSucc n => exact .inr ⟨by simp [toString, Int.repr], Int.negSucc_lt_zero n⟩

theorem toString_eq_cons (i : Int) :
    (∃ c digits, isDecimal c = true ∧ (toString i).toList = c :: digits) ∨
      ∃ c digits, isDecimal c = true ∧ (toString i).toList = '-' :: c :: digits := by
  obtain ⟨c, digits, hdecimal, hcons⟩ := exists_toDigits_eq_cons i.natAbs
  rcases toList_toString i with ⟨hdigits, -⟩ | ⟨hdigits, -⟩
  · exact .inl ⟨c, digits, hdecimal, hdigits.trans hcons⟩
  · exact .inr ⟨c, digits, hdecimal, by rw [hdigits, hcons]⟩

theorem not_mem_toString {c : Char} (hdigit : isDecimal c = false) (hsign : c ≠ '-') (i : Int) :
    c ∉ (toString i).toList := by
  have hdigits : c ∉ Nat.toDigits 10 i.natAbs := fun hmem =>
    Bool.false_ne_true (hdigit.symm.trans (isDecimal_of_mem_toDigits hmem))
  rcases toList_toString i with ⟨heq, -⟩ | ⟨heq, -⟩
  · rwa [heq]
  · rw [heq]
    simpa [hsign] using hdigits

theorem ne_of_isDecimal {c : Char} (hc : isDecimal c = true) (d : Char)
    (hd : isDecimal d = false) : c ≠ d := by
  rintro rfl
  rw [hc] at hd
  nomatch hd

theorem readNumber_toString {i : Int} (hshort : IsShort i.natAbs) {rest : List Char}
    (hrest : Follows rest) : readNumber ((toString i).toList ++ rest) = .ok (.int i, rest) := by
  have hwhole := readWhole_toDigits i.natAbs hrest
  have hlimit : ¬ Text.Numeral.digitLimit < (Nat.toDigits 10 i.natAbs).length :=
    Nat.not_lt.mpr hshort
  rcases toList_toString i with ⟨hdigits, hsign⟩ | ⟨hdigits, hsign⟩
  -- The digits do not start with a sign; this is how the branch without one is taken.
  · have hnone : ∀ others, Nat.toDigits 10 i.natAbs ++ rest = '-' :: others → False := by
      intro others heq
      obtain ⟨c, digits, hdecimal, hcons⟩ := exists_toDigits_eq_cons i.natAbs
      rw [hcons, List.cons_append, List.cons_eq_cons] at heq
      exact absurd (heq.1 ▸ hdecimal) (by decide)
    rw [hdigits]
    unfold readNumber
    simp only [hwhole, readFraction_of_follows hrest, readExponent_of_follows hrest,
      if_neg hlimit, decimalValue_toDigits, Int.natAbs_of_nonneg hsign]
    rfl
  · rw [hdigits, List.cons_append]
    unfold readNumber
    simp only [hwhole, readFraction_of_follows hrest, readExponent_of_follows hrest,
      if_neg hlimit, decimalValue_toDigits]
    simp only [Int.ofNat_natAbs_of_nonpos (Int.le_of_lt hsign), Int.neg_neg]
    rfl

/-- The first character after the signs at the front. -/
def afterSigns (cs : List Char) : Option Char := (cs.dropWhile (· == '-')).head?

theorem afterSigns_append {cs : List Char} {c : Char} (h : afterSigns cs = some c)
    (rest : List Char) : afterSigns (cs ++ rest) = some c := by
  rw [afterSigns] at h ⊢
  rw [List.dropWhile_append]
  split
  · rename_i hnone
    rw [List.isEmpty_iff.mp hnone] at h
    nomatch h
  · rw [List.head?_append, h]
    rfl

theorem readWord?_toString (i : Int) (rest : List Char) :
    readWord? ((toString i).toList ++ rest) = none := by
  have hwords : ∀ entry ∈ words, (afterSigns entry.1.toList).map isDecimal = some false := by
    decide
  obtain ⟨d, hdecimal, hdigit⟩ : ∃ d, isDecimal d = true ∧
      afterSigns (toString i).toList = some d := by
    rcases toString_eq_cons i with ⟨d, digits, hdecimal, hcons⟩ | ⟨d, digits, hdecimal, hcons⟩
    all_goals
      have hne := ne_of_isDecimal hdecimal '-' rfl
      exact ⟨d, hdecimal, by rw [hcons]; simp [afterSigns, hne]⟩
  rw [readWord?, List.findSome?_eq_none_iff]
  intro entry hmem
  have hstart : ¬ entry.1.toList.isPrefixOf ((toString i).toList ++ rest) = true := by
    rw [List.isPrefixOf_iff_prefix]
    rintro ⟨others, heq⟩
    obtain ⟨c, hfirst, hc⟩ := Option.map_eq_some_iff.mp (hwords entry hmem)
    have hsame := afterSigns_append hfirst others
    rw [heq, afterSigns_append hdigit rest] at hsame
    exact ne_of_isDecimal hdecimal c hc (Option.some.inj hsame)
  exact if_neg hstart

/-! ## Values that are kept -/

mutual

/-- Whether a value is held exactly by its written form: it has no number of the binary
format and no whole number too long to be read, and no object has a name twice. -/
def IsExact : Json → Prop
  | .null | .bool _ | .str _ => True
  | .int value => IsShort value.natAbs
  | .float _ => False
  | .arr items => AreExact items
  | .obj fields => (fields.map Prod.fst).Nodup ∧ HoldExact fields

def AreExact : List Json → Prop
  | [] => True
  | item :: items => item.IsExact ∧ AreExact items

def HoldExact : List (String × Json) → Prop
  | [] => True
  | (_, value) :: fields => value.IsExact ∧ HoldExact fields

end

theorem areExact_iff {items : List Json} : AreExact items ↔ ∀ v ∈ items, v.IsExact := by
  induction items with
  | nil => simp [AreExact]
  | cons item items ih => rw [AreExact, ih, List.forall_mem_cons]

theorem holdExact_iff {fields : List (String × Json)} :
    HoldExact fields ↔ ∀ f ∈ fields, f.2.IsExact := by
  induction fields with
  | nil => simp [HoldExact]
  | cons field fields ih => rw [HoldExact, ih, List.forall_mem_cons]

theorem put_of_not_mem {α : Type} {name : String} (value : α) {fields : List (String × α)}
    (h : name ∉ fields.map Prod.fst) : put name value fields = fields ++ [(name, value)] := by
  induction fields with
  | nil => rfl
  | cons field fields ih =>
      obtain ⟨key, old⟩ := field
      simp only [List.map_cons, List.mem_cons, not_or] at h
      have hkey : (key == name) = false := beq_false_of_ne (Ne.symm h.1)
      rw [put, hkey, if_neg Bool.false_ne_true, ih h.2, List.cons_append]

theorem foldl_put {α : Type} (done fields : List (String × α))
    (h : ((done ++ fields).map Prod.fst).Nodup) :
    fields.foldl (fun done field => put field.1 field.2 done) done = done ++ fields := by
  induction fields generalizing done with
  | nil => rw [List.foldl_nil, List.append_nil]
  | cons field fields ih =>
      have hnew : field.1 ∉ done.map Prod.fst := by
        rw [List.map_append, List.map_cons, List.nodup_append] at h
        exact fun hmem => h.2.2 _ hmem _ List.mem_cons_self rfl
      have hshift : done ++ field :: fields = done ++ [field] ++ fields := by simp
      rw [List.foldl_cons, put_of_not_mem _ hnew, ih _ (hshift ▸ h), hshift]

theorem ofFields_eq {fields : List (String × Json)} (h : (fields.map Prod.fst).Nodup) :
    ofFields fields = .obj fields := by
  rw [ofFields, foldl_put [] fields h, List.nil_append]

/-! ## Written forms -/

/-- The first character of a written form is neither a space nor the end of a list nor a mark
of the byte order. -/
theorem exists_render_eq_cons (step depth : Nat) {v : Json} (h : v.IsExact) :
    ∃ c cs, render step depth v = c :: cs ∧ isSpace c = false ∧ c ≠ ']' ∧ c ≠ '\uFEFF' := by
  cases v with
  | null => exact ⟨_, _, rfl, rfl, by decide, by decide⟩
  | bool value => cases value <;> exact ⟨_, _, rfl, rfl, by decide, by decide⟩
  | int value =>
      rw [render]
      rcases toString_eq_cons value with ⟨c, digits, hdecimal, hcons⟩ | ⟨c, digits, -, hcons⟩
      · have hne := ne_of_isDecimal hdecimal
        refine ⟨c, digits, hcons, ?_, hne ']' rfl, hne '\uFEFF' rfl⟩
        simp [isSpace, hne ' ' rfl, hne '\t' rfl, hne '\n' rfl, hne '\r' rfl]
      · exact ⟨'-', _, hcons, rfl, by decide, by decide⟩
  | float value => exact absurd h (by simp [IsExact])
  | str value => exact ⟨_, _, rfl, rfl, by decide, by decide⟩
  | arr items => cases items <;> exact ⟨'[', _, by rw [render], rfl, by decide, by decide⟩
  | obj fields => cases fields <;> exact ⟨'{', _, by rw [render], rfl, by decide, by decide⟩

theorem follows_newLine (step depth : Nat) (rest : List Char) :
    Follows (newLine step depth ++ rest) := by
  rintro c ⟨⟩
  exact .inr rfl

theorem follows_comma (rest : List Char) : Follows (',' :: rest) := by
  rintro c ⟨⟩
  exact .inl rfl

theorem follows_renderItems (step depth depth' : Nat) (items : List Json) (rest : List Char) :
    Follows (renderItems step depth items ++ (newLine step depth' ++ rest)) := by
  cases items with
  | nil => exact follows_newLine step depth' rest
  | cons item items => exact follows_comma _

theorem follows_renderFields (step depth depth' : Nat) (fields : List (String × Json))
    (rest : List Char) :
    Follows (renderFields step depth fields ++ (newLine step depth' ++ rest)) := by
  cases fields with
  | nil => exact follows_newLine step depth' rest
  | cons field fields => exact follows_comma _

/-! ## Reading back -/

theorem skipSpace_render (step depth : Nat) {v : Json} (h : v.IsExact) (rest : List Char) :
    skipSpace (render step depth v ++ rest) = render step depth v ++ rest := by
  obtain ⟨c, cs, hcons, hspace, -, -⟩ := exists_render_eq_cons step depth h
  rw [hcons, List.cons_append, skipSpace_cons hspace]

theorem render_append_ne (step depth : Nat) {v : Json} (h : v.IsExact) (rest others : List Char) :
    render step depth v ++ rest = ']' :: others → False := by
  obtain ⟨c, cs, hcons, -, hclose, -⟩ := exists_render_eq_cons step depth h
  rw [hcons]
  intro heq
  exact hclose (List.cons.inj heq).1

/-- A value is read back from its written form on any level, and the reader stops where it
ends.  The fuel is measured by the text, of which every second reader uses a character. -/
def ReadsBack (step : Nat) (v : Json) : Prop :=
  ∀ (depth fuel : Nat) (rest : List Char), 2 * (render step depth v).length ≤ fuel →
    Follows rest → readValue fuel (render step depth v ++ rest) = .ok (v, rest)

theorem readWord?_word {word : String} {value : Json} (rest : List Char)
    (h : (word, value) ∈ [("null", .null), ("true", .bool true), ("false", .bool false)]) :
    readWord? (word.toList ++ rest) = some (value, rest) := by
  simp only [List.mem_cons, Prod.mk.injEq, List.not_mem_nil, or_false] at h
  rcases h with ⟨rfl, rfl⟩ | ⟨rfl, rfl⟩ | ⟨rfl, rfl⟩ <;> rfl

/-- Where no text, list or object starts, a word is read or, if there is none, a number. -/
theorem readValue_of_ne (fuel : Nat) {c : Char} (h : c ∉ ['"', '[', '{']) (cs : List Char) :
    (∀ found, readWord? (c :: cs) = some found → readValue (fuel + 1) (c :: cs) = .ok found) ∧
      (readWord? (c :: cs) = none → readValue (fuel + 1) (c :: cs) = readNumber (c :: cs)) := by
  have hne (d : Char) (hd : d ∈ ['"', '[', '{']) : ∀ rest, c :: cs = d :: rest → False :=
    fun rest heq => h ((List.cons.inj heq).1 ▸ hd)
  have hquote := hne '"' (by simp)
  have hlist := hne '[' (by simp)
  have hobject := hne '{' (by simp)
  constructor
  · intro found hword
    simp only [readValue, hword]
  · intro hword
    simp only [readValue, hword]

theorem readsBack_word {step : Nat} (word : String) {value : Json}
    (h : (word, value) ∈ [("null", .null), ("true", .bool true), ("false", .bool false)])
    (hrender : ∀ depth, render step depth value = word.toList) : ReadsBack step value := by
  intro depth fuel rest hfuel _
  obtain ⟨c, cs, hcons, hc⟩ : ∃ c cs, word.toList = c :: cs ∧ c ∉ ['"', '[', '{'] := by
    simp only [List.mem_cons, Prod.mk.injEq, List.not_mem_nil, or_false] at h
    rcases h with ⟨rfl, rfl⟩ | ⟨rfl, rfl⟩ | ⟨rfl, rfl⟩ <;> exact ⟨_, _, rfl, by decide⟩
  have hword := readWord?_word rest h
  rw [hrender, hcons, List.length_cons] at hfuel
  obtain ⟨fuel, rfl⟩ : ∃ n, fuel = n + 1 := ⟨fuel - 1, by omega⟩
  rw [hcons, List.cons_append] at hword
  rw [hrender, hcons, List.cons_append, (readValue_of_ne fuel hc _).1 _ hword]

theorem readsBack_int (step : Nat) {i : Int} (h : IsShort i.natAbs) :
    ReadsBack step (.int i) := by
  intro depth fuel rest hfuel hrest
  obtain ⟨c, cs, hcons, hc⟩ : ∃ c cs, (toString i).toList = c :: cs ∧ c ∉ ['"', '[', '{'] := by
    rcases toString_eq_cons i with ⟨c, digits, hdecimal, hcons⟩ | ⟨c, digits, -, hcons⟩
    · have hne := ne_of_isDecimal hdecimal
      exact ⟨c, digits, hcons, by simp [hne '"' rfl, hne '[' rfl, hne '{' rfl]⟩
    · exact ⟨'-', _, hcons, by decide⟩
  have hword := readWord?_toString i rest
  have hnumber := readNumber_toString h hrest
  rw [render, hcons, List.length_cons] at hfuel
  obtain ⟨fuel, rfl⟩ : ∃ n, fuel = n + 1 := ⟨fuel - 1, by omega⟩
  rw [hcons, List.cons_append] at hword hnumber
  rw [render, hcons, List.cons_append, (readValue_of_ne fuel hc _).2 hword, hnumber]

theorem readsBack_str (step : Nat) (s : String) : ReadsBack step (.str s) := by
  intro depth fuel rest hfuel _
  have hstring := readString_renderString s rest
  rw [render, renderString, List.length_cons] at hfuel
  obtain ⟨fuel, rfl⟩ : ∃ n, fuel = n + 1 := ⟨fuel - 1, by omega⟩
  rw [renderString, List.cons_append] at hstring
  rw [render, renderString, List.cons_append]
  simp only [readValue, hstring]
  rfl

theorem readItems_render (step depth depth' : Nat) {item : Json} {items : List Json}
    (hexact : ∀ v ∈ item :: items, v.IsExact) (hreads : ∀ v ∈ item :: items, ReadsBack step v)
    (fuel : Nat) (rest : List Char)
    (hfuel : 2 * ((render step depth item).length + (renderItems step depth items).length)
      < fuel) :
    readItems fuel (render step depth item ++ (renderItems step depth items
      ++ (newLine step depth' ++ ']' :: rest))) = .ok (item :: items, rest) := by
  induction items generalizing item fuel with
  | nil =>
      obtain ⟨fuel, rfl⟩ : ∃ n, fuel = n + 1 := ⟨fuel - 1, by omega⟩
      have hitem := hreads item List.mem_cons_self depth fuel (newLine step depth' ++ ']' :: rest)
        (by omega) (follows_newLine step depth' _)
      have hclose : skipSpace (']' :: rest) = ']' :: rest := skipSpace_cons rfl rest
      simp only [renderItems, List.nil_append, readItems, hitem, skipSpace_newLine, hclose]
  | cons next items ih =>
      obtain ⟨fuel, rfl⟩ : ∃ n, fuel = n + 1 := ⟨fuel - 1, by omega⟩
      have hitem := hreads item List.mem_cons_self depth fuel
        (renderItems step depth (next :: items) ++ (newLine step depth' ++ ']' :: rest))
        (by omega) (follows_renderItems step depth depth' _ _)
      have hnext := hexact next (by simp)
      have hcomma (cs : List Char) : skipSpace (',' :: cs) = ',' :: cs := skipSpace_cons rfl cs
      rw [renderItems, List.length_cons, List.length_append, List.length_append] at hfuel
      have hothers := ih (fun v hv => hexact v (List.mem_cons_of_mem _ hv))
        (fun v hv => hreads v (List.mem_cons_of_mem _ hv)) fuel (by omega)
      rw [readItems, hitem]
      simp only [renderItems, List.cons_append, List.append_assoc, hcomma, skipSpace_newLine,
        skipSpace_render step depth hnext, hothers]
      rfl

/-- The field that a reader of fields comes to first is read by itself: it is the last one, or
the others are read after it. -/
theorem readFields_renderString (fuel : Nat) (name : String) {cs : List Char}
    (hcs : skipSpace cs = cs) {value : Json} {rest : List Char}
    (hvalue : readValue fuel cs = .ok (value, rest)) :
    (∀ after, skipSpace rest = '}' :: after →
      readFields (fuel + 1) (renderString name ++ ':' :: ' ' :: cs)
        = .ok ([(name, value)], after)) ∧
    ∀ others fields after, skipSpace rest = ',' :: others →
      readFields fuel (skipSpace others) = .ok (fields, after) →
      readFields (fuel + 1) (renderString name ++ ':' :: ' ' :: cs)
        = .ok ((name, value) :: fields, after) := by
  have hname := readString_renderString name (':' :: ' ' :: cs)
  have hspace : skipSpace (' ' :: cs) = cs := hcs
  have hcolon : skipSpace (':' :: ' ' :: cs) = ':' :: ' ' :: cs := skipSpace_cons rfl _
  obtain ⟨chars, hchars⟩ : ∃ chars, renderString name ++ ':' :: ' ' :: cs = '"' :: chars :=
    ⟨_, rfl⟩
  rw [hchars] at hname ⊢
  constructor
  · intro after hlast
    simp only [readFields, hname, hcolon, hspace, hvalue, hlast]
  · intro others fields after hnext hothers
    simp only [readFields, hname, hcolon, hspace, hvalue, hnext, hothers, Except.map]

/-- Fields whose values are read back each are read back as the rest of an object. -/
theorem readFields_render (step depth depth' : Nat) {field : String × Json}
    {fields : List (String × Json)}
    (hexact : ∀ f ∈ field :: fields, f.2.IsExact)
    (hreads : ∀ f ∈ field :: fields, ReadsBack step f.2) (fuel : Nat) (rest : List Char)
    (hfuel : 2 * ((render step depth field.2).length + (renderFields step depth fields).length)
      < fuel) :
    readFields fuel (renderString field.1 ++ ':' :: ' ' :: (render step depth field.2
      ++ (renderFields step depth fields ++ (newLine step depth' ++ '}' :: rest))))
      = .ok (field :: fields, rest) := by
  induction fields generalizing field fuel with
  | nil =>
      obtain ⟨fuel, rfl⟩ : ∃ n, fuel = n + 1 := ⟨fuel - 1, by omega⟩
      have hvalue := hreads field List.mem_cons_self depth fuel (newLine step depth' ++ '}' :: rest)
        (by omega) (follows_newLine step depth' _)
      have hclose : skipSpace (newLine step depth' ++ '}' :: rest) = '}' :: rest := by
        rw [skipSpace_newLine, skipSpace_cons rfl]
      have hspace := skipSpace_render step depth (hexact field List.mem_cons_self)
      rw [renderFields, List.nil_append]
      exact (readFields_renderString fuel _ (hspace _) hvalue).1 rest hclose
  | cons next fields ih =>
      obtain ⟨fuel, rfl⟩ : ∃ n, fuel = n + 1 := ⟨fuel - 1, by omega⟩
      obtain ⟨name, value⟩ := next
      have hvalue := hreads field List.mem_cons_self depth fuel
        (renderFields step depth ((name, value) :: fields) ++ (newLine step depth' ++ '}' :: rest))
        (by omega) (follows_renderFields step depth depth' _ _)
      have hspace := skipSpace_render step depth (hexact field List.mem_cons_self)
      simp only [renderFields, List.length_cons, List.length_append] at hfuel
      have hothers := ih (fun f hf => hexact f (List.mem_cons_of_mem _ hf))
        (fun f hf => hreads f (List.mem_cons_of_mem _ hf)) fuel (by dsimp only; omega)
      rw [renderFields] at hvalue ⊢
      simp only [List.cons_append, List.nil_append, List.append_assoc] at hvalue ⊢
      refine (readFields_renderString fuel _ (hspace _) hvalue).2 _ _ rest
        (skipSpace_cons rfl _) ?_
      rw [skipSpace_newLine, skipSpace_renderString, hothers]

theorem readsBack_arr (step : Nat) {items : List Json} (hexact : ∀ v ∈ items, v.IsExact)
    (hreads : ∀ v ∈ items, ReadsBack step v) : ReadsBack step (.arr items) := by
  intro depth fuel rest hfuel hrest
  cases items with
  | nil =>
      rw [render] at hfuel ⊢
      obtain ⟨fuel, rfl⟩ : ∃ n, fuel = n + 1 := ⟨fuel - 1, by simp at hfuel; omega⟩
      rfl
  | cons item items =>
      rw [render] at hfuel ⊢
      simp only [List.length_cons, List.length_append] at hfuel
      obtain ⟨fuel, rfl⟩ : ∃ n, fuel = n + 1 := ⟨fuel - 1, by omega⟩
      have hfirst := hexact item List.mem_cons_self
      have hitems := readItems_render step (depth + 1) depth hexact hreads fuel rest
        (by omega)
      -- What follows the bracket is no closing one, so the list is not taken for an empty one.
      have hopen := render_append_ne step (depth + 1) hfirst
        (renderItems step (depth + 1) items ++ (newLine step depth ++ ']' :: rest))
      simp only [List.cons_append, List.nil_append, List.append_assoc, readValue, skipSpace_newLine,
        skipSpace_render step (depth + 1) hfirst, hitems]
      rfl

theorem readValue_brace (step depth : Nat) {fuel : Nat} {name : String} {cs rest : List Char}
    {fields : List (String × Json)}
    (h : readFields fuel (renderString name ++ cs) = .ok (fields, rest)) :
    readValue (fuel + 1) ('{' :: (newLine step depth ++ (renderString name ++ cs)))
      = .ok (ofFields fields, rest) := by
  have hopen : ∀ others, renderString name ++ cs = '}' :: others → False := nofun
  simp only [readValue, skipSpace_newLine, skipSpace_renderString, h]
  rfl

theorem readsBack_obj (step : Nat) {fields : List (String × Json)}
    (hnames : (fields.map Prod.fst).Nodup) (hexact : ∀ f ∈ fields, f.2.IsExact)
    (hreads : ∀ f ∈ fields, ReadsBack step f.2) : ReadsBack step (.obj fields) := by
  intro depth fuel rest hfuel hrest
  cases fields with
  | nil =>
      rw [render] at hfuel ⊢
      obtain ⟨fuel, rfl⟩ : ∃ n, fuel = n + 1 := ⟨fuel - 1, by simp at hfuel; omega⟩
      rfl
  | cons field fields =>
      obtain ⟨name, value⟩ := field
      rw [render] at hfuel ⊢
      simp only [List.length_cons, List.length_append] at hfuel
      obtain ⟨fuel, rfl⟩ : ∃ n, fuel = n + 1 := ⟨fuel - 1, by omega⟩
      have hfields := readFields_render step (depth + 1) depth hexact hreads fuel rest
        (by dsimp only; omega)
      simp only [List.cons_append, List.nil_append, List.append_assoc]
      rw [readValue_brace step (depth + 1) hfields, ofFields_eq hnames]

mutual

theorem readsBack_of_isExact (step : Nat) : ∀ v : Json, v.IsExact → ReadsBack step v
  | .null, _ => readsBack_word "null" (by simp) fun _ => by rw [render]
  | .bool true, _ => readsBack_word "true" (by simp) fun _ => by rw [render, if_pos rfl]
  | .bool false, _ => readsBack_word "false" (by simp) fun _ => by
      rw [render, if_neg Bool.false_ne_true]
  | .int value, h => readsBack_int step h
  | .float _, h => absurd h (by simp [IsExact])
  | .str value, _ => readsBack_str step value
  | .arr items, h => by
      rw [IsExact] at h
      exact readsBack_arr step (areExact_iff.mp h) (readsBack_of_areExact step items h)
  | .obj fields, h => by
      rw [IsExact] at h
      exact readsBack_obj step h.1 (holdExact_iff.mp h.2) (readsBack_of_holdExact step fields h.2)

theorem readsBack_of_areExact (step : Nat) :
    ∀ items : List Json, AreExact items → ∀ v ∈ items, ReadsBack step v
  | [], _ => by simp
  | item :: items, h => List.forall_mem_cons.mpr
      ⟨readsBack_of_isExact step item h.1, readsBack_of_areExact step items h.2⟩

theorem readsBack_of_holdExact (step : Nat) :
    ∀ fields : List (String × Json), HoldExact fields → ∀ f ∈ fields, ReadsBack step f.2
  | [], _ => by simp
  | (_, value) :: fields, h => List.forall_mem_cons.mpr
      ⟨readsBack_of_isExact step value h.1, readsBack_of_holdExact step fields h.2⟩

end

/-- **A written value reads as itself.** -/
theorem parse_text (step : Nat) {v : Json} (h : v.IsExact) : parse (v.text step) = .ok v := by
  obtain ⟨c, cs, hcons, -, -, hmark⟩ := exists_render_eq_cons step 0 h
  have hspace : skipSpace (render step 0 v) = render step 0 v := by
    simpa using skipSpace_render step 0 h []
  have hvalue := readsBack_of_isExact step v h 0 (2 * (render step 0 v).length + 2) [] (by omega)
    nofun
  have hnone : skipSpace [] = [] := rfl
  rw [List.append_nil] at hvalue
  have hmark' : ∀ others, render step 0 v = '\uFEFF' :: others → False := by
    intro others heq
    rw [hcons] at heq
    exact hmark (List.cons.inj heq).1
  have hparse : parseChars (render step 0 v) = .ok v := by
    simp only [parseChars, hspace, hvalue, hnone]
  rw [parse, text, String.toList_ofList, hparse]

/-! ## Line ends -/

theorem return_not_mem_escapeChar (c : Char) : '\r' ∉ escapeChar c := by
  by_cases hc : c ∈ lettered
  · simp only [lettered, List.mem_cons, List.not_mem_nil, or_false] at hc
    rcases hc with rfl | rfl | rfl | rfl | rfl | rfl | rfl
    all_goals decide
  · have hself : c ≠ '\r' := by
      rintro rfl
      exact hc (by decide)
    have hdigits : ∀ n < 32, '\r' ∉ Text.Quoted.hexDigits 4 n := by decide
    rw [escapeChar_of_not_mem hc]
    split
    · rename_i hcontrol
      simpa using hdigits c.toNat hcontrol
    · simpa using hself.symm

theorem return_not_mem_renderString (s : String) : '\r' ∉ renderString s := by
  have htext : '\r' ∉ s.toList.flatMap escapeChar := by
    rw [List.mem_flatMap]
    rintro ⟨c, -, hmem⟩
    exact return_not_mem_escapeChar c hmem
  simp [renderString, htext]

theorem return_not_mem_newLine (step depth : Nat) : '\r' ∉ newLine step depth := by
  simp [newLine, List.mem_replicate]

mutual

theorem return_not_mem_render (step : Nat) :
    ∀ (depth : Nat) (v : Json), v.IsExact → '\r' ∉ render step depth v
  | _, .null, _ => by rw [render]; decide
  | _, .bool true, _ => by rw [render, if_pos rfl]; decide
  | _, .bool false, _ => by rw [render, if_neg Bool.false_ne_true]; decide
  | _, .int value, _ => by
      rw [render]
      exact not_mem_toString rfl (by decide) value
  | _, .float _, h => absurd h (by simp [IsExact])
  | _, .str value, _ => by
      rw [render]
      exact return_not_mem_renderString value
  | _, .arr [], _ => by rw [render]; decide
  | depth, .arr (item :: items), h => by
      have hitem := return_not_mem_render step (depth + 1) item h.1
      have hitems := return_not_mem_renderItems step (depth + 1) items h.2
      simp [render, return_not_mem_newLine, hitem, hitems]
  | _, .obj [], _ => by rw [render]; decide
  | depth, .obj ((name, value) :: fields), h => by
      have hvalue := return_not_mem_render step (depth + 1) value h.2.1
      have hfields := return_not_mem_renderFields step (depth + 1) fields h.2.2
      simp [render, return_not_mem_newLine, return_not_mem_renderString, hvalue, hfields]

theorem return_not_mem_renderItems (step : Nat) :
    ∀ (depth : Nat) (items : List Json), AreExact items → '\r' ∉ renderItems step depth items
  | _, [], _ => by rw [renderItems]; decide
  | depth, item :: items, h => by
      have hitem := return_not_mem_render step depth item h.1
      have hitems := return_not_mem_renderItems step depth items h.2
      simp [renderItems, return_not_mem_newLine, hitem, hitems]

theorem return_not_mem_renderFields (step : Nat) :
    ∀ (depth : Nat) (fields : List (String × Json)), HoldExact fields →
      '\r' ∉ renderFields step depth fields
  | _, [], _ => by rw [renderFields]; decide
  | depth, (name, value) :: fields, h => by
      have hvalue := return_not_mem_render step depth value h.1
      have hfields := return_not_mem_renderFields step depth fields h.2
      simp [renderFields, return_not_mem_newLine, return_not_mem_renderString, hvalue, hfields]

end

/-- The written form of a value has line feeds only, so it stays as it is in a text file. -/
theorem return_not_mem_text (step : Nat) {v : Json} (h : v.IsExact) :
    '\r' ∉ (v.text step).toList := by
  rw [text, String.toList_ofList]
  exact return_not_mem_render step 0 v h

end PageGrep.Json
