/-
# Settings that are refused

A mapping is accepted just if nothing in it offends, and a refusal names something that does,
with one exception: a time-out that is a whole number beyond the range of the binary format is
refused when it is converted, and what is said then names no setting at all
(`blames_of_ofMapping`, `large_timeout_is_not_named`).

The steps of the reading are gone through once for their errors.  Each step reads a value by
its type and refuses it by the name it was given (`Setting.Refuses`), so one lemma serves for
all settings but the time-out.
-/
import PageGrep.Proofs.Config.Demands

namespace PageGrep

/-! ## What a refusal names -/

/-- The name of a setting stands in the wording of a refusal. -/
def ConfigError.Names (e : ConfigError) (name : String) : Prop :=
  name.toList <:+: e.message.toList

/-- A refusal blames something that offends: it names it, and is no accident of a conversion. -/
def ConfigError.Blames (m : Mapping) (e : ConfigError) : Prop :=
  e.kind ≠ .outOfRange ∧ ∃ name, m.Offends name ∧ e.Names name

/-- A refusal blames what offends, or a time-out is too large to be converted. -/
def ConfigError.IsFair (m : Mapping) (e : ConfigError) : Prop :=
  e.Blames m ∨ e = .numberTooLarge ∧ m.AsksTooLong

namespace ConfigError

variable {m : Mapping} {e : ConfigError} {name : String}

theorem names_of_starts (start rest : String) (h : e.message = start ++ rest)
    (hname : name.toList <:+: start.toList) : e.Names name := by
  rw [Names, h, String.toList_append]
  exact hname.trans (List.prefix_append _ _).isInfix

theorem names_wrongType (name : String) (wanted : Wanted) :
    (wrongType name wanted).Names name := by
  refine names_of_starts name (" must be " ++ wanted.noun) ?_ (List.infix_refl _)
  exact String.append_assoc

theorem names_unknownSource (name : String) : (unknownSource name).Names "search.source" := by
  let allowed := ", ".intercalate (sortedNames (SourceName.all.map SourceName.name))
  refine names_of_starts "Unsupported source in config.search.source: "
    (name ++ (". Allowed: " ++ allowed)) ?_ (by decide +kernel)
  show "Unsupported source in config.search.source: " ++ name ++ ". Allowed: " ++ allowed = _
  rw [String.append_assoc, String.append_assoc]

theorem isFair_of_setting {s : SettingName} (hs : ¬ m.Admits s) (hkind : e.kind ≠ .outOfRange)
    (h : e.Names s.dotted) : e.IsFair m :=
  .inl ⟨hkind, s.dotted, .setting hs, h⟩

end ConfigError

/-! ## Values of the wrong type -/

namespace Setting

open ConfigError (names_wrongType names_of_starts)

/-- A value is read by its type: it is refused only where it is not of the type, and then by
the name that it was given. -/
def Refuses {α : Type} (name : String) (read : Value → Except ConfigError α)
    (isOfType : Value → Prop) : Prop :=
  ∀ v e, read v = .error e → ¬ isOfType v ∧ e.kind ≠ .outOfRange ∧ e.Names name

variable (name : String)

theorem refuses_string : Refuses name (string name) fun v => ∃ text, v = .str text := by
  intro v e h
  cases v with
  | str _ => nomatch h
  | _ =>
      cases h
      exact ⟨nofun, nofun, names_wrongType name .string⟩

theorem refuses_string? : Refuses name (string? name)
    fun v => ∃ text? : Option String, v = (text?.map Value.str).getD .null := by
  intro v e h
  cases v with
  | null => nomatch h
  | str _ => nomatch h
  | _ =>
      cases h
      refine ⟨?_, nofun, names_wrongType name .string⟩
      rintro ⟨_ | _, htext⟩
      all_goals nomatch htext

theorem refuses_boolean : Refuses name (boolean name) fun v => ∃ b, v = .bool b := by
  intro v e h
  cases v with
  | bool _ => nomatch h
  | _ =>
      cases h
      exact ⟨nofun, nofun, names_wrongType name .boolean⟩

theorem refuses_integer : Refuses name (integer name) fun v => ∃ i, v = .int i := by
  intro v e h
  cases v with
  | int _ => nomatch h
  | _ =>
      cases h
      exact ⟨nofun, nofun, names_wrongType name .integer⟩

/-- An item is refused by its place in the list, which has the name of the list in front. -/
theorem of_stringsFrom_eq_error {index : Nat} {values : List Value} {e : ConfigError}
    (h : stringsFrom name index values = .error e) :
    (∀ texts : List String, values ≠ texts.map .str) ∧ e.kind ≠ .outOfRange ∧ e.Names name := by
  induction values generalizing index with
  | nil => nomatch h
  | cons value values ih =>
      rw [stringsFrom] at h
      cases hvalue : string (name ++ "[" ++ toString index ++ "]") value with
      | error e' =>
          obtain ⟨hno, hkind, -⟩ := refuses_string _ _ _ hvalue
          rw [hvalue] at h
          cases h
          refine ⟨?_, hkind, ?_⟩
          · rintro (_ | ⟨text, texts⟩) htexts
            · nomatch htexts
            · exact hno ⟨text, (List.cons.inj htexts).1⟩
          · cases value with
            | str _ => nomatch hvalue
            | _ =>
                cases hvalue
                refine names_of_starts name ("[" ++ toString index ++ "]" ++ " must be a string") ?_
                  (List.infix_refl _)
                show name ++ "[" ++ toString index ++ "]" ++ " must be " ++ "a string" = _
                simp only [String.append_assoc]
                rfl
      | ok text =>
          rw [hvalue] at h
          cases hrest : stringsFrom name (index + 1) values with
          | error e' =>
              rw [hrest] at h
              cases h
              obtain ⟨hno, hnamed⟩ := ih hrest
              refine ⟨?_, hnamed⟩
              rintro (_ | ⟨_, texts⟩) htexts
              · nomatch htexts
              · exact hno texts (List.cons.inj htexts).2
          | ok _ =>
              rw [hrest] at h
              nomatch h

theorem refuses_strings : Refuses name (strings name)
    fun v => ∃ texts : List String, v = .list (texts.map .str) := by
  intro v e h
  cases v with
  | list items =>
      obtain ⟨hno, hkind, hnamed⟩ := of_stringsFrom_eq_error name h
      refine ⟨?_, hkind, hnamed⟩
      rintro ⟨texts, htexts⟩
      exact hno texts (Value.list.inj htexts)
  | _ =>
      cases h
      exact ⟨nofun, nofun, names_wrongType name .list⟩

end Setting

/-! ## Reading -/

section Reading

open Setting ConfigError

variable {m pairs : Mapping}

theorem isFair_of_sectionOf {name : String} (hname : name ∈ sections) :
    ∀ e, sectionOf name m = .error e → e.IsFair m := by
  intro e h
  unfold sectionOf at h
  split at h
  · nomatch h
  · nomatch h
  · nomatch h
  · rename_i v hnull hmap hv
    cases h
    exact .inl ⟨nofun, name, .noObject hname hv hnull hmap, names_wrongType name .object⟩

theorem isFair_of_requiredSection :
    ∀ e, requiredSection "search" m = .error e → e.IsFair m := by
  intro e h
  unfold requiredSection at h
  have hmissing : (missing "search").Names "search" :=
    names_of_starts "Missing required config: search" "" rfl (by decide +kernel)
  split at h
  · rename_i hnone
    cases h
    exact .inl ⟨nofun, "search", .missing (.inl hnone), hmissing⟩
  · rename_i hnull
    cases h
    exact .inl ⟨nofun, "search", .missing (.inr hnull), hmissing⟩
  · exact isFair_of_sectionOf (by decide) e h

theorem isFair_of_refuses {α : Type} {read : Value → Except ConfigError α}
    {isOfType : Value → Prop} (s : SettingName) (hread : Refuses s.dotted read isOfType)
    (hpairs : sectionOf s.sectionName m = .ok pairs)
    (htype : m.Admits s → isOfType (m.valueOf s)) :
    ∀ e, read (stated s.key s.default pairs) = .error e → e.IsFair m := by
  intro e h
  rw [stated_of_sectionOf hpairs] at h
  obtain ⟨hno, hkind, hnamed⟩ := hread _ e h
  exact isFair_of_setting (fun hs => hno (htype hs)) hkind hnamed

/-- The one setting whose conversion may fail: a whole number that is too large is refused
without its name. -/
theorem isFair_of_number (hpairs : sectionOf "wiki" m = .ok pairs) :
    ∀ e, number "wiki.timeout" (stated "timeout" (.int 30) pairs) = .error e → e.IsFair m := by
  intro e h
  rw [stated_of_sectionOf hpairs, number_eq] at h
  split at h
  · nomatch h
  · rename_i i hnone hi
    cases h
    rw [hi] at hnone
    exact .inr ⟨rfl, i, hi, (Binary64.ofInt?_eq_none_iff i).mp hnone⟩
  · rename_i hnone _
    cases h
    refine isFair_of_setting (s := .timeout) ?_ nofun (names_wrongType "wiki.timeout" .number)
    rintro ⟨x, hx, -⟩
    exact nomatch hnone.symm.trans hx

theorem isFair_of_draft : ∀ e, Draft.ofMapping m = .error e → e.IsFair m := by
  unfold Draft.ofMapping
  refine forall_error_bind (isFair_of_sectionOf (by decide)) fun log hlog => ?_
  refine forall_error_bind (isFair_of_refuses .level (refuses_string _) hlog
    fun ⟨text, _, h, _⟩ => ⟨text, h⟩) fun _ _ => ?_
  refine forall_error_bind (isFair_of_refuses .toFile (refuses_boolean _) hlog id) fun _ _ => ?_
  refine forall_error_bind (isFair_of_refuses .logDir (refuses_string _) hlog
    fun ⟨text, h, _⟩ => ⟨text, h⟩) fun _ _ => ?_
  refine forall_error_bind isFair_of_requiredSection fun search hsearch => ?_
  have hsearch := sectionOf_of_requiredSection hsearch
  refine forall_error_bind (isFair_of_refuses .program (refuses_string _) hsearch id)
    fun _ _ => ?_
  refine forall_error_bind (isFair_of_refuses .source (refuses_string _) hsearch
    fun ⟨_, text, h, _⟩ => ⟨text, h⟩) fun _ _ => ?_
  refine forall_error_bind (isFair_of_refuses .maxWorkers (refuses_integer _) hsearch
    fun ⟨i, h, _⟩ => ⟨i, h⟩) fun _ _ => ?_
  refine forall_error_bind (isFair_of_refuses .chained (refuses_boolean _) hsearch id)
    fun _ _ => ?_
  refine forall_error_bind (isFair_of_sectionOf (by decide)) fun wiki hwiki => ?_
  refine forall_error_bind (isFair_of_sectionOf (by decide)) fun folder hfolder => ?_
  refine forall_error_bind (isFair_of_refuses .site (refuses_string? _) hwiki And.left)
    fun _ _ => ?_
  refine forall_error_bind (isFair_of_number hwiki) fun _ _ => ?_
  refine forall_error_bind (isFair_of_refuses .pagesDir (refuses_string? _) hfolder And.left)
    fun _ _ => ?_
  refine forall_error_bind (isFair_of_sectionOf (by decide)) fun output houtput => ?_
  refine forall_error_bind (isFair_of_refuses .formats (refuses_strings _) houtput
    fun ⟨texts, h, _⟩ => ⟨texts, h⟩) fun _ _ => ?_
  refine forall_error_bind (isFair_of_refuses .baseDir (refuses_string _) houtput
    fun ⟨text, h, _⟩ => ⟨text, h⟩) fun _ _ => ?_
  exact forall_error_pure _

end Reading

/-! ## Checking -/

section Checking

open ConfigError

variable {m : Mapping} {d : Draft}

theorem not_admits_of_blank {s : SettingName} (text? : Option String)
    (htext : m.valueOf s = (text?.map Value.str).getD .null)
    (hs : m.Admits s → (m.valueOf s).IsFilled)
    (hblank : Text.isBlankText (text?.getD "") = true) : ¬ m.Admits s := by
  intro hadmits
  have hfilled := (isFilled_iff htext).mp (hs hadmits)
  exact absurd hblank (Bool.eq_false_iff.mp hfilled)

theorem isFair_of_notBlank {s : SettingName} {text : String}
    (htext : m.valueOf s = .str text) (hs : m.Admits s → (m.valueOf s).IsFilled) :
    ∀ e, notBlank s.dotted text = .error e → e.IsFair m := by
  intro e h
  unfold notBlank at h
  split at h
  · rename_i hblank
    cases h
    exact isFair_of_setting (not_admits_of_blank (some text) htext hs hblank) nofun
      (names_of_starts s.dotted " must not be empty" rfl (List.infix_refl _))
  · nomatch h

theorem isFair_of_maxWorkers (hd : d.IsOf m) (h : d.maxWorkers ≤ 0) :
    (notPositive "search.max_workers").IsFair m := by
  refine isFair_of_setting (s := .maxWorkers) ?_ nofun
    (names_of_starts "search.max_workers" " must be positive" rfl (List.infix_refl _))
  rintro ⟨i, hi, hpos⟩
  obtain rfl : d.maxWorkers = i := Value.int.inj (hd.maxWorkers.symm.trans hi)
  omega

theorem isFair_of_timeout (hd : d.IsOf m) (h : d.timeout.atMostZero = true) :
    (notPositive "wiki.timeout").IsFair m := by
  refine isFair_of_setting (s := .timeout) ?_ nofun
    (names_of_starts "wiki.timeout" " must be positive" rfl (List.infix_refl _))
  rintro ⟨x, hx, hpos⟩
  obtain rfl : d.timeout = x := Option.some.inj ((number?_timeout hd).symm.trans hx)
  exact Bool.false_ne_true (hpos.symm.trans h)

theorem isFair_of_isEmpty (hd : d.IsOf m) (h : d.formats.isEmpty = true) :
    noFormats.IsFair m := by
  refine isFair_of_setting (s := .formats) ?_ nofun
    (names_of_starts "output.formats must include at least one format" "" rfl (by decide +kernel))
  rintro ⟨texts, htexts, hsome, -⟩
  obtain ⟨texts', htexts', hformats⟩ := hd.formats
  obtain rfl := Value.eq_of_list_map_str (htexts.symm.trans htexts')
  rw [hformats, List.isEmpty_iff, List.map_eq_nil_iff] at h
  exact hsome h

theorem of_formatsOf_eq_error {names : List String} {e : ConfigError}
    (h : formatsOf names = .error e) :
    ∃ name ∈ names, Format.ofName? name = none ∧ e = .unknownFormat name := by
  induction names with
  | nil => cases h
  | cons name names ih =>
      unfold formatsOf at h
      cases hname : Format.ofName? name with
      | none =>
          rw [hname] at h
          cases h
          exact ⟨name, List.mem_cons_self, hname, rfl⟩
      | some f =>
          rw [hname] at h
          have hrest : formatsOf names = .error e := by
            cases hnames : formatsOf names with
            | error e' =>
                rw [hnames] at h
                cases h
                rfl
            | ok _ =>
                rw [hnames] at h
                cases h
          obtain ⟨name', hmem, hno⟩ := ih hrest
          exact ⟨name', List.mem_cons_of_mem _ hmem, hno⟩

theorem isFair_of_formatsOf (hd : d.IsOf m) :
    ∀ e, formatsOf d.formats = .error e → e.IsFair m := by
  intro e h
  obtain ⟨name, hmem, hnone, rfl⟩ := of_formatsOf_eq_error h
  obtain ⟨texts, htexts, hformats⟩ := hd.formats
  refine isFair_of_setting (s := .formats) ?_ nofun
    (names_of_starts "output.formats contains unknown format: " name rfl (by decide +kernel))
  rintro ⟨texts', htexts', -, hall⟩
  obtain rfl := Value.eq_of_list_map_str (htexts.symm.trans htexts')
  rw [hformats] at hmem
  obtain ⟨text, htext, rfl⟩ := List.mem_map.mp hmem
  obtain ⟨f, hf⟩ := hall text htext
  exact nomatch hnone.symm.trans hf

theorem isFair_of_checkSource (hd : d.IsOf m) {source : SourceName}
    (hsource : SourceName.ofName? d.source = some source) :
    ∀ e, checkSource d source = .error e → e.IsFair m := by
  intro e h
  have hnamed := namesSource_of_ofName? hd hsource
  cases source with
  | wiki =>
      dsimp only [checkSource] at h
      split at h
      · rename_i hblank
        cases h
        have hno : ¬ m.Admits .site :=
          not_admits_of_blank d.site hd.site (fun hadmits => hadmits.2 hnamed) hblank
        exact isFair_of_setting hno nofun
          (names_of_starts "search.source=wiki requires wiki.site" "" rfl (by decide +kernel))
      · nomatch h
  | folder =>
      dsimp only [checkSource] at h
      split at h
      · rename_i hblank
        cases h
        have hno : ¬ m.Admits .pagesDir :=
          not_admits_of_blank d.pagesDir hd.pagesDir (fun hadmits => hadmits.2 hnamed) hblank
        exact isFair_of_setting hno nofun
          (names_of_starts "search.source=local requires local.pages_dir" "" rfl
            (by decide +kernel))
      · nomatch h

theorem isFair_of_check (hd : d.IsOf m) : ∀ e, d.check = .error e → e.IsFair m := by
  unfold Draft.check
  cases hlevel : Level.ofName? d.level with
  | none =>
      intro e h
      cases h
      refine isFair_of_setting (s := .level) ?_ nofun
        (names_of_starts "log.level must be one of [" _ String.append_assoc (by decide +kernel))
      rintro ⟨text, level, htext, hnamed⟩
      obtain ⟨text', htext', heq⟩ := hd.level
      obtain rfl : text = text' := Value.str.inj (htext.symm.trans htext')
      rw [heq] at hlevel
      exact nomatch hlevel.symm.trans hnamed
  | some level =>
      refine forall_error_bind (isFair_of_notBlank (s := .logDir) hd.logDir id) fun _ _ => ?_
      cases hsource : SourceName.ofName? d.source with
      | none =>
          intro e h
          cases h
          refine isFair_of_setting (s := .source) ?_ nofun (names_unknownSource d.source)
          rintro ⟨source, hnamed⟩
          exact nomatch hsource.symm.trans (ofName?_of_namesSource hd hnamed)
      | some source =>
          refine forall_error_unless (isFair_of_maxWorkers hd) fun _ => ?_
          refine forall_error_unless (isFair_of_timeout hd) fun _ => ?_
          refine forall_error_unless (isFair_of_isEmpty hd) fun _ => ?_
          refine forall_error_bind (isFair_of_formatsOf hd) fun _ _ => ?_
          refine forall_error_bind (isFair_of_notBlank (s := .baseDir) hd.baseDir id)
            fun _ _ => ?_
          refine forall_error_bind (isFair_of_checkSource hd hsource) fun _ _ => ?_
          exact forall_error_pure _

end Checking

/-- **Settings are refused by name.**  A mapping is accepted just if nothing in it offends, and
what is said of one that is refused names something that offends, unless its time-out is a
whole number beyond the range of the binary format. -/
theorem blames_of_ofMapping (m : Mapping) :
    ((∃ config, Config.ofMapping m = .ok config) ↔ ∀ name, ¬ m.Offends name) ∧
    ∀ e, Config.ofMapping m = .error e →
      (e.kind = .wrongType ∨ e.kind = .wrongValue) ∧ (∃ name, m.Offends name ∧ e.Names name) ∨
      e = .numberTooLarge ∧ m.AsksTooLong := by
  have hfair : ∀ e, Config.ofMapping m = .error e → e.IsFair m :=
    forall_error_bind isFair_of_draft fun d hd => isFair_of_check (isOf_of_ofMapping hd)
  refine ⟨⟨?_, fun hclean => ?_⟩, fun e he => ?_⟩
  · rintro ⟨config, hconfig⟩
    obtain ⟨d, hd, hp⟩ := exists_draft_of_ofMapping hconfig
    exact not_offends_of_passes hd hp
  · cases hresult : Config.ofMapping m with
    | ok config => exact ⟨config, rfl⟩
    | error e =>
        rcases hfair e hresult with ⟨-, name, hoffends, -⟩ | ⟨-, hlong⟩
        · exact absurd hoffends (hclean name)
        · exact absurd hlong.offends (hclean _)
  · refine (hfair e he).imp_left fun ⟨hkind, hnamed⟩ => ⟨?_, hnamed⟩
    cases hk : e.kind with
    | wrongType => exact .inl rfl
    | wrongValue => exact .inr rfl
    | outOfRange => exact absurd hk hkind

/-- A list of forms whose second item is none, in settings that miss their site as well. -/
theorem blames_of_ofMapping_second_item :
    let m : Mapping :=
      [(.str "search", .map [(.str "source", .str " WIKI")]), (.str "log", .null),
        (.str "output", .map [(.str "formats", .list [.str "JSON", .bool true])])]
    let e : ConfigError := .wrongType "output.formats[1]" .string
    Config.ofMapping m = .error e ∧ e.message = "output.formats[1] must be a string" ∧
      (¬ ∃ config, Config.ofMapping m = .ok config) ∧ ∃ name, m.Offends name ∧ e.Names name := by
  intro m e
  have hrefused : Config.ofMapping m = .error e := by rfl
  obtain ⟨haccepted, hblames⟩ := blames_of_ofMapping m
  rcases hblames e hrefused with ⟨-, hnamed⟩ | ⟨hlarge, -⟩
  · refine ⟨hrefused, by decide, fun hok => ?_, hnamed⟩
    obtain ⟨name, hoffends, -⟩ := hnamed
    exact haccepted.mp hok name hoffends
  · nomatch hlarge

theorem not_names_numberTooLarge {m : Mapping} {name : String} (h : m.Offends name) :
    ¬ ConfigError.numberTooLarge.Names name := by
  have hsections : ∀ name ∈ Setting.sections, ¬ ConfigError.numberTooLarge.Names name := by
    unfold ConfigError.Names
    decide +kernel
  cases h with
  | missing => exact hsections _ (by decide)
  | noObject hname => exact hsections _ hname
  | @setting s =>
      unfold ConfigError.Names
      cases s <;> decide +kernel

/-- A time-out that is too large is refused as no fault of a value, and not by its name. -/
theorem large_timeout_is_not_named :
    let m : Mapping :=
      [(.str "search", .map []), (.str "wiki", .map [(.str "timeout", .int (Nat.pow 2 1024))])]
    Config.ofMapping m = .error .numberTooLarge ∧
      ConfigError.numberTooLarge.kind = .outOfRange ∧ m.Offends "wiki.timeout" ∧
      ∀ name, m.Offends name → ¬ ConfigError.numberTooLarge.Names name := by
  intro m
  have hlong : m.AsksTooLong := ⟨_, rfl, by decide +kernel⟩
  refine ⟨eq_error_of_errorOf? ?_, rfl, hlong.offends, fun _ => not_names_numberTooLarge⟩
  decide +kernel

end PageGrep
