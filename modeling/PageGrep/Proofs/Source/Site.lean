/-
# Sites of accepted settings

The check of the settings asks for a site that is not blank and for a time-out that does not
compare at or below zero.  What is made of the two afterwards is not always of use: the slashes
at the end of a site do not count, so one of nothing but slashes has no host; a site may begin
with the mark of a scheme, or have a slash where its host should be; and not-a-number compares
neither below nor above zero.  There is no other exception (`usable_iff_of_isLoaded`), but a file
with a slash and not-a-number is accepted (`slash_and_nan_are_loaded`).

An address is cut at the first mark of a scheme (`Site.cut?`).
-/
import Mathlib.Data.List.TakeWhile
import PageGrep.Command.Setup
import PageGrep.Proofs.Config.Loaded

namespace PageGrep

def Binary64.IsAboveZero : Binary64 → Prop
  | nan => False
  | infinite negative => negative = false
  | finite negative mantissa _ => negative = false ∧ mantissa ≠ 0

/-- Of the numbers that do not compare at or below zero, not-a-number alone is not above. -/
theorem Binary64.isAboveZero_iff {x : Binary64} (h : x.atMostZero = false) :
    x.IsAboveZero ↔ x ≠ nan := by
  cases x with
  | nan => exact iff_of_false id fun hne => hne rfl
  | infinite negative => exact iff_of_true h nofun
  | finite negative mantissa exponent =>
      obtain ⟨hsign, hzero⟩ := Bool.or_eq_false_iff.mp h
      exact iff_of_true ⟨hsign, ne_of_beq_false hzero⟩ nofun

namespace Site

/-! ## What a site must be -/

/-- An address before and after the first mark of a scheme. -/
def cut? : List Char → Option (List Char × List Char)
  | [] => none
  | c :: cs =>
    if mark.toList.isPrefixOf (c :: cs) then some ([], (c :: cs).drop mark.toList.length)
    else (cut? cs).map fun (scheme, rest) => (c :: scheme, rest)

/-- The origin is a scheme, its mark, and something that does not begin with a slash. -/
def IsUsable (site : Site) : Prop :=
  ∃ scheme rest, cut? site.origin.toList = some (scheme, rest) ∧
    scheme ≠ [] ∧ rest ≠ [] ∧ rest.head? ≠ some '/'

/-- The address in a text, which may lack a scheme. -/
def addressIn (text : String) : List Char := (Text.trimRightOf '/' (Text.trim text)).toList

/-- The address in a text from its host on. -/
def hostIn (text : String) : List Char :=
  match cut? (addressIn text) with
  | some (_, rest) => rest
  | none => addressIn text

/-- What keeps a text from naming a site of use: it is all slashes, a mark stands in it without a
scheme in front, or a slash stands where the host should. -/
inductive IsFlawed (text : String) : Prop
  | slashes : (∀ c ∈ (Text.trim text).toList, c = '/') → IsFlawed text
  | noScheme : mark.toList <+: addressIn text → IsFlawed text
  | noHost : (hostIn text).head? = some '/' → IsFlawed text

/-! ## Addresses that are cut -/

variable {cs scheme rest : List Char} {text : String}

theorem isSome_cut? (cs : List Char) : (cut? cs).isSome = hasScheme cs := by
  induction cs with
  | nil => rfl
  | cons c cs ih =>
      rw [cut?, hasScheme]
      split
      · rename_i hmark
        rw [hmark]
        rfl
      · rename_i hmark
        rw [Option.isSome_map, ih, Bool.eq_false_iff.mpr hmark, Bool.false_or]

theorem eq_append_of_cut? (h : cut? cs = some (scheme, rest)) :
    cs = scheme ++ mark.toList ++ rest := by
  induction cs generalizing scheme with
  | nil => nomatch h
  | cons c cs ih =>
      rw [cut?] at h
      split at h
      · rename_i hmark
        obtain ⟨after, hafter⟩ := List.isPrefixOf_iff_prefix.mp hmark
        cases h
        rw [← hafter, List.drop_left, List.nil_append]
      · obtain ⟨⟨before, after⟩, hcut, heq⟩ := Option.map_eq_some_iff.mp h
        cases heq
        rw [ih hcut, List.cons_append, List.cons_append]

/-- The scheme of an address that is cut is empty just if the address begins with the mark. -/
theorem eq_nil_iff_of_cut? (h : cut? cs = some (scheme, rest)) :
    scheme = [] ↔ mark.toList <+: cs := by
  cases cs with
  | nil => nomatch h
  | cons c cs =>
      rw [← List.isPrefixOf_iff_prefix]
      rw [cut?] at h
      split at h
      · rename_i hmark
        cases h
        exact iff_of_true rfl hmark
      · rename_i hmark
        obtain ⟨⟨before, after⟩, -, heq⟩ := Option.map_eq_some_iff.mp h
        cases heq
        exact iff_of_false nofun hmark

theorem hasScheme_of_prefix (h : mark.toList <+: cs) : hasScheme cs = true := by
  cases cs with
  | nil => exact absurd h (by decide)
  | cons c cs => rw [hasScheme, List.isPrefixOf_iff_prefix.mpr h, Bool.true_or]

theorem cut?_http (cs : List Char) :
    cut? ("http".toList ++ mark.toList ++ cs) = some ("http".toList, cs) := by
  have hscheme : "http".toList = ['h', 't', 't', 'p'] := by decide
  have hmark : mark.toList = [':', '/', '/'] := by decide
  simp [cut?, hscheme, hmark]

/-! ## Addresses in texts -/

theorem getLast?_addressIn (text : String) : (addressIn text).getLast? ≠ some '/' := by
  rw [addressIn, Text.trimRightOf, String.toList_ofList, Text.Trim.dropRight,
    List.getLast?_reverse]
  generalize (Text.trim text).toList.reverse = cs
  intro h
  have hdropped := List.head?_dropWhile_not (· == '/') cs
  rw [h] at hdropped
  exact absurd hdropped (by decide)

theorem addressIn_eq_nil_iff : addressIn text = [] ↔ ∀ c ∈ (Text.trim text).toList, c = '/' := by
  simp [addressIn, Text.trimRightOf, Text.Trim.dropRight, List.dropWhile_eq_nil_iff]

theorem ne_nil_of_cut?_addressIn (h : cut? (addressIn text) = some (scheme, rest)) :
    rest ≠ [] := by
  rintro rfl
  refine getLast?_addressIn text ?_
  rw [eq_append_of_cut? h, List.append_nil, List.getLast?_append]
  rfl

/-- There is nothing from the host on just if there is nothing at all. -/
theorem hostIn_eq_nil_iff : hostIn text = [] ↔ ∀ c ∈ (Text.trim text).toList, c = '/' := by
  rw [← addressIn_eq_nil_iff, hostIn]
  split
  · rename_i scheme rest hcut
    refine iff_of_false (ne_nil_of_cut?_addressIn hcut) ?_
    intro hnil
    rw [hnil] at hcut
    nomatch hcut
  · rfl

theorem exists_cut?_ofText (text : String) :
    ∃ scheme, cut? (ofText text).origin.toList = some (scheme, hostIn text) ∧
      (scheme = [] ↔ mark.toList <+: addressIn text) := by
  have horigin : (ofText text).origin.toList
      = if hasScheme (addressIn text) then addressIn text
        else "http".toList ++ mark.toList ++ addressIn text := by
    rw [ofText, addressIn]
    dsimp only
    split
    · rfl
    · rw [String.toList_append, String.toList_append]
  rw [horigin, ← isSome_cut?, hostIn]
  cases hcut : cut? (addressIn text) with
  | some parts => exact ⟨parts.1, hcut, eq_nil_iff_of_cut? hcut⟩
  | none =>
      refine ⟨"http".toList, cut?_http (addressIn text), iff_of_false (by decide) ?_⟩
      intro hprefix
      have hmark := hasScheme_of_prefix hprefix
      rw [← isSome_cut?, hcut] at hmark
      nomatch hmark

/-- **A text names a site of use just if it has no flaw.** -/
theorem isUsable_ofText_iff (text : String) : (ofText text).IsUsable ↔ ¬ IsFlawed text := by
  obtain ⟨scheme, hcut, hscheme⟩ := exists_cut?_ofText text
  rw [IsUsable, hcut]
  constructor
  · rintro ⟨_, _, heq, hname, hsome, hslash⟩ hflaw
    cases heq
    cases hflaw with
    | slashes hall => exact hsome (hostIn_eq_nil_iff.mpr hall)
    | noScheme hprefix => exact hname (hscheme.mpr hprefix)
    | noHost hhead => exact hslash hhead
  · intro hflaw
    refine ⟨scheme, hostIn text, rfl, ?_, ?_, ?_⟩
    · exact fun hnil => hflaw (.noScheme (hscheme.mp hnil))
    · exact fun hnil => hflaw (.slashes (hostIn_eq_nil_iff.mp hnil))
    · exact fun hhead => hflaw (.noHost hhead)

end Site

/-! ## Sites of settings -/

/-- **What accepted settings make of a site and a time-out.**  Settings that name the source at a
site have a text for it that is not blank.  The site that is made of it is of use just if the
text has no flaw, and the time-out is above zero just if it is a number. -/
theorem usable_iff_of_isLoaded {config : Config} (h : config.IsLoaded)
    (hsource : config.search.source = .wiki) :
    ∃ text, config.sources.site = some text ∧ Text.isBlankText text = false ∧
      config.store config.search.source = .site (Site.ofText text) config.sources.timeout ∧
      ((Site.ofText text).IsUsable ↔ ¬ Site.IsFlawed text) ∧
      (config.sources.timeout.IsAboveZero ↔ config.sources.timeout ≠ .nan) := by
  obtain ⟨d, hpasses⟩ := h.exists_draft
  have hneeds := hpasses.needs
  have htimeout := hpasses.timeout
  rw [hsource] at hneeds
  have hfilled : Text.isBlankText (d.site.getD "") = false := isBlankText_of_checkSource hneeds
  obtain ⟨text, hsite⟩ : ∃ text, d.site = some text := by
    cases hnone : d.site with
    | some text => exact ⟨text, rfl⟩
    | none =>
        rw [hnone] at hfilled
        exact absurd hfilled (by decide)
  rw [hsource, Config.store, hpasses.sources, hsite]
  rw [hsite] at hfilled
  exact ⟨text, rfl, hfilled, rfl, Site.isUsable_ofText_iff text, Binary64.isAboveZero_iff htimeout⟩

/-- The site has blanks around it, a scheme, and slashes too many. -/
theorem usable_iff_of_isLoaded_trimmed :
    let m : Mapping := [(.str "search", .map []),
      (.str "wiki", .map
        [(.str "site", .str " https://fed.wiki.org//\n"), (.str "timeout", .int 5)])]
    ∃ config timeout, Config.ofMapping m = .ok config ∧ config.search.source = .wiki ∧
      config.store config.search.source = .site ⟨"https://fed.wiki.org"⟩ timeout ∧
      Site.IsUsable ⟨"https://fed.wiki.org"⟩ ∧ timeout.IsAboveZero := by
  intro m
  obtain ⟨config, hconfig, hview⟩ : ∃ config, Config.ofMapping m = .ok config ∧
      (config.search.source, config.sources.site, config.sources.timeout == .nan)
        = (SourceName.wiki, some " https://fed.wiki.org//\n", false) :=
    exists_of_toOption_map (by decide +kernel)
  obtain ⟨hsource, hview⟩ := Prod.mk.inj hview
  obtain ⟨hsite, hnumber⟩ := Prod.mk.inj hview
  obtain ⟨text, htext, -, hstore, husable, habove⟩ :=
    usable_iff_of_isLoaded (.ofMapping hconfig) hsource
  obtain rfl : text = " https://fed.wiki.org//\n" := Option.some.inj (htext.symm.trans hsite)
  have hname : Site.ofText " https://fed.wiki.org//\n" = ⟨"https://fed.wiki.org"⟩ := by
    decide +kernel
  rw [hname] at hstore husable
  refine ⟨config, config.sources.timeout, hconfig, hsource, hstore, husable.mpr ?_,
    habove.mpr (ne_of_beq_false hnumber)⟩
  intro hflaw
  cases hflaw with
  | slashes hall => exact absurd (hall 'h' (by decide +kernel)) (by decide)
  | noScheme hprefix => exact absurd hprefix (by decide +kernel)
  | noHost hhead => exact absurd hhead (by decide +kernel)

/-- A file whose site is a slash and whose time-out is not a number is accepted. -/
theorem slash_and_nan_are_loaded :
    let text := "search: \x7bsource: wiki\x7d\nwiki: \x7bsite: /, timeout: .nan\x7d\n"
    let files : Files := ⟨[], [(["c.yml"], .octets text.toUTF8.toList)]⟩
    ∃ config, Config.load files ⟨0, ["c.yml"]⟩ = .ok config ∧ config.search.source = .wiki ∧
      config.store config.search.source = .site ⟨"http://"⟩ .nan ∧
      ¬ Site.IsUsable ⟨"http://"⟩ ∧ ¬ Binary64.nan.IsAboveZero := by
  intro text files
  obtain ⟨config, hconfig, hview⟩ : ∃ config, Config.load files ⟨0, ["c.yml"]⟩ = .ok config ∧
      (config.search.source, config.store config.search.source)
        = (SourceName.wiki, Store.site ⟨"http://"⟩ .nan) :=
    exists_of_toOption_map (by decide +kernel)
  obtain ⟨hsource, hstore⟩ := Prod.mk.inj hview
  refine ⟨config, hconfig, hsource, hstore, ?_, id⟩
  rintro ⟨scheme, rest, hcut, -, hsome, -⟩
  have hslash : Site.cut? "http://".toList = some ("http".toList, []) := by decide +kernel
  rw [hslash] at hcut
  cases hcut
  exact hsome rfl

end PageGrep
