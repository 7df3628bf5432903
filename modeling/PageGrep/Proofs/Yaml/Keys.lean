/-
# Keys in a settings text

In a value that a settings text states no name stands twice among the keys of a mapping, at any
level (`isClear_value_of_ofText`): of pairs with one key only one is kept.  This is known of the
places of the keys when all nodes are valued (`Valuation.IsSound`), and writing the nodes out, level
by level, writes each key as the value that it is worth.
-/
import PageGrep.Proofs.Yaml.Valuing

namespace PageGrep.Yaml

/-- What each node is worth: scalars no mapping, and mappings have keys. -/
structure HasKeys (worths : Array Worth) : Prop where
  scalar : ∀ (place : Nat) (v : Value) (single : Bool),
    worths[place]? = some (.plain v single) → v.isMapping = false
  keyed : ∀ (place : Nat) (pairs : List (Nat × Nat)), worths[place]? = some (.map pairs) →
    IsKeyed (worths[·]?) (pairs.map Prod.fst)

namespace Valuation

variable {s : Valuation} {place : Nat} {w : Worth}

theorem getElem?_settled_of_worth? (h : s.worth? place = some w) : s.settled[place]? = some w := by
  rw [worth?, Array.getD_eq_getD_getElem?] at h
  cases hat : s.worths[place]? with
  | none =>
      rw [hat] at h
      cases h
  | some w? =>
      obtain rfl : w? = some w := by rwa [hat] at h
      rw [settled, Array.getElem?_map, hat]
      rfl

theorem worth?_of_getElem?_settled (h : s.settled[place]? = some w) :
    s.worth? place = some w ∨ w = .plain .null false := by
  rw [settled, Array.getElem?_map] at h
  obtain ⟨w?, hat, rfl⟩ := Option.map_eq_some_iff.mp h
  cases w? with
  | none => exact .inr rfl
  | some w =>
      refine .inl ?_
      rw [worth?, Array.getD_eq_getD_getElem?, hat]
      rfl

end Valuation

theorem hasKeys_of_worths {g : Graph} {worths : Array Worth} (h : g.worths = .ok worths) :
    HasKeys worths := by
  obtain ⟨s, hs, rfl⟩ := isSound_of_worths h
  constructor
  · intro place v single hv
    rcases Valuation.worth?_of_getElem?_settled hv with hv | hnull
    · exact (hs.scalar place v single hv).1
    · cases hnull
      rfl
  · intro place pairs hpairs
    rcases Valuation.worth?_of_getElem?_settled hpairs with hpairs | hnull
    · exact (hs.keyed place pairs hpairs).mono fun _ _ _ hv =>
        Valuation.getElem?_settled_of_worth? hv
    · cases hnull

/-! ## Writing out -/

/-- What is written so far of the nodes: of scalars all, and of the others what has no name
twice. -/
structure IsWritten (worths : Array Worth) (written : Array Written) : Prop where
  plain : ∀ (place : Nat) (v : Value) (single : Bool), worths[place]? = some (.plain v single) →
    written[place]? = some ⟨v, true⟩
  clear : ∀ (place : Nat) (part : Written), written[place]? = some part → part.value.IsClear

variable {worths : Array Worth} {written : Array Written}

theorem isWritten_outline (hkeys : HasKeys worths) :
    IsWritten worths (worths.map Worth.outline) := by
  constructor
  · intro place v single hv
    rw [Array.getElem?_map, hv]
    rfl
  · intro place part hpart
    rw [Array.getElem?_map] at hpart
    obtain ⟨w, hw, rfl⟩ := Option.map_eq_some_iff.mp hpart
    cases w with
    | plain v single => exact Value.isClear_of_not_mapping (hkeys.scalar place v single hw)
    | map _ => exact .intro List.nodup_nil nofun
    | _ => trivial

theorem isClear_write_map (hwritten : IsWritten worths written) {pairs : List (Nat × Nat)}
    (hpairs : IsKeyed (worths[·]?) (pairs.map Prod.fst)) :
    (Worth.write written (.map pairs)).value.IsClear := by
  have hpart (place : Nat) : (written.getD place ⟨.null, true⟩).value.IsClear := by
    rw [Array.getD_eq_getD_getElem?]
    cases hat : written[place]? with
    | none => trivial
    | some part => exact hwritten.clear place part hat
  refine .intro ?_ fun key inner hmem => ?_
  · rw [Mapping.names, List.filterMap_map]
    have hsame : pairs.filterMap (fun pair => (written.getD pair.1 ⟨.null, true⟩).value.name?)
        = (pairs.map Prod.fst).filterMap (nameAt? (worths[·]?)) := by
      rw [List.filterMap_map]
      refine List.filterMap_congr fun pair hpair => ?_
      obtain ⟨v, single, hv⟩ := hpairs.plain _ (List.mem_map_of_mem hpair)
      rw [Function.comp_apply, nameAt?, hv, Array.getD_eq_getD_getElem?,
        hwritten.plain _ _ _ hv]
      rfl
    exact hsame ▸ hpairs.nodup
  · obtain ⟨⟨a, b⟩, -, hpair⟩ := List.mem_map.mp hmem
    have hinner := hpart b
    rw [(Prod.mk.inj hpair).2] at hinner
    exact hinner

theorem isWritten_write (hkeys : HasKeys worths) (hwritten : IsWritten worths written) :
    IsWritten worths (worths.map (Worth.write written)) := by
  constructor
  · intro place v single hv
    rw [Array.getElem?_map, hv]
    rfl
  · intro place part hpart
    rw [Array.getElem?_map] at hpart
    obtain ⟨w, hw, rfl⟩ := Option.map_eq_some_iff.mp hpart
    cases w with
    | plain v single => exact Value.isClear_of_not_mapping (hkeys.scalar place v single hw)
    | map pairs => exact isClear_write_map hwritten (hkeys.keyed place pairs hw)
    | _ => trivial

theorem isClear_writeOut (hkeys : HasKeys worths) (hwritten : IsWritten worths written)
    (root rounds : Nat) : (writeOut worths root rounds written).IsClear := by
  induction rounds generalizing written with
  | zero =>
      rw [writeOut, Array.getD_eq_getD_getElem?]
      cases hat : written[root]? with
      | none => trivial
      | some part => exact hwritten.clear root part hat
  | succ rounds ih =>
      rw [writeOut]
      split
      · rename_i value hat
        exact hwritten.clear root _ hat
      · exact ih (isWritten_write hkeys hwritten)

theorem isClear_value {d : Document} (hkeys : HasKeys d.worths) : d.value.IsClear :=
  isClear_writeOut hkeys (isWritten_outline hkeys) _ _

theorem isClear_value_of_ofText {text : String} {d : Document} (h : Document.ofText text = .ok d) :
    d.value.IsClear := by
  obtain ⟨found, -, h⟩ := bind_eq_ok_iff.mp h
  cases found with
  | none =>
      cases h
      exact isClear_value ⟨nofun, nofun⟩
  | some g =>
      obtain ⟨worths, hworths, h⟩ := bind_eq_ok_iff.mp h
      cases h
      exact isClear_value (hasKeys_of_worths hworths)

end PageGrep.Yaml
