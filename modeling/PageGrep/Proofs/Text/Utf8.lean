/-
# Octets read back

The octets of a text spell that text (`decode_encode`): what a character is written as is
read back by its first octet, which tells how many follow, and by those that follow
(`exists_lead`).  A file whose octets were written holds the text as it was written, but for
line ends, and as it was if no carriage return is in it (`readText_encode`).
-/
import PageGrep.Text.Utf8

namespace PageGrep.Text.Utf8

/-! ## Octets of a text -/

theorem toList_loop (bytes : ByteArray) (i : Nat) (so : List UInt8) :
    ByteArray.toList.loop bytes i so = so.reverse ++ bytes.data.toList.drop i := by
  rw [ByteArray.toList.loop]
  split
  · rename_i hi
    have hi' : i < bytes.data.toList.length := by simpa using hi
    have hget : bytes.get! i = bytes.data.toList[i] := getElem!_pos bytes.data i hi
    rw [toList_loop bytes (i + 1), List.reverse_cons, List.append_assoc, hget,
      List.singleton_append, List.getElem_cons_drop]
  · rename_i hi
    have hend : bytes.data.toList.length ≤ i := by simpa using hi
    rw [List.drop_eq_nil_of_le hend, List.append_nil]
termination_by bytes.size - i

theorem encode_eq (s : String) : encode s = s.toList.flatMap String.utf8EncodeChar := by
  have hoctets : s.toUTF8 = (s.toList.flatMap String.utf8EncodeChar).toByteArray :=
    String.utf8Encode_toList.symm
  rw [encode, hoctets, ByteArray.toList, toList_loop, List.data_toByteArray]
  rfl

/-! ## One character -/

theorem toNat_ofNat_of_lt {n : Nat} (h : n < 256) : (UInt8.ofNat n).toNat = n := by
  simpa using h

theorem readTails_octet {low high code read n x : Nat} {rest : List UInt8}
    (hlow : low ≤ x % 64 + 128) (hhigh : x % 64 + 128 ≤ high) :
    readTails low high code read (n + 1) (UInt8.ofNat (x % 64 + 128) :: rest)
      = readTails 0x80 0xBF (code * 64 + x % 64) (read + 1) n rest := by
  have hoctet : (UInt8.ofNat (x % 64 + 128)).toNat = x % 64 + 128 :=
    toNat_ofNat_of_lt (by omega)
  have hrange : (low ≤ x % 64 + 128 && x % 64 + 128 ≤ high) = true := by simp [hlow, hhigh]
  rw [readTails, hoctet, if_pos hrange, Nat.add_sub_cancel]

/-- What a character is written as starts with an octet that tells what follows. -/
theorem exists_lead (c : Char) (rest : List UInt8) :
    ∃ a tails l, String.utf8EncodeChar c = a :: tails ∧ lead? a.toNat = some l ∧
      readTails l.low l.high l.bits 1 l.tails (tails ++ rest) = .ok (c.toNat, rest) := by
  have hvalid : c.toNat < 0xD800 ∨ 0xDFFF < c.toNat ∧ c.toNat < 0x110000 := c.valid
  have hcode : c.val.toNat = c.toNat := rfl
  rw [String.utf8EncodeChar, hcode]
  generalize c.toNat = v at hvalid ⊢
  have hend (code : Nat) (heq : code = v) (read : Nat) :
      readTails 0x80 0xBF code read 0 rest = .ok (v, rest) := by rw [heq, readTails]
  split
  · refine ⟨_, [], ⟨0, 0x80, 0xBF, v⟩, rfl, ?_, hend v rfl 1⟩
    rw [toNat_ofNat_of_lt (by omega), lead?, if_pos (by omega)]
  split
  · refine ⟨_, _, ⟨1, 0x80, 0xBF, v / 64 % 32⟩, rfl, ?_, ?_⟩
    · rw [toNat_ofNat_of_lt (by omega), lead?, if_neg (by omega), if_neg (by omega),
        if_pos (by omega), Nat.add_sub_cancel]
    · dsimp only
      rw [List.singleton_append, readTails_octet (by omega) (by omega)]
      exact hend _ (by omega) _
  -- From here on the range of the second octet rules out overlong forms and surrogates.
  split
  · let a := v / 4096 % 16 + 224
    refine ⟨_, _, ⟨2, if a == 0xE0 then 0xA0 else 0x80, if a == 0xED then 0x9F else 0xBF,
      v / 4096 % 16⟩, rfl, ?_, ?_⟩
    · rw [toNat_ofNat_of_lt (by omega), lead?, if_neg (by omega), if_neg (by omega),
        if_neg (by omega), if_pos (by omega), Nat.add_sub_cancel]
    · have hlow : (if a == 0xE0 then 0xA0 else 0x80) ≤ v / 64 % 64 + 128 := by
        split <;> simp only [beq_iff_eq, a] at * <;> omega
      have hhigh : v / 64 % 64 + 128 ≤ if a == 0xED then 0x9F else 0xBF := by
        split <;> simp only [beq_iff_eq, a] at * <;> omega
      dsimp only
      rw [List.cons_append, List.singleton_append, readTails_octet hlow hhigh,
        readTails_octet (by omega) (by omega)]
      exact hend _ (by omega) _
  · let a := v / 262144 % 8 + 240
    refine ⟨_, _, ⟨3, if a == 0xF0 then 0x90 else 0x80, if a == 0xF4 then 0x8F else 0xBF,
      v / 262144 % 8⟩, rfl, ?_, ?_⟩
    · rw [toNat_ofNat_of_lt (by omega), lead?, if_neg (by omega), if_neg (by omega),
        if_neg (by omega), if_neg (by omega), if_pos (by omega), Nat.add_sub_cancel]
    · have hlow : (if a == 0xF0 then 0x90 else 0x80) ≤ v / 4096 % 64 + 128 := by
        split <;> simp only [beq_iff_eq, a] at * <;> omega
      have hhigh : v / 4096 % 64 + 128 ≤ if a == 0xF4 then 0x8F else 0xBF := by
        split <;> simp only [beq_iff_eq, a] at * <;> omega
      dsimp only
      rw [List.cons_append, List.cons_append, List.singleton_append, readTails_octet hlow hhigh,
        readTails_octet (by omega) (by omega), readTails_octet (by omega) (by omega)]
      exact hend _ (by omega) _

/-! ## Texts -/

theorem decodeFrom_flatMap (cs : List Char) (position : Nat) {fuel : Nat}
    (h : (cs.flatMap String.utf8EncodeChar).length ≤ fuel) :
    decodeFrom position fuel (cs.flatMap String.utf8EncodeChar) = .ok cs := by
  induction cs generalizing position fuel with
  | nil => cases fuel <;> rfl
  | cons c cs ih =>
      obtain ⟨a, tails, l, hchar, hlead, hread⟩ :=
        exists_lead c (cs.flatMap String.utf8EncodeChar)
      have hback : Char.ofNat c.toNat = c := Char.ofNat_toNat c
      rw [List.flatMap_cons, hchar, List.cons_append] at h ⊢
      rw [List.length_cons, List.length_append] at h
      obtain ⟨fuel, rfl⟩ : ∃ n, fuel = n + 1 := ⟨fuel - 1, by omega⟩
      simp only [decodeFrom, hlead, hread, ih _ (show _ ≤ fuel by omega), hback]

theorem decode_encode (s : String) : decode (encode s) = .ok s := by
  rw [decode, encode_eq, decodeFrom_flatMap s.toList 0 (Nat.le_refl _)]
  exact congrArg Except.ok String.ofList_toList

end PageGrep.Text.Utf8

namespace PageGrep.Text

theorem plainLines_of_not_mem {cs : List Char} (h : '\r' ∉ cs) : plainLines cs = cs := by
  induction cs with
  | nil => rfl
  | cons c cs ih =>
      obtain ⟨hc, hcs⟩ := not_or.mp (mt List.mem_cons.mpr h)
      have hreturn : ∀ rest, c = '\r' → cs = '\n' :: rest → False := fun _ heq _ => hc heq.symm
      have hkept : ¬ (c == '\r') = true := by simpa using Ne.symm hc
      rw [plainLines.eq_3 c cs hreturn, if_neg hkept, ih hcs]

theorem readText_encode {s : String} (h : '\r' ∉ s.toList) :
    readText (Utf8.encode s) = .ok s := by
  rw [readText, Utf8.decode_encode, Except.map, plainLines_of_not_mem h, String.ofList_toList]

end PageGrep.Text
