import Foreman.Text.Utf8
import Mathlib.Tactic.IntervalCases

/-!
# Reading what was written in UTF-8

The bytes of a text are read as that text, and have no malformed part (`strict?_encode`). It is
enough to see this for one character in front of other bytes (`parts_char_append`), and a character
has one of four forms: a first byte that says how many follow, and those, which hold six bits each
(`continued_tail`).
-/

namespace Foreman.Text.Utf8

/-! ### The bytes of a text -/

theorem toList_loop (bs : ByteArray) (i : Nat) (r : List UInt8) :
    ByteArray.toList.loop bs i r = r.reverse ++ bs.data.toList.drop i := by
  fun_induction ByteArray.toList.loop bs i r with
  | case1 i r h ih =>
    have hi : i < bs.data.toList.length := h
    rw [ih, List.drop_eq_getElem_cons hi, List.reverse_cons, List.append_assoc]
    simp [ByteArray.get!, h]
  | case2 i r h =>
    rw [List.drop_eq_nil_of_le (Nat.not_lt.1 h), List.append_nil]

theorem encode_eq (s : String) : encode s = s.toList.flatMap String.utf8EncodeChar := by
  rw [encode, ByteArray.toList, toList_loop, String.toUTF8, ← String.utf8Encode_toList]
  exact List.toList_data_toByteArray

theorem encode_ne_nil {s : String} (h : s ≠ "") : encode s ≠ [] := by
  obtain ⟨c, cs, hcs⟩ := List.exists_cons_of_ne_nil (mt String.toList_eq_nil_iff.1 h)
  rw [encode_eq, hcs, List.flatMap_cons]
  exact List.append_ne_nil_of_left_ne_nil String.utf8EncodeChar_ne_nil _

/-- The bytes of ASCII characters are these characters. -/
theorem encode_ofList_of_ascii {cs : List Char} (h : ∀ c ∈ cs, c.toNat < 128) :
    encode (.ofList cs) = cs.map Char.toUInt8 := by
  rw [encode_eq, String.toList_ofList]
  induction cs with
  | nil => rfl
  | cons c cs ih =>
    obtain ⟨hc, hcs⟩ := List.forall_mem_cons.1 h
    have hone : String.utf8EncodeChar c = [c.toUInt8] := if_pos (Nat.le_of_lt_succ hc)
    rw [List.flatMap_cons, hone, ih hcs, List.singleton_append, List.map_cons]

/-! ### The bytes of a character -/

variable {b : UInt8} {bs : List UInt8} {count low high bits n : Nat}

theorem parts_cons (h : lead? b.toNat = some ⟨bits, count, low, high⟩) :
    parts (b :: bs) =
      (continued count low high bits bs).1.map Char.ofNat ::
        parts (continued count low high bits bs).2 := by
  rw [parts, h]

/-- A byte that continues a character adds six bits. -/
theorem continued_tail (hlow : low ≤ n % 64 + 128) (hhigh : n % 64 + 128 ≤ high) :
    continued (count + 1) low high bits (UInt8.ofNat (n % 64 + 128) :: bs) =
      continued count 0x80 0xBF (bits * 64 + n % 64) bs := by
  have hbyte : (UInt8.ofNat (n % 64 + 128)).toNat = n % 64 + 128 :=
    UInt8.toNat_ofNat_of_lt' (show _ < 256 by omega)
  have hbits : (n % 64 + 128) % 64 = n % 64 := by omega
  rw [continued, hbyte, hbits, if_pos (by simp [hlow, hhigh])]

theorem lead?_two (hlow : 2 ≤ n) (hhigh : n < 32) :
    lead? (n + 192) = some ⟨n, 1, 0x80, 0xBF⟩ := by
  interval_cases n <;> rfl

theorem lead?_three (h : n < 16) :
    lead? (n + 224) =
      some ⟨n, 2, if n = 0 then 0xA0 else 0x80, if n = 13 then 0x9F else 0xBF⟩ := by
  interval_cases n <;> rfl

theorem lead?_four (h : n < 5) :
    lead? (n + 240) =
      some ⟨n, 3, if n = 0 then 0x90 else 0x80, if n = 4 then 0x8F else 0xBF⟩ := by
  interval_cases n <;> rfl

/-- **A character in front of other bytes** is read as a part of its own. -/
theorem parts_char_append (c : Char) (bs : List UInt8) :
    parts (String.utf8EncodeChar c ++ bs) = some c :: parts bs := by
  have hvalid : c.val.toNat < 0xD800 ∨ 0xDFFF < c.val.toNat ∧ c.val.toNat < 0x110000 := c.valid
  have hc : Char.ofNat c.val.toNat = c := c.ofNat_toNat
  generalize hn : c.val.toNat = n at hvalid hc
  simp only [String.utf8EncodeChar, hn]
  split_ifs with hone htwo hthree
  · have hbyte : (UInt8.ofNat n).toNat = n :=
      UInt8.toNat_ofNat_of_lt' (show _ < 256 by omega)
    have hlead : lead? (UInt8.ofNat n).toNat = some ⟨n, 0, 0, 0⟩ := by
      rw [hbyte, lead?, if_pos (by omega)]
    rw [List.singleton_append, parts_cons hlead]
    simp only [continued, Option.map_some, hc]
  · have hbyte : (UInt8.ofNat (n / 64 % 32 + 192)).toNat = n / 64 % 32 + 192 :=
      UInt8.toNat_ofNat_of_lt' (show _ < 256 by omega)
    have hvalue : n / 64 % 32 * 64 + n % 64 = n := by omega
    rw [List.cons_append, List.singleton_append,
      parts_cons (hbyte ▸ lead?_two (by omega) (by omega)), continued_tail (by omega) (by omega)]
    simp only [continued, Option.map_some, hvalue, hc]
  · have hbyte : (UInt8.ofNat (n / 4096 % 16 + 224)).toNat = n / 4096 % 16 + 224 :=
      UInt8.toNat_ofNat_of_lt' (show _ < 256 by omega)
    have hvalue : (n / 4096 % 16 * 64 + n / 64 % 64) * 64 + n % 64 = n := by omega
    rw [List.cons_append, List.cons_append, List.singleton_append,
      parts_cons (hbyte ▸ lead?_three (by omega)),
      continued_tail (by split_ifs <;> omega) (by split_ifs <;> omega),
      continued_tail (by omega) (by omega)]
    simp only [continued, Option.map_some, hvalue, hc]
  · have hbyte : (UInt8.ofNat (n / 262144 % 8 + 240)).toNat = n / 262144 % 8 + 240 :=
      UInt8.toNat_ofNat_of_lt' (show _ < 256 by omega)
    have hvalue :
        ((n / 262144 % 8 * 64 + n / 4096 % 64) * 64 + n / 64 % 64) * 64 + n % 64 = n := by omega
    rw [List.cons_append, List.cons_append, List.cons_append, List.singleton_append,
      parts_cons (hbyte ▸ lead?_four (by omega)),
      continued_tail (by split_ifs <;> omega) (by split_ifs <;> omega),
      continued_tail (by omega) (by omega), continued_tail (by omega) (by omega)]
    simp only [continued, Option.map_some, hvalue, hc]

theorem parts_flatMap (cs : List Char) :
    parts (cs.flatMap String.utf8EncodeChar) = cs.map some := by
  induction cs with
  | nil => rw [List.flatMap_nil, parts, List.map_nil]
  | cons c cs ih => rw [List.flatMap_cons, parts_char_append, ih, List.map_cons]

/-- **What was written is read.** -/
theorem strict?_encode (s : String) : strict? (encode s) = some s := by
  have hall : (s.toList.map some).mapM id = some s.toList := by
    rw [List.mapM_map]
    simpa using List.mapM_pure (m := Option) (l := s.toList) (f := id)
  rw [strict?, encode_eq, parts_flatMap, hall, Option.map_some, String.ofList_toList]

end Foreman.Text.Utf8
