import Foreman.Proofs.Text.Utf8
import Foreman.Text.Percent

/-!
# Segments of a path

A text is put into a path byte by byte: a byte that stands for one of the characters that need no
escape is written as that character or as an escape, and every other byte as an escape, in digits of
either case. So there are many ways to spell a text (`Spells`), and all of them are read alike
(`decodePath?_of_spells`). One that always exists is to escape everything (`spells_escaped`).

No spelling has a slash in it, so a path is cut between its segments and nowhere else.
-/

namespace Foreman.Text

/-! ### Characters -/

variable {c x y : Char} {b : UInt8} {n : Nat}

/-- A character of ASCII is known by its byte. -/
theorem ofNat_toNat_toUInt8 (h : c.toNat < 128) : Char.ofNat c.toUInt8.toNat = c := by
  have hlt : c.val.toNat < 256 := Nat.lt_trans h (by decide)
  have hbyte : c.toUInt8.toNat = c.toNat := UInt8.toNat_ofNat_of_lt' hlt
  rw [hbyte, Char.ofNat_toNat]

theorem toNat_lt_of_hexValue? (h : hexValue? c = some n) : c.toNat < 128 := by
  have hc : c.toNat = c.val.toNat := rfl
  simp only [hexValue?] at h
  split_ifs at h with hdigit hsmall hlarge
  · have h9 : '9'.val.toNat = 57 := rfl
    simp only [Char.isDigit, Bool.and_eq_true, decide_eq_true_eq, UInt32.le_iff_toNat_le] at hdigit
    omega
  · have hf : 'f'.val.toNat = 102 := rfl
    simp only [Bool.and_eq_true, decide_eq_true_eq, Char.le_def, UInt32.le_iff_toNat_le] at hsmall
    omega
  · have hF : 'F'.val.toNat = 70 := rfl
    simp only [Bool.and_eq_true, decide_eq_true_eq, Char.le_def, UInt32.le_iff_toNat_le] at hlarge
    omega

/-- Two digits of base sixteen. -/
theorem hexNumber?_pair {i j : Nat} (hx : hexValue? x = some i) (hy : hexValue? y = some j) :
    hexNumber? [x, y] = some (i * 16 + j) := by
  simp [hexNumber?, hx, hy]

theorem exists_hexValue?_of_hexNumber? (h : hexNumber? [x, y] = some n) :
    (∃ i, hexValue? x = some i) ∧ ∃ j, hexValue? y = some j := by
  simp only [hexNumber?, List.mapM_cons, List.mapM_nil, Option.map_eq_some_iff,
    Option.bind_eq_bind, Option.bind_eq_some_iff] at h
  obtain ⟨_, ⟨i, hi, _, ⟨j, hj, -⟩, -⟩, -⟩ := h
  exact ⟨⟨i, hi⟩, ⟨j, hj⟩⟩

namespace Percent

/-! ### Spelling -/

/-- The characters that need no escape in a segment of a path. -/
def plainChars : List Char :=
  "ABCDEFGHIJKLMNOPQRSTUVWXYZabcdefghijklmnopqrstuvwxyz0123456789".toList ++
    "-._~!$&'()*+,;=:@".toList

/-- Whether a character needs no escape. -/
def isPlain (c : Char) : Bool :=
  plainChars.contains c

/-- **The characters spell the bytes.** -/
inductive Spells : List Char → List UInt8 → Prop
  | nil : Spells [] []
  | plain {c : Char} {cs : List Char} {bs : List UInt8} (hc : isPlain c = true) (h : Spells cs bs) :
      Spells (c :: cs) (c.toUInt8 :: bs)
  | escape {x y : Char} {b : UInt8} {cs : List Char} {bs : List UInt8}
      (hb : hexNumber? [x, y] = some b.toNat) (h : Spells cs bs) :
      Spells ('%' :: x :: y :: cs) (b :: bs)

variable {cs : List Char} {bs : List UInt8}

theorem toNat_lt_of_isPlain (h : isPlain c = true) : c.toNat < 128 := by
  have hall : plainChars.all (·.toNat < 128) = true := rfl
  exact of_decide_eq_true (List.all_eq_true.1 hall c (List.contains_iff_mem.1 h))

theorem Spells.toNat_lt (h : Spells cs bs) : ∀ c ∈ cs, c.toNat < 128 := by
  induction h with
  | nil => exact fun _ h ↦ nomatch h
  | plain hc _ ih => exact List.forall_mem_cons.2 ⟨toNat_lt_of_isPlain hc, ih⟩
  | escape hb _ ih =>
    obtain ⟨⟨i, hx⟩, ⟨j, hy⟩⟩ := exists_hexValue?_of_hexNumber? hb
    simp only [List.forall_mem_cons]
    exact ⟨by decide, toNat_lt_of_hexValue? hx, toNat_lt_of_hexValue? hy, ih⟩

/-- **No slash is spelt.** -/
theorem Spells.slash_notMem (h : Spells cs bs) : '/' ∉ cs := by
  induction h with
  | nil => exact List.not_mem_nil
  | plain hc _ ih =>
    simp only [List.mem_cons, not_or]
    refine ⟨?_, ih⟩
    rintro rfl
    cases hc
  | escape hb _ ih =>
    obtain ⟨⟨i, hx⟩, ⟨j, hy⟩⟩ := exists_hexValue?_of_hexNumber? hb
    simp only [List.mem_cons, not_or]
    refine ⟨by decide, ?_, ?_, ih⟩
    · rintro rfl
      cases hx
    · rintro rfl
      cases hy

theorem Spells.ne_nil (h : Spells cs bs) (hbs : bs ≠ []) : cs ≠ [] := by
  rintro rfl
  cases h
  exact hbs rfl

/-- A text of plain characters spells itself. -/
theorem spells_of_isPlain {s : String} (h : s.toList.all isPlain = true) :
    Spells s.toList (Utf8.encode s) := by
  rw [List.all_eq_true] at h
  have hbytes := Utf8.encode_ofList_of_ascii fun c hc ↦ toNat_lt_of_isPlain (h c hc)
  rw [String.ofList_toList] at hbytes
  rw [hbytes]
  generalize s.toList = cs at h
  induction cs with
  | nil => exact .nil
  | cons c cs ih =>
    obtain ⟨hc, hcs⟩ := List.forall_mem_cons.1 h
    exact .plain hc (ih hcs)

/-- Every byte can be escaped. -/
def escaped (b : UInt8) : List Char :=
  '%' :: hexDigits 2 b.toNat

theorem spells_escaped (bs : List UInt8) : Spells (bs.flatMap escaped) bs := by
  induction bs with
  | nil => exact .nil
  | cons b bs ih =>
    have hb := b.toNat_lt
    refine .escape (x := hexDigit (b.toNat / 16 % 16)) (y := hexDigit (b.toNat % 16)) ?_ ih
    rw [hexNumber?_pair (hexValue?_hexDigit _ (Nat.mod_lt _ (by decide)))
      (hexValue?_hexDigit _ (Nat.mod_lt _ (by decide)))]
    congr 1
    omega

/-! ### Reading -/

theorem decodeBytes_cons_of_ne (hb : b ≠ '%'.toUInt8) :
    decodeBytes (b :: bs) = b :: decodeBytes bs := by
  match bs with
  | [] => rfl
  | [_] => rfl
  | h :: l :: bs =>
    rw [decodeBytes]
    split
    · rw [if_neg hb]
    · rfl

theorem decodeBytes_escape (hb : hexNumber? [x, y] = some b.toNat) :
    decodeBytes ('%'.toUInt8 :: x.toUInt8 :: y.toUInt8 :: bs) = b :: decodeBytes bs := by
  obtain ⟨⟨i, hx⟩, ⟨j, hy⟩⟩ := exists_hexValue?_of_hexNumber? hb
  rw [decodeBytes, ofNat_toNat_toUInt8 (toNat_lt_of_hexValue? hx),
    ofNat_toNat_toUInt8 (toNat_lt_of_hexValue? hy), hb]
  simp

theorem Spells.decodeBytes_eq (h : Spells cs bs) : decodeBytes (cs.map Char.toUInt8) = bs := by
  induction h with
  | nil => rfl
  | @plain c cs bs hc _ ih =>
    have hne : c.toUInt8 ≠ '%'.toUInt8 := by
      intro heq
      have hback := ofNat_toNat_toUInt8 (toNat_lt_of_isPlain hc)
      rw [heq] at hback
      subst hback
      cases hc
    rw [List.map_cons, decodeBytes_cons_of_ne hne, ih]
  | escape hb _ ih => rw [List.map_cons, List.map_cons, List.map_cons, decodeBytes_escape hb, ih]

/-- **However a text is spelt, it is read.** -/
theorem decodePath?_of_spells {s : String} (h : Spells cs (Utf8.encode s)) :
    decodePath? (.ofList cs) = some s := by
  rw [decodePath?, Utf8.encode_ofList_of_ascii h.toNat_lt, h.decodeBytes_eq, Utf8.strict?_encode]

/-! ### Cutting -/

variable {separator : Char} {l rest : List Char}

theorem pieces_of_notMem (h : separator ∉ l) : pieces separator l = [l] := by
  induction l with
  | nil => rfl
  | cons c l ih =>
    simp only [List.mem_cons, not_or] at h
    obtain ⟨hc, hl⟩ := h
    rw [pieces, if_neg (Ne.symm hc), ih hl]

theorem pieces_append (h : separator ∉ l) :
    pieces separator (l ++ separator :: rest) = l :: pieces separator rest := by
  induction l with
  | nil => rw [List.nil_append, pieces, if_pos rfl]
  | cons c l ih =>
    simp only [List.mem_cons, not_or] at h
    obtain ⟨hc, hl⟩ := h
    rw [List.cons_append, pieces, if_neg (Ne.symm hc), ih hl]

end Percent

end Foreman.Text
