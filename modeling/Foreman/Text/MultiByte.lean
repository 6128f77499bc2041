import Foreman.Text.CodeTable.Japanese
import Foreman.Text.CodeTable.Korean
import Foreman.Text.CodeTable.Simplified
import Foreman.Text.CodeTable.Traditional
import Foreman.Text.Utf8

/-!
# Charsets of several bytes

In the charsets of East Asia an ASCII byte stands for itself, and other bytes begin characters of two to
four bytes. Each charset is a **reader**: given a first byte and the bytes behind it, it answers what they
stand for, or that they stand for nothing, and how many of the bytes behind belong to it. An ASCII byte is
never lost: where it does not complete a character it is read for itself.

One charset is different. In ISO-2022-JP every byte is ASCII, and escapes say which table the bytes behind
them are taken from.
-/

namespace Foreman.Text

/-- A charset of several bytes. -/
inductive MultiByte where
  | shiftJis
  | eucJp
  | iso2022Jp
  | eucKr
  | gb18030
  | big5
deriving DecidableEq, Repr

namespace MultiByte

/-- The names of each charset. The older standard of simplified Chinese is read as the newer one. -/
def names : List (MultiByte × List String) :=
  [(shiftJis, ["csshiftjis", "ms932", "ms_kanji", "shift-jis", "shift_jis", "sjis", "windows-31j",
      "x-sjis"]),
   (eucJp, ["cseucpkdfmtjapanese", "euc-jp", "x-euc-jp"]),
   (iso2022Jp, ["csiso2022jp", "iso-2022-jp"]),
   (eucKr, ["cseuckr", "csksc56011987", "euc-kr", "iso-ir-149", "korean", "ks_c_5601-1987",
      "ks_c_5601-1989", "ksc5601", "ksc_5601", "windows-949"]),
   (gb18030, ["gb18030", "chinese", "csgb2312", "csiso58gb231280", "gb2312", "gb_2312", "gb_2312-80",
      "gbk", "iso-ir-58", "x-gbk"]),
   (big5, ["big5", "big5-hkscs", "cn-big5", "csbig5", "x-x-big5"])]

/-- The charset of a name in small letters. -/
def ofLabel? (label : String) : Option MultiByte :=
  (names.find? fun e ↦ e.2.contains label).map (·.1)

/-! ### Readers -/

/-- What bytes stand for, if anything, and how many bytes behind the first one belong to it. -/
structure Reading where
  chars : Option (List Char)
  taken : Nat

/-- A first byte that stands for a character of its own. -/
def Reading.single (c : Char) : Reading := ⟨some [c], 0⟩

/-- A first byte that stands for nothing. -/
def Reading.stray : Reading := ⟨none, 0⟩

/-- Whether a number lies between two others. -/
def within (low high n : Nat) : Bool :=
  low ≤ n && n ≤ high

/-- What two bytes stand for. If it is nothing, an ASCII byte is given back. -/
def Reading.pair (second : Nat) (char : Option Char) : Reading :=
  match char with
  | some c => ⟨some [c], 1⟩
  | none => ⟨none, if second < 0x80 then 0 else 1⟩

/-- The half-width letter of a byte. -/
def halfWidth (b : Nat) : Char :=
  .ofNat (0xFF61 + (b - 0xA1))

/-- The place of two bytes in a table with 188 places for each first byte. -/
def shiftPlace? (first second : Nat) : Option Nat :=
  if within 0x40 0x7E second || within 0x80 0xFC second then
    some ((first - if first < 0xA0 then 0x81 else 0xC1) * 188 + second
      - if second < 0x7F then 0x40 else 0x41)
  else none

/-- The character at a place; places from 8836 on stand for private use until the last rows begin. -/
def shiftChar? (place : Nat) : Option Char :=
  if within 8836 10715 place then some (.ofNat (0xE000 + (place - 8836)))
  else japaneseTable.char? place

/-- Shift_JIS. -/
def readShiftJis (b : Nat) (rest : List Nat) : Reading :=
  if b ≤ 0x80 then .single (.ofNat b)
  else if within 0xA1 0xDF b then .single (halfWidth b)
  else if within 0x81 0x9F b || within 0xE0 0xFC b then
    match rest with
    | c :: _ => .pair c ((shiftPlace? b c).bind shiftChar?)
    | [] => .stray
  else .stray

/-- Whether a byte has its place in the upper half of a table of 94 rows. -/
def isUpper (b : Nat) : Bool :=
  within 0xA1 0xFE b

/-- The character of two bytes in a table of 94 rows. -/
def upperChar? (table : CodeTable) (first second : Nat) : Option Char :=
  if isUpper first && isUpper second then table.char? ((first - 0xA1) * 94 + (second - 0xA1)) else none

/-- EUC-JP. One byte leads to half-width letters and another to the supplement. -/
def readEucJp (b : Nat) (rest : List Nat) : Reading :=
  if b < 0x80 then .single (.ofNat b)
  else if b == 0x8E || b == 0x8F || isUpper b then
    match rest with
    | [] => .stray
    | c :: rest =>
      if b == 0x8E && within 0xA1 0xDF c then ⟨some [halfWidth c], 1⟩
      else if b == 0x8F && isUpper c then
        match rest with
        | [] => ⟨none, 1⟩
        | d :: _ =>
          let r := Reading.pair d (upperChar? japaneseSupplement c d)
          ⟨r.chars, r.taken + 1⟩
      else .pair c (upperChar? japaneseTable b c)
  else .stray

/-- EUC-KR with its extension. -/
def readEucKr (b : Nat) (rest : List Nat) : Reading :=
  if b < 0x80 then .single (.ofNat b)
  else if within 0x81 0xFE b then
    match rest with
    | c :: _ =>
      .pair c (if within 0x41 0xFE c then koreanTable.char? ((b - 0x81) * 190 + (c - 0x41)) else none)
    | [] => .stray
  else .stray

/-- The code point of a four-byte number. -/
def rangeChar? (n : Nat) : Option Char :=
  if within 39420 188999 n || 1237575 < n then none
  else if n = 7457 then some '\uE7C7'
  else (simplifiedRanges.reverse.find? fun r ↦ r.1 ≤ n).map fun r ↦ .ofNat (r.2 + (n - r.1))

/-- The character of two bytes of simplified Chinese. -/
def simplifiedChar? (first second : Nat) : Option Char :=
  if within 0x40 0x7E second || within 0x80 0xFE second then
    simplifiedTable.char? ((first - 0x81) * 190 + second - if second < 0x7F then 0x40 else 0x41)
  else none

/-- GB18030. A digit as second byte announces four bytes, which are one number; when the text ends before
they do, they stand for nothing together. -/
def readGb18030 (b : Nat) (rest : List Nat) : Reading :=
  let isDigit := within 0x30 0x39
  let isLead := within 0x81 0xFE
  if b < 0x80 then .single (.ofNat b)
  else if b == 0x80 then .single '€'
  else if isLead b then
    match rest with
    | [] => .stray
    | c :: rest =>
      if isDigit c then
        match rest with
        | [] => ⟨none, 1⟩
        | [d] => if isLead d then ⟨none, 2⟩ else .stray
        | d :: e :: _ =>
          if isLead d && isDigit e then
            -- Digits in turn of base 126 and ten.
            let n := (((b - 0x81) * 10 + (c - 0x30)) * 126 + (d - 0x81)) * 10 + (e - 0x30)
            ⟨(rangeChar? n).map ([·]), 3⟩
          else .stray
      else .pair c (simplifiedChar? b c)
  else .stray

/-- The place of two bytes of traditional Chinese. -/
def traditionalPlace? (first second : Nat) : Option Nat :=
  if within 0x40 0x7E second || within 0xA1 0xFE second then
    some ((first - 0x81) * 157 + second - if second < 0x7F then 0x40 else 0x62)
  else none

/-- The places that stand for a letter and an accent. -/
def accented : List (Nat × List Char) :=
  [(1133, ['\u00CA', '\u0304']), (1135, ['\u00CA', '\u030C']),
   (1164, ['\u00EA', '\u0304']), (1166, ['\u00EA', '\u030C'])]

/-- Big5 with its supplement. -/
def readBig5 (b : Nat) (rest : List Nat) : Reading :=
  if b < 0x80 then .single (.ofNat b)
  else if within 0x81 0xFE b then
    match rest with
    | c :: _ =>
      match (traditionalPlace? b c).bind fun place ↦ accented.find? fun e ↦ e.1 == place with
      | some (_, cs) => ⟨some cs, 1⟩
      | none => .pair c ((traditionalPlace? b c).bind traditionalTable.char?)
    | [] => .stray
  else .stray

/-- The characters that a reader finds, a replacement character for what stands for nothing. -/
def readAll (read : Nat → List Nat → Reading) : List Nat → List Char
  | [] => []
  | b :: rest =>
    ((read b rest).chars.getD [Utf8.replacement]) ++ readAll read (rest.drop (read b rest).taken)
termination_by bs => bs.length
decreasing_by
  rw [List.length_drop]
  exact Nat.lt_succ_of_le (Nat.sub_le ..)

/-! ### Escapes -/

/-- The table that the bytes behind an escape are taken from. -/
inductive Plane where
  | ascii
  | roman
  | katakana
  | kanji
deriving DecidableEq, Repr

/-- The table that an escape names by the two bytes behind its mark. -/
def plane? : Nat → Nat → Option Plane
  | 0x28, 0x42 => some .ascii
  | 0x28, 0x4A => some .roman
  | 0x28, 0x49 => some .katakana
  | 0x24, 0x40 => some .kanji
  | 0x24, 0x42 => some .kanji
  | _, _ => none

/-- The character of one byte in a table of single bytes. -/
def Plane.char? (p : Plane) (b : Nat) : Option Char :=
  match p with
  | .katakana => if within 0x21 0x5F b then some (halfWidth (b + 0x80)) else none
  | .roman =>
    if b == 0x5C then some '¥' else if b == 0x7E then some '‾'
    else if b < 0x80 && b != 0x0E && b != 0x0F then some (.ofNat b) else none
  | _ => if b < 0x80 && b != 0x0E && b != 0x0F then some (.ofNat b) else none

/-- Whether a byte can be half of a character of two. -/
def isHalf (b : Nat) : Bool :=
  within 0x21 0x7E b

/-- What an escape names, its mark read: the table, and the bytes behind it. -/
def readEscape : List Nat → Option (Plane × List Nat)
  | x :: y :: behind => (plane? x y).map fun p ↦ (p, behind)
  | _ => none

theorem length_lt_of_readEscape {bs behind : List Nat} {p : Plane}
    (h : readEscape bs = some (p, behind)) : behind.length < bs.length := by
  match bs with
  | [] => cases h
  | [_] => cases h
  | x :: y :: rest =>
    simp only [readEscape, Option.map_eq_some_iff] at h
    obtain ⟨_, -, h⟩ := h
    cases h
    exact Nat.lt_succ_of_lt (Nat.lt_succ_self _)

/-- A character of two bytes, the first of them read: what it is, and the bytes behind it. An escape in its
place is left for itself. -/
def readKanji (b : Nat) : List Nat → Option Char × List Nat
  | [] => (none, [])
  | c :: rest =>
    if !isHalf b || c == 0x1B then (none, c :: rest)
    else (if isHalf c then japaneseTable.char? ((b - 0x21) * 94 + (c - 0x21)) else none, rest)

theorem length_readKanji_le (b : Nat) (bs : List Nat) : (readKanji b bs).2.length ≤ bs.length := by
  match bs with
  | [] => exact Nat.le_refl _
  | c :: rest =>
    simp only [readKanji]
    split
    · exact Nat.le_refl _
    · exact Nat.le_succ _

/-- ISO-2022-JP. An escape directly behind another one stands for nothing, but is obeyed. -/
def readEscaped (p : Plane) (escaped : Bool) : List Nat → List Char
  | [] => []
  | b :: rest =>
    if b == 0x1B then
      match _h : readEscape rest with
      | some (next, behind) =>
        (if escaped then [Utf8.replacement] else []) ++ readEscaped next true behind
      | none => Utf8.replacement :: readEscaped p false rest
    else if p == .kanji then
      ((readKanji b rest).1.getD Utf8.replacement) :: readEscaped p false (readKanji b rest).2
    else ((p.char? b).getD Utf8.replacement) :: readEscaped p false rest
termination_by bs => bs.length
decreasing_by
  · exact Nat.lt_succ_of_lt (length_lt_of_readEscape _h)
  · exact Nat.lt_succ_self _
  · exact Nat.lt_succ_of_le (length_readKanji_le ..)
  · exact Nat.lt_succ_self _

/-! ### Texts -/

/-- **The characters of bytes.** -/
def decode (m : MultiByte) (bytes : List UInt8) : List Char :=
  let bs := bytes.map UInt8.toNat
  match m with
  | shiftJis => readAll readShiftJis bs
  | eucJp => readAll readEucJp bs
  | iso2022Jp => readEscaped .ascii false bs
  | eucKr => readAll readEucKr bs
  | gb18030 => readAll readGb18030 bs
  | big5 => readAll readBig5 bs

end MultiByte

end Foreman.Text
