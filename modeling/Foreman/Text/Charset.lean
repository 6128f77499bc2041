import Foreman.Text.Blank
import Foreman.Text.Hex
import Foreman.Text.MultiByte
import Foreman.Text.SingleByte
import Foreman.Text.Utf8

/-!
# Charsets

How the bytes of a text stand for its characters. A charset has a name, by which a message may announce
it; a **byte order mark** at the beginning of the bytes says it too and has the last word. Bytes that
stand for nothing become replacement characters, so every list of bytes is some text.
-/

namespace Foreman.Text

/-- A charset. -/
inductive Charset where
  | utf8
  | utf16 (bigEndian : Bool)
  | singleByte (table : SingleByte)
  | multiByte (charset : MultiByte)
  /-- The upper half of the bytes lies in the private area of the code points. -/
  | privateUse
  /-- A charset that is not to be read at all. -/
  | refused

namespace Charset

/-! ### Names -/

/-- The names of UTF-8. -/
def utf8Labels : List String :=
  ["unicode-1-1-utf-8", "unicode11utf8", "unicode20utf8", "utf-8", "utf8", "x-unicode20utf8"]

/-- The names of UTF-16 with the greater byte first. -/
def bigEndianLabels : List String :=
  ["unicodefffe", "utf-16be"]

/-- The names of UTF-16 with the smaller byte first. -/
def littleEndianLabels : List String :=
  ["csunicode", "iso-10646-ucs-2", "ucs-2", "unicode", "unicodefeff", "utf-16", "utf-16le"]

/-- The names of charsets that are not to be read. -/
def refusedLabels : List String :=
  ["csiso2022kr", "hz-gb-2312", "iso-2022-cn", "iso-2022-cn-ext", "iso-2022-kr", "replacement"]

/-- Whether a character is one of the blanks of ASCII. -/
def isAsciiBlank (c : Char) : Bool :=
  c == ' ' || c == '\t' || c == '\n' || c == '\x0c' || c == '\r'

/-- A name in its common form: in small letters, and without the blanks around it. -/
def normalLabel (s : String) : String :=
  let cs := s.toList.dropWhile isAsciiBlank
  lowerAscii (.ofList (cs.reverse.dropWhile isAsciiBlank).reverse)

/-- **The charset of a name**, `none` if nobody goes by it. -/
def ofLabel? (s : String) : Option Charset :=
  let label := normalLabel s
  if utf8Labels.contains label then some .utf8
  else if bigEndianLabels.contains label then some (.utf16 true)
  else if littleEndianLabels.contains label then some (.utf16 false)
  else if refusedLabels.contains label then some .refused
  else if label = "x-user-defined" then some .privateUse
  else ((MultiByte.ofLabel? label).map .multiByte).or
    ((singleByteCharsets.find? fun t ↦ t.labels.contains label).map .singleByte)

/-! ### Bytes -/

/-- The units of UTF-16, and whether a byte is left over. -/
def units (bigEndian : Bool) : List UInt8 → List Nat × Bool
  | [] => ([], false)
  | [_] => ([], true)
  | a :: b :: rest =>
    let unit := if bigEndian then a.toNat * 256 + b.toNat else b.toNat * 256 + a.toNat
    let (us, odd) := units bigEndian rest
    (unit :: us, odd)

/-- The characters of units; a surrogate without its partner is replaced. At the end, a leading surrogate
and the byte left over are replaced as one. -/
def ofUnits (odd : Bool) : List Nat → List Char
  | [] => if odd then [Utf8.replacement] else []
  | [u] =>
    if 0xD800 ≤ u && u < 0xDC00 then [Utf8.replacement]
    else (if 0xDC00 ≤ u && u < 0xE000 then Utf8.replacement else .ofNat u)
      :: if odd then [Utf8.replacement] else []
  | u :: v :: rest =>
    if 0xD800 ≤ u && u < 0xDC00 then
      if 0xDC00 ≤ v && v < 0xE000 then
        .ofNat (0x10000 + (u - 0xD800) * 0x400 + (v - 0xDC00)) :: ofUnits odd rest
      else Utf8.replacement :: ofUnits odd (v :: rest)
    else if 0xDC00 ≤ u && u < 0xE000 then Utf8.replacement :: ofUnits odd (v :: rest)
    else .ofNat u :: ofUnits odd (v :: rest)

/-- The characters of a row of digits of base sixteen, four for each. -/
def ofRow : List Char → List Char
  | a :: b :: c :: d :: rest => .ofNat ((hexNumber? [a, b, c, d]).getD 0) :: ofRow rest
  | _ => []

/-- The text of bytes. -/
def decode (charset : Charset) (bytes : List UInt8) : String :=
  match charset with
  | utf8 => Utf8.lossy bytes
  | utf16 bigEndian =>
    let (us, odd) := units bigEndian bytes
    .ofList (ofUnits odd us)
  | singleByte table =>
    let upper := (table.upper.flatMap fun row ↦ ofRow row.toList).toArray
    .ofList (bytes.map fun b ↦
      if b < 0x80 then .ofNat b.toNat else (upper[b.toNat - 0x80]?).getD Utf8.replacement)
  | multiByte m => .ofList (m.decode bytes)
  | privateUse => .ofList (bytes.map fun b ↦
      .ofNat (if b < 0x80 then b.toNat else 0xF700 + b.toNat))
  | refused => if bytes.isEmpty then "" else .singleton Utf8.replacement

/-- The charset that a byte order mark announces, and the bytes behind the mark. -/
def ofMark? : List UInt8 → Option (Charset × List UInt8)
  | 0xEF :: 0xBB :: 0xBF :: rest => some (.utf8, rest)
  | 0xFE :: 0xFF :: rest => some (.utf16 true, rest)
  | 0xFF :: 0xFE :: rest => some (.utf16 false, rest)
  | _ => none

/-- **The text of a message**: the bytes behind a mark in its charset, or all of them in the charset
given. -/
def decodeMessage (charset : Charset) (bytes : List UInt8) : String :=
  match ofMark? bytes with
  | some (marked, rest) => marked.decode rest
  | none => charset.decode bytes

end Charset

end Foreman.Text
