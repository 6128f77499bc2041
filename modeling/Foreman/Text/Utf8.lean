/-!
# UTF-8

Bytes are read as UTF-8 part by part: each part is a character, or a **malformed** run, which is the
longest beginning of some character that the bytes do not continue, or else a single byte. What to do
about malformed parts is up to the reader: `lossy` puts a replacement character for each of them,
`strict?` refuses them.
-/

namespace Foreman.Text.Utf8

/-- What the first byte of a character promises: its high bits, the number of bytes that continue it,
and the range in which the next of them lies. -/
structure Lead where
  bits : Nat
  count : Nat
  low : Nat
  high : Nat

/-- The promise of a byte, `none` when it begins no character. The ranges leave out overlong forms,
surrogates and what lies beyond the last code point. -/
def lead? (b : Nat) : Option Lead :=
  if b < 0x80 then some ⟨b, 0, 0, 0⟩
  else if b < 0xC2 then none
  else if b < 0xE0 then some ⟨b % 32, 1, 0x80, 0xBF⟩
  else if b < 0xF0 then
    some ⟨b % 16, 2, if b = 0xE0 then 0xA0 else 0x80, if b = 0xED then 0x9F else 0xBF⟩
  else if b < 0xF5 then
    some ⟨b % 8, 3, if b = 0xF0 then 0x90 else 0x80, if b = 0xF4 then 0x8F else 0xBF⟩
  else none

/-- Reads the bytes that continue a character, up to the first that does not. -/
def continued : (count low high bits : Nat) → List UInt8 → Option Nat × List UInt8
  | 0, _, _, bits, bs => (some bits, bs)
  | _ + 1, _, _, _, [] => (none, [])
  | count + 1, low, high, bits, b :: bs =>
    if low ≤ b.toNat && b.toNat ≤ high then
      continued count 0x80 0xBF (bits * 64 + b.toNat % 64) bs
    else (none, b :: bs)

theorem length_continued_le (count low high bits : Nat) (bs : List UInt8) :
    (continued count low high bits bs).2.length ≤ bs.length := by
  induction count generalizing low high bits bs with
  | zero => simp [continued]
  | succ count ih =>
    cases bs with
    | nil => simp [continued]
    | cons b bs =>
      simp only [continued]
      split
      · exact Nat.le_trans (ih ..) (Nat.le_succ _)
      · exact Nat.le_refl _

/-- The parts of a list of bytes: characters, and `none` for each malformed part. -/
def parts : List UInt8 → List (Option Char)
  | [] => []
  | b :: bs =>
    match lead? b.toNat with
    | none => none :: parts bs
    | some l =>
      (continued l.count l.low l.high l.bits bs).1.map Char.ofNat
        :: parts (continued l.count l.low l.high l.bits bs).2
termination_by bs => bs.length
decreasing_by
  · simp
  · exact Nat.lt_succ_of_le (length_continued_le ..)

/-- What stands for a malformed part. -/
def replacement : Char := '\uFFFD'

/-- Reads bytes, a replacement character for each malformed part. -/
def lossy (bs : List UInt8) : String :=
  .ofList ((parts bs).map fun c ↦ c.getD replacement)

/-- Reads bytes without malformed parts. -/
def strict? (bs : List UInt8) : Option String :=
  ((parts bs).mapM id).map String.ofList

/-- The bytes of a text. -/
def encode (s : String) : List UInt8 :=
  s.toUTF8.toList

end Foreman.Text.Utf8
