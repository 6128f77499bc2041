import Foreman.Decimal.Power
import Foreman.Text.Blank
import Foreman.Time.Instant

/-!
# Timestamps

The text form of an instant is that of RFC 3339. Writing is strict: universal time, a `Z`, and no, three,
six or nine places of the second, whichever are the fewest that are exact. Reading is liberal: numbers
may be short or follow blanks, a signed year may be long, the offset may be `Z`, `UTC` or signed hours
and minutes with any blanks and colons between them, and places beyond the ninth are dropped.
-/

namespace Foreman.Time

open Foreman.Text

/-! ### Writing -/

/-- A number padded with zeros to a width. -/
def padded (width n : Nat) : String :=
  let digits := (toString n).toList
  .ofList (List.replicate (width - digits.length) '0' ++ digits)

/-- A year of four digits, or a signed one outside the first ten thousand years. -/
def renderYear (year : Int) : String :=
  if 0 ≤ year && year ≤ 9999 then padded 4 year.toNat
  else (if year < 0 then "-" else "+") ++ padded 4 year.natAbs

/-- The places of a second: as many threes as are exact. -/
def renderPlaces (nanos : Nat) : String :=
  if nanos = 0 then ""
  else if nanos % 1000000 = 0 then "." ++ padded 3 (nanos / 1000000)
  else if nanos % 1000 = 0 then "." ++ padded 6 (nanos / 1000)
  else "." ++ padded 9 nanos

/-- The timestamp of an instant. A leap second is written as second 60. -/
def Instant.render (t : Instant) : String :=
  let d := t.date
  let leap := t.nanos / second
  renderYear d.year ++ "-" ++ padded 2 d.month ++ "-" ++ padded 2 d.day ++ "T"
    ++ padded 2 (t.timeOfDay / 3600) ++ ":" ++ padded 2 (t.timeOfDay / 60 % 60) ++ ":"
    ++ padded 2 (t.timeOfDay % 60 + leap) ++ renderPlaces (t.nanos % second) ++ "Z"

/-! ### Reading -/

/-- The value of a list of decimal digits. -/
def digitsValue (ds : List Char) : Nat :=
  ds.foldl (fun n c ↦ n * 10 + (c.toNat - '0'.toNat)) 0

/-- At least one and at most `width` digits, blanks in front dropped. -/
def readDigits (width : Nat) (cs : List Char) : Option (Nat × List Char) :=
  let ds := (cs.takeWhile Char.isDigit).take width
  if ds.isEmpty then none else some (digitsValue ds, cs.drop ds.length)

/-- A field of at most two digits behind blanks. -/
def readField (cs : List Char) : Option (Nat × List Char) :=
  readDigits 2 (trimLeft cs)

/-- A year: at most four digits, or a sign and any number of them. -/
def readYear (cs : List Char) : Option (Int × List Char) :=
  match trimLeft cs with
  | '-' :: r => (readDigits r.length r).map fun (n, r) ↦ (-(n : Int), r)
  | '+' :: r => (readDigits r.length r).map fun (n, r) ↦ ((n : Int), r)
  | r => (readDigits 4 r).map fun (n, r) ↦ ((n : Int), r)

/-- One separator, blanks in front dropped. -/
def readMark (mark : Char) (cs : List Char) : Option (List Char) :=
  match trimLeft cs with
  | c :: r => if c = mark then some r else none
  | [] => none

/-- The places of the second, if there are any: at least one digit behind the point. -/
def readPlaces (cs : List Char) : Option (Nat × List Char) :=
  match cs with
  | '.' :: r =>
    let ds := r.takeWhile Char.isDigit
    if ds.isEmpty then none
    else
      let kept := ds.take 9
      some (digitsValue kept * Decimal.tens (9 - kept.length), r.dropWhile Char.isDigit)
  | _ => some (0, cs)

/-- The offset from universal time in seconds. -/
def readOffset (cs : List Char) : Option (Int × List Char) :=
  match cs with
  | 'Z' :: r => some (0, r)
  | 'z' :: r => some (0, r)
  | u :: t :: c :: r =>
    if [u, t, c].map Char.toUpper = ['U', 'T', 'C'] then some (0, r)
    else if u = '+' then (hoursAndMinutes (t :: c :: r)).map fun (n, r) ↦ ((n : Int), r)
    else if u = '-' || u = '−' then
      (hoursAndMinutes (t :: c :: r)).map fun (n, r) ↦ (-(n : Int), r)
    else none
  | _ => none
where
  /-- Two digits of hours, colons and blanks, two digits of minutes. -/
  hoursAndMinutes (cs : List Char) : Option (Nat × List Char) :=
    match cs with
    | h :: h' :: r =>
      match r.dropWhile fun c ↦ c == ':' || isBlank c with
      | m :: m' :: r =>
        if [h, h', m, m'].all Char.isDigit && digitsValue [m, m'] < 60 then
          some (digitsValue [h, h'] * 3600 + digitsValue [m, m'] * 60, r)
        else none
      | _ => none
    | _ => none

/-- The instant of a local date and time at an offset, when all of them exist. -/
def Instant.ofLocal? (date : Date) (hour minute sec nanos : Nat) (offset : Int) :
    Option Instant :=
  if date.Valid ∧ hour < 24 ∧ minute < 60 ∧ sec ≤ 60 ∧ offset.natAbs < 86400
      ∧ Date.firstYear ≤ date.year ∧ date.year ≤ Date.lastYear then
    let local_ := date.toDays * day + ((hour * 60 + minute) * 60 + min sec 59 : Nat)
    let t : Instant := ⟨local_ - offset, nanos + if sec = 60 then second else 0⟩
    if Instant.InCalendar t.seconds then some t else none
  else none

/-- Reads a timestamp; nothing but blanks may follow it. -/
def Instant.ofChars? (cs : List Char) : Option Instant := do
  let (year, cs) ← readYear cs
  let (month, cs) ← readField (← readMark '-' cs)
  let (dayOfMonth, cs) ← readField (← readMark '-' cs)
  let cs ← match cs with
    | c :: r => if c = 'T' || c = 't' || c = ' ' then some r else none
    | [] => none
  let (hour, cs) ← readField cs
  let (minute, cs) ← readField (← readMark ':' cs)
  let (sec, cs) ← readField (← readMark ':' cs)
  let (nanos, cs) ← readPlaces cs
  let (offset, cs) ← readOffset (trimLeft cs)
  if (trimLeft cs).isEmpty then
    Instant.ofLocal? ⟨year, month, dayOfMonth⟩ hour minute sec nanos offset
  else none

/-- Reads the timestamp in a string. -/
def Instant.ofString? (s : String) : Option Instant :=
  Instant.ofChars? s.toList

end Foreman.Time
