import Foreman.Text.Charset

/-!
# Media types

What a message says its bytes are: a type and a subtype, and parameters behind semicolons. The only one
of interest here is the charset.
-/

namespace Foreman.Webhook

/-- Whether a character may stand in a token of a header. -/
def isTokenChar (c : Char) : Bool :=
  c.isAlphanum || "!#$%&'*+-.^_|~".toList.contains c || c == '\x60'

/-- Whether a character may stand between quotes in a header. -/
def isQuotedChar (c : Char) : Bool :=
  c == '\t' || (0x20 ≤ c.toNat && c.toNat < 0x7F && c != '"')

/-- Spaces in front are dropped. -/
def skipSpaces (cs : List Char) : List Char :=
  cs.dropWhile (· == ' ')

/-- A token that is not empty. -/
def readToken (cs : List Char) : Option (List Char × List Char) :=
  let token := cs.takeWhile isTokenChar
  if token.isEmpty then none else some (token, cs.drop token.length)

/-- The value of a parameter, as a token or between quotes. -/
def readParameterValue (cs : List Char) : Option (List Char × List Char) :=
  match cs with
  | '"' :: r =>
    let inside := r.takeWhile isQuotedChar
    match r.drop inside.length with
    | '"' :: r => some (inside, r)
    | _ => none
  | _ => readToken cs

/-- The parameters behind a type; a semicolon may stand at the end. -/
def readParameters : (fuel : Nat) → List Char → Option (List (String × String))
  | 0, _ => none
  | fuel + 1, cs =>
    match skipSpaces cs with
    | [] => some []
    | ';' :: r =>
      match skipSpaces r with
      | [] => some []
      | r => do
        let (name, r) ← readToken r
        match r with
        | '=' :: r =>
          let (value, r) ← readParameterValue r
          let rest ← readParameters fuel r
          some ((Text.lowerAscii (.ofList name), .ofList value) :: rest)
        | _ => none
    | _ => none

/-- The parameters of a media type, `none` if it is malformed. -/
def parameters? (mediaType : String) : Option (List (String × String)) := do
  let cs := mediaType.toList
  let (_, r) ← readToken cs
  match r with
  | '/' :: r =>
    let (_, r) ← readToken r
    readParameters (r.length + 1) r
  | _ => none

/-- **The charset of a message** that says it is of this media type: UTF-8, unless it names another one
that is known. -/
def charset (mediaType : Option String) : Text.Charset :=
  let label := (mediaType.bind parameters?).bind fun ps ↦ ps.find? fun p ↦ p.1 == "charset"
  (label.bind fun p ↦ Text.Charset.ofLabel? p.2).getD .utf8

end Foreman.Webhook
