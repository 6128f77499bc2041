import Foreman.Json.Basic

/-!
# Messages to and from a collaborator

A collaborator is an HTTP service. What is posted to it is a JSON document under a correlation id; what
comes back is a status code, bytes, and what it says these bytes are.
-/

namespace Foreman.Webhook

/-- How this program names itself. -/
def userAgent : String := "pdca-runtime/1.0.0"

/-- What every document that is posted says it is. -/
def documentType : String := "application/json"

/-- A document to be posted, as text. -/
structure Post where
  url : String
  correlation : String
  agent : String := userAgent
  contentType : String := documentType
  body : String
deriving DecidableEq, Repr

/-- Whether a text can be the value of a header: it has no control characters but the tab. -/
def isHeaderValue (s : String) : Bool :=
  s.toList.all fun c ↦ c == '\t' || (0x20 ≤ c.toNat && c.toNat != 0x7F)

/-- What the collaborator answered. -/
structure Answer where
  status : Nat
  body : List UInt8
  contentType : Option String
deriving DecidableEq, Repr

/-- Whether a status code stands for success. -/
def Answer.isSuccess (a : Answer) : Bool :=
  200 ≤ a.status && a.status < 300

end Foreman.Webhook
