import Foreman.ControlPlane.Action
import Foreman.Json.Reader
import Foreman.Json.Writer
import Foreman.Webhook.MediaType
import Foreman.Webhook.Reason

/-!
# Handing a signal to a collaborator

A webhook is an address to which signals are posted. Its handler posts the signal and the key of the
state in which it arrived, and answers what the collaborator answers: nothing for a blank reply, the
value of a JSON text, and any other text as it is. A status other than success is a failure that says
what the collaborator said.
-/

namespace Foreman

/-- The address of a collaborator. -/
structure Webhook where
  url : String
deriving DecidableEq, Repr

namespace Webhook

/-- What is wrong with an address. -/
def notHttp : Failure :=
  .because "webhook url must start with http:// or https://"

/-- An address must be one of HTTP. -/
def ofUrl? (url : String) : Except Failure Webhook :=
  if "http://".isPrefixOf url || "https://".isPrefixOf url then .ok ⟨url⟩ else .error notHttp

/-- What is posted for a signal that arrived in a state. -/
def post (w : Webhook) (signal : Signal) (state : ControlPlane.State) : Post where
  url := w.url
  correlation := signal.correlation
  body := (Json.record [("signal", signal.toJson), ("state", .str state.key)]).compact

/-- The text of an answer. -/
def Answer.text (a : Answer) : String :=
  (charset a.contentType).decodeMessage a.body

/-- What an answer says. -/
def Answer.value? (a : Answer) : Except Failure Json :=
  if a.isSuccess then
    if Text.trim a.text = "" then .ok .null
    else .ok ((Json.ofString? a.text).getD (.str a.text))
  else .error (.because s!"webhook returned {a.status} {reason a.status}: {a.text}")

/-- **The handler of a webhook.** A correlation id that cannot be a header is not sent at all. -/
def handler (w : Webhook) : ControlPlane.Handler := fun signal state ↦
  if isHeaderValue signal.correlation then
    .ask (.post (w.post signal state)) fun
      | some answer => .ofExcept ((answer.value?).mapError Halt.error)
      | none => Plan.fail (.because "no answer from the webhook")
  else Plan.fail (.because "invalid correlation id")

end Webhook

end Foreman
