import Foreman.Store.Request

/-!
# Failures

What an action or a run reports when it fails is a chain of texts: the outermost context first, the
innermost cause last. A text may already contain that of its cause; the chain then says it twice.
-/

namespace Foreman

/-- A chain of texts. -/
structure Failure where
  chain : List String
deriving DecidableEq, Repr

namespace Failure

/-- A failure without a cause. -/
def because (text : String) : Failure :=
  ⟨[text]⟩

/-- Puts a text in front. -/
def inContext (text : String) (f : Failure) : Failure :=
  ⟨text :: f.chain⟩

/-- The outermost text. -/
def headline (f : Failure) : String :=
  f.chain.headD ""

/-- The whole chain in one line. -/
def render (f : Failure) : String :=
  ": ".intercalate f.chain

/-- The failure that an error of the store is. -/
def ofStore (e : Store.StoreError) : Failure :=
  because e.message

end Failure

end Foreman
