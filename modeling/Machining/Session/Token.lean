/-!
# Cancel tokens

Every turn has a token that carries its generation.  When the turn is withdrawn, its token is
cancelled, and an analyzer that looks at it can stop early.
-/

namespace Machining.Session

/-- The token of a turn. -/
structure CancelToken where
  /-- The generation of the turn. -/
  generation : Int
  /-- Whether the turn is withdrawn. -/
  cancelled : Bool
  deriving DecidableEq

namespace CancelToken

/-- The token of a turn that begins. -/
def issue (generation : Int) : CancelToken := ⟨generation, false⟩

/-- Withdraws the turn. -/
def cancel (token : CancelToken) : CancelToken := { token with cancelled := true }

/-- What is said of a turn that is withdrawn. -/
def withdrawal (token : CancelToken) : String := s!"turn {token.generation} cancelled"

/-- Passes while the turn is not withdrawn. -/
def check (token : CancelToken) : Except String Unit :=
  if token.cancelled then .error token.withdrawal else .ok ()

end CancelToken

end Machining.Session
