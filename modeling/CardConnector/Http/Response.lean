import CardConnector.Http.Headers

/-! # Responses

What goes back to the caller: a status, headers and a body of text.
-/

namespace CardConnector.Http

structure Response where
  status : Nat
  headers : Headers
  body : String
deriving DecidableEq

/-- True of the numbers that can be a status: three digits. -/
def isStatus (n : Int) : Bool := 100 ≤ n && n ≤ 999

/-- The reason why a number is no status. -/
def statusFault : String := "invalid status code"

end CardConnector.Http
