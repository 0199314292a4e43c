import Companions.Session.Basic

/-! What a request carries to show who sends it. -/
namespace Companions.Signing

/-- A header value has no control character other than a tab. -/
def isHeaderChar (c : Char) : Bool := c = '\t' || (0x20 ≤ c.toNat && c.toNat != 0x7F)

/-- The bearer token, if there is one, and the headers of the visit; `none` when the token cannot be
a header value. -/
def sign (token : Option String) (session : Session) : Option (List (String × String)) :=
  match token with
  | none => some session.headers
  | some t =>
    if t.toList.all isHeaderChar then some (("Authorization", "Bearer " ++ t) :: session.headers)
    else none

end Companions.Signing
