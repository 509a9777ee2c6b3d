import MagnetStream.Text.Blank

/-!
# Bearer tokens

Callers authenticate with a bearer token: the word `bearer` in any case, one blank, and the token.
-/

namespace MagnetStream.Http

/-- The token of an authorization, if it is a bearer token and not blank. -/
def bearerToken? (authorization : String) : Option String :=
  match Text.splitAtChar ' ' authorization.toList with
  | (scheme, some token) =>
    let token := Text.trimBy Text.isBlank token
    if Text.lower scheme == "bearer".toList && !token.isEmpty then some (String.ofList token)
    else none
  | (_, none) => none

end MagnetStream.Http
