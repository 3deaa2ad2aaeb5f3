import Lodging.Access.Role

/-! # Access tokens

A token is a text that carries claims, sealed with a secret. Tokens are made and read
by a library, of which nothing is known here but what it can be asked for
(`TokenLibrary`); what is said of a token that it refuses is only whether it has
expired.
-/

namespace Lodging

/-- What a token says of its bearer. -/
structure Claims where
  subject : Id
  organization : Id
  role : Role
  /-- The second, counted as clocks do, at which the token was issued. -/
  issuedAt : Int
  /-- The second, counted as clocks do, at which it expires. -/
  expiresAt : Int
deriving DecidableEq, Repr

namespace Claims

def caller (claims : Claims) : Caller where
  user := claims.subject
  organization := claims.organization
  role := claims.role

/-- The claims of a token issued now for some seconds. -/
def issued (caller : Caller) (now lifetime : Int) : Claims where
  subject := caller.user
  organization := caller.organization
  role := caller.role
  issuedAt := now
  expiresAt := now + lifetime

end Claims

/-- Why a token is not read. -/
inductive TokenRefusal where
  /-- It was sealed with the secret, but has expired. -/
  | expired
  /-- There is anything else wrong with it. -/
  | unreadable
deriving DecidableEq, Repr

/-- The library that makes and reads tokens. -/
structure TokenLibrary where
  /-- The token for claims, sealed with a secret, or the reason that there is none. -/
  encode : (secret : String) → Claims → Except String String
  /-- The claims of a token, read with a secret at some second. -/
  decode : (secret token : String) → (now : Int) → Except TokenRefusal Claims

/-- Makes and accepts tokens with one secret. -/
structure TokenService where
  secret : String
  library : TokenLibrary

namespace TokenService

/-- The seconds that a token is issued for. -/
def lifetime : Int := 900

def issue (tokens : TokenService) (caller : Caller) (now : Int) : Except AccessFault String :=
  (tokens.library.encode tokens.secret (.issued caller now lifetime)).mapError .tokenGeneration

/-- The claims of a token that is accepted now. -/
def accept (tokens : TokenService) (token : String) (now : Int) : Except AccessFault Claims :=
  (tokens.library.decode tokens.secret token now).mapError fun refusal =>
    match refusal with
    | .expired => .expiredToken
    | .unreadable => .invalidToken

end TokenService

/-- What a request carries to show who makes it. -/
inductive Authorization where
  /-- Nothing. -/
  | none
  /-- A token behind the word for a bearer. -/
  | bearer (token : String)
  /-- Any other text. -/
  | other (text : String)
deriving DecidableEq, Repr

namespace Authorization

/-- The word and the space that precede a token. -/
def bearerWord : String := "Bearer "

/-- What a header text presents. -/
def ofText (text : String) : Authorization :=
  if text.startsWith bearerWord then
    .bearer (String.ofList (text.toList.drop bearerWord.length))
  else .other text

def caller (authorization : Authorization) (tokens : TokenService) (now : Int) :
    Except AccessFault Caller :=
  match authorization with
  | .none => .error .missingToken
  | .other _ => .error .invalidToken
  | .bearer token => (tokens.accept token now).map Claims.caller

end Authorization

end Lodging
