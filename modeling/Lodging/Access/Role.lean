import Lodging.Document.Decode

/-! # Staff roles

Every member of the staff has a role in an organization. Only administrators and
managers may change plans, inventory and reservations.
-/

namespace Lodging

/-- The role of a member of the staff. -/
inductive Role where
  | admin
  | manager
  | staff
deriving DecidableEq, Repr, Inhabited

namespace Role

def name : Role → String
  | .admin => "ADMIN"
  | .manager => "MANAGER"
  | .staff => "STAFF"

def decode : Decoder Role :=
  Decoder.oneOf [.admin, .manager, .staff] name

/-- The role may change plans, inventory and reservations. -/
def canManage : Role → Bool
  | .admin | .manager => true
  | .staff => false

end Role

/-- A member of the staff, as a token presents them. -/
structure Caller where
  user : Id
  organization : Id
  role : Role
deriving DecidableEq, Repr

inductive AccessFault where
  | missingToken
  | invalidToken
  | expiredToken
  /-- A token could not be made. -/
  | tokenGeneration (reason : String)
  /-- The token belongs to another organization. -/
  | foreignOrganization
  /-- The role may not make changes. -/
  | roleTooLow
deriving DecidableEq, Repr

def AccessFault.message : AccessFault → String
  | .missingToken => "Missing authentication token"
  | .invalidToken => "Invalid token"
  | .expiredToken => "Token has expired"
  | .tokenGeneration reason => s!"Token generation error: {reason}"
  | .foreignOrganization => "Access to this organization is not allowed"
  | .roleTooLow => "Insufficient permissions: ADMIN or MANAGER role required"

namespace Caller

/-- Only members of an organization get at what it owns. -/
def requireOrganization (caller : Caller) (organization : Id) : Except AccessFault Unit :=
  if caller.organization = organization then .ok () else .error .foreignOrganization

/-- Only those who manage may make changes. -/
def requireManager (caller : Caller) : Except AccessFault Unit :=
  if caller.role.canManage then .ok () else .error .roleTooLow

end Caller

end Lodging
