import Lodging.Service.Basic

/-! # Access to a hotel

A caller gets at a hotel of the organization that the token names. Whether the
hotel exists is looked up only for members of the organization, and the role is
looked at last.
-/

namespace Lodging.Access

open Service

/-- The caller may read what belongs to the hotel. -/
def read (caller : Caller) (organization hotel : Id) : Service Unit := do
  accept .access (caller.requireOrganization organization)
  let known ← consult .directory (·.directory.hotelIn organization hotel)
  if !known then fail (.notFound .hotel hotel.display)

/-- The caller may change what belongs to the hotel. -/
def change (caller : Caller) (organization hotel : Id) : Service Unit := do
  read caller organization hotel
  accept .access caller.requireManager

end Lodging.Access
