/-! # Revisions of a value that may be absent

A partial change says of every field whether it keeps it, and of a field that may
be absent whether it clears it. Applying a revision twice is the same as applying
it once (`Revision.apply_apply`).
-/

namespace Lodging

/-- What a change does to a value that may be absent. -/
inductive Revision (α : Type) where
  /-- The value stays as it is. -/
  | keep
  /-- The value becomes absent. -/
  | clear
  /-- The value is replaced. -/
  | set (value : α)
deriving DecidableEq, Repr, Inhabited

namespace Revision

variable {α : Type}

def apply (revision : Revision α) (current : Option α) : Option α :=
  match revision with
  | .keep => current
  | .clear => none
  | .set value => some value

/-- The new value, if there is one. -/
def new? : Revision α → Option α
  | .set value => some value
  | _ => none

/-- A revision made twice is the same as made once. -/
@[simp] theorem apply_apply (revision : Revision α) (current : Option α) :
    revision.apply (revision.apply current) = revision.apply current := by
  cases revision <;> rfl

end Revision

end Lodging
