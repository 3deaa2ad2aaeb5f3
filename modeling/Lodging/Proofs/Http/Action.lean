import Lodging.Http.Server
import Lodging.Proofs.Document.Decode
import Lodging.Proofs.Service.Atomic

/-! # What actions ask the services for

Once a request is understood, its action makes one call below the hotel and answers
with what the call gives, or it fails before the call (`Lodging.Http.Action.serves`).
What holds of all calls holds of all actions by that.
-/

namespace Lodging.Http

/-- The statuses of requests that have succeeded. -/
def IsAccepted (status : Nat) : Prop :=
  200 ≤ status ∧ status < 300

instance (status : Nat) : Decidable (IsAccepted status) :=
  inferInstanceAs (Decidable (_ ∧ _))

/-- What an action does for a hotel: it fails, or it makes a call below the hotel that
changes something only if the action does. -/
inductive Action.Serves (action : Action) (hotel : Id) : Service Success → Prop where
  | refused (problem : Problem) : Serves action hotel (Service.fail problem)
  | called (call : Call) (below : call.hotel = hotel) (changes : call.changes = action.changes)
      (success : call.Answer → Success)
      (accepted : ∀ answer, IsAccepted (success answer).response.status) :
      Serves action hotel (do
        let answer ← call.perform
        pure (success answer))

/-- A response has the status of what it answers, with a body or without. -/
theorem Success.response_status (success : Success) :
    success.response.status = success.status := by
  rw [Success.response]
  split
  next empty => exact empty.symm
  next => rfl

/-- A success is answered with its own status. -/
theorem isAccepted_response {success : Success} (status : Nat) (same : success.status = status)
    (accepted : IsAccepted status) : IsAccepted success.response.status := by
  rw [success.response_status, same]
  exact accepted

theorem isAccepted_ok {message : String} {data : Document} :
    IsAccepted (ok message data).response.status :=
  isAccepted_response 200 rfl (by decide)

/-- Every action serves the hotel that it is performed for. -/
theorem Action.serves {action : Action} {request : Request} {perform : Id → Service Success}
    (understood : action.perform request = .ok perform) (hotel : Id) :
    action.Serves hotel (perform hotel) := by
  cases action with
  | createPlan =>
      simp only [Action.perform, bind_eq_ok, Except.ok.injEq] at understood
      obtain ⟨plan, _, rfl⟩ := understood
      exact .called (.createPlan hotel plan) rfl rfl _ fun _ =>
        isAccepted_response 201 rfl (by decide)
  | listPlans =>
      simp only [Action.perform, bind_eq_ok, Except.ok.injEq] at understood
      obtain ⟨roomType, _, rfl⟩ := understood
      exact .called (.listPlans hotel roomType) rfl rfl _ fun _ => isAccepted_ok
  | calculate =>
      simp only [Action.perform, bind_eq_ok, Except.ok.injEq] at understood
      obtain ⟨wanted, _, rfl⟩ := understood
      exact .called (.calculate hotel wanted) rfl rfl _ fun _ => isAccepted_ok
  | listApplicable =>
      simp only [Action.perform, bind_eq_ok, Except.ok.injEq] at understood
      obtain ⟨wanted, _, rfl⟩ := understood
      exact .called (.applicablePlans hotel wanted) rfl rfl _ fun _ => isAccepted_ok
  | getPlan plan =>
      simp only [Action.perform, bind_eq_ok, Except.ok.injEq] at understood
      obtain ⟨id, _, rfl⟩ := understood
      exact .called (.getPlan hotel id) rfl rfl _ fun _ => isAccepted_ok
  | updatePlan plan =>
      simp only [Action.perform, bind_eq_ok, Except.ok.injEq] at understood
      obtain ⟨id, _, patch, _, rfl⟩ := understood
      exact .called (.updatePlan hotel id patch) rfl rfl _ fun _ => isAccepted_ok
  | deletePlan plan =>
      simp only [Action.perform, bind_eq_ok, Except.ok.injEq] at understood
      obtain ⟨id, _, rfl⟩ := understood
      exact .called (.deletePlan hotel id) rfl rfl _ fun _ =>
        isAccepted_response 204 rfl (by decide)
  | getOverrides plan =>
      simp only [Action.perform, bind_eq_ok, Except.ok.injEq] at understood
      obtain ⟨id, _, range, _, rfl⟩ := understood
      exact .called (.getOverrides hotel id range.1 range.2) rfl rfl _ fun _ => isAccepted_ok
  | putOverride plan =>
      simp only [Action.perform, bind_eq_ok, Except.ok.injEq] at understood
      obtain ⟨id, _, patch, _, rfl⟩ := understood
      exact .called (.putOverride hotel id patch) rfl rfl _ fun _ => isAccepted_ok
  | putOverrides plan =>
      simp only [Action.perform, bind_eq_ok, Except.ok.injEq] at understood
      obtain ⟨id, _, patches, _, rfl⟩ := understood
      exact .called (.putOverrides hotel id patches) rfl rfl _ fun _ => isAccepted_ok
  | deleteOverride plan date =>
      simp only [Action.perform, bind_eq_ok, Except.ok.injEq] at understood
      obtain ⟨id, _, text, _, rfl⟩ := understood
      -- The date is the one thing that an action reads only behind its gate.
      cases Date.read text with
      | error fault => exact .refused (.unreadableDate fault)
      | ok date =>
          exact .called (.deleteOverride hotel id date) rfl rfl (fun _ => noContent)
            fun _ => isAccepted_response 204 rfl (by decide)
  | getInventory roomType =>
      simp only [Action.perform, bind_eq_ok, Except.ok.injEq] at understood
      obtain ⟨id, _, range, _, rfl⟩ := understood
      exact .called (.getInventory hotel id range.1 range.2) rfl rfl _ fun _ => isAccepted_ok
  | putInventory roomType =>
      simp only [Action.perform, bind_eq_ok, Except.ok.injEq] at understood
      obtain ⟨id, _, patch, _, rfl⟩ := understood
      exact .called (.putInventory hotel id patch) rfl rfl _ fun _ => isAccepted_ok
  | putInventories roomType =>
      simp only [Action.perform, bind_eq_ok, Except.ok.injEq] at understood
      obtain ⟨id, _, patches, _, rfl⟩ := understood
      exact .called (.putInventories hotel id patches) rfl rfl _ fun _ => isAccepted_ok
  | checkAvailability roomType =>
      simp only [Action.perform, bind_eq_ok, Except.ok.injEq] at understood
      obtain ⟨id, _, stay, _, rfl⟩ := understood
      exact .called (.checkAvailability hotel id stay) rfl rfl _ fun _ => isAccepted_ok
  | setStatus reservation =>
      simp only [Action.perform, bind_eq_ok, Except.ok.injEq] at understood
      obtain ⟨id, _, status, _, rfl⟩ := understood
      exact .called (.setStatus hotel id status) rfl rfl _ fun _ => isAccepted_ok

end Lodging.Http
