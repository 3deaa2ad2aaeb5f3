import Lodging.Proofs.Http.Gate
import Lodging.Proofs.Service.Outage

/-! # Requests while no store answers

A call that is made while no store answers is refused for a flaw of the request, or else for
the store that it asks first; it gives no answer and claims to know nothing of what is stored.
A request below a hotel does not come that far: behind the token the first thing that is
looked up is the hotel, before the role and before all checks of the service. So all
requests of members are answered alike (`Lodging.Http.Server.outage`).
-/

namespace Lodging

/-! ## What a call is refused for -/

/-- Callers are told of a flaw as a bad request. -/
theorem Problem.IsFlaw.code {problem : Problem} (flaw : problem.IsFlaw) :
    problem.failure.code = "VALIDATION_ERROR" ∨ problem.failure.code = "BAD_REQUEST" := by
  cases flaw with
  | invalidFields faults => exact .inl rfl
  | reversedBounds bounds => exact .inr rfl
  | reversedRange => exact .inr rfl

theorem Problem.IsFlaw.ne_stay {problem : Problem} (flaw : problem.IsFlaw)
    (refusal : Stay.Refusal) : problem ≠ .stay refusal := by
  rintro rfl
  exact nomatch flaw

/-- How a call ends while no store answers. -/
structure Call.EndsInOutage (call : Call) (problem : Problem) : Prop where
  /-- It is refused for a flaw of the request, or else for the store that it asks first. -/
  cause : problem = call.flaw?.getD (.unreachable call.firstStore)
  flawed : (problem.failure.code = "VALIDATION_ERROR" ∨ problem.failure.code = "BAD_REQUEST") ↔
    call.flaw?.isSome = true
  flawless : problem.failure.code = "DATABASE_ERROR" ↔ call.flaw? = none
  /-- The nights of a stay are not looked at. -/
  unstayed : ∀ refusal, problem ≠ .stay refusal

theorem Call.endsInOutage (call : Call) :
    call.EndsInOutage (call.flaw?.getD (.unreachable call.firstStore)) := by
  cases flawed : call.flaw? with
  | none =>
      have told : (Option.getD none (Problem.unreachable call.firstStore)).failure.code =
          "DATABASE_ERROR" := rfl
      refine ⟨by rw [flawed], ?_, ?_, fun _ same => nomatch same⟩
      · rw [told, flawed]
        decide
      · exact iff_of_true told flawed
  | some problem =>
      have flaw := call.flaw?_isFlaw flawed
      refine ⟨by rw [flawed], ?_, ?_, flaw.ne_stay⟩
      · rw [flawed]
        exact iff_of_true flaw.code rfl
      · rw [flawed]
        refine iff_of_false (fun database => ?_) nofun
        rw [Option.getD_some] at database
        rcases flaw.code with code | code
        · exact absurd (database.symm.trans code) (by decide)
        · exact absurd (database.symm.trans code) (by decide)

namespace Http

open Service

/-- Behind the gate nothing is done while the directory does not answer. -/
theorem Action.run_guarded_outage {action : Action} {caller : Caller} {organization hotel : Id}
    {perform : Id → Service Success} {circumstance : Circumstance} {backend : Backend}
    (member : caller.organization = organization)
    (down : circumstance.reachable .directory = false) :
    run (action.guarded caller organization hotel perform) circumstance backend =
      (.error (.refused (.unreachable .directory)), backend) := by
  have own : caller.requireOrganization organization = .ok () := if_pos member
  cases changes : action.changes <;>
    simp only [guarded, changes, Access.change, Access.read, own, accept, run_bind, run_pure,
      run_consult, down, Bool.false_eq_true, ↓reduceIte]

namespace Server

/-- A member's request below a hotel that is understood is answered in one way while the
directory does not answer. -/
theorem answer_outage {server : Server} {now : Instant} {request : Request}
    {organization hotel : String} {action : Action} {claims : Claims} {service : Service Success}
    (down : server.reachable .directory = false)
    (routed : request.route = .hotel organization hotel action)
    (held : request.Presents server now claims)
    (member : pathId organization = .ok claims.organization)
    (understood : action.call organization hotel claims.caller request = .ok service)
    (backend : Backend) :
    server.answer now request backend =
      (some (request.trim (failureResponse .database now)), backend) := by
  obtain ⟨owner, house, perform, named, _, _, rfl⟩ := Action.call_ok understood
  have own : claims.caller.organization = owner := Except.ok.inj (member.symm.trans named)
  have presented := caller_ok.mpr ⟨claims, held, rfl⟩
  have answered : server.answerHotel now organization hotel action request backend =
      (some (failureResponse .database now), backend) := by
    rw [answerHotel, presented]
    dsimp only
    rw [understood]
    dsimp only
    rw [respond, Action.run_guarded_outage own down]
    rfl
  rw [answer_of_hotel server now routed, answered]
  rfl

/-- **Outage.** While no store answers, every call fails and changes nothing, and callers are
told that it was a bad request exactly if the request has a flaw by itself. Every request of a
member below a hotel that is understood is answered with one status, whatever the role. -/
theorem outage :
    (∀ (call : Call) (circumstance : Circumstance) (backend : Backend),
      (∀ store, circumstance.reachable store = false) →
      ∃ problem after, call.perform.run circumstance backend = (.error (.refused problem), after) ∧
        after.stores = backend.stores ∧ call.EndsInOutage problem) ∧
    (∀ (server : Server) (now : Instant) (request : Request) (organization hotel : String)
      (action : Action) (claims : Claims) (service : Service Success) (backend : Backend),
      (∀ store, server.reachable store = false) →
      request.route = .hotel organization hotel action →
      request.Presents server now claims → pathId organization = .ok claims.organization →
      action.call organization hotel claims.caller request = .ok service →
      server.answer now request backend =
          (some (request.trim (failureResponse .database now)), backend) ∧
        (server.answer now request backend).1.map (·.status) = some 500) := by
  constructor
  · intro call circumstance backend down
    have failed := call.fails_of_outage down backend
    exact ⟨_, _, Prod.ext failed rfl, call.isTraceless circumstance backend _ failed,
      call.endsInOutage⟩
  · intro server now request organization hotel action claims service backend down routed held
      member understood
    have answered := answer_outage (down .directory) routed held member understood backend
    refine ⟨answered, ?_⟩
    rw [answered]
    exact congrArg some (request.trim_status _)

end Server

end Http

/-! ## A house in the dark -/

namespace Sample

/-- No store answers. -/
def darkness : Circumstance := { circumstance with reachable := fun _ => false }

/-- A member of the organization who may change nothing. -/
def clerk : Claims := { manager with role := .staff }

/-- A server whose stores do not answer. -/
def cutOff : Http.Server :=
  { server with
    tokens := tokensOf [("clerk", clerk)]
    reachable := fun _ => false }

end Sample

open Sample Http in
/-- In the dark a range that is reversed is a bad request, a stay without a night is not, and
a clerk who deletes a plan is not told to lack the role. -/
theorem Http.Server.outage_in_a_house :
    (∃ problem after,
      (Call.getInventory ⟨1⟩ ⟨2⟩ ⟨11⟩ ⟨10⟩).perform.run darkness owned =
          (.error (.refused problem), after) ∧
        problem.failure.code = "BAD_REQUEST") ∧
    (∃ problem after,
      (Call.checkAvailability ⟨1⟩ ⟨2⟩ ⟨⟨10⟩, ⟨10⟩⟩).perform.run darkness owned =
          (.error (.refused problem), after) ∧
        problem.failure.code = "DATABASE_ERROR") ∧
    (cutOff.answer default (asking .delete (.bearer "clerk")) owned).1.map (·.status) =
      some 500 := by
  obtain ⟨calls, requests⟩ := outage
  refine ⟨?_, ?_, ?_⟩
  · obtain ⟨problem, after, failed, _, ends⟩ :=
      calls (.getInventory ⟨1⟩ ⟨2⟩ ⟨11⟩ ⟨10⟩) darkness owned fun _ => rfl
    refine ⟨problem, after, failed, ?_⟩
    rw [ends.cause]
    rfl
  · obtain ⟨problem, after, failed, _, ends⟩ :=
      calls (.checkAvailability ⟨1⟩ ⟨2⟩ ⟨⟨10⟩, ⟨10⟩⟩) darkness owned fun _ => rfl
    exact ⟨problem, after, failed, ends.flawless.mpr rfl⟩
  · have member : pathId "00000000000000000000000000000008" = .ok clerk.organization :=
      eq_ok_of_toOption (by decide +kernel)
    have housed : pathId "00000000000000000000000000000001" = .ok ⟨1⟩ :=
      eq_ok_of_toOption (by decide +kernel)
    have planned : pathId "00000000000000000000000000000003" = .ok ⟨3⟩ :=
      eq_ok_of_toOption (by decide +kernel)
    have understood : ∃ service, Action.call (.deletePlan "00000000000000000000000000000003")
        "00000000000000000000000000000008" "00000000000000000000000000000001" clerk.caller
        (asking .delete (.bearer "clerk")) = .ok service := by
      rw [Action.call, Action.perform, member, housed, planned]
      exact ⟨_, rfl⟩
    obtain ⟨service, understood⟩ := understood
    have held : (asking .delete (.bearer "clerk")).Presents cutOff default clerk :=
      ⟨_, rfl, rfl⟩
    obtain ⟨_, status⟩ := requests cutOff default _ _ _ _ clerk service owned (fun _ => rfl)
      (asking_delete_route _) held member understood
    exact status

end Lodging
