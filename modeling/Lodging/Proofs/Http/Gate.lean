import Lodging.Proofs.Http.Action

/-! # The gate in front of a hotel

Whatever is asked for below a hotel, the same gate stands in front of it. A token
that is not accepted ends the request before anything else is looked at; only
members of the organization learn anything of what is stored, and only those who
manage change it (`Lodging.Http.Server.gate`).
-/

namespace Lodging

/-! ## What access depends on -/

namespace Access

open Service

variable {caller : Caller} {organization hotel : Id} {circumstance : Circumstance}
  {backend after : Backend} {answer : Unit}

/-- Members are those whose token names the organization. -/
theorem requireOrganization_ok :
    caller.requireOrganization organization = .ok answer ↔ caller.organization = organization := by
  simp only [Caller.requireOrganization]
  split <;> simp_all only [reduceCtorEq]

theorem requireManager_ok :
    caller.requireManager = .ok answer ↔ caller.role.canManage = true := by
  simp only [Caller.requireManager]
  split <;> simp_all only [reduceCtorEq]

theorem isQuery_read : IsQuery (Access.read caller organization hotel) :=
  (isQuery_accept _ _).bind fun _ => (isQuery_consult _ _).bind fun _ =>
    .ite (isQuery_fail _) (isQuery_pure ())

theorem isQuery_change : IsQuery (Access.change caller organization hotel) :=
  isQuery_read.bind fun _ => isQuery_accept _ _

/-- Who passes is a member, and the hotel is one of the organization. -/
theorem run_read_ok :
    run (Access.read caller organization hotel) circumstance backend = (.ok answer, after) →
      caller.organization = organization ∧
        backend.stores.directory.hotelIn organization hotel = true := by
  simp only [Access.read, run_bind_ok, run_accept_ok, requireOrganization_ok, run_consult_ok,
    run_ite_ok, run_fail_ok, and_false, false_or]
  rintro ⟨_, _, ⟨member, rfl⟩, known, _, ⟨_, rfl, rfl⟩, found, _⟩
  rw [Bool.not_eq_true', Bool.not_eq_false] at found
  exact ⟨member, found⟩

/-- Who passes may also manage. -/
theorem run_change_ok :
    run (Access.change caller organization hotel) circumstance backend = (.ok answer, after) →
      (caller.organization = organization ∧
        backend.stores.directory.hotelIn organization hotel = true) ∧
      caller.role.canManage = true := by
  simp only [Access.change, run_bind_ok, run_accept_ok, requireManager_ok]
  rintro ⟨_, _, read, manages, _⟩
  exact ⟨run_read_ok read, manages⟩

end Access

namespace Http

open Service

/-- The request carries a token that the server accepts at the time, and these are its
claims. -/
def Request.Presents (request : Request) (server : Server) (now : Instant) (claims : Claims) :
    Prop :=
  ∃ token, request.authorization = .bearer token ∧
    server.tokens.accept token now.clockSeconds = .ok claims

/-- A request presents the claims of one token. -/
theorem Request.Presents.unique {request : Request} {server : Server} {now : Instant}
    {one other : Claims} (left : request.Presents server now one)
    (right : request.Presents server now other) : one = other := by
  obtain ⟨token, carried, held⟩ := left
  obtain ⟨_, same, heldToo⟩ := right
  obtain rfl := Authorization.bearer.inj (carried.symm.trans same)
  exact Except.ok.inj (held.symm.trans heldToo)

/-- A caller is known exactly by the claims of a token that is accepted. -/
theorem caller_ok {request : Request} {server : Server} {now : Instant} {caller : Caller} :
    request.authorization.caller server.tokens now.clockSeconds = .ok caller ↔
      ∃ claims, request.Presents server now claims ∧ claims.caller = caller := by
  unfold Request.Presents
  cases request.authorization with
  | none => simp only [Authorization.caller, reduceCtorEq, false_and, exists_false]
  | other text => simp only [Authorization.caller, reduceCtorEq, false_and, exists_false]
  | bearer token =>
      simp only [Authorization.caller, map_eq_ok, Authorization.bearer.injEq, exists_eq_left']

/-- Without a token that is accepted a request is answered with one status. -/
theorem caller_error {authorization : Authorization} {tokens : TokenService} {clock : Int}
    {fault : AccessFault} (refused : authorization.caller tokens clock = .error fault) :
    fault.failure.status = 401 := by
  cases authorization with
  | none =>
      obtain rfl := Except.error.inj refused
      rfl
  | other text =>
      obtain rfl := Except.error.inj refused
      rfl
  | bearer token =>
      rw [Authorization.caller, TokenService.accept] at refused
      -- The library tells what has expired from what it cannot read.
      rcases read : tokens.library.decode tokens.secret token clock with refusal | claims
      · rw [read] at refused
        obtain rfl := Except.error.inj refused
        cases refusal <;> rfl
      · rw [read] at refused
        exact nomatch refused

/-- No failure of a call has a status of success. -/
theorem not_isAccepted_failure (failure : Failure) : ¬ IsAccepted failure.status := by
  have least : 400 ≤ failure.status := by
    cases failure <;> simp only [Failure.status] <;> omega
  exact fun accepted => absurd accepted.2 (by omega)

theorem not_isAccepted_rejection (rejection : Rejection) : ¬ IsAccepted rejection.status := by
  cases rejection <;> decide

namespace Action

variable {action : Action} {caller : Caller} {organization hotel : Id}
  {perform : Id → Service Success} {circumstance : Circumstance} {backend after : Backend}

/-- What is refused has changed nothing, as the answer is made of what the call gives. -/
theorem Serves.isTraceless {service : Service Success} (serves : action.Serves hotel service) :
    IsTraceless service := by
  cases serves with
  | refused problem => exact (isQuery_fail problem).isAtomic.isTraceless
  | called call => exact call.isTraceless.bind_committed fun _ => isCommitted_pure _

/-- An action that does not change anything only asks. -/
theorem Serves.isQuery {service : Service Success} (serves : action.Serves hotel service)
    (asks : action.changes = false) : IsQuery service := by
  cases serves with
  | refused problem => exact isQuery_fail problem
  | called call _ changes => exact (call.isQuery (changes.trans asks)).bind fun _ => isQuery_pure _

theorem Serves.isAccepted {service : Service Success} (serves : action.Serves hotel service)
    {success : Success} (answered : run service circumstance backend = (.ok success, after)) :
    IsAccepted success.response.status := by
  cases serves with
  | refused problem => exact (run_fail_ok.mp answered).elim
  | called call _ _ success accepted =>
      obtain ⟨answer, _, _, done⟩ := run_bind_ok.mp answered
      obtain ⟨rfl, _⟩ := run_pure_ok.mp done
      exact accepted answer

/-- The gate only asks, so what is refused behind it leaves no trace either. -/
theorem isTraceless_guarded (serves : action.Serves hotel (perform hotel)) :
    IsTraceless (action.guarded caller organization hotel perform) :=
  .ite (Access.isQuery_change.bind_traceless fun _ => serves.isTraceless)
    (Access.isQuery_read.bind_traceless fun _ => serves.isTraceless)

/-- With its gate an action that does not change anything still only asks. -/
theorem isQuery_guarded (serves : action.Serves hotel (perform hotel))
    (asks : action.changes = false) :
    IsQuery (action.guarded caller organization hotel perform) :=
  .ite (Access.isQuery_change.bind fun _ => serves.isQuery asks)
    (Access.isQuery_read.bind fun _ => serves.isQuery asks)

/-- Who gets an answer is a member of the organization, and manages if anything may
change. -/
theorem run_guarded_ok {success : Success} (serves : action.Serves hotel (perform hotel))
    (answered : run (action.guarded caller organization hotel perform) circumstance backend =
      (.ok success, after)) :
    IsAccepted success.response.status ∧ caller.organization = organization ∧
      backend.stores.directory.hotelIn organization hotel = true ∧
      (action.changes = true → caller.role.canManage = true) := by
  simp only [guarded, run_bind_ok, run_ite_ok] at answered
  rcases answered with ⟨_, _, _, passed, served⟩ | ⟨asks, _, _, passed, served⟩
  · obtain ⟨⟨member, known⟩, manages⟩ := Access.run_change_ok passed
    exact ⟨serves.isAccepted served, member, known, fun _ => manages⟩
  · obtain ⟨member, known⟩ := Access.run_read_ok passed
    exact ⟨serves.isAccepted served, member, known, fun changes => absurd changes asks⟩

/-- Who changes something is a member of the organization and manages, also if the call
breaks off. -/
theorem passed_of_changed (serves : action.Serves hotel (perform hotel))
    (changed : (run (action.guarded caller organization hotel perform) circumstance
      backend).2.stores ≠ backend.stores) :
    (caller.organization = organization ∧
      backend.stores.directory.hotelIn organization hotel = true) ∧
    caller.role.canManage = true := by
  have changes : action.changes = true := Decidable.byContradiction fun asks =>
    changed ((isQuery_guarded serves (Bool.eq_false_iff.mpr asks)).stores circumstance backend)
  rw [guarded, if_pos changes] at changed
  obtain ⟨_, _, passed⟩ := Access.isQuery_change.ok_of_changed changed
  exact Access.run_change_ok passed

/-- A stranger is refused whatever is stored. -/
theorem run_guarded_foreign (foreign : caller.organization ≠ organization) :
    run (action.guarded caller organization hotel perform) circumstance backend =
      (.error (.refused (.access .foreignOrganization)), backend) := by
  have refused : caller.requireOrganization organization = .error .foreignOrganization :=
    if_neg foreign
  cases changes : action.changes <;>
    simp only [guarded, changes, Access.change, Access.read, refused, accept, run_bind, run_fail,
      Bool.false_eq_true, ↓reduceIte]

/-- A call that is understood stands behind the gate of its action. -/
theorem call_ok {organization hotel : String} {request : Request} {service : Service Success}
    (understood : action.call organization hotel caller request = .ok service) :
    ∃ owner house perform, pathId organization = .ok owner ∧ pathId hotel = .ok house ∧
      action.Serves house (perform house) ∧
      service = action.guarded caller owner house perform := by
  simp only [call, bind_eq_ok, Except.ok.injEq] at understood
  obtain ⟨owner, named, house, housed, perform, performed, rfl⟩ := understood
  exact ⟨owner, house, perform, named, housed, Action.serves performed house, rfl⟩

end Action

/-! ## Requests below a hotel -/

/-- Below a hotel a place is asked for in one of the ways that it knows. -/
theorem Request.action?_of_route {request : Request} {organization hotel : String}
    {action : Action} (routed : request.route = .hotel organization hotel action) :
    ∃ place : Place, place.action? request.method.routed = some action := by
  rw [Request.route, Route.ofSegments.eq_def] at routed
  split at routed
  · split at routed <;> exact nomatch routed
  · split at routed <;> exact nomatch routed
  · split at routed
    · exact nomatch routed
    · rename_i place _
      cases known : place.action? request.method.routed with
      | none =>
          rw [known] at routed
          exact nomatch routed
      | some other =>
          rw [known] at routed
          obtain ⟨_, _, rfl⟩ := Route.hotel.inj routed
          exact ⟨place, known⟩
  · exact nomatch routed

/-- Options are asked for before it is looked at where a request leads. -/
theorem Request.method_ne_options {request : Request} {organization hotel : String}
    {action : Action} (routed : request.route = .hotel organization hotel action) :
    request.method ≠ .options := by
  intro asked
  obtain ⟨place, known⟩ := request.action?_of_route routed
  rw [asked] at known
  cases place <;> exact nomatch known

/-- The response to a request without a body that was not asked for. -/
def Request.trim (request : Request) (response : Response) : Response :=
  if request.method = .head then response.withoutBody else response

theorem Request.trim_status (request : Request) (response : Response) :
    (request.trim response).status = response.status := by
  rw [Request.trim]
  split <;> rfl

/-- A response that is trimmed has the status of a response as it was made. -/
theorem Request.mem_map_trim {request : Request} {made : Option Response} {response : Response}
    (trimmed : response ∈ made.map request.trim) :
    ∃ whole ∈ made, whole.status = response.status := by
  obtain ⟨whole, given, rfl⟩ := Option.map_eq_some_iff.mp trimmed
  exact ⟨whole, given, (request.trim_status whole).symm⟩

namespace Server

variable {server : Server} {now : Instant} {request : Request} {organization hotel : String}
  {action : Action} {backend : Backend}

/-- A request that leads to a hotel is answered there, up to a body that is left out. -/
theorem answer_of_hotel (server : Server) (now : Instant)
    (routed : request.route = .hotel organization hotel action) (backend : Backend) :
    server.answer now request backend =
      ((server.answerHotel now organization hotel action request backend).1.map request.trim,
        (server.answerHotel now organization hotel action request backend).2) := by
  have asked := request.method_ne_options routed
  have routing : server.answerRoute now request backend =
      server.answerHotel now organization hotel action request backend := by
    rw [answerRoute, routed]
  have trimming : request.trim = if request.method = .head then Response.withoutBody else id := by
    funext response
    rw [Request.trim]
    split <;> rfl
  rw [answer.eq_def, routing, trimming]
  cases method : request.method with
  | options => exact absurd method asked
  | head => rfl
  | _ => rw [if_neg nofun, Option.map_id, id]

/-- What becomes of a request below a hotel: it has no token that is accepted, it is
not understood, or it makes a call behind the gate. -/
inductive Leads (server : Server) (now : Instant) (organization hotel : String)
    (action : Action) (request : Request) : (Backend → Option Response × Backend) → Prop where
  | unauthorized (fault : AccessFault) (unheld : ∀ claims, ¬ request.Presents server now claims)
      (status : fault.failure.status = 401) :
      Leads server now organization hotel action request fun backend =>
        (some (failureResponse fault.failure now), backend)
  | rejected (claims : Claims) (held : request.Presents server now claims)
      (rejection : Rejection) :
      Leads server now organization hotel action request fun backend =>
        (some rejection.response, backend)
  | called (claims : Claims) (held : request.Presents server now claims) (owner house : Id)
      (named : pathId organization = .ok owner) (housed : pathId hotel = .ok house)
      (perform : Id → Service Success) (serves : action.Serves house (perform house)) :
      Leads server now organization hotel action request fun backend =>
        server.respond now (action.guarded claims.caller owner house perform) backend

/-- The three ends are all that there are, in this order. -/
theorem answerHotel_leads (server : Server) (now : Instant) (organization hotel : String)
    (action : Action) (request : Request) :
    Leads server now organization hotel action request
      (server.answerHotel now organization hotel action request) := by
  unfold answerHotel
  cases presented : request.authorization.caller server.tokens now.clockSeconds with
  | error fault =>
      refine .unauthorized fault (fun claims held => ?_) (caller_error presented)
      rw [caller_ok.mpr ⟨claims, held, rfl⟩] at presented
      exact nomatch presented
  | ok caller =>
      obtain ⟨claims, held, rfl⟩ := caller_ok.mp presented
      dsimp only
      cases understood : action.call organization hotel claims.caller request with
      | error rejection => exact .rejected claims held rejection
      | ok service =>
          obtain ⟨owner, house, perform, named, housed, serves, rfl⟩ := Action.call_ok understood
          exact .called claims held owner house named housed perform serves

/-- A call gives an answer, is refused or gets no response. -/
theorem respond_cases (server : Server) (now : Instant) (service : Service Success)
    (backend : Backend) :
    (∃ success after, run service (server.circumstance now) backend = (.ok success, after) ∧
        server.respond now service backend = (some success.response, after)) ∨
      (∃ problem after,
        run service (server.circumstance now) backend = (.error (.refused problem), after) ∧
          server.respond now service backend =
            (some (failureResponse problem.failure now), after)) ∨
      ∃ after, run service (server.circumstance now) backend = (.error .overflow, after) ∧
        server.respond now service backend = (none, after) := by
  rw [respond]
  rcases run service (server.circumstance now) backend with ⟨⟨problem | _⟩ | success, after⟩
  · exact .inr (.inl ⟨problem, after, rfl, rfl⟩)
  · exact .inr (.inr ⟨after, rfl, rfl⟩)
  · exact .inl ⟨success, after, rfl, rfl⟩

/-- Whatever the response, the call has left what it leaves. -/
theorem respond_after (server : Server) (now : Instant) (service : Service Success)
    (backend : Backend) :
    (server.respond now service backend).2 =
      (run service (server.circumstance now) backend).2 := by
  rw [respond]
  rcases run service (server.circumstance now) backend with ⟨⟨problem | _⟩ | success, after⟩ <;>
    rfl

/-- Only an answer succeeds. -/
theorem respond_accepted {service : Service Success} {response : Response}
    (given : response ∈ (server.respond now service backend).1)
    (accepted : IsAccepted response.status) :
    ∃ success after, run service (server.circumstance now) backend = (.ok success, after) := by
  obtain ⟨success, after, outcome, _⟩ | ⟨problem, _, _, responded⟩ | ⟨_, _, responded⟩ :=
    respond_cases server now service backend
  · exact ⟨success, after, outcome⟩
  · rw [responded] at given
    obtain rfl := Option.some.inj given
    exact absurd accepted (not_isAccepted_failure problem.failure)
  · rw [responded] at given
    exact nomatch given

/-- The token names the organization in the path, and the hotel in the path is one of
that organization. -/
def Lets (organization hotel : String) (directory : Directory) (claims : Claims) : Prop :=
  pathId organization = .ok claims.organization ∧
    ∃ id, pathId hotel = .ok id ∧ directory.hotelIn claims.organization id = true

/-- What stands between a request and a hotel. -/
structure Guards (server : Server) (now : Instant) (request : Request)
    (organization hotel : String) : Prop where
  /-- Without a token that is accepted nothing else is looked at. -/
  unauthorized : (∀ claims, ¬ request.Presents server now claims) →
    ∀ backend, (server.answer now request backend).1.map (·.status) = some 401
  /-- Only a member of the organization succeeds, with a hotel of the organization. -/
  admitted : ∀ backend, ∀ response ∈ (server.answer now request backend).1,
    IsAccepted response.status →
      ∃ claims, request.Presents server now claims ∧
        Lets organization hotel backend.stores.directory claims
  /-- Only who manages changes anything. -/
  changed : ∀ backend, (server.answer now request backend).2.stores ≠ backend.stores →
    ∃ claims, request.Presents server now claims ∧
      Lets organization hotel backend.stores.directory claims ∧
      (claims.role = .admin ∨ claims.role = .manager)
  /-- A stranger learns nothing of what is stored. -/
  foreign : ∀ claims, request.Presents server now claims →
    pathId organization ≠ .ok claims.organization →
    ∀ one other, (server.answer now request one).1 = (server.answer now request other).1

theorem canManage_iff {role : Role} : role.canManage = true ↔ role = .admin ∨ role = .manager := by
  cases role <;> decide

section Leads

variable {answer : Backend → Option Response × Backend}

theorem Leads.status_of_unheld (leads : Leads server now organization hotel action request answer)
    (unheld : ∀ claims, ¬ request.Presents server now claims) (backend : Backend) :
    (answer backend).1.map (·.status) = some 401 := by
  cases leads with
  | unauthorized fault _ status => exact congrArg some status
  | rejected claims held => exact absurd held (unheld claims)
  | called claims held => exact absurd held (unheld claims)

/-- Only a call behind the gate ends in success. -/
theorem Leads.lets_of_accepted (leads : Leads server now organization hotel action request answer)
    {response : Response} (given : response ∈ (answer backend).1)
    (accepted : IsAccepted response.status) :
    ∃ claims, request.Presents server now claims ∧
      Lets organization hotel backend.stores.directory claims := by
  cases leads with
  | unauthorized fault =>
      obtain rfl := Option.some.inj given
      exact absurd accepted (not_isAccepted_failure fault.failure)
  | rejected _ _ rejection =>
      obtain rfl := Option.some.inj given
      exact absurd accepted (not_isAccepted_rejection rejection)
  | called claims held owner house named housed perform serves =>
      obtain ⟨_, _, outcome⟩ := respond_accepted given accepted
      obtain ⟨_, rfl, known, _⟩ := Action.run_guarded_ok serves outcome
      exact ⟨claims, held, named, house, housed, known⟩

/-- Only a call behind the gate changes anything, and the gate lets managers change. -/
theorem Leads.manages_of_changed
    (leads : Leads server now organization hotel action request answer)
    (changed : (answer backend).2.stores ≠ backend.stores) :
    ∃ claims, request.Presents server now claims ∧
      Lets organization hotel backend.stores.directory claims ∧
      (claims.role = .admin ∨ claims.role = .manager) := by
  cases leads with
  | unauthorized => exact absurd rfl changed
  | rejected => exact absurd rfl changed
  | called claims held owner house named housed perform serves =>
      rw [respond_after] at changed
      obtain ⟨⟨rfl, known⟩, manages⟩ := Action.passed_of_changed serves changed
      exact ⟨claims, held, ⟨named, house, housed, known⟩, canManage_iff.mp manages⟩

/-- The gate refuses a stranger before it asks a store. -/
theorem Leads.answer_of_foreign
    (leads : Leads server now organization hotel action request answer) {claims : Claims}
    (held : request.Presents server now claims)
    (foreign : pathId organization ≠ .ok claims.organization) (one other : Backend) :
    (answer one).1 = (answer other).1 := by
  cases leads with
  | unauthorized => rfl
  | rejected => rfl
  | called others heldToo owner house named =>
      obtain rfl := held.unique heldToo
      have stranger : claims.caller.organization ≠ owner :=
        fun same => foreign (named.trans (congrArg Except.ok same.symm))
      simp only [respond, Action.run_guarded_foreign stranger]

end Leads

/-- **The gate.** Every request below a hotel passes it, whatever it asks for. -/
theorem gate (routed : request.route = .hotel organization hotel action) :
    server.Guards now request organization hotel := by
  have leads := answerHotel_leads server now organization hotel action request
  have answered := answer_of_hotel server now routed
  constructor
  case unauthorized =>
    intro unheld backend
    have status : (fun response => (request.trim response).status) = Response.status :=
      funext request.trim_status
    rw [answered, Option.map_map, Function.comp_def, status]
    exact leads.status_of_unheld unheld backend
  case admitted =>
    intro backend response given accepted
    rw [answered] at given
    obtain ⟨whole, made, status⟩ := Request.mem_map_trim given
    exact leads.lets_of_accepted made (status.symm ▸ accepted)
  case changed =>
    intro backend changed
    rw [answered] at changed
    exact leads.manages_of_changed changed
  case foreign =>
    intro claims held foreign one other
    rw [answered, answered]
    exact congrArg (Option.map request.trim) (leads.answer_of_foreign held foreign one other)

end Server

end Http

/-! ## A house with a gate -/

namespace Sample

open Http

/-- What makes tokens of some claims, each with a text of its own, and grants a minute of
leeway after they have expired. -/
def tokensOf (known : List (String × Claims)) : TokenService where
  secret := "seal"
  library :=
    { encode := fun _ claims =>
        match known.find? fun entry => entry.2 = claims with
        | some (token, _) => .ok token
        | none => .error "unknown claims"
      decode := fun _ token now =>
        match known.lookup token with
        | some claims => if claims.expiresAt + 60 < now then .error .expired else .ok claims
        | none => .error .unreadable }

/-- The house is one of an organization and has a plan. -/
def owned : Backend :=
  { backend with
    stores :=
      { backend.stores with
        directory :=
          { backend.stores.directory with hotels := [{ id := ⟨1⟩, organization := ⟨8⟩ }] }
        plans := [(request "BAR" .hundred []).toPlan ⟨1⟩ ⟨3⟩ default] } }

/-- A manager of the organization. -/
def manager : Claims where
  subject := ⟨7⟩
  organization := ⟨8⟩
  role := .manager
  issuedAt := 0
  expiresAt := 900

/-- A manager of another organization. -/
def stranger : Claims := { manager with organization := ⟨9⟩ }

/-- A server that knows its manager and the stranger by their tokens. -/
def server : Server where
  tokens := tokensOf [("manager", manager), ("stranger", stranger)]
  taxRate := circumstance.taxRate
  maxStayNights := circumstance.maxStayNights
  reachable := circumstance.reachable

/-- The plan of the house is asked for in some way. -/
def asking (method : Method) (authorization : Authorization) : Request where
  method
  address :=
    "/organizations/00000000000000000000000000000008" ++
      "/hotels/00000000000000000000000000000001" ++
      "/rate-plans/00000000000000000000000000000003"
  authorization
  contentType := none
  body := ""

theorem asking_delete_route (authorization : Authorization) :
    (asking .delete authorization).route =
      .hotel "00000000000000000000000000000008" "00000000000000000000000000000001"
        (.deletePlan "00000000000000000000000000000003") := by
  change Route.ofSegments .delete (segments (pathOf (asking .delete .none).address)) = _
  decide +kernel

end Sample

open Sample Http in
/-- Nobody deletes the plan without a token, the manager does, and a manager of another
organization is answered the same whatever is stored. -/
theorem Http.Server.gate_of_a_house :
    (server.answer default (asking .delete .none) owned).1.map (·.status) = some 401 ∧
    (∃ claims, (asking .delete (.bearer "manager")).Presents server default claims ∧
      Lets "00000000000000000000000000000008" "00000000000000000000000000000001"
        owned.stores.directory claims) ∧
    (∃ claims, (asking .delete (.bearer "manager")).Presents server default claims ∧
      Lets "00000000000000000000000000000008" "00000000000000000000000000000001"
        owned.stores.directory claims ∧ (claims.role = .admin ∨ claims.role = .manager)) ∧
    (server.answer default (asking .delete (.bearer "stranger")) owned).1 =
      (server.answer default (asking .delete (.bearer "stranger")) default).1 := by
  obtain ⟨response, given, accepted⟩ :
      ∃ response ∈ (server.answer default (asking .delete (.bearer "manager")) owned).1,
        IsAccepted response.status := by
    decide +kernel
  have changed : (server.answer default (asking .delete (.bearer "manager")) owned).2.stores ≠
      owned.stores := by
    intro same
    have active := congrArg (fun stores => stores.plans.map (·.isActive)) same
    revert active
    decide +kernel
  have foreign : pathId "00000000000000000000000000000008" ≠ .ok stranger.organization := by
    intro same
    have named := congrArg Except.toOption same
    revert named
    decide +kernel
  refine ⟨(gate (asking_delete_route _)).unauthorized ?_ owned,
    (gate (asking_delete_route _)).admitted owned response given accepted,
    (gate (asking_delete_route _)).changed owned changed,
    (gate (asking_delete_route _)).foreign stranger ⟨_, rfl, rfl⟩ foreign owned default⟩
  rintro claims ⟨token, carried, _⟩
  exact nomatch carried

end Lodging
