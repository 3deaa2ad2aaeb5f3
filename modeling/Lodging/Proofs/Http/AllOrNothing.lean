import Lodging.Proofs.Http.Gate

/-! # Refused requests leave no trace

A call that is refused leaves every store as it was, and so does a request that is
answered, but not with success; what only asks leaves the stores as they were whatever it
is answered (`Lodging.Http.Server.all_or_nothing`). A call that breaks off is not refused
and its request is not answered; only writes to the ledger do so.
-/

namespace Lodging.Http

/-- The request only asks: by its method, or by what the action behind it does. -/
def Request.Asks (request : Request) : Prop :=
  request.method = .get ∨ request.method = .head ∨
    ∃ organization hotel action, request.route = .hotel organization hotel action ∧
      action.changes = false

/-- What may be read below a hotel changes nothing. -/
theorem Place.changes_of_get {place : Place} {action : Action}
    (read : place.action? .get = some action) : action.changes = false := by
  cases place <;> simp only [Place.action?, Option.some.injEq, reduceCtorEq] at read <;>
    subst read <;> rfl

theorem Request.changes_of_asks {request : Request} {organization hotel : String}
    {action : Action} (asks : request.Asks)
    (routed : request.route = .hotel organization hotel action) : action.changes = false := by
  obtain ⟨place, known⟩ := request.action?_of_route routed
  rcases asks with get | head | ⟨_, _, _, same, asks⟩
  · exact Place.changes_of_get (get ▸ known)
  · exact Place.changes_of_get (head ▸ known)
  · obtain ⟨_, _, rfl⟩ := Route.hotel.inj (same.symm.trans routed)
    exact asks

namespace Server

variable {server : Server} {now : Instant} {request : Request} {backend : Backend}

/-- A request that does not lead below a hotel changes nothing. -/
theorem answer_elsewhere
    (elsewhere : ∀ organization hotel action, request.route ≠ .hotel organization hotel action) :
    (server.answer now request backend).2 = backend := by
  have routed : (server.answerRoute now request backend).2 = backend := by
    rw [answerRoute]
    split
    next => rfl
    next => rfl
    next organization hotel action led => exact absurd led (elsewhere organization hotel action)
    next => rfl
    next => rfl
  rw [answer]
  split
  · rfl
  · exact routed
  · exact routed

section Leads

variable {organization hotel : String} {action : Action} {answer : Backend → Option Response × Backend}

theorem Leads.stores_of_refused (leads : Leads server now organization hotel action request answer)
    {response : Response} (given : response ∈ (answer backend).1)
    (refused : ¬ IsAccepted response.status) : (answer backend).2.stores = backend.stores := by
  cases leads with
  | unauthorized => rfl
  | rejected => rfl
  | called claims _ owner house _ _ perform serves =>
      have traceless : Service.IsTraceless (action.guarded claims.caller owner house perform) :=
        Action.isTraceless_guarded serves
      rw [respond_after]
      obtain ⟨success, _, outcome, responded⟩ | ⟨problem, _, outcome, _⟩ | ⟨_, _, responded⟩ :=
        respond_cases server now (action.guarded claims.caller owner house perform) backend
      · dsimp only at given
        rw [responded] at given
        obtain rfl := Option.some.inj given
        exact absurd (Action.run_guarded_ok serves outcome).1 refused
      · exact traceless _ backend problem (congrArg Prod.fst outcome)
      · dsimp only at given
        rw [responded] at given
        exact nomatch given

theorem Leads.stores_of_asked (leads : Leads server now organization hotel action request answer)
    (asks : action.changes = false) : (answer backend).2.stores = backend.stores := by
  cases leads with
  | unauthorized => rfl
  | rejected => rfl
  | called claims _ owner house _ _ perform serves =>
      rw [respond_after]
      exact (Action.isQuery_guarded serves asks).stores _ backend

end Leads

/-- A request that is answered, but not with success, changes nothing. -/
theorem answer_refused {response : Response}
    (given : response ∈ (server.answer now request backend).1)
    (refused : ¬ IsAccepted response.status) :
    (server.answer now request backend).2.stores = backend.stores := by
  cases led : request.route with
  | hotel organization hotel action =>
      have leads := answerHotel_leads server now organization hotel action request
      rw [answer_of_hotel server now led] at given ⊢
      obtain ⟨whole, made, status⟩ := Request.mem_map_trim given
      exact leads.stores_of_refused made (status ▸ refused)
  | _ => rw [answer_elsewhere (by rw [led]; exact fun _ _ _ same => nomatch same)]

/-- A request that only asks changes nothing, whatever it is answered. -/
theorem answer_asked (asks : request.Asks) :
    (server.answer now request backend).2.stores = backend.stores := by
  cases led : request.route with
  | hotel organization hotel action =>
      have leads := answerHotel_leads server now organization hotel action request
      rw [answer_of_hotel server now led]
      exact leads.stores_of_asked (request.changes_of_asks asks led)
  | _ => rw [answer_elsewhere (by rw [led]; exact fun _ _ _ same => nomatch same)]

/-- **All or nothing.** What is refused, as a call or as a request, changes nothing, and
neither does what only asks. Only writes to the ledger end in any other way. -/
theorem all_or_nothing :
    (∀ (event : Event) backend problem,
      (event.call.perform.run event.circumstance backend).1 = .error (.refused problem) →
        (event.after backend).stores = backend.stores) ∧
    (∀ event : Event, event.call.inventoryWrites? = none →
      ∀ backend, (event.call.perform.run event.circumstance backend).1 ≠ .error .overflow) ∧
    (∀ event : Event, event.call.changes = false →
      ∀ backend, (event.after backend).stores = backend.stores) ∧
    (∀ (server : Server) now request backend, ∀ response ∈ (server.answer now request backend).1,
      ¬ IsAccepted response.status →
        (server.answer now request backend).2.stores = backend.stores) ∧
    (∀ (server : Server) now (request : Request), request.Asks →
      ∀ backend, (server.answer now request backend).2.stores = backend.stores) := by
  refine ⟨?_, ?_, ?_, fun _ _ _ _ _ given => answer_refused given,
    fun _ _ _ asks _ => answer_asked asks⟩
  · intro event backend problem refused
    exact event.call.isTraceless event.circumstance backend problem refused
  · intro event unwritten backend
    exact (event.call.isAtomic unwritten).settles event.circumstance backend
  · intro event asks backend
    exact (event.call.isQuery asks).stores event.circumstance backend

end Server

end Lodging.Http

namespace Lodging

open Sample Http in
/-- A plan that is not there is not deleted, and a plan that is there neither without a
token nor by being asked for. -/
theorem Http.Server.all_or_nothing_in_a_house :
    (Event.after ⟨.deletePlan ⟨1⟩ ⟨4⟩, Sample.circumstance⟩ owned).stores = owned.stores ∧
    ((Call.deletePlan ⟨1⟩ ⟨4⟩).perform.run Sample.circumstance owned).1 ≠ .error .overflow ∧
    (Event.after ⟨.listPlans ⟨1⟩ none, Sample.circumstance⟩ owned).stores = owned.stores ∧
    (server.answer default (asking .delete .none) owned).2.stores = owned.stores ∧
    (server.answer default (asking .get (.bearer "manager")) owned).2.stores = owned.stores := by
  obtain ⟨failed, settled, asked, refused, read⟩ := all_or_nothing
  obtain ⟨response, given, unaccepted⟩ :
      ∃ response ∈ (server.answer default (asking .delete .none) owned).1,
        ¬ IsAccepted response.status := by
    decide +kernel
  exact ⟨failed ⟨.deletePlan ⟨1⟩ ⟨4⟩, Sample.circumstance⟩ owned _ rfl,
    settled ⟨.deletePlan ⟨1⟩ ⟨4⟩, Sample.circumstance⟩ rfl owned,
    asked ⟨.listPlans ⟨1⟩ none, Sample.circumstance⟩ rfl owned,
    refused server default (asking .delete .none) owned response given unaccepted,
    read server default (asking .get (.bearer "manager")) (.inl rfl) owned⟩

end Lodging
