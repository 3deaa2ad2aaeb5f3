import Lodging.Proofs.Http.Gate
import Lodging.Proofs.Tenancy.Calls

/-! # Hotels are isolated from each other

A call below a hotel, and a request for one, leaves alone what does not belong to the
hotel, and what it answers and leaves of the hotel depends on nothing else
(`Lodging.Stores.hotels_isolated`).
-/

namespace Lodging

namespace Http

open Service

variable {action : Action} {caller : Caller} {organization hotel : Id} {kept : Slice}
  {perform : Id → Service Success}

/-- What belongs to others than the hotel is kept, as long as the stores are in order. -/
theorem Action.Serves.keeps_rest {service : Service Success}
    (serves : action.Serves hotel service) :
    Keeps (fun stores => stores.Orderly ∧ stores.rest hotel = kept) service := by
  cases serves with
  | refused problem => exact (isQuery_fail problem).keeps _
  | called call below =>
      obtain rfl := below
      refine Keeps.bind ?_ fun _ => (isQuery_pure _).keeps _
      rintro circumstance backend ⟨orderly, rest⟩
      have step := Event.step ⟨call, circumstance⟩ backend
      exact ⟨orderly.step step, (step.rest_eq orderly).trans rest⟩

theorem Action.keeps_rest_guarded (serves : action.Serves hotel (perform hotel)) :
    Keeps (fun stores => stores.Orderly ∧ stores.rest hotel = kept)
      (action.guarded caller organization hotel perform) :=
  .ite ((Access.isQuery_change.keeps _).bind fun _ => serves.keeps_rest)
    ((Access.isQuery_read.keeps _).bind fun _ => serves.keeps_rest)

namespace Server

section Answer

variable {server : Server} {now : Instant} {request : Request} {organization hotel : String}
  {action : Action} {id : Id} {backend : Backend}

theorem Leads.rest_eq {answer : Backend → Option Response × Backend}
    (leads : Leads server now organization hotel action request answer)
    (named : pathId hotel = .ok id) (orderly : backend.stores.Orderly) :
    (answer backend).2.stores.rest id = backend.stores.rest id := by
  cases leads with
  | unauthorized => rfl
  | rejected => rfl
  | called claims _ owner house _ housed perform serves =>
      obtain rfl := Except.ok.inj (named.symm.trans housed)
      rw [respond_after]
      exact (Action.keeps_rest_guarded serves _ backend ⟨orderly, rfl⟩).2

theorem answer_rest (routed : request.route = .hotel organization hotel action)
    (named : pathId hotel = .ok id) (orderly : backend.stores.Orderly) :
    (server.answer now request backend).2.stores.rest id = backend.stores.rest id := by
  have leads := answerHotel_leads server now organization hotel action request
  rw [answer_of_hotel server now routed]
  exact leads.rest_eq named orderly

end Answer

end Server

end Http

namespace Stores

/-- What is answered with one backend and with another: the same, with other names for
ids that the call draws. The gate answers the very same, whoever asks. -/
structure AnsweredAlike (event : Event) (one other : Backend) : Prop where
  call : (event.call.perform.run event.circumstance other).1 =
    (event.call.perform.run event.circumstance one).1.map
      (event.call.renamed (one.stores.naming other.stores))
  read : ∀ caller organization,
    ((Access.read caller organization event.call.hotel).run event.circumstance other).1 =
      ((Access.read caller organization event.call.hotel).run event.circumstance one).1
  change : ∀ caller organization,
    ((Access.change caller organization event.call.hotel).run event.circumstance other).1 =
      ((Access.change caller organization event.call.hotel).run event.circumstance one).1

/-- **Isolation.** A call below a hotel, or a request for the hotel, changes nothing that
belongs to others. On stores that hold the same of the hotel the gate and the call give
the same answers, and the call leaves the same of the hotel, up to the names of the ids
that it draws. -/
theorem hotels_isolated :
    (∀ (event : Event) (backend : Backend), backend.stores.Reachable →
      (event.after backend).stores.rest event.call.hotel =
        backend.stores.rest event.call.hotel) ∧
    (∀ (server : Http.Server) now (request : Http.Request) organization hotel action id
        (backend : Backend),
      request.route = .hotel organization hotel action → Http.pathId hotel = .ok id →
        backend.stores.Reachable →
          (server.answer now request backend).2.stores.rest id = backend.stores.rest id) ∧
    (∀ (event : Event) (one other : Backend),
      one.stores.Reachable → other.stores.Reachable →
        (one.stores.slice event.call.hotel).Same (other.stores.slice event.call.hotel) →
          AnsweredAlike event one other ∧
            (((event.after one).stores.slice event.call.hotel).renamed
              (one.stores.naming other.stores)).Same
                ((event.after other).stores.slice event.call.hotel)) := by
  refine ⟨?_, ?_, ?_⟩
  · intro event backend reached
    exact (event.step backend).rest_eq reached.orderly
  · intro server now request organization hotel action id backend routed named reached
    exact Http.Server.answer_rest routed named reached.orderly
  · intro event one other reached reachedToo same
    have twins : Twins event.call.hotel one.stores other.stores :=
      { left := reached.orderly, right := reachedToo.orderly, same }
    have both := event.call.parallel twins event.circumstance one other rfl rfl
    refine ⟨⟨both.1, fun caller organization => ?_, fun caller organization => ?_⟩, both.2.same⟩
    · exact (Access.steady_read twins caller organization).answer event.circumstance rfl rfl
    · exact (Access.steady_change twins caller organization).answer event.circumstance rfl rfl

end Stores

/-! ## Two houses -/

namespace Sample

/-- The id that is drawn after a number of others. -/
def drawn (count : Nat) : Id :=
  Id.Supply.next { drawn := count }

/-- A house of an organization with one room type. -/
def lone : Backend where
  stores := ((Stores.empty.addOrganization.2.addHotel (drawn 0)).2.addRoomType (drawn 1) "King" 3).2
  metrics := default

/-- A plan of a house is asked for. -/
def planning (hotel roomType : Nat) : Event where
  call := .createPlan (drawn hotel) { request "BAR" .hundred [] with roomType := drawn roomType }
  circumstance := circumstance

/-- The same house beside another one, which has a plan. -/
def beside : Backend :=
  (planning 3 4).after
    { stores := ((lone.stores.addHotel (drawn 0)).2.addRoomType (drawn 3) "Twin" 5).2
      metrics := default }

theorem lone_reachable : lone.stores.Reachable :=
  .roomType (.hotel (.organization .empty) _) _ _ _

theorem beside_reachable : beside.stores.Reachable :=
  .called (.roomType (.hotel lone_reachable _) _ _ _) _

/-- A server that knows the manager of the house. -/
def houseServer : Http.Server :=
  { server with tokens := tokensOf [("manager", { manager with organization := drawn 0 })] }

/-- The plans of the house are asked for with the token of its manager. -/
def listing : Http.Request where
  method := .get
  address :=
    "/organizations/6f1d9b30-52c7-4e8a-9d41-000000000000" ++
      "/hotels/6f1d9b30-52c7-4e8a-9d41-000000000001/rate-plans"
  authorization := .bearer "manager"
  contentType := none
  body := ""

end Sample

open Sample Http in
/-- The house does not notice the other one, and what is done for it does not touch the
other one. -/
theorem Stores.hotels_isolated_for_two_houses :
    ((planning 1 2).after beside).stores.rest (drawn 1) = beside.stores.rest (drawn 1) ∧
    (houseServer.answer default listing beside).2.stores.rest (drawn 1) =
      beside.stores.rest (drawn 1) ∧
    AnsweredAlike (planning 1 2) lone beside ∧
    ((((planning 1 2).after lone).stores.slice (drawn 1)).renamed
      (lone.stores.naming beside.stores)).Same
        (((planning 1 2).after beside).stores.slice (drawn 1)) := by
  obtain ⟨frame, served, alike⟩ := hotels_isolated
  have noPlan (backend : Backend) (none : (backend.stores.slice (drawn 1)).plans.isEmpty = true) :
      (backend.stores.slice (drawn 1)).plans = [] :=
    List.isEmpty_iff.mp none
  have same : (lone.stores.slice (drawn 1)).Same (beside.stores.slice (drawn 1)) := by
    constructor
    case plans => rw [noPlan lone (by decide +kernel), noPlan beside (by decide +kernel)]
    all_goals decide +kernel
  have routed : listing.route = .hotel "6f1d9b30-52c7-4e8a-9d41-000000000000"
      "6f1d9b30-52c7-4e8a-9d41-000000000001" .listPlans := by
    change Route.ofSegments .get (segments (pathOf listing.address)) = _
    decide +kernel
  have named : pathId "6f1d9b30-52c7-4e8a-9d41-000000000001" = .ok (drawn 1) := by
    have text : (segmentText? "6f1d9b30-52c7-4e8a-9d41-000000000001").bind Id.read? =
        some (drawn 1) := by
      decide +kernel
    rw [pathId, text]
  obtain ⟨answers, left⟩ := alike (planning 1 2) lone beside lone_reachable beside_reachable same
  exact ⟨frame (planning 1 2) beside beside_reachable,
    served houseServer default listing _ _ _ (drawn 1) beside routed named beside_reachable,
    answers, left⟩

end Lodging
