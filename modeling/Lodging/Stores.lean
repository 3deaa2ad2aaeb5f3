import Lodging.Directory
import Lodging.Inventory.Basic
import Lodging.RatePlan.Override
import Lodging.RatePlan.Request
import Lodging.Reservation.Basic

/-! # The stores

All that the system keeps: the directory of hotels, rate plans, overrides, the
inventory ledger and reservations. Plans are in the order of their creation, and
deleted ones stay. There is one override for a plan and a date, and one row of
the ledger for a room type and a date; whatever order the stores keep them in,
ranges of dates are given in the order of dates.
-/

namespace Lodging

/-- The contents of all stores. -/
structure Stores where
  directory : Directory
  plans : List RatePlan
  overrides : List RateOverride
  inventory : List InventoryRow
  reservations : List Reservation
  bookedRooms : List BookedRoom
  supply : Id.Supply
deriving Repr, Inhabited

namespace Stores

def empty : Stores where
  directory := { hotels := [], roomTypes := [] }
  plans := []
  overrides := []
  inventory := []
  reservations := []
  bookedRooms := []
  supply := { drawn := 0 }

/-! ## Rate plans -/

/-- A live plan of a hotel. -/
def plan? (stores : Stores) (hotel id : Id) : Option RatePlan :=
  stores.plans.find? fun plan => plan.id == id && plan.isLiveIn hotel

/-- The live plan of a hotel with a code. -/
def planByCode? (stores : Stores) (hotel : Id) (code : String) : Option RatePlan :=
  stores.plans.find? fun plan => plan.code == code && plan.isLiveIn hotel

/-- The live plans of a hotel, or of one of its room types, in the order of their
codes. -/
def plansOf (stores : Stores) (hotel : Id) (roomType : Option Id) : List RatePlan :=
  (stores.plans.filter fun plan =>
    plan.isLiveIn hotel && roomType.all (plan.roomType == ·)).mergeSort
      fun first second => first.code ≤ second.code

/-- The plans of a room type that can be booked, the lowest base rate first. -/
def applicablePlans (stores : Stores) (hotel roomType : Id) (checkIn : Date)
    (channel : Option String) (isPublic : Option Bool) : List RatePlan :=
  (stores.plans.filter fun plan =>
    plan.hotel == hotel && plan.roomType == roomType &&
      plan.isApplicable checkIn channel isPublic).mergeSort
      fun first second => first.baseRate ≤ second.baseRate

/-- The live plans of a room type that are open to everybody. -/
def publicPlans (stores : Stores) (roomType : Id) : List RatePlan :=
  stores.plans.filter fun plan =>
    plan.roomType == roomType && plan.isPublic && plan.isActive && plan.isLive

def addPlan (stores : Stores) (hotel : Id) (request : NewPlan) (now : Instant) :
    RatePlan × Stores :=
  let plan := request.toPlan hotel stores.supply.next now
  (plan, { stores with plans := stores.plans ++ [plan], supply := stores.supply.rest })

/-- Changes the live plan of a hotel in its place. -/
def changePlan (stores : Stores) (hotel id : Id) (change : RatePlan → RatePlan) : Stores :=
  { stores with
    plans := stores.plans.map fun plan =>
      if plan.id == id && plan.isLiveIn hotel then change plan else plan }

/-- Marks a plan as deleted. -/
def deletePlan (stores : Stores) (hotel id : Id) (now : Instant) : Stores :=
  stores.changePlan hotel id fun plan =>
    { plan with deletedAt := some now, isActive := false, updatedAt := now }

/-! ## Rows by date -/

/-- Changes the row that matches, or else adds the one that a change of a fresh
row gives. -/
def upsert {α : Type} (isMatch : α → Bool) (fresh : α) (change : α → α) : List α → List α
  | [] => [change fresh]
  | row :: rest =>
      if isMatch row then change row :: rest else row :: upsert isMatch fresh change rest

/-- The rows of a range of dates, both ends included, in the order of dates. -/
def inRange {α : Type} (date : α → Date) (first last : Date) (rows : List α) : List α :=
  (rows.filter fun row => first ≤ date row && date row ≤ last).mergeSort
    fun one other => date one ≤ date other

/-! ## Overrides -/

/-- The override of a plan on a date. -/
def override? (stores : Stores) (plan : Id) (date : Date) : Option RateOverride :=
  stores.overrides.find? fun row => row.plan == plan && row.date == date

/-- The overrides of a plan within a range of dates. -/
def overridesIn (stores : Stores) (plan : Id) (first last : Date) : List RateOverride :=
  inRange (·.date) first last (stores.overrides.filter (·.plan == plan))

/-- Writes to the override of a plan on a date. -/
def writeOverride (stores : Stores) (plan : Id) (patch : OverridePatch) (now : Instant) :
    RateOverride × Stores :=
  let stored := stores.override? plan patch.date
  let fresh := RateOverride.blank stores.supply.next plan patch.date now
  (patch.apply (stored.getD fresh) now,
    { stores with
      overrides := upsert (fun row => row.plan == plan && row.date == patch.date) fresh
        (patch.apply · now) stores.overrides
      supply := if stored.isSome then stores.supply else stores.supply.rest })

/-- Writes to overrides of a plan one after another. -/
def writeOverrides (stores : Stores) (plan : Id) (patches : List OverridePatch)
    (now : Instant) : Stores :=
  patches.foldl (fun stores patch => (stores.writeOverride plan patch now).2) stores

/-- Removes the override of a plan on a date. -/
def deleteOverride (stores : Stores) (plan : Id) (date : Date) : Stores :=
  { stores with
    overrides := stores.overrides.filter fun row => !(row.plan == plan && row.date == date) }

/-! ## The inventory ledger -/

/-- The row of a room type on a date. -/
def inventory? (stores : Stores) (roomType : Id) (date : Date) : Option InventoryRow :=
  stores.inventory.find? fun row => row.roomType == roomType && row.date == date

/-- The rows of a room type within a range of dates. -/
def inventoryIn (stores : Stores) (roomType : Id) (first last : Date) : List InventoryRow :=
  inRange (·.date) first last (stores.inventory.filter (·.roomType == roomType))

/-- Writes to the row of a room type on a date; a new row starts from a count of
rooms. The row is written even when what is available in it cannot be computed; then
it is not given back. -/
def writeInventory (stores : Stores) (roomType : Id) (patch : InventoryPatch)
    (totalRooms : Int) (now : Instant) : Option InventoryRow × Stores :=
  let stored := stores.inventory? roomType patch.date
  let fresh := InventoryRow.blank stores.supply.next roomType patch.date totalRooms now
  let row := patch.apply (stored.getD fresh) now
  (row.available?.map fun _ => row,
    { stores with
      inventory := upsert (fun row => row.roomType == roomType && row.date == patch.date)
        fresh (patch.apply · now) stores.inventory
      supply := if stored.isSome then stores.supply else stores.supply.rest })

/-- Writes to rows of a room type one after another, as long as what is available in
them can be computed. -/
def writeInventories (stores : Stores) (roomType : Id) (patches : List InventoryPatch)
    (totalRooms : Int) (now : Instant) : Option Unit × Stores :=
  match patches with
  | [] => (some (), stores)
  | patch :: rest =>
      match stores.writeInventory roomType patch totalRooms now with
      | (some _, stores) => stores.writeInventories roomType rest totalRooms now
      | (none, stores) => (none, stores)

/-! ## Reservations -/

def reservation? (stores : Stores) (hotel id : Id) : Option Reservation :=
  stores.reservations.find? fun entry => entry.id == id && entry.hotel == hotel

/-- The reservation holds its rooms. -/
def isHeld (stores : Stores) (reservation : Id) : Bool :=
  stores.reservations.any fun entry =>
    entry.id == reservation && entry.status.holdsInventory

/-- How many rooms of a type are held at some time of a stay. -/
def roomsHeld (stores : Stores) (roomType : Id) (stay : Stay) : Nat :=
  stores.bookedRooms.countP fun room =>
    room.roomType == roomType && room.stay.overlaps stay && stores.isHeld room.reservation

/-- A reservation on the plan holds its rooms. -/
def planInUse (stores : Stores) (plan : Id) : Bool :=
  stores.reservations.any fun entry =>
    entry.plan == some plan && entry.status.holdsInventory

/-- Changes a reservation of a hotel in its place. -/
def changeReservation (stores : Stores) (hotel id : Id)
    (change : Reservation → Reservation) : Stores :=
  { stores with
    reservations := stores.reservations.map fun entry =>
      if entry.id == id && entry.hotel == hotel then change entry else entry }

def addReservation (stores : Stores) (hotel roomType : Id) (plan : Option Id)
    (status : ReservationStatus) (stay : Stay) (now : Instant) : Reservation × Stores :=
  let entry : Reservation :=
    { id := stores.supply.next
      hotel
      plan
      status
      stay
      createdAt := now
      updatedAt := now }
  (entry,
    { stores with
      reservations := stores.reservations ++ [entry]
      bookedRooms := stores.bookedRooms ++ [{ reservation := entry.id, roomType, stay }]
      supply := stores.supply.rest })

/-! ## The directory -/

/-- Draws the id of a new organization. -/
def addOrganization (stores : Stores) : Id × Stores :=
  (stores.supply.next, { stores with supply := stores.supply.rest })

def addHotel (stores : Stores) (organization : Id) : Hotel × Stores :=
  let hotel : Hotel := { id := stores.supply.next, organization }
  (hotel,
    { stores with
      directory := stores.directory.addHotel hotel
      supply := stores.supply.rest })

/-- Adds a room type of a hotel. -/
def addRoomType (stores : Stores) (hotel : Id) (name : String) (rooms : Int) :
    RoomType × Stores :=
  let roomType : RoomType :=
    { id := stores.supply.next
      hotel
      code := RoomType.codeOfName name
      name
      deletedAt := none
      rooms }
  (roomType,
    { stores with
      directory := stores.directory.addRoomType roomType
      supply := stores.supply.rest })

end Stores

end Lodging
