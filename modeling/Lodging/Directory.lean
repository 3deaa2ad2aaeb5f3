import Lodging.Calendar.Instant
import Lodging.Document.Basic
import Lodging.Id
import Lodging.Text.Uppercase

/-! # The directory of hotels

Which hotel belongs to which organization, which room types a hotel has, and how
many rooms of a type can be sold. The directory is kept elsewhere; here it is
only looked up.
-/

namespace Lodging

structure Hotel where
  id : Id
  organization : Id
deriving DecidableEq, Repr

/-- A type of room of a hotel. -/
structure RoomType where
  id : Id
  hotel : Id
  code : String
  name : String
  deletedAt : Option Instant
  /-- The rooms of the type that can be sold. -/
  rooms : Int
deriving DecidableEq, Repr

structure Directory where
  hotels : List Hotel
  roomTypes : List RoomType
deriving Repr, Inhabited

namespace Directory

def hotelIn (directory : Directory) (organization hotel : Id) : Bool :=
  directory.hotels.any fun entry => entry.id == hotel && entry.organization == organization

/-- A room type of a hotel that has not been deleted. -/
def roomType? (directory : Directory) (hotel roomType : Id) : Option RoomType :=
  directory.roomTypes.find? fun entry =>
    entry.id == roomType && entry.hotel == hotel && entry.deletedAt.isNone

/-- The rooms of a type that can be sold; none of a type that is not known. -/
def sellableRooms (directory : Directory) (roomType : Id) : Int :=
  ((directory.roomTypes.find? fun entry => entry.id == roomType).map (·.rooms)).getD 0

def addHotel (directory : Directory) (hotel : Hotel) : Directory :=
  { directory with hotels := directory.hotels ++ [hotel] }

/-- The directory with one more room type. -/
def addRoomType (directory : Directory) (roomType : RoomType) : Directory :=
  { directory with roomTypes := directory.roomTypes ++ [roomType] }

end Directory

namespace RoomType

/-- The code of a room type, made of its name: capital letters, and a low line
for every space. -/
def codeOfName (name : String) : String :=
  Text.upper (name.map fun c => if c = ' ' then '_' else c)

def toDocument (roomType : RoomType) : Document :=
  .record
    [("id", .text roomType.id.display),
      ("hotelId", .text roomType.hotel.display),
      ("code", .text roomType.code),
      ("name", .text roomType.name),
      ("deletedAt", .orNull (fun instant => .text instant.display) roomType.deletedAt)]

end RoomType

end Lodging
