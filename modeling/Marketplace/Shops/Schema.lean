import Marketplace.Schema

/-! Shops as the shop service keeps them, and what the geocoder answers. -/
namespace Marketplace.Shops

/-- A number, by the text that `String` gives it. -/
abbrev Number := String

/-- The entity. A coordinate is the text of a number, or of the column as it was read. -/
structure Shop where
  seller : Id
  name : String
  logoUrl : Option String
  bannerUrl : Option String
  description : Option String
  bankAccountInfo : Option BankAccountInfo
  pickupAddress : Option String
  lat : Option Number
  lng : Option Number
  isCoordinatesVerified : Bool
  status : AccountStatus
deriving DecidableEq

structure GeocodeResult where
  lat : Option Number
  lng : Option Number
  success : Bool
deriving DecidableEq

/-- Of an address that is missing or empty nobody is asked. -/
def geocode (answer : String → GeocodeResult) (address : Option String) : GeocodeResult :=
  match address with
  | none => ⟨none, none, false⟩
  | some text => if text = "" then ⟨none, none, false⟩ else answer text

/-- The coordinates of an answer that is a success with both of them. -/
def GeocodeResult.found (result : GeocodeResult) : Option (Number × Number) :=
  match result.success, result.lat, result.lng with
  | true, some lat, some lng => some (lat, lng)
  | _, _, _ => none

/-- What a `decimal(10,6)` column gives back for the text written to it. -/
structure Decimal where
  cast : Number → Number
  idem : ∀ text, cast (cast text) = cast text

end Marketplace.Shops
