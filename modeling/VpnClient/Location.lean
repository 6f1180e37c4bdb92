import VpnClient.Address.Ip

/-!
# Locations

Where on earth a user or a relay appears to be, and under which addresses.

## Main Definitions

* `Location` — a place with the addresses and relays by which it is reached
* `Location.outAddress?` — the address that the rest of the network sees
-/

namespace VpnClient

/-- A place on the map. Only its country is always known. Coordinates compare as floating point
numbers do, so that a location with an undefined coordinate differs from every location. -/
structure Location where
  ipv4 : Option Ipv4
  ipv6 : Option Ipv6
  country : String
  city : Option String
  latitude : Float
  longitude : Float
  hostname : Option String
  entryHostname : Option String
  deriving BEq

namespace Location

/-- A location of which only the country is known. -/
def ofCountry (country : String) : Location where
  ipv4 := none
  ipv6 := none
  country := country
  city := none
  latitude := 0.0
  longitude := 0.0
  hostname := none
  entryHostname := none

/-- The outbound address shown to the user: the IPv4 address if it is known, else the other. -/
def outAddress? (location : Location) : Option String :=
  match location.ipv4 with
  | some address => some address.text
  | none => location.ipv6.map Ipv6.text

/-- The place as people name it: the city, if it is known, with the country. -/
def place (location : Location) : String :=
  match location.city with
  | some city => city ++ ", " ++ location.country
  | none => location.country

/-- The document form of a location. -/
def toData (location : Location) : Data :=
  .record [
    ("ipv4", .ofOption (fun address : Ipv4 => .text address.text) location.ipv4),
    ("ipv6", .ofOption (fun address : Ipv6 => .text address.text) location.ipv6),
    ("country", .text location.country),
    ("city", .ofText? location.city),
    ("latitude", .float location.latitude),
    ("longitude", .float location.longitude),
    ("hostname", .ofText? location.hostname),
    ("entry_hostname", .ofText? location.entryHostname)]

/-- The location a document value stands for. -/
def ofData? (d : Data) : Option Location := do
  let m ← d.members? .refused 8
  let ipv4 ← m.optional 0 "ipv4" (Data.parsed? Ipv4.read?)
  let ipv6 ← m.optional 1 "ipv6" (Data.parsed? Ipv6.read?)
  let country ← m.required 2 "country" Data.text?
  let city ← m.optional 3 "city" Data.text?
  let latitude ← m.defaulted 4 "latitude" 0.0 Data.float?
  let longitude ← m.defaulted 5 "longitude" 0.0 Data.float?
  let hostname ← m.optional 6 "hostname" Data.text?
  let entryHostname ← m.optional 7 "entry_hostname" Data.text?
  some { ipv4, ipv6, country, city, latitude, longitude, hostname, entryHostname }

end Location

end VpnClient
