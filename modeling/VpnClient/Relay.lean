import VpnClient.Data

/-!
# Relay selections

What a user has picked to connect through, and its title on the connect button.

## Main Definitions

* `RelayItem` — something that can be picked
* `RelaySelection` — the picked exit, and the picked entry when there are two hops
* `RelaySelection.title` — the text on the button
-/

namespace VpnClient

/-- A place that relays are in: a country, a city of it, or one relay. -/
structure RelayPlace where
  country : String
  city : Option String
  hostname : Option String
  deriving DecidableEq, Repr

namespace RelayPlace

/-- The most specific name of a place. -/
def name (place : RelayPlace) : String :=
  (place.hostname.or place.city).getD place.country

end RelayPlace

/-- Something a user can pick: a place, or a list of relays under a name. -/
inductive RelayItem where
  | place (place : RelayPlace)
  | customList (name : String)
  deriving DecidableEq, Repr

namespace RelayItem

/-- The title of something picked. -/
def title : RelayItem → String
  | place p => p.name
  | customList name => name

/-- The document form of something picked. -/
def toData : RelayItem → Data
  | place p =>
    .record [("kind", .text "location"), ("country", .text p.country), ("city", .ofText? p.city),
      ("hostname", .ofText? p.hostname)]
  | customList name => .record [("kind", .text "custom_list"), ("name", .text name)]

/-- The thing to pick that a document value stands for. -/
def ofData? (d : Data) : Option RelayItem := do
  let (tag, m) ← d.tagged? "kind"
  match tag with
  | "location" =>
    if m.fits 3 then do
      let country ← m.required 0 "country" Data.text?
      let city ← m.optional 1 "city" Data.text?
      let hostname ← m.optional 2 "hostname" Data.text?
      some (place { country, city, hostname })
    else none
  | "custom_list" => if m.fits 1 then (m.required 0 "name" Data.text?).map customList else none
  | _ => none

end RelayItem

/-- What is picked as exit, and as entry when there are two hops. -/
structure RelaySelection where
  exit : RelayItem
  entry : Option RelayItem
  deriving DecidableEq, Repr

namespace RelaySelection

/-- The title of a selection: the exit, via the entry if there is one. -/
def title (selection : RelaySelection) : String :=
  match selection.entry with
  | some entry => selection.exit.title ++ " via " ++ entry.title
  | none => selection.exit.title

/-- The document form of a selection. -/
def toData (selection : RelaySelection) : Data :=
  .record [("exit", selection.exit.toData), ("entry", .ofOption RelayItem.toData selection.entry)]

/-- The selection a document value stands for. -/
def ofData? (surplus : Data.Surplus) (d : Data) : Option RelaySelection := do
  let m ← d.members? surplus 2
  let exit ← m.required 0 "exit" RelayItem.ofData?
  let entry ← m.optional 1 "entry" RelayItem.ofData?
  some { exit, entry }

end RelaySelection

end VpnClient
