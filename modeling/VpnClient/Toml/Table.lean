import VpnClient.Data

/-!
# TOML tables

How the pairs and headers of a document build up its tables, and which of them are in conflict
with what is there already.

## Main Definitions

* `Item` — what a key stands for
* `insertPair?` — a table with one more pair
* `openTable?` — a document in which a header has been read
* `Item.toData` — what a key stands for as a document value

## Design Notes

A table remembers what has brought it into being: a header of its own, a longer header, or a
dotted key. A dotted key may only add to tables that dotted keys have made, and a header may only
open a table that so far was implied by longer headers.
-/

namespace VpnClient.Toml

/-- What has brought a table into being: its own header, a longer header, or a dotted key. -/
inductive Origin where
  | header
  | implied
  | dotted
  deriving DecidableEq

/-- What a key stands for: a value, a table, or a list of tables, of which the last one is still
being added to. -/
inductive Item where
  | value (value : Data)
  | table (origin : Origin) (members : List (String × Item))
  | tables (tables : List (List (String × Item)))

/-- The members of a table. -/
abbrev Members := List (String × Item)

/-- Members with the item of a key replaced, or added at the end. -/
def Members.put (members : Members) (key : String) (item : Item) : Members :=
  match members with
  | [] => [(key, item)]
  | (k, i) :: rest => if k = key then (key, item) :: rest else (k, i) :: Members.put rest key item

/-- Members with one more pair whose key is not taken. -/
def Members.add? (members : Members) (key : String) (value : Item) : Option Members :=
  if (members.lookup key).isSome then none else some (members ++ [(key, value)])

/-- The last table of a list changed; `none` for an empty list. -/
def changeLast? (change : Members → Option Members) : List Members → Option (List Members)
  | [] => none
  | [last] => (change last).map ([·])
  | first :: rest => (changeLast? change rest).map (first :: ·)

/-- The table that a dotted key leads to, changed. `origin` is the origin of the table that is
reached so far. -/
def insertAt? (key : String) (value : Data) :
    List String → Origin → Members → Option Members
  | [], origin, members => if origin = .dotted then members.add? key (.value value) else none
  | step :: path, _, members =>
    match members.lookup step with
    | none => (insertAt? key value path .dotted []).map fun inner =>
        members.put step (.table .dotted inner)
    | some (.value _) => none
    | some (.tables ts) =>
      (changeLast? (insertAt? key value path .header) ts).map fun ts =>
        members.put step (.tables ts)
    | some (.table origin inner) =>
      if origin = .header then none
      else (insertAt? key value path origin inner).map fun inner =>
        members.put step (.table origin inner)

/-- A table with one more pair. The key is a path, of which all but the last part name tables. -/
def insertPair? (path : List String) (key : String) (value : Data) (members : Members) :
    Option Members :=
  match path with
  | [] => members.add? key (.value value)
  | _ => insertAt? key value path .header members

/-- The table that the path of a header leads to, changed. Tables on the way that are not there yet
are implied. -/
def changeAt? (change : Members → Option Members) : List String → Members → Option Members
  | [], members => change members
  | step :: path, members =>
    match members.lookup step with
    | none => (changeAt? change path []).map fun inner =>
        members.put step (.table .implied inner)
    | some (.value _) => none
    | some (.tables ts) =>
      (changeLast? (changeAt? change path) ts).map fun ts => members.put step (.tables ts)
    | some (.table origin inner) =>
      (changeAt? change path inner).map fun inner => members.put step (.table origin inner)

/-- A document in which the header of a table has been read. -/
def openTable? (path : List String) (key : String) : Members → Option Members :=
  changeAt? (fun members =>
    match members.lookup key with
    | none => some (members ++ [(key, .table .header [])])
    | some (.table .implied inner) => some (members.put key (.table .header inner))
    | some _ => none) path

/-- A document in which the header of one more table in a list has been read. -/
def openElement? (path : List String) (key : String) : Members → Option Members :=
  changeAt? (fun members =>
    match members.lookup key with
    | none => some (members ++ [(key, .tables [[]])])
    | some (.tables ts) => some (members.put key (.tables (ts ++ [[]])))
    | some _ => none) path

/-- The table that the last header has opened, changed. -/
def changeOpened? (change : Members → Option Members) (path : List String) (key : String) :
    Members → Option Members :=
  changeAt? (fun members =>
    match members.lookup key with
    | some (.table origin inner) => (change inner).map fun inner =>
        members.put key (.table origin inner)
    | some (.tables ts) => (changeLast? change ts).map fun ts => members.put key (.tables ts)
    | _ => none) path

mutual

/-- What a key stands for as a document value. -/
def Item.toData : Item → Data
  | .value d => d
  | .table _ members => .record (membersToData members)
  | .tables ts => .list (tablesToData ts)

/-- The members of a table as those of a document value. -/
def membersToData : List (String × Item) → List (String × Data)
  | [] => []
  | (key, item) :: rest => (key, item.toData) :: membersToData rest

/-- Tables as document values. -/
def tablesToData : List (List (String × Item)) → List Data
  | [] => []
  | members :: rest => .record (membersToData members) :: tablesToData rest

end

end VpnClient.Toml
