import VpnClient.Failure
import VpnClient.Text.Split

/-!
# File systems

A tree of directories and files, as far as this program makes use of one: there are no permissions
and no links.

## Main Definitions

* `FileSystem` — what there is at which place
* `FileSystem.resolve` — the place that a path leads to
* `FileSystem.read`, `FileSystem.write`, `FileSystem.makeDirectories` — the operations

## Design Notes

A place is the list of names from the root; a path is a text that may wander, with empty parts and
with dots. What is left of a path once it has been resolved is a place, and a place holds at most
one entry.
-/

namespace VpnClient

/-- What a file holds: a text, or bytes that are not one. -/
inductive Contents where
  | text (text : String)
  | binary
  deriving DecidableEq, Repr

/-- What there is at a place. -/
inductive Entry where
  | directory
  | file (contents : Contents)
  deriving DecidableEq, Repr

/-- The names on the way from the root to an entry. -/
abbrev Place := List String

/-- What there is at which place. The root is always a directory. -/
structure FileSystem where
  entries : List (Place × Entry)
  deriving DecidableEq, Repr

namespace FileSystem

/-- A file system without any files. -/
def empty : FileSystem := ⟨[]⟩

/-- What there is at a place. -/
def find? (fs : FileSystem) (place : Place) : Option Entry :=
  if place = [] then some .directory else fs.entries.lookup place

/-- The file system with another entry at a place. -/
def put (fs : FileSystem) (place : Place) (entry : Entry) : FileSystem :=
  ⟨(place, entry) :: fs.entries.filter fun e => e.1 ≠ place⟩

/-- The file system without what is at a place or below it. -/
def remove (fs : FileSystem) (place : Place) : FileSystem :=
  ⟨fs.entries.filter fun e => !place.isPrefixOf e.1⟩

/-! ### Paths -/

/-- The names in a path. A path with a slash at its end leads into a directory. -/
def parts (path : String) : List String :=
  let names := ((Text.splitAt '/' path.toList).map String.ofList).filter (· ≠ "")
  if path.endsWith "/" then names ++ ["."] else names

/-- A path that goes on from another one. A path from the root goes nowhere else. -/
def join (path name : String) : String :=
  if name.startsWith "/" ∨ path = "" then name
  else if path.endsWith "/" then path ++ name
  else path ++ "/" ++ name

/-- The place that names lead to from a place. Every name but the last has to be that of a
directory, and two dots lead up. -/
def walk (fs : FileSystem) (place : Place) : List String → Except FileError Place
  | [] => .ok place
  | name :: rest =>
    match fs.find? place with
    | none => .error .notFound
    | some (.file _) => .error .notADirectory
    | some .directory =>
      if name = "." then walk fs place rest
      else if name = ".." then walk fs place.dropLast rest
      else if 255 < name.utf8ByteSize then .error .nameTooLong
      else walk fs (place ++ [name]) rest

/-- The place that a path leads to, whether there is something or not. -/
def resolve (fs : FileSystem) (path : String) : Except FileError Place :=
  if path.contains '\x00' then .error .nulInName
  else if path = "" then .error .notFound
  else fs.walk [] (parts path)

/-- The names of the directory that a path is in. -/
def parentParts (path : String) : List String :=
  ((parts path).filter (· ≠ ".")).dropLast

/-! ### Operations -/

/-- The text of a file. -/
def read (fs : FileSystem) (path : String) : Except FileError String := do
  match fs.find? (← fs.resolve path) with
  | none => .error .notFound
  | some .directory => .error .isADirectory
  | some (.file .binary) => .error .notText
  | some (.file (.text text)) => .ok text

/-- The file system in which a file holds a text. The file is made if it is not there. -/
def write (fs : FileSystem) (path text : String) : Except FileError FileSystem := do
  let place ← fs.resolve path
  match fs.find? place with
  | some .directory => .error .isADirectory
  | _ => .ok (fs.put place (.file (.text text)))

/-- Whether names lead to a directory. -/
def isDirectory (fs : FileSystem) (names : List String) : Bool :=
  match fs.walk [] names with
  | .ok place => fs.find? place == some .directory
  | .error _ => false

/-- The file system with a new directory. -/
def makeDirectory (fs : FileSystem) (names : List String) : Except FileError FileSystem := do
  let place ← fs.walk [] names
  match fs.find? place with
  | some _ => .error .alreadyThere
  | none => .ok (fs.put place .directory)

/-- The file system after an attempt to make a directory, which may be there already. -/
def ensureDirectory (fs : FileSystem) (names : List String) : FileSystem × Except FileError Unit :=
  match fs.makeDirectory names with
  | .ok fs => (fs, .ok ())
  | .error error => (fs, if fs.isDirectory names then .ok () else .error error)

/-- The file system after an attempt to make a directory and all those it is in. `reversed` are the
names that lead to it, the last one first. What has been made stays even if the attempt fails. -/
def makeDirectories (fs : FileSystem) :
    (reversed : List String) → FileSystem × Except FileError Unit
  | [] => (fs, .ok ())
  | name :: above =>
    let names := (name :: above).reverse
    match fs.makeDirectory names with
    | .error .notFound =>
      match fs.makeDirectories above with
      | (fs, .ok ()) => fs.ensureDirectory names
      | (fs, .error error) => (fs, .error error)
    | _ => fs.ensureDirectory names

/-- The file system after an attempt to make the directory that a path is in. -/
def makeParents (fs : FileSystem) (path : String) : FileSystem × Except FileError Unit :=
  fs.makeDirectories (parentParts path).reverse

end FileSystem

end VpnClient
