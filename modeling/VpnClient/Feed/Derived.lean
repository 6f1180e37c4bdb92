import VpnClient.Source

/-!
# Derived sources

A source that follows another one: whenever that is written, the value that follows from it is
written here, if it is new.

## Main Definitions

* `DerivedSource` — the source that follows
* `DerivedSource.react` — what it does when it looks at the one it follows
-/

namespace VpnClient

/-- A source that follows another one, and the revision of it that has been seen. It is closed when
it follows no longer. -/
structure DerivedSource (β : Type) where
  seen : Nat
  output : Source β

namespace DerivedSource

variable {α β : Type}

/-- A source that has a value from the start. -/
def launch (followed : Source α) (value : β) : DerivedSource β :=
  ⟨followed.revision, .fresh value⟩

/-- What becomes of the source when it looks at the one it follows. `derive` gives the value that
follows, or none if there is nothing to write. It ends with the one it follows, but not before it
has seen its last value. -/
def react [BEq β] (derive : α → Option β) (d : DerivedSource β) (followed : Source α) :
    DerivedSource β :=
  if d.output.isClosed then d
  else
    let output :=
      if d.seen = followed.revision then d.output
      else match derive followed.value with
        | some value => d.output.update value
        | none => d.output
    ⟨followed.revision, if followed.isClosed then output.close else output⟩

/-- The source at its end. -/
def cancel (d : DerivedSource β) : DerivedSource β :=
  { d with output := d.output.close }

end DerivedSource

end VpnClient
