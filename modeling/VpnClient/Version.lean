import VpnClient.Data

/-!
# Versions

What is known about the version of the running program.

## Main Definitions

* `Version` — the current version and whether another one is called for
-/

namespace VpnClient

/-- The running version, whether it may still be used, and a newer one to change to. -/
structure Version where
  current : String
  isSupported : Bool
  suggestedUpgrade : Option String
  deriving DecidableEq, Repr

namespace Version

/-- The version of this program, before anything else is known. -/
def own : Version where
  current := "0.3.0"
  isSupported := true
  suggestedUpgrade := none

/-- The document form of what is known about a version. -/
def toData (version : Version) : Data :=
  .record [("current", .text version.current), ("is_supported", .bool version.isSupported),
    ("suggested_upgrade", .ofText? version.suggestedUpgrade)]

/-- What a document value says about a version. -/
def ofData? (surplus : Data.Surplus) (d : Data) : Option Version := do
  let m ← d.members? surplus 3
  let current ← m.required 0 "current" Data.text?
  let isSupported ← m.defaulted 1 "is_supported" true Data.bool?
  let suggestedUpgrade ← m.optional 2 "suggested_upgrade" Data.text?
  some { current, isSupported, suggestedUpgrade }

end Version

end VpnClient
