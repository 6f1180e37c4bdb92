import VpnClient.Url.Basic

/-!
# Effects

What a screen asks to be done once, besides being shown.

## Main Definitions

* `AccountLink` — the web page of an account, with a token to be logged in by
* `Effect` — what a screen asks for
-/

namespace VpnClient

/-- The web page of an account, and a token to be logged in by, if there is one. -/
structure AccountLink where
  base : Url
  token : Option String
  deriving DecidableEq

namespace AccountLink

/-- The URL to be opened. The token is a pair at the end of the query. -/
def url (link : AccountLink) : Url :=
  match link.token with
  | some token => link.base.appendPair "token".toList token.toList
  | none => link.base

/-- Whether there is a token. -/
def hasToken (link : AccountLink) : Bool :=
  link.token.isSome

/-- Whether two links are the same: their pages are written alike and their tokens are equal. -/
def isSame (a b : AccountLink) : Bool :=
  a.base.text == b.base.text && a.token == b.token

end AccountLink

/-- Why a connection could not be asked for. -/
inductive ConnectObstacle where
  | generic
  | permissionDenied
  | alwaysOnVpn (appName : String)
  deriving DecidableEq, Repr

/-- What a screen asks for: to open a web page, to go to another screen, to ask for a permission, or
to tell of an obstacle. -/
inductive Effect where
  | openAccount (link : AccountLink)
  | outOfTime
  | revokedDevice
  | noVpnPermission
  | connectError (obstacle : ConnectObstacle)
  deriving DecidableEq

end VpnClient
