import VpnClient.Time.Timestamp

/-!
# Accounts

The account a user is logged in to, and how much time is left on it.

## Main Definitions

* `Account` — an account number and the instant its time runs out
* `Account.daysLeft`, `Account.isExpired` — what is left at an instant
* `Account.warningStart` — from when on the user is warned
* `Account.nextBoundary?` — when the warning next appears or disappears
-/

namespace VpnClient

/-- An account, as last heard of. -/
structure Account where
  id : String
  expiry : Instant
  deriving DecidableEq, Repr

namespace Account

/-- The whole days that are left, rounded toward zero; negative after the end. -/
def daysLeft (account : Account) (now : Instant) : Int :=
  account.expiry.daysSince now

/-- Whether no time is left. -/
def isExpired (account : Account) (now : Instant) : Bool :=
  account.expiry ≤ now

/-- The first instant of the days before the expiry in which the user is warned. When it would lie
before the beginning of time, the user is always warned. -/
def warningStart (account : Account) (warningDays : Nat) : Instant :=
  (account.expiry.addDays? (-(warningDays : Int))).getD .earliest

/-- Whether the user is warned: the warning days have begun and the time is not up. -/
def isEnding (account : Account) (warningDays : Nat) (now : Instant) : Bool :=
  account.warningStart warningDays ≤ now && !account.isExpired now

/-- The next instant at which the warning appears or disappears. -/
def nextBoundary? (account : Account) (warningDays : Nat) (now : Instant) : Option Instant :=
  let start := account.warningStart warningDays
  if now < start then some start
  else if account.isExpired now then none
  else some account.expiry

/-- The document form of an account. -/
def toData (account : Account) : Data :=
  .record [("id", .text account.id), ("expiry", account.expiry.toData)]

/-- The account a document value stands for. -/
def ofData? (d : Data) : Option Account := do
  let m ← d.members? .refused 2
  let id ← m.required 0 "id" Data.text?
  let expiry ← m.required 1 "expiry" Instant.ofData?
  some { id, expiry }

end Account

end VpnClient
