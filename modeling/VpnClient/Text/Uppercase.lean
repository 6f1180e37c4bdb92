import VpnClient.Text.CaseTable

/-!
# Uppercase

The full uppercase mapping of a character, which may be longer than one character, and words
that start with a capital.

## Main Definitions

* `uppercase` — the capital form of a character
* `capitalize` — a word with its first character in capital form
-/

namespace VpnClient.Text

/-- Whether a run of letters holds the letter with this code point. -/
def CaseRun.contains (run : CaseRun) (code : Nat) : Bool :=
  run.first ≤ code && code ≤ run.last && (code - run.first) % run.step == 0

/-- The capital form of a character: itself where it has none. -/
def uppercase (c : Char) : List Char :=
  match expandingCapitals.lookup c.toNat with
  | some codes => codes.map Char.ofNat
  | none =>
    match caseRuns.find? fun run => run.contains c.toNat with
    | some run => [Char.ofNat (c.toNat + run.offset).toNat]
    | none => [c]

/-- A word whose first character is in capital form and whose others are as they were. -/
def capitalize : List Char → List Char
  | [] => []
  | c :: rest => uppercase c ++ rest

end VpnClient.Text
