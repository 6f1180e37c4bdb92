/-!
# Texts in parts

Cutting a text at a separator, and putting parts together with one between them.

## Main Definitions

* `cut?` — the text before and after the first separator
* `splitAt` — the parts between all separators
* `joined` — parts with a separator between them
-/

namespace VpnClient.Text

/-- What stands before and after the first separator; `none` when there is no separator. -/
def cut? (separator : Char) : List Char → Option (List Char × List Char)
  | [] => none
  | c :: rest =>
    if c = separator then some ([], rest)
    else (cut? separator rest).map fun (before, after) => (c :: before, after)

/-- The parts between the separators; always one more than there are separators. -/
def splitAt (separator : Char) : List Char → List (List Char)
  | [] => [[]]
  | c :: rest =>
    if c = separator then [] :: splitAt separator rest
    else match splitAt separator rest with
      | part :: parts => (c :: part) :: parts
      | [] => [[c]]

/-- Parts put together with a separator between them. -/
def joined (separator : List Char) : List (List Char) → List Char
  | [] => []
  | [part] => part
  | part :: parts => part ++ separator ++ joined separator parts

/-- The rest of a text that starts with the given one. -/
def after? : List Char → List Char → Option (List Char)
  | [], s => some s
  | _ :: _, [] => none
  | c :: start, d :: s => if c = d then after? start s else none

/-- Whether a text starts with the given one. -/
def startsWith (s start : List Char) : Bool :=
  (after? start s).isSome

end VpnClient.Text
