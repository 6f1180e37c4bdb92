import VpnClient.Text.Quoted
import VpnClient.Text.Split
import VpnClient.Url.DomainTable
import VpnClient.Url.Percent
import VpnClient.Url.Punycode

/-!
# Domain names

The form in which a domain name is looked up: in small letters and in ASCII. A label in another
script is spelled in Punycode behind a mark.

## Main Definitions

* `folded` — a name with its letters folded
* `labelToAscii?` — a label in ASCII, if it is one
* `domainToAscii?` — the bytes of a name, brought into the form in which it is looked up

## Design Notes

Letters are folded one by one, and only those that the tables have; a letter that is written with a
combining mark of its own is not put together. Of a label in another script neither the direction in
which it is written nor its joiners are checked. So a name beyond ASCII may be accepted that has no
form in which it can be looked up, or be given another one. A name in ASCII is not concerned, unless
a label of it bears the mark.
-/

namespace VpnClient.Url

/-! ### Folding -/

/-- The folded form of a character in a run. -/
def FoldRun.fold? (run : FoldRun) (code : Nat) : Option Char :=
  if run.first ≤ code ∧ code ≤ run.last ∧ (code - run.first) % run.step = 0 then
    some (Char.ofNat (code + run.offset).toNat)
  else none

/-- The folded form of a character, where the tables have one. -/
def foldChar (c : Char) : List Char :=
  if c.toNat < 128 then [c.toLower]
  else if Text.inRanges ignoredRanges c.toNat then []
  else match spelledOut.lookup c.toNat, foldRuns.findSome? fun run => run.fold? c.toNat with
    | some codes, _ => codes.map Char.ofNat
    | none, some letter => [letter]
    | none, none => [c]

/-- A name with its letters folded. -/
def folded (s : List Char) : List Char :=
  s.flatMap foldChar

/-! ### Labels -/

/-- Whether a folded character may be part of a name: it shows, and it does not stand for a
character that could not be read. -/
def isNameChar (c : Char) : Bool :=
  c.toNat < 128 || (!Text.inRanges Text.invisibleRanges c.toNat && c != '\ufffd')

/-- Whether a folded label is one that can be looked up. It does not start with a mark that needs a
letter before it. -/
def isLabel (s : List Char) : Bool :=
  s.all isNameChar && !(s.head?.any fun c => Text.inRanges Text.extendingRanges c.toNat)

/-- The mark of a label that is spelled in Punycode. -/
def punycodeMark : List Char := "xn--".toList

/-- Whether what stands behind the mark spells a label that had to be spelled so. -/
def isSpelling (s : List Char) : Bool :=
  match Punycode.decode? s with
  | none => false
  | some label => label.any (fun c => 128 ≤ c.toNat) && isLabel label && folded label == label

/-- A folded label in ASCII. -/
def labelToAscii? (s : List Char) : Option (List Char) :=
  match Text.after? punycodeMark s with
  | some spelling => if isSpelling spelling then some s else none
  | none =>
    if !isLabel s then none
    else if s.all fun c => c.toNat < 128 then some s
    else some (punycodeMark ++ Punycode.encode s)

/-! ### Names -/

/-- The characters that no domain name contains. -/
def isForbiddenInDomain (c : Char) : Bool :=
  c.toNat ≤ 0x20 || c == '\x7f' || ['%', '#', '/', ':', '<', '>', '?', '@', '[', '\\', ']', '^',
    '|'].contains c

/-- The text that bytes encode in UTF-8. -/
def decodeUtf8? (bytes : List UInt8) : Option (List Char) :=
  (String.fromUTF8? ⟨bytes.toArray⟩).map String.toList

/-- A domain name in the form in which it is looked up, as far as the tables go. -/
def domainToAscii? (bytes : List UInt8) : Option (List Char) := do
  let s ← decodeUtf8? bytes
  let labels ← (Text.splitAt '.' (folded s)).mapM labelToAscii?
  let name := Text.joined ['.'] labels
  if name.any isForbiddenInDomain then none else some name

end VpnClient.Url
