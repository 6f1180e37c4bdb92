import VpnClient.Text.Numeral
import VpnClient.Text.Split

/-!
# Terminal styles

Text with colours and weights for a terminal that understands select graphic rendition codes.

## Main Definitions

* `Style` — the weights and colours in use, each with its code
* `styled` — a text between the codes that switch its styles on and the one that ends them

## Design Notes

A palette is a `Bool`: whether colours are wanted. Without them a styled text is the text itself,
so the plain and the coloured output of one line are one function at two arguments. A styled text
may hold styled texts; what follows one of them in it keeps the outer styles.
-/

namespace VpnClient.Text

/-- A weight or a colour of text. -/
inductive Style where
  | bold
  | dimmed
  | red
  | green
  | yellow
  | magenta
  | cyan
  deriving DecidableEq, Repr

/-- The code that switches a style on. -/
def Style.code : Style → Nat
  | bold => 1
  | dimmed => 2
  | red => 31
  | green => 32
  | yellow => 33
  | magenta => 35
  | cyan => 36

/-- The codes that switch styles on, in the order in which they are written. -/
def switchOn (styles : List Style) : List Char :=
  "\x1b[".toList ++ joined [';'] (styles.map fun s => numeral 10 s.code) ++ ['m']

/-- The code that ends all styles. -/
def switchOff : List Char := "\x1b[0m".toList

/-- A text in which the codes `opening` follow every end of all styles, so that the styles around
it last to its own end. -/
def resumed (opening : List Char) : List Char → List Char
  | '\x1b' :: '[' :: '0' :: 'm' :: rest => switchOff ++ opening ++ resumed opening rest
  | c :: rest => c :: resumed opening rest
  | [] => []

/-- A text in the given styles. -/
def styled (coloured : Bool) (styles : List Style) (text : String) : String :=
  if coloured && !styles.isEmpty then
    let opening := switchOn styles
    String.ofList (opening ++ resumed opening text.toList ++ switchOff)
  else text

end VpnClient.Text
