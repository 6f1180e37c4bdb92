import VpnClient.Url.Host
import VpnClient.Url.Path

/-!
# URLs

A URL in its parts, each of them in the form in which it is written.

## Main Definitions

* `Url` — a URL
* `Url.text` — its text
* `Url.isWeb` — whether it leads to a web page
* `Url.appendPair` — the URL with one more pair in its query

## Design Notes

Parts are kept encoded, so that writing only puts them side by side. A query is the text behind
`?`; `none` is a URL without `?`, which is not the same as an empty query.
-/

namespace VpnClient

namespace Url

/-- A user name and a password; an empty password is none. -/
structure Credentials where
  user : List Char
  password : List Char
  deriving DecidableEq, Repr

namespace Credentials

/-- No user and no password. -/
def none : Credentials := ⟨[], []⟩

/-- Whether there is neither a user name nor a password. -/
def isEmpty (c : Credentials) : Bool :=
  c.user.isEmpty && c.password.isEmpty

/-- The characters of credentials, up to and including the `@`. -/
def chars (c : Credentials) : List Char :=
  if c.isEmpty then []
  else c.user ++ (if c.password.isEmpty then [] else ':' :: c.password) ++ ['@']

end Credentials

/-- Who is asked for a resource: a host, on a port if it is not the usual one. -/
structure Authority where
  credentials : Credentials
  host : Host
  port : Option Nat
  deriving DecidableEq, Repr

/-- The characters of an authority. -/
def Authority.chars (a : Authority) : List Char :=
  let port := match a.port with
    | some n => ':' :: Text.numeral 10 n
    | none => []
  a.credentials.chars ++ a.host.chars ++ port

end Url

/-- A URL. -/
structure Url where
  scheme : List Char
  authority : Option Url.Authority
  path : Url.Path
  query : Option (List Char)
  fragment : Option (List Char)
  deriving DecidableEq, Repr

namespace Url

/-- The characters between the scheme and the path. A path that looks like a host is kept apart
from the scheme by a dot. -/
def approach (url : Url) : List Char :=
  match url.authority with
  | some a => '/' :: '/' :: a.chars
  | none => if url.path.looksLikeHost then ['/', '.'] else []

/-- A part behind its mark, if there is one. -/
def marked (mark : Char) : Option (List Char) → List Char
  | some part => mark :: part
  | none => []

/-- The characters of a URL. -/
def chars (url : Url) : List Char :=
  url.scheme ++ ':' :: url.approach ++ url.path.chars ++ marked '?' url.query
    ++ marked '#' url.fragment

/-- The text of a URL. -/
def text (url : Url) : String :=
  String.ofList url.chars

/-- Whether a URL leads to a web page. -/
def isWeb (url : Url) : Bool :=
  url.scheme == "http".toList || url.scheme == "https".toList

/-! ### Queries -/

/-- Whether a byte stands for itself in a form: a letter, a digit, or one of `*-._`. -/
def isPlainInForm (byte : UInt8) : Bool :=
  let c := Char.ofNat byte.toNat
  c.isAlphanum || c == '*' || c == '-' || c == '.' || c == '_'

/-- A byte as it stands in a form: a space becomes `+`. -/
def formByte (byte : UInt8) : List Char :=
  if byte = 0x20 then ['+']
  else if isPlainInForm byte then [Char.ofNat byte.toNat]
  else percentByte byte

/-- A text as it stands in a form. -/
def formText (s : List Char) : List Char :=
  s.flatMap fun c => (utf8 c).flatMap formByte

/-- The URL whose query has one more pair at its end. -/
def appendPair (url : Url) (name value : List Char) : Url :=
  let pair := formText name ++ '=' :: formText value
  let query := match url.query with
    | some (c :: rest) => c :: rest ++ '&' :: pair
    | _ => pair
  { url with query := some query }

end Url

end VpnClient
