import VpnClient.Url.Basic

/-!
# Reading URLs

How a text is taken apart into a URL.

## Main Definitions

* `Url.parse` — the URL a text spells, or what is wrong with it

## Design Notes

A fragment starts at the first `#` and a query at the first `?` in front of it, whatever the
scheme. What is left is an authority and a path under most schemes; the scheme decides where one
ends and the other starts. Web schemes and a few others are special: there backslashes are as good
as slashes, slashes in front of the authority do not count, and there is always a host.
-/

namespace VpnClient.Url

open Text (cut? readNumeral? isDecimalDigit)

/-- A text without control characters and spaces around it, and without tabs and line breaks. -/
def cleaned (s : List Char) : List Char :=
  let blank (c : Char) : Bool := c.toNat ≤ 0x20
  ((s.dropWhile blank).reverse.dropWhile blank).reverse.filter fun c =>
    c != '\t' && c != '\n' && c != '\r'

/-- A scheme in lower case, and the text behind its colon. -/
def readScheme? (s : List Char) : Option (List Char × List Char) := do
  let (scheme, rest) ← cut? ':' s
  let first ← scheme.head?
  if first.isAlpha ∧ scheme.all (fun c => c.isAlphanum || c == '+' || c == '-' || c == '.') then
    some (scheme.map Char.toLower, rest)
  else none

/-- The special schemes besides files, each with its usual port. -/
def usualPort? (scheme : List Char) : Option Nat :=
  [("http".toList, 80), ("https".toList, 443), ("ws".toList, 80), ("wss".toList, 443),
    ("ftp".toList, 21)].lookup scheme

/-- What stands before and after the last `@`. -/
def cutAtLastAt? (s : List Char) : Option (List Char × List Char) :=
  (cut? '@' s.reverse).map fun (after, before) => (before.reverse, after.reverse)

/-- The user name and the password in front of a host. -/
def readCredentials (s : List Char) : Credentials :=
  match cut? ':' s with
  | some (user, password) =>
    ⟨percentEncode inUserinfoSet user, percentEncode inUserinfoSet password⟩
  | none => ⟨percentEncode inUserinfoSet s, []⟩

/-- A host and what follows it: the first colon that is not in brackets ends the host. -/
def splitHost (inBrackets : Bool) : List Char → List Char × List Char
  | [] => ([], [])
  | c :: rest =>
    if c = ':' ∧ !inBrackets then ([], c :: rest)
    else
      let (host, after) := splitHost (if c = '[' then true else if c = ']' then false
        else inBrackets) rest
      (c :: host, after)

/-- A port behind its colon, and what follows it. The usual port is not kept. -/
def readPort (usual : Option Nat) (s : List Char) : Except UrlError (Option Nat × List Char) :=
  let digits := s.takeWhile isDecimalDigit
  let rest := s.dropWhile isDecimalDigit
  match rest with
  | c :: _ => if c = '\\' then number digits rest else .error .invalidPort
  | [] => number digits rest
where
  /-- The number that digits spell, if there are any and it is in range. -/
  number (digits rest : List Char) : Except UrlError (Option Nat × List Char) :=
    match readNumeral? 10 digits with
    | none => .ok (none, rest)
    | some n =>
      if UInt16.size ≤ n then .error .invalidPort
      else .ok (if some n = usual then none else some n, rest)

/-- An authority, and what follows its port. `more` says that the text goes on behind it. -/
def readAuthority (scheme s : List Char) (more : Bool) :
    Except UrlError (Authority × List Char) := do
  let usual := usualPort? scheme
  let (credentials, located) ← match cutAtLastAt? s with
    | none => .ok (Credentials.none, s)
    | some ([], located) =>
      if located.isEmpty && more then .error .emptyHost else .ok (Credentials.none, located)
    | some (before, located) => .ok (readCredentials before, located)
  let (hostText, after) := splitHost false located
  if usual.isSome && hostText.isEmpty then .error .emptyHost
  let host ← if usual.isSome then Host.ofSpecial hostText else Host.ofOpaque hostText
  if host.isEmpty && !(after.isEmpty && credentials.isEmpty) then .error .emptyHost
  match after with
  | ':' :: s =>
    let (port, rest) ← readPort usual s
    .ok (⟨credentials, host, port⟩, rest)
  | rest => .ok (⟨credentials, host, none⟩, rest)

/-- A URL of a special scheme. Slashes in front of the authority do not count. -/
def readSpecial (scheme s : List Char) (more : Bool) : Except UrlError (Authority × Path) := do
  let slash (c : Char) : Bool := c == '/' || c == '\\'
  let located := s.dropWhile slash
  let path := located.dropWhile fun c => !slash c
  let (authority, _) ←
    readAuthority scheme (located.takeWhile fun c => !slash c) (more || !path.isEmpty)
  .ok (authority, .ofSpecial path)

/-- A URL of a scheme that is not special: with an authority, with a path alone, or with a text
that has no structure. -/
def readGeneral (scheme s : List Char) (more : Bool) :
    Except UrlError (Option Authority × Path) := do
  match s with
  | '/' :: '/' :: located =>
    let path := located.dropWhile (· != '/')
    let (authority, rest) ←
      readAuthority scheme (located.takeWhile (· != '/')) (more || !path.isEmpty)
    match rest ++ path with
    | [] => .ok (some authority, .segments [])
    | '/' :: s => .ok (some authority, .ofSegments (Text.splitAt '/' s))
    | s => .ok (some authority, .ofSegments (Text.splitAt '/' s))
  | '/' :: s => .ok (none, .ofSegments (Text.splitAt '/' s))
  | s => .ok (none, .bare (percentEncode inControlSet s))

/-- A URL of a file. A host is only there behind two slashes, and not in front of a drive. -/
def readFile (s : List Char) : Except UrlError (Authority × Path) := do
  let located (name : Host) : Authority := ⟨Credentials.none, name, none⟩
  match Path.withSlashes (s.take 2) with
  | ['/', '/'] =>
    let rest := s.drop 2
    let ends (c : Char) : Bool := c == '/' || c == '\\'
    let hostText := rest.takeWhile fun c => !ends c
    if hostText.isEmpty || Path.isDrive hostText then
      .ok (located (.name []), (Path.ofFile rest).1)
    else
      let host ← Host.ofSpecial hostText
      let (path, drive) := Path.ofFile (rest.dropWhile fun c => !ends c)
      let atHome := host == .name "localhost".toList || drive
      .ok (located (if atHome then .name [] else host), path)
  | _ => .ok (located (.name []), (Path.ofFile s).1)

/-- The URL a text spells. -/
def parse (input : String) : Except UrlError Url := do
  match readScheme? (cleaned input.toList) with
  | none => .error .relativeWithoutBase
  | some (scheme, s) =>
    let (s, fragment) := match cut? '#' s with
      | some (before, after) => (before, some (percentEncode inFragmentSet after))
      | none => (s, none)
    let (s, query) := match cut? '?' s with
      | some (before, after) => (before, some after)
      | none => (s, none)
    let more := query.isSome || fragment.isSome
    if scheme = "file".toList then
      let (authority, path) ← readFile s
      let query := query.map (percentEncode inSpecialQuerySet)
      .ok { scheme, authority := some authority, path, query, fragment }
    else if (usualPort? scheme).isSome then
      let (authority, path) ← readSpecial scheme s more
      let query := query.map (percentEncode inSpecialQuerySet)
      .ok { scheme, authority := some authority, path, query, fragment }
    else
      let (authority, path) ← readGeneral scheme s more
      let query := query.map (percentEncode inQuerySet)
      .ok { scheme, authority, path, query, fragment }

end VpnClient.Url
