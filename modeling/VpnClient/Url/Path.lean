import VpnClient.Text.Split
import VpnClient.Url.Percent

/-!
# Paths

The path of a URL: a list of segments in which dots have been resolved, or a text of which only
its scheme knows what it means.

## Main Definitions

* `Path` — a path
* `Path.ofSpecial`, `Path.ofFile`, `Path.ofSegments` — the path a text spells

## Design Notes

A segment of one dot stands for the same place, one of two dots for the place above; a dot may be
written `%2e`. At the end of a path both leave an empty segment, so that the path still ends in a
slash. A drive letter is a place above which there is none, and the root of a path is another.
-/

namespace VpnClient.Url

open Text (splitAt)

/-- A path: segments with slashes in front of them, or a text. -/
inductive Path where
  | segments (segments : List (List Char))
  | bare (text : List Char)
  deriving DecidableEq, Repr

namespace Path

/-- The characters of a path. -/
def chars : Path → List Char
  | segments parts => parts.flatMap fun part => '/' :: part
  | bare text => text

/-- Whether the path would be taken for a host if it came right after the scheme. -/
def looksLikeHost : Path → Bool
  | segments ([] :: _ :: _) => true
  | _ => false

/-- What a segment stands for: the dots in it, an encoded dot being as good as a plain one. -/
def dots : List Char → Option Nat
  | [] => some 0
  | '.' :: rest => (dots rest).map (· + 1)
  | '%' :: '2' :: e :: rest => if e = 'e' ∨ e = 'E' then (dots rest).map (· + 1) else none
  | _ => none

/-- Whether a segment is a letter with a colon or a bar, as drives are named. -/
def isDrive : List Char → Bool
  | [letter, mark] => letter.isAlpha && (mark == ':' || mark == '|')
  | _ => false

/-- The path above a path, last segment first. -/
def parent : List (List Char) → List (List Char)
  | [] => []
  | last :: rest => if isDrive last then last :: rest else rest

/-- The segments that remain when dots are resolved, last segment first, continuing behind those
that have been resolved already. -/
def resolve (done : List (List Char)) : List (List Char) → List (List Char)
  | [] => done
  | part :: parts =>
    let atEnd (above : List (List Char)) := if parts.isEmpty then [] :: above else above
    match dots part with
    | some 1 => resolve (atEnd done) parts
    | some 2 => resolve (atEnd (parent done)) parts
    | _ => resolve (part :: done) parts

/-- The path with the given segments, as they are written. -/
def ofSegments (parts : List (List Char)) : Path :=
  segments (resolve [] (parts.map (percentEncode inPathSet))).reverse

/-- Where backslashes are as good as slashes, slashes in their place. -/
def withSlashes (s : List Char) : List Char :=
  s.map fun c => if c = '\\' then '/' else c

/-- The path a text spells under a special scheme; it is never empty. -/
def ofSpecial (s : List Char) : Path :=
  match withSlashes s with
  | '/' :: rest => ofSegments (splitAt '/' rest)
  | rest => ofSegments (splitAt '/' rest)

/-- A drive letter with a colon behind it. -/
def withColon (part : List Char) : List Char :=
  if isDrive part then part.take 1 ++ [':'] else part

/-- The path a text spells in a file system, and whether it names a drive. Slashes at the start
count once. -/
def ofFile (s : List Char) : Path × Bool :=
  let parts := (resolve [] ((splitAt '/' (withSlashes s)).map (percentEncode inPathSet))).reverse
  let parts' := match (parts.map withColon).dropWhile List.isEmpty with
    | [] => [[]]
    | ps => ps
  (segments parts', parts.any isDrive)

end Path

end VpnClient.Url
