import VpnClient.Address.Ipv6
import VpnClient.Url.Domain

/-!
# Hosts

The host of a URL: a name or an address. Which texts name a host depends on whether the scheme is
a special one, whose hosts are looked up in the domain name system.

## Main Definitions

* `Host` — a name or an address
* `Host.ofSpecial` — the host a text names under a special scheme
* `Host.ofOpaque` — the host a text names under any other scheme
* `UrlError` — why a text is not a URL

## Design Notes

A name whose last label is a number can only be an IPv4 address, in one of its many spellings:
one to four numbers, each decimal, octal or hexadecimal, of which the last one fills all octets
that are left.
-/

namespace VpnClient

/-- Why a text is not a URL. -/
inductive UrlError where
  | relativeWithoutBase
  | emptyHost
  | invalidPort
  | invalidIpv4
  | invalidIpv6
  | invalidDomain
  | invalidDomainCharacter
  deriving DecidableEq, Repr

/-- The words for what is wrong with a URL. -/
def UrlError.message : UrlError → String
  | relativeWithoutBase => "relative URL without a base"
  | emptyHost => "empty host"
  | invalidPort => "invalid port number"
  | invalidIpv4 => "invalid IPv4 address"
  | invalidIpv6 => "invalid IPv6 address"
  | invalidDomain => "invalid international domain name"
  | invalidDomainCharacter => "invalid domain character"

namespace Url

open Text (splitAt readNumeral? isDecimalDigit)

/-- Where a URL leads. An empty name is a host, too, under some schemes. -/
inductive Host where
  | name (name : List Char)
  | ipv4 (address : Ipv4)
  | ipv6 (address : Ipv6)
  deriving DecidableEq, Repr

namespace Host

/-- The characters of a host. Inside a URL an IPv6 address never ends in a dotted quad. -/
def chars : Host → List Char
  | name s => s
  | ipv4 address => address.chars
  | ipv6 address => '[' :: Ipv6.compressed address.groups ++ [']']

/-- Whether a host is the empty name. -/
def isEmpty (host : Host) : Bool :=
  host == name []

/-- The number that a part of an IPv4 address spells: hexadecimal behind `0x`, octal behind any
other leading zero, else decimal. -/
def readPart? (s : List Char) : Option Nat :=
  let ofDigits (radix : Nat) : List Char → Option Nat
    | [] => some 0
    | digits => readNumeral? radix digits
  match s with
  | [] => none
  | '0' :: 'x' :: digits => ofDigits 16 digits
  | '0' :: 'X' :: digits => ofDigits 16 digits
  | '0' :: d :: digits => ofDigits 8 (d :: digits)
  | digits => ofDigits 10 digits

/-- The labels of a name, without the empty one behind a final point. -/
def labels (s : List Char) : List (List Char) :=
  match (splitAt '.' s).reverse with
  | [] :: rest => rest.reverse
  | parts => parts.reverse

/-- Whether the last label of a name is a number. -/
def endsInNumber (s : List Char) : Bool :=
  match (labels s).getLast? with
  | none => false
  | some label => (!label.isEmpty && label.all isDecimalDigit) || (readPart? label).isSome

/-- The IPv4 address with the given number. -/
def ipv4OfNat (n : Nat) : Ipv4 :=
  ⟨UInt8.ofNat (n / 0x1000000 % 256), UInt8.ofNat (n / 0x10000 % 256),
    UInt8.ofNat (n / 0x100 % 256), UInt8.ofNat (n % 256)⟩

/-- The number of an address whose last part fills all octets that the others leave. -/
def joinParts? : Nat → List Nat → Option Nat
  | _, [] => none
  | octets, [last] => if last < Nat.pow 256 octets then some last else none
  | octets, part :: parts =>
    if part < 256 ∧ 1 < octets then
      (joinParts? (octets - 1) parts).map fun n => part * Nat.pow 256 (octets - 1) + n
    else none

/-- The IPv4 address that a name whose last label is a number stands for. -/
def readIpv4? (s : List Char) : Option Ipv4 :=
  (((labels s).mapM readPart?).bind (joinParts? 4)).map ipv4OfNat

/-- An IPv6 address in brackets, of which the first one has been read. -/
def readBracketed (s : List Char) : Except UrlError Host :=
  match s.reverse with
  | ']' :: inner =>
    match Ipv6.read? inner.reverse with
    | some address => .ok (ipv6 address)
    | none => .error .invalidIpv6
  | _ => .error .invalidIpv6

/-- The host a text names under a special scheme. -/
def ofSpecial (s : List Char) : Except UrlError Host :=
  match s with
  | '[' :: rest => readBracketed rest
  | _ =>
    match domainToAscii? (percentDecode s) with
    | none => .error .invalidDomain
    | some [] => .error .emptyHost
    | some domain =>
      if endsInNumber domain then
        match readIpv4? domain with
        | some address => .ok (ipv4 address)
        | none => .error .invalidIpv4
      else .ok (name domain)

/-- The characters that no host contains. -/
def isForbidden (c : Char) : Bool :=
  ['\x00', '\t', '\n', '\r', ' ', '#', '/', ':', '<', '>', '?', '@', '[', '\\', ']', '^',
    '|'].contains c

/-- The host a text names under a scheme that is not special. -/
def ofOpaque (s : List Char) : Except UrlError Host :=
  match s with
  | '[' :: rest => readBracketed rest
  | _ =>
    if s.any isForbidden then .error .invalidDomainCharacter
    else .ok (name (percentEncode inControlSet s))

end Host

end Url

end VpnClient
