import VpnClient.Text.Numeral

/-!
# Failures

What can go wrong, by cause, and the sentence that tells the user.

## Main Definitions

* `FileError` — what a file system refuses
* `ConfigError`, `ConnectError`, `DnsError`, `PaymentError` — failures of one part of the program
* `Failure` — any failure a command can end with
* `Failure.message` — its sentence

## Design Notes

What is wrong with a document that cannot be read is not part of a failure: the reader only says
that it cannot be read.
-/

namespace VpnClient

open Text (decimal)

/-- Why a file system does not do what it is asked. -/
inductive FileError where
  | notFound
  | alreadyThere
  | notADirectory
  | isADirectory
  | nameTooLong
  | nulInName
  | notText
  deriving DecidableEq, Repr

/-- The sentence for a refusal of the file system. -/
def FileError.message : FileError → String
  | notFound => "No such file or directory (os error 2)"
  | alreadyThere => "File exists (os error 17)"
  | notADirectory => "Not a directory (os error 20)"
  | isADirectory => "Is a directory (os error 21)"
  | nameTooLong => "File name too long (os error 36)"
  | nulInName => "file name contained an unexpected NUL byte"
  | notText => "stream did not contain valid UTF-8"

/-- A failure to read, check or write the configuration. -/
inductive ConfigError where
  | saveFailed (path : String)
  | validation (message : String)
  | io (message : String)
  deriving DecidableEq, Repr

/-- The sentence for a failure of the configuration. -/
def ConfigError.message : ConfigError → String
  | saveFailed path => "Failed to save configuration file: " ++ path
  | validation message => "Configuration validation error: " ++ message
  | io message => "I/O error: " ++ message

/-- A failure of a connect request. -/
inductive ConnectError where
  | noVpnPermission
  | unknown (reason : String)
  deriving DecidableEq, Repr

/-- The sentence for a failed connect request. -/
def ConnectError.message : ConnectError → String
  | noVpnPermission => "VPN permission has not been granted"
  | unknown reason => "Connect request failed: " ++ reason

/-- A failure to change the list of DNS servers. -/
inductive DnsError where
  | invalidAddress (input : String)
  | indexOutOfBounds (index length : Nat)
  | storage (message : String)
  deriving DecidableEq, Repr

/-- The sentence for a failed change of the DNS servers. -/
def DnsError.message : DnsError → String
  | invalidAddress input => "Not a valid DNS server address: " ++ input
  | indexOutOfBounds index length =>
    "No custom DNS entry at index " ++ decimal index ++ " (have " ++ decimal length ++ ")"
  | storage message => "Failed to persist custom DNS entries: " ++ message

/-- A failure to verify a purchase. -/
inductive PaymentError where
  | providerUnavailable
  | verificationFailed (reason : String)
  deriving DecidableEq, Repr

/-- The sentence for a purchase that could not be verified. -/
def PaymentError.message : PaymentError → String
  | providerUnavailable => "Payment provider unavailable"
  | verificationFailed reason => "Purchase verification failed: " ++ reason

/-- Any failure a command can end with. -/
inductive Failure where
  | config (error : ConfigError)
  | connect (error : ConnectError)
  | dns (error : DnsError)
  | file (error : FileError)
  | document
  | unwritable
  deriving DecidableEq, Repr

/-- The sentence for a failure. -/
def Failure.message : Failure → String
  | config error => "Configuration error: " ++ error.message
  | connect error => "Connect error: " ++ error.message
  | dns error => "DNS error: " ++ error.message
  | file error => "I/O error: " ++ error.message
  | document => "TOML parsing error"
  | unwritable => "TOML serialization error"

end VpnClient
