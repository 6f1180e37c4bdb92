import VpnClient.Config.Basic
import VpnClient.Toml.Reader
import VpnClient.Toml.Writer

/-!
# Configuration documents

The text of a configuration file.

## Main Definitions

* `Config.ofDocument?` — the configuration a document describes
* `Config.document?` — the document that describes a configuration
-/

namespace VpnClient

namespace Config

open Toml

/-- The configuration a document describes. What it leaves out is as nobody has configured it. -/
def ofDocument? (text : String) : Option Config :=
  (Toml.read? text).bind (ofData? .ignored)

/-- A number as a value. -/
def numberValue (n : Nat) : List Char :=
  Text.numeral 10 n

/-- The section of the connect screen. -/
def connectSection (config : ConnectConfig) : List Char :=
  header "connect".toList
    ++ pair "debounce_ms".toList (numberValue config.debounceMs)
    ++ pair "is_play_build".toList (boolValue config.isPlayBuild)
    ++ pair "account_url".toList (textValue config.accountUrl.toList)
    ++ pair "expiry_warning_days".toList (numberValue config.expiryWarningDays)

/-- The section of the DNS servers. -/
def dnsSection (settings : DnsSettings) : List Char :=
  header "dns".toList
    ++ pair "allow_lan".toList (boolValue settings.allowLan)
    ++ pair "custom".toList (listValue (settings.custom.map fun a => textValue a.chars))

/-- The document that describes a configuration. Documents hold signed numbers of sixty-four bits,
so that there is none for a longer wait. -/
def document? (config : Config) : Option String :=
  if config.connect.debounceMs < signedSize then
    some (String.ofList (connectSection config.connect ++ '\n' :: dnsSection config.dns))
  else none

end Config

end VpnClient
