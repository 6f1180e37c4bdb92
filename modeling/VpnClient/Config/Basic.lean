import VpnClient.Dns.Settings
import VpnClient.Url.Reader

/-!
# Configuration

What a user can configure, and which configurations are in order.

## Main Definitions

* `ConnectConfig` — the settings of the connect screen
* `Config` — the whole configuration
* `ConfigProblem` — what can be wrong with a configuration
* `Config.problem?` — the first thing that is wrong
-/

namespace VpnClient

/-- The settings of the connect screen: how long the screen waits for further changes, whether this
is a store build, the web page of the account, and how many days before its end an account is
warned of. -/
structure ConnectConfig where
  debounceMs : Nat
  isPlayBuild : Bool
  accountUrl : String
  expiryWarningDays : Nat
  deriving DecidableEq, Repr

/-- The whole configuration. -/
structure Config where
  connect : ConnectConfig
  dns : DnsSettings
  deriving DecidableEq, Repr

/-- What can be wrong with a configuration. -/
inductive ConfigProblem where
  | debounceOutOfRange (milliseconds : Nat)
  | warningDaysOutOfRange (days : Nat)
  | accountUrlScheme (scheme : String)
  | accountUrlUnreadable (error : UrlError)
  deriving DecidableEq, Repr

/-- The sentence for what is wrong. -/
def ConfigProblem.message : ConfigProblem → String
  | debounceOutOfRange n => "debounce_ms must be between 1 and 5000, got " ++ Text.decimal n
  | warningDaysOutOfRange n =>
    "expiry_warning_days must be between 1 and 30, got " ++ Text.decimal n
  | accountUrlScheme scheme => "account_url scheme must be http or https, got: " ++ scheme
  | accountUrlUnreadable error => "Failed to parse account_url: " ++ error.message

namespace ConnectConfig

/-- The settings of a user who has configured nothing. -/
def initial : ConnectConfig where
  debounceMs := 200
  isPlayBuild := false
  accountUrl := "https://relaydeck.net/account"
  expiryWarningDays := 3

/-- What is wrong with the web page of the account. -/
def accountUrlProblem? (config : ConnectConfig) : Option ConfigProblem :=
  match Url.parse config.accountUrl with
  | .error error => some (.accountUrlUnreadable error)
  | .ok url =>
    if url.isWeb then none else some (.accountUrlScheme (String.ofList url.scheme))

/-- The first thing that is wrong with the settings. -/
def problem? (config : ConnectConfig) : Option ConfigProblem :=
  if config.debounceMs < 1 ∨ 5000 < config.debounceMs then
    some (.debounceOutOfRange config.debounceMs)
  else if config.expiryWarningDays < 1 ∨ 30 < config.expiryWarningDays then
    some (.warningDaysOutOfRange config.expiryWarningDays)
  else config.accountUrlProblem?

/-- The document form of the settings. -/
def toData (config : ConnectConfig) : Data :=
  .record [("debounce_ms", .integer config.debounceMs),
    ("is_play_build", .bool config.isPlayBuild), ("account_url", .text config.accountUrl),
    ("expiry_warning_days", .integer config.expiryWarningDays)]

/-- The settings a document value stands for. -/
def ofData? (surplus : Data.Surplus) (d : Data) : Option ConnectConfig := do
  let m ← d.members? surplus 4
  let debounceMs ← m.defaulted 0 "debounce_ms" initial.debounceMs Data.word64?
  let isPlayBuild ← m.defaulted 1 "is_play_build" initial.isPlayBuild Data.bool?
  let accountUrl ← m.defaulted 2 "account_url" initial.accountUrl Data.text?
  let expiryWarningDays ←
    m.defaulted 3 "expiry_warning_days" initial.expiryWarningDays Data.word32?
  some { debounceMs, isPlayBuild, accountUrl, expiryWarningDays }

end ConnectConfig

namespace Config

/-- The configuration of a user who has configured nothing. -/
def initial : Config where
  connect := .initial
  dns := .initial

/-- The first thing that is wrong with a configuration. -/
def problem? (config : Config) : Option ConfigProblem :=
  config.connect.problem?

/-- The document form of a configuration. -/
def toData (config : Config) : Data :=
  .record [("connect", config.connect.toData), ("dns", config.dns.toData)]

/-- The configuration a document value stands for. -/
def ofData? (surplus : Data.Surplus) (d : Data) : Option Config := do
  let m ← d.members? surplus 2
  let connect ← m.defaulted 0 "connect" ConnectConfig.initial (ConnectConfig.ofData? surplus)
  let dns ← m.defaulted 1 "dns" DnsSettings.initial (DnsSettings.ofData? surplus)
  some { connect, dns }

end Config

end VpnClient
