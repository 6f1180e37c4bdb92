import VpnClient.Config.Document
import VpnClient.Proofs.Address.Ipv6
import VpnClient.Proofs.Document.Members
import VpnClient.Proofs.Toml.Document

/-!
# Configuration documents are read back

A configuration that is in order has a document, and the document is read as that configuration.

## Main Statements

* `Config.expressions?_documentChars` — a document is read as what the configuration says
* `Config.ofDocument?_document?` — and decoded to the configuration
-/

namespace VpnClient

open Toml
open Data.Members (defaulted_of_lookup)

/-! ## Decoding -/

namespace DnsSettings

theorem mapM_ofData?_toData (addresses : List IpAddress) :
    (addresses.map IpAddress.toData).mapM IpAddress.ofData? = some addresses := by
  induction addresses with
  | nil => rfl
  | cons address addresses ih =>
      have hread : IpAddress.ofData? address.toData = some address := by
        rw [IpAddress.toData, IpAddress.ofData?, Data.parsed?, IpAddress.text, String.toList_ofList,
          IpAddress.read?_chars]
      rw [List.map_cons, List.mapM_cons, hread, ih]
      rfl

/-- The document form of DNS settings is decoded to the settings. -/
theorem ofData?_toData (surplus : Data.Surplus) (settings : DnsSettings) :
    ofData? surplus settings.toData = some settings := by
  have hcustom : Data.listOf? IpAddress.ofData? (.list (settings.custom.map IpAddress.toData)) =
      some settings.custom := mapM_ofData?_toData settings.custom
  rw [ofData?, toData, Data.members?, Option.bind_eq_bind, Option.bind_some,
    defaulted_of_lookup (d := .bool settings.allowLan) (a := settings.allowLan) rfl rfl,
    Option.bind_eq_bind, Option.bind_some, defaulted_of_lookup rfl hcustom,
    Option.bind_eq_bind, Option.bind_some]

end DnsSettings

namespace ConnectConfig

theorem word_toData {n bound : Nat} (h : n < bound) :
    Data.natBelow? bound (.integer n) = some n := by
  rw [Data.natBelow?, if_pos (by omega), Int.toNat_natCast]

/-- The document form of the settings of the screen is decoded to the settings. -/
theorem ofData?_toData (surplus : Data.Surplus) {config : ConnectConfig}
    (hdebounce : config.debounceMs < UInt64.size) (hdays : config.expiryWarningDays < UInt32.size) :
    ofData? surplus config.toData = some config := by
  have hmilliseconds : Data.word64? (.integer config.debounceMs) = some config.debounceMs :=
    word_toData hdebounce
  have hwarning : Data.word32? (.integer config.expiryWarningDays) =
      some config.expiryWarningDays := word_toData hdays
  rw [ofData?, toData, Data.members?, Option.bind_eq_bind, Option.bind_some,
    defaulted_of_lookup rfl hmilliseconds, Option.bind_eq_bind, Option.bind_some,
    defaulted_of_lookup (d := .bool config.isPlayBuild) (a := config.isPlayBuild) rfl rfl,
    Option.bind_eq_bind, Option.bind_some,
    defaulted_of_lookup (d := .text config.accountUrl) (a := config.accountUrl) rfl rfl,
    Option.bind_eq_bind, Option.bind_some, defaulted_of_lookup rfl hwarning, Option.bind_some]

/-- Settings in order have numbers within their bounds. -/
theorem bounds_of_problem? {config : ConnectConfig} (h : config.problem? = none) :
    config.debounceMs ≤ 5000 ∧ config.expiryWarningDays ≤ 30 := by
  rw [problem?] at h
  split at h
  · cases h
  · split at h
    · cases h
    · omega

/-- The web page of the account in settings in order is one. -/
theorem exists_accountPage {config : ConnectConfig} (h : config.problem? = none) :
    ∃ page, Url.parse config.accountUrl = .ok page := by
  cases hparse : Url.parse config.accountUrl with
  | ok page => exact ⟨page, rfl⟩
  | error error =>
      simp only [problem?, accountUrlProblem?, hparse] at h
      split at h
      · cases h
      · split at h <;> cases h

end ConnectConfig

namespace Config

/-- The document form of a configuration is decoded to the configuration. -/
theorem ofData?_toData (surplus : Data.Surplus) {config : Config}
    (hdebounce : config.connect.debounceMs < UInt64.size)
    (hdays : config.connect.expiryWarningDays < UInt32.size) :
    ofData? surplus config.toData = some config := by
  rw [ofData?, toData, Data.members?, Option.bind_eq_bind, Option.bind_some,
    defaulted_of_lookup rfl (ConnectConfig.ofData?_toData surplus hdebounce hdays),
    Option.bind_eq_bind, Option.bind_some,
    defaulted_of_lookup rfl (DnsSettings.ofData?_toData surplus config.dns),
    Option.bind_eq_bind, Option.bind_some]

/-! ## Documents -/

/-- The characters of a document. -/
def documentChars (config : Config) : List Char :=
  connectSection config.connect ++ '\n' :: dnsSection config.dns

theorem textsData_addresses (addresses : List IpAddress) :
    textsData (addresses.map IpAddress.chars) = addresses.map IpAddress.toData := by
  rw [textsData, List.map_map]
  rfl

/-- The expressions of a document. -/
def documentExpressions (config : Config) : List Expression :=
  [.table [] "connect",
    .pair [] "debounce_ms" (.integer config.connect.debounceMs),
    .pair [] "is_play_build" (.bool config.connect.isPlayBuild),
    .pair [] "account_url" (.text config.connect.accountUrl),
    .pair [] "expiry_warning_days" (.integer config.connect.expiryWarningDays),
    .table [] "dns",
    .pair [] "allow_lan" (.bool config.dns.allowLan),
    .pair [] "custom" (.list (config.dns.custom.map IpAddress.toData))]

theorem expressions?_documentChars {config : Config}
    (hdebounce : config.connect.debounceMs < signedSize)
    (hdays : config.connect.expiryWarningDays < signedSize) :
    expressions? config.documentChars = some config.documentExpressions := by
  have hurl := IsValueOf.text config.connect.accountUrl.toList
  rw [String.ofList_toList] at hurl
  have hcustom : IsValueOf (listValue (config.dns.custom.map fun a => textValue a.chars))
      (.list (config.dns.custom.map IpAddress.toData)) := by
    have htexts := IsValueOf.texts (config.dns.custom.map IpAddress.chars)
    rw [textsData_addresses, List.map_map] at htexts
    exact htexts
  have hlast (steps : Nat) : readExpressions? (steps + 2) (pair "custom".toList
      (listValue (config.dns.custom.map fun a => textValue a.chars))) =
      some [.pair [] "custom" (.list (config.dns.custom.map IpAddress.toData))] := by
    rw [← List.append_nil (pair _ _), readExpressions?_pair (by decide) hcustom,
      String.ofList_toList]
    rfl
  -- there are ten lines to read, the blank one and the end counted, and as many steps at least
  have hsteps : ∃ steps, config.documentChars.length + 1 = steps + 10 := by
    refine ⟨config.documentChars.length - 9, ?_⟩
    have hlength : 9 ≤ config.documentChars.length := by
      simp [documentChars, connectSection, header]
    omega
  obtain ⟨steps, hsteps⟩ := hsteps
  have hread : expressions? config.documentChars =
      readExpressions? (config.documentChars.length + 1) config.documentChars := rfl
  rw [hread, hsteps, documentChars, connectSection, dnsSection]
  simp only [List.append_assoc, numberValue]
  -- line by line, the first section and then the second one
  rw [readExpressions?_header (by decide),
    readExpressions?_pair (by decide) (IsValueOf.number hdebounce),
    readExpressions?_pair (by decide) (IsValueOf.truth _), readExpressions?_pair (by decide) hurl,
    readExpressions?_pair (by decide) (IsValueOf.number hdays), readExpressions?_blank,
    readExpressions?_header (by decide), readExpressions?_pair (by decide) (IsValueOf.truth _),
    hlast]
  simp only [Option.map_some, String.ofList_toList]
  rfl

/-- The expressions of a document build up the document form of the configuration. -/
theorem assemble?_documentExpressions (config : Config) :
    assemble? config.documentExpressions = some config.toData := by
  rfl

/-- The document of a configuration in order is read back. -/
theorem ofDocument?_document? {config : Config} (h : config.problem? = none) :
    ∃ text, config.document? = some text ∧ ofDocument? text = some config := by
  obtain ⟨hdebounce, hdays⟩ := ConnectConfig.bounds_of_problem? h
  have hsigned : config.connect.debounceMs < signedSize := Nat.lt_of_le_of_lt hdebounce (by decide)
  have hword : config.connect.debounceMs < UInt64.size := Nat.lt_trans hsigned (by decide)
  have hdaysWord : config.connect.expiryWarningDays < UInt32.size :=
    Nat.lt_of_le_of_lt hdays (by decide)
  have hdaysSigned : config.connect.expiryWarningDays < signedSize :=
    Nat.lt_trans hdaysWord (by decide)
  refine ⟨String.ofList config.documentChars, ?_, ?_⟩
  · rw [document?, if_pos hsigned]
    rfl
  · rw [ofDocument?, Toml.read?, String.toList_ofList,
      expressions?_documentChars hsigned hdaysSigned, Option.bind_some,
      assemble?_documentExpressions, Option.bind_some, ofData?_toData .ignored hword hdaysWord]

end Config

end VpnClient
