import VpnClient.Config.File
import VpnClient.Dns.Dialog
import VpnClient.Source

/-!
# DNS stores

Where the DNS settings are kept while the program runs: in memory, or in memory and in the
configuration file.

## Main Definitions

* `DnsStore` — a store
* `DnsStore.openFile` — a store on a configuration file
* `DnsStore.perform` — a change of the stored settings
* `DnsStore.answer` — what a dialog gets for a request

## Design Notes

A store on a file keeps the settings it has in memory and writes all of them with every change; the
rest of the configuration is what the file says at that moment. The settings in memory are a source,
so that whoever follows them is told of every change that succeeds and of nothing else.
-/

namespace VpnClient

/-- A store of DNS settings: the source of the settings, and the file that they are kept in besides,
if there is one. -/
structure DnsStore where
  path : Option String
  channel : Source DnsSettings
  deriving DecidableEq, Repr

namespace DnsStore

/-- The settings that are stored. -/
def settings (store : DnsStore) : DnsSettings :=
  store.channel.value

/-- A store in memory. -/
def memory (settings : DnsSettings) : DnsStore :=
  ⟨none, .fresh settings⟩

/-- A store on a configuration file, if the configuration can be loaded. -/
def openFile (fs : FileSystem) (path : String) : Except Failure DnsStore :=
  (Config.load fs path).map fun config => ⟨some path, .fresh config.dns⟩

/-- The store after other settings have been published. -/
def publish (store : DnsStore) (settings : DnsSettings) : DnsStore :=
  { store with channel := store.channel.set settings }

/-- A failure to get at the file as one of the store. -/
def unstored (failure : Failure) : DnsError :=
  .storage failure.message

/-- The file system after an attempt to write changed settings to a file, and the settings. -/
def persist (settings : DnsSettings) (fs : FileSystem) (path : String) (change : DnsChange) :
    FileSystem × Except DnsError DnsSettings :=
  match Config.load fs path with
  | .error failure => (fs, .error (unstored failure))
  | .ok config =>
    match settings.apply change with
    | .error error => (fs, .error error)
    | .ok changed =>
      match ({ config with dns := changed } : Config).save fs path with
      | (fs, .ok ()) => (fs, .ok changed)
      | (fs, .error failure) => (fs, .error (unstored failure))

/-- The file system after an attempt to change the stored settings, and the store with them. -/
def perform (store : DnsStore) (fs : FileSystem) (change : DnsChange) :
    FileSystem × Except DnsError DnsStore :=
  match store.path with
  | none => (fs, (store.settings.apply change).map store.publish)
  | some path =>
    let (fs, result) := persist store.settings fs path change
    (fs, result.map store.publish)

/-- What became of a request: the store, the file system, whether those who follow the settings were
told of a change, and the result. -/
structure Answer where
  store : DnsStore
  files : FileSystem
  isChanged : Bool
  result : DialogResult
  deriving DecidableEq, Repr

/-- What a dialog gets for a request. -/
def answer (store : DnsStore) (fs : FileSystem) : DnsRequest → Answer
  | .refused => ⟨store, fs, false, .error⟩
  | .done => ⟨store, fs, false, .success⟩
  | .change change =>
    match store.perform fs change with
    | (fs, .ok changed) =>
      ⟨changed, fs, changed.channel.revision != store.channel.revision, .success⟩
    | (fs, .error _) => ⟨store, fs, false, .error⟩

end DnsStore

end VpnClient
