import VpnClient.Config.Document
import VpnClient.File.System

/-!
# Configuration files

Where the configuration is kept, and how it is loaded and saved.

## Main Definitions

* `Environment` — the variables that say where the configuration is kept
* `Environment.configPath` — the path of the configuration file
* `Config.load` — the configuration in a file
* `Config.save` — the file system after a configuration has been saved
-/

namespace VpnClient

/-- The variables of the environment that say where the configuration is kept. -/
structure Environment where
  configDirectory : Option String
  home : Option String
  deriving DecidableEq, Repr

namespace Environment

/-- The directory of the configuration: the one that is set, else the usual one at home. -/
def directory (env : Environment) : Except Failure String :=
  match env.configDirectory, env.home with
  | some directory, _ => .ok directory
  | none, some home => .ok (FileSystem.join (FileSystem.join home ".config") "relaydeck")
  | none, none => .error (.config (.io "HOME environment variable not set"))

/-- The path of the configuration file. -/
def configPath (env : Environment) : Except Failure String :=
  env.directory.map fun directory => FileSystem.join directory "config.toml"

end Environment

namespace Config

/-- Nothing, if a configuration is in order. -/
def check (config : Config) : Except Failure Unit :=
  match config.problem? with
  | none => .ok ()
  | some problem => .error (.config (.validation problem.message))

/-- The configuration in a file. A file that is not there configures nothing; one that is there
has to be in order. -/
def load (fs : FileSystem) (path : String) : Except Failure Config :=
  match fs.read path with
  | .error .notFound => .ok initial
  | .error error => .error (.config (.io ("Failed to read config file: " ++ error.message)))
  | .ok text =>
    match ofDocument? text with
    | none => .error .document
    | some config => do
      config.check
      .ok config

/-- The file system after an attempt to save a configuration in a file. One that is not in order
is not saved. The directories that the file is in are made if they are not there. -/
def save (config : Config) (fs : FileSystem) (path : String) :
    FileSystem × Except Failure Unit :=
  match config.check with
  | .error failure => (fs, .error failure)
  | .ok () =>
    match fs.makeParents path with
    | (fs, .error error) =>
      (fs, .error (.config (.io ("Failed to create config directory: " ++ error.message))))
    | (fs, .ok ()) =>
      match config.document? with
      | none => (fs, .error .unwritable)
      | some text =>
        match fs.write path text with
        | .ok fs => (fs, .ok ())
        | .error _ => (fs, .error (.config (.saveFailed path)))

end Config

end VpnClient
