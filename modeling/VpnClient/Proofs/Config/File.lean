import VpnClient.Config.File
import VpnClient.Proofs.Config.Document
import VpnClient.Proofs.File.Tree

/-!
# Configuration files are loaded as they were saved

A configuration that has been loaded is in order, and one that is in order can be saved wherever
there can be a file, and is loaded from there unchanged.

## Main Statements

* `Config.problem?_of_load` — what is loaded is in order
* `Config.exists_save` — what is saved is loaded
* `Config.save_ok_iff` — there is nothing but the path that can be wrong
* `Config.keepsFiles_of_save_error` — what is not saved changes no file
* `Config.files_round_trip` — saving and loading as a whole
-/

namespace VpnClient

open FileSystem

namespace Config

variable {config : Config} {fs : FileSystem} {path : String}

theorem check_of_problem? (h : config.problem? = none) : config.check = .ok () := by
  rw [check, h]

theorem problem?_of_check (h : config.check = .ok ()) : config.problem? = none := by
  rw [check] at h
  split at h
  · next hproblem => exact hproblem
  · cases h

theorem problem?_initial : initial.problem? = none := by
  decide +kernel

/-! ## Loading -/

theorem load_of_notFound (h : fs.read path = .error .notFound) : load fs path = .ok initial := by
  rw [load, h]

/-- A configuration is loaded from no file, or from one that can be read. -/
theorem cases_of_load (h : load fs path = .ok config) :
    (fs.read path = .error .notFound ∧ config = initial) ∨
      ∃ text, fs.read path = .ok text ∧ ofDocument? text = some config ∧
        config.problem? = none := by
  rw [load] at h
  split at h
  · next hread => exact Or.inl ⟨hread, (Except.ok.inj h).symm⟩
  · cases h
  · next text hread =>
    split at h
    · cases h
    · next read hdocument =>
      cases hcheck : read.check with
      | error failure =>
          rw [hcheck] at h
          cases h
      | ok order =>
          rw [hcheck] at h
          obtain rfl : read = config := Except.ok.inj h
          exact Or.inr ⟨text, hread, hdocument, problem?_of_check hcheck⟩

/-- A configuration that has been loaded is in order. -/
theorem problem?_of_load (h : load fs path = .ok config) : config.problem? = none := by
  rcases cases_of_load h with ⟨-, rfl⟩ | ⟨text, -, -, hproblem⟩
  · exact problem?_initial
  · exact hproblem

/-- A file from which a configuration is loaded can be written, if it is there. -/
theorem admits_of_load (h : load fs path = .ok config)
    (habsent : fs.read path = .error .notFound → fs.admits path = true) :
    fs.admits path = true := by
  rcases cases_of_load h with ⟨hread, -⟩ | ⟨text, hread, -, -⟩
  · exact habsent hread
  · obtain ⟨place, hhosts, hfree⟩ := hosts_of_read hread
    exact hhosts.admits hfree

/-! ## Saving -/

/-- A configuration in order is saved where there can be a file, and loaded from it. -/
theorem exists_save (h : config.problem? = none) (hroom : fs.admits path = true) :
    ∃ saved place, config.save fs path = (saved, .ok ()) ∧ saved.Hosts path place ∧
      load saved path = .ok config := by
  obtain ⟨made, place, hparents, hhosts, hfree⟩ := admits_iff.mp hroom
  obtain ⟨text, htext, hdocument⟩ := ofDocument?_document? h
  refine ⟨made.put place (.file (.text text)), place, ?_, hhosts.put _, ?_⟩
  · simp only [save, check_of_problem? h, hparents, htext,
      write_of_resolve hhosts.resolve_eq hfree]
  · simp only [load, hhosts.read_put, hdocument, check_of_problem? h]
    rfl

/-- A configuration that is not in order is refused before anything is done. -/
theorem save_of_problem? {problem : ConfigProblem} (h : config.problem? = some problem) :
    config.save fs path = (fs, .error (.config (.validation problem.message))) := by
  have hcheck : config.check = .error (.config (.validation problem.message)) := by
    rw [check, h]
  rw [save, hcheck]

/-- The steps of an attempt to save a configuration in order: the directories may fail, then there
is a document, and it may fail to be written. -/
theorem save_cases (h : config.problem? = none) (fs : FileSystem) (path : String) :
    (∃ made error, fs.makeParents path = (made, .error error) ∧ config.save fs path =
        (made, .error (.config (.io ("Failed to create config directory: " ++ error.message))))) ∨
      ∃ made text, fs.makeParents path = (made, .ok ()) ∧
        ((∃ error, made.write path text = .error error ∧
            config.save fs path = (made, .error (.config (.saveFailed path)))) ∨
          ∃ written, made.write path text = .ok written ∧
            config.save fs path = (written, .ok ())) := by
  obtain ⟨text, htext, -⟩ := ofDocument?_document? h
  rw [save, check_of_problem? h]
  dsimp only
  cases hparents : fs.makeParents path with
  | mk made result =>
      cases result with
      | error error => exact Or.inl ⟨made, error, rfl, rfl⟩
      | ok done =>
          refine Or.inr ⟨made, text, rfl, ?_⟩
          rw [htext]
          dsimp only
          cases hwrite : made.write path text with
          | error error => exact Or.inl ⟨error, rfl, rfl⟩
          | ok written => exact Or.inr ⟨written, rfl, rfl⟩

/-- All that can keep a configuration in order from being saved is the path of the file. -/
theorem save_ok_iff (h : config.problem? = none) :
    (config.save fs path).2 = .ok () ↔ fs.admits path = true := by
  constructor
  · intro hsave
    rcases save_cases h fs path with
      ⟨_, _, -, heq⟩ | ⟨made, text, hparents, ⟨_, -, heq⟩ | ⟨written, hwrite, -⟩⟩
    · rw [heq] at hsave
      cases hsave
    · rw [heq] at hsave
      cases hsave
    · obtain ⟨place, hresolve, hfree⟩ := exists_of_write hwrite
      exact admits_iff.mpr ⟨made, place, hparents, Hosts.of_resolve hresolve hfree, hfree⟩
  · intro hroom
    obtain ⟨saved, place, hsave, -, -⟩ := exists_save h hroom
    rw [hsave]

/-- A configuration in order always has a document. -/
theorem save_ne_unwritable (config : Config) (fs : FileSystem) (path : String) :
    (config.save fs path).2 ≠ .error .unwritable := by
  cases hproblem : config.problem? with
  | some problem =>
      rw [save_of_problem? hproblem]
      exact nofun
  | none =>
      rcases save_cases hproblem fs path with
        ⟨_, _, -, hsave⟩ | ⟨_, _, -, ⟨_, -, hsave⟩ | ⟨_, -, hsave⟩⟩
      · rw [hsave]
        exact nofun
      · rw [hsave]
        exact nofun
      · rw [hsave]
        exact nofun

/-- A configuration that is not saved may have left directories behind, but no file has changed. -/
theorem keepsFiles_of_save_error {failure : Failure}
    (h : (config.save fs path).2 = .error failure) : fs.KeepsFiles (config.save fs path).1 := by
  have hparents : fs.KeepsFiles (fs.makeParents path).1 := KeepsFiles.makeDirectories fs _
  cases hproblem : config.problem? with
  | some problem =>
      rw [save_of_problem? hproblem]
      exact KeepsFiles.refl fs
  | none =>
      rcases save_cases hproblem fs path with
        ⟨made, _, hmade, hsave⟩ | ⟨made, _, hmade, ⟨_, -, hsave⟩ | ⟨_, -, hsave⟩⟩
      · rw [hsave]
        rwa [hmade] at hparents
      · rw [hsave]
        rwa [hmade] at hparents
      · rw [hsave] at h
        cases h

/-! ## Round trips -/

/-- What becomes of a configuration that is saved at a path, and what is loaded from there. -/
structure RoundTrips (config : Config) (fs : FileSystem) (path : String) : Prop where
  /-- A configuration that is not in order is refused, and nothing is made. -/
  refused : ∀ problem, config.problem? = some problem →
    config.save fs path = (fs, .error (.config (.validation problem.message)))
  /-- A configuration never lacks a document. -/
  writable : (config.save fs path).2 ≠ .error .unwritable
  /-- One that is in order is saved wherever a file can be made, and loaded from it unchanged. -/
  saved : config.problem? = none → fs.admits path = true →
    ∃ written, config.save fs path = (written, .ok ()) ∧ load written path = .ok config
  /-- Whatever an attempt to save fails for, all files are as they were. -/
  failed : ∀ failure, (config.save fs path).2 = .error failure →
    fs.KeepsFiles (config.save fs path).1
  /-- What is loaded is in order. -/
  loaded : load fs path = .ok config → config.problem? = none
  /-- What is loaded can be saved again in its place, unless there is no file and can be none, and
  is loaded unchanged. -/
  reloaded : load fs path = .ok config →
    (fs.read path = .error .notFound → fs.admits path = true) →
      ∃ written, config.save fs path = (written, .ok ()) ∧ load written path = .ok config

/-- Every configuration makes its round trip, at every path of every file system. -/
theorem files_round_trip (config : Config) (fs : FileSystem) (path : String) :
    config.RoundTrips fs path := by
  have hsaved : config.problem? = none → fs.admits path = true →
      ∃ written, config.save fs path = (written, .ok ()) ∧ load written path = .ok config := by
    intro hproblem hroom
    obtain ⟨written, place, hsave, -, hload⟩ := exists_save hproblem hroom
    exact ⟨written, hsave, hload⟩
  exact {
    refused := fun _ hproblem => save_of_problem? hproblem
    writable := save_ne_unwritable config fs path
    saved := hsaved
    failed := fun _ hfailure => keepsFiles_of_save_error hfailure
    loaded := problem?_of_load
    reloaded := fun hload habsent =>
      hsaved (problem?_of_load hload) (admits_of_load hload habsent) }

/-- A page with both kinds of quotes, a backslash, a tab, line breaks and a control character in it,
and servers of both kinds. -/
def quoted : Config where
  connect := { ConnectConfig.initial with
    accountUrl := "https://relaydeck.net/\"acc\\ount's\"?a=\t1\r\n\x01\n" }
  dns := ⟨true, [.v4 ⟨9, 9, 9, 9⟩, .v6 ⟨0x2620, 0xfe, 0, 0, 0, 0, 0, 9⟩]⟩

/-- Such a configuration is saved where nothing is yet, and loaded from there. -/
theorem files_round_trip_quoted :
    quoted.problem? = none ∧ FileSystem.empty.admits "cfg/config.toml" = true ∧
      ∃ written, quoted.save .empty "cfg/config.toml" = (written, .ok ()) ∧
        load written "cfg/config.toml" = .ok quoted := by
  have hproblem : quoted.problem? = none := by decide +kernel
  have hplain : ∀ n ∈ parts "cfg/config.toml", IsPlain n := by decide +kernel
  have hread := read_empty (by simp) (by decide +kernel) hplain
  have hroom := admits_of_isPlain .empty (by decide +kernel) hplain hread
  exact ⟨hproblem, hroom, (files_round_trip quoted .empty "cfg/config.toml").saved hproblem hroom⟩

end Config

end VpnClient
