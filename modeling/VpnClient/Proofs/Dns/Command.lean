import VpnClient.Dns.Command
import VpnClient.Proofs.Dns.Dialog
import VpnClient.Proofs.Dns.Store

/-!
# DNS commands on one file

Each command opens the configuration file afresh, works a dialog and writes the file.  Run after
run, the settings in the file are those of a list that the same commands are applied to directly,
and the rest of the configuration stays what it was.

## Main Definitions

* `DnsCommand.applied` — what a command is to do to the settings, or how it is to fail
* `DnsCommand.runAll` — the files after commands have been run one after the other

## Main Statements

* `DnsCommand.run_spec` — one command does what it is to do
* `DnsCommand.runs_refine` — all commands in a row do
-/

namespace VpnClient

namespace DnsCommand

/-! ## What commands are to do -/

/-- What a command is to do to the settings, or how it is to fail. -/
def applied (settings : DnsSettings) : DnsCommand → Except DnsError DnsSettings
  | list => .ok settings
  | add text =>
    match IpAddress.read? (Text.trim text.toList) with
    | none => .error (.invalidAddress text)
    | some address =>
      if address ∈ settings.custom then .ok settings
      else .ok { settings with custom := settings.custom ++ [address] }
  | edit index text =>
    if settings.custom.length ≤ index then
      .error (.indexOutOfBounds index settings.custom.length)
    else
      match IpAddress.read? (Text.trim text.toList) with
      | none => .error (.invalidAddress text)
      | some address =>
        if address ∈ settings.custom.eraseIdx index then
          .ok { settings with custom := settings.custom.eraseIdx index }
        else .ok { settings with custom := settings.custom.set index address }
  | remove index =>
    if settings.custom.length ≤ index then
      .error (.indexOutOfBounds index settings.custom.length)
    else .ok { settings with custom := settings.custom.eraseIdx index }
  | allowLan enabled => .ok { settings with allowLan := enabled }

/-- The settings after a command. One that fails leaves them alone. -/
def next (settings : DnsSettings) (command : DnsCommand) : DnsSettings :=
  match command.applied settings with
  | .ok settings => settings
  | .error _ => settings

/-- The settings after commands. -/
def nextAll (settings : DnsSettings) (commands : List DnsCommand) : DnsSettings :=
  commands.foldl next settings

/-- How a command is to end. -/
def expected (settings : DnsSettings) (command : DnsCommand) : Except Failure Unit :=
  match command.applied settings with
  | .ok _ => .ok ()
  | .error error => .error (.dns error)

/-- A command to which there is nothing to change: it only lists the servers, or adds one that is
listed. -/
def IsIdle (settings : DnsSettings) : DnsCommand → Prop
  | list => True
  | add text => ∃ address ∈ settings.custom, IpAddress.read? (Text.trim text.toList) = some address
  | _ => False

end DnsCommand

/-! ## The file -/

/-- A configuration is what a file holds that can be written. -/
structure Config.IsStored (config : Config) (fs : FileSystem) (path : String) : Prop where
  load_eq : Config.load fs path = .ok config
  admits : fs.admits path = true

namespace Config.IsStored

variable {config : Config} {fs : FileSystem} {path : String}

theorem openFile (h : config.IsStored fs path) :
    DnsStore.openFile fs path = .ok (.opened path config.dns) := by
  rw [DnsStore.openFile, h.load_eq]
  rfl

/-- A change that can be made is made in the file, next to the settings of the screen. -/
theorem exists_perform (h : config.IsStored fs path) {change : DnsChange} {made : DnsSettings}
    (happly : config.dns.apply change = .ok made) :
    ∃ saved store, (DnsStore.opened path config.dns).perform fs change = (saved, .ok store) ∧
      Config.IsStored ⟨config.connect, made⟩ saved path := by
  have hpath : (DnsStore.opened path config.dns).path = some path := rfl
  obtain ⟨saved, place, hperform, hhosts, hload⟩ :=
    DnsStore.exists_perform hpath h.load_eq h.admits happly
  have husable : saved.IsUsable path := Or.inl ⟨place, hhosts⟩
  exact ⟨saved, _, hperform, hload, Config.admits_of_load hload husable.admits_of_notFound⟩

/-- A dialog that asks for a change that can be made succeeds. -/
theorem answer_change (h : config.IsStored fs path) {change : DnsChange} {made : DnsSettings}
    (happly : config.dns.apply change = .ok made) :
    ((DnsStore.opened path config.dns).answer fs (.change change)).result = .success ∧
      Config.IsStored ⟨config.connect, made⟩
        ((DnsStore.opened path config.dns).answer fs (.change change)).files path := by
  obtain ⟨saved, store, hperform, hstored⟩ := h.exists_perform happly
  simp only [DnsStore.answer, hperform]
  exact ⟨trivial, hstored⟩

/-- A dialog in which an address has been typed saves it for an entry that is there, or as a new
one; nothing is written if the new one is listed already. -/
theorem answer_save (h : config.IsStored fs path) {dialog : DnsDialog} {address : IpAddress}
    (haddress : dialog.address? = some address) (hentry : config.dns.HasEntry dialog.index) :
    let answer := (DnsStore.opened path config.dns).answer fs (dialog.saveRequest config.dns)
    answer.result = .success ∧
      Config.IsStored ⟨config.connect,
        { config.dns with custom := config.dns.saved dialog.index address }⟩ answer.files path ∧
      (dialog.index = none → address ∈ config.dns.custom → answer.files = fs) := by
  intro answer
  obtain ⟨input, index⟩ := dialog
  by_cases hlisted : address ∈ config.dns.others index
  · have hrequest := DnsDialog.saveRequest_of_listed haddress hlisted
    rw [DnsSettings.saved_of_listed hlisted]
    cases index with
    | none =>
        simp only [answer, hrequest]
        exact ⟨rfl, h, fun _ _ => rfl⟩
    | some i =>
        have happly : config.dns.apply (.delete i) =
            .ok { config.dns with custom := config.dns.others (some i) } :=
          if_pos (hentry i rfl)
        obtain ⟨hresult, hstored⟩ := h.answer_change happly
        simp only [answer, hrequest]
        exact ⟨hresult, hstored, fun hnone => absurd hnone (Option.some_ne_none i)⟩
  · have hrequest := DnsDialog.saveRequest_of_new haddress hlisted
    rw [DnsSettings.saved_of_new hlisted]
    cases index with
    | none =>
        have happly : config.dns.apply (.add address) =
            .ok { config.dns with custom := config.dns.stored address none } := rfl
        obtain ⟨hresult, hstored⟩ := h.answer_change happly
        simp only [answer, hrequest]
        exact ⟨hresult, hstored, fun _ hmem => absurd hmem hlisted⟩
    | some i =>
        have happly : config.dns.apply (.set i address) =
            .ok { config.dns with custom := config.dns.stored address (some i) } :=
          if_pos (hentry i rfl)
        obtain ⟨hresult, hstored⟩ := h.answer_change happly
        simp only [answer, hrequest]
        exact ⟨hresult, hstored, fun hnone => absurd hnone (Option.some_ne_none i)⟩

end Config.IsStored

namespace DnsCommand

variable {config : Config} {fs : FileSystem} {path : String} {env : Environment}

/-! ## One command -/

theorem run_eq (hpath : env.configPath = .ok path) (h : config.IsStored fs path) (coloured : Bool)
    (command : DnsCommand) :
    command.run coloured env fs = command.runOn coloured (.opened path config.dns) fs := by
  simp only [run, hpath, Except.bind, h.openFile]

theorem save_of_invalid (coloured : Bool) (store : DnsStore) (fs : FileSystem) {dialog : DnsDialog}
    (h : dialog.address? = none) :
    save coloured store fs dialog = ⟨fs, [], .error (.dns (.invalidAddress dialog.input))⟩ := by
  have hdisabled : (dialog.view store.settings).isSaveEnabled = false := by
    rw [← Bool.not_eq_true, dialog.isSaveEnabled_view, h]
    exact Bool.false_ne_true
  simp only [save, hdisabled, Bool.not_false, if_true]

/-- Saving ends well if the dialog does, and leaves the files that the dialog leaves. -/
theorem save_of_success (coloured : Bool) {store : DnsStore} {fs : FileSystem} {dialog : DnsDialog}
    {address : IpAddress} (haddress : dialog.address? = some address)
    (hsuccess : (store.answer fs (dialog.saveRequest store.settings)).result = .success) :
    (save coloured store fs dialog).result = .ok () ∧
      (save coloured store fs dialog).files =
        (store.answer fs (dialog.saveRequest store.settings)).files := by
  have henabled : (dialog.view store.settings).isSaveEnabled = true := by
    rw [dialog.isSaveEnabled_view, haddress]
    rfl
  simp only [save, henabled, Bool.not_true, Bool.false_eq_true, if_false, hsuccess, and_self]

theorem removeEntry_of_success (coloured : Bool) {store : DnsStore} {fs : FileSystem}
    {dialog : DnsDialog} (hsuccess : (store.answer fs dialog.removeRequest).result = .success) :
    (removeEntry coloured store fs dialog).result = .ok () ∧
      (removeEntry coloured store fs dialog).files =
        (store.answer fs dialog.removeRequest).files := by
  simp only [removeEntry, hsuccess, and_self]

/-- A command on the file of a configuration ends as it is to end. -/
structure RunSpec (path : String) (config : Config) (fs : FileSystem) (command : DnsCommand)
    (outcome : CommandOutcome) : Prop where
  result_eq : outcome.result = command.expected config.dns
  /-- The file holds the settings after the command, next to those of the screen. -/
  isStored : Config.IsStored ⟨config.connect, command.next config.dns⟩ outcome.files path
  /-- A command that fails, or has nothing to change, leaves all files alone. -/
  files_eq : (∃ failure, outcome.result = .error failure) ∨ command.IsIdle config.dns →
    outcome.files = fs

/-- A command that is to fail and does so leaves everything alone. -/
theorem RunSpec.of_error (h : config.IsStored fs path) {command : DnsCommand} {error : DnsError}
    (herror : command.applied config.dns = .error error) (lines : List String) :
    RunSpec path config fs command ⟨fs, lines, .error (.dns error)⟩ where
  result_eq := by rw [expected, herror]
  isStored := by
    rw [next, herror]
    exact h
  files_eq := fun _ => rfl

/-- A command that changes settings, and has. -/
theorem RunSpec.of_ok {command : DnsCommand} {made : DnsSettings} {outcome : CommandOutcome}
    (happlied : command.applied config.dns = .ok made) (hresult : outcome.result = .ok ())
    (hstored : Config.IsStored ⟨config.connect, made⟩ outcome.files path)
    (hidle : command.IsIdle config.dns → outcome.files = fs) :
    RunSpec path config fs command outcome where
  result_eq := by rw [expected, happlied, hresult]
  isStored := by
    rw [next, happlied]
    exact hstored
  files_eq := by
    rintro (⟨failure, hfailure⟩ | hcommand)
    · rw [hresult] at hfailure
      cases hfailure
    · exact hidle hcommand

theorem entry_of_le {settings : DnsSettings} {index : Nat} (h : settings.custom.length ≤ index) :
    entry settings index = .error (.dns (.indexOutOfBounds index settings.custom.length)) := by
  rw [entry, List.getElem?_eq_none h]

theorem entry_of_lt {settings : DnsSettings} {index : Nat} (h : index < settings.custom.length) :
    ∃ address, entry settings index = .ok address := by
  refine ⟨settings.custom[index], ?_⟩
  rw [entry, List.getElem?_eq_getElem h]

theorem applied_add {settings : DnsSettings} {text : String} {address : IpAddress}
    (h : IpAddress.read? (Text.trim text.toList) = some address) :
    applied settings (.add text) =
      .ok { settings with custom := settings.saved none address } := by
  simp only [applied, h]
  by_cases hlisted : address ∈ settings.others none
  · rw [DnsSettings.saved_of_listed hlisted]
    exact if_pos hlisted
  · rw [DnsSettings.saved_of_new hlisted]
    exact if_neg hlisted

theorem applied_edit {settings : DnsSettings} {index : Nat} {text : String} {address : IpAddress}
    (hindex : index < settings.custom.length)
    (h : IpAddress.read? (Text.trim text.toList) = some address) :
    applied settings (.edit index text) =
      .ok { settings with custom := settings.saved (some index) address } := by
  simp only [applied, h, if_neg (Nat.not_le_of_lt hindex)]
  by_cases hlisted : address ∈ settings.others (some index)
  · rw [DnsSettings.saved_of_listed hlisted]
    exact if_pos hlisted
  · rw [DnsSettings.saved_of_new hlisted]
    exact if_neg hlisted

theorem runOn_add (h : config.IsStored fs path) (coloured : Bool) (text : String) :
    RunSpec path config fs (.add text)
      (runOn coloured (.opened path config.dns) fs (.add text)) := by
  cases haddress : IpAddress.read? (Text.trim text.toList) with
  | none =>
      have hdialog : (⟨text, none⟩ : DnsDialog).address? = none := haddress
      rw [runOn, save_of_invalid coloured _ fs hdialog]
      refine RunSpec.of_error h ?_ []
      simp only [applied, haddress]
  | some address =>
      have hdialog : (⟨text, none⟩ : DnsDialog).address? = some address := haddress
      obtain ⟨hsuccess, hstored, hlisted⟩ := h.answer_save hdialog config.dns.hasEntry_none
      obtain ⟨hresult, hfiles⟩ := save_of_success coloured hdialog hsuccess
      refine RunSpec.of_ok (applied_add haddress) hresult (hfiles ▸ hstored) ?_
      rintro ⟨other, hmem, hother⟩
      rw [haddress, Option.some_inj] at hother
      exact hfiles.trans (hlisted rfl (hother ▸ hmem))

theorem runOn_edit (h : config.IsStored fs path) (coloured : Bool) (index : Nat) (text : String) :
    RunSpec path config fs (.edit index text)
      (runOn coloured (.opened path config.dns) fs (.edit index text)) := by
  by_cases hindex : index < config.dns.custom.length
  · obtain ⟨current, hcurrent⟩ := entry_of_lt hindex
    have hrun : runOn coloured (.opened path config.dns) fs (.edit index text) =
        save coloured (.opened path config.dns) fs ⟨text, some index⟩ := by
      simp only [runOn, DnsStore.opened, DnsStore.settings, Source.fresh, hcurrent]
    rw [hrun]
    cases haddress : IpAddress.read? (Text.trim text.toList) with
    | none =>
        have hdialog : (⟨text, some index⟩ : DnsDialog).address? = none := haddress
        rw [save_of_invalid coloured _ fs hdialog]
        refine RunSpec.of_error h ?_ []
        simp only [applied, haddress, if_neg (Nat.not_le_of_lt hindex)]
    | some address =>
        have hdialog : (⟨text, some index⟩ : DnsDialog).address? = some address := haddress
        have hentry := (config.dns.hasEntry_some_iff index).mpr hindex
        obtain ⟨hsuccess, hstored, -⟩ := h.answer_save hdialog hentry
        obtain ⟨hresult, hfiles⟩ := save_of_success coloured hdialog hsuccess
        exact RunSpec.of_ok (applied_edit hindex haddress) hresult (hfiles ▸ hstored) False.elim
  · have hlong := Nat.le_of_not_lt hindex
    have hrun : runOn coloured (.opened path config.dns) fs (.edit index text) =
        ⟨fs, [], .error (.dns (.indexOutOfBounds index config.dns.custom.length))⟩ := by
      simp only [runOn, DnsStore.opened, DnsStore.settings, Source.fresh, entry_of_le hlong]
    rw [hrun]
    refine RunSpec.of_error h ?_ []
    simp only [applied, if_pos hlong]

theorem runOn_remove (h : config.IsStored fs path) (coloured : Bool) (index : Nat) :
    RunSpec path config fs (.remove index)
      (runOn coloured (.opened path config.dns) fs (.remove index)) := by
  by_cases hindex : index < config.dns.custom.length
  · obtain ⟨current, hcurrent⟩ := entry_of_lt hindex
    have hrun : runOn coloured (.opened path config.dns) fs (.remove index) =
        removeEntry coloured (.opened path config.dns) fs ⟨current.text, some index⟩ := by
      simp only [runOn, DnsStore.opened, DnsStore.settings, Source.fresh, hcurrent]
    have happly : config.dns.apply (.delete index) =
        .ok { config.dns with custom := config.dns.custom.eraseIdx index } := if_pos hindex
    obtain ⟨hsuccess, hstored⟩ := h.answer_change happly
    have hrequest : (⟨current.text, some index⟩ : DnsDialog).removeRequest =
        .change (.delete index) := rfl
    rw [← hrequest] at hsuccess hstored
    obtain ⟨hresult, hfiles⟩ := removeEntry_of_success coloured hsuccess
    rw [hrun]
    refine RunSpec.of_ok ?_ hresult (hfiles ▸ hstored) False.elim
    simp only [applied, if_neg (Nat.not_le_of_lt hindex)]
  · have hlong := Nat.le_of_not_lt hindex
    have hrun : runOn coloured (.opened path config.dns) fs (.remove index) =
        ⟨fs, [], .error (.dns (.indexOutOfBounds index config.dns.custom.length))⟩ := by
      simp only [runOn, DnsStore.opened, DnsStore.settings, Source.fresh, entry_of_le hlong]
    rw [hrun]
    refine RunSpec.of_error h ?_ []
    simp only [applied, if_pos hlong]

theorem runOn_allowLan (h : config.IsStored fs path) (coloured enabled : Bool) :
    RunSpec path config fs (.allowLan enabled)
      (runOn coloured (.opened path config.dns) fs (.allowLan enabled)) := by
  have happly : config.dns.apply (.allowLan enabled) =
      .ok { config.dns with allowLan := enabled } := rfl
  obtain ⟨saved, store, hperform, hstored⟩ := h.exists_perform happly
  have happlied : applied config.dns (.allowLan enabled) =
      .ok { config.dns with allowLan := enabled } := rfl
  rw [runOn, setLan, hperform]
  exact RunSpec.of_ok happlied rfl hstored False.elim

/-- A command on the file of a configuration does what it is to do. -/
theorem run_spec (hpath : env.configPath = .ok path) (h : config.IsStored fs path)
    (coloured : Bool) (command : DnsCommand) :
    RunSpec path config fs command (command.run coloured env fs) := by
  rw [run_eq hpath h]
  cases command with
  | list => exact RunSpec.of_ok rfl rfl h fun _ => rfl
  | add text => exact runOn_add h coloured text
  | edit index text => exact runOn_edit h coloured index text
  | remove index => exact runOn_remove h coloured index
  | allowLan enabled => exact runOn_allowLan h coloured enabled

/-! ## Commands in a row -/

/-- The files after commands have been run one after the other, each with or without colours. -/
def runAll (env : Environment) (fs : FileSystem) (commands : List (Bool × DnsCommand)) :
    FileSystem :=
  commands.foldl (fun fs (coloured, command) => (command.run coloured env fs).files) fs

/-- After any number of commands the file holds what they were to do. -/
theorem isStored_runAll (hpath : env.configPath = .ok path) (h : config.IsStored fs path)
    (commands : List (Bool × DnsCommand)) :
    Config.IsStored ⟨config.connect, nextAll config.dns (commands.map Prod.snd)⟩
      (runAll env fs commands) path := by
  induction commands generalizing config fs with
  | nil => exact h
  | cons command commands ih => exact ih (run_spec hpath h command.1 command.2).isStored

/-- Whatever commands have been run on a configuration that could be loaded, with nobody else at the
file, the next one ends as it is to end on the settings that the commands were to lead to.  The file
holds the settings before it and after it, next to what the configuration has always said of the
screen; a command that fails or has nothing to change leaves all files as they are.  The path has to
be one for a file: if nothing is there at first, a file can be made there, as it can at every path
of ordinary names (`FileSystem.admits_of_isPlain`). -/
theorem runs_refine (hpath : env.configPath = .ok path) (hload : Config.load fs path = .ok config)
    (habsent : fs.read path = .error .notFound → fs.admits path = true)
    (commands : List (Bool × DnsCommand)) (coloured : Bool) (command : DnsCommand) :
    let files := runAll env fs commands
    let settings := nextAll config.dns (commands.map Prod.snd)
    let outcome := command.run coloured env files
    outcome.result = command.expected settings ∧
      Config.load files path = .ok ⟨config.connect, settings⟩ ∧
      Config.load outcome.files path = .ok ⟨config.connect, command.next settings⟩ ∧
      ((∃ failure, outcome.result = .error failure) ∨ command.IsIdle settings →
        outcome.files = files) := by
  intro files settings outcome
  have hstored : config.IsStored fs path := ⟨hload, Config.admits_of_load hload habsent⟩
  -- the file is known after each command, which is all that the next one finds
  have hreached := isStored_runAll hpath hstored commands
  have hspec := run_spec hpath hreached coloured command
  exact ⟨hspec.result_eq, hreached.load_eq, hspec.isStored.load_eq, hspec.files_eq⟩

/-- Two commands of three have changed nothing in a file that was not there at first. -/
theorem runs_refine_from_nothing :
    let env : Environment := ⟨some "cfg", none⟩
    let commands := [(true, .add " 9.9.9.9 "), (false, .add "9.9.9.9"), (false, .remove 4)]
    env.configPath = .ok "cfg/config.toml" ∧
      Config.load .empty "cfg/config.toml" = .ok .initial ∧
      FileSystem.empty.admits "cfg/config.toml" = true ∧
      Config.load (runAll env .empty commands) "cfg/config.toml" =
        .ok ⟨.initial, ⟨false, [.v4 ⟨9, 9, 9, 9⟩]⟩⟩ ∧
      (run false env (runAll env .empty commands) (.edit 0 "resolver")).result =
        .error (.dns (.invalidAddress "resolver")) := by
  intro env commands
  have hplain : ∀ n ∈ FileSystem.parts "cfg/config.toml", FileSystem.IsPlain n := by decide +kernel
  have hread := FileSystem.read_empty (by simp) (by decide +kernel) hplain
  have hload := Config.load_of_notFound hread
  have hroom := FileSystem.admits_of_isPlain .empty (by decide +kernel) hplain hread
  have hpath : env.configPath = .ok "cfg/config.toml" := by decide +kernel
  obtain ⟨hresult, hloaded, -, -⟩ :=
    runs_refine hpath hload (fun _ => hroom) commands false (.edit 0 "resolver")
  have hsettings : nextAll Config.initial.dns (commands.map Prod.snd) =
      ⟨false, [.v4 ⟨9, 9, 9, 9⟩]⟩ := by decide +kernel
  have hexpected : expected ⟨false, [.v4 ⟨9, 9, 9, 9⟩]⟩ (.edit 0 "resolver") =
      .error (.dns (.invalidAddress "resolver")) := by decide +kernel
  rw [hsettings] at hloaded hresult
  exact ⟨hpath, hload, hroom, hloaded, hresult.trans hexpected⟩

end DnsCommand

end VpnClient
