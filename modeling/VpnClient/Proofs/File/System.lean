import VpnClient.File.System

/-!
# Where the file of a path is

A path leads to a place by way of directories, so that nothing at or below a place that is not a
directory can lead it elsewhere. What is written to a path is therefore read from it, and a file
that was there once can be made again.

## Main Definitions

* `FileSystem.AgreeApart` — file systems that differ at a place and below it only
* `FileSystem.KeepsFiles` — file systems of which the second has all files of the first
* `FileSystem.Hosts` — the place of a path, whatever is there
* `FileSystem.admits` — whether there can be a file at a path

## Main Statements

* `FileSystem.walk_of_agreeApart` — what is at a place does not lead a path to it elsewhere
* `FileSystem.makeParents_of_resolve` — a path that leads somewhere has its directories
* `FileSystem.admits_iff` — a file can be made where a path leads once it has its directories
-/

namespace VpnClient

namespace FileSystem

/-! ## Entries -/

theorem lookup_filter (keep : Place → Bool) (entries : List (Place × Entry)) (place : Place) :
    (entries.filter fun e => keep e.1).lookup place =
      if keep place then entries.lookup place else none := by
  induction entries with
  | nil => simp
  | cons e entries ih =>
      obtain ⟨p, entry⟩ := e
      by_cases heq : place = p
      · subst heq
        by_cases hkeep : keep place = true
        · simp [hkeep]
        · simp [hkeep, ih]
      · have hbeq : (place == p) = false := beq_eq_false_iff_ne.mpr heq
        by_cases hkeep : keep p = true
        · simp [hkeep, ih, List.lookup_cons, hbeq]
        · simp [hkeep, ih, List.lookup_cons, hbeq]

theorem find?_put (fs : FileSystem) {place : Place} (hne : place ≠ []) (entry : Entry)
    (p : Place) : (fs.put place entry).find? p = if p = place then some entry else fs.find? p := by
  by_cases hroot : p = []
  · subst hroot
    rw [if_neg (Ne.symm hne)]
    rfl
  · have hlookup := lookup_filter (fun q => q ≠ place) fs.entries p
    rw [find?, if_neg hroot, put, List.lookup_cons, hlookup, find?, if_neg hroot]
    by_cases heq : p = place
    · simp [heq]
    · have hbeq : (p == place) = false := beq_eq_false_iff_ne.mpr heq
      simp [heq, hbeq]

theorem find?_remove (fs : FileSystem) {place : Place} (hne : place ≠ []) (p : Place) :
    (fs.remove place).find? p = if place <+: p then none else fs.find? p := by
  by_cases hroot : p = []
  · subst hroot
    rw [if_neg fun hwithin => hne (List.prefix_nil.mp hwithin)]
    rfl
  · have hlookup := lookup_filter (fun q => !place.isPrefixOf q) fs.entries p
    rw [find?, if_neg hroot, remove, hlookup, find?, if_neg hroot]
    by_cases hwithin : place <+: p
    · simp [hwithin, List.isPrefixOf_iff_prefix.mpr hwithin]
    · have hnot : place.isPrefixOf p = false :=
        Bool.eq_false_iff.mpr fun h => hwithin (List.isPrefixOf_iff_prefix.mp h)
      simp [hwithin, hnot]

/-! ## What is at a place -/

/-- File systems that differ at a place and below it only. -/
def AgreeApart (fs other : FileSystem) (place : Place) : Prop :=
  ∀ p, ¬ place <+: p → other.find? p = fs.find? p

namespace AgreeApart

variable {fs other third : FileSystem} {place : Place}

theorem symm (h : AgreeApart fs other place) : AgreeApart other fs place :=
  fun p hp => (h p hp).symm

theorem trans (h : AgreeApart fs other place) (hthird : AgreeApart other third place) :
    AgreeApart fs third place :=
  fun p hp => (hthird p hp).trans (h p hp)

theorem put (fs : FileSystem) (hne : place ≠ []) (entry : Entry) :
    AgreeApart fs (fs.put place entry) place := by
  intro p hp
  rw [find?_put fs hne, if_neg]
  rintro rfl
  exact hp (List.prefix_refl p)

theorem remove (fs : FileSystem) (hne : place ≠ []) : AgreeApart fs (fs.remove place) place := by
  intro p hp
  rw [find?_remove fs hne, if_neg hp]

end AgreeApart

/-! ## Walks -/

variable {fs other : FileSystem} {place start : Place} {path name : String} {names : List String}

/-- Where a name leads from a directory. -/
def beyond (place : Place) (name : String) : Place :=
  if name = "." then place else if name = ".." then place.dropLast else place ++ [name]

/-- From a directory a walk goes on where the next name leads. -/
theorem walk_cons (hdirectory : fs.find? start = some .directory)
    (hshort : name.utf8ByteSize ≤ 255) (names : List String) :
    fs.walk start (name :: names) = fs.walk (beyond start name) names := by
  rw [walk, hdirectory, beyond]
  dsimp only
  split
  · rfl
  · split
    · rfl
    · rw [if_neg (Nat.not_lt_of_le hshort)]

/-- A walk that arrives goes on from a directory. -/
theorem of_walk_cons (h : fs.walk start (name :: names) = .ok place) :
    fs.find? start = some .directory ∧ name.utf8ByteSize ≤ 255 ∧
      fs.walk (beyond start name) names = .ok place := by
  have hdirectory : fs.find? start = some .directory := by
    rw [walk] at h
    cases hfind : fs.find? start with
    | none =>
        rw [hfind] at h
        cases h
    | some entry =>
        cases entry with
        | file contents =>
            rw [hfind] at h
            cases h
        | directory => rfl
  have hshort : name.utf8ByteSize ≤ 255 := by
    refine Nat.le_of_not_lt ?_
    intro hlong
    -- the names of dots are short, so that the walk ends at the length
    have hdot : name ≠ "." := by
      rintro rfl
      exact absurd hlong (by decide)
    have hup : name ≠ ".." := by
      rintro rfl
      exact absurd hlong (by decide)
    rw [walk, hdirectory] at h
    dsimp only at h
    rw [if_neg hdot, if_neg hup, if_pos hlong] at h
    cases h
  exact ⟨hdirectory, hshort, walk_cons hdirectory hshort names ▸ h⟩

/-- All directories that a place is in are there. -/
def IsReached (fs : FileSystem) (place : Place) : Prop :=
  ∀ p, p <+: place → p ≠ place → fs.find? p = some .directory

namespace IsReached

theorem root (fs : FileSystem) : fs.IsReached [] :=
  fun _ hwithin hne => absurd (List.prefix_nil.mp hwithin) hne

theorem dropLast (h : fs.IsReached place) : fs.IsReached place.dropLast := by
  intro p hwithin hne
  refine h p (hwithin.trans (List.dropLast_prefix place)) ?_
  rintro rfl
  exact hne (hwithin.eq_of_length_le (List.dropLast_prefix p).length_le)

theorem concat (h : fs.IsReached place) (hdirectory : fs.find? place = some .directory)
    (name : String) : fs.IsReached (place ++ [name]) := by
  intro p hwithin hne
  rcases List.prefix_concat_iff.mp hwithin with heq | hwithin
  · exact absurd heq hne
  · by_cases heq : p = place
    · rw [heq, hdirectory]
    · exact h p hwithin heq

theorem beyond (h : fs.IsReached place) (hdirectory : fs.find? place = some .directory)
    (name : String) : fs.IsReached (beyond place name) := by
  unfold FileSystem.beyond
  split
  · exact h
  · split
    · exact h.dropLast
    · exact h.concat hdirectory name

/-- No directory that is reached is at a place without one, or below it. -/
theorem not_isPrefix (h : fs.IsReached start) (hstart : fs.find? start = some .directory)
    (hplace : fs.find? place ≠ some .directory) : ¬ place <+: start := by
  intro hwithin
  by_cases heq : place = start
  · rw [heq] at hplace
    exact hplace hstart
  · exact hplace (h place hwithin heq)

end IsReached

/-- What is at a place that is no directory, or below it, does not lead a walk to it elsewhere. -/
theorem walk_of_agreeApart (hplace : fs.find? place ≠ some .directory)
    (hagree : AgreeApart fs other place) (hreached : fs.IsReached start)
    (h : fs.walk start names = .ok place) : other.walk start names = .ok place := by
  induction names generalizing start with
  | nil => exact h
  | cons name names ih =>
      obtain ⟨hdirectory, hshort, hrest⟩ := of_walk_cons h
      -- the walk has not come through the place yet, so that the other file system goes along
      have hother : other.find? start = some .directory := by
        rw [hagree start (hreached.not_isPrefix hdirectory hplace), hdirectory]
      rw [walk_cons hother hshort]
      exact ih (hreached.beyond hdirectory name) hrest

theorem resolve_of_agreeApart (hplace : fs.find? place ≠ some .directory)
    (hagree : AgreeApart fs other place) (h : fs.resolve path = .ok place) :
    other.resolve path = .ok place := by
  rw [resolve] at h ⊢
  split at h
  · cases h
  · next hnul =>
    rw [if_neg hnul]
    split at h
    · cases h
    · next hempty =>
      rw [if_neg hempty]
      exact walk_of_agreeApart hplace hagree (IsReached.root fs) h

/-- A walk that arrives does so without the dots on its way. -/
theorem walk_filter (h : fs.walk start names = .ok place) :
    fs.walk start (names.filter (· ≠ ".")) = .ok place := by
  induction names generalizing start with
  | nil => exact h
  | cons name names ih =>
      obtain ⟨hdirectory, hshort, hrest⟩ := of_walk_cons h
      by_cases hdot : name = "."
      · rw [List.filter_cons_of_neg (by simp [hdot])]
        rw [beyond, if_pos hdot] at hrest
        exact ih hrest
      · rw [List.filter_cons_of_pos (by simp [hdot]), walk_cons hdirectory hshort]
        exact ih hrest

/-- A walk that arrives comes through a directory before its last name. -/
theorem exists_of_walk_concat (h : fs.walk start (names ++ [name]) = .ok place) :
    ∃ parent, fs.walk start names = .ok parent ∧ fs.find? parent = some .directory := by
  induction names generalizing start with
  | nil => exact ⟨start, rfl, (of_walk_cons h).1⟩
  | cons first names ih =>
      obtain ⟨hdirectory, hshort, hrest⟩ := of_walk_cons h
      obtain ⟨parent, hwalk, hparent⟩ := ih hrest
      exact ⟨parent, by rw [walk_cons hdirectory hshort, hwalk], hparent⟩

theorem walk_of_resolve (h : fs.resolve path = .ok place) :
    fs.walk [] (parts path) = .ok place := by
  rw [resolve] at h
  split at h
  · cases h
  · split at h
    · cases h
    · exact h

/-- Only the root is reached without a name, and any other place from a directory. -/
theorem isDirectory_dropLast (h : fs.walk [] names = .ok place) (hne : place ≠ []) :
    fs.isDirectory names.dropLast = true := by
  have hnames : names ≠ [] := by
    rintro rfl
    rw [walk, Except.ok.injEq] at h
    exact hne h.symm
  rw [← List.dropLast_concat_getLast hnames] at h
  obtain ⟨parent, hwalk, hparent⟩ := exists_of_walk_concat h
  rw [isDirectory, hwalk]
  exact beq_iff_eq.mpr hparent

/-! ## Directories -/

theorem makeDirectory_of_some {entry : Entry} (hwalk : fs.walk [] names = .ok place)
    (hfind : fs.find? place = some entry) :
    fs.makeDirectory names = .error .alreadyThere := by
  simp only [makeDirectory, hwalk, bind, Except.bind, hfind]

theorem makeDirectory_of_none (hwalk : fs.walk [] names = .ok place)
    (hfind : fs.find? place = none) :
    fs.makeDirectory names = .ok (fs.put place .directory) := by
  simp only [makeDirectory, hwalk, bind, Except.bind, hfind]

/-- A directory that is there need not be made, nor any that it is in. -/
theorem makeDirectories_of_isDirectory (h : fs.isDirectory names = true) :
    fs.makeDirectories names.reverse = (fs, .ok ()) := by
  have hmake : fs.makeDirectory names = .error .alreadyThere := by
    rw [isDirectory] at h
    cases hwalk : fs.walk [] names with
    | error error =>
        rw [hwalk] at h
        cases h
    | ok directory =>
        rw [hwalk] at h
        exact makeDirectory_of_some hwalk (beq_iff_eq.mp h)
  cases hreverse : names.reverse with
  | nil => rfl
  | cons name above =>
      have hnames : (name :: above).reverse = names := by
        rw [← hreverse, List.reverse_reverse]
      rw [makeDirectories, hnames, hmake]
      simp only [ensureDirectory, hmake, h, if_true]

/-- A path that leads to a place besides the root has its directories. -/
theorem makeParents_of_resolve (h : fs.resolve path = .ok place) (hne : place ≠ []) :
    fs.makeParents path = (fs, .ok ()) :=
  makeDirectories_of_isDirectory (isDirectory_dropLast (walk_filter (walk_of_resolve h)) hne)

/-- Every file is still there, and holds what it held. -/
def KeepsFiles (fs other : FileSystem) : Prop :=
  ∀ place contents, fs.find? place = some (.file contents) →
    other.find? place = some (.file contents)

namespace KeepsFiles

theorem refl (fs : FileSystem) : fs.KeepsFiles fs :=
  fun _ _ h => h

theorem trans {fs other third : FileSystem} (h : fs.KeepsFiles other)
    (hthird : other.KeepsFiles third) : fs.KeepsFiles third :=
  fun place contents hfile => hthird place contents (h place contents hfile)

/-- A new directory takes the place of no file. -/
theorem makeDirectory (h : fs.makeDirectory names = .ok other) : fs.KeepsFiles other := by
  intro p contents hfile
  cases hwalk : fs.walk [] names with
  | error error =>
      rw [FileSystem.makeDirectory, hwalk] at h
      cases h
  | ok place =>
      cases hfind : fs.find? place with
      | some entry =>
          rw [makeDirectory_of_some hwalk hfind] at h
          cases h
      | none =>
          rw [makeDirectory_of_none hwalk hfind, Except.ok.injEq] at h
          have hroot : place ≠ [] := by
            rintro rfl
            cases hfind
          have hother : p ≠ place := by
            rintro rfl
            rw [hfind] at hfile
            cases hfile
          rw [← h, find?_put fs hroot, if_neg hother, hfile]

theorem ensureDirectory (fs : FileSystem) (names : List String) :
    fs.KeepsFiles (fs.ensureDirectory names).1 := by
  simp only [FileSystem.ensureDirectory]
  split
  · next hmake => exact makeDirectory hmake
  · exact refl fs

/-- The attempt to make directories leaves all files alone, however far it gets. -/
theorem makeDirectories (fs : FileSystem) (reversed : List String) :
    fs.KeepsFiles (fs.makeDirectories reversed).1 := by
  induction reversed with
  | nil => exact refl fs
  | cons name above ih =>
      simp only [FileSystem.makeDirectories]
      split
      · split
        · next made hmade =>
          rw [hmade] at ih
          exact ih.trans (ensureDirectory made _)
        · next made error hmade =>
          rw [hmade] at ih
          exact ih
      · exact ensureDirectory fs _

end KeepsFiles

/-! ## Files -/

theorem read_of_resolve (h : fs.resolve path = .ok place) :
    fs.read path =
      match fs.find? place with
      | none => .error .notFound
      | some .directory => .error .isADirectory
      | some (.file .binary) => .error .notText
      | some (.file (.text text)) => .ok text := by
  rw [read, h]
  rfl

theorem write_of_resolve (h : fs.resolve path = .ok place)
    (hfree : fs.find? place ≠ some .directory) (text : String) :
    fs.write path text = .ok (fs.put place (.file (.text text))) := by
  -- that there is no directory is what the second branch of `write` asks for
  simp only [write, h, bind, Except.bind]

/-- What is written was written to the place of the path, where there was no directory. -/
theorem exists_of_write {text : String} (h : fs.write path text = .ok other) :
    ∃ place, fs.resolve path = .ok place ∧ fs.find? place ≠ some .directory := by
  rw [write] at h
  cases hresolve : fs.resolve path with
  | error error =>
      rw [hresolve] at h
      cases h
  | ok place =>
      refine ⟨place, rfl, ?_⟩
      intro hfind
      simp only [hresolve, bind, Except.bind, hfind] at h
      cases h

/-- The place of a path: where it leads even when nothing is there. -/
structure Hosts (fs : FileSystem) (path : String) (place : Place) : Prop where
  ne_root : place ≠ []
  resolve : (fs.remove place).resolve path = .ok place

namespace Hosts

theorem ne_root_of_find? (h : fs.find? place ≠ some .directory) : place ≠ [] := by
  rintro rfl
  exact h rfl

/-- A path leads to its place if there is no directory at it. -/
theorem of_resolve (h : fs.resolve path = .ok place) (hfree : fs.find? place ≠ some .directory) :
    fs.Hosts path place :=
  have hne := ne_root_of_find? hfree
  ⟨hne, resolve_of_agreeApart hfree (AgreeApart.remove fs hne) h⟩

theorem find?_removed (h : fs.Hosts path place) :
    (fs.remove place).find? place ≠ some .directory := by
  rw [find?_remove fs h.ne_root, if_pos (List.prefix_refl place)]
  exact (Option.some_ne_none _).symm

/-- What is at its place or below it does not lead a path elsewhere. -/
theorem congr (h : fs.Hosts path place) (hagree : AgreeApart fs other place) :
    other.Hosts path place := by
  refine ⟨h.ne_root, resolve_of_agreeApart h.find?_removed ?_ h.resolve⟩
  exact (AgreeApart.remove fs h.ne_root).symm.trans
    (hagree.trans (AgreeApart.remove other h.ne_root))

theorem resolve_eq (h : fs.Hosts path place) : fs.resolve path = .ok place :=
  resolve_of_agreeApart h.find?_removed (AgreeApart.remove fs h.ne_root).symm h.resolve

theorem put (h : fs.Hosts path place) (entry : Entry) : (fs.put place entry).Hosts path place :=
  h.congr (AgreeApart.put fs h.ne_root entry)

theorem remove (h : fs.Hosts path place) : (fs.remove place).Hosts path place :=
  h.congr (AgreeApart.remove fs h.ne_root)

theorem makeParents (h : fs.Hosts path place) : fs.makeParents path = (fs, .ok ()) :=
  makeParents_of_resolve h.resolve_eq h.ne_root

/-- What is written to a path is read from it. -/
theorem read_put (h : fs.Hosts path place) (text : String) :
    (fs.put place (.file (.text text))).read path = .ok text := by
  rw [read_of_resolve (h.put _).resolve_eq, find?_put fs h.ne_root, if_pos rfl]

end Hosts

/-! ## Room for a file -/

/-- Whether a file can be made at a path, along with the directories it is in. -/
def admits (fs : FileSystem) (path : String) : Bool :=
  match fs.makeParents path with
  | (fs, .ok ()) => (fs.write path "").isOk
  | (_, .error _) => false

/-- A file can be made where a path leads once it has its directories, unless there is a directory
already. -/
theorem admits_iff : fs.admits path = true ↔ ∃ made place, fs.makeParents path = (made, .ok ()) ∧
    made.Hosts path place ∧ made.find? place ≠ some .directory := by
  constructor
  · intro h
    rw [admits] at h
    split at h
    · next made hparents =>
      cases hwrite : made.write path "" with
      | error error =>
          rw [hwrite] at h
          cases h
      | ok written =>
          obtain ⟨place, hresolve, hfree⟩ := exists_of_write hwrite
          exact ⟨made, place, hparents, Hosts.of_resolve hresolve hfree, hfree⟩
    · cases h
  · rintro ⟨made, place, hparents, hhosts, hfree⟩
    rw [admits, hparents]
    dsimp only
    rw [write_of_resolve hhosts.resolve_eq hfree]
    rfl

theorem Hosts.admits (h : fs.Hosts path place) (hfree : fs.find? place ≠ some .directory) :
    fs.admits path = true :=
  admits_iff.mpr ⟨fs, place, h.makeParents, h, hfree⟩

/-- A file that can be read has a place. -/
theorem hosts_of_read {text : String} (h : fs.read path = .ok text) :
    ∃ place, fs.Hosts path place ∧ fs.find? place ≠ some .directory := by
  cases hresolve : fs.resolve path with
  | error error =>
      rw [read, hresolve] at h
      cases h
  | ok place =>
      have hfree : fs.find? place ≠ some .directory := by
        intro hfind
        rw [read_of_resolve hresolve, hfind] at h
        cases h
      exact ⟨place, Hosts.of_resolve hresolve hfree, hfree⟩

end FileSystem

end VpnClient
