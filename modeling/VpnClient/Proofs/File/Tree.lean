import VpnClient.Proofs.File.System

/-!
# Paths of ordinary names

In a tree, in which every entry is in a directory, a path of ordinary names leads straight down. A
file that is not there can then always be made, because all that can be missing are directories.

## Main Definitions

* `FileSystem.IsTree` — every entry is in a directory
* `FileSystem.IsPlain` — a name that leads down by one

## Main Statements

* `FileSystem.exists_makeDirectories` — directories are made wherever no file is in the way
* `FileSystem.admits_of_isPlain` — a file that is not there can be made
* `FileSystem.read_empty` — nothing is there in a file system without files
-/

namespace VpnClient

namespace FileSystem

/-- Every entry is in a directory. -/
def IsTree (fs : FileSystem) : Prop :=
  ∀ place name entry, fs.find? (place ++ [name]) = some entry → fs.find? place = some .directory

/-- A name that leads down by one: not too long, and no dots. -/
def IsPlain (name : String) : Prop :=
  name ≠ "." ∧ name ≠ ".." ∧ name.utf8ByteSize ≤ 255

instance (name : String) : Decidable (IsPlain name) :=
  inferInstanceAs (Decidable (_ ∧ _ ∧ _))

variable {fs : FileSystem} {start : Place} {names : List String} {name : String}

namespace IsTree

/-- Whatever leads to an entry is a directory. -/
theorem find?_prefix (h : fs.IsTree) {above below : Place} {entry : Entry} (hne : below ≠ [])
    (hfind : fs.find? (above ++ below) = some entry) : fs.find? above = some .directory := by
  induction below generalizing above with
  | nil => exact absurd rfl hne
  | cons name below ih =>
      by_cases hbelow : below = []
      · rw [hbelow] at hfind
        exact h above name entry hfind
      · rw [List.append_cons] at hfind
        exact h above name .directory (ih hbelow hfind)

/-- A directory made in a directory leaves a tree. -/
theorem put_directory (h : fs.IsTree) {place : Place}
    (hparent : fs.find? place = some .directory) (name : String) :
    (fs.put (place ++ [name]) .directory).IsTree := by
  have hne : place ++ [name] ≠ [] := by simp
  intro p n entry hfind
  rw [find?_put fs hne] at hfind ⊢
  split
  · rfl
  · split at hfind
    · next heq =>
      obtain ⟨rfl, -⟩ := List.append_inj' heq rfl
      exact hparent
    · exact h p n entry hfind

end IsTree

/-! ## Walks down -/

theorem walk_cons_of_isPlain (hdirectory : fs.find? start = some .directory) (hname : IsPlain name)
    (names : List String) : fs.walk start (name :: names) = fs.walk (start ++ [name]) names := by
  rw [walk_cons hdirectory hname.2.2, beyond, if_neg hname.1, if_neg hname.2.1]

/-- Names lead to what is in a directory. -/
theorem walk_down (htree : fs.IsTree) (hplain : ∀ n ∈ names, IsPlain n)
    (hparent : fs.find? (start ++ names.dropLast) = some .directory) :
    fs.walk start names = .ok (start ++ names) := by
  induction names generalizing start with
  | nil => rw [walk, List.append_nil]
  | cons n names ih =>
      have hn := hplain n List.mem_cons_self
      cases names with
      | nil =>
          rw [List.dropLast_singleton, List.append_nil] at hparent
          rw [walk_cons_of_isPlain hparent hn, walk]
      | cons m names =>
          rw [List.dropLast_cons_cons] at hparent
          have hstart := htree.find?_prefix (List.cons_ne_nil _ _) hparent
          rw [List.append_cons] at hparent
          have heq : start ++ n :: m :: names = start ++ [n] ++ m :: names := List.append_cons ..
          rw [walk_cons_of_isPlain hstart hn, heq]
          exact ih (fun x hx => hplain x (List.mem_cons_of_mem n hx)) hparent

/-- Names lead nowhere beyond what is not there. -/
theorem walk_missing (hplain : ∀ n ∈ names, IsPlain n) (hmissing : fs.find? (start ++ names) = none)
    (hfree : ∀ p, p <+: names → ∀ contents, fs.find? (start ++ p) ≠ some (.file contents))
    (name : String) : fs.walk start (names ++ [name]) = .error .notFound := by
  induction names generalizing start with
  | nil =>
      rw [List.append_nil] at hmissing
      rw [List.nil_append, walk, hmissing]
  | cons n names ih =>
      cases hstart : fs.find? start with
      | none => rw [List.cons_append, walk, hstart]
      | some entry =>
          cases entry with
          | file contents =>
              refine absurd ?_ (hfree [] List.nil_prefix contents)
              rw [List.append_nil, hstart]
          | directory =>
              rw [List.cons_append, walk_cons_of_isPlain hstart (hplain n List.mem_cons_self)]
              refine ih (fun x hx => hplain x (List.mem_cons_of_mem n hx)) ?_ ?_
              · rwa [List.append_assoc]
              · intro p hp contents
                rw [List.append_assoc]
                exact hfree (n :: p) (List.cons_prefix_cons.mpr ⟨rfl, hp⟩) contents

/-- Names do not lead through a file. -/
theorem walk_file (htree : fs.IsTree) (hplain : ∀ n ∈ names, IsPlain n) {contents : Contents}
    (hfile : fs.find? (start ++ names) = some (.file contents)) (more : List String) :
    fs.walk start (names ++ name :: more) = .error .notADirectory := by
  induction names generalizing start with
  | nil =>
      rw [List.append_nil] at hfile
      rw [List.nil_append, walk, hfile]
  | cons n names ih =>
      have hstart := htree.find?_prefix (List.cons_ne_nil _ _) hfile
      rw [List.cons_append, walk_cons_of_isPlain hstart (hplain n List.mem_cons_self)]
      refine ih (fun x hx => hplain x (List.mem_cons_of_mem n hx)) ?_
      rwa [List.append_assoc]

/-! ## Directories on the way -/

/-- In a directory that is there, a directory is made unless there is a file of its name. -/
theorem exists_ensureDirectory (htree : fs.IsTree) (hplain : ∀ n ∈ names ++ [name], IsPlain n)
    (hparent : fs.find? names = some .directory)
    (hfree : ∀ contents, fs.find? (names ++ [name]) ≠ some (.file contents)) :
    fs.makeDirectory (names ++ [name]) ≠ .error .notFound ∧
      ∃ made, fs.ensureDirectory (names ++ [name]) = (made, .ok ()) ∧ made.IsTree ∧
        made.find? (names ++ [name]) = some .directory ∧
        ∀ p, p ≠ names ++ [name] → made.find? p = fs.find? p := by
  have hwalk : fs.walk [] (names ++ [name]) = .ok (names ++ [name]) := by
    refine walk_down htree hplain ?_
    rwa [List.dropLast_concat]
  cases hfind : fs.find? (names ++ [name]) with
  | none =>
      have hne : names ++ [name] ≠ [] := by simp
      have hmake := makeDirectory_of_none hwalk hfind
      refine ⟨by simp [hmake], fs.put (names ++ [name]) .directory, ?_,
        htree.put_directory hparent name, ?_, ?_⟩
      · rw [ensureDirectory, hmake]
      · rw [find?_put fs hne, if_pos rfl]
      · intro p hp
        rw [find?_put fs hne, if_neg hp]
  | some entry =>
      cases entry with
      | file contents => exact absurd hfind (hfree contents)
      | directory =>
          have hmake := makeDirectory_of_some hwalk hfind
          have hthere : fs.isDirectory (names ++ [name]) = true := by
            rw [isDirectory, hwalk]
            exact beq_iff_eq.mpr hfind
          refine ⟨by simp [hmake], fs, ?_, htree, hfind, fun _ _ => rfl⟩
          simp only [ensureDirectory, hmake, hthere, if_true]

/-- A directory and all that it is in are made if no file is in the way. Nothing else changes. -/
theorem exists_makeDirectories (htree : fs.IsTree) (reversed : List String)
    (hplain : ∀ n ∈ reversed.reverse, IsPlain n)
    (hfree : ∀ p, p <+: reversed.reverse → ∀ contents, fs.find? p ≠ some (.file contents)) :
    ∃ made, fs.makeDirectories reversed = (made, .ok ()) ∧ made.IsTree ∧
      made.find? reversed.reverse = some .directory ∧
      ∀ p, ¬ p <+: reversed.reverse → made.find? p = fs.find? p := by
  induction reversed with
  | nil => exact ⟨fs, rfl, htree, rfl, fun _ _ => rfl⟩
  | cons name above ih =>
      have hnames : (name :: above).reverse = above.reverse ++ [name] := List.reverse_cons
      have habove := List.prefix_append above.reverse [name]
      rw [makeDirectories, hnames]
      rw [hnames] at hplain hfree
      have hfile := hfree _ (List.prefix_refl _)
      cases hparent : fs.find? above.reverse with
      | some entry =>
          cases entry with
          | file contents => exact absurd hparent (hfree _ habove contents)
          | directory =>
              obtain ⟨hfound, made, hmade, hmadeTree, hfind, hframe⟩ :=
                exists_ensureDirectory htree hplain hparent hfile
              refine ⟨made, ?_, hmadeTree, hfind, ?_⟩
              · split
                · next hmissing => exact absurd hmissing hfound
                · exact hmade
              · intro p hp
                exact hframe p fun heq => hp (heq ▸ List.prefix_refl _)
      | none =>
          have hplainAbove : ∀ n ∈ above.reverse, IsPlain n :=
            fun n hn => hplain n (List.mem_append_left [name] hn)
          have hmissing : fs.makeDirectory (above.reverse ++ [name]) = .error .notFound := by
            have hroot : fs.find? ([] ++ above.reverse) = none := hparent
            have hwalk := walk_missing hplainAbove hroot
              (fun p hp => hfree p (hp.trans habove)) name
            rw [makeDirectory, hwalk]
            rfl
          obtain ⟨first, hfirst, hfirstTree, hfirstParent, hfirstFrame⟩ :=
            ih hplainAbove fun p hp => hfree p (hp.trans habove)
          -- the directories above are made first, and leave what is not on the way alone
          have hbeyond (p : Place) (hp : ¬ p <+: above.reverse ++ [name]) :
              first.find? p = fs.find? p :=
            hfirstFrame p fun h => hp (h.trans habove)
          have hfirstFile : ∀ contents,
              first.find? (above.reverse ++ [name]) ≠ some (.file contents) := by
            intro contents
            rw [hfirstFrame]
            · exact hfile contents
            · intro h
              have hlength := h.length_le
              rw [List.length_append, List.length_singleton] at hlength
              omega
          obtain ⟨-, made, hmade, hmadeTree, hfind, hframe⟩ :=
            exists_ensureDirectory hfirstTree hplain hfirstParent hfirstFile
          refine ⟨made, ?_, hmadeTree, hfind, ?_⟩
          · simp only [hmissing, hfirst, hmade]
          · intro p hp
            rw [hframe p fun heq => hp (heq ▸ List.prefix_refl _), hbeyond p hp]

/-! ## Files -/

variable {path : String}

/-- A path that is not found has names that can be walked in any file system. -/
theorem resolve_of_notFound (hne : parts path ≠ []) (hread : fs.read path = .error .notFound)
    (other : FileSystem) : other.resolve path = other.walk [] (parts path) := by
  have hempty : path ≠ "" := by
    rintro rfl
    exact absurd (by decide) hne
  have hnul : ¬ path.contains '\x00' = true := by
    intro hnul
    rw [read, resolve, if_pos hnul] at hread
    cases hread
  rw [resolve, if_neg hnul, if_neg hempty]

/-- In a tree, nothing is at a path of ordinary names that is not found, and no file on the way. -/
theorem vacant_of_notFound (htree : fs.IsTree) (hne : parts path ≠ [])
    (hplain : ∀ n ∈ parts path, IsPlain n) (hread : fs.read path = .error .notFound) :
    fs.find? (parts path) = none ∧
      ∀ p, p <+: parts path → ∀ contents, fs.find? p ≠ some (.file contents) := by
  have hresolve := resolve_of_notFound hne hread fs
  have hnone : fs.find? (parts path) = none := by
    -- whatever was there, reading it would have given something else than not found
    cases hfind : fs.find? (parts path) with
    | none => rfl
    | some entry =>
        have hparent : fs.find? ([] ++ (parts path).dropLast) = some .directory := by
          rw [← List.dropLast_concat_getLast hne] at hfind
          exact htree _ _ _ hfind
        rw [walk_down htree hplain hparent] at hresolve
        rw [read_of_resolve hresolve, List.nil_append, hfind] at hread
        cases entry with
        | directory => cases hread
        | file contents => cases contents <;> cases hread
  refine ⟨hnone, ?_⟩
  rintro p ⟨rest, hrest⟩ contents hfile
  cases rest with
  | nil =>
      rw [List.append_nil] at hrest
      rw [hrest, hnone] at hfile
      cases hfile
  | cons name more =>
      have hplainPrefix : ∀ n ∈ p, IsPlain n := by
        intro n hn
        refine hplain n ?_
        rw [← hrest]
        exact List.mem_append_left _ hn
      have hroot : fs.find? ([] ++ p) = some (.file contents) := hfile
      rw [← hrest, walk_file htree hplainPrefix hroot] at hresolve
      rw [read, hresolve] at hread
      cases hread

/-- In a tree, a file that is not there can be made at a path of ordinary names. -/
theorem admits_of_isPlain (htree : fs.IsTree) (hne : parts path ≠ [])
    (hplain : ∀ n ∈ parts path, IsPlain n) (hread : fs.read path = .error .notFound) :
    fs.admits path = true := by
  obtain ⟨hnone, hfree⟩ := vacant_of_notFound htree hne hplain hread
  have hwithin := List.dropLast_prefix (parts path)
  have hparents : parentParts path = (parts path).dropLast := by
    rw [parentParts, List.filter_eq_self.mpr]
    intro n hn
    exact decide_eq_true (hplain n hn).1
  have hreverse : (parts path).dropLast.reverse.reverse = (parts path).dropLast :=
    List.reverse_reverse _
  obtain ⟨made, hmade, hmadeTree, hdirectory, hframe⟩ :=
    exists_makeDirectories htree (parts path).dropLast.reverse
      (fun n hn => hplain n (hwithin.subset (hreverse ▸ hn)))
      (fun p hp => hfree p ((hreverse ▸ hp).trans hwithin))
  rw [hreverse] at hdirectory hframe
  -- the file itself is not one of the directories that have been made
  have hmadeNone : made.find? (parts path) = none := by
    rw [hframe, hnone]
    intro h
    have hlength := h.length_le
    have hpos := List.length_pos_iff.mpr hne
    rw [List.length_dropLast] at hlength
    omega
  have hresolve : made.resolve path = .ok (parts path) := by
    rw [resolve_of_notFound hne hread, walk_down hmadeTree hplain hdirectory, List.nil_append]
  have hvacant : made.find? (parts path) ≠ some .directory := by
    rw [hmadeNone]
    exact (Option.some_ne_none _).symm
  refine admits_iff.mpr ⟨made, parts path, ?_, Hosts.of_resolve hresolve hvacant, hvacant⟩
  rw [makeParents, hparents, hmade]

/-! ## Nothing but the root -/

theorem find?_empty (hne : start ≠ []) : empty.find? start = none := by
  rw [find?, if_neg hne]
  rfl

theorem IsTree.empty : empty.IsTree := by
  intro place name entry h
  rw [find?_empty (by simp)] at h
  cases h

/-- Where there are no files, none is found. -/
theorem read_empty (hnul : path.contains '\x00' = false) (hne : parts path ≠ [])
    (hplain : ∀ n ∈ parts path, IsPlain n) : empty.read path = .error .notFound := by
  have hempty : path ≠ "" := by
    rintro rfl
    exact absurd (by decide) hne
  have hresolve : empty.resolve path = empty.walk [] (parts path) := by
    rw [resolve, if_neg (Bool.eq_false_iff.mp hnul), if_neg hempty]
  have hroot : empty.find? [] = some .directory := rfl
  obtain ⟨n, names, hnames⟩ := List.exists_cons_of_ne_nil hne
  rw [hnames, walk_cons_of_isPlain hroot (hplain n (hnames ▸ List.mem_cons_self)),
    List.nil_append] at hresolve
  have hnone : empty.find? [n] = none := find?_empty (List.cons_ne_nil n [])
  cases names with
  | nil =>
      rw [walk] at hresolve
      rw [read_of_resolve hresolve, hnone]
  | cons m names =>
      rw [walk, hnone] at hresolve
      rw [read, hresolve]
      rfl

end FileSystem

end VpnClient
