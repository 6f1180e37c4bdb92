import VpnClient.Address.Ip
import VpnClient.Proofs.Address.Ipv4

/-!
# IPv6 addresses are read back

The text of an address leaves out its longest run of zero groups, and may end like an IPv4 address.
Either way it is read as the address it was written for.

## Main Statements

* `Ipv6.longestZeroRun_spec` — the groups that are left out are zeros
* `Ipv6.cutAtGap?_joined` — the only gap in a text is the one that was left
* `Ipv6.read?_chars`, `IpAddress.read?_chars` — the text of an address is read as that address
* `IpAddress.forall_mem_chars` — which characters there are in the text of an address
-/

namespace VpnClient

open Text (numeral digit splitAt joined)

namespace Ipv6

/-! ## Groups -/

theorem readGroup?_numeral (group : UInt16) :
    readGroup? (numeral 16 group.toNat) = some group := by
  have hlt : group.toNat < 16 ^ 4 := group.toNat_lt
  have hlength : (numeral 16 group.toNat).length ≤ 4 :=
    Text.numeral_length_le (by decide) (by decide) hlt
  have hread := Text.readNumeral?_numeral (by decide : 2 ≤ 16) (by decide) group.toNat
  rw [readGroup?, if_neg (by omega), hread]
  simp

/-- No digit of a group is a colon or a point. -/
theorem not_mem_numeral (group : UInt16) :
    ':' ∉ numeral 16 group.toNat ∧ '.' ∉ numeral 16 group.toNat := by
  have hdigits := Text.forall_mem_numeral (by decide : 2 ≤ 16) Text.digit_mem group.toNat
  constructor
  · intro hcolon
    exact absurd (hdigits ':' hcolon) (by decide)
  · intro hpoint
    exact absurd (hdigits '.' hpoint) (by decide)

/-- The numerals of groups. -/
def numerals (groups : List UInt16) : List (List Char) :=
  groups.map fun group => numeral 16 group.toNat

theorem forall_mem_numerals {groups : List UInt16} {part : List Char}
    (h : part ∈ numerals groups) : part ≠ [] ∧ ':' ∉ part ∧ '.' ∉ part := by
  obtain ⟨group, -, rfl⟩ := List.mem_map.mp h
  exact ⟨Text.numeral_ne_nil (by decide) _, not_mem_numeral group⟩

theorem splitAt_groupsText {groups : List UInt16} (h : groups ≠ []) :
    splitAt ':' (groupsText groups) = numerals groups := by
  refine Text.splitAt_joined ?_ fun part hpart => (forall_mem_numerals hpart).2.1
  simpa [numerals] using h

theorem groupsText_ne_nil {groups : List UInt16} (h : groups ≠ []) : groupsText groups ≠ [] := by
  intro hnil
  have hsplit := splitAt_groupsText h
  rw [hnil] at hsplit
  have hempty : [] ∈ numerals groups := by
    rw [← hsplit]
    exact List.mem_singleton.mpr rfl
  exact (forall_mem_numerals hempty).1 rfl

theorem mapM_readGroup? (groups : List UInt16) :
    (numerals groups).mapM readGroup? = some groups := by
  induction groups with
  | nil => rfl
  | cons group groups ih =>
      rw [numerals, List.map_cons, List.mapM_cons, readGroup?_numeral]
      rw [numerals] at ih
      rw [ih]
      rfl

/-- A numeral without a point is no IPv4 address. -/
theorem read?_of_not_mem {s : List Char} (h : '.' ∉ s) : Ipv4.read? s = none := by
  rw [Ipv4.read?, Text.splitAt_of_not_mem h]

theorem readParts?_numerals (groups : List UInt16) :
    readParts? (numerals groups) = some groups := by
  induction groups with
  | nil => rfl
  | cons group groups ih =>
      cases groups with
      | nil =>
          simp only [numerals, List.map_cons, List.map_nil, readParts?,
            read?_of_not_mem (not_mem_numeral group).2, readGroup?_numeral, Option.map_some]
      | cons next groups =>
          simp only [numerals, List.map_cons] at ih ⊢
          simp only [readParts?, readGroup?_numeral, ih, Option.bind_eq_bind, Option.bind_some]

/-- Groups in front of a gap are read back, and so is none. -/
theorem readHead?_groupsText (groups : List UInt16) :
    readHead? (groupsText groups) = some groups := by
  cases groups with
  | nil => rfl
  | cons group groups =>
      have hne := groupsText_ne_nil (List.cons_ne_nil group groups)
      have hsplit := splitAt_groupsText (List.cons_ne_nil group groups)
      rw [← mapM_readGroup?, ← hsplit]
      cases htext : groupsText (group :: groups) with
      | nil => exact absurd htext hne
      | cons c rest => rfl

/-- Groups behind a gap are read back, and so is none. -/
theorem readGroups?_groupsText (groups : List UInt16) :
    readGroups? (groupsText groups) = some groups := by
  cases groups with
  | nil => rfl
  | cons group groups =>
      have hne := groupsText_ne_nil (List.cons_ne_nil group groups)
      have hsplit := splitAt_groupsText (List.cons_ne_nil group groups)
      rw [← readParts?_numerals, ← hsplit]
      cases htext : groupsText (group :: groups) with
      | nil => exact absurd htext hne
      | cons c rest => rfl

/-! ## The gap -/

/-- A character that no gap starts with stands before the gap. -/
theorem cutAtGap?_cons {c : Char} {s : List Char} (h : ∀ rest, c = ':' → s ≠ ':' :: rest) :
    cutAtGap? (c :: s) = (cutAtGap? s).map fun (before, after) => (c :: before, after) := by
  rw [cutAtGap?]
  exact h

theorem cutAtGap?_append {part : List Char} (h : ':' ∉ part) (rest : List Char) :
    cutAtGap? (part ++ rest) =
      (cutAtGap? rest).map fun (before, after) => (part ++ before, after) := by
  induction part with
  | nil => simp
  | cons c part ih =>
      rw [List.mem_cons, not_or] at h
      rw [List.cons_append, cutAtGap?_cons fun _ hc => absurd hc.symm h.1, ih h.2,
        Option.map_map]
      rfl

/-- A text of parts between colons has no gap but the ones behind it. -/
theorem cutAtGap?_joined (parts : List (List Char))
    (h : ∀ part ∈ parts, part ≠ [] ∧ ':' ∉ part) (rest : List Char) :
    cutAtGap? (joined [':'] parts ++ rest) =
      (cutAtGap? rest).map fun (before, after) => (joined [':'] parts ++ before, after) := by
  induction parts with
  | nil => simp [joined]
  | cons part parts ih =>
      have hpart := (h part List.mem_cons_self).2
      have hrest := fun p hp => h p (List.mem_cons_of_mem part hp)
      cases parts with
      | nil => exact cutAtGap?_append hpart rest
      | cons next parts =>
          obtain ⟨hnext, hcolon⟩ := hrest next List.mem_cons_self
          obtain ⟨c, next', rfl⟩ := List.exists_cons_of_ne_nil hnext
          rw [List.mem_cons, not_or] at hcolon
          -- the colon between two parts is followed by a part, which is not empty
          have hnoGap : ∀ tail, ':' = ':' →
              joined [':'] ((c :: next') :: parts) ++ rest ≠ ':' :: tail := by
            intro tail _ heq
            have hhead := congrArg List.head? heq
            cases parts <;> exact hcolon.1 (Option.some_inj.mp hhead).symm
          have hjoined : joined [':'] (part :: (c :: next') :: parts) =
              part ++ ':' :: joined [':'] ((c :: next') :: parts) := by
            rw [joined, List.append_assoc, List.singleton_append]
            exact List.cons_ne_nil _ _
          rw [hjoined, List.append_assoc, List.cons_append, cutAtGap?_append hpart,
            cutAtGap?_cons hnoGap, ih hrest, Option.map_map, Option.map_map]
          simp only [Function.comp_def, List.append_assoc, List.cons_append]

/-! ## The longest run of zeros -/

theorem zerosAhead_spec (groups : List UInt16) :
    groups = List.replicate (zerosAhead groups) 0 ++ groups.drop (zerosAhead groups) := by
  induction groups with
  | nil => rfl
  | cons group groups ih =>
      by_cases hzero : group = 0
      · rw [zerosAhead, if_pos hzero, List.replicate_succ, List.cons_append, List.drop_succ_cons,
          ← ih, hzero]
      · rw [zerosAhead, if_neg hzero]
        rfl

/-- The groups that are left out are zeros. -/
theorem longestZeroRun_spec (groups : List UInt16) :
    groups = groups.take (longestZeroRun groups).1 ++
      (List.replicate (longestZeroRun groups).2 0 ++
        groups.drop ((longestZeroRun groups).1 + (longestZeroRun groups).2)) := by
  induction groups with
  | nil => rfl
  | cons group groups ih =>
      simp only [longestZeroRun]
      split
      · simp only [List.take_zero, List.nil_append, Nat.zero_add]
        exact zerosAhead_spec (group :: groups)
      · simp only [List.take_succ_cons, Nat.succ_add, List.drop_succ_cons, List.cons_append]
        rw [← ih]

/-! ## Whole addresses -/

theorem ofGroups?_groups (address : Ipv6) : ofGroups? address.groups = some address := rfl

/-- A text without a gap is cut nowhere. -/
theorem cutAtGap?_groupsText (groups : List UInt16) : cutAtGap? (groupsText groups) = none := by
  have hcut := cutAtGap?_joined (numerals groups)
    (fun part hpart => ⟨(forall_mem_numerals hpart).1, (forall_mem_numerals hpart).2.1⟩) []
  rw [List.append_nil] at hcut
  exact hcut

theorem cutAtGap?_gap (groups : List UInt16) (rest : List Char) :
    cutAtGap? (groupsText groups ++ ':' :: ':' :: rest) = some (groupsText groups, rest) := by
  have hcut := cutAtGap?_joined (numerals groups)
    (fun part hpart => ⟨(forall_mem_numerals hpart).1, (forall_mem_numerals hpart).2.1⟩)
    (':' :: ':' :: rest)
  refine hcut.trans ?_
  simp only [cutAtGap?, Option.map_some, List.append_nil]
  rfl

/-- A text whose longest run of zeros is left out, if it is long enough, is read back. -/
theorem read?_compressed (address : Ipv6) :
    read? (compressed address.groups) = some address := by
  have hlength : address.groups.length = 8 := rfl
  have hspec := longestZeroRun_spec address.groups
  simp only [compressed]
  generalize hstart : (longestZeroRun address.groups).1 = start at hspec ⊢
  generalize hrun : (longestZeroRun address.groups).2 = run at hspec ⊢
  by_cases hlong : 1 < run
  · rw [if_pos hlong]
    have hlengths := congrArg List.length hspec
    simp only [List.length_append, List.length_take, List.length_replicate, List.length_drop,
      hlength] at hlengths
    simp only [read?, cutAtGap?_gap, readHead?_groupsText, readGroups?_groupsText,
      Option.bind_eq_bind, Option.bind_some, List.length_take, List.length_drop, hlength]
    -- as many zeros are put in as groups are missing from eight
    have hgap : 8 - min start 8 - (8 - (start + run)) = run := by omega
    rw [if_pos (by omega), hgap, List.append_assoc, ← hspec]
    exact ofGroups?_groups address
  · rw [if_neg hlong]
    simp only [read?, cutAtGap?_groupsText, readGroups?_groupsText, Option.bind_some]
    exact ofGroups?_groups address

/-- A group is made up of its two octets. -/
theorem joinOctets_octets (group : UInt16) :
    joinOctets (highOctet group) (lowOctet group) = group := by
  have hlt : group.toNat < 65536 := group.toNat_lt
  have hhigh : (highOctet group).toNat = group.toNat / 256 := by
    rw [highOctet, UInt8.toNat_ofNat']
    omega
  have hlow : (lowOctet group).toNat = group.toNat % 256 := by
    rw [lowOctet, UInt8.toNat_ofNat']
    omega
  rw [joinOctets, hhigh, hlow, Nat.div_add_mod', UInt16.ofNat_toNat]

theorem not_mem_ipv4 (inner : Ipv4) : ':' ∉ inner.chars := by
  intro hcolon
  rcases inner.forall_mem_chars ':' hcolon with hdigit | hpoint
  · exact absurd hdigit (by decide)
  · exact absurd hpoint (by decide)

/-- What stands behind the gap of an IPv4-mapped address. -/
theorem readGroups?_mapped (inner : Ipv4) :
    readGroups? (['f', 'f', 'f', 'f'] ++ ':' :: inner.chars) =
      some (0xffff :: groupsOfIpv4 inner) := by
  have hsplit : splitAt ':' (['f', 'f', 'f', 'f'] ++ ':' :: inner.chars) =
      [['f', 'f', 'f', 'f'], inner.chars] := by
    rw [Text.splitAt_append (by decide), Text.splitAt_of_not_mem (not_mem_ipv4 inner)]
  have hgroup : readGroup? ['f', 'f', 'f', 'f'] = some 0xffff := by decide
  have hread : readGroups? (['f', 'f', 'f', 'f'] ++ ':' :: inner.chars) =
      readParts? (splitAt ':' (['f', 'f', 'f', 'f'] ++ ':' :: inner.chars)) := rfl
  rw [hread, hsplit]
  simp only [readParts?, hgroup, Ipv4.read?_chars, Option.bind_eq_bind, Option.bind_some]

/-- The text of an IPv4-mapped address is read back. -/
theorem read?_mapped {address : Ipv6} {inner : Ipv4} (h : address.mapped? = some inner) :
    read? ([':', ':', 'f', 'f', 'f', 'f', ':'] ++ inner.chars) = some address := by
  -- the text starts with the gap, behind which the group of ones and the IPv4 address stand
  have hcut : cutAtGap? ([':', ':', 'f', 'f', 'f', 'f', ':'] ++ inner.chars) =
      some ([], ['f', 'f', 'f', 'f'] ++ ':' :: inner.chars) := rfl
  have hhead : readHead? [] = some [] := rfl
  simp only [read?, hcut, hhead, readGroups?_mapped, Option.bind_eq_bind, Option.bind_some]
  obtain ⟨g₀, g₁, g₂, g₃, g₄, g₅, g₆, g₇⟩ := address
  simp only [mapped?] at h
  split at h
  · next hwithin =>
    obtain ⟨rfl, rfl, rfl, rfl, rfl, rfl⟩ := hwithin
    rw [Option.some_inj] at h
    subst h
    simp only [groupsOfIpv4, joinOctets_octets]
    rfl
  · cases h

/-- The text of an address is read as that address. -/
theorem read?_chars (address : Ipv6) : read? address.chars = some address := by
  rw [chars]
  split
  · next inner hinner => exact read?_mapped hinner
  · exact read?_compressed address

/-! ## The characters of an address -/

section Characters

variable {P : Char → Prop} (hdigit : ∀ value < 16, P (digit value)) (hcolon : P ':')
include hdigit hcolon

theorem forall_mem_groupsText (groups : List UInt16) : ∀ c ∈ groupsText groups, P c := by
  refine Text.forall_mem_joined ?_ hcolon
  intro part hpart
  obtain ⟨group, -, rfl⟩ := List.mem_map.mp hpart
  exact Text.forall_mem_numeral (by decide) hdigit group.toNat

theorem forall_mem_compressed (groups : List UInt16) : ∀ c ∈ compressed groups, P c := by
  simp only [compressed]
  split
  · intro c hc
    simp only [List.mem_append, List.mem_cons] at hc
    rcases hc with hc | rfl | rfl | hc
    · exact forall_mem_groupsText hdigit hcolon _ c hc
    · exact hcolon
    · exact hcolon
    · exact forall_mem_groupsText hdigit hcolon _ c hc
  · exact forall_mem_groupsText hdigit hcolon _

/-- The characters of an address are hexadecimal digits, colons and points. -/
theorem forall_mem_chars (hpoint : P '.') (address : Ipv6) : ∀ c ∈ address.chars, P c := by
  rw [chars]
  split
  · next inner _ =>
    intro c hc
    rcases List.mem_append.mp hc with hprefix | hinner
    · have hf : P 'f' := hdigit 15 (by decide)
      simp only [List.mem_cons, List.not_mem_nil, or_false] at hprefix
      rcases hprefix with rfl | rfl | rfl | rfl | rfl | rfl | rfl <;> assumption
    · have hdecimal : ∀ value < 10, P (digit value) := fun value hvalue => hdigit value (by omega)
      exact inner.forall_mem_chars_of_digit hdecimal hpoint c hinner
  · exact forall_mem_compressed hdigit hcolon _

end Characters

theorem not_mem_compressed (groups : List UInt16) : '.' ∉ compressed groups := by
  intro hpoint
  exact forall_mem_compressed (P := (· ≠ '.')) (by decide +kernel) (by decide) groups '.' hpoint rfl

/-- An IPv4 address does not start with a colon. -/
theorem read?_ipv4_cons (s : List Char) : Ipv4.read? (':' :: s) = none := by
  have hoctet : ∀ part, Ipv4.readOctet? (':' :: part) = none := by
    intro part
    simp only [Ipv4.readOctet?]
    split
    · rfl
    · rfl
  have hsplit : ∃ part parts, splitAt '.' (':' :: s) = (':' :: part) :: parts := by
    rw [splitAt, if_neg (by decide)]
    cases splitAt '.' s with
    | nil => exact ⟨[], [], rfl⟩
    | cons part parts => exact ⟨part, parts, rfl⟩
  obtain ⟨part, parts, heq⟩ := hsplit
  rw [Ipv4.read?, heq]
  split
  · next hfour =>
    rw [List.cons.injEq] at hfour
    rw [← hfour.1, hoctet]
    rfl
  · rfl

/-- The text of an address is no IPv4 address: it has no point, or starts with a colon. -/
theorem read?_ipv4_chars (address : Ipv6) : Ipv4.read? address.chars = none := by
  rw [chars]
  split
  · exact read?_ipv4_cons _
  · exact read?_of_not_mem (not_mem_compressed _)

end Ipv6

namespace IpAddress

/-- What holds of hexadecimal digits, colons and points holds of the characters of an address. -/
theorem forall_mem_chars {P : Char → Prop} (hdigit : ∀ value < 16, P (digit value))
    (hcolon : P ':') (hpoint : P '.') (address : IpAddress) : ∀ c ∈ address.chars, P c := by
  cases address with
  | v4 inner =>
      exact inner.forall_mem_chars_of_digit (fun value hvalue => hdigit value (by omega)) hpoint
  | v6 inner => exact inner.forall_mem_chars hdigit hcolon hpoint

/-- The text of an address is read as that address. -/
theorem read?_chars (address : IpAddress) : read? address.chars = some address := by
  cases address with
  | v4 inner => simp only [read?, chars, Ipv4.read?_chars]
  | v6 inner => simp only [read?, chars, Ipv6.read?_ipv4_chars, Ipv6.read?_chars, Option.map_some]

end IpAddress

end VpnClient
