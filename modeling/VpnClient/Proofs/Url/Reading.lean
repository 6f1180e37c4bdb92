import VpnClient.Proofs.Address.Ipv6
import VpnClient.Proofs.Url.Form
import VpnClient.Url.Reader

/-!
# Web URLs are read part by part

The text of a web URL that was read is cut at the marks of its query and its fragment when it is
read once more, because these marks are encoded in front of them.  So a pair that is put at the end
of the query changes nothing of what is read but the query.

## Main Definitions

* `Url.isFront` — the characters that can stand in front of a query
* `Url.readLocated` — how a host and a port are read under a special scheme
* `Url.cutParts` — a text cut at the marks of the query and the fragment
* `Url.readWeb` — what is read of a web URL whose text has been cut
* `Url.IsEncoded` — a URL of which no part has a character that ends it

## Main Statements

* `Url.isEncoded_of_parse` — web URLs that were read are encoded
* `Url.IsEncoded.appendPair` — and they are with one more pair
* `Url.IsEncoded.parse_text` — how the text of such a URL is read
* `Url.IsEncoded.parse_with_query` — another query changes nothing else of what is read

## Design Notes

It does not matter here whether a host is read back as it was: what is read of a text with another
query is compared to what is read of the text as it was.
-/

namespace VpnClient.Url

open Text (cut?)

/-! ## Encoded texts -/

section Encoding

variable {inSet : Char → Bool}

/-- An encoded text is made of characters that stand for themselves, and of bytes. -/
theorem forall_mem_percentEncode {P : Char → Prop} (hplain : ∀ c, inSet c = false → P c)
    (hmark : P '%') (hdigit : ∀ value < 16, P (capitalDigit value)) (s : List Char) :
    ∀ c ∈ percentEncode inSet s, P c := by
  intro c hc
  obtain ⟨d, -, hd⟩ := List.mem_flatMap.mp hc
  split at hd
  · obtain ⟨byte, -, hbyte⟩ := List.mem_flatMap.mp hd
    have hlt := byte.toNat_lt
    simp only [percentByte, List.mem_cons, List.not_mem_nil, or_false] at hbyte
    rcases hbyte with rfl | rfl | rfl
    · exact hmark
    · exact hdigit _ (by omega)
    · exact hdigit _ (by omega)
  · next hout =>
    rw [List.mem_singleton] at hd
    exact hd ▸ hplain d (Bool.eq_false_iff.mpr hout)

/-- A text in which nothing has to be encoded stays as it is. -/
theorem percentEncode_of_forall {s : List Char} (h : ∀ c ∈ s, inSet c = false) :
    percentEncode inSet s = s := by
  induction s with
  | nil => rfl
  | cons c s ih =>
      rw [List.forall_mem_cons] at h
      have hrest := ih h.2
      simp only [percentEncode] at hrest
      simp only [percentEncode, List.flatMap_cons, h.1, hrest, Bool.false_eq_true, if_false,
        List.singleton_append]

theorem map_percentEncode_of_forall {part : Option (List Char)}
    (h : ∀ s ∈ part, ∀ c ∈ s, inSet c = false) : part.map (percentEncode inSet) = part := by
  cases part with
  | none => rfl
  | some s => rw [Option.map_some, percentEncode_of_forall (h s rfl)]

end Encoding

/-! ## The front of a web URL -/

/-- Whether a character can stand in front of the query: it shows, and it begins neither the query
nor the fragment. -/
def isFront (c : Char) : Bool :=
  decide (0x20 < c.toNat) && c != '?' && c != '#'

theorem isFront_capitalDigit : ∀ value < 16, isFront (capitalDigit value) = true := by
  decide +kernel

/-- What is not a control character and not a space shows. -/
theorem shows_of_not_inControlSet {c : Char} (hcontrol : inControlSet c = false)
    (hspace : c ≠ ' ') : 0x20 < c.toNat := by
  simp only [inControlSet, Bool.or_eq_false_iff, decide_eq_false_iff_not] at hcontrol
  have hne : c.toNat ≠ 0x20 := fun heq => hspace (Char.toNat_inj.mp heq)
  omega

theorem shows_of_not_inFragmentSet {c : Char} (h : inFragmentSet c = false) : 0x20 < c.toNat := by
  simp only [inFragmentSet, Bool.or_eq_false_iff, beq_eq_false_iff_ne] at h
  exact shows_of_not_inControlSet h.1.1.1.1.1 h.1.1.1.1.2

theorem shows_of_not_inSpecialQuerySet {c : Char} (h : inSpecialQuerySet c = false) :
    0x20 < c.toNat := by
  simp only [inSpecialQuerySet, inQuerySet, Bool.or_eq_false_iff, beq_eq_false_iff_ne] at h
  exact shows_of_not_inControlSet h.1.1.1.1.1.1 h.1.1.1.1.1.2

theorem isFront_of_not_inPathSet {c : Char} (h : inPathSet c = false) : isFront c = true := by
  simp only [inPathSet, Bool.or_eq_false_iff, beq_eq_false_iff_ne] at h
  obtain ⟨⟨⟨⟨hfragment, hhash⟩, hquestion⟩, -⟩, -⟩ := h
  simp only [isFront, decide_eq_true (shows_of_not_inFragmentSet hfragment), Bool.true_and,
    Bool.and_eq_true, bne_iff_ne]
  exact ⟨hquestion, hhash⟩

theorem isFront_of_not_inUserinfoSet {c : Char} (h : inUserinfoSet c = false) :
    isFront c = true := by
  simp only [inUserinfoSet, Bool.or_eq_false_iff] at h
  exact isFront_of_not_inPathSet h.1.1.1.1.1.1.1.1.1.1

/-! ### Paths -/

namespace Path

theorem mem_of_mem_parent {part : List Char} {done : List (List Char)} (h : part ∈ parent done) :
    part ∈ done := by
  cases done with
  | nil => exact h
  | cons last rest =>
      rw [parent] at h
      split at h
      · exact h
      · exact List.mem_cons_of_mem _ h

/-- Resolving dots leaves segments that were there, and empty ones. -/
theorem mem_of_mem_resolve {part : List Char} {parts done : List (List Char)}
    (h : part ∈ resolve done parts) : part = [] ∨ part ∈ done ∨ part ∈ parts := by
  induction parts generalizing done with
  | nil => exact .inr (.inl h)
  | cons next parts ih =>
      have hatEnd : ∀ above : List (List Char),
          part ∈ (if parts.isEmpty then [] :: above else above) → part = [] ∨ part ∈ above := by
        intro above hmem
        split at hmem
        · exact List.mem_cons.mp hmem
        · exact .inr hmem
      simp only [resolve] at h
      split at h
      · rcases ih h with hempty | hdone | hparts
        · exact .inl hempty
        · exact (hatEnd done hdone).imp_right .inl
        · exact .inr (.inr (List.mem_cons_of_mem _ hparts))
      · rcases ih h with hempty | hdone | hparts
        · exact .inl hempty
        · exact (hatEnd _ hdone).imp_right fun hparent => .inl (mem_of_mem_parent hparent)
        · exact .inr (.inr (List.mem_cons_of_mem _ hparts))
      · rcases ih h with hempty | hdone | hparts
        · exact .inl hempty
        · rcases List.mem_cons.mp hdone with rfl | hdone
          · exact .inr (.inr List.mem_cons_self)
          · exact .inr (.inl hdone)
        · exact .inr (.inr (List.mem_cons_of_mem _ hparts))

theorem isFront_ofSegments (parts : List (List Char)) :
    ∀ c ∈ (ofSegments parts).chars, isFront c = true := by
  intro c hc
  simp only [ofSegments, chars, List.mem_flatMap, List.mem_reverse, List.mem_cons] at hc
  obtain ⟨part, hpart, hslash | hmem⟩ := hc
  · rw [hslash]
    decide
  · rcases mem_of_mem_resolve hpart with rfl | hdone | hparts
    · cases hmem
    · cases hdone
    · obtain ⟨written, -, rfl⟩ := List.mem_map.mp hparts
      exact forall_mem_percentEncode (P := (isFront · = true)) (fun _ => isFront_of_not_inPathSet)
        (by decide) isFront_capitalDigit written c hmem

theorem isFront_ofSpecial (s : List Char) : ∀ c ∈ (ofSpecial s).chars, isFront c = true := by
  rw [ofSpecial]
  split
  · exact isFront_ofSegments _
  · exact isFront_ofSegments _

end Path

/-! ### Authorities -/

theorem isFront_readCredentials (s : List Char) :
    ∀ c ∈ (readCredentials s).chars, isFront c = true := by
  have hencoded : ∀ part c, c ∈ percentEncode inUserinfoSet part → isFront c = true :=
    forall_mem_percentEncode (P := (isFront · = true)) (fun _ => isFront_of_not_inUserinfoSet)
      (by decide) isFront_capitalDigit
  intro c hc
  rw [Credentials.chars] at hc
  split at hc
  · cases hc
  · simp only [List.mem_append, List.mem_singleton] at hc
    rcases hc with (huser | hpassword) | rfl
    · rw [readCredentials] at huser
      split at huser <;> exact hencoded _ c huser
    · split at hpassword
      · cases hpassword
      · rcases List.mem_cons.mp hpassword with rfl | hmem
        · decide
        · rw [readCredentials] at hmem
          split at hmem
          · exact hencoded _ c hmem
          · cases hmem
    · decide

/-- No character of a name is one that no domain contains. -/
theorem isForbiddenInDomain_of_mem {bytes : List UInt8} {domain : List Char}
    (h : domainToAscii? bytes = some domain) : ∀ c ∈ domain, isForbiddenInDomain c = false := by
  simp only [domainToAscii?, Option.bind_eq_bind, Option.bind_eq_some_iff] at h
  obtain ⟨s, -, labels, -, hname⟩ := h
  split at hname
  · cases hname
  · next hany =>
    rw [Option.some.injEq] at hname
    subst hname
    intro c hc
    refine Bool.eq_false_iff.mpr fun hforbidden => hany ?_
    exact List.any_eq_true.mpr ⟨c, hc, hforbidden⟩

theorem isFront_of_not_forbidden {c : Char} (h : isForbiddenInDomain c = false) :
    isFront c = true := by
  simp only [isForbiddenInDomain, Bool.or_eq_false_iff, decide_eq_false_iff_not,
    List.contains_eq_mem, List.mem_cons, not_or] at h
  obtain ⟨⟨hshows, -⟩, -, hhash, -, -, -, -, hquestion, -⟩ := h
  simp only [isFront, Bool.and_eq_true, decide_eq_true_eq, bne_iff_ne]
  exact ⟨⟨Nat.lt_of_not_le hshows, hquestion⟩, hhash⟩

/-- The characters of an address in brackets stand in front of the query. -/
theorem isFront_readBracketed {s : List Char} {host : Host} (h : Host.readBracketed s = .ok host) :
    ∀ c ∈ host.chars, isFront c = true := by
  unfold Host.readBracketed at h
  split at h
  · split at h
    · next address _ =>
      cases h
      intro c hc
      simp only [Host.chars, List.mem_append, List.mem_cons, List.not_mem_nil, or_false] at hc
      rcases hc with (rfl | hgroups) | rfl
      · decide
      · exact Ipv6.forall_mem_compressed (P := (isFront · = true)) (by decide) (by decide)
          address.groups c hgroups
      · decide
    · cases h
  · cases h

/-- The characters of a host under a special scheme stand in front of the query. -/
theorem isFront_ofSpecial {s : List Char} {host : Host} (h : Host.ofSpecial s = .ok host) :
    ∀ c ∈ host.chars, isFront c = true := by
  unfold Host.ofSpecial at h
  split at h
  · exact isFront_readBracketed h
  · split at h
    · cases h
    · cases h
    · next domain _ hdomain =>
      split at h
      · split at h
        · next address _ =>
          cases h
          exact address.forall_mem_chars_of_digit (P := (isFront · = true)) (by decide) (by decide)
        · cases h
      · cases h
        exact fun c hc => isFront_of_not_forbidden (isForbiddenInDomain_of_mem hdomain c hc)

/-- An authority that has the given credentials, with the host and the port behind them, under a
special scheme. -/
def readLocated (usual : Option Nat) (credentials : Credentials) (located : List Char) :
    Except UrlError (Authority × List Char) :=
  let (hostText, after) := splitHost false located
  if hostText.isEmpty then .error .emptyHost
  else do
    let host ← Host.ofSpecial hostText
    if host.isEmpty && !(after.isEmpty && credentials.isEmpty) then .error .emptyHost
    match after with
    | ':' :: s =>
      let (port, rest) ← readPort usual s
      .ok (⟨credentials, host, port⟩, rest)
    | rest => .ok (⟨credentials, host, none⟩, rest)

theorem readLocated_spec {usual : Option Nat} {credentials : Credentials} {located rest : List Char}
    {authority : Authority} (h : readLocated usual credentials located = .ok (authority, rest)) :
    authority.credentials = credentials ∧
      ∃ hostText, Host.ofSpecial hostText = .ok authority.host := by
  simp only [readLocated, bind, Except.bind] at h
  split at h
  · cases h
  · split at h
    · cases h
    · next host hhost =>
      split at h
      · cases h
      · split at h
        · split at h
          · cases h
          · cases h
            exact ⟨rfl, _, hhost⟩
        · cases h
          exact ⟨rfl, _, hhost⟩

/-- Under a special scheme it does not matter whether the text goes on behind the authority: without
a host there is none either way. -/
theorem readAuthority_special {scheme : List Char} (h : (usualPort? scheme).isSome = true)
    (s : List Char) :
    ∃ before located, ∀ more, readAuthority scheme s more =
      readLocated (usualPort? scheme) (readCredentials before) located := by
  obtain ⟨port, hport⟩ := Option.isSome_iff_exists.mp h
  -- no credentials are what is read of an empty text
  cases hcut : cutAtLastAt? s with
  | none =>
      refine ⟨[], s, fun more => ?_⟩
      rw [readAuthority, hcut, hport]
      rfl
  | some parts =>
      obtain ⟨before, located⟩ := parts
      cases before with
      | nil =>
          refine ⟨[], located, fun more => ?_⟩
          rw [readAuthority, hcut, hport]
          cases located with
          | nil => cases more <;> rfl
          | cons c located => rfl
      | cons first before =>
          refine ⟨first :: before, located, fun more => ?_⟩
          rw [readAuthority, hcut, hport]
          rfl

theorem isFront_authority {authority : Authority}
    (hcredentials : ∃ before, authority.credentials = readCredentials before)
    (hhost : ∃ hostText, Host.ofSpecial hostText = .ok authority.host) :
    ∀ c ∈ authority.chars, isFront c = true := by
  intro c hc
  simp only [Authority.chars, List.mem_append] at hc
  rcases hc with (hmem | hmem) | hmem
  · obtain ⟨before, hbefore⟩ := hcredentials
    rw [hbefore] at hmem
    exact isFront_readCredentials before c hmem
  · obtain ⟨hostText, hread⟩ := hhost
    exact isFront_ofSpecial hread c hmem
  · split at hmem
    · rcases List.mem_cons.mp hmem with rfl | hnumeral
      · decide
      · exact Text.forall_mem_numeral (P := (isFront · = true)) (by decide) (by decide) _ c hnumeral
    · cases hmem

theorem bind_ok_eq_map {α β : Type} (read : Except UrlError α) (f : α → β) :
    (read >>= fun a => .ok (f a)) = read.map f := by
  cases read <;> rfl

theorem exists_of_map_eq_ok {α β : Type} {read : Except UrlError α} {f : α → β} {b : β}
    (h : read.map f = .ok b) : ∃ a, read = .ok a ∧ f a = b := by
  cases read with
  | error _ => cases h
  | ok a => exact ⟨a, rfl, Except.ok.inj h⟩

/-- What is read of a text under a special scheme is an authority and a path. -/
theorem readSpecial_eq {scheme : List Char} (hspecial : (usualPort? scheme).isSome = true)
    (s : List Char) :
    ∃ before located path, ∀ more, readSpecial scheme s more =
      (readLocated (usualPort? scheme) (readCredentials before) located).map fun read =>
        (read.1, Path.ofSpecial path) := by
  let ends (c : Char) : Bool := c == '/' || c == '\\'
  obtain ⟨before, located, hread⟩ :=
    readAuthority_special hspecial ((s.dropWhile ends).takeWhile fun c => !ends c)
  refine ⟨before, located, (s.dropWhile ends).dropWhile fun c => !ends c, ?_⟩
  intro more
  simp only [ends] at hread
  simp only [readSpecial, hread, bind_ok_eq_map, ends]

theorem isFront_of_readSpecial {scheme s : List Char} {more : Bool} {authority : Authority}
    {path : Path} (hspecial : (usualPort? scheme).isSome = true)
    (h : readSpecial scheme s more = .ok (authority, path)) :
    ∀ c ∈ authority.chars ++ path.chars, isFront c = true := by
  obtain ⟨before, located, written, heq⟩ := readSpecial_eq hspecial s
  rw [heq] at h
  obtain ⟨⟨read, rest⟩, hread, hparts⟩ := exists_of_map_eq_ok h
  cases hparts
  obtain ⟨hsame, hhost⟩ := readLocated_spec hread
  intro c hc
  rcases List.mem_append.mp hc with hauthority | hpath
  · exact isFront_authority ⟨before, hsame⟩ hhost c hauthority
  · exact Path.isFront_ofSpecial written c hpath

/-! ## Reading in parts -/

/-- The schemes of web pages. -/
def webSchemes : List (List Char) := ["http".toList, "https".toList]

theorem mem_webSchemes {url : Url} : url.scheme ∈ webSchemes ↔ url.isWeb = true := by
  simp only [webSchemes, isWeb, List.mem_cons, List.not_mem_nil, or_false, Bool.or_eq_true,
    beq_iff_eq]

theorem usualPort?_web : ∀ scheme ∈ webSchemes, (usualPort? scheme).isSome = true := by
  decide

/-- A text cut at the marks of the query and the fragment. A `?` in a fragment is no mark. -/
def cutParts (s : List Char) : List Char × Option (List Char) × Option (List Char) :=
  let (s, fragment) := match cut? '#' s with
    | some (before, after) => (before, some after)
    | none => (s, none)
  match cut? '?' s with
  | some (before, after) => (before, some after, fragment)
  | none => (s, none, fragment)

/-- What is read of a web URL from its scheme and from its parts. -/
def readWeb (scheme : List Char) : List Char × Option (List Char) × Option (List Char) →
    Except UrlError Url
  | (front, query, fragment) =>
    (readSpecial scheme front false).map fun (authority, path) =>
      { scheme, authority := some authority, path,
        query := query.map (percentEncode inSpecialQuerySet),
        fragment := fragment.map (percentEncode inFragmentSet) }

theorem readSpecial_more {scheme : List Char} (hspecial : (usualPort? scheme).isSome = true)
    (s : List Char) (more : Bool) : readSpecial scheme s more = readSpecial scheme s false := by
  obtain ⟨before, located, path, hread⟩ := readSpecial_eq hspecial s
  rw [hread, hread]

/-- A text with a web scheme is cut into its parts, and these are read. -/
theorem parse_eq_readWeb {input : String} {scheme s : List Char} (hweb : scheme ∈ webSchemes)
    (h : readScheme? (cleaned input.toList) = some (scheme, s)) :
    parse input = readWeb scheme (cutParts s) := by
  have hfile : scheme ≠ "file".toList := by
    rintro rfl
    exact absurd hweb (by decide)
  have hspecial := usualPort?_web scheme hweb
  rw [parse, h]
  simp only [if_neg hfile, if_pos hspecial, readSpecial_more hspecial, cutParts]
  cases cut? '#' s with
  | none =>
      cases cut? '?' s with
      | none => exact bind_ok_eq_map _ _
      | some parts => exact bind_ok_eq_map _ _
  | some parts =>
      cases cut? '?' parts.1 with
      | none => exact bind_ok_eq_map _ _
      | some parts' => exact bind_ok_eq_map _ _

/-- A URL has the scheme its text starts with. -/
theorem scheme_of_parse {input : String} {url : Url} (h : parse input = .ok url) :
    ∃ s, readScheme? (cleaned input.toList) = some (url.scheme, s) := by
  rw [parse] at h
  split at h
  · cases h
  · next scheme s hscheme =>
    simp only [bind_ok_eq_map] at h
    refine ⟨s, ?_⟩
    rw [hscheme]
    split at h
    · obtain ⟨-, -, rfl⟩ := exists_of_map_eq_ok h
      rfl
    · split at h
      · obtain ⟨-, -, rfl⟩ := exists_of_map_eq_ok h
        rfl
      · obtain ⟨-, -, rfl⟩ := exists_of_map_eq_ok h
        rfl

/-! ## Encoded URLs -/

/-- Nothing in a part of a web URL ends that part, or would be read as something else. -/
structure IsEncoded (url : Url) : Prop where
  front : ∀ c ∈ url.approach ++ url.path.chars, isFront c = true
  query : ∀ query ∈ url.query, ∀ c ∈ query, inSpecialQuerySet c = false
  fragment : ∀ fragment ∈ url.fragment, ∀ c ∈ fragment, inFragmentSet c = false

/-- What is read of a web URL is encoded. -/
theorem isEncoded_of_readWeb {scheme : List Char}
    {parts : List Char × Option (List Char) × Option (List Char)} {url : Url}
    (hweb : scheme ∈ webSchemes) (h : readWeb scheme parts = .ok url) : url.IsEncoded := by
  obtain ⟨front, query, fragment⟩ := parts
  obtain ⟨⟨authority, path⟩, hread, rfl⟩ := exists_of_map_eq_ok h
  have hfront := isFront_of_readSpecial (usualPort?_web scheme hweb) hread
  refine ⟨?_, ?_, ?_⟩
  · intro c hc
    simp only [approach, List.cons_append, List.mem_cons] at hc
    rcases hc with rfl | rfl | hmem
    · decide
    · decide
    · exact hfront c hmem
  · intro encoded hencoded
    obtain ⟨text, -, rfl⟩ := Option.map_eq_some_iff.mp hencoded
    exact forall_mem_percentEncode (P := (inSpecialQuerySet · = false)) (fun _ hout => hout)
      (by decide) (by decide) text
  · intro encoded hencoded
    obtain ⟨text, -, rfl⟩ := Option.map_eq_some_iff.mp hencoded
    exact forall_mem_percentEncode (P := (inFragmentSet · = false)) (fun _ hout => hout)
      (by decide) (by decide) text

/-- The parts of a web URL that was read are encoded. -/
theorem isEncoded_of_parse {input : String} {url : Url} (h : parse input = .ok url)
    (hweb : url.scheme ∈ webSchemes) : url.IsEncoded := by
  obtain ⟨s, hscheme⟩ := scheme_of_parse h
  rw [parse_eq_readWeb hweb hscheme] at h
  exact isEncoded_of_readWeb hweb h

/-- The parts of an encoded URL are still encoded with one more pair in its query. -/
theorem IsEncoded.appendPair {url : Url} (h : url.IsEncoded) (name value : List Char) :
    (url.appendPair name value).IsEncoded where
  front := h.front
  query := by
    have hform : ∀ s, ∀ c ∈ formText s, inSpecialQuerySet c = false :=
      forall_mem_formText (P := (inSpecialQuerySet · = false)) (by decide +kernel)
    have hpair : ∀ c ∈ pairText name value, inSpecialQuerySet c = false := by
      intro c hc
      simp only [pairText, List.mem_append, List.mem_cons] at hc
      rcases hc with hname | rfl | hvalue
      · exact hform name c hname
      · decide
      · exact hform value c hvalue
    intro query hquery c hc
    rcases url.query_appendPair name value with ⟨-, hnew⟩ | ⟨old, hold, hnew⟩
    · rw [hnew, Option.mem_some] at hquery
      exact hpair c (hquery ▸ hc)
    · rw [hnew, Option.mem_some] at hquery
      rw [← hquery, List.mem_append, List.mem_cons] at hc
      rcases hc with hbefore | rfl | hbehind
      · exact h.query old hold c hbefore
      · decide
      · exact hpair c hbehind
  fragment := h.fragment

/-! ## Texts of encoded URLs -/

theorem cleaned_of_forall {s : List Char} (h : ∀ c ∈ s, 0x20 < c.toNat) : cleaned s = s := by
  have hdrop : ∀ t : List Char, (∀ c ∈ t, 0x20 < c.toNat) →
      t.dropWhile (fun c => decide (c.toNat ≤ 0x20)) = t := by
    intro t ht
    cases t with
    | nil => rfl
    | cons c t => 
        have hc := ht c List.mem_cons_self
        rw [List.dropWhile_cons_of_neg]
        simp only [decide_eq_true_eq]
        omega
  have hback : ∀ c ∈ s.reverse, 0x20 < c.toNat := fun c hc => h c (List.mem_reverse.mp hc)
  simp only [cleaned]
  rw [hdrop s h, hdrop s.reverse hback, List.reverse_reverse, List.filter_eq_self]
  intro c hc
  have hshows := h c hc
  simp only [Bool.and_eq_true, bne_iff_ne]
  refine ⟨⟨?_, ?_⟩, ?_⟩ <;> rintro rfl <;> exact absurd hshows (by decide)

/-- A text is cut at the mark of its last part, if there is one. -/
theorem cut?_marked {mark : Char} {front : List Char} (h : mark ∉ front)
    (part : Option (List Char)) :
    cut? mark (front ++ marked mark part) = part.map fun behind => (front, behind) := by
  cases part with
  | none => rw [marked, List.append_nil, Text.cut?_of_not_mem h, Option.map_none]
  | some behind => rw [marked, Text.cut?_append h, Option.map_some]

/-- A text that was put together is cut into the same parts again. -/
theorem cutParts_append {front : List Char} {query : Option (List Char)}
    (hfront : ∀ c ∈ front, isFront c = true) (hquery : ∀ q ∈ query, '#' ∉ q)
    (fragment : Option (List Char)) :
    cutParts (front ++ marked '?' query ++ marked '#' fragment) = (front, query, fragment) := by
  have hquestion : '?' ∉ front := fun hmem => absurd (hfront _ hmem) (by decide)
  have hhash : '#' ∉ front ++ marked '?' query := by
    rw [List.mem_append]
    rintro (hmem | hmem)
    · exact absurd (hfront _ hmem) (by decide)
    · cases query with
      | none => cases hmem
      | some q =>
          rcases List.mem_cons.mp hmem with heq | hmem
          · exact absurd heq (by decide)
          · exact hquery q rfl hmem
  rw [cutParts, cut?_marked hhash]
  cases fragment with
  | none =>
      have hnothing : front ++ marked '?' query ++ marked '#' none = front ++ marked '?' query :=
        List.append_nil _
      simp only [Option.map_none, hnothing, cut?_marked hquestion]
      cases query with
      | none => simp only [Option.map_none, marked, List.append_nil]
      | some q => simp only [Option.map_some]
  | some behind =>
      simp only [Option.map_some, cut?_marked hquestion]
      cases query with
      | none => simp only [Option.map_none, marked, List.append_nil]
      | some q => simp only [Option.map_some]

theorem isFront_web : ∀ scheme ∈ webSchemes, scheme.all isFront = true := by
  decide

/-- The scheme of a web URL is read from its text. -/
theorem readScheme?_web {scheme : List Char} (hweb : scheme ∈ webSchemes) (s : List Char) :
    readScheme? (scheme ++ ':' :: s) = some (scheme, s) := by
  simp only [webSchemes, List.mem_cons, List.not_mem_nil, or_false] at hweb
  rcases hweb with rfl | rfl <;> rfl

/-- Every character of an encoded web URL shows. -/
theorem IsEncoded.shows {url : Url} (h : url.IsEncoded) (hweb : url.scheme ∈ webSchemes) :
    ∀ c ∈ url.chars, 0x20 < c.toNat := by
  have hfront : ∀ {c : Char}, isFront c = true → 0x20 < c.toNat := by
    intro c hc
    simp only [isFront, Bool.and_eq_true, decide_eq_true_eq] at hc
    exact hc.1.1
  have hmarked : ∀ {mark : Char} {part : Option (List Char)}, 0x20 < mark.toNat →
      (∀ behind ∈ part, ∀ c ∈ behind, 0x20 < c.toNat) →
      ∀ c ∈ marked mark part, 0x20 < c.toNat := by
    intro mark part hmark hpart c hc
    cases part with
    | none => cases hc
    | some behind =>
        rcases List.mem_cons.mp hc with rfl | hc
        · exact hmark
        · exact hpart behind rfl c hc
  intro c hc
  simp only [chars, List.mem_append, List.mem_cons] at hc
  rcases hc with (((hscheme | rfl | happroach) | hpath) | hquery) | hfragment
  · exact hfront (List.all_eq_true.mp (isFront_web _ hweb) c hscheme)
  · decide
  · exact hfront (h.front c (List.mem_append_left _ happroach))
  · exact hfront (h.front c (List.mem_append_right _ hpath))
  · refine hmarked (by decide) (fun query hmem c hc => ?_) c hquery
    exact shows_of_not_inSpecialQuerySet (h.query query hmem c hc)
  · refine hmarked (by decide) (fun fragment hmem c hc => ?_) c hfragment
    exact shows_of_not_inFragmentSet (h.fragment fragment hmem c hc)

/-- The text of an encoded web URL is read as what stands in front of its query, with the query and
the fragment of that URL. -/
theorem IsEncoded.parse_text {url : Url} (h : url.IsEncoded) (hweb : url.scheme ∈ webSchemes) :
    parse url.text =
      (readSpecial url.scheme (url.approach ++ url.path.chars) false).map
        fun (authority, path) => { url with authority := some authority, path } := by
  have hchars : url.chars = url.scheme ++ ':' :: (url.approach ++ url.path.chars ++
      marked '?' url.query ++ marked '#' url.fragment) := by
    simp only [chars, List.append_assoc, List.cons_append]
  have hhash : ∀ query ∈ url.query, '#' ∉ query := fun query hquery hmem =>
    absurd (h.query query hquery _ hmem) (by decide)
  have hread : readScheme? (cleaned url.text.toList) = some (url.scheme,
      url.approach ++ url.path.chars ++ marked '?' url.query ++ marked '#' url.fragment) := by
    rw [text, String.toList_ofList, cleaned_of_forall (h.shows hweb), hchars,
      readScheme?_web hweb]
  rw [parse_eq_readWeb hweb hread, cutParts_append h.front hhash, readWeb]
  simp only [map_percentEncode_of_forall h.query, map_percentEncode_of_forall h.fragment]

/-- Where two encoded web URLs differ in their queries only, so does what is read of their texts. -/
theorem IsEncoded.parse_with_query {url : Url} {query : Option (List Char)} (h : url.IsEncoded)
    (hquery : { url with query }.IsEncoded) (hweb : url.scheme ∈ webSchemes) :
    parse { url with query }.text = (parse url.text).map fun read => { read with query } := by
  have hsame : { url with query }.approach = url.approach := rfl
  rw [h.parse_text hweb, hquery.parse_text hweb, hsame]
  cases readSpecial url.scheme (url.approach ++ url.path.chars) false with
  | error _ => rfl
  | ok read => rfl

end VpnClient.Url
