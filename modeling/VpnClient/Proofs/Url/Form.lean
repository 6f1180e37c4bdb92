import VpnClient.Proofs.Text.Split
import VpnClient.Url.Basic

/-!
# Forms are read back

The query of a URL is a form: pairs of a name and a value, with `&` between them and `=` in the
middle of each.  A pair that is put at the end of a query is read back as it was, whatever
characters it has, and the pairs before it are not touched.

## Main Definitions

* `Url.decodeLossy` — the text that bytes encode, with a mark where they encode none
* `Url.pairs` — the pairs in the query of a URL

## Main Statements

* `Url.decodeLossy_utf8` — the bytes of a text are decoded as that text
* `Url.forall_mem_formText` — which characters there are in a form
* `Url.decodePart_formText` — a text is read back from a form
* `Url.pairs_appendPair` — a pair that is put at the end of a query is read back

## Design Notes

Bytes that encode no text are decoded in the usual way: as many of them as could have begun a
character stand for one mark.
-/

namespace VpnClient.Url

open Text (splitAt cut?)

/-! ## Reading forms -/

/-- Whether two bytes can begin a character of three or four. -/
def beginsLong (first second : UInt8) : Bool :=
  let between (low high : UInt8) : Bool := low ≤ second && second ≤ high
  if first = 0xe0 then between 0xa0 0xbf
  else if first = 0xed then between 0x80 0x9f
  else if first = 0xf0 then between 0x90 0xbf
  else if first = 0xf4 then between 0x80 0x8f
  else 0xe1 ≤ first && first ≤ 0xf3 && between 0x80 0xbf

/-- How many bytes besides the first one are given up with it when no character starts there. -/
def brokenTail (first : UInt8) : List UInt8 → Nat
  | [] => 0
  | [second] => if beginsLong first second then 1 else 0
  | second :: third :: _ =>
    if beginsLong first second then
      if 0xf0 ≤ first ∧ 0x80 ≤ third ∧ third ≤ 0xbf then 2 else 1
    else 0

/-- The text that bytes encode in UTF-8. A byte with which no character starts stands for a mark,
together with those behind it that could have been part of a character. -/
def decodeLossy : List UInt8 → List Char
  | [] => []
  | first :: rest =>
    match (first :: rest).toByteArray.utf8DecodeChar? 0 with
    | some c => c :: decodeLossy (rest.drop (c.utf8Size - 1))
    | none => '\ufffd' :: decodeLossy (rest.drop (brokenTail first rest))
termination_by bytes => bytes.length
decreasing_by
  all_goals
    simp only [List.length_drop, List.length_cons]
    omega

/-- A text with a space in the place of every plus. -/
def withSpaces (s : List Char) : List Char :=
  s.map fun c => if c = '+' then ' ' else c

/-- The text that a part of a form stands for. A plus is a space, and `%` starts a byte. -/
def decodePart (s : List Char) : String :=
  String.ofList (decodeLossy (percentDecode (withSpaces s)))

/-- The pair that a part of a form stands for. Without `=` the value is empty. -/
def decodePair (s : List Char) : String × String :=
  match cut? '=' s with
  | some (name, value) => (decodePart name, decodePart value)
  | none => (decodePart s, "")

/-- The pairs in a form. Nothing stands between two `&` that follow each other. -/
def formPairs (s : List Char) : List (String × String) :=
  ((splitAt '&' s).filter fun part => !part.isEmpty).map decodePair

/-- The pairs in the query of a URL; none without a query. -/
def pairs (url : Url) : List (String × String) :=
  formPairs (url.query.getD [])

/-! ## Texts -/

/-- The first character of a text is decoded from its bytes. -/
theorem decodeLossy_append (c : Char) (rest : List UInt8) :
    decodeLossy (utf8 c ++ rest) = c :: decodeLossy rest := by
  have hdecode : (utf8 c ++ rest).toByteArray.utf8DecodeChar? 0 = some c := by
    rw [List.toByteArray_append]
    exact ByteArray.utf8DecodeChar?_utf8EncodeChar_append
  have hlength : (utf8 c).length = c.utf8Size := String.length_utf8EncodeChar c
  cases hbytes : utf8 c with
  | nil =>
      rw [hbytes] at hlength
      have hpos := c.utf8Size_pos
      rw [← hlength] at hpos
      cases hpos
  | cons first tail =>
      rw [hbytes] at hdecode hlength
      rw [List.cons_append] at hdecode ⊢
      rw [decodeLossy, hdecode]
      have htail : c.utf8Size - 1 = tail.length := by
        rw [← hlength, List.length_cons, Nat.add_sub_cancel]
      simp only [htail, List.drop_left]

/-- The bytes of a text are decoded as that text. -/
theorem decodeLossy_utf8 (s : List Char) : decodeLossy (s.flatMap utf8) = s := by
  induction s with
  | nil => rw [List.flatMap_nil, decodeLossy]
  | cons c s ih => rw [List.flatMap_cons, decodeLossy_append, ih]

/-! ## Bytes -/

/-- The two digits of a byte are read as that byte. -/
theorem byteOfDigits?_capitalDigit (byte : UInt8) :
    byteOfDigits? (capitalDigit (byte.toNat / 16)) (capitalDigit (byte.toNat % 16)) =
      some byte := by
  have hall : ∀ n < 256, byteOfDigits? (capitalDigit (n / 16)) (capitalDigit (n % 16)) =
      some (UInt8.ofNat n) := by decide +kernel
  rw [hall byte.toNat byte.toNat_lt, UInt8.ofNat_toNat]

theorem percentDecode_percentByte (byte : UInt8) (rest : List Char) :
    percentDecode (percentByte byte ++ rest) = byte :: percentDecode rest := by
  simp only [percentByte, List.cons_append, List.nil_append, percentDecode,
    byteOfDigits?_capitalDigit]

theorem percentDecode_cons {c : Char} (h : c ≠ '%') (rest : List Char) :
    percentDecode (c :: rest) = utf8 c ++ percentDecode rest := by
  rw [percentDecode]
  intro _ _ _ hc
  exact absurd hc h

/-- A byte that stands for itself in a form is neither of the marks, and the only byte of its
character. -/
theorem plain_spec {byte : UInt8} (h : isPlainInForm byte = true) :
    Char.ofNat byte.toNat ≠ '%' ∧ Char.ofNat byte.toNat ≠ '+' ∧
      utf8 (Char.ofNat byte.toNat) = [byte] := by
  have hall : ∀ n < 256, isPlainInForm (UInt8.ofNat n) = true →
      Char.ofNat n ≠ '%' ∧ Char.ofNat n ≠ '+' ∧ utf8 (Char.ofNat n) = [UInt8.ofNat n] := by
    decide +kernel
  have hbyte := hall byte.toNat byte.toNat_lt
  rw [UInt8.ofNat_toNat] at hbyte
  exact hbyte h

theorem withSpaces_percentByte (byte : UInt8) :
    withSpaces (percentByte byte) = percentByte byte := by
  have hall : ∀ n < 256,
      withSpaces (percentByte (UInt8.ofNat n)) = percentByte (UInt8.ofNat n) := by decide +kernel
  have hbyte := hall byte.toNat byte.toNat_lt
  rwa [UInt8.ofNat_toNat] at hbyte

theorem withSpaces_append (s t : List Char) :
    withSpaces (s ++ t) = withSpaces s ++ withSpaces t :=
  List.map_append

/-- A byte is read back from a form. -/
theorem percentDecode_formByte (byte : UInt8) (rest : List Char) :
    percentDecode (withSpaces (formByte byte ++ rest)) =
      byte :: percentDecode (withSpaces rest) := by
  rw [withSpaces_append, formByte]
  split
  · next hspace =>
    rw [hspace]
    exact percentDecode_cons (c := ' ') (by decide) _
  · split
    · next hplain =>
      obtain ⟨hpercent, hplus, hutf8⟩ := plain_spec hplain
      rw [withSpaces, List.map_singleton, if_neg hplus, List.singleton_append,
        percentDecode_cons hpercent, hutf8, List.singleton_append]
    · rw [withSpaces_percentByte, percentDecode_percentByte]

theorem percentDecode_formBytes (bytes : List UInt8) (rest : List Char) :
    percentDecode (withSpaces (bytes.flatMap formByte ++ rest)) =
      bytes ++ percentDecode (withSpaces rest) := by
  induction bytes with
  | nil => rfl
  | cons byte bytes ih =>
      rw [List.flatMap_cons, List.append_assoc, percentDecode_formByte, ih, List.cons_append]

/-- A text is read back from a form. -/
theorem decodePart_formText (s : List Char) : decodePart (formText s) = String.ofList s := by
  have hbytes : formText s = (s.flatMap utf8).flatMap formByte := by
    rw [formText, List.flatMap_assoc]
  have hdecode := percentDecode_formBytes (s.flatMap utf8) []
  rw [List.append_nil] at hdecode
  have hnothing : percentDecode (withSpaces []) = [] := rfl
  rw [decodePart, hbytes, hdecode, hnothing, List.append_nil, decodeLossy_utf8]

/-! ## Pairs -/

/-- What holds of the characters that stand for bytes holds of all characters of a form. -/
theorem forall_mem_formText {P : Char → Prop} [DecidablePred P]
    (h : ∀ n < 256, (formByte (UInt8.ofNat n)).all (fun c => P c) = true) (s : List Char) :
    ∀ c ∈ formText s, P c := by
  intro c hc
  simp only [formText, List.mem_flatMap] at hc
  obtain ⟨-, -, byte, -, hbyte⟩ := hc
  have hall := h byte.toNat byte.toNat_lt
  rw [UInt8.ofNat_toNat, List.all_eq_true] at hall
  exact of_decide_eq_true (hall c hbyte)

theorem not_mem_formText {separator : Char}
    (h : ∀ n < 256, (formByte (UInt8.ofNat n)).all (fun c => c ≠ separator) = true)
    (s : List Char) : separator ∉ formText s := fun hmem =>
  forall_mem_formText (P := (· ≠ separator)) h s separator hmem rfl

/-- A pair as it stands in a form. -/
def pairText (name value : List Char) : List Char :=
  formText name ++ '=' :: formText value

/-- A pair is one part of a form, and read back as it was. -/
theorem formPairs_pairText (name value : List Char) :
    formPairs (pairText name value) = [(String.ofList name, String.ofList value)] := by
  have hseparator : '&' ∉ pairText name value := by
    rw [pairText, List.mem_append, List.mem_cons]
    rintro (hname | hequal | hvalue)
    · exact not_mem_formText (by decide +kernel) name hname
    · exact absurd hequal (by decide)
    · exact not_mem_formText (by decide +kernel) value hvalue
  have hpair : decodePair (pairText name value) = (String.ofList name, String.ofList value) := by
    rw [decodePair, pairText, Text.cut?_append (not_mem_formText (by decide +kernel) name)]
    simp only [decodePart_formText]
  have hsome : (pairText name value).isEmpty = false := by
    rw [List.isEmpty_eq_false_iff, pairText]
    exact List.append_ne_nil_of_right_ne_nil _ (List.cons_ne_nil _ _)
  simp only [formPairs, Text.splitAt_of_not_mem hseparator, List.filter_cons, List.filter_nil,
    hsome, Bool.not_false, if_true, List.map_cons, List.map_nil, hpair]

theorem formPairs_append (s rest : List Char) :
    formPairs (s ++ '&' :: rest) = formPairs s ++ formPairs rest := by
  rw [formPairs, Text.splitAt_append_separator, List.filter_append, List.map_append]
  rfl

/-- One more pair is the whole query, or stands behind the old one. -/
theorem query_appendPair (url : Url) (name value : List Char) :
    (url.query.getD [] = [] ∧ (url.appendPair name value).query = some (pairText name value)) ∨
      ∃ query, url.query = some query ∧
        (url.appendPair name value).query = some (query ++ '&' :: pairText name value) := by
  cases hquery : url.query with
  | none => exact .inl ⟨rfl, by simp only [appendPair, hquery, pairText]⟩
  | some query =>
      cases query with
      | nil => exact .inl ⟨rfl, by simp only [appendPair, hquery, pairText]⟩
      | cons c rest => exact .inr ⟨c :: rest, rfl, by simp only [appendPair, hquery, pairText]⟩

/-- A pair that is put at the end of a query is read back behind those that were there. -/
theorem pairs_appendPair (url : Url) (name value : List Char) :
    (url.appendPair name value).pairs =
      url.pairs ++ [(String.ofList name, String.ofList value)] := by
  rcases url.query_appendPair name value with ⟨hold, hnew⟩ | ⟨query, hold, hnew⟩
  · rw [pairs, pairs, hnew, hold]
    exact formPairs_pairText name value
  · rw [pairs, pairs, hnew, hold, Option.getD_some, Option.getD_some, formPairs_append,
      formPairs_pairText]

end VpnClient.Url
