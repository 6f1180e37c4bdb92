import VpnClient.Proofs.Url.Reading
import VpnClient.Screen.Effect

/-!
# What the account page is given

The URL of the account page differs from the page of the configuration by one pair in its query,
from which the token is read back.  Nothing of a token gets out of that pair: the URL that is read
from the text leads to the same place, whatever the token is.

## Main Definitions

* `AccountLink.CarriesToken` — how the URL of a link differs from its page

## Main Statements

* `Url.query_eq_of_text_eq` — URLs with different queries have different texts
* `AccountLink.parse_url` — the text of a link is read as its page is, but for the query
* `AccountLink.url_carries_token` — every link carries its token, and different tokens make
  different links
-/

namespace VpnClient

/-! ## Queries in texts -/

namespace Url

theorem marked_injective (mark : Char) : Function.Injective (marked mark) := by
  intro part other h
  cases part with
  | none =>
      cases other with
      | none => rfl
      | some behind => cases h
  | some behind =>
      cases other with
      | none => cases h
      | some behind' => rw [List.tail_eq_of_cons_eq h]

/-- The query of a URL is determined by its text and by its other parts. -/
theorem query_eq_of_text_eq (url : Url) {query other : Option (List Char)}
    (h : { url with query := query }.text = { url with query := other }.text) : query = other := by
  have hchars := String.ofList_injective h
  simp only [chars, approach, List.append_cancel_right_eq, List.append_cancel_left_eq] at hchars
  exact marked_injective '?' hchars

end Url

/-! ## Links -/

namespace AccountLink

/-- A link leads to its page and carries its token, which is what the URL is made of and what it is
read as. -/
structure CarriesToken (link : AccountLink) : Prop where
  scheme_eq : link.url.scheme = link.base.scheme
  authority_eq : link.url.authority = link.base.authority
  path_eq : link.url.path = link.base.path
  fragment_eq : link.url.fragment = link.base.fragment
  pairs_eq : link.url.pairs = link.base.pairs ++ link.token.toList.map ("token", ·)
  url_eq : link.token = none → link.url = link.base
  parse_eq : ∀ input, Url.parse input = .ok link.base → link.base.isWeb = true →
    Url.parse link.url.text =
      (Url.parse link.base.text).map fun read => { read with query := link.url.query }

/-- Only the query of a URL depends on the token. -/
theorem url_eq_with_query (link : AccountLink) :
    link.url = { link.base with query := link.url.query } := by
  obtain ⟨base, token⟩ := link
  cases token with
  | none => rfl
  | some token => rfl

theorem pairs_url (link : AccountLink) :
    link.url.pairs = link.base.pairs ++ link.token.toList.map ("token", ·) := by
  obtain ⟨base, token⟩ := link
  cases token with
  | none => exact (List.append_nil _).symm
  | some token =>
      have hpairs := base.pairs_appendPair "token".toList token.toList
      rwa [String.ofList_toList, String.ofList_toList] at hpairs

/-- The text of a link is read as its page is, but for the query. -/
theorem parse_url (link : AccountLink) {input : String} (hbase : Url.parse input = .ok link.base)
    (hweb : link.base.isWeb = true) :
    Url.parse link.url.text =
      (Url.parse link.base.text).map fun read => { read with query := link.url.query } := by
  have hscheme := Url.mem_webSchemes.mpr hweb
  have hencoded : link.base.IsEncoded := Url.isEncoded_of_parse hbase hscheme
  have hurl : link.url.IsEncoded := by
    obtain ⟨base, token⟩ := link
    cases token with
    | none => exact hencoded
    | some token => exact hencoded.appendPair "token".toList token.toList
  rw [url_eq_with_query] at hurl
  have hparse := hencoded.parse_with_query hurl hscheme
  rwa [← url_eq_with_query] at hparse

theorem carriesToken (link : AccountLink) : link.CarriesToken where
  scheme_eq := by rw [url_eq_with_query]
  authority_eq := by rw [url_eq_with_query]
  path_eq := by rw [url_eq_with_query]
  fragment_eq := by rw [url_eq_with_query]
  pairs_eq := link.pairs_url
  url_eq := by
    intro hnone
    rw [url, hnone]
  parse_eq := fun _ hbase hweb => link.parse_url hbase hweb

/-- The text of a link gives its query, the query its pairs, and these the token. -/
theorem token_eq_of_text_eq (base : Url) {token other : Option String}
    (h : (AccountLink.mk base token).url.text = (AccountLink.mk base other).url.text) :
    token = other := by
  have hquery :
      (AccountLink.mk base token).url.query = (AccountLink.mk base other).url.query := by
    refine base.query_eq_of_text_eq ?_
    rw [← url_eq_with_query ⟨base, token⟩, ← url_eq_with_query ⟨base, other⟩]
    exact h
  have hpairs := pairs_url ⟨base, token⟩
  rw [Url.pairs, hquery, ← Url.pairs, pairs_url, List.append_cancel_left_eq] at hpairs
  have htokens : other.toList = token.toList :=
    (List.map_inj_right fun _ _ hpair => (Prod.mk.inj hpair).2).mp hpairs
  have hhead := congrArg List.head? htokens
  rw [Option.head?_toList, Option.head?_toList] at hhead
  exact hhead.symm

/-- Every link carries its token, whatever characters are in it; and links to the same page with
different tokens, or of which only one has a token, have different texts. -/
theorem url_carries_token (base : Url) :
    (∀ token, CarriesToken ⟨base, token⟩) ∧
      Function.Injective fun token => (AccountLink.mk base token).url.text :=
  ⟨fun token => carriesToken ⟨base, token⟩, fun _ _ => token_eq_of_text_eq base⟩

/-- A page with everything that a page can have, and a token of characters that have a meaning in
URLs. -/
theorem url_carries_token_of_marks :
    let base : Url :=
      { scheme := "https".toList
        authority := some ⟨⟨"me".toList, "pw".toList⟩, .name "example.com".toList, some 8443⟩
        path := .segments ["a".toList]
        query := some "x=1".toList
        fragment := some "top".toList }
    let link : AccountLink := ⟨base, some "a&b=c#d +é"⟩
    Url.parse "https://me:pw@example.com:8443/a?x=1#top" = .ok base ∧ base.isWeb = true ∧
      link.url.text =
        "https://me:pw@example.com:8443/a?x=1&token=a%26b%3Dc%23d+%2B%C3%A9#top" ∧
      link.url.pairs = [("x", "1"), ("token", "a&b=c#d +é")] ∧
      Url.parse link.url.text = .ok link.url := by
  intro base link
  have hparse : Url.parse "https://me:pw@example.com:8443/a?x=1#top" = .ok base := by decide +kernel
  have hbase : Url.parse base.text = .ok base := by decide +kernel
  have hcarries := (url_carries_token base).1 (some "a&b=c#d +é")
  have hpairs : base.pairs = [("x", "1")] := by decide +kernel
  refine ⟨hparse, by decide, by decide +kernel, ?_, ?_⟩
  · rw [hcarries.pairs_eq, hpairs]
    rfl
  · rw [hcarries.parse_eq _ hparse (by decide), hbase]
    rfl

end AccountLink

end VpnClient
