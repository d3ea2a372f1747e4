import LinkGate.Fetch.Offline

/-!
# Words in failed requests

Where its flags do not tell, the kind of a failure is read off words. They are looked for in the reason, and
in the address as well, so that the address may decide: two requests that fail alike are of the same kind
exactly if flags or reason settle it, or the same kinds of words stand in both addresses.
-/

namespace LinkGate.Fetch

/-- Whether one of some words stands in one of some texts, be it in upper or in lower case. -/
def Mention (texts words : List String) : Prop :=
  ∃ text ∈ texts, ∃ word ∈ words, word.toList <:+: text.toList.map Char.toLower

def tlsWords : List String := ["certificate", "tls", "ssl"]

def dnsWords : List String := ["dns", "resolve"]

/-- The texts of the address that was asked for. -/
def addressTexts (url : Option Url) : List String :=
  (url.map Url.parts).getD []

namespace Failure

variable (f : Failure)

theorem any_mentions_iff (words : List String) :
    words.any f.mentions = true ↔ Mention [f.reason] words ∨ Mention (addressTexts f.url) words := by
  have one (word : String) : f.mentions word = true ↔
      ∃ text ∈ f.reason :: addressTexts f.url, word.toList <:+: text.toList.map Char.toLower := by
    simp only [mentions, addressTexts, List.any_eq_true, Text.occursIn_iff]
  simp only [List.any_eq_true, one]
  constructor
  · rintro ⟨word, listed, text, inFailure, found⟩
    rcases List.mem_cons.mp inFailure with isReason | inAddress
    · exact Or.inl ⟨text, List.mem_singleton.mpr isReason, word, listed, found⟩
    · exact Or.inr ⟨text, inAddress, word, listed, found⟩
  · rintro (⟨text, isReason, word, listed, found⟩ | ⟨text, inAddress, word, listed, found⟩)
    · exact ⟨word, listed, text, List.mem_cons.mpr (Or.inl (List.mem_singleton.mp isReason)), found⟩
    · exact ⟨word, listed, text, List.mem_cons_of_mem _ inAddress, found⟩

/-- A failure speaks of secure connections if its reason or its address does. -/
theorem mentionsTls_iff :
    f.mentionsTls = true ↔ Mention [f.reason] tlsWords ∨ Mention (addressTexts f.url) tlsWords := by
  rw [← any_mentions_iff]
  simp only [mentionsTls, tlsWords, List.any_cons, List.any_nil, Bool.or_false, Bool.or_assoc]

/-- A failure speaks of the names of hosts if its reason or its address does. -/
theorem mentionsDns_iff :
    f.mentionsDns = true ↔ Mention [f.reason] dnsWords ∨ Mention (addressTexts f.url) dnsWords := by
  rw [← any_mentions_iff]
  simp only [mentionsDns, dnsWords, List.any_cons, List.any_nil, Bool.or_false]

/-- Failures with the same flags are of one kind exactly if a flag settles it, or if they speak alike of
secure connections and, where that does not settle it, alike of the names of hosts. -/
theorem kind_eq_iff_of_same_flags {f g : Failure} (timeout : g.isTimeout = f.isTimeout)
    (redirect : g.isRedirect = f.isRedirect) (connect : g.isConnect = f.isConnect) :
    g.kind = f.kind ↔
      f.isTimeout = true ∨ f.isRedirect = true ∨
      (g.mentionsTls = true ↔ f.mentionsTls = true) ∧
        (f.mentionsTls = true ∨ f.isConnect = false ∨
          (g.mentionsDns = true ↔ f.mentionsDns = true)) := by
  unfold kind
  rw [timeout, redirect, connect]
  cases f.isTimeout with
  | true => simp
  | false =>
      cases f.isRedirect with
      | true => simp
      | false =>
          -- Neither flag is set, so that the words come first.
          generalize f.isConnect = connect, f.mentionsTls = tls, g.mentionsTls = tls',
            f.mentionsDns = dns, g.mentionsDns = dns'
          decide +revert

/-- A failure is of the same kind with another address exactly if its flags or its reason settle the kind,
or if the words that are looked for stand in both addresses or in neither: those that speak of secure
connections and, where none do and no connection was made, those that speak of the names of hosts. -/
theorem kind_eq_iff_of_other_address (f : Failure) (url : Option Url) :
    ({ f with url := url } : Failure).kind = f.kind ↔
      f.isTimeout = true ∨ f.isRedirect = true ∨ Mention [f.reason] tlsWords ∨
      (Mention (addressTexts url) tlsWords ↔ Mention (addressTexts f.url) tlsWords) ∧
        (Mention (addressTexts f.url) tlsWords ∨ f.isConnect = false ∨ Mention [f.reason] dnsWords ∨
          (Mention (addressTexts url) dnsWords ↔ Mention (addressTexts f.url) dnsWords)) := by
  have words : ({ f with url := url } : Failure).kind = f.kind ↔ _ :=
    kind_eq_iff_of_same_flags rfl rfl rfl
  simp only [words, mentionsTls_iff, mentionsDns_iff]
  -- What the reason mentions is mentioned with either address.
  by_cases reasonTls : Mention [f.reason] tlsWords
  · simp only [reasonTls, true_or, iff_self, true_and]
  · by_cases reasonDns : Mention [f.reason] dnsWords
    · simp only [reasonTls, reasonDns, false_or, true_or, iff_self, or_true, and_true]
    · simp only [reasonTls, reasonDns, false_or]

/-- A connection that is refused, and a host that is not found: for addresses that differ in names only,
what is reported depends on words in the names. -/
theorem kind_decided_by_address :
    let refused := offlineFailure "http://[::1]:1/x"
    let refusedDns := offlineFailure "http://[::1]:1/dns-setup"
    let refusedTls := offlineFailure "http://[::1]:1/x?y#tls"
    let unknown (host : String) : Failure :=
      connectFailure ⟨"http", "", none, some (.domain host), none, "/", none, none⟩
        "dns error: name not known"
    ({ refused with url := refusedDns.url } = refusedDns ∧ refused.kind = .connect ∧
        refusedDns.kind = .dns) ∧
      ({ refused with url := refusedTls.url } = refusedTls ∧ refusedTls.kind = .tls) ∧
      { unknown "example.org" with url := (unknown "hassle.org").url } = unknown "hassle.org" ∧
      (unknown "example.org").kind = .dns ∧ (unknown "hassle.org").kind = .tls := by
  decide +kernel

end Failure

end LinkGate.Fetch
