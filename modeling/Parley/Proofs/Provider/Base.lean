import Parley.Proofs.Provider.Post
import Parley.Proofs.Url.Parser

/-!
# The base that a record sets

The base of an adapter is checked as a URL of its own, and calls go to the path of the completions
behind it.  The two URLs have the same scheme, host and port, unless the base has a loose end
(`Url.LooseEnd`): blanks behind its host or port that count as nothing in a URL of their own, and
spoil it once a path stands behind them.

* `Adapter.ofModel_serves` : what the base of an adapter means for its calls (`Adapter.Serves`).
-/

namespace Parley

namespace Text

theorem dropEnd_dropEnd (p : Char → Bool) (s : Chars) : dropEnd p (dropEnd p s) = dropEnd p s := by
  obtain ⟨g, hg, hs⟩ := exists_append_dropEnd p s
  conv_rhs => rw [hs, dropEnd_append hg]

end Text

namespace Url

theorem host_withoutUser (u : Url) : u.withoutUser.host = u.host := by
  obtain ⟨scheme, authority, path, query, fragment⟩ := u
  cases authority with
  | none => rfl
  | some a =>
    simp only [withoutUser]
    split <;> rfl

theorem HasAuthority.exists_host {scheme s : Chars} {a : Authority}
    (h : HasAuthority scheme a s) : ∃ host, a.host = some host := by
  obtain ⟨-, rest, r, -, hread⟩ := h
  obtain ⟨_, _, hhost, rfl⟩ := readAuthority_eq_ok_iff.1 hread
  obtain ⟨-, host, -, rfl⟩ := readHost_eq_ok_iff.1 (readHostPort_eq_ok_iff.1 hhost).1
  exact ⟨host, rfl⟩

end Url

namespace Http

/-- Something can be posted to a URL of the web if its host can be named and it is not too long. -/
theorem exists_address_iff {text : String} {u : Url} (hparse : Url.parse text = .ok u)
    (hweb : u.isWeb = true) (hhost : u.host.isSome = true) :
    (∃ v, address text = .ok v) ↔
      u.nameable = true ∧ u.withoutUser.print.length ≤ Url.lengthLimit := by
  have hpostable : u.withoutUser.postable = true ↔
      u.nameable = true ∧ u.withoutUser.print.length ≤ Url.lengthLimit := by
    have hweb' : u.withoutUser.isWeb = true := by
      rwa [Url.isWeb_iff, Url.scheme_withoutUser, ← Url.isWeb_iff]
    have hnameable : u.withoutUser.nameable = u.nameable := by
      simp only [Url.nameable, Url.host_withoutUser]
    simp [Url.postable, hweb', hnameable]
  rw [← hpostable]
  simp only [address, hparse, Option.isNone_eq_false_iff.2 hhost]
  split
  · simp_all
  · split <;> simp_all

end Http

namespace Provider

theorem withoutTrailingSlashes_idem (s : String) :
    withoutTrailingSlashes (withoutTrailingSlashes s) = withoutTrailingSlashes s := by
  simp [withoutTrailingSlashes, Text.dropEnd_dropEnd]

namespace Adapter

variable {m : Model} {a : Adapter} {text : String}

/-! ### Adapters from records -/

theorem baseOf_eq_ok {b : String} (h : baseOf m text = .ok b) :
    ∃ u, Url.parse text = .ok u ∧ u.isWeb = true ∧ b = withoutTrailingSlashes text := by
  unfold baseOf at h
  split at h
  · cases h
  · rename_i u hparse
    split at h
    · rename_i hweb
      cases h
      exact ⟨u, hparse, hweb, rfl⟩
    · cases h

theorem ofModel_eq_ok (hbase : m.setting? "base_url" = some text) (h : ofModel m = .ok a) :
    (∃ u, Url.parse text = .ok u ∧ u.isWeb = true) ∧
      a.endpoint.base = withoutTrailingSlashes text ∧ a.options.model = some m.model := by
  unfold ofModel at h
  split at h
  · cases h
  · rename_i key hkey
    obtain ⟨e, he, rfl⟩ := map_eq_ok_iff.1 h
    simp only [endpointOf, hbase] at he
    obtain ⟨b, hb, rfl⟩ := map_eq_ok_iff.1 he
    obtain ⟨u, hparse, hweb, rfl⟩ := baseOf_eq_ok hb
    refine ⟨⟨u, hparse, hweb⟩, ?_, rfl⟩
    exact withoutTrailingSlashes_idem text

/-- A call to an address to which nothing can be posted fails with its first poll, and nothing is
sent. -/
theorem run_generate_of_address {model : String} (hmodel : a.options.model = some model)
    (h : ∀ v, Http.address (a.endpoint.url completionsPath) ≠ .ok v) (c : Call) (n : Network)
    (polls : Nat) : ∃ f n', (a.generate c).run (polls + 1) n = (.answered (.error f), n') ∧
      n'.received = n.received := by
  -- the key is looked at before the address, and either ends the call
  obtain ⟨f, hpost⟩ : ∃ f, a.post (c.request model) = .error f := by
    rcases post_cases a (c.request model) with ⟨f, -, hpost⟩ | ⟨-, f, -, -, hpost⟩ | ⟨p, hpost⟩
    · exact ⟨f, hpost⟩
    · exact ⟨_, hpost⟩
    · obtain ⟨-, -, haddress, -⟩ := post_eq_ok hpost
      exact absurd haddress (h p.url)
  obtain ⟨n', hn', hreceived⟩ :=
    conclude_eq (outcome c (.error f)) (n.note (requestEvents (c.request model)))
  have hfirst := (generate_eq hmodel (complete_zero_of_error n hpost)).trans hn'
  exact ⟨_, n', Progress.run_of_answered hfirst polls, hreceived⟩

/-! ### What a base means for the calls -/

/-- What the base that a record sets means for the calls of its adapter; `u` is the URL that the
base is. -/
structure Serves (a : Adapter) (text : String) (u : Url) : Prop where
  /-- The base is a URL. -/
  parses : Url.parse text = .ok u
  /-- Its scheme is one of the web. -/
  web : u.scheme = "http".toList ∨ u.scheme = "https".toList
  /-- The address of a call is a URL of the same scheme, host and port, unless the base has a loose
  end. -/
  usable_iff : (∃ v, Url.parse (a.endpoint.url "/chat/completions") = .ok v ∧
    v.scheme = u.scheme ∧ v.host = u.host ∧ v.port = u.port) ↔ ¬Url.LooseEnd text.toList
  /-- With a loose end the address of a call is no URL at all. -/
  spoilt : Url.LooseEnd text.toList → ∀ v, Url.parse (a.endpoint.url "/chat/completions") ≠ .ok v
  /-- Requests can be sent to the address of a call, unless the base has a loose end or a host that
  cannot be named, or the address is too long. -/
  address_iff : (∃ v, Http.address (a.endpoint.url "/chat/completions") = .ok v) ↔
    ¬Url.LooseEnd text.toList ∧ u.nameable = true ∧
      ∀ v, Url.parse (a.endpoint.url "/chat/completions") = .ok v →
        v.withoutUser.print.length ≤ Url.lengthLimit
  /-- Otherwise every call fails, and nothing is sent. -/
  fails : (∀ v, Http.address (a.endpoint.url "/chat/completions") ≠ .ok v) →
    ∀ c n polls, ∃ f n', (a.generate c).run (polls + 1) n = (.answered (.error f), n') ∧
      n'.received = n.received

theorem toList_url (h : a.endpoint.base = withoutTrailingSlashes text) :
    (a.endpoint.url "/chat/completions").toList =
      Text.dropEnd (· = '/') text.toList ++ '/' :: "chat/completions".toList := by
  rw [Endpoint.url, h, withoutTrailingSlashes, String.toList_append, String.toList_ofList]
  rfl

/-- A base that is accepted serves all calls if it has no loose end. -/
theorem ofModel_serves (hbase : m.setting? "base_url" = some text) (h : ofModel m = .ok a) :
    ∃ u, a.Serves text u := by
  obtain ⟨⟨u, hparse, hweb⟩, hurl, hmodel⟩ := ofModel_eq_ok hbase h
  obtain ⟨au, hau, hhas⟩ := Url.exists_hasAuthority hparse hweb
  have htext := toList_url hurl
  have hpath : ∀ c ∈ '/' :: "chat/completions".toList, ¬Low c := by
    have hall : ('/' :: "chat/completions".toList).all (fun c => !decide (Low c)) = true := by
      decide +kernel
    simpa using hall
  have hspoilt (hloose : Url.LooseEnd text.toList) (v : Url) :
      Url.parse (a.endpoint.url "/chat/completions") ≠ .ok v :=
    hhas.base_ne_ok hloose hpath htext v
  have husable (hfirm : ¬Url.LooseEnd text.toList) :
      ∃ v, Url.parse (a.endpoint.url "/chat/completions") = .ok v ∧ v.scheme = u.scheme ∧
        v.authority = some au :=
    Url.parse_of_hasAuthority (htext ▸ hhas.base hfirm hpath)
  refine ⟨u, hparse, Url.isWeb_iff.1 hweb, ?_, hspoilt, ?_, ?_⟩
  · constructor
    · rintro ⟨v, hv, -⟩ hloose
      exact hspoilt hloose v hv
    · intro hfirm
      obtain ⟨v, hv, hscheme, hauthority⟩ := husable hfirm
      refine ⟨v, hv, hscheme, ?_, ?_⟩
      · rw [Url.host, Url.host, hauthority, hau]
      · rw [Url.port, Url.port, hauthority, hau]
  · by_cases hloose : Url.LooseEnd text.toList
    · simp only [hloose, not_true_eq_false, false_and, iff_false]
      rintro ⟨w, haddress⟩
      obtain ⟨v, hv, -⟩ := address_eq_ok haddress
      exact hspoilt hloose v hv
    · -- base and address have one host, so that it can be named in both or in neither
      obtain ⟨v, hv, hscheme, hauthority⟩ := husable hloose
      obtain ⟨host, hhost⟩ := hhas.exists_host
      have hv_web : v.isWeb = true := by rwa [Url.isWeb_iff, hscheme, ← Url.isWeb_iff]
      have hv_host : v.host = some host := by rw [Url.host, hauthority, Option.bind_some, hhost]
      have hu_host : u.host = some host := by rw [Url.host, hau, Option.bind_some, hhost]
      have hnameable : v.nameable = u.nameable := by
        rw [Url.nameable, Url.nameable, hv_host, hu_host]
      rw [Http.exists_address_iff hv hv_web (by simp [hv_host]), hnameable]
      simp [hloose, hv]
  · exact run_generate_of_address hmodel

theorem ofModel_serves_local :
    let m : Model := ⟨default, "", "openai", "gpt-4o", .ofList
      [("api_key", .string "sk-test"), ("base_url", .string "http://localhost:8080/v1/")]⟩
    let a : Adapter := ⟨⟨"http://localhost:8080/v1", "sk-test"⟩, { model := some "gpt-4o" }⟩
    m.setting? "base_url" = some "http://localhost:8080/v1/" ∧ ofModel m = .ok a ∧
      ∃ u v, Url.parse "http://localhost:8080/v1/" = .ok u ∧
        Url.parse (a.endpoint.url "/chat/completions") = .ok v ∧ v.scheme = u.scheme ∧
          v.host = u.host ∧ v.port = u.port := by
  intro m a
  have hbase : m.setting? "base_url" = some "http://localhost:8080/v1/" := by decide +kernel
  have h : ofModel m = .ok a := by decide +kernel
  have hfirm : ¬Url.LooseEnd "http://localhost:8080/v1/".toList := by decide +kernel
  obtain ⟨u, hu⟩ := ofModel_serves hbase h
  obtain ⟨v, hv⟩ := hu.usable_iff.2 hfirm
  exact ⟨hbase, h, u, v, hu.parses, hv⟩

/-- The base `http://localhost` with a blank behind it is accepted, and no call can be made to
it. -/
theorem ofModel_looseEnd :
    let m : Model := ⟨default, "", "openai", "gpt-4o", .ofList
      [("api_key", .string "sk-test"), ("base_url", .string "http://localhost ")]⟩
    let a : Adapter := ⟨⟨"http://localhost ", "sk-test"⟩, { model := some "gpt-4o" }⟩
    m.setting? "base_url" = some "http://localhost " ∧ ofModel m = .ok a ∧
      Url.parse (a.endpoint.url "/chat/completions") = .error .invalidDomain ∧
        ∀ c n, ((a.generate c).run 1 n).1 =
          .answered (.error ⟨"builder error", .unknown, c.instructions, c.input⟩) := by
  intro m a
  have hheaders : a.endpoint.headers.toOption.isSome = true := by decide +kernel
  have haddress : Http.address (a.endpoint.url completionsPath) = .error .noUrl := by
    decide +kernel
  refine ⟨by decide +kernel, by decide +kernel, by decide +kernel, fun c n => ?_⟩
  rcases post_cases a (c.request "gpt-4o") with ⟨f, hf, -⟩ | ⟨hs, f, -, hf, hpost⟩ | ⟨p, hpost⟩
  · simp [hf, Except.toOption] at hheaders
  · cases haddress.symm.trans hf
    obtain ⟨n', hn', -⟩ := conclude_eq (outcome c (.error (.ofAddress .noUrl)))
      (n.note (requestEvents (c.request "gpt-4o")))
    have hfirst := (generate_eq (a := a) rfl (complete_zero_of_error n hpost)).trans hn'
    rw [Progress.run_of_answered hfirst 0]
    rfl
  · obtain ⟨-, -, hp, -⟩ := post_eq_ok hpost
    cases haddress.symm.trans hp

end Adapter

end Provider

end Parley
