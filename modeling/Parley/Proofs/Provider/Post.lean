import Parley.Proofs.Conversation.Replay
import Parley.Proofs.Provider.Exchange

/-!
# What a call sends

A request is posted with the first poll of a call, if at all (`Adapter.received_generate_zero`,
`Adapter.received_generate_succ`), whatever the provider does about it.

* `asks_payload` : what the body of a request says.
* `Adapter.run_generate_sends` : how many requests a call sends, and what they are (`Sends`).
-/

namespace Parley

open Json.Grammar Json.Printer

/-! ### Bodies -/

/-- The text is the entry of a turn in a body: an object of its role and its content. -/
def IsEntry (t : Turn) (e : Chars) : Prop :=
  ∃ r x, HasMembers [("role", r), ("content", x)] e ∧ IsString t.role.name r ∧
    IsString t.content x

/-- The text is the body of a request: an object of the model, the most tokens of the answer, the
temperature and the list of the turns in their order. -/
def Asks (model : String) (turns : List Turn) (maxTokens : UInt32) (body : Chars) : Prop :=
  ∃ m es ms, HasMembers
      [("messages", ms), ("model", m), ("max_tokens", Nat.toDigits 10 maxTokens.toNat),
        ("temperature", "0.000001".toList)] body ∧
    IsString model m ∧ List.Forall₂ IsEntry turns es ∧ IsList es ms

theorem isEntry_print (t : Turn) : IsEntry t t.print :=
  ⟨_, _, hasMembers_object _, isString_string _, isString_string _⟩

theorem asks_payload (r : Request) : Asks r.model r.turns r.maxTokens r.payload := by
  refine ⟨_, r.turns.map Turn.print, _, hasMembers_object _, isString_string _, ?_, isList_list _⟩
  rw [List.forall₂_map_right_iff, List.forall₂_same]
  exact fun t _ => isEntry_print t

namespace Provider

/-! ### Addresses -/

namespace Endpoint

theorem all_allowed_bearer : (Text.bytes "Bearer ").all Http.Header.allowed = true := by
  decide +kernel

/-- The key makes no header exactly if one of its bytes may not stand in one. -/
theorem headers_error_iff (e : Endpoint) :
    (∃ f, e.headers = .error f) ↔
      ∃ b ∈ Text.bytes e.key, Http.Header.allowed b = false := by
  have hvalue : Http.Header.valueOf? ("Bearer " ++ e.key) = none ↔
      ∃ b ∈ Text.bytes e.key, Http.Header.allowed b = false := by
    simp [Http.Header.valueOf?, Text.bytes_append, all_allowed_bearer]
  rw [← hvalue, headers]
  cases Http.Header.valueOf? ("Bearer " ++ e.key) <;> simp

end Endpoint

/-- A request goes to the URL that its address is, without a user name and password. -/
theorem address_eq_ok {text : String} {u : Url} (h : Http.address text = .ok u) :
    ∃ v, Url.parse text = .ok v ∧ (v.scheme = "http".toList ∨ v.scheme = "https".toList) ∧
      u = v.withoutUser := by
  have hweb := Url.isWeb_iff.1 (Http.isWeb_of_address h)
  unfold Http.address at h
  split at h
  · cases h
  · rename_i v hparse
    split at h
    · cases h
    · split at h
      · cases h
        rw [Url.scheme_withoutUser] at hweb
        exact ⟨v, hparse, hweb, rfl⟩
      · cases h

namespace Adapter

variable {a : Adapter} {c : Call} {n : Network}

/-! ### The request of a call -/

theorem post_eq_ok {r : Request} {p : Http.Post} (h : a.post r = .ok p) :
    ∃ hs, a.endpoint.headers = .ok hs ∧
      Http.address (a.endpoint.url completionsPath) = .ok p.url ∧ p.body = r.payload := by
  obtain ⟨hs, hheaders, h⟩ := bind_eq_ok_iff.1 h
  obtain ⟨u, haddress, h⟩ := bind_eq_ok_iff.1 h
  cases h
  refine ⟨hs, hheaders, ?_, rfl⟩
  cases hu : Http.address (a.endpoint.url completionsPath) with
  | error f =>
    rw [hu] at haddress
    cases haddress
  | ok v =>
    rw [hu] at haddress
    cases haddress
    rfl

/-- The request of a call goes to the path of the completions behind the base, and asks the model
for what the call is about. -/
theorem Posts.asks {p : Http.Post} (h : a.Posts c p) :
    ∃ u model, Url.parse (a.endpoint.base ++ "/chat/completions") = .ok u ∧
      (u.scheme = "http".toList ∨ u.scheme = "https".toList) ∧ p.url = u.withoutUser ∧
        a.options.model = some model ∧
          Asks model (conversation c.instructions c.input) c.maxTokens p.body := by
  obtain ⟨model, hmodel, hpost⟩ := h
  obtain ⟨hs, -, haddress, hbody⟩ := post_eq_ok hpost
  obtain ⟨u, hparse, hweb, hurl⟩ := address_eq_ok haddress
  refine ⟨u, model, hparse, hweb, hurl, hmodel, ?_⟩
  rw [hbody]
  exact asks_payload (c.request model)

/-! ### What polls send -/

theorem received_conclude (o : Outcome) (n : Network) : (conclude o n).2.received = n.received := by
  cases o <;> rfl

theorem received_await (a : Adapter) (p : Http.Post) (n : Network) :
    (a.await p n).2.received = n.received := by
  unfold await
  split
  · rfl
  · rfl
  · split <;> rfl
  · rfl

/-- A poll of a call with a model sends what the poll of its request sends. -/
theorem received_generate {model : String} (h : a.options.model = some model) (i : Nat)
    (n : Network) :
    (a.generate c i n).2.received = (a.complete (c.request model) i n).2.received := by
  rw [Call.request]
  simp only [generate, h]
  split
  · rename_i hc
    rw [hc]
  · rename_i hc
    rw [hc]
  · rename_i hc
    rw [received_conclude, hc]

theorem received_generate_of_noModel (h : a.options.model = none) (i : Nat) (n : Network) :
    (a.generate c i n).2.received = n.received := by
  simp only [generate, h]
  exact received_conclude _ n

/-- The first poll of a call sends its request, unless there is none or it cannot reach the
provider. -/
theorem received_generate_zero (a : Adapter) (c : Call) (n : Network) :
    ((a.generate c 0 n).2.received = n.received ∧
        ∀ p, a.Posts c p → n.behaviour p = .unreachable) ∨
      ∃ p, a.Posts c p ∧ (a.generate c 0 n).2.received = n.received ++ [p] := by
  cases hmodel : a.options.model with
  | none =>
    refine .inl ⟨received_generate_of_noModel hmodel 0 n, ?_⟩
    rintro p ⟨model, hsome, -⟩
    cases hmodel.symm.trans hsome
  | some model =>
    rw [received_generate hmodel]
    cases hpost : a.post (c.request model) with
    | error f =>
      rw [complete_zero_of_error n hpost]
      refine .inl ⟨rfl, ?_⟩
      rintro p ⟨model', hmodel', hp⟩
      cases hmodel.symm.trans hmodel'
      cases hpost.symm.trans hp
    | ok p =>
      have hp : a.Posts c p := ⟨model, hmodel, hpost⟩
      simp only [complete, hpost, if_true, send]
      split
      · rename_i hb
        exact .inl ⟨rfl, fun q hq => hp.eq hq ▸ hb⟩
      · exact .inr ⟨p, hp, rfl⟩

/-- All later polls of a call send nothing. -/
theorem received_generate_succ (a : Adapter) (c : Call) (i : Nat) (n : Network) :
    (a.generate c (i + 1) n).2.received = n.received := by
  cases hmodel : a.options.model with
  | none => exact received_generate_of_noModel hmodel (i + 1) n
  | some model =>
    rw [received_generate hmodel]
    simp only [complete, Nat.add_eq_zero_iff, Nat.succ_ne_self, and_false, if_false]
    cases hpost : a.post (c.request model) with
    | error f => rfl
    | ok p => exact received_await a p n

/-- All polls behind the first one send nothing. -/
theorem received_run (a : Adapter) (c : Call) (n : Network) (polls : Nat) :
    ((a.generate c).run (polls + 1) n).2.received = (a.generate c 0 n).2.received := by
  rw [Progress.run, Progress.runFrom]
  split
  · rename_i n' hwaiting
    rw [hwaiting]
    refine Progress.runFrom_invariant (P := fun (m : Network) => m.received = n'.received) ?_ polls
      rfl
    intro j m hj hm
    obtain ⟨i, rfl⟩ := Nat.exists_eq_add_of_le' hj
    rw [received_generate_succ, hm]
  · rfl

/-! ### What a call sends -/

/-- What a call has sent when it has led from one network to another. -/
structure Sends (a : Adapter) (c : Call) (n n' : Network) : Prop where
  /-- The call has sent one request at most. -/
  once : ∃ sent : List Http.Post, sent.length ≤ 1 ∧ n'.received = n.received ++ sent
  /-- Without a model to ask nothing is sent. -/
  noModel : a.options.model = none → n'.received = n.received
  /-- With a key that cannot stand in a header nothing is sent. -/
  badKey : (∃ b ∈ Text.bytes a.endpoint.key, Http.Header.allowed b = false) →
    n'.received = n.received
  /-- To an address that is no URL of the web nothing is sent. -/
  badAddress : (∀ u, Url.parse (a.endpoint.base ++ "/chat/completions") = .ok u →
    ¬(u.scheme = "http".toList ∨ u.scheme = "https".toList)) → n'.received = n.received
  /-- A request that can be made and can reach the provider is sent. -/
  reaches : ∀ p, a.Posts c p → n.behaviour p ≠ .unreachable → n'.received = n.received ++ [p]
  /-- What is sent is posted to the path of the completions behind the base, and asks the model for
  what the call is about. -/
  posted : ∀ p, n'.received = n.received ++ [p] →
    ∃ u model, Url.parse (a.endpoint.base ++ "/chat/completions") = .ok u ∧
      (u.scheme = "http".toList ∨ u.scheme = "https".toList) ∧ p.url = u.withoutUser ∧
        a.options.model = some model ∧
          Asks model (conversation c.instructions c.input) c.maxTokens p.body

theorem sends_of_nothing {n' : Network} (h : n'.received = n.received)
    (hreach : ∀ p, a.Posts c p → n.behaviour p = .unreachable) : a.Sends c n n' where
  once := ⟨[], by simp, by simpa using h⟩
  noModel _ := h
  badKey _ := h
  badAddress _ := h
  reaches p hp hb := absurd (hreach p hp) hb
  posted p hp := by simp [h] at hp

theorem Posts.sends {p : Http.Post} (hp : a.Posts c p) {n' : Network}
    (h : n'.received = n.received ++ [p]) : a.Sends c n n' := by
  obtain ⟨u, model, hparse, hweb, hurl, hmodel, hbody⟩ := hp.asks
  constructor
  case once => exact ⟨[p], by simp, h⟩
  case noModel =>
    intro hnone
    cases hnone.symm.trans hmodel
  case badKey =>
    intro hbad
    obtain ⟨f, hf⟩ := a.endpoint.headers_error_iff.2 hbad
    exact absurd hp (not_posts_of_headers hf p)
  case badAddress =>
    intro hbad
    exact absurd hweb (hbad u hparse)
  case reaches =>
    intro q hq _
    rw [h, hp.eq hq]
  case posted =>
    intro q hq
    cases List.append_cancel_left (h.symm.trans hq)
    exact ⟨u, model, hparse, hweb, hurl, hmodel, hbody⟩

/-- However often a call is polled and whatever the provider answers, the call sends one request at
most, and none that could not be one. -/
theorem run_generate_sends (a : Adapter) (c : Call) (n : Network) (polls : Nat) :
    a.Sends c n ((a.generate c).run (polls + 1) n).2 := by
  have hrun := received_run a c n polls
  rcases received_generate_zero a c n with ⟨h, hreach⟩ | ⟨p, hp, h⟩
  · exact sends_of_nothing (hrun.trans h) hreach
  · exact hp.sends (hrun.trans h)

end Adapter

end Provider

end Parley
