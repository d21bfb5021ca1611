import Parley.Proofs.Provider.Post

/-!
# What the key of an adapter shows in

Two adapters that differ only in their keys are run side by side against a provider that does not
look at who is asking.  As long as either both keys can stand in a header or neither can, nobody
but the provider can tell the two runs apart: the key shows in the authorization of the request and
nowhere else.

* `Network.Alike` : two networks that differ only in the authorization of what has been received.
* `Adapter.DifferInKey.generate`, `Adapter.DifferInKey.run_generate` : what a poll and a run keep
  (`Progress.runFrom_related`).
* `Adapter.run_generate_indistinct` : what cannot be told apart of a call to either adapter
  (`Adapter.Indistinct`).
-/

namespace Parley

namespace Http

/-- The request without the header that says who is asking. -/
def Post.anonymous (p : Post) : Post :=
  { p with headers := p.headers.filter fun h => h.name ≠ "authorization" }

theorem Post.url_eq_of_anonymous {p q : Post} (h : p.anonymous = q.anonymous) : p.url = q.url :=
  (congrArg Post.url h : p.anonymous.url = q.anonymous.url)

theorem Post.body_eq_of_anonymous {p q : Post} (h : p.anonymous = q.anonymous) :
    p.body = q.body := (congrArg Post.body h : p.anonymous.body = q.anonymous.body)

end Http

namespace Provider

/-! ### Networks -/

namespace Network

/-- The provider does not look at who is asking. -/
def Impartial (n : Network) : Prop :=
  ∀ p q : Http.Post, p.anonymous = q.anonymous → n.behaviour p = n.behaviour q

/-- The networks differ only in the authorization of the requests that have been received, at which
their provider does not look. -/
structure Alike (n m : Network) : Prop where
  /-- The provider is the same. -/
  behaviour : n.behaviour = m.behaviour
  /-- It does not look at who is asking. -/
  impartial : n.Impartial
  /-- The same requests have been received in the same order, up to their authorization. -/
  received : n.received.map (·.anonymous) = m.received.map (·.anonymous)
  /-- The same has been logged. -/
  log : n.log = m.log

variable {n m : Network}

/-- The provider treats requests that differ in their authorization alike. -/
theorem Alike.behaviour_eq (h : n.Alike m) {p q : Http.Post} (hpq : p.anonymous = q.anonymous) :
    n.behaviour p = m.behaviour q := by
  rw [h.impartial p q hpq, h.behaviour]

theorem Alike.note (h : n.Alike m) (events : List Log.Event) :
    (n.note events).Alike (m.note events) :=
  ⟨h.behaviour, h.impartial, h.received, congrArg (· ++ events) h.log⟩

theorem Alike.receive (h : n.Alike m) {p q : Http.Post} (hpq : p.anonymous = q.anonymous) :
    (n.receive p).Alike (m.receive q) := by
  refine ⟨h.behaviour, h.impartial, ?_, h.log⟩
  simp only [Network.receive, List.map_append, h.received, List.map_singleton, hpq]

end Network

namespace Endpoint

/-- The key may stand in a header. -/
def Presentable (e : Endpoint) : Prop :=
  ∀ b ∈ Text.bytes e.key, Http.Header.allowed b = true

/-- The headers of an endpoint are one authorization, unless its key cannot stand in one. -/
theorem headers_cases (e : Endpoint) :
    (e.Presentable ∧ ∃ value, e.headers = .ok [⟨"authorization", value, true⟩]) ∨
      (¬e.Presentable ∧ e.headers = .error (.invalidArgument "api key is not a valid header")) := by
  have hpresentable : e.Presentable ↔ ¬∃ f, e.headers = .error f := by
    rw [e.headers_error_iff, Presentable]
    simp
  rw [hpresentable, headers]
  cases Http.Header.valueOf? ("Bearer " ++ e.key) with
  | none => exact .inr ⟨by simp, rfl⟩
  | some value => exact .inl ⟨by simp, value, rfl⟩

end Endpoint

namespace Adapter

variable {a b : Adapter} {n m : Network}

/-- The adapters differ in their keys only, and either both keys can stand in a header or
neither. -/
structure DifferInKey (a b : Adapter) : Prop where
  /-- They talk to the same provider. -/
  base : a.endpoint.base = b.endpoint.base
  /-- They do the same with every call. -/
  options : a.options = b.options
  /-- Either both keys can stand in a header or neither. -/
  presentable : a.endpoint.Presentable ↔ b.endpoint.Presentable

theorem DifferInKey.endpoint (h : a.DifferInKey b) :
    a.endpoint = b.endpoint.withKey a.endpoint.key := by
  rw [Endpoint.withKey, ← h.base]

/-! ### The request -/

theorem post_of_headers {hs : List Http.Header} (h : a.endpoint.headers = .ok hs) (r : Request) :
    a.post r = ((Http.address (a.endpoint.url completionsPath)).mapError Fault.ofAddress).map
      fun u => ⟨u, jsonContent :: hs, r.payload⟩ := by
  rw [post, h]
  cases Http.address (a.endpoint.url completionsPath) <;> rfl

theorem post_of_headers_error {f : Fault} (h : a.endpoint.headers = .error f) (r : Request) :
    a.post r = .error f := by
  rw [post, h]
  rfl

/-- Either neither adapter can make the request, for the same reason, or both make the same one up
to its authorization. -/
theorem DifferInKey.post (h : a.DifferInKey b) (r : Request) :
    (∃ f, a.post r = .error f ∧ b.post r = .error f) ∨
      ∃ p q, a.post r = .ok p ∧ b.post r = .ok q ∧ p.anonymous = q.anonymous := by
  have hurl : a.endpoint.url completionsPath = b.endpoint.url completionsPath := by
    rw [h.endpoint, Endpoint.url_withKey]
  rcases a.endpoint.headers_cases with ⟨ha, v, hav⟩ | ⟨ha, hav⟩
  · obtain ⟨w, hbw⟩ : ∃ w, b.endpoint.headers = .ok [⟨"authorization", w, true⟩] := by
      rcases b.endpoint.headers_cases with ⟨-, hbw⟩ | ⟨hb, -⟩
      · exact hbw
      · exact absurd (h.presentable.1 ha) hb
    rw [post_of_headers hav, post_of_headers hbw, hurl]
    cases Http.address (b.endpoint.url completionsPath) with
    | error f => exact .inl ⟨_, rfl, rfl⟩
    | ok u =>
      have hanonymous (value : List UInt8) : Http.Post.anonymous
          ⟨u, [jsonContent, ⟨"authorization", value, true⟩], r.payload⟩ =
            ⟨u, [jsonContent], r.payload⟩ := by
        simp [Http.Post.anonymous, jsonContent]
      exact .inr ⟨_, _, rfl, rfl, (hanonymous v).trans (hanonymous w).symm⟩
  · obtain hbw : b.endpoint.headers = _ := by
      rcases b.endpoint.headers_cases with ⟨hb, -⟩ | ⟨-, hbw⟩
      · exact absurd (h.presentable.2 hb) ha
      · exact hbw
    exact .inl ⟨_, post_of_headers_error hav r, post_of_headers_error hbw r⟩

/-! ### The polls -/

theorem send_alike (h : n.Alike m) {p q : Http.Post} (hpq : p.anonymous = q.anonymous) :
    (send p n).1 = (send q m).1 ∧ (send p n).2.Alike (send q m).2 := by
  have hurl := Http.Post.url_eq_of_anonymous hpq
  unfold send
  rw [h.behaviour_eq hpq, hurl]
  cases m.behaviour q with
  | unreachable => exact ⟨rfl, h⟩
  | _ => exact ⟨rfl, h.receive hpq⟩

theorem DifferInKey.await (hab : a.DifferInKey b) (h : n.Alike m) {p q : Http.Post}
    (hpq : p.anonymous = q.anonymous) :
    (a.await p n).1 = (b.await q m).1 ∧ (a.await p n).2.Alike (b.await q m).2 := by
  have hurl := Http.Post.url_eq_of_anonymous hpq
  unfold Adapter.await
  rw [h.behaviour_eq hpq, hurl, hab.options]
  cases m.behaviour q with
  | unreachable => exact ⟨rfl, h⟩
  | hangsUp => exact ⟨rfl, h⟩
  | silent =>
    by_cases htimeout : b.options.timeout.isSome = true
    · simp only [htimeout, if_true]
      exact ⟨trivial, h⟩
    · simp only [htimeout]
      exact ⟨rfl, h⟩
  | answers status body whole => exact ⟨rfl, h.note _⟩

theorem DifferInKey.complete (hab : a.DifferInKey b) (h : n.Alike m) (r : Request) (i : Nat) :
    (a.complete r i n).1 = (b.complete r i m).1 ∧
      (a.complete r i n).2.Alike (b.complete r i m).2 := by
  have hnoted : (if i = 0 then n.note (requestEvents r) else n).Alike
      (if i = 0 then m.note (requestEvents r) else m) := by
    by_cases hi : i = 0
    · simp only [hi, if_true]
      exact h.note _
    · simp only [hi, if_false]
      exact h
  unfold Adapter.complete
  rcases hab.post r with ⟨f, ha, hb⟩ | ⟨p, q, ha, hb, hpq⟩
  · rw [ha, hb]
    exact ⟨rfl, hnoted⟩
  · rw [ha, hb]
    by_cases hi : i = 0
    · simp only [hi, if_true] at hnoted ⊢
      exact send_alike hnoted hpq
    · simp only [hi, if_false] at hnoted ⊢
      exact hab.await hnoted hpq

theorem conclude_alike (h : n.Alike m) (o : Outcome) :
    (conclude o n).1 = (conclude o m).1 ∧ (conclude o n).2.Alike (conclude o m).2 := by
  cases o with
  | ok x => exact ⟨rfl, h⟩
  | error f => exact ⟨rfl, h.note _⟩

/-- A poll of a call comes to the same with either adapter. -/
theorem DifferInKey.generate (hab : a.DifferInKey b) (c : Call) (i : Nat) (h : n.Alike m) :
    (a.generate c i n).1 = (b.generate c i m).1 ∧
      (a.generate c i n).2.Alike (b.generate c i m).2 := by
  unfold Adapter.generate
  rw [hab.options]
  cases b.options.model with
  | none => exact conclude_alike h _
  | some model =>
    obtain ⟨hpoll, hworlds⟩ :=
      hab.complete h (.ofPrompt model c.instructions c.input c.maxTokens) i
    simp only
    rcases hx : a.complete _ i n with ⟨x, n'⟩
    rcases hy : b.complete _ i m with ⟨y, m'⟩
    rw [hx, hy] at hpoll hworlds
    cases (hpoll : x = y)
    cases x with
    | waiting => exact ⟨rfl, hworlds⟩
    | broken reason => exact ⟨rfl, hworlds⟩
    | answered result => exact conclude_alike hworlds _

/-! ### The call -/

/-- A call to either adapter comes to the same, and leaves networks that differ only in the
authorization of what has been received. -/
theorem DifferInKey.run_generate (hab : a.DifferInKey b) (c : Call) (h : n.Alike m) (polls : Nat) :
    ((a.generate c).run polls n).1 = ((b.generate c).run polls m).1 ∧
      ((a.generate c).run polls n).2.Alike ((b.generate c).run polls m).2 :=
  Progress.runFrom_related (R := Network.Alike) (fun i _ _ h => hab.generate c i h) 0 polls h

/-- What cannot be told apart of two adapters, by a call to either of them in the same network. -/
structure Indistinct (a b : Adapter) (c : Call) (n : Network) (polls : Nat) : Prop where
  /-- The call ends with the same outcome, or goes on with both. -/
  outcome : ((a.generate c).run polls n).1 = ((b.generate c).run polls n).1
  /-- As many requests are sent, to the same URL and with the same body and other headers. -/
  sent : ∃ ps qs, ((a.generate c).run polls n).2.received = n.received ++ ps ∧
    ((b.generate c).run polls n).2.received = n.received ++ qs ∧
      List.Forall₂ (fun p q => p.url = q.url ∧ p.body = q.body ∧ p.anonymous = q.anonymous) ps qs
  /-- The same is logged. -/
  log : ((a.generate c).run polls n).2.log = ((b.generate c).run polls n).2.log
  /-- The endpoints look the same. -/
  description : a.endpoint.describe = b.endpoint.describe

/-- Keys that can both stand in a header, or neither, make no difference but in the authorization
of requests. -/
theorem run_generate_indistinct (hab : a.DifferInKey b) (himpartial : n.Impartial) (c : Call)
    (polls : Nat) : a.Indistinct b c n (polls + 1) := by
  obtain ⟨houtcome, halike⟩ :=
    hab.run_generate c ⟨rfl, himpartial, rfl, rfl⟩ (polls + 1)
  obtain ⟨ps, -, hps⟩ := (run_generate_sends a c n polls).once
  obtain ⟨qs, -, hqs⟩ := (run_generate_sends b c n polls).once
  have hmap : ps.map (·.anonymous) = qs.map (·.anonymous) := by
    have hreceived := halike.received
    rw [hps, hqs, List.map_append, List.map_append] at hreceived
    exact List.append_cancel_left hreceived
  have hsent : List.Forall₂ (fun p q => p.anonymous = q.anonymous) ps qs := by
    rwa [← List.forall₂_eq_eq_eq, List.forall₂_map_left_iff, List.forall₂_map_right_iff] at hmap
  constructor
  case outcome => exact houtcome
  case sent =>
    have hsame (p q : Http.Post) (hpq : p.anonymous = q.anonymous) :
        p.url = q.url ∧ p.body = q.body ∧ p.anonymous = q.anonymous :=
      ⟨Http.Post.url_eq_of_anonymous hpq, Http.Post.body_eq_of_anonymous hpq, hpq⟩
    exact ⟨ps, qs, hps, hqs, hsent.imp hsame⟩
  case log => exact halike.log
  case description => rw [hab.endpoint, Endpoint.describe_withKey]

/-- With either of two keys a call to a provider that wants fewer calls fails in the same way. -/
theorem run_generate_indistinct_keys :
    let a : Adapter := ⟨⟨"http://localhost", "sk-one"⟩, { model := some "m" }⟩
    let b : Adapter := ⟨⟨"http://localhost", "sk-two"⟩, { model := some "m" }⟩
    let n : Network := { behaviour := fun p =>
      if p.body.length < 1000 then .answers ⟨429, by omega⟩ [] true else .silent }
    a.DifferInKey b ∧ n.Impartial ∧ ∀ c : Call,
      ((a.generate c).run 2 n).1 = ((b.generate c).run 2 n).1 ∧
        ((a.generate c).run 2 n).2.received.length =
          ((b.generate c).run 2 n).2.received.length := by
  intro a b n
  have hab : a.DifferInKey b := by
    refine ⟨rfl, rfl, iff_of_true ?_ ?_⟩
    · unfold Endpoint.Presentable
      decide +kernel
    · unfold Endpoint.Presentable
      decide +kernel
  have himpartial : n.Impartial := by
    intro p q hpq
    simp only [n, Http.Post.body_eq_of_anonymous hpq]
  refine ⟨hab, himpartial, fun c => ?_⟩
  obtain ⟨houtcome, ⟨ps, qs, hps, hqs, hsent⟩, -, -⟩ := run_generate_indistinct hab himpartial c 1
  refine ⟨houtcome, ?_⟩
  rw [hps, hqs, List.length_append, List.length_append, hsent.length_eq]

end Adapter

end Provider

end Parley
