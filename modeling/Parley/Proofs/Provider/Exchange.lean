import Parley.Proofs.Service.Progress
import Parley.Provider.Exchange

/-!
# How a call to a provider ends

A call ends in one of three ways (`Adapter.Ends`): there is no model to ask, something goes wrong on
the way to the provider and back (`Adapter.FailsBy`, one case for each place), or a reply has been
read.

* `Adapter.run_generate_ends` : a call that is polled twice has ended in one of these ways, unless
  it waits without a limit for a provider that stays silent.
* `Adapter.run_generate_settled` : what a caller may conclude from the outcome (`Adapter.Settled`).
-/

namespace Parley

/-! ### Codes of statuses -/

namespace FailureCode

variable {s : Option Nat}

theorem ofStatus_eq_credentials_iff : ofStatus s = .credentials ↔ s = some 401 := by
  unfold ofStatus
  split
  · simp_all
  · split <;> simp_all

theorem ofStatus_eq_rateLimit_iff : ofStatus s = .rateLimit ↔ s = some 429 := by
  unfold ofStatus
  split
  · simp_all
  · split <;> simp_all

theorem ofStatus_eq_unknown_iff : ofStatus s = .unknown ↔ s ≠ some 401 ∧ s ≠ some 429 := by
  unfold ofStatus
  split
  · simp_all
  · split <;> simp_all

end FailureCode

/-- The request of a call to a model. -/
def Call.request (c : Call) (model : String) : Request :=
  .ofPrompt model c.instructions c.input c.maxTokens

namespace Provider

namespace Adapter

variable {a : Adapter} {c : Call} {n : Network}

/-! ### What happens to a call -/

/-- The call asks a model, with the request `p`. -/
def Posts (a : Adapter) (c : Call) (p : Http.Post) : Prop :=
  ∃ model, a.options.model = some model ∧ a.post (c.request model) = .ok p

/-- An answer to the request of the call arrives: its status, the bytes of its body, and whether
they are the whole of it. -/
def Arrives (a : Adapter) (c : Call) (n : Network) (status : Http.Status) (body : List UInt8)
    (whole : Bool) : Prop :=
  ∃ p, a.Posts c p ∧ n.behaviour p = .answers status body whole

/-- What goes wrong on the way to the provider and back. -/
inductive FailsBy (a : Adapter) (c : Call) (n : Network) : Fault → Prop
  /-- The key cannot stand in a header. -/
  | key {model : String} {f : Fault} :
      a.options.model = some model → a.endpoint.headers = .error f → FailsBy a c n f
  /-- The address is none. -/
  | address {model : String} {hs : List Http.Header} {f : Http.AddressFault} :
      a.options.model = some model → a.endpoint.headers = .ok hs →
        Http.address (a.endpoint.url completionsPath) = .error f → FailsBy a c n (.ofAddress f)
  /-- No answer comes. -/
  | unanswered {p : Http.Post} :
      a.Posts c p → (∀ status body whole, n.behaviour p ≠ .answers status body whole) →
        FailsBy a c n (.transport (.unanswered p.url.toText))
  /-- The provider complains. -/
  | status {status : Http.Status} {body : List UInt8} {whole : Bool} :
      a.Arrives c n status body whole → status.isSuccess = false →
        FailsBy a c n (.ofAnswer status ((bodyText body whole).getD ""))
  /-- The answer breaks off. -/
  | cutShort {status : Http.Status} {body : List UInt8} :
      a.Arrives c n status body false → status.isSuccess = true →
        FailsBy a c n (.transport .cutShort)
  /-- The answer makes no sense. -/
  | json {status : Http.Status} {body : List UInt8} {e : Json.Error} :
      a.Arrives c n status body true → status.isSuccess = true →
        Reply.parse (String.ofList (Text.lossy body)) = .error e → FailsBy a c n (.json e)

/-- How a call ends, and which requests have reached the provider then. -/
inductive Ends (a : Adapter) (c : Call) (n : Network) : Outcome → List Http.Post → Prop
  /-- There is no model to ask. -/
  | noModel : a.options.model = none → Ends a c n (.error (modelNotSet c)) n.received
  /-- Something goes wrong. -/
  | fault {f : Fault} {received : List Http.Post} :
      FailsBy a c n f → Ends a c n (.error (f.toFailure c.instructions c.input)) received
  /-- A reply has been read. -/
  | reply {p : Http.Post} {status : Http.Status} {body : List UInt8} {r : Reply} :
      a.Posts c p → n.behaviour p = .answers status body true → status.isSuccess = true →
        Reply.parse (String.ofList (Text.lossy body)) = .ok r →
          Ends a c n (.ok r.completion) (n.received ++ [p])

theorem Posts.eq {p q : Http.Post} (hp : a.Posts c p) (hq : a.Posts c q) : p = q := by
  obtain ⟨model, hmodel, hp⟩ := hp
  obtain ⟨model', hmodel', hq⟩ := hq
  cases hmodel.symm.trans hmodel'
  cases hp.symm.trans hq
  rfl

theorem Posts.arrives_iff {p : Http.Post} (hp : a.Posts c p) {status : Http.Status}
    {body : List UInt8} {whole : Bool} :
    a.Arrives c n status body whole ↔ n.behaviour p = .answers status body whole := by
  constructor
  · rintro ⟨q, hq, hb⟩
    rwa [hp.eq hq]
  · intro hb
    exact ⟨p, hp, hb⟩

/-- At most one answer arrives. -/
theorem Arrives.eq {status status' : Http.Status} {body body' : List UInt8} {whole whole' : Bool}
    (h : a.Arrives c n status body whole) (h' : a.Arrives c n status' body' whole') :
    status' = status ∧ body' = body ∧ whole' = whole := by
  obtain ⟨p, hp, hb⟩ := h
  have hb' := hp.arrives_iff.1 h'
  cases hb.symm.trans hb'
  exact ⟨rfl, rfl, rfl⟩

/-- The post of a request can be made, or the key or the address is at fault. -/
theorem post_cases (a : Adapter) (r : Request) :
    (∃ f, a.endpoint.headers = .error f ∧ a.post r = .error f) ∨
      (∃ hs f, a.endpoint.headers = .ok hs ∧
        Http.address (a.endpoint.url completionsPath) = .error f ∧
        a.post r = .error (.ofAddress f)) ∨ ∃ p, a.post r = .ok p := by
  cases hheaders : a.endpoint.headers with
  | error f =>
    refine .inl ⟨f, rfl, ?_⟩
    rw [post, hheaders]
    rfl
  | ok hs =>
    cases haddress : Http.address (a.endpoint.url completionsPath) with
    | error f =>
      refine .inr (.inl ⟨hs, f, rfl, rfl, ?_⟩)
      rw [post, hheaders, haddress]
      rfl
    | ok u =>
      refine .inr (.inr ⟨⟨u, jsonContent :: hs, r.payload⟩, ?_⟩)
      rw [post, hheaders, haddress]
      rfl

theorem not_posts_of_headers {f : Fault} (h : a.endpoint.headers = .error f) (p : Http.Post) :
    ¬a.Posts c p := by
  rintro ⟨model, -, hp⟩
  rw [post, h] at hp
  cases hp

theorem not_posts_of_address {hs : List Http.Header} {f : Http.AddressFault}
    (hheaders : a.endpoint.headers = .ok hs)
    (haddress : Http.address (a.endpoint.url completionsPath) = .error f) (p : Http.Post) :
    ¬a.Posts c p := by
  rintro ⟨model, -, hp⟩
  rw [post, hheaders, haddress] at hp
  cases hp

/-! ### How a call ends -/

theorem conclude_eq (o : Outcome) (n : Network) :
    ∃ n', conclude o n = (.answered o, n') ∧ n'.received = n.received := by
  cases o with
  | ok x => exact ⟨n, rfl, rfl⟩
  | error f => exact ⟨n.note [.failure f.message], rfl, rfl⟩

theorem generate_eq {model : String} (h : a.options.model = some model) {i : Nat}
    {n' : Network} {result : Except Fault Completion}
    (hc : a.complete (c.request model) i n = (.answered result, n')) :
    a.generate c i n = conclude (outcome c result) n' := by
  rw [Call.request] at hc
  simp only [generate, h, hc]

theorem generate_waiting {model : String} (h : a.options.model = some model) {i : Nat}
    {n' : Network} (hc : a.complete (c.request model) i n = (.waiting, n')) :
    a.generate c i n = (.waiting, n') := by
  rw [Call.request] at hc
  simp only [generate, h, hc]

/-- An answer is a reply or goes wrong in one of three ways. -/
theorem ends_of_answers {p : Http.Post} (hp : a.Posts c p) {status : Http.Status}
    {body : List UInt8} {whole : Bool} (hb : n.behaviour p = .answers status body whole) :
    a.Ends c n
      (outcome c ((Reply.ofAnswer status (bodyText body whole)).map (·.completion)))
      (n.received ++ [p]) := by
  have harrives : a.Arrives c n status body whole := ⟨p, hp, hb⟩
  unfold Reply.ofAnswer
  split
  · rename_i hsuccess
    cases whole with
    | false => exact .fault (.cutShort harrives hsuccess)
    | true =>
      simp only [bodyText, if_true]
      cases hparse : Reply.parse (String.ofList (Text.lossy body)) with
      | error e => exact .fault (.json harrives hsuccess hparse)
      | ok r => exact .reply hp hb hsuccess hparse
  · rename_i hsuccess
    exact .fault (.status harrives (by simpa using hsuccess))

/-- A call whose first poll goes wrong has failed. -/
theorem run_of_fails {model : String} (hmodel : a.options.model = some model) {f : Fault}
    (hf : FailsBy a c n f) {m : Network}
    (hc : a.complete (c.request model) 0 n = (.answered (.error f), m)) (polls : Nat) :
    ∃ o n', (a.generate c).run (polls + 1) n = (.answered o, n') ∧ a.Ends c n o n'.received := by
  obtain ⟨n', hn', -⟩ := conclude_eq (outcome c (.error f)) m
  have hfirst := (generate_eq hmodel hc).trans hn'
  exact ⟨_, n', Progress.run_of_answered hfirst polls, .fault hf⟩

/-- A request that can be posted reaches the provider with the first poll. -/
theorem exists_received {model : String} (hmodel : a.options.model = some model) {p : Http.Post}
    (hpost : a.post (c.request model) = .ok p) (hp : n.behaviour p ≠ .unreachable) :
    ∃ m, a.generate c 0 n = (.waiting, m) ∧ m.behaviour = n.behaviour ∧
      m.received = n.received ++ [p] := by
  refine ⟨(n.note (requestEvents (c.request model))).receive p, ?_, rfl, rfl⟩
  refine generate_waiting hmodel ?_
  simp only [complete, if_true, hpost, send]
  split
  · exact absurd ‹_› hp
  · rfl

/-- A call whose request has reached the provider ends with its second poll. -/
theorem run_of_received {model : String} (hmodel : a.options.model = some model) {p : Http.Post}
    (hpost : a.post (c.request model) = .ok p) {m m' : Network}
    (hfirst : a.generate c 0 n = (.waiting, m)) {result : Except Fault Completion}
    (hawait : a.await p m = (.answered result, m')) (hm : m'.received = n.received ++ [p])
    (he : a.Ends c n (outcome c result) (n.received ++ [p])) (polls : Nat) :
    ∃ o n', (a.generate c).run (polls + 2) n = (.answered o, n') ∧ a.Ends c n o n'.received := by
  have hc : a.complete (c.request model) 1 m = (.answered result, m') := by
    simpa [complete, hpost] using hawait
  obtain ⟨n', hn', hreceived⟩ := conclude_eq (outcome c result) m'
  have hlast := (generate_eq hmodel hc).trans hn'
  refine ⟨_, n', Progress.run_of_waiting hfirst hlast polls, ?_⟩
  rwa [hreceived, hm]

/-- A call that is polled twice has ended, unless the provider stays silent and the call has no
timeout. -/
theorem run_generate_ends (a : Adapter) (c : Call) (n : Network)
    (hsilent : ∀ p, a.Posts c p → n.behaviour p = .silent → a.options.timeout.isSome)
    (polls : Nat) :
    ∃ o n', (a.generate c).run (polls + 2) n = (.answered o, n') ∧ a.Ends c n o n'.received := by
  cases hmodel : a.options.model with
  | none =>
    obtain ⟨n', hn', hreceived⟩ := conclude_eq (.error (modelNotSet c)) n
    have hfirst : a.generate c 0 n = (.answered (.error (modelNotSet c)), n') := by
      simp only [generate, hmodel, hn']
    exact ⟨_, n', Progress.run_of_answered hfirst (polls + 1), hreceived ▸ .noModel hmodel⟩
  | some model =>
    rcases post_cases a (c.request model) with ⟨f, hheaders, hpost⟩ |
      ⟨hs, f, hheaders, haddress, hpost⟩ | ⟨p, hpost⟩
    · exact run_of_fails hmodel (.key hmodel hheaders) (complete_zero_of_error n hpost) (polls + 1)
    · exact run_of_fails hmodel (.address hmodel hheaders haddress)
        (complete_zero_of_error n hpost) (polls + 1)
    have hp : a.Posts c p := ⟨model, hmodel, hpost⟩
    by_cases hunreachable : n.behaviour p = .unreachable
    · have hc : a.complete (c.request model) 0 n =
          (.answered (.error (.transport (.unanswered p.url.toText))),
            n.note (requestEvents (c.request model))) := by
        have hnote : (n.note (requestEvents (c.request model))).behaviour p = .unreachable :=
          hunreachable
        simp [complete, hpost, send, hnote]
      exact run_of_fails hmodel (.unanswered hp (by simp [hunreachable])) hc (polls + 1)
    -- the provider has the request after the first poll, and its answer decides the second
    obtain ⟨m, hfirst, hbehaviour, hm⟩ := exists_received hmodel hpost hunreachable
    have hunanswered (h : ∀ status body whole, n.behaviour p ≠ .answers status body whole) :
        a.Ends c n (outcome c (.error (.transport (.unanswered p.url.toText))))
          (n.received ++ [p]) := .fault (.unanswered hp h)
    cases hb : n.behaviour p with
    | unreachable => exact absurd hb hunreachable
    | hangsUp =>
      have hawait : a.await p m =
          (.answered (.error (.transport (.unanswered p.url.toText))), m) := by
        simp [await, hbehaviour, hb]
      exact run_of_received hmodel hpost hfirst hawait hm (hunanswered (by simp [hb])) polls
    | silent =>
      have hawait : a.await p m =
          (.answered (.error (.transport (.unanswered p.url.toText))), m) := by
        simp [await, hbehaviour, hb, hsilent p hp hb]
      exact run_of_received hmodel hpost hfirst hawait hm (hunanswered (by simp [hb])) polls
    | answers status body whole =>
      have hawait : a.await p m =
          (.answered ((Reply.ofAnswer status (bodyText body whole)).map (·.completion)),
            m.note (answerEvents status (bodyText body whole))) := by
        simp [await, hbehaviour, hb]
      exact run_of_received hmodel hpost hfirst hawait hm (ends_of_answers hp hb) polls

/-! ### What a caller may conclude -/

/-- What the outcome of a call tells about the call. -/
structure Settled (a : Adapter) (c : Call) (n : Network) (o : Outcome) (received : List Http.Post) :
    Prop where
  /-- The call succeeds exactly if its request has reached the provider and the whole of a reply
  has come back with a status from 200 to 299. -/
  ok_iff : ∀ x, o = .ok x ↔ ∃ p status body r, a.Posts c p ∧ received = n.received ++ [p] ∧
    n.behaviour p = .answers status body true ∧ (200 ≤ status.number ∧ status.number < 300) ∧
      Reply.parse (String.ofList (Text.lossy body)) = .ok r ∧ x = r.completion
  /-- The credentials are rejected exactly by the status 401. -/
  credentials_iff : (∃ f, o = .error f ∧ f.code = .credentials) ↔
    ∃ status body whole, a.Arrives c n status body whole ∧ status.number = 401
  /-- Fewer calls are wanted exactly by the status 429. -/
  rateLimit_iff : (∃ f, o = .error f ∧ f.code = .rateLimit) ↔
    ∃ status body whole, a.Arrives c n status body whole ∧ status.number = 429
  /-- Every other failure has the code of unknown failures. -/
  unknown_iff : (∃ f, o = .error f ∧ f.code = .unknown) ↔ (∀ x, o ≠ .ok x) ∧
    ∀ status body whole, a.Arrives c n status body whole →
      status.number ≠ 401 ∧ status.number ≠ 429
  /-- A failure keeps what the call was about. -/
  context : ∀ f, o = .error f → f.instructions = c.instructions ∧ f.input = c.input
  /-- A failure says that there is no model, or what went wrong. -/
  message : ∀ f, o = .error f → a.options.model = none ∧ f.message = "Model not set" ∨
    ∃ fault, FailsBy a c n fault ∧ f.message = fault.message

theorem isSuccess_iff {status : Http.Status} :
    status.isSuccess = true ↔ 200 ≤ status.number ∧ status.number < 300 := by
  simp [Http.Status.isSuccess]

theorem not_arrives_of_not_posts (h : ∀ p, ¬a.Posts c p) {status : Http.Status}
    {body : List UInt8} {whole : Bool} : ¬a.Arrives c n status body whole := by
  rintro ⟨p, hp, -⟩
  exact h p hp

theorem not_arrives_of_unanswered {p : Http.Post} (hp : a.Posts c p)
    (h : ∀ status body whole, n.behaviour p ≠ .answers status body whole) {status : Http.Status}
    {body : List UInt8} {whole : Bool} : ¬a.Arrives c n status body whole := by
  rw [hp.arrives_iff]
  exact h status body whole

theorem status?_of_headers {e : Endpoint} {f : Fault} (h : e.headers = .error f) :
    f.status? = none := by
  unfold Endpoint.headers at h
  split at h
  · cases h
  · cases h
    rfl

theorem status?_ofAddress (f : Http.AddressFault) : (Fault.ofAddress f).status? = none := by
  cases f <;> rfl

/-- A fault has the status that has arrived, unless the status is one of success. -/
theorem FailsBy.status_eq_iff {f : Fault} (hf : FailsBy a c n f) {k : Nat}
    (hk : ¬(200 ≤ k ∧ k < 300)) : f.status?.map (·.number) = some k ↔
      ∃ status body whole, a.Arrives c n status body whole ∧ status.number = k := by
  -- where no answer arrives, and where one of success does, there is no status to compare
  have hnone {g : Fault} (hg : g.status? = none)
      (h : ∀ status body whole, ¬a.Arrives c n status body whole) :
      g.status?.map (·.number) = some k ↔
        ∃ status body whole, a.Arrives c n status body whole ∧ status.number = k := by
    simp [hg, h]
  have hsuccess {g : Fault} (hg : g.status? = none) {status : Http.Status} {body : List UInt8}
      {whole : Bool} (h : a.Arrives c n status body whole) (hs : status.isSuccess = true) :
      g.status?.map (·.number) = some k ↔
        ∃ status body whole, a.Arrives c n status body whole ∧ status.number = k := by
    simp only [hg, Option.map_none, reduceCtorEq, false_iff]
    rintro ⟨status', body', whole', h', rfl⟩
    obtain ⟨rfl, -, -⟩ := h.eq h'
    exact hk (isSuccess_iff.1 hs)
  cases hf with
  | key hmodel hheaders =>
    exact hnone (status?_of_headers hheaders) fun _ _ _ =>
      not_arrives_of_not_posts (not_posts_of_headers hheaders)
  | address hmodel hheaders haddress =>
    exact hnone (status?_ofAddress _) fun _ _ _ =>
      not_arrives_of_not_posts (not_posts_of_address hheaders haddress)
  | unanswered hp h => exact hnone rfl fun _ _ _ => not_arrives_of_unanswered hp h
  | @status status body whole h hs =>
    simp only [Fault.ofAnswer, Fault.status?, Option.map_some, Option.some.injEq]
    constructor
    · rintro rfl
      exact ⟨status, body, whole, h, rfl⟩
    · rintro ⟨status', body', whole', h', rfl⟩
      obtain ⟨rfl, -, -⟩ := h.eq h'
      rfl
  | cutShort h hs => exact hsuccess rfl h hs
  | json h hs hparse => exact hsuccess rfl h hs

/-- No call that fails has got a reply. -/
theorem FailsBy.parse_ne_ok {f : Fault} (hf : FailsBy a c n f) {status : Http.Status}
    {body : List UInt8} (h : a.Arrives c n status body true) (hsuccess : status.isSuccess = true)
    (r : Reply) : Reply.parse (String.ofList (Text.lossy body)) ≠ .ok r := by
  intro hr
  cases hf with
  | key hmodel hheaders => exact not_arrives_of_not_posts (not_posts_of_headers hheaders) h
  | address hmodel hheaders haddress =>
    exact not_arrives_of_not_posts (not_posts_of_address hheaders haddress) h
  | unanswered hp hnone => exact not_arrives_of_unanswered hp hnone h
  | status h' hs =>
    obtain ⟨rfl, -, -⟩ := h'.eq h
    simp [hs] at hsuccess
  | cutShort h' hs =>
    obtain ⟨-, -, hwhole⟩ := h'.eq h
    cases hwhole
  | json h' hs hparse =>
    obtain ⟨-, rfl, -⟩ := h'.eq h
    cases hparse.symm.trans hr

theorem settled_of_noModel (h : a.options.model = none) (received : List Http.Post) :
    a.Settled c n (.error (modelNotSet c)) received := by
  have hposts (p : Http.Post) : ¬a.Posts c p := by
    rintro ⟨model, hmodel, -⟩
    cases h.symm.trans hmodel
  have harrives (status : Http.Status) (body : List UInt8) (whole : Bool) :
      ¬a.Arrives c n status body whole := not_arrives_of_not_posts hposts
  constructor
  case ok_iff => simp [hposts]
  case credentials_iff => simp [harrives, modelNotSet]
  case rateLimit_iff => simp [harrives, modelNotSet]
  case unknown_iff => simp [harrives, modelNotSet]
  case context =>
    rintro f ⟨⟩
    exact ⟨rfl, rfl⟩
  case message =>
    rintro f ⟨⟩
    exact .inl ⟨h, rfl⟩

theorem FailsBy.settled {f : Fault} (hf : FailsBy a c n f) (received : List Http.Post) :
    a.Settled c n (.error (f.toFailure c.instructions c.input)) received := by
  have hcredentials := hf.status_eq_iff (k := 401) (by omega)
  have hrateLimit := hf.status_eq_iff (k := 429) (by omega)
  constructor
  case ok_iff =>
    simp only [reduceCtorEq, false_iff]
    rintro x ⟨p, status, body, r, hp, -, hb, hs, hr, -⟩
    exact hf.parse_ne_ok ⟨p, hp, hb⟩ (isSuccess_iff.2 hs) r hr
  case credentials_iff =>
    simp [Fault.toFailure_code, FailureCode.ofStatus_eq_credentials_iff, hcredentials]
  case rateLimit_iff =>
    simp [Fault.toFailure_code, FailureCode.ofStatus_eq_rateLimit_iff, hrateLimit]
  case unknown_iff =>
    simp only [Except.error.injEq, exists_eq_left', Fault.toFailure_code,
      FailureCode.ofStatus_eq_unknown_iff, ne_eq, hcredentials, hrateLimit]
    constructor
    · rintro ⟨h401, h429⟩
      refine ⟨by simp, fun status body whole h => ⟨?_, ?_⟩⟩
      · exact fun hnumber => h401 ⟨status, body, whole, h, hnumber⟩
      · exact fun hnumber => h429 ⟨status, body, whole, h, hnumber⟩
    · rintro ⟨-, hnone⟩
      constructor
      · rintro ⟨status, body, whole, h, hnumber⟩
        exact (hnone status body whole h).1 hnumber
      · rintro ⟨status, body, whole, h, hnumber⟩
        exact (hnone status body whole h).2 hnumber
  case context =>
    rintro _ ⟨⟩
    exact ⟨rfl, rfl⟩
  case message =>
    rintro _ ⟨⟩
    exact .inr ⟨f, hf, rfl⟩

theorem settled_of_reply {p : Http.Post} {status : Http.Status} {body : List UInt8} {r : Reply}
    (hp : a.Posts c p) (hb : n.behaviour p = .answers status body true)
    (hs : status.isSuccess = true) (hr : Reply.parse (String.ofList (Text.lossy body)) = .ok r) :
    a.Settled c n (.ok r.completion) (n.received ++ [p]) := by
  have hs' := isSuccess_iff.1 hs
  have harrives : a.Arrives c n status body true := ⟨p, hp, hb⟩
  have hother {k : Nat} (hk : ¬(200 ≤ k ∧ k < 300)) :
      ¬∃ status body whole, a.Arrives c n status body whole ∧ status.number = k := by
    rintro ⟨status', body', whole', h, rfl⟩
    obtain ⟨rfl, -, -⟩ := harrives.eq h
    exact hk hs'
  constructor
  case ok_iff =>
    intro x
    constructor
    · rintro ⟨⟩
      exact ⟨p, status, body, r, hp, rfl, hb, hs', hr, rfl⟩
    · rintro ⟨q, status', body', r', hq, -, hb', -, hr', rfl⟩
      obtain ⟨rfl, rfl, -⟩ := harrives.eq ⟨q, hq, hb'⟩
      cases hr.symm.trans hr'
      rfl
  case credentials_iff => simpa using hother (k := 401) (by omega)
  case rateLimit_iff => simpa using hother (k := 429) (by omega)
  case unknown_iff => simp
  case context => simp
  case message => simp

/-- However a call ends, its outcome tells what has happened to it. -/
theorem Ends.settled {o : Outcome} {received : List Http.Post} (h : a.Ends c n o received) :
    a.Settled c n o received := by
  cases h with
  | noModel hmodel => exact settled_of_noModel hmodel _
  | fault hf => exact hf.settled received
  | reply hp hb hs hr => exact settled_of_reply hp hb hs hr

/-- A call that is polled twice ends, and its outcome tells what has happened to it; only where the
provider stays silent a timeout is needed for that. -/
theorem run_generate_settled (a : Adapter) (c : Call) (n : Network)
    (hsilent : ∀ p, a.Posts c p → n.behaviour p = .silent → a.options.timeout.isSome)
    (polls : Nat) :
    ∃ o n', (a.generate c).run (polls + 2) n = (.answered o, n') ∧
      a.Settled c n o n'.received := by
  obtain ⟨o, n', hrun, hends⟩ := run_generate_ends a c n hsilent polls
  exact ⟨o, n', hrun, hends.settled⟩

theorem run_generate_settled_timeout :
    let a : Adapter := ⟨.ofKey "sk-test", { model := some "m", timeout := some 1000 }⟩
    let c : Call := ⟨"be brief", "hi", 5⟩
    let n : Network := { behaviour := fun _ => .silent }
    (∀ p, a.Posts c p → n.behaviour p = .silent → a.options.timeout.isSome) ∧
      ∃ f n', (a.generate c).run 2 n = (.answered (.error f), n') ∧ f.code = .unknown ∧
        f.instructions = "be brief" ∧ f.input = "hi" := by
  intro a c n
  have hsilent : ∀ p, a.Posts c p → n.behaviour p = .silent → a.options.timeout.isSome :=
    fun _ _ _ => rfl
  obtain ⟨o, n', hrun, hsettled⟩ := run_generate_settled a c n hsilent 0
  have hok : ∀ x, o ≠ .ok x := by
    intro x hx
    obtain ⟨p, status, body, r, -, -, hb, -⟩ := (hsettled.ok_iff x).1 hx
    cases hb
  have harrives : ∀ status body whole, a.Arrives c n status body whole →
      status.number ≠ 401 ∧ status.number ≠ 429 := by
    rintro status body whole ⟨p, -, hb⟩
    cases hb
  obtain ⟨f, rfl, hcode⟩ := hsettled.unknown_iff.2 ⟨hok, harrives⟩
  exact ⟨hsilent, f, n', hrun, hcode, hsettled.context f rfl⟩

end Adapter

end Provider

end Parley
