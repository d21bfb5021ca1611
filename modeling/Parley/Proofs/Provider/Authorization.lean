import Parley.Proofs.Provider.Secrecy
import Parley.Proofs.Text.Utf8

/-!
# What a key makes of the headers

A key that may stand in a header makes one header, which holds its bytes and from which it can be
read off.  Any other key has a control character, and no message about it has one, so that the fault
cannot give the key away; a call with such a key fails at its first poll and sends nothing.

* `Endpoint.headers_of_presentable`, `Endpoint.headers_of_not_presentable` : what the headers of an
  endpoint are.
* `Adapter.run_generate_of_headers` : how a call ends whose key cannot stand in a header.
* `Endpoint.headers_authorized` : what a key makes of headers and calls (`Authorized`).
-/

namespace Parley

namespace Http

namespace Header

theorem allowed_iff {b : UInt8} : allowed b = true ↔ b = 0x09 ∨ (0x20 ≤ b ∧ b ≠ 0x7F) := by
  simp [allowed]

/-- The bytes that may not stand in a value are control characters. -/
theorem control_of_not_allowed {b : UInt8} (h : ¬allowed b = true) :
    b.toNat < 0x20 ∨ b.toNat = 0x7F := by
  rw [allowed_iff, not_or, not_and_or, not_not, UInt8.not_le] at h
  rcases h.2 with hlt | rfl
  · exact .inl (UInt8.lt_iff_toNat_lt.1 hlt)
  · exact .inr rfl

end Header

end Http

namespace Provider

namespace Endpoint

variable {e e' : Endpoint}

/-! ### Headers -/

theorem presentable_iff :
    e.Presentable ↔ ∀ b ∈ Text.bytes e.key, b = 0x09 ∨ (0x20 ≤ b ∧ b ≠ 0x7F) := by
  simp only [Presentable, Http.Header.allowed_iff]

theorem headers_of_presentable (h : e.Presentable) :
    e.headers = .ok [⟨"authorization", Text.bytes "Bearer " ++ Text.bytes e.key, true⟩] := by
  have hvalue : Http.Header.valueOf? ("Bearer " ++ e.key) =
      some (Text.bytes "Bearer " ++ Text.bytes e.key) := by
    rw [Http.Header.valueOf?, Text.bytes_append, if_pos]
    rw [List.all_append, all_allowed_bearer, Bool.true_and]
    exact List.all_eq_true.2 h
  rw [headers, hvalue]

theorem headers_of_not_presentable (h : ¬e.Presentable) :
    e.headers = .error (.invalidArgument "api key is not a valid header") := by
  rcases e.headers_cases with ⟨hpresentable, -⟩ | ⟨-, herror⟩
  · exact absurd hpresentable h
  · exact herror

theorem presentable_of_headers {hs : List Http.Header} (h : e.headers = .ok hs) :
    e.Presentable := by
  by_contra hnot
  cases (headers_of_not_presentable hnot).symm.trans h

theorem not_presentable_of_headers {f : Fault} (h : e.headers = .error f) : ¬e.Presentable := by
  intro hpresentable
  cases (headers_of_presentable hpresentable).symm.trans h

/-- The key can be read off the headers. -/
theorem key_eq_of_headers {hs : List Http.Header} (h : e.headers = .ok hs)
    (h' : e'.headers = .ok hs) : e'.key = e.key := by
  have heq := h.trans h'.symm
  rw [headers_of_presentable (presentable_of_headers h),
    headers_of_presentable (presentable_of_headers h')] at heq
  have hvalue : Text.bytes "Bearer " ++ Text.bytes e.key =
      Text.bytes "Bearer " ++ Text.bytes e'.key := by simpa using heq
  exact (Text.bytes_injective (List.append_cancel_left hvalue)).symm

/-! ### Keys that make no header -/

/-- A text without control characters does not contain a key that cannot stand in a header. -/
theorem not_infix_of_not_presentable (h : ¬e.Presentable) {s : String}
    (hs : s.toList.all (fun c => 0x20 ≤ c.toNat && c.toNat != 0x7F) = true) :
    ¬e.key.toList <:+: s.toList := by
  intro hwithin
  simp only [Presentable, not_forall] at h
  obtain ⟨b, hb, hallowed⟩ := h
  have hcontrol := Http.Header.control_of_not_allowed hallowed
  obtain ⟨c, hc, hcb⟩ := Text.exists_mem_of_mem_bytes hb (by omega)
  have hnone := List.all_eq_true.1 hs c (hwithin.subset hc)
  simp only [Bool.and_eq_true, decide_eq_true_eq, bne_iff_ne] at hnone
  omega

end Endpoint

/-- A call whose key cannot stand in a header fails at its first poll and sends nothing. -/
theorem Adapter.run_generate_of_headers {a : Adapter} {f : Fault}
    (hf : a.endpoint.headers = .error f) {model : String}
    (hmodel : a.options.model = some model) (c : Call) (n : Network) (polls : Nat) :
    ∃ n', (a.generate c).run (polls + 1) n =
      (.answered (.error (f.toFailure c.instructions c.input)), n') ∧
        n'.received = n.received := by
  have hpost : a.post (c.request model) = .error f := post_of_headers_error hf _
  have hfirst := generate_eq hmodel (complete_zero_of_error n hpost)
  exact ⟨_, Progress.run_of_answered hfirst polls, rfl⟩

/-! ### What a key makes of headers and calls -/

namespace Endpoint

/-- What the key of an endpoint makes of its headers, and of the calls to it. -/
structure Authorized (e : Endpoint) : Prop where
  /-- The key makes headers exactly if none of its bytes is a control character but the tab. -/
  ok_iff : (∃ hs, e.headers = .ok hs) ↔
    ∀ b ∈ Text.bytes e.key, b = 0x09 ∨ (0x20 ≤ b ∧ b ≠ 0x7F)
  /-- They are one header, which holds the bytes of the key and is to be kept secret. -/
  bearer : ∀ hs, e.headers = .ok hs →
    hs = [⟨"authorization", Text.bytes "Bearer " ++ Text.bytes e.key, true⟩]
  /-- No other key makes the same headers. -/
  distinct : ∀ (e' : Endpoint) hs, e.headers = .ok hs → e'.headers = .ok hs → e'.key = e.key
  /-- A key that makes no headers is at fault, and the message does not contain it. -/
  refused : ∀ f, e.headers = .error f →
    (∃ reason, f = .invalidArgument reason) ∧ ¬e.key.toList <:+: f.message.toList
  /-- A call with such a key and a model fails with an unknown failure, which keeps what the call
  was about and says what is at fault, and sends nothing. -/
  failed : ∀ f, e.headers = .error f → ∀ (options : Options) (c : Call) (n : Network)
    (polls : Nat), options.model.isSome → ∃ failure n',
      ((⟨e, options⟩ : Adapter).generate c).run (polls + 1) n = (.answered (.error failure), n') ∧
        failure.code = .unknown ∧ failure.instructions = c.instructions ∧
          failure.input = c.input ∧ failure.message = f.message ∧ n'.received = n.received

/-- A key either makes one header of its bytes, or a fault that does not tell it and keeps calls
from being sent. -/
theorem headers_authorized (e : Endpoint) : e.Authorized := by
  constructor
  case ok_iff =>
    rw [← presentable_iff]
    constructor
    · rintro ⟨hs, h⟩
      exact presentable_of_headers h
    · intro h
      exact ⟨_, headers_of_presentable h⟩
  case bearer =>
    intro hs h
    cases h.symm.trans (headers_of_presentable (presentable_of_headers h))
    rfl
  case distinct =>
    intro e' hs h h'
    exact key_eq_of_headers h h'
  case refused =>
    intro f h
    have hnot := not_presentable_of_headers h
    cases h.symm.trans (headers_of_not_presentable hnot)
    exact ⟨⟨_, rfl⟩, not_infix_of_not_presentable hnot (by decide +kernel)⟩
  case failed =>
    intro f h options c n polls hmodel
    obtain ⟨model, hmodel⟩ := Option.isSome_iff_exists.1 hmodel
    obtain ⟨n', hrun, hreceived⟩ :=
      Adapter.run_generate_of_headers (a := ⟨e, options⟩) h hmodel c n polls
    refine ⟨_, n', hrun, ?_, rfl, rfl, rfl, hreceived⟩
    cases h.symm.trans (headers_of_not_presentable (not_presentable_of_headers h))
    rfl

end Endpoint

end Provider

end Parley
