import Mathlib.Data.Nat.Find
import Parley.Proofs.Provider.Exchange
import Parley.Script.Basic

/-!
# Calls that race a token

A call with a token is a race between the token and the call.  The token is looked at before the
call is polled, so that it wins if it fires just before the poll that would end the call.  A token
that comes later, or never, is not noticed at all.

* `Progress.run_cancelledBy_of_firesAt` : a token that fires while the call waits ends it, and what
  the call has done to the world up to there is all that it does.
* `Progress.run_cancelledBy_of_late` : a token that has not fired by the last poll of the call makes
  no difference.
* `Service.race_decided` : who wins the race, for every service that stops calls in the usual way
  (`Progress.Raced`), and what that means for scripted services and adapters.
-/

namespace Parley

/-! ### When a token fires -/

namespace Token

variable {token : Token} {k : Nat}

/-- The token has fired when the given poll begins, and had not when an earlier one began. -/
def FiresAt (token : Token) (poll : Nat) : Prop :=
  token poll = true ∧ ∀ i < poll, token i = false

/-- The token has fired when the given poll begins, or had when an earlier one began. -/
def FiredBy (token : Token) (poll : Nat) : Prop := ∃ i ≤ poll, token i = true

theorem FiredBy.exists_firesAt (h : token.FiredBy k) : ∃ j ≤ k, token.FiresAt j := by
  obtain ⟨i, hik, hi⟩ := h
  have hfires : ∃ j, token j = true := ⟨i, hi⟩
  have hle : Nat.find hfires ≤ k := Nat.le_trans (Nat.find_min' hfires hi) hik
  refine ⟨Nat.find hfires, hle, Nat.find_spec hfires, fun j hj => ?_⟩
  exact Bool.eq_false_iff.2 (Nat.find_min hfires hj)

theorem silent_of_not_firedBy (h : ¬token.FiredBy k) {i : Nat} (hi : i ≤ k) : token i = false :=
  Bool.eq_false_iff.2 fun hfired => h ⟨i, hi, hfired⟩

end Token

/-! ### The race -/

namespace Progress

variable {σ α : Type} {t : Progress σ α} {s : σ} {j k : Nat} {e : Poll α × σ} {token : Token}
  {given : α}

/-- A token that fires while the call waits ends the call, which does nothing more. -/
theorem run_cancelledBy_of_firesAt (hwaiting : (t.run j s).1 = .waiting) (h : token.FiresAt j)
    {n : Nat} (hn : j < n) :
    (t.cancelledBy token given).run n s = (.answered given, (t.run j s).2) := by
  obtain ⟨l, rfl⟩ := Nat.exists_eq_add_of_lt hn
  have hsame := run_cancelledBy_of_silent t token given j s h.2
  rw [run, Nat.add_assoc, runFrom_add_of_waiting (congrArg Prod.fst hsame ▸ hwaiting), ← run, hsame]
  simp [runFrom, cancelledBy, h.1]

-- where both are ready at the same poll, the token wins and that poll does not happen
example : Progress.run (cancelledBy (.before 1) "given up" fun i (n : Nat) =>
    if i = 0 then (.waiting, n + 1) else (.answered "done", n + 1)) 3 0 =
      (.answered "given up", 1) := rfl

/-- A token that has not fired when the last poll of the call begins is not noticed. -/
theorem run_cancelledBy_of_late (h : t.EndsAt s k e) (hlate : ¬token.FiredBy k) (n : Nat) :
    (t.cancelledBy token given).run n s = t.run n s := by
  have hsame (l : Nat) (hl : l ≤ k + 1) : (t.cancelledBy token given).run l s = t.run l s :=
    run_cancelledBy_of_silent t token given l s
      fun i hi => Token.silent_of_not_firedBy hlate (by omega)
  by_cases hn : n ≤ k + 1
  · exact hsame n hn
  · have hends : (t.cancelledBy token given).EndsAt s k e :=
      ⟨hsame k (by omega) ▸ h.waiting, (hsame (k + 1) (Nat.le_refl _)).trans h.ended, h.ne_waiting⟩
    rw [hends.run_of_lt (by omega), h.run_of_lt (by omega)]

/-- How a call `t`, begun in the world `s`, and a token decide what becomes of the call `u`, which
is `t` unless the token fires, and then is answered with `given`. -/
structure Raced (token : Token) (given : α) (t u : Progress σ α) (s : σ) : Prop where
  /-- A token is not noticed as long as it keeps silent. -/
  silent : ∀ n, (∀ i < n, token i = false) → u.run n s = t.run n s
  /-- A token that fires before the first poll keeps the call from starting. -/
  unstarted : token 0 = true → ∀ n, u.run (n + 1) s = (.answered given, s)
  /-- A token that fires while the call waits ends it, which does nothing more. -/
  fired : ∀ j, token.FiresAt j → (t.run j s).1 = .waiting → ∀ n, j < n →
    u.run n s = (.answered given, (t.run j s).2)
  /-- A token that has fired when the last poll of the call begins keeps the call from ending by
  itself. -/
  wins : ∀ k e, t.EndsAt s k e → token.FiredBy k → ∃ j ≤ k, token.FiresAt j ∧ ∀ n, j < n →
    u.run n s = (.answered given, (t.run j s).2)
  /-- A token that has not is never noticed. -/
  late : ∀ k e, t.EndsAt s k e → ¬token.FiredBy k → ∀ n, u.run n s = t.run n s
  /-- The answer is the one of a call given up exactly if the token has fired when the last poll of
  the call begins, or that is what the call itself answers. -/
  answered_iff : ∀ k e, t.EndsAt s k e → ∀ n, k < n →
    ((u.run n s).1 = .answered given ↔ token.FiredBy k ∨ e.1 = .answered given)

theorem raced_cancelledBy (token : Token) (given : α) (t : Progress σ α) (s : σ) :
    Raced token given t (t.cancelledBy token given) s where
  silent n h := run_cancelledBy_of_silent t token given n s h
  unstarted h n := run_cancelledBy_of_fired t token given n s h
  fired j h hwaiting n hn := run_cancelledBy_of_firesAt hwaiting h hn
  wins k e hends h := by
    obtain ⟨j, hj, hfires⟩ := h.exists_firesAt
    exact ⟨j, hj, hfires, fun n => run_cancelledBy_of_firesAt (hends.waiting_of_le hj) hfires⟩
  late k e hends h := run_cancelledBy_of_late hends h
  answered_iff k e hends n hn := by
    by_cases h : token.FiredBy k
    · obtain ⟨j, hj, hfires⟩ := h.exists_firesAt
      rw [run_cancelledBy_of_firesAt (hends.waiting_of_le hj) hfires (by omega)]
      exact iff_of_true rfl (.inl h)
    · rw [run_cancelledBy_of_late hends h, hends.run_of_lt hn]
      exact ⟨.inr, fun hor => hor.resolve_left h⟩

end Progress

/-! ### Adapters -/

theorem head?_toList_append {s : String} {c : Char} (h : s.toList.head? = some c) (t : String) :
    (s ++ t).toList.head? = some c := by
  rw [String.toList_append, List.head?_append, h, Option.some_or]

namespace Provider

theorem Fault.exists_head?_message (f : Fault) :
    ∃ c, f.message.toList.head? = some c ∧ c ≠ 'r' := by
  cases f with
  | api status m =>
    -- the number of the status stands in front
    obtain ⟨d, ds, hdigits⟩ := List.exists_cons_of_ne_nil
      (Nat.toDigits_ne_nil (n := status.number) (b := 10))
    have hd : d.isDigit = true := Nat.isDigit_of_mem_toDigits (b := 10) (n := status.number)
      (by omega) (by omega) (hdigits ▸ List.mem_cons_self)
    have hnumber : (toString status.number).toList.head? = some d := by
      show (String.ofList (Nat.toDigits 10 status.number)).toList.head? = some d
      rw [String.toList_ofList, hdigits, List.head?_cons]
    have htext : status.text.toList.head? = some d :=
      head?_toList_append (head?_toList_append hnumber " ") _
    refine ⟨d, head?_toList_append (head?_toList_append htext ": ") m, ?_⟩
    rintro rfl
    exact absurd hd (by decide)
  | transport t =>
    cases t with
    | noUrl => exact ⟨'b', by decide, by decide⟩
    | badUrl url => exact ⟨'b', head?_toList_append (head?_toList_append rfl url) ")", by decide⟩
    | unanswered url =>
      exact ⟨'e', head?_toList_append (head?_toList_append rfl url) ")", by decide⟩
    | cutShort => exact ⟨'e', by decide, by decide⟩
  | json e => exact ⟨'i', head?_toList_append rfl e.message, by decide⟩
  | invalidArgument reason => exact ⟨'i', head?_toList_append rfl reason, by decide⟩

/-- No fault reads like a call that was given up. -/
theorem Fault.message_ne_cancelled (f : Fault) : f.message ≠ "request cancelled" := by
  obtain ⟨c, hfirst, hc⟩ := f.exists_head?_message
  intro h
  rw [h] at hfirst
  exact hc (Option.some.inj hfirst).symm

namespace Adapter

/-- What an adapter answers is never that the call was given up. -/
theorem generate_ne_cancelled (a : Adapter) (c : Call) (i : Nat) (n : Network) :
    (a.generate c i n).1 ≠ .answered c.cancelled := by
  have hconclude (o : Outcome) (m : Network) (ho : o ≠ c.cancelled) :
      (conclude o m).1 ≠ .answered c.cancelled := by
    obtain ⟨m', hm', -⟩ := conclude_eq o m
    rw [hm']
    exact fun h => ho (Poll.answered.inj h)
  have hmessage (f : Failure) (hf : f.message ≠ "request cancelled") :
      (.error f : Outcome) ≠ c.cancelled := by
    intro h
    exact hf (congrArg Failure.message (Except.error.inj h))
  unfold generate
  split
  · exact hconclude _ _ (hmessage _ (by simp [modelNotSet]))
  · split
    · simp
    · simp
    · rename_i result m _
      refine hconclude _ _ ?_
      cases result with
      | ok x => simp [outcome, Call.cancelled]
      | error f => exact hmessage _ f.message_ne_cancelled

theorem not_cancelled_of_endsAt {a : Adapter} {c : Call} {n : Network} {k : Nat}
    {e : Poll Outcome × Network} (h : (a.generate c).EndsAt n k e) :
    e.1 ≠ .answered c.cancelled := by
  have hended := h.ended
  subst hended
  obtain ⟨j, m, hpoll⟩ := Progress.exists_poll_of_runFrom h.ne_waiting
  exact fun hgiven => a.generate_ne_cancelled c j m (hpoll.trans hgiven)

end Adapter

end Provider

/-! ### Scripted services -/

/-- A scripted service answers or breaks off at once. -/
theorem Script.exists_endsAt_generate (s : Script) (c : Call) :
    ∃ e, (Script.service.generate c).EndsAt s 0 e := by
  refine ⟨_, Progress.endsAt_once ?_⟩
  rcases hcall : s.call c with ⟨m | outcome, s'⟩ <;> simp [hcall]

/-! ### Services -/

namespace Service

open Provider (Adapter Network)

/-- A call with a token is a race that the token wins if it has fired when the last poll of the call
begins, and does not take part in otherwise.  If it fires before the first poll nothing happens at
all: a script keeps its expectations and the calls that came as expected, and nothing reaches the
provider of an adapter, which never answers by itself that a call was given up. -/
theorem race_decided (token : Token) (c : Call) :
    (∀ (σ : Type) (name : String) (generate : Call → Progress σ Outcome) (w : σ),
      Progress.Raced token c.cancelled ((ofGenerate name generate).generate c)
        ((ofGenerate name generate).generateUnless token c) w) ∧
    (∀ (s : Script) (n : Nat), (Script.service.generateUnless token c).run (n + 1) s =
      if token 0 then (.answered c.cancelled, s) else (Script.service.generate c).run (n + 1) s) ∧
    ∀ (a : Adapter) (w : Network),
      (token 0 = true → ∀ n,
        (a.service.generateUnless token c).run (n + 1) w = (.answered c.cancelled, w)) ∧
      ∀ k e, (a.service.generate c).EndsAt w k e → ∀ n, k < n →
        (((a.service.generateUnless token c).run n w).1 = .answered c.cancelled ↔
          token.FiredBy k) := by
  refine ⟨fun σ name generate w => Progress.raced_cancelledBy token c.cancelled (generate c) w,
    fun s n => ?_, fun a w => ?_⟩
  · by_cases h : token 0 = true
    · rw [if_pos h]
      exact Progress.run_cancelledBy_of_fired _ token c.cancelled n s h
    · rw [if_neg h]
      obtain ⟨e, hends⟩ := s.exists_endsAt_generate c
      refine Progress.run_cancelledBy_of_late hends (fun hfired => ?_) (n + 1)
      obtain ⟨i, hi, hfired⟩ := hfired
      exact h (Nat.le_zero.1 hi ▸ hfired)
  · have hraced := Progress.raced_cancelledBy token c.cancelled (a.generate c) w
    refine ⟨hraced.unstarted, fun k e hends n hn => ?_⟩
    have hown := Adapter.not_cancelled_of_endsAt hends
    exact (hraced.answered_iff k e hends n hn).trans (or_iff_left hown)

end Service

end Parley
