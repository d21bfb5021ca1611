import Parley.Proofs.Json.Length
import Parley.Proofs.Provider.Complaint

/-!
# Blank characters around the body of an answer

A body is taken without the blank characters around it where it explains an answer itself, but it is
searched for a complaint as it stands.  There only gaps may stand around the complaint, and most
blank characters are none: with such a character at either end the body is no complaint any more,
and is told to the caller as a whole.

* `complains_padded_iff` : blank characters around a complaint leave it one exactly if they are
  gaps.
* `Fault.ofAnswer_padded` : when blank characters around a body make a difference, and which.
-/

namespace Parley

namespace Provider

open Json Json.Grammar

/-! ### Complaints and what stands around them -/

section

variable {body p q : Chars} {m : String}

theorem exists_eq_of_isSingle {β : Type} {name : String} {L : β → Chars → Prop} {b : β} {t : Chars}
    (h : IsSingle name L b t) :
    ∃ c u d, Text.blank c = false ∧ Text.blank d = false ∧ t = c :: (u ++ [d]) := by
  cases h with
  | object hm =>
    obtain ⟨_, _, _, _, henclosed⟩ := hm
    obtain ⟨u, rfl⟩ := henclosed.eq
    exact ⟨'{', u, '}', by decide, by decide, rfl⟩
  | list _ hlist =>
    obtain ⟨u, rfl⟩ := hlist.eq
    exact ⟨'[', u, ']', by decide, by decide, rfl⟩

/-- A body complains if what trimming leaves of it is a complaint, and gaps stand around that. -/
theorem complains_iff : Complains m body ↔ IsSingle "error" IsComplaint m (Text.trim body) ∧
    ∃ g h, IsGap g ∧ IsGap h ∧ body = g ++ (Text.trim body ++ h) := by
  constructor
  · rintro ⟨g, t, h, hg, ht, hh, rfl⟩
    obtain ⟨c, u, d, hc, hd, rfl⟩ := exists_eq_of_isSingle ht
    rw [Text.trim_append hg.blank hh.blank hc hd]
    exact ⟨ht, g, h, hg, hh, rfl⟩
  · rintro ⟨ht, g, h, hg, hh, hbody⟩
    exact ⟨g, Text.trim body, h, hg, ht, hh, hbody⟩

theorem complains_padded_iff (hp : ∀ c ∈ p, Text.blank c = true)
    (hq : ∀ c ∈ q, Text.blank c = true) :
    Complains m (p ++ (body ++ q)) ↔ (IsGap p ∧ IsGap q) ∧ Complains m body := by
  rw [complains_iff, complains_iff, Text.trim_padded hp hq]
  constructor
  · rintro ⟨ht, g, h, hg, hh, heq⟩
    obtain ⟨g', h', hg', hh', hbody⟩ := Text.exists_append_trim body
    obtain ⟨c, u, d, hc, hd, htrim⟩ := exists_eq_of_isSingle ht
    -- the complaint stands at the same place in both readings of the text
    have hplace : (p ++ g') ++ c :: ((u ++ [d]) ++ (h' ++ q)) = g ++ c :: ((u ++ [d]) ++ h) := by
      rw [htrim] at heq hbody
      rw [hbody] at heq
      simpa using heq
    have hblank : ∀ c ∈ p ++ g', Text.blank c = true := by
      simpa [or_imp, forall_and] using ⟨hp, hg'⟩
    obtain ⟨hleft, hrest⟩ := Text.blank_append_inj hblank hg.blank hc hc hplace
    have hright : h' ++ q = h := List.append_cancel_left (List.cons.inj hrest).2
    subst hleft hright
    obtain ⟨hp', hg'⟩ := isGap_append_iff.1 hg
    obtain ⟨hh', hq'⟩ := isGap_append_iff.1 hh
    exact ⟨⟨hp', hq'⟩, ht, g', h', hg', hh', hbody⟩
  · rintro ⟨⟨hp', hq'⟩, ht, g, h, hg, hh, hbody⟩
    refine ⟨ht, p ++ g, h ++ q, isGap_append_iff.2 ⟨hp', hg⟩, isGap_append_iff.2 ⟨hh, hq'⟩, ?_⟩
    conv_lhs => rw [hbody]
    simp only [List.append_assoc]

/-- A complaint is longer than its message. -/
theorem Complains.ofList_trim_ne (h : Complains m body) : String.ofList (Text.trim body) ≠ m := by
  rintro rfl
  obtain ⟨v, hv, hlt⟩ := (complains_iff.1 h).1.exists_length_lt
  obtain ⟨w, hw, hlt'⟩ := hv.exists_length_lt
  have hlt'' := hw.length_lt
  rw [String.toList_ofList] at hlt''
  omega

end

/-! ### What is made of the body -/

section

variable {status : Http.Status} {body p q : String} {m : String}

theorem complains_append_iff (hp : ∀ c ∈ p.toList, Text.blank c = true)
    (hq : ∀ c ∈ q.toList, Text.blank c = true) :
    Complains m (p ++ body ++ q).toList ↔
      (IsGap p.toList ∧ IsGap q.toList) ∧ Complains m body.toList := by
  rw [String.toList_append, String.toList_append, List.append_assoc]
  exact complains_padded_iff hp hq

theorem complaintOf_append_of_not_complains (hp : ∀ c ∈ p.toList, Text.blank c = true)
    (hq : ∀ c ∈ q.toList, Text.blank c = true) (h : ∀ m, ¬Complains m (p ++ body ++ q).toList) :
    complaintOf status (p ++ body ++ q) =
      if (Text.trim body.toList).isEmpty then status.reason?.getD "unknown error"
      else String.ofList (Text.trim body.toList) := by
  rw [complaintOf_of_not_complains h]
  simp only [String.toList_append, List.append_assoc, Text.trim_padded hp hq]

/-- Gaps make no difference, and neither does anything blank around a body that is no complaint. -/
theorem complaintOf_append_of_gaps (hp : ∀ c ∈ p.toList, Text.blank c = true)
    (hq : ∀ c ∈ q.toList, Text.blank c = true)
    (h : ∀ m, Complains m body.toList → IsGap p.toList ∧ IsGap q.toList) :
    complaintOf status (p ++ body ++ q) = complaintOf status body := by
  by_cases hcomplains : ∃ m, Complains m body.toList
  · obtain ⟨m, hm⟩ := hcomplains
    rw [complaintOf_of_complains hm,
      complaintOf_of_complains ((complains_append_iff hp hq).2 ⟨h m hm, hm⟩)]
  · have hnone : ∀ m, ¬Complains m body.toList := fun m hm => hcomplains ⟨m, hm⟩
    have hnone' : ∀ m, ¬Complains m (p ++ body ++ q).toList :=
      fun m hm => hnone m ((complains_append_iff hp hq).1 hm).2
    rw [complaintOf_append_of_not_complains hp hq hnone', complaintOf_of_not_complains hnone]

/-- Around a complaint, all other blank characters make it its own explanation. -/
theorem complaintOf_append_of_not_gaps (hp : ∀ c ∈ p.toList, Text.blank c = true)
    (hq : ∀ c ∈ q.toList, Text.blank c = true) (hm : Complains m body.toList)
    (h : ¬(IsGap p.toList ∧ IsGap q.toList)) :
    complaintOf status (p ++ body ++ q) = String.ofList (Text.trim body.toList) := by
  have hnone : ∀ m, ¬Complains m (p ++ body ++ q).toList :=
    fun m hm' => h ((complains_append_iff hp hq).1 hm').1
  obtain ⟨c, u, d, -, -, htrim⟩ := exists_eq_of_isSingle (complains_iff.1 hm).1
  rw [complaintOf_append_of_not_complains hp hq hnone, htrim]
  rfl

/-- Blank characters around the body of an answer make a difference exactly if the body is a
complaint and they are not all characters of a gap.  Then the fault has the whole complaint for its
message, and not the message of the complaint. -/
theorem Fault.ofAnswer_padded (status : Http.Status) (body : String)
    (hp : ∀ c ∈ p.toList, Text.blank c = true) (hq : ∀ c ∈ q.toList, Text.blank c = true) :
    (Fault.ofAnswer status (p ++ body ++ q) = Fault.ofAnswer status body ↔
      ∀ m, Complains m body.toList → IsGap p.toList ∧ IsGap q.toList) ∧
    ∀ m, Complains m body.toList → Fault.ofAnswer status body = .api status m ∧
      (¬(IsGap p.toList ∧ IsGap q.toList) → Fault.ofAnswer status (p ++ body ++ q) =
        .api status (String.ofList (Text.trim body.toList))) := by
  refine ⟨⟨fun h m hm => ?_, fun h => ?_⟩, fun m hm => ⟨?_, fun hgaps => ?_⟩⟩
  · by_contra hgaps
    injection h with _ h
    rw [complaintOf_append_of_not_gaps hp hq hm hgaps, complaintOf_of_complains hm] at h
    exact hm.ofList_trim_ne h
  · rw [ofAnswer, ofAnswer, complaintOf_append_of_gaps hp hq h]
  · rw [ofAnswer, complaintOf_of_complains hm]
  · rw [ofAnswer, complaintOf_append_of_not_gaps hp hq hm hgaps]

/-- A sample is found again between line feeds, but not between spaces that do not break. -/
theorem Fault.ofAnswer_padded_sample :
    let status : Http.Status := ⟨401, by decide⟩
    let body := String.ofList (Sample.complaint "no")
    ((∀ c ∈ "\n".toList, Text.blank c = true) ∧
      Fault.ofAnswer status ("\n" ++ body ++ "\n") = .api status "no") ∧
    (∀ c ∈ "\u00a0".toList, Text.blank c = true) ∧
      Fault.ofAnswer status ("\u00a0" ++ body ++ "\u00a0") ≠ .api status "no" := by
  intro status body
  have hcomplains : Complains "no" body.toList := by
    rw [String.toList_ofList]
    exact complains_sample "no"
  have hfeed : ∀ c ∈ "\n".toList, Text.blank c = true := List.all_eq_true.1 (by decide)
  have hspace : ∀ c ∈ "\u00a0".toList, Text.blank c = true := List.all_eq_true.1 (by decide)
  have hgap : IsGap "\n".toList := by simp [IsGap]
  obtain ⟨hsame, hwhole⟩ := Fault.ofAnswer_padded status body hfeed hfeed
  obtain ⟨hsame', -⟩ := Fault.ofAnswer_padded status body hspace hspace
  have hno := (hwhole "no" hcomplains).1
  refine ⟨⟨hfeed, (hsame.2 fun _ _ => ⟨hgap, hgap⟩).trans hno⟩, hspace, fun h => ?_⟩
  have hgap' := (hsame'.1 (h.trans hno.symm) "no" hcomplains).1
  simp [IsGap] at hgap'

/-- A space that does not break, in front of a complaint, makes the caller see the complaint as it
has come and not what it says. -/
theorem Fault.ofAnswer_noBreakSpace :
    let status : Http.Status := ⟨401, by decide⟩
    let body := "\x7b\"error\":\x7b\"message\":\"nope\"\x7d\x7d"
    (∀ c ∈ "\u00a0".toList, Text.blank c = true) ∧
      Fault.ofAnswer status body = .api status "nope" ∧
      Fault.ofAnswer status ("\u00a0" ++ body ++ "") = .api status body ∧
      Fault.ofAnswer status ("\u00a0" ++ body ++ "") ≠ Fault.ofAnswer status body := by
  intro status body
  have hmessage : complaintOf status body = "nope" := by decide +kernel
  have hwhole : complaintOf status ("\u00a0" ++ body ++ "") = body := by decide +kernel
  rw [Fault.ofAnswer, Fault.ofAnswer, hmessage, hwhole]
  refine ⟨List.all_eq_true.1 (by decide), rfl, rfl, fun h => ?_⟩
  injection h with _ h
  exact absurd h (by decide)

end

end Provider

end Parley
