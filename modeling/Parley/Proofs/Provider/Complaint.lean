import Parley.Proofs.Json.Printer
import Parley.Proofs.Json.Record
import Parley.Proofs.Text.Blank
import Parley.Provider.Sample

/-!
# What a provider complains about

An answer that is no success is explained in one of three ways (`Explains`), of which the later ones
count only where the earlier ones say nothing: by the message of a complaint, which the whole body
has to be (`Complains`), by the body itself without the blank characters around it, and by what the
status stands for.

* `decode_wrapped_eq_ok_iff` : the decoder of complaints finds exactly the complaints.
* `Fault.ofAnswer_explains` : the fault of an answer has the one message that explains it, which is
  the message of a sample for every sample.
-/

namespace Parley

namespace Provider

open Json Json.Grammar

/-! ### Complaints -/

/-- The text is what stands inside of a complaint with the message. -/
def IsComplaint (m : String) (t : Chars) : Prop := IsSingle "message" IsString m t

/-- The body is a complaint with the message, between gaps. -/
def Complains (m : String) (body : Chars) : Prop :=
  ∃ g t g', IsGap g ∧ IsSingle "error" IsComplaint m t ∧ IsGap g' ∧ body = g ++ (t ++ g')

theorem accepts_complaint (n : Nat) :
    Accepts (Complaint.record.decoder (n + 1)) (fun c t => IsComplaint c.message t) := by
  have hfields : Complaint.record.fields =
      [.of "message" .required .string fun c m => { c with message := m }] := rfl
  refine (accepts_single hfields (accepts_string n)).congr fun c t => ?_
  constructor
  · rintro ⟨m, hm, rfl⟩
    exact hm
  · intro hc
    exact ⟨c.message, hc, rfl⟩

theorem accepts_wrapped (n : Nat) :
    Accepts (Complaint.wrapped.decoder (n + 2))
      (fun c t => IsSingle "error" IsComplaint c.message t) := by
  have hfields : Complaint.wrapped.fields =
      [.of "error" .required Complaint.record.decoder fun _ c => c] := rfl
  refine (accepts_single hfields (accepts_complaint n)).congr fun c t => ?_
  constructor
  · rintro ⟨c', hc, rfl⟩
    exact hc.imp fun _ h => h
  · intro hc
    exact ⟨c, hc.imp fun _ h => h, rfl⟩

theorem decode_wrapped_eq_ok_iff {body : String} {c : Complaint} :
    Complaint.wrapped.decoder.decode body = .ok c ↔ Complains c.message body.toList := by
  have haccepts : Accepts (Complaint.wrapped.decoder nestingLimit)
      (fun c t => IsSingle "error" IsComplaint c.message t) := accepts_wrapped 125
  exact haccepts.decode_eq_ok_iff

/-! ### Explanations -/

/-- The answer of the status and the body is explained by the message. -/
inductive Explains (status : Http.Status) (body : Chars) : String → Prop
  /-- The body complains. -/
  | complaint {m : String} : Complains m body → Explains status body m
  /-- The body is no complaint, but some text. -/
  | text {t : Chars} : (∀ m, ¬ Complains m body) → Text.Trims body t → t ≠ [] →
      Explains status body (String.ofList t)
  /-- The body says nothing, and the status has a reason phrase. -/
  | reason {r : String} : (∀ m, ¬ Complains m body) → (∀ c ∈ body, Text.blank c = true) →
      status.reason? = some r → Explains status body r
  /-- The body says nothing, and neither does the status. -/
  | unknown : (∀ m, ¬ Complains m body) → (∀ c ∈ body, Text.blank c = true) →
      status.reason? = none → Explains status body "unknown error"

variable {status : Http.Status}

theorem complaintOf_of_complains {body m : String} (h : Complains m body.toList) :
    complaintOf status body = m := by
  have hdecode : Complaint.wrapped.decoder.decode body = .ok ⟨m⟩ := decode_wrapped_eq_ok_iff.2 h
  rw [complaintOf, hdecode]

theorem complaintOf_of_not_complains {body : String} (h : ∀ m, ¬ Complains m body.toList) :
    complaintOf status body =
      if (Text.trim body.toList).isEmpty then status.reason?.getD "unknown error"
      else String.ofList (Text.trim body.toList) := by
  rw [complaintOf]
  split
  · rename_i c hc
    exact absurd (decode_wrapped_eq_ok_iff.1 hc) (h c.message)
  · rfl

theorem isEmpty_trim_iff (body : Chars) :
    (Text.trim body).isEmpty = true ↔ ∀ c ∈ body, Text.blank c = true := by
  rw [List.isEmpty_iff, Text.trim_eq_nil_iff]

/-- An answer is explained by what is made of it. -/
theorem explains_complaintOf (status : Http.Status) (body : String) :
    Explains status body.toList (complaintOf status body) := by
  by_cases h : ∃ m, Complains m body.toList
  · obtain ⟨m, hm⟩ := h
    rw [complaintOf_of_complains hm]
    exact .complaint hm
  · have hnone : ∀ m, ¬ Complains m body.toList := fun m hm => h ⟨m, hm⟩
    rw [complaintOf_of_not_complains hnone]
    split
    · rename_i hempty
      have hblank := (isEmpty_trim_iff _).1 hempty
      cases hreason : status.reason? with
      | some r => exact .reason hnone hblank hreason
      | none => exact .unknown hnone hblank hreason
    · rename_i hempty
      exact .text hnone (Text.trim_eq_iff.1 rfl) (by simpa using hempty)

/-- Nothing else explains it. -/
theorem Explains.eq {body m : String} (h : Explains status body.toList m) :
    complaintOf status body = m := by
  cases h with
  | complaint hm => exact complaintOf_of_complains hm
  | text hnone ht hne =>
    have htrim := Text.trim_eq_iff.2 ht
    rw [complaintOf_of_not_complains hnone, htrim, if_neg (by simpa using hne)]
  | reason hnone hblank hreason =>
    rw [complaintOf_of_not_complains hnone, if_pos ((isEmpty_trim_iff _).2 hblank), hreason]
    rfl
  | unknown hnone hblank hreason =>
    rw [complaintOf_of_not_complains hnone, if_pos ((isEmpty_trim_iff _).2 hblank), hreason]
    rfl

/-! ### Samples -/

theorem isValue_null : IsValue Sample.null := .null

/-- The body of a sample is a complaint with its message, whatever the characters of this. -/
theorem complains_sample (m : String) : Complains m (Sample.complaint m) := by
  have hinside : IsComplaint m (Printer.object
      [("code", Sample.null), ("message", Printer.string m), ("param", Sample.null),
        ("type", Printer.string "invalid_request_error")]) := by
    refine .object (Printer.hasMembers_object _) ?_ ⟨Printer.string m, rfl,
      Printer.isString_string m⟩
    simp [isValue_null, Printer.isValue_string]
  refine ⟨[], Sample.complaint m, [], .nil, ?_, .nil, (List.append_nil _).symm⟩
  exact .object (Printer.hasMembers_object _) (by simp) ⟨_, rfl, hinside⟩

/-- The fault of an answer has its status, and the one message that explains it.  The message of a
sample is found again in its body. -/
theorem Fault.ofAnswer_explains (status : Http.Status) (body : String) :
    (∃ m, Fault.ofAnswer status body = .api status m ∧
      ∀ m', Explains status body.toList m' ↔ m' = m) ∧
      ∀ m, Fault.ofAnswer status (String.ofList (Sample.complaint m)) = .api status m := by
  refine ⟨⟨complaintOf status body, rfl, fun m' => ⟨?_, ?_⟩⟩, fun m => ?_⟩
  · intro h
    exact h.eq.symm
  · rintro rfl
    exact explains_complaintOf status body
  · have hm : Complains m (String.ofList (Sample.complaint m)).toList := by
      rw [String.toList_ofList]
      exact complains_sample m
    rw [Fault.ofAnswer, complaintOf_of_complains hm]

end Provider

end Parley
