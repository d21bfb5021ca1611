import Parley.Completion.Outcome
import Parley.Conversation.Turn
import Parley.Proofs.Json.Reread

/-!
# Stored completions, failures and turns

Failures, completions and turns are flat records of texts, names and numbers, so that nothing in
them can be nested too deep.

* `stored_decode_print` : each of them, and every list of turns, is read back from its own text.
-/

namespace Parley

open Json

theorem Completion.rereads_print (n : Nat) (c : Completion) :
    Rereads (decoder (n + 1)) True c c.print := by
  have hfields : Fills n record.fields _ _ record.blank c :=
    .of (rereads_string n c.output) <| .of (rereads_word32 n c.tokensUsed) .done
  exact (rereads_record (by decide) hfields).congr (by simp)

theorem FailureCode.rereads_print (n : Nat) (c : FailureCode) :
    Rereads (decoder n) True c c.print :=
  rereads_variant (by cases c <;> rfl) n

theorem Failure.rereads_print (n : Nat) (f : Failure) :
    Rereads (decoder (n + 1)) True f f.print := by
  have hfields : Fills n record.fields _ _ record.blank f :=
    .of (rereads_string n f.message) <| .of (f.code.rereads_print n) <|
      .of (rereads_string n f.instructions) <| .of (rereads_string n f.input) .done
  exact (rereads_record (by decide) hfields).congr (by simp)

theorem Role.rereads_print (n : Nat) (r : Role) : Rereads (decoder n) True r r.print :=
  rereads_variant (by cases r <;> rfl) n

theorem Turn.rereads_print (n : Nat) (t : Turn) : Rereads (decoder (n + 1)) True t t.print := by
  have hfields : Fills n record.fields _ _ record.blank t :=
    .of (t.role.rereads_print n) <| .of (rereads_string n t.content) .done
  exact (rereads_record (by decide) hfields).congr (by simp)

theorem Turn.rereads_printAll (n : Nat) (ts : List Turn) :
    Rereads (Decoder.list decoder (n + 2)) True ts (printAll ts) :=
  rereads_list (rereads_print n)

/-- Whatever texts and numbers they hold, records that are written down are read back as they
were. -/
theorem stored_decode_print :
    (∀ f : Failure, Failure.decoder.decode (String.ofList f.print) = .ok f) ∧
      (∀ c : Completion, Completion.decoder.decode (String.ofList c.print) = .ok c) ∧
      (∀ t : Turn, Turn.decoder.decode (String.ofList t.print) = .ok t) ∧
      ∀ ts : List Turn,
        (Decoder.list Turn.decoder).decode (String.ofList (Turn.printAll ts)) = .ok ts := by
  refine ⟨fun f => ?_, fun c => ?_, fun t => ?_, fun ts => ?_⟩
  · exact (f.rereads_print 126).decode_eq_ok_iff.2 trivial
  · exact (c.rereads_print 126).decode_eq_ok_iff.2 trivial
  · exact (t.rereads_print 126).decode_eq_ok_iff.2 trivial
  · exact (Turn.rereads_printAll 125 ts).decode_eq_ok_iff.2 trivial

end Parley
