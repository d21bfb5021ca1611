import Parley.Model.Basic
import Parley.Proofs.Json.Value
import Parley.Proofs.Model.Uuid

/-!
# Stored models

Two brackets are open around a setting in the text of a model record, so that a setting may open
125 more.

* `Model.nestsAtMost_of_parse` : a record that has been read does not go beyond that.
* `Model.parse_print` : a record is read back from its own text exactly if it does not.
-/

namespace Parley

namespace Model

open Json

/-- Every number in the settings is an integer. -/
def FloatFree (m : Model) : Prop := ∀ e ∈ m.settings.entries, e.2.FloatFree

/-- At most `n` brackets are open inside any setting. -/
def NestsAtMost (m : Model) (n : Nat) : Prop := ∀ e ∈ m.settings.entries, e.2.depth ≤ n

theorem nodup_fields (fresh : Uuid) : ((record fresh).fields.map (·.name)).Nodup := by
  show ["uuid", "name", "type", "model", "config"].Nodup
  decide

/-! ### Reading -/

/-- Two brackets are open around a setting. -/
theorem nestsAtMost_of_parse {m : Model} {fresh : Uuid} {text : String}
    (h : parse fresh text = .ok m) : m.NestsAtMost 125 := by
  obtain ⟨o, ho⟩ := exists_outline_of_decode h
  have hblank : (record fresh).blank.NestsAtMost 125 := by simp [NestsAtMost, record, Table.empty]
  refine Record.holds_of_decoder (P := (NestsAtMost · 125)) (nodup_fields fresh) hblank ?_ ho
  intro f hf o a b hput ha
  -- only the last field touches the settings
  simp only [record, List.mem_cons, List.not_mem_nil, or_false] at hf
  obtain rfl | rfl | rfl | rfl | rfl := hf <;> obtain ⟨c, hc, rfl⟩ := map_eq_ok_iff.1 hput
  · exact ha
  · exact ha
  · exact ha
  · exact ha
  · exact Value.depth_le_of_tableDecoder hc

/-! ### Reading back -/

theorem rereads_uuid (n : Nat) (u : Uuid) :
    Rereads (uuidDecoder n) True u (Literal.quote u.print) := by
  have hread : Rereads (uuidDecoder n) True u (Printer.string u.toText) :=
    rereads_stringOf (by rw [Uuid.parse_toText]; rfl) n
  rwa [Printer.string, Uuid.toText, String.toList_ofList] at hread

theorem rereads_print {m : Model} (hm : m.FloatFree) (fresh : Uuid) :
    Rereads ((record fresh).decoder nestingLimit) (m.NestsAtMost 125) m m.print := by
  have hfields : Fills 126 (record fresh).fields _ _ (record fresh).blank m :=
    .of (rereads_uuid 126 m.uuid) <| .of (rereads_string 126 m.name) <|
      .of (rereads_string 126 m.kind) <| .of (rereads_string 126 m.model) <|
        .of (Value.rereads_table 126 hm) .done
  refine (rereads_record (nodup_fields fresh) hfields).congr ?_
  rw [Value.depth_object_le_iff]
  simp [NestsAtMost]

/-- A record without floating-point numbers is read back from its own text exactly if at most 125
brackets are open inside each setting, as in every record that has itself been read; of any other
record nothing is read. -/
theorem parse_print {m : Model} (hm : m.FloatFree) (fresh : Uuid) :
    (parse fresh (String.ofList m.print) = .ok m ↔ m.NestsAtMost 125) ∧
      (m.NestsAtMost 125 ∨
        ∃ e, parse fresh (String.ofList m.print) = .error e ∧ e.cause = .nestedTooDeep) ∧
      ∀ other text, parse other text = .ok m → parse fresh (String.ofList m.print) = .ok m := by
  have hprint := rereads_print hm fresh
  refine ⟨hprint.decode_eq_ok_iff, ?_, fun other text h => ?_⟩
  · exact (em _).imp_right hprint.decode_eq_error
  · exact hprint.decode_eq_ok_iff.2 (nestsAtMost_of_parse h)

/-- A list in a list, and so on. -/
def nested : Nat → Value
  | 0 => .null
  | n + 1 => .array [nested n]

theorem depth_nested (n : Nat) : (nested n).depth = n := by
  induction n with
  | zero => rfl
  | succ n ih =>
    show max (nested n).depth 0 + 1 = n + 1
    rw [ih, Nat.max_zero]

theorem floatFree_nested (n : Nat) : (nested n).FloatFree := by
  induction n with
  | zero => trivial
  | succ n ih => exact ⟨ih, trivial⟩

/-- A record with a setting of `n` brackets. -/
def deep (n : Nat) : Model := ⟨default, "", "", "", Table.empty.insert "stop" (nested n)⟩

theorem nestsAtMost_deep_iff {n k : Nat} : (deep n).NestsAtMost k ↔ n ≤ k := by
  show (∀ e ∈ [("stop", nested n)], _) ↔ _
  rw [List.forall_mem_singleton, depth_nested]

theorem floatFree_deep (n : Nat) : (deep n).FloatFree :=
  List.forall_mem_singleton.2 (floatFree_nested n)

theorem parse_print_deep :
    ((deep 125).FloatFree ∧ parse default (String.ofList (deep 125).print) = .ok (deep 125)) ∧
      (deep 126).FloatFree ∧ ∃ e,
        parse default (String.ofList (deep 126).print) = .error e ∧ e.cause = .nestedTooDeep := by
  refine ⟨⟨floatFree_deep 125, ?_⟩, floatFree_deep 126, ?_⟩
  · exact (parse_print (floatFree_deep 125) default).1.2 (nestsAtMost_deep_iff.2 (by decide))
  · have hdeep : ¬(deep 126).NestsAtMost 125 := by rw [nestsAtMost_deep_iff]; decide
    exact (parse_print (floatFree_deep 126) default).2.1.resolve_left hdeep

end Model

end Parley
