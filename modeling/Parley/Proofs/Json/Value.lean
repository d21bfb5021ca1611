import Parley.Json.Value
import Parley.Proofs.Json.Reread
import Parley.Proofs.Table

/-!
# How deep values nest

A scalar opens no bracket, a list or an object one more than the deepest of its parts
(`Term.depth`).  A value without floating-point numbers is read back from its text exactly if its
depth is allowed; the text of a floating-point number may denote another one.

* `Term.depth_le_of_decode` : what has been decoded is no deeper than was allowed.
* `Term.rereads_print` : the text of a term is read back as the term, unless it is too deep.
* `Value.rereads_table` : the same of the members of an object.
-/

namespace Parley

namespace Json

open Outline

namespace Term

/-- Induction on a term, all parts of a list or an object at once. -/
@[elab_as_elim]
theorem induction {P : Term → Prop} (null : P .null) (bool : ∀ b, P (.bool b))
    (number : ∀ n, P (.number n)) (string : ∀ s, P (.string s))
    (array : ∀ ts, (∀ t ∈ ts, P t) → P (.array ts))
    (object : ∀ es, (∀ e ∈ es, P e.2) → P (.object es)) (t : Term) : P t :=
  @Term.rec P (fun ts => ∀ t ∈ ts, P t) (fun es => ∀ e ∈ es, P e.2) (fun e => P e.2)
    null bool number string array object
    (List.forall_mem_nil _) (fun _ _ ht hts => List.forall_mem_cons.2 ⟨ht, hts⟩)
    (List.forall_mem_nil _) (fun _ _ he hes => List.forall_mem_cons.2 ⟨he, hes⟩)
    (fun _ _ ht => ht) t

/-! ### Depth -/

mutual

/-- The number of brackets around the innermost part of a term. -/
def depth : Term → Nat
  | .array ts => depthAll ts + 1
  | .object es => depthEntries es + 1
  | _ => 0

/-- The depth of the deepest term of a list. -/
def depthAll : List Term → Nat
  | [] => 0
  | t :: ts => max t.depth (depthAll ts)

/-- The depth of the deepest value of the entries. -/
def depthEntries : List (String × Term) → Nat
  | [] => 0
  | e :: es => max e.2.depth (depthEntries es)

end

theorem depthAll_le_iff {ts : List Term} {n : Nat} : depthAll ts ≤ n ↔ ∀ t ∈ ts, t.depth ≤ n := by
  induction ts with
  | nil => simp [depthAll]
  | cons t ts ih => simp [depthAll, ih]

theorem depthEntries_le_iff {es : List (String × Term)} {n : Nat} :
    depthEntries es ≤ n ↔ ∀ e ∈ es, e.2.depth ≤ n := by
  induction es with
  | nil => simp [depthEntries]
  | cons e es ih => simp [depthEntries, ih]

theorem depth_array_le_iff {ts : List Term} {n : Nat} :
    (Term.array ts).depth ≤ n + 1 ↔ ∀ t ∈ ts, t.depth ≤ n := by
  rw [depth, Nat.add_le_add_iff_right, depthAll_le_iff]

theorem depth_object_le_iff {es : List (String × Term)} {n : Nat} :
    (Term.object es).depth ≤ n + 1 ↔ ∀ e ∈ es, e.2.depth ≤ n := by
  rw [depth, Nat.add_le_add_iff_right, depthEntries_le_iff]

theorem depthEntries_insert_le {k : String} {t : Term} {es : List (String × Term)} {n : Nat}
    (ht : t.depth ≤ n) (h : depthEntries es ≤ n) : depthEntries (Entries.insert k t es) ≤ n := by
  rw [depthEntries_le_iff] at *
  intro e he
  rcases Entries.mem_of_mem_insert he with rfl | he
  · exact ht
  · exact h e he

mutual

theorem depth_le_of_decode {n : Nat} {o : Outline} {t : Term} (h : decode n o = .ok t) :
    t.depth ≤ n := by
  cases o with
  | null => cases h; exact Nat.zero_le n
  | bool => cases h; exact Nat.zero_le n
  | number m s after =>
    obtain ⟨_, -, rfl⟩ := map_eq_ok_iff.1 h
    exact Nat.zero_le n
  | string body after =>
    obtain ⟨_, -, rfl⟩ := map_eq_ok_iff.1 h
    exact Nat.zero_le n
  | array start es =>
    cases n with
    | zero => cases h
    | succ n =>
      obtain ⟨ts, hts, rfl⟩ := map_eq_ok_iff.1 h
      exact Nat.succ_le_succ (depthAll_le_of_decodeAll hts)
  | object start ms =>
    cases n with
    | zero => cases h
    | succ n =>
      obtain ⟨es, hes, rfl⟩ := map_eq_ok_iff.1 h
      have hnil : depthEntries [] ≤ n := Nat.zero_le n
      exact Nat.succ_le_succ (depthEntries_le_of_decodeEntries hnil hes)
  | broken => cases h

theorem depthAll_le_of_decodeAll {n : Nat} {es : Elements} {ts : List Term}
    (h : decodeAll n es = .ok ts) : depthAll ts ≤ n := by
  cases es with
  | close => cases h; exact Nat.zero_le n
  | next v es =>
    obtain ⟨t, ht, h⟩ := bind_eq_ok_iff.1 h
    obtain ⟨ts, hts, h⟩ := bind_eq_ok_iff.1 h
    cases h
    exact Nat.max_le.2 ⟨depth_le_of_decode ht, depthAll_le_of_decodeAll hts⟩
  | broken => cases h

theorem depthEntries_le_of_decodeEntries {n : Nat} {acc es : List (String × Term)} {ms : Members}
    (hacc : depthEntries acc ≤ n) (h : decodeEntries n acc ms = .ok es) :
    depthEntries es ≤ n := by
  cases ms with
  | close => cases h; exact hacc
  | next key colon v ms =>
    obtain ⟨_, -, h⟩ := bind_eq_ok_iff.1 h
    obtain ⟨t, ht, h⟩ := bind_eq_ok_iff.1 h
    exact depthEntries_le_of_decodeEntries
      (depthEntries_insert_le (depth_le_of_decode ht) hacc) h
  | keyOnly key colon fault =>
    obtain ⟨_, -, h⟩ := bind_eq_ok_iff.1 h
    cases h
  | broken => cases h

end

/-! ### Texts without floating-point numbers -/

mutual

/-- Every number in the term is an integer. -/
def FloatFree : Term → Prop
  | .number n => ∃ w, n = .integer w
  | .array ts => FloatFreeAll ts
  | .object es => FloatFreeEntries es
  | _ => True

/-- Every number in the terms of a list is an integer. -/
def FloatFreeAll : List Term → Prop
  | [] => True
  | t :: ts => t.FloatFree ∧ FloatFreeAll ts

/-- Every number in the values of the entries is an integer. -/
def FloatFreeEntries : List (String × Term) → Prop
  | [] => True
  | e :: es => e.2.FloatFree ∧ FloatFreeEntries es

end

theorem floatFreeAll_iff {ts : List Term} : FloatFreeAll ts ↔ ∀ t ∈ ts, t.FloatFree := by
  induction ts with
  | nil => simp [FloatFreeAll]
  | cons t ts ih => simp [FloatFreeAll, ih]

theorem floatFreeEntries_iff {es : List (String × Term)} :
    FloatFreeEntries es ↔ ∀ e ∈ es, e.2.FloatFree := by
  induction es with
  | nil => simp [FloatFreeEntries]
  | cons e es ih => simp [FloatFreeEntries, ih]

theorem printAll_eq (ts : List Term) : printAll ts = ts.map print := by
  induction ts with
  | nil => rfl
  | cons t ts ih => rw [printAll, ih, List.map_cons]

theorem printEntries_eq (es : List (String × Term)) :
    printEntries es = es.map fun e => (e.1, e.2.print) := by
  induction es with
  | nil => rfl
  | cons e es ih => rw [printEntries, ih, List.map_cons]

theorem decodeAll_eq (n : Nat) : ∀ es, decodeAll n es = Decoder.elements decode n es
  | .close _ => rfl
  | .next v es => by rw [decodeAll, decodeAll_eq n es, Decoder.elements]
  | .broken .. => rfl

/-- Entries behind those that stand before are put there one by one. -/
theorem givesIf_decodeEntries {n : Nat} :
    ∀ (ms : Members) {acc es : List (String × Term)}, ms.Closed → Ascending (acc ++ es) →
      List.Forall₂ (fun v e => (∃ after, Literal.read v.1 = .ok (e.1.toList, after)) ∧
        GivesIf (e.2.depth ≤ n) e.2 (decode n v.2)) ms.toList es →
        GivesIf (∀ e ∈ es, e.2.depth ≤ n) (acc ++ es) (decodeEntries n acc ms)
  | .close _, acc, es, _, _, h => by
    cases h
    rw [List.append_nil]
    exact (GivesIf.of_eq rfl).congr (by simp)
  | .next key colon v ms, acc, es, hc, hasc, h => by
    cases h with
    | @cons _ e _ es hv hms =>
      obtain ⟨⟨after, hkey⟩, hv⟩ := hv
      -- the key is greater than all before, so that the entry is added at the end
      have hlast : ∀ d ∈ acc, d.1 < e.1 := fun d hd =>
        (List.pairwise_append.1 hasc).2.2 d hd e List.mem_cons_self
      have hmore : acc ++ e :: es = acc ++ [e] ++ es := by simp
      have hrest := givesIf_decodeEntries ms hc (hmore ▸ hasc) hms
      rw [decodeEntries, hkey, hmore, List.forall_mem_cons]
      refine hv.bind ?_
      rwa [String.ofList_toList, Entries.insert_of_forall_lt hlast]
  | .keyOnly .., _, _, hc, _, _ => hc.elim
  | .broken .., _, _, hc, _, _ => hc.elim

theorem rereads_scalar {t : Term} {n : Nat} {A : Outline → Prop} (hdepth : t.depth = 0)
    (h : ReadsAs A t.print) (hA : ∀ o, A o → decode n o = .ok t) :
    Rereads (decode n) (t.depth ≤ n) t t.print :=
  h.mono fun o ho => (GivesIf.of_eq (hA o ho)).congr (by simp [hdepth])

theorem rereads_array {ts : List Term} (n : Nat)
    (h : ∀ t ∈ ts, ∀ n, Rereads (decode n) (t.depth ≤ n) t t.print) :
    Rereads (decode n) ((Term.array ts).depth ≤ n) (.array ts) (Term.array ts).print := by
  rw [print, printAll_eq]
  cases n with
  | zero =>
    refine (rereads_elements fun t ht => h t ht 0).mono ?_
    rintro o ⟨s, es, rfl, -⟩
    exact .of_not (by simp [depth])
  | succ n =>
    refine (rereads_elements fun t ht => h t ht n).mono ?_
    rintro o ⟨s, es, rfl, hes⟩
    rw [decode, decodeAll_eq]
    exact (hes.map Term.array).congr depth_array_le_iff.symm

theorem readsAs_print_object {es : List (String × Term)} (n : Nat) (hasc : Ascending es)
    (h : ∀ e ∈ es, ∀ n, Rereads (decode n) (e.2.depth ≤ n) e.2 e.2.print) :
    ReadsAs (fun o => ∃ s ms, o = .object s ms ∧
      GivesIf ((Term.object es).depth ≤ n) (.object es) (decode n o)) (Term.object es).print := by
  rw [print, printEntries_eq]
  have hparts : ∀ m ∈ es.map fun e => (e.1, e.2.print), ∃ A, ReadsAs A m.2 := by
    intro m hm
    obtain ⟨e, he, rfl⟩ := List.mem_map.1 hm
    exact ⟨_, h e he 0⟩
  refine (readsAs_object hparts).mono ?_
  rintro o ⟨s, ms, rfl, hc, hms⟩
  refine ⟨s, ms, rfl, ?_⟩
  cases n with
  | zero => exact .of_not (by simp [depth])
  | succ n =>
    have hsame : List.Forall₂ (fun e d => e = d ∧
        Rereads (decode n) (e.2.depth ≤ n) e.2 e.2.print) es es :=
      List.forall₂_same.2 fun e he => ⟨rfl, h e he n⟩
    have hvalues : List.Forall₂ (fun v e => (∃ after, Literal.read v.1 = .ok (e.1.toList, after)) ∧
        GivesIf (e.2.depth ≤ n) e.2 (decode n v.2)) ms.toList es := by
      refine forall₂_trans (List.forall₂_map_right_iff.1 hms) hsame ?_
      rintro v e d ⟨hkey, hv⟩ ⟨rfl, he⟩
      exact ⟨hkey, hv _ he⟩
    have hentries := @givesIf_decodeEntries n ms [] es hc hasc hvalues
    exact (hentries.map Term.object).congr depth_object_le_iff.symm

/-- A text without floating-point numbers is read back as the term, if that is not too deep. -/
theorem rereads_print {t : Term} (hord : t.Ordered) (hfree : t.FloatFree) (n : Nat) :
    Rereads (decode n) (t.depth ≤ n) t t.print := by
  induction t using Term.induction generalizing n with
  | null =>
    refine rereads_scalar rfl readsAs_null ?_
    rintro o ⟨_, _, rfl⟩
    rfl
  | bool b =>
    cases b with
    | false =>
      refine rereads_scalar rfl readsAs_false ?_
      rintro o ⟨_, _, rfl⟩
      rfl
    | true =>
      refine rereads_scalar rfl readsAs_true ?_
      rintro o ⟨_, _, rfl⟩
      rfl
  | number m =>
    obtain ⟨w, rfl⟩ := hfree
    refine rereads_scalar rfl (readsAs_isNumeral (Printer.isNumeral_int w.toInt)) ?_
    rintro o ⟨_, r, rfl⟩
    rw [decode, Numeral.value_word]
    rfl
  | string s =>
    refine rereads_scalar rfl (readsAs_isString (Printer.isString_string s)) ?_
    rintro o ⟨body, r, rfl, hread⟩
    exact map_eq_ok_iff.2 ⟨_, hread, by simp only [String.ofList_toList]⟩
  | array ts ih =>
    have hord := (orderedAll_iff ts).1 hord
    have hfree := floatFreeAll_iff.1 hfree
    exact rereads_array n fun t ht => ih t ht (hord t ht) (hfree t ht)
  | object es ih =>
    have hfree := floatFreeEntries_iff.1 hfree
    obtain ⟨hasc, hord⟩ := hord
    rw [orderedEntries_iff] at hord
    refine (readsAs_print_object n hasc fun e he => ih e he (hord e he) (hfree e he)).mono ?_
    rintro o ⟨_, _, -, ho⟩
    exact ho

end Term

/-! ### Values -/

namespace Value

variable {n : Nat} {o : Outline} {v : Value} {t : Table Value}

/-- The number of brackets around the innermost part of a value. -/
def depth (v : Value) : Nat := v.term.depth

/-- Every number in the value is an integer. -/
def FloatFree (v : Value) : Prop := v.term.FloatFree

theorem map_term_decoder (n : Nat) (o : Outline) :
    (decoder n o).map (·.term) = Term.decode n o := by
  unfold decoder
  split
  · rename_i h
    exact h.symm
  · rename_i h
    exact h.symm

theorem givesIf_decoder {p : Prop} (h : GivesIf p v.term (Term.decode n o)) :
    GivesIf p v (decoder n o) where
  ok hp := by
    have hterm := h.ok hp
    rw [← map_term_decoder] at hterm
    obtain ⟨w, hw, hvw⟩ := map_eq_ok_iff.1 hterm
    rw [hw, Value.ext hvw]
  tooDeep hp := by
    obtain ⟨f, hf, hcause⟩ := h.tooDeep hp
    rw [← map_term_decoder] at hf
    cases hd : decoder n o with
    | ok => rw [hd] at hf; cases hf
    | error => rw [hd] at hf; cases hf; exact ⟨f, rfl, hcause⟩

theorem depth_le_of_decoder (h : decoder n o = .ok v) : v.depth ≤ n := by
  have hterm : Term.decode n o = .ok v.term := by rw [← map_term_decoder, h]; rfl
  exact Term.depth_le_of_decode hterm

theorem table?_object (t : Table Value) : (object t).table? = some t := by
  refine congrArg some (Table.ext ?_)
  show valuesOf (entriesOf t) _ = t.entries
  simp only [valuesOf, entriesOf, List.pmap_map]
  exact (List.pmap_eq_map ..).trans (List.map_id' _)

/-- Only an object has members, and it is the object of them. -/
theorem eq_object_of_table? (h : v.table? = some t) : v = object t := by
  obtain ⟨term, hord⟩ := v
  cases term with
  | object es =>
    cases h
    refine Value.ext (congrArg Term.object ?_)
    simp [valuesOf, entriesOf, List.map_pmap]
  | _ => cases h

theorem depth_object_le_iff :
    (object t).depth ≤ n + 1 ↔ ∀ e ∈ t.entries, e.2.depth ≤ n := by
  rw [depth, object, Term.depth_object_le_iff, entriesOf, List.forall_mem_map]
  rfl

theorem rereads_table (n : Nat) (h : ∀ e ∈ t.entries, e.2.FloatFree) :
    Rereads (tableDecoder n) ((object t).depth ≤ n) t (object t).term.print := by
  have hparts : ∀ e ∈ entriesOf t, ∀ n, Rereads (Term.decode n) (e.2.depth ≤ n) e.2 e.2.print := by
    intro e he n
    obtain ⟨d, hd, rfl⟩ := List.mem_map.1 he
    exact Term.rereads_print d.2.ordered (h d hd) n
  refine (Term.readsAs_print_object n (object t).ordered.1 hparts).mono ?_
  rintro o ⟨s, ms, rfl, ho⟩
  have hvalue : GivesIf ((object t).depth ≤ n) (object t) (decoder n (.object s ms)) :=
    givesIf_decoder ho
  refine (hvalue.bind (.of_eq ?_)).congr (iff_of_eq (and_true _))
  rw [table?_object]
  rfl

/-- The members of an object are not as deep as was allowed for the object. -/
theorem depth_le_of_tableDecoder (h : tableDecoder (n + 1) o = .ok t) :
    ∀ e ∈ t.entries, e.2.depth ≤ n := by
  cases o with
  | object s ms =>
    obtain ⟨v, hv, hpure⟩ := bind_eq_ok_iff.1 h
    cases hpure
    have hdepth := depth_le_of_decoder hv
    cases htable : v.table? with
    | none => simp [Table.empty]
    | some t =>
      rw [eq_object_of_table? htable] at hdepth
      exact depth_object_le_iff.1 hdepth
  | _ => cases h

end Value

end Json

end Parley
