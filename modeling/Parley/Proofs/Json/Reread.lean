import Parley.Proofs.Json.Printer
import Parley.Proofs.Json.Record

/-!
# Reading back what was printed

A printed value is read back as the value that it was printed from.  Only its depth may be in the
way: a decoder opens a limited number of brackets.  A reading that is in one of these two cases is
told by `GivesIf`, and a text that is read so wherever it stands by `Rereads`.

* `GivesIf.bind` : a chain of steps fits if each of them does.
* `rereads_elements`, `rereads_record` : printed lists and records are read back if their parts are.
* `rereads_members` : fields that may be missing need not be printed, and the order does not matter.
* `Rereads.decode_eq_ok_iff`, `Rereads.decode_eq_error` : what becomes of a whole printed text.
-/

namespace Parley

namespace Json

open Grammar Outline

/-! ### Steps that may be nested too deep -/

/-- A step that gives `a` if it fits, and otherwise fails because too many brackets are open. -/
structure GivesIf {α : Type} (fits : Prop) (a : α) (x : Except Fault α) : Prop where
  /-- What fits is given. -/
  ok : fits → x = .ok a
  /-- What does not fit is nested too deep. -/
  tooDeep : ¬fits → ∃ f, x = .error f ∧ f.cause = .nestedTooDeep

namespace GivesIf

variable {α β : Type} {p q : Prop} {a : α} {b : β} {x : Except Fault α}

theorem of_eq (h : x = .ok a) : GivesIf True a x := ⟨fun _ => h, fun hn => absurd trivial hn⟩

theorem of_not {s : Chars} (hp : ¬p) : GivesIf p a (.error (.upon .nestedTooDeep s)) :=
  ⟨fun h => absurd h hp, fun _ => ⟨_, rfl, rfl⟩⟩

theorem congr (h : GivesIf p a x) (hpq : p ↔ q) : GivesIf q a x :=
  ⟨fun hq => h.ok (hpq.2 hq), fun hq => h.tooDeep fun hp => hq (hpq.1 hp)⟩

theorem map (h : GivesIf p a x) (f : α → β) : GivesIf p (f a) (x.map f) where
  ok hp := by rw [h.ok hp]; rfl
  tooDeep hp := by
    obtain ⟨fault, hx, hcause⟩ := h.tooDeep hp
    exact ⟨fault, by rw [hx]; rfl, hcause⟩

/-- The second step matters only if the first one fits. -/
theorem bind {f : α → Except Fault β} (h : GivesIf p a x) (hf : GivesIf q b (f a)) :
    GivesIf (p ∧ q) b (x >>= f) where
  ok hpq := by
    rw [h.ok hpq.1]
    exact hf.ok hpq.2
  tooDeep hpq := by
    by_cases hp : p
    · rw [h.ok hp]
      exact hf.tooDeep fun hq => hpq ⟨hp, hq⟩
    · obtain ⟨fault, hx, hcause⟩ := h.tooDeep hp
      exact ⟨fault, by rw [hx]; rfl, hcause⟩

end GivesIf

section

variable {α : Type} {d : Decoder α} {n : Nat} {p q : Prop} {a : α} {t : Chars}

/-- Wherever the text stands, the decoder gives `a` of it if it fits. -/
def Rereads (d : Outline → Except Fault α) (fits : Prop) (a : α) (t : Chars) : Prop :=
  ReadsAs (fun o => GivesIf fits a (d o)) t

theorem Rereads.congr {d : Outline → Except Fault α} (h : Rereads d p a t) (hpq : p ↔ q) :
    Rereads d q a t :=
  h.mono fun _ ho => ho.congr hpq

/-- The outline satisfies everything that the text is read as. -/
def OutlineOf (o : Outline) (t : Chars) : Prop := ∀ A, ReadsAs A t → A o

theorem readsAs_outlineOf {A : Outline → Prop} (h : ReadsAs A t) : ReadsAs (OutlineOf · t) t :=
  ReadsAs.all (fun _ hB => hB) h

/-! ### Whole texts -/

/-- A text that is read up to its end is decoded as a whole. -/
theorem decode_ofList {A : Outline → Prop} (h : ReadsAs A t) :
    ∃ o, A o ∧ d.decode (String.ofList t) =
      match d nestingLimit o with
      | .error f => .error (f.locate t)
      | .ok a => .ok a := by
  obtain ⟨o, ho, hA⟩ := h Follows.nil (Nat.lt_succ_self _)
  rw [List.append_nil] at ho
  have hgap : dropGap t = t := (stops_gap_of_not_follows (not_follows_of_read ho)).dropWhile
  refine ⟨o, hA, ?_⟩
  simp only [Decoder.decode, String.toList_ofList, ofText, hgap, ho]
  rfl

theorem Rereads.decode_eq_ok_iff (h : Rereads (d nestingLimit) p a t) :
    d.decode (String.ofList t) = .ok a ↔ p := by
  obtain ⟨o, ho, hdecode⟩ := decode_ofList (d := d) h
  rw [hdecode]
  constructor
  · intro hok
    by_contra hp
    obtain ⟨f, hf, -⟩ := ho.tooDeep hp
    rw [hf] at hok
    cases hok
  · intro hp
    rw [ho.ok hp]

theorem Rereads.decode_eq_error (h : Rereads (d nestingLimit) p a t) (hp : ¬p) :
    ∃ e, d.decode (String.ofList t) = .error e ∧ e.cause = .nestedTooDeep := by
  obtain ⟨o, ho, hdecode⟩ := decode_ofList (d := d) h
  obtain ⟨f, hf, hcause⟩ := ho.tooDeep hp
  rw [hdecode, hf]
  exact ⟨f.locate t, rfl, hcause⟩

/-! ### Strings, numbers and names -/

theorem readsAs_isString {s : String} (h : IsString s t) :
    ReadsAs (fun o => ∃ body r, o = .string body r ∧ Literal.read body = .ok (s.toList, r)) t := by
  obtain ⟨b, hb, rfl⟩ := h
  refine (readsAs_wellSpelled hb.wellSpelled).mono ?_
  rintro o ⟨r, rfl⟩
  exact ⟨_, r, rfl, Literal.read_of_denotes hb r⟩

theorem rereads_string (n : Nat) (s : String) :
    Rereads (Decoder.string n) True s (Printer.string s) :=
  ((accepts_string n).complete (Printer.isString_string s)).mono fun _ ho => .of_eq ho

/-- A string that denotes something is read back as what it denotes. -/
theorem rereads_stringOf {expected : String} {make : String → Except String α} {s : String}
    (hs : make s = .ok a) (n : Nat) :
    Rereads (Decoder.stringOf expected make n) True a (Printer.string s) := by
  refine (readsAs_isString (Printer.isString_string s)).mono ?_
  rintro o ⟨body, r, rfl, hread⟩
  refine .of_eq (bind_eq_ok_iff.2 ⟨_, hread, ?_⟩)
  simp only [String.ofList_toList, hs]
  rfl

/-- A name is read back as what it stands for. -/
theorem rereads_variant {names : List (String × α)} {name : String}
    (h : names.lookup name = some a) (n : Nat) :
    Rereads (Decoder.variant names n) True a (Printer.string name) := by
  refine (readsAs_isString (Printer.isString_string name)).mono ?_
  rintro o ⟨body, r, rfl, hread⟩
  refine .of_eq (bind_eq_ok_iff.2 ⟨_, hread, ?_⟩)
  simp only [String.ofList_toList, Decoder.named, h]

theorem rereads_word32 (n : Nat) (w : UInt32) :
    Rereads (Decoder.word32 n) True w (Printer.nat w.toNat) := by
  have hw := w.toNat_lt
  obtain ⟨word, hword⟩ : ∃ v : Word, v.toInt = w.toNat := ⟨⟨w.toNat, by omega⟩, rfl⟩
  have hfits : 0 ≤ word.toInt ∧ word.toInt ≤ (2 ^ 32 - 1 : Nat) := by omega
  refine (readsAs_isNumeral (Printer.isNumeral_nat w.toNat)).mono ?_
  rintro o ⟨s, r, rfl⟩
  refine .of_eq (map_eq_ok_iff.2 ⟨w.toNat, ?_, UInt32.ofNat_toNat⟩)
  refine bind_eq_ok_iff.2 ⟨_, Numeral.value_nat hword r, ?_⟩
  simp only [if_pos hfits]
  rw [hword]
  rfl

theorem rereads_nat (n : Nat) {i : Nat} (hi : i < 2 ^ 32) :
    Rereads (Decoder.word32 n) True (UInt32.ofNat i) (Printer.nat i) := by
  have hword := rereads_word32 n (UInt32.ofNat i)
  rwa [UInt32.toNat_ofNat_of_lt' hi] at hword

/-! ### Values that may be null -/

theorem rereads_null (n : Nat) :
    Rereads (Decoder.optional d n) True none ['n', 'u', 'l', 'l'] := by
  refine readsAs_null.mono ?_
  rintro o ⟨s, r, rfl⟩
  exact .of_eq rfl

theorem rereads_optional (h : Rereads (d n) True a t) (hnull : ∀ s r a, d n (.null s r) ≠ .ok a) :
    Rereads (Decoder.optional d n) True (some a) t :=
  (readsAs_optional (h.mono fun _ ho => ho.ok trivial) hnull).mono fun _ ho => .of_eq ho

/-! ### Lists -/

/-- Elements that each fit or are nested too deep make a list that fits if they all do. -/
theorem givesIf_elements {fits : α → Prop} : ∀ (es : Elements) {as : List α}, es.Closed →
    List.Forall₂ (fun v a => GivesIf (fits a) a (d n v)) es.toList as →
      GivesIf (∀ a ∈ as, fits a) as (Decoder.elements d n es)
  | .close _, as, _, h => by
    cases h
    exact (GivesIf.of_eq rfl).congr (by simp)
  | .next v es, as, hc, h => by
    cases h with
    | @cons _ a _ _ hv hes =>
      have hrest := (givesIf_elements es hc hes).map (a :: ·)
      exact (hv.bind hrest).congr List.forall_mem_cons.symm
  | .broken .., _, hc, _ => hc.elim

theorem readsAs_list {ps : List Chars} (h : ∀ p ∈ ps, ∃ A, ReadsAs A p) :
    ReadsAs (fun o => ∃ s es, o = .array s es ∧ es.Closed ∧ List.Forall₂ OutlineOf es.toList ps)
      (Printer.list ps) := by
  refine readsAs_isList (Printer.isList_list ps) fun p hp => ?_
  obtain ⟨A, hA⟩ := h p hp
  exact readsAs_outlineOf hA

/-- A printed list is read back element by element. -/
theorem rereads_parts {as : List α} {ts : List Chars} {p : α → Prop}
    (h : List.Forall₂ (fun a t => Rereads (d n) (p a) a t) as ts) :
    ReadsAs (fun o => ∃ s es, o = .array s es ∧
      GivesIf (∀ a ∈ as, p a) as (Decoder.elements d n es)) (Printer.list ts) := by
  have hparts : ∀ t ∈ ts, ∃ A, ReadsAs A t := by
    intro t ht
    obtain ⟨a, -, ha⟩ := forall₂_mem_right h t ht
    exact ⟨_, ha⟩
  refine (readsAs_list hparts).mono ?_
  rintro o ⟨s, es, rfl, hc, hes⟩
  exact ⟨s, es, rfl, givesIf_elements es hc (forall₂_trans hes h.flip fun _ _ _ hv ha => hv _ ha)⟩

theorem rereads_elements {as : List α} {print : α → Chars} {p : α → Prop}
    (h : ∀ a ∈ as, Rereads (d n) (p a) a (print a)) :
    ReadsAs (fun o => ∃ s es, o = .array s es ∧
      GivesIf (∀ a ∈ as, p a) as (Decoder.elements d n es)) (Printer.list (as.map print)) :=
  rereads_parts (List.forall₂_map_right_iff.2 (List.forall₂_same.2 h))

theorem rereads_listOf {as : List α} {ts : List Chars}
    (h : List.Forall₂ (fun a t => Rereads (d n) True a t) as ts) :
    Rereads (Decoder.list d (n + 1)) True as (Printer.list ts) := by
  refine (rereads_parts (p := fun _ => True) h).mono ?_
  rintro o ⟨s, es, rfl, hes⟩
  exact hes.congr (by simp)

theorem rereads_list {as : List α} {print : α → Chars} (h : ∀ a, Rereads (d n) True a (print a)) :
    Rereads (Decoder.list d (n + 1)) True as (Printer.list (as.map print)) :=
  rereads_listOf (List.forall₂_map_right_iff.2 (List.forall₂_same.2 fun a _ => h a))

end

/-! ### Objects -/

/-- The members of an outline have the names and the texts of printed ones. -/
def MembersOf (ns : List (Chars × Outline)) (ms : List (String × Chars)) : Prop :=
  List.Forall₂ (fun v m => (∃ after, Literal.read v.1 = .ok (m.1.toList, after)) ∧
    OutlineOf v.2 m.2) ns ms

theorem readsAs_object {ms : List (String × Chars)} (h : ∀ m ∈ ms, ∃ A, ReadsAs A m.2) :
    ReadsAs (fun o => ∃ s ns, o = .object s ns ∧ ns.Closed ∧ MembersOf ns.toList ms)
      (Printer.object ms) := by
  obtain ⟨ks, hnames, hobject⟩ := Printer.hasMembers_object ms
  have hkeys : ∀ k ∈ ks, WellSpelled k.1 ∧ ReadsAs (OutlineOf · k.2) k.2 := by
    intro k hk
    obtain ⟨m, hm, hdenotes, hvalue⟩ := forall₂_mem_right hnames k hk
    obtain ⟨A, hA⟩ := h m hm
    exact ⟨hdenotes.wellSpelled, hvalue ▸ readsAs_outlineOf hA⟩
  refine (readsAs_isObject hobject (fun k hk => (hkeys k hk).1) fun k hk => (hkeys k hk).2).mono ?_
  rintro o ⟨s, ns, rfl, hc, hns⟩
  refine ⟨s, ns, rfl, hc, forall₂_trans hns hnames.flip ?_⟩
  rintro v k m ⟨-, ⟨u, hkey⟩, hv⟩ ⟨hdenotes, hvalue⟩
  exact ⟨⟨u, hkey ▸ Literal.read_of_denotes hdenotes u⟩, hvalue ▸ hv⟩

/-! ### Records -/

section

variable {α β : Type} {r : Record α} {n : Nat}

/-- The members hold the values of the fields in turn, which turn the record `a` into `b` if all of
them fit. -/
inductive Fills (n : Nat) : List (Field α) → List (String × Chars) → Prop → α → α → Prop
  | done {a : α} : Fills n [] [] True a a
  | field {f : Field α} {fs : List (Field α)} {t : Chars} {ms : List (String × Chars)}
      {p q : Prop} {a b c : α} :
      Rereads (fun o => f.put n o a) p b t → Fills n fs ms q b c →
        Fills n (f :: fs) ((f.name, t) :: ms) (p ∧ q) a c

/-- A field is filled with the value of its text. -/
theorem Fills.of {d : Decoder β} {name : String} {absence : Absence} {set : α → β → α}
    {fs : List (Field α)} {t : Chars} {ms : List (String × Chars)} {p q : Prop} {a c : α} {b : β}
    (h : Rereads (d n) p b t) (hrest : Fills n fs ms q (set a b) c) :
    Fills n (.of name absence d set :: fs) ((name, t) :: ms) (p ∧ q) a c :=
  .field (f := .of name absence d set) (h.mono fun _ ho => ho.map (set a)) hrest

theorem Fills.readsAs {fs : List (Field α)} {ms : List (String × Chars)} {p : Prop} {a b : α}
    (h : Fills n fs ms p a b) : ∀ m ∈ ms, ∃ A, ReadsAs A m.2 := by
  induction h with
  | done => simp
  | field hf _ ih => exact List.forall_mem_cons.2 ⟨⟨_, hf⟩, ih⟩

/-- Members of fields that are left fill the record, if none that must be there is missing. -/
theorem Fills.fromMembers (hr : (r.fields.map (·.name)).Nodup) {fs : List (Field α)}
    {ms : List (String × Chars)} {p : Prop} {a b : α} (h : Fills n fs ms p a b) :
    ∀ {ns : Members} {seen : List String}, ns.Closed → MembersOf ns.toList ms →
      (∀ f ∈ fs, f ∈ r.fields ∧ f.name ∉ seen) → (fs.map (·.name)).Nodup →
        (∀ f ∈ r.fields, f.absence = .required → f.name ∈ seen ∨ f ∈ fs) →
          GivesIf p b (r.fromMembers n seen ns a) := by
  induction h with
  | done =>
    intro ns seen hc hns _ _ hseen
    cases ns with
    | close after =>
      have hcomplete : r.complete seen after = .ok () :=
        Record.complete_eq_ok_iff.2 fun f hf hrequired => by simpa using hseen f hf hrequired
      rw [Record.fromMembers, hcomplete]
      exact .of_eq rfl
    | next => cases hns
    | keyOnly => exact hc.elim
    | broken => exact hc.elim
  | @field f fs t ms p q a b c hput _ ih =>
    intro ns seen hc hns hfs hnodup hseen
    cases ns with
    | close => cases hns
    | next key colon v ns =>
      obtain ⟨⟨hkey, hv⟩, hns⟩ := List.forall₂_cons.1 hns
      obtain ⟨⟨hf, hfseen⟩, hfs⟩ := List.forall_mem_cons.1 hfs
      obtain ⟨hname, hnodup⟩ := List.nodup_cons.1 hnodup
      have hfield : r.fieldFor seen key colon = .ok (some f) :=
        (Record.fieldFor_eq_some_iff hr).2 ⟨hf, hfseen, hkey⟩
      rw [Record.fromMembers, hfield]
      refine (hv _ hput).bind (@ih ns (f.name :: seen) hc hns ?_ hnodup ?_)
      · intro g hg
        have hgf : g.name ≠ f.name := fun hgf => hname (List.mem_map.2 ⟨g, hg, hgf⟩)
        exact ⟨(hfs g hg).1, List.not_mem_cons_of_ne_of_not_mem hgf (hfs g hg).2⟩
      · intro g hg hrequired
        rcases hseen g hg hrequired with hg | hg
        · exact .inl (List.mem_cons_of_mem _ hg)
        · rcases List.mem_cons.1 hg with rfl | hg
          · exact .inl List.mem_cons_self
          · exact .inr hg
    | keyOnly => exact hc.elim
    | broken => exact hc.elim

/-- A record of which some fields are printed, among them all that must be there, is read back, one
bracket deeper than its fields. -/
theorem rereads_members {fs : List (Field α)} {ms : List (String × Chars)} {p : Prop} {a : α}
    (hr : (r.fields.map (·.name)).Nodup) (h : Fills n fs ms p r.blank a)
    (hfs : ∀ f ∈ fs, f ∈ r.fields) (hnodup : (fs.map (·.name)).Nodup)
    (hrequired : ∀ f ∈ r.fields, f.absence = .required → f ∈ fs) :
    Rereads (r.decoder (n + 1)) p a (Printer.object ms) := by
  refine (readsAs_object h.readsAs).mono ?_
  rintro o ⟨s, ns, rfl, hc, hns⟩
  exact h.fromMembers hr hc hns (fun f hf => ⟨hfs f hf, by simp⟩) hnodup
    fun f hf habsence => .inr (hrequired f hf habsence)

/-- A record that is printed field by field is read back. -/
theorem rereads_record {ms : List (String × Chars)} {p : Prop} {a : α}
    (hr : (r.fields.map (·.name)).Nodup) (h : Fills n r.fields ms p r.blank a) :
    Rereads (r.decoder (n + 1)) p a (Printer.object ms) :=
  rereads_members hr h (fun _ hf => hf) hr fun _ hf _ => hf

end

end Json

end Parley
