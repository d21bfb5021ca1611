import Mathlib.Data.List.Nodup
import Parley.Json.Record
import Parley.Proofs.Json.Decoder

/-!
# The texts of records

A record is written as an object, whose members come in any order and among others, or as a list of
its fields.  Both are told by what is done with each part (`Use`): it is passed over, or a field
puts it into the record.  The same relation `Gathers` is used of outlines and of texts, so that the
two sides are compared part by part (`Gathers.map`).

* `fromMembers_eq_ok_iff`, `fromElements_eq_ok_iff` : what the decoder of a record does.
* `Record.holds_of_decoder` : an invariant of the fields holds of every record that is decoded.
* `Settles` : what the members of an object make of one field.
* `accepts_record` : the decoder accepts the texts of the record, if each field accepts its own.
* `accepts_single` : a record of one field, which has to be there.
-/

namespace Parley

namespace Json

open Grammar Outline

variable {α : Type}

/-! ### The fields of an object and of a list -/

/-- What is done with a part of a record. -/
inductive Use (r : Record α) where
  /-- It is passed over. -/
  | pass
  /-- The field puts it into `a`, which gives `b`. -/
  | put (f : Field α) (hf : f ∈ r.fields) (a b : α)

section

variable {β γ : Type} {r : Record α}

/-- The members of an object turn the record `a` into `b`, where `S` tells which use is made of
which value and the fields in `seen` stand before. -/
inductive Gathers (S : Use r → β → Prop) : List String → List (String × β) → α → α → Prop
  | done {seen : List String} {a : α} :
      (∀ f ∈ r.fields, f.absence = .required → f.name ∈ seen) → Gathers S seen [] a a
  | other {seen : List String} {name : String} {v : β} {ms : List (String × β)} {a b : α} :
      (∀ f ∈ r.fields, f.name ≠ name) → S .pass v → Gathers S seen ms a b →
        Gathers S seen ((name, v) :: ms) a b
  | field {seen : List String} {f : Field α} {v : β} {ms : List (String × β)} {a b c : α}
      (hf : f ∈ r.fields) :
      f.name ∉ seen → S (.put f hf a b) v → Gathers S (f.name :: seen) ms b c →
        Gathers S seen ((f.name, v) :: ms) a c

/-- The elements of a list are values of the fields in turn, and turn the record `a` into `b`. -/
inductive Lists (S : Use r → β → Prop) : List (Field α) → List β → α → α → Prop
  | done {fs : List (Field α)} {a : α} : (∀ f ∈ fs, f.absence = .defaulted) → Lists S fs [] a a
  | field {f : Field α} {fs : List (Field α)} {v : β} {vs : List β} {a b c : α}
      (hf : f ∈ r.fields) :
      S (.put f hf a b) v → Lists S fs vs b c → Lists S (f :: fs) (v :: vs) a c

variable {S : Use r → β → Prop} {T : Use r → γ → Prop}

/-- Every value in an object is used in some way. -/
theorem Gathers.used {seen : List String} {ms : List (String × β)} {a b : α}
    (h : Gathers S seen ms a b) : ∀ m ∈ ms, ∃ u, S u m.2 := by
  induction h with
  | done => simp
  | other _ hv _ ih => exact List.forall_mem_cons.2 ⟨⟨_, hv⟩, ih⟩
  | field _ _ hv _ ih => exact List.forall_mem_cons.2 ⟨⟨_, hv⟩, ih⟩

theorem Lists.used {fs : List (Field α)} {vs : List β} {a b : α} (h : Lists S fs vs a b) :
    ∀ v ∈ vs, ∃ u, S u v := by
  induction h with
  | done => simp
  | field _ hv _ ih => exact List.forall_mem_cons.2 ⟨⟨_, hv⟩, ih⟩

/-- What every field keeps is kept by the members of an object. -/
theorem Gathers.keeps {P : α → Prop}
    (hS : ∀ f (hf : f ∈ r.fields) a b v, S (.put f hf a b) v → P a → P b) {seen : List String}
    {ms : List (String × β)} {a b : α} (h : Gathers S seen ms a b) (ha : P a) : P b := by
  induction h with
  | done => exact ha
  | other _ _ _ ih => exact ih ha
  | field hf _ hv _ ih => exact ih (hS _ hf _ _ _ hv ha)

theorem Lists.keeps {P : α → Prop}
    (hS : ∀ f (hf : f ∈ r.fields) a b v, S (.put f hf a b) v → P a → P b) {fs : List (Field α)}
    {vs : List β} {a b : α} (h : Lists S fs vs a b) (ha : P a) : P b := by
  induction h with
  | done => exact ha
  | field hf hv _ ih => exact ih (hS _ hf _ _ _ hv ha)

/-- Values that allow the same uses under the same names gather the same record. -/
theorem Gathers.map {seen : List String} {ms : List (String × β)} {ns : List (String × γ)}
    {a b : α} (h : Gathers S seen ms a b)
    (hn : List.Forall₂ (fun m n => n.1 = m.1 ∧ ∀ u, S u m.2 → T u n.2) ms ns) :
    Gathers T seen ns a b := by
  induction h generalizing ns with
  | done hreq =>
    cases hn
    exact .done hreq
  | other hother hv _ ih =>
    obtain ⟨⟨_, w⟩, ns, ⟨rfl, hw⟩, hns, rfl⟩ := List.forall₂_cons_left_iff.1 hn
    exact .other hother (hw _ hv) (ih hns)
  | field hf hseen hv _ ih =>
    obtain ⟨⟨_, w⟩, ns, ⟨rfl, hw⟩, hns, rfl⟩ := List.forall₂_cons_left_iff.1 hn
    exact .field hf hseen (hw _ hv) (ih hns)

theorem Lists.map {fs : List (Field α)} {vs : List β} {ws : List γ} {a b : α}
    (h : Lists S fs vs a b) (hw : List.Forall₂ (fun v w => ∀ u, S u v → T u w) vs ws) :
    Lists T fs ws a b := by
  induction h generalizing ws with
  | done habs =>
    cases hw
    exact .done habs
  | field hf hv _ ih =>
    cases hw with
    | cons hvw hws => exact .field hf (hvw _ hv) (ih hws)

end

/-! ### What the decoder does -/

/-- The use that a decoder makes of the outline of a value. -/
def Use.OfOutline (n : Nat) {r : Record α} : Use r → Outline → Prop
  | .pass, v => v.skip = .ok ()
  | .put f _ a b, v => f.put n v a = .ok b

/-- The key of a member of an outline denotes the name. -/
def Keyed (m : Chars × Outline) (f : String × Outline) : Prop :=
  (∃ after, Literal.read m.1 = .ok (f.1.toList, after)) ∧ m.2 = f.2

namespace Record

variable {r : Record α} {n : Nat}

theorem complete_eq_ok_iff {seen : List String} {after : Chars} :
    r.complete seen after = .ok () ↔
      ∀ f ∈ r.fields, f.absence = .required → f.name ∈ seen := by
  unfold complete
  split
  · rename_i f hf
    obtain ⟨hreq, hseen⟩ := Bool.and_eq_true _ _ ▸ List.find?_some hf
    have hmem := List.mem_of_find?_eq_some hf
    simp only [reduceCtorEq, false_iff]
    intro h
    exact absurd (h f hmem (by simpa using hreq)) (by simpa using hseen)
  · rename_i hf
    simp only [List.find?_eq_none, Bool.and_eq_true, not_and, decide_eq_true_eq] at hf
    simp only [true_iff]
    intro f hmem hreq
    simpa using hf f hmem hreq

theorem fieldFor_eq_none_iff {seen : List String} {key colon : Chars} :
    r.fieldFor seen key colon = .ok none ↔
      ∃ name after, Literal.read key = .ok (String.toList name, after) ∧
        ∀ f ∈ r.fields, f.name ≠ name := by
  simp only [fieldFor, bind_eq_ok_iff]
  constructor
  · rintro ⟨⟨cs, after⟩, hkey, h⟩
    refine ⟨String.ofList cs, after, by simpa using hkey, ?_⟩
    split at h
    · rename_i hf
      simpa using hf
    · split at h <;> cases h
  · rintro ⟨name, after, hkey, hf⟩
    refine ⟨_, hkey, ?_⟩
    have hnone : r.fields.find? (fun f => f.name = String.ofList name.toList) = none := by
      simpa using hf
    simp only [hnone]
    rfl

/-- The names of the fields have to be distinct, since a key means the first field of its name. -/
theorem fieldFor_eq_some_iff (hr : (r.fields.map (·.name)).Nodup) {seen : List String}
    {key colon : Chars} {f : Field α} :
    r.fieldFor seen key colon = .ok (some f) ↔
      f ∈ r.fields ∧ f.name ∉ seen ∧ ∃ after, Literal.read key = .ok (f.name.toList, after) := by
  simp only [fieldFor, bind_eq_ok_iff]
  constructor
  · rintro ⟨⟨cs, after⟩, hkey, h⟩
    split at h
    · cases h
    · rename_i g hg
      have hname : g.name = String.ofList cs := by simpa using List.find?_some hg
      split at h
      · cases h
      · rename_i hseen
        cases h
        have hmem := List.mem_of_find?_eq_some hg
        exact ⟨hmem, by simpa using hseen, after, by simpa [hname] using hkey⟩
  · rintro ⟨hf, hseen, after, hkey⟩
    refine ⟨_, hkey, ?_⟩
    have hsome : r.fields.find? (fun g => g.name = String.ofList f.name.toList) = some f := by
      rw [String.ofList_toList]
      cases hg : r.fields.find? (fun g => g.name = f.name) with
      | none =>
        have hne := List.find?_eq_none.1 hg f hf
        simp at hne
      | some g =>
        have hname : g.name = f.name := by simpa using List.find?_some hg
        rw [List.inj_on_of_nodup_map hr (List.mem_of_find?_eq_some hg) hf hname]
    simp only [hsome, List.contains_iff_mem, if_neg hseen]
    rfl

theorem fromMembers_eq_ok_iff (hr : (r.fields.map (·.name)).Nodup) :
    ∀ {ms : Members} {seen : List String} {a b : α}, r.fromMembers n seen ms a = .ok b ↔
      ms.Closed ∧ ∃ fs, List.Forall₂ Keyed ms.toList fs ∧
        Gathers (r := r) (Use.OfOutline n) seen fs a b
  | .close after, seen, a, b => by
    simp only [fromMembers, bind_eq_ok_iff, Members.Closed, Members.toList,
      List.forall₂_nil_left_iff, exists_eq_left, true_and]
    constructor
    · rintro ⟨⟨⟩, hseen, hok⟩
      cases hok
      exact .done (complete_eq_ok_iff.1 hseen)
    · rintro ⟨hseen⟩
      exact ⟨(), complete_eq_ok_iff.2 hseen, rfl⟩
  | .next key colon v ms, seen, a, b => by
    simp only [fromMembers, bind_eq_ok_iff, Members.Closed, Members.toList,
      List.forall₂_cons_left_iff]
    constructor
    · rintro ⟨x, hx, h⟩
      -- the key names no field, or a field that has not been seen
      cases x with
      | none =>
        obtain ⟨name, after, hkey, hother⟩ := fieldFor_eq_none_iff.1 hx
        obtain ⟨⟨⟩, hv, h⟩ := bind_eq_ok_iff.1 h
        obtain ⟨hc, fs, hfs, hg⟩ := (fromMembers_eq_ok_iff hr).1 h
        exact ⟨hc, (name, v) :: fs, ⟨(name, v), fs, ⟨⟨after, hkey⟩, rfl⟩, hfs, rfl⟩,
          .other hother hv hg⟩
      | some f =>
        obtain ⟨hf, hseen, after, hkey⟩ := (fieldFor_eq_some_iff hr).1 hx
        obtain ⟨a', hv, h⟩ := bind_eq_ok_iff.1 h
        obtain ⟨hc, fs, hfs, hg⟩ := (fromMembers_eq_ok_iff hr).1 h
        exact ⟨hc, (f.name, v) :: fs, ⟨(f.name, v), fs, ⟨⟨after, hkey⟩, rfl⟩, hfs, rfl⟩,
          .field hf hseen hv hg⟩
    · rintro ⟨hc, -, ⟨⟨name, w⟩, fs, ⟨⟨after, hkey⟩, hw⟩, hfs, rfl⟩, hg⟩
      cases (hw : v = w)
      cases hg with
      | other hother hv hg =>
        refine ⟨none, fieldFor_eq_none_iff.2 ⟨name, after, hkey, hother⟩, ?_⟩
        exact bind_eq_ok_iff.2 ⟨(), hv, (fromMembers_eq_ok_iff hr).2 ⟨hc, fs, hfs, hg⟩⟩
      | field hf hseen hv hg =>
        refine ⟨some _, (fieldFor_eq_some_iff hr).2 ⟨hf, hseen, after, hkey⟩, ?_⟩
        exact bind_eq_ok_iff.2 ⟨_, hv, (fromMembers_eq_ok_iff hr).2 ⟨hc, fs, hfs, hg⟩⟩
  | .keyOnly key colon fault, seen, a, b => by
    simp [fromMembers, bind_eq_ok_iff, Members.Closed, throw, throwThe, MonadExceptOf.throw]
  | .broken .., seen, a, b => by simp [fromMembers, Members.Closed]

theorem fromElements_eq_ok_iff {fs : List (Field α)} (hfs : ∀ f ∈ fs, f ∈ r.fields)
    {es : Elements} {i : Nat} {a b : α} : r.fromElements n i fs es a = .ok b ↔
      es.Closed ∧ Lists (r := r) (Use.OfOutline n) fs es.toList a b := by
  induction fs generalizing es i a with
  | nil =>
    cases es with
    | close after =>
      simp only [fromElements, Elements.Closed, Elements.toList, true_and]
      constructor
      · intro h
        cases h
        exact .done (by simp)
      · intro h
        cases h
        rfl
    | next v es =>
      simp only [fromElements, reduceCtorEq, false_iff, Elements.toList]
      rintro ⟨-, ⟨⟩⟩
    | broken => simp [fromElements, Elements.Closed]
  | cons f fs ih =>
    obtain ⟨hf, hfs⟩ := List.forall_mem_cons.1 hfs
    cases es with
    | close after =>
      simp only [fromElements, Elements.Closed, Elements.toList, true_and]
      split
      · rename_i hdef
        rw [ih hfs]
        constructor
        · rintro ⟨-, ⟨hall⟩⟩
          exact .done (List.forall_mem_cons.2 ⟨hdef, hall⟩)
        · rintro ⟨hall⟩
          exact ⟨trivial, .done (List.forall_mem_cons.1 hall).2⟩
      · rename_i hdef
        simp only [reduceCtorEq, false_iff]
        rintro ⟨hall⟩
        exact hdef (hall f List.mem_cons_self)
    | next v es =>
      simp only [fromElements, bind_eq_ok_iff, Elements.Closed, Elements.toList, ih hfs]
      constructor
      · rintro ⟨a', hv, hc, hl⟩
        exact ⟨hc, .field hf hv hl⟩
      · rintro ⟨hc, hl⟩
        cases hl with
        | field _ hv hl => exact ⟨_, hv, hc, hl⟩
    | broken => simp [fromElements, Elements.Closed]

/-- What holds of the blank record and is kept by every field holds of what is decoded. -/
theorem holds_of_decoder {P : α → Prop} (hr : (r.fields.map (·.name)).Nodup) (hblank : P r.blank)
    (hput : ∀ f ∈ r.fields, ∀ o a b, f.put n o a = .ok b → P a → P b) {o : Outline} {a : α}
    (h : r.decoder (n + 1) o = .ok a) : P a := by
  cases o with
  | array start es =>
    have hlist := (fromElements_eq_ok_iff fun _ h => h).1
      (h : r.fromElements n 0 r.fields es r.blank = .ok a)
    exact hlist.2.keeps (fun f hf a b o => hput f hf o a b) hblank
  | object start ms =>
    obtain ⟨-, fs, -, hg⟩ := (fromMembers_eq_ok_iff hr).1
      (h : r.fromMembers n [] ms r.blank = .ok a)
    exact hg.keeps (fun f hf a b o => hput f hf o a b) hblank
  | _ => cases h

end Record

/-! ### Texts of records -/

/-- The use that is made of the text of a value, where `M` tells for the name of a field which
texts turn which record into which. -/
def Use.OfText (M : String → Chars → α → α → Prop) {r : Record α} : Use r → Chars → Prop
  | .pass, t => IsValue t
  | .put f _ a b, t => M f.name t a b

/-- The outline may be used in every way that the text may. -/
def Serves (r : Record α) (n : Nat) (M : String → Chars → α → α → Prop) (v : Outline) (t : Chars) :
    Prop :=
  ∀ u : Use r, u.OfText M t → u.OfOutline n v

/-- The text is an object or a list of the fields, which make up the record. -/
inductive IsRecord (r : Record α) (M : String → Chars → α → α → Prop) (a : α) (t : Chars) : Prop
  | object {fs : List (String × Chars)} :
      HasMembers fs t → Gathers (r := r) (Use.OfText M) [] fs r.blank a → IsRecord r M a t
  | list {es : List Chars} :
      IsList es t → Lists (r := r) (Use.OfText M) r.fields es r.blank a → IsRecord r M a t

/-- A key that a member was read from, and the name that its decoder has read, are the same. -/
theorem exists_names_of_spells {L : Outline → Chars → Prop} {m : Chars × Outline}
    {f : String × Outline} {g : Chars × Chars} (hk : Keyed m f) (hs : Spells L m g) :
    ∃ f', (f'.1 = f.1 ∧ L f.2 f'.2) ∧ Names f' g := by
  obtain ⟨⟨after, hread⟩, hv⟩ := hk
  obtain ⟨hspelled, ⟨u, hm⟩, ht⟩ := hs
  refine ⟨(f.1, g.2), ⟨rfl, hv ▸ ht⟩, ?_, rfl⟩
  obtain ⟨b, hb, hmb⟩ := Literal.read_eq_ok_iff.1 hread
  have hskip := Literal.skip_of_read hread
  rw [hm, Literal.skip_of_wellSpelled hspelled] at hskip
  cases hskip
  rwa [List.append_cancel_right (hm.symm.trans hmb)]

theorem exists_keyed_of_names {L : Outline → Chars → Prop} {m : Chars × Outline}
    {f : String × Chars} {g : Chars × Chars} (hn : Names f g) (hs : Spells L m g) :
    ∃ f', (f'.1 = f.1 ∧ L f'.2 f.2) ∧ Keyed m f' := by
  obtain ⟨hdenotes, hv⟩ := hn
  obtain ⟨-, ⟨u, hm⟩, ht⟩ := hs
  refine ⟨(f.1, m.2), ⟨rfl, hv ▸ ht⟩, ⟨u, ?_⟩, rfl⟩
  rw [hm]
  exact Literal.read_of_denotes hdenotes u

section

variable {r : Record α} {n : Nat} {M : String → Chars → α → α → Prop}

theorem accepts_of {β : Type} {d : Decoder β} {L : β → Chars → Prop} (name : String)
    (absence : Absence) (set : α → β → α) (h : Accepts (d n) L) (a : α) :
    Accepts (fun o => (Field.of name absence d set).put n o a)
      (fun b t => ∃ c, L c t ∧ set a c = b) where
  sound := by
    intro fuel s o x b hr hd
    obtain ⟨c, hc, rfl⟩ := map_eq_ok_iff.1 hd
    obtain ⟨t, r, ht, hx, hs⟩ := h.sound hr hc
    exact ⟨t, r, ⟨c, ht, rfl⟩, hx, hs⟩
  complete := by
    rintro b t ⟨c, ht, rfl⟩
    exact (h.complete ht).mono fun o ho => map_eq_ok_iff.2 ⟨c, ho, rfl⟩

variable (hM : ∀ f ∈ r.fields, ∀ a, Accepts (fun o => f.put n o a) (fun b t => M f.name t a b))
include hM

theorem recovers_use (fuel : Nat) :
    Recovers (fun v => ∃ u : Use r, u.OfOutline n v)
      (fun v t => ∀ u : Use r, u.OfOutline n v → u.OfText M t) fuel := by
  refine Recovers.all fun u => ?_
  cases u with
  | pass => exact isValue_of_skip fuel
  | put f hf a b => exact fun s o x hr hv => (hM f hf a).sound hr hv

theorem readsAs_use {t : Chars} (h : ∃ u : Use r, u.OfText M t) :
    ReadsAs (Serves r n M · t) t := by
  obtain ⟨u, hu⟩ := h
  refine ReadsAs.all (fun u hu => ?_) hu
  cases u with
  | pass => exact readsAs_isValue hu
  | put f hf a b => exact (hM f hf a).complete hu

/-- The decoder of a record with distinct fields accepts the texts of the record, one bracket
deeper than its fields. -/
theorem accepts_record (hr : (r.fields.map (·.name)).Nodup) :
    Accepts (r.decoder (n + 1)) (IsRecord r M) where
  sound := by
    intro fuel s o x a hread hd
    obtain ⟨k, hreads⟩ := exists_reads hread
    cases o with
    | array start es =>
      obtain ⟨hc, hl⟩ := (Record.fromElements_eq_ok_iff fun _ h => h).1
        (hd : r.fromElements n 0 r.fields es r.blank = .ok a)
      cases hreads with
      | array hes =>
        obtain ⟨ps, t, u, hps, ht, hx, hs⟩ :=
          isList_of_readElements (fun f _ => recovers_use hM f) hes hc hl.used
        exact ⟨t, u, .list ht (hl.map hps), hx, hs⟩
    | object start ms =>
      obtain ⟨hc, fs, hfs, hg⟩ := (Record.fromMembers_eq_ok_iff hr).1
        (hd : r.fromMembers n [] ms r.blank = .ok a)
      have hused : ∀ m ∈ ms.toList, ∃ u : Use r, u.OfOutline n m.2 := by
        intro m hm
        obtain ⟨f, hf, -, hv⟩ := forall₂_mem_left hfs m hm
        exact hv ▸ hg.used f hf
      cases hreads with
      | object hms =>
        obtain ⟨gs, t, u, hgs, ht, hx, hs⟩ :=
          isObject_of_readMembers (fun f _ => recovers_use hM f) hms hc hused
        -- the same members once more, by their names and with the texts of their values
        obtain ⟨fs', hfs', hnames⟩ :=
          forall₂_comp (forall₂_trans hfs.flip hgs fun _ _ _ => exists_names_of_spells)
        exact ⟨t, u, .object ⟨gs, hnames, ht⟩ (hg.map hfs'), hx, hs⟩
    | _ => cases hd
  complete := by
    rintro a t (⟨⟨gs, hnames, ht⟩, hg⟩ | ⟨ht, hl⟩)
    · rename_i fs
      have hA : ∀ g ∈ gs, ReadsAs (Serves r n M · g.2) g.2 := by
        intro g hmem
        obtain ⟨f, hf, -, ht⟩ := forall₂_mem_right hnames g hmem
        exact readsAs_use hM (ht ▸ hg.used f hf)
      have hkeys : ∀ g ∈ gs, WellSpelled g.1 := by
        intro g hmem
        obtain ⟨f, -, hname, -⟩ := forall₂_mem_right hnames g hmem
        exact hname.wellSpelled
      refine (readsAs_isObject ht hkeys hA).mono ?_
      rintro o ⟨s, ms, rfl, hc, hms⟩
      obtain ⟨fs', hfs', hkeyed⟩ :=
        forall₂_comp (forall₂_trans hnames hms.flip fun _ _ _ =>
          exists_keyed_of_names (L := Serves r n M))
      exact (Record.fromMembers_eq_ok_iff hr).2 ⟨hc, fs', hkeyed.flip, hg.map hfs'⟩
    · have hA := fun e he => readsAs_use hM (hl.used e he)
      refine (readsAs_isList ht (A := Serves r n M) hA).mono ?_
      rintro o ⟨s, es, rfl, hc, hes⟩
      exact (Record.fromElements_eq_ok_iff fun _ h => h).2 ⟨hc, hl.map hes.flip⟩

end

/-! ### One field at a time -/

section

variable {γ : Type} {L : γ → Chars → Prop} {name other : String} {seen : List String} {t : Chars}
  {fs : List (String × Chars)} {a b : γ}

theorem valuesOf_nil : valuesOf name [] = [] := rfl

theorem valuesOf_cons_self : valuesOf name ((name, t) :: fs) = t :: valuesOf name fs := by
  simp [valuesOf]

theorem valuesOf_cons_of_ne (h : other ≠ name) :
    valuesOf name ((other, t) :: fs) = valuesOf name fs := by
  simp [valuesOf, h]

/-- The value of the field becomes `b`: by the only member of its name, if none has been seen
before, or by staying what it was. -/
def Settles (L : γ → Chars → Prop) (name : String) (seen : List String) (fs : List (String × Chars))
    (a b : γ) : Prop :=
  valuesOf name fs = [] ∧ b = a ∨ name ∉ seen ∧ ∃ v, valuesOf name fs = [v] ∧ L b v

theorem settles_nil : Settles L name seen [] a b ↔ b = a := by
  simp [Settles, valuesOf_nil]

theorem settles_seen_self :
    Settles L name (name :: seen) fs a b ↔ valuesOf name fs = [] ∧ b = a := by
  simp [Settles]

theorem settles_seen_of_ne (h : other ≠ name) :
    Settles L name (other :: seen) fs a b ↔ Settles L name seen fs a b := by
  simp [Settles, h.symm]

theorem settles_member_self :
    Settles L name seen ((name, t) :: fs) a b ↔
      name ∉ seen ∧ L b t ∧ valuesOf name fs = [] := by
  rw [Settles, valuesOf_cons_self]
  constructor
  · rintro (⟨⟨⟩, -⟩ | ⟨hseen, v, hv, hb⟩)
    obtain ⟨rfl, hfs⟩ := List.cons_eq_cons.1 hv
    exact ⟨hseen, hb, hfs⟩
  · rintro ⟨hseen, hb, hfs⟩
    exact .inr ⟨hseen, t, by rw [hfs], hb⟩

theorem settles_member_of_ne (h : other ≠ name) :
    Settles L name seen ((other, t) :: fs) a b ↔ Settles L name seen fs a b := by
  rw [Settles, valuesOf_cons_of_ne h, Settles]

end

section

variable {r : Record α} {M : String → Chars → α → α → Prop} {seen : List String}
  {name : String} {t : Chars} {fs : List (String × Chars)} {a b : α}

theorem gathers_nil_iff :
    Gathers (r := r) (Use.OfText M) seen [] a b ↔
      (∀ f ∈ r.fields, f.absence = .required → f.name ∈ seen) ∧ b = a := by
  constructor
  · rintro ⟨h⟩
    exact ⟨h, rfl⟩
  · rintro ⟨h, rfl⟩
    exact .done h

theorem gathers_other_iff (h : name ∉ r.fields.map (·.name)) :
    Gathers (r := r) (Use.OfText M) seen ((name, t) :: fs) a b ↔
      IsValue t ∧ Gathers (r := r) (Use.OfText M) seen fs a b := by
  constructor
  · intro hg
    cases hg with
    | other _ ht hg => exact ⟨ht, hg⟩
    | field hf => exact absurd (List.mem_map_of_mem hf) h
  · rintro ⟨ht, hg⟩
    exact .other (fun f hf hname => h (hname ▸ List.mem_map_of_mem hf)) ht hg

theorem gathers_field_iff (h : name ∈ r.fields.map (·.name)) :
    Gathers (r := r) (Use.OfText M) seen ((name, t) :: fs) a b ↔
      name ∉ seen ∧ ∃ a', M name t a a' ∧
        Gathers (r := r) (Use.OfText M) (name :: seen) fs a' b := by
  constructor
  · intro hg
    cases hg with
    | other hother =>
      obtain ⟨f, hf, hname⟩ := List.mem_map.1 h
      exact absurd hname (hother f hf)
    | field hf hseen ht hg => exact ⟨hseen, _, ht, hg⟩
  · rintro ⟨hseen, a', ht, hg⟩
    obtain ⟨f, hf, rfl⟩ := List.mem_map.1 h
    exact .field hf hseen ht hg

end

/-! ### Records of one field -/

namespace Grammar

/-- The text is an object whose only member `name` is a text of the value, and whose other members
hold any value, or a list of one text of the value. -/
inductive IsSingle {β : Type} (name : String) (L : β → Chars → Prop) (b : β) (t : Chars) : Prop
  | object {fs : List (String × Chars)} :
      HasMembers fs t → (∀ f ∈ fs, f.1 ≠ name → IsValue f.2) →
        (∃ v, valuesOf name fs = [v] ∧ L b v) → IsSingle name L b t
  | list {v : Chars} : L b v → IsList [v] t → IsSingle name L b t

theorem IsSingle.imp {β γ : Type} {name : String} {L : β → Chars → Prop} {M : γ → Chars → Prop}
    {b : β} {c : γ} {t : Chars} (hs : IsSingle name L b t) (h : ∀ v, L b v → M c v) :
    IsSingle name M c t := by
  cases hs with
  | object hm hall hv =>
    obtain ⟨v, hv, hb⟩ := hv
    exact .object hm hall ⟨v, hv, h v hb⟩
  | list hb ht => exact .list (h _ hb) ht

end Grammar

section

variable {β : Type} {r : Record α} {n : Nat} {name : String} {d : Decoder β} {set : α → β → α}
  {L : β → Chars → Prop} {seen : List String} {fs : List (String × Chars)} {a b : α}

/-- What the text of the only field makes of a record. -/
def TakesOnly (name : String) (L : β → Chars → Prop) (set : α → β → α) (key : String) (t : Chars)
    (a b : α) : Prop := key = name ∧ ∃ c, L c t ∧ set a c = b

theorem gathers_only_iff (hr : r.fields = [.of name .required d set]) :
    Gathers (r := r) (Use.OfText (TakesOnly name L set)) seen fs a b ↔
      (∀ f ∈ fs, f.1 ≠ name → IsValue f.2) ∧
        (name ∈ seen ∧ valuesOf name fs = [] ∧ b = a ∨
          name ∉ seen ∧ ∃ v c, valuesOf name fs = [v] ∧ L c v ∧ set a c = b) := by
  have hnames : r.fields.map (·.name) = [name] := by
    rw [hr]
    rfl
  induction fs generalizing seen a with
  | nil =>
    rw [gathers_nil_iff, hr]
    simp [Field.of, valuesOf_nil]
  | cons f fs ih =>
    obtain ⟨key, t⟩ := f
    by_cases hkey : key = name
    · subst hkey
      rw [gathers_field_iff (by simp [hnames]), valuesOf_cons_self]
      simp only [ih, TakesOnly]
      constructor
      · rintro ⟨hseen, a', ⟨-, c, hc, rfl⟩, hall, ⟨-, hnone, rfl⟩ | ⟨hnot, -⟩⟩
        · exact ⟨by simpa using hall, .inr ⟨hseen, t, c, by rw [hnone], hc, rfl⟩⟩
        · exact absurd List.mem_cons_self hnot
      · rintro ⟨hall, ⟨-, hcons, -⟩ | ⟨hseen, v, c, hv, hc, rfl⟩⟩
        · cases hcons
        · obtain ⟨rfl, hnone⟩ := List.cons_eq_cons.1 hv
          exact ⟨hseen, _, ⟨trivial, c, hc, rfl⟩, by simpa using hall, .inl ⟨by simp, hnone, rfl⟩⟩
    · rw [gathers_other_iff (by simp [hnames, hkey]), valuesOf_cons_of_ne hkey]
      simp [ih, hkey, and_assoc]

/-- The decoder of a record of one field accepts the texts of that field alone. -/
theorem accepts_single (hr : r.fields = [.of name .required d set]) (h : Accepts (d n) L) :
    Accepts (r.decoder (n + 1)) (fun a t => ∃ c, IsSingle name L c t ∧ set r.blank c = a) := by
  have hfield : ∀ f ∈ r.fields, ∀ a,
      Accepts (fun o => f.put n o a) (fun b t => TakesOnly name L set f.name t a b) := by
    intro f hf a
    rw [hr, List.mem_singleton] at hf
    subst hf
    refine (accepts_of name .required set h a).congr fun b t => ?_
    simp [TakesOnly, Field.of]
  have hnodup : (r.fields.map (·.name)).Nodup := by simp [hr]
  refine (accepts_record hfield hnodup).congr fun a t => ?_
  constructor
  · rintro (⟨hm, hg⟩ | ⟨ht, hl⟩)
    · obtain ⟨hall, ⟨hseen, -⟩ | ⟨-, v, c, hv, hc, hset⟩⟩ := (gathers_only_iff hr).1 hg
      · cases hseen
      · exact ⟨c, .object hm hall ⟨v, hv, hc⟩, hset⟩
    · rw [hr] at hl
      cases hl with
      | done habs => exact absurd (habs _ (.head _)) (by simp [Field.of])
      | field _ hv hl =>
        obtain ⟨-, c, hc, hset⟩ := hv
        cases hl
        exact ⟨c, .list hc ht, hset⟩
  · rintro ⟨c, hsingle, hset⟩
    cases hsingle with
    | object hm hall hv =>
      obtain ⟨v, hv, hc⟩ := hv
      exact .object hm ((gathers_only_iff hr).2 ⟨hall, .inr ⟨by simp, v, c, hv, hc, hset⟩⟩)
    | list hc ht =>
      have hmem : Field.of name .required d set ∈ r.fields := by simp [hr]
      have hlists : Lists (r := r) (Use.OfText (TakesOnly name L set))
          [Field.of name .required d set] _ r.blank a :=
        .field hmem ⟨rfl, c, hc, hset⟩ (.done (by simp))
      exact .list ht (hr ▸ hlists)

end

end Json

end Parley
