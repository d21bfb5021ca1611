import Parley.Json.Decoder
import Parley.Proofs.Json.Outline

/-!
# Decoders and languages

A *language* relates values to their texts.  A decoder accepts a language if it makes a value of
exactly the texts of the value, wherever they stand (`Accepts`); then it makes a value of a whole
text exactly if that is a text of the value between gaps (`Accepts.decode_eq_ok_iff`).

* `accepts_string`, `accepts_optional`, `accepts_list` : the languages of the usual decoders.
-/

namespace Parley

namespace Json

open Grammar Outline

/-- The decoder makes a value of exactly the texts of the value.  Whatever it makes a value of has
been read from one of them, and each of them is read, whatever may follow, as something that it
makes the value of. -/
structure Accepts {α : Type} (d : Outline → Except Fault α) (L : α → Chars → Prop) : Prop where
  /-- What is accepted is a text of the value. -/
  sound : ∀ ⦃fuel s o x a⦄, read fuel s = (o, x) → d o = .ok a →
    ∃ t r, L a t ∧ x = some r ∧ s = t ++ r
  /-- A text of the value is accepted. -/
  complete : ∀ ⦃a t⦄, L a t → ReadsAs (fun o => d o = .ok a) t

namespace Grammar

/-- The text is null, or a text of the value. -/
inductive IsOptional {α : Type} (L : α → Chars → Prop) : Option α → Chars → Prop
  | none : IsOptional L none ['n', 'u', 'l', 'l']
  | some {a : α} {t : Chars} : L a t → IsOptional L (some a) t

/-- The text is a list of texts of the values. -/
def IsListOf {α : Type} (L : α → Chars → Prop) (as : List α) (t : Chars) : Prop :=
  ∃ ps, List.Forall₂ L as ps ∧ IsList ps t

end Grammar

section

variable {α : Type} {d : Decoder α} {n : Nat} {L : α → Chars → Prop}

theorem Accepts.congr {d : Outline → Except Fault α} {L' : α → Chars → Prop} (h : Accepts d L)
    (hL : ∀ a t, L a t ↔ L' a t) : Accepts d L' := by
  have : L' = L := by
    funext a t
    exact propext (hL a t).symm
  rwa [this]

/-! ### Whole texts -/

/-- What is made of a whole text is made of its outline. -/
theorem exists_outline_of_decode {text : String} {a : α} (h : d.decode text = .ok a) :
    ∃ o, d nestingLimit o = .ok a := by
  simp only [Decoder.decode] at h
  split at h
  · cases h
  · rename_i b hb
    split at h
    · cases h
      exact ⟨_, hb⟩
    · cases h

theorem Accepts.decode_eq_ok_iff (h : Accepts (d nestingLimit) L) {text : String} {a : α} :
    d.decode text = .ok a ↔
      ∃ g t g', IsGap g ∧ L a t ∧ IsGap g' ∧ text.toList = g ++ (t ++ g') := by
  constructor
  · intro hd
    simp only [Decoder.decode] at hd
    split at hd
    · cases hd
    · rename_i b hb
      split at hd
      · rename_i hrest
        cases hd
        obtain ⟨g, hg, hs⟩ := exists_append_dropGap text.toList
        obtain ⟨t, r, ht, hx, hr⟩ := h.sound (o := (ofText text.toList).1) rfl hb
        obtain ⟨g', hg', hs'⟩ := exists_append_dropGap r
        have he : dropGap r = [] := by rw [← hrest, ofText, hx]; rfl
        refine ⟨g, t, r, hg, ht, ?_, by rw [← hr, ← hs]⟩
        rwa [hs', he, List.append_nil]
      · cases hd
  · rintro ⟨g, t, g', hg, ht, hg', hs⟩
    have hf : Follows g' := by simpa using hg'.follows Follows.nil
    have hfuel : 3 * (t ++ g').length < 3 * text.toList.length + 1 := by
      rw [hs]
      simp only [List.length_append]
      omega
    obtain ⟨o, ho, ha⟩ := h.complete ht hf hfuel
    have hd : dropGap text.toList = t ++ g' := by
      rw [hs, dropGap_append hg (stops_gap_of_not_follows (not_follows_of_read ho))]
    have hrest : dropGap g' = [] := by
      simpa using dropGap_append (s := []) hg' (by simp [Stops])
    simp only [Decoder.decode, ofText, hd, ho, ha, Option.getD_some, hrest]

/-! ### Strings -/

theorem accepts_string (n : Nat) : Accepts (Decoder.string n) IsString where
  sound := by
    intro fuel s o x a h hd
    cases o with
    | string body after =>
      obtain ⟨⟨cs, r⟩, hr, rfl⟩ := map_eq_ok_iff.1 hd
      obtain ⟨k, hreads⟩ := exists_reads h
      cases hreads with
      | string hskip =>
        -- passing over the literal and reading it end at the same quote
        have hsame := (Literal.skip_of_read hr).symm.trans hskip
        cases hsame
        obtain ⟨b, hb, rfl⟩ := Literal.read_eq_ok_iff.1 hr
        exact ⟨_, _, ⟨b, by simpa using hb, rfl⟩, rfl, by simp⟩
    | _ => cases hd
  complete := by
    rintro a t ⟨b, hb, rfl⟩
    refine (readsAs_wellSpelled hb.wellSpelled).mono ?_
    rintro o ⟨r, rfl⟩
    simp [Decoder.string, Literal.read_of_denotes hb, Except.map]

/-! ### Values that may be null -/

theorem read_ne_broken {fuel : Nat} {s r u : Chars} (f g : Fault) :
    read fuel s ≠ (.broken u f g, some r) := by
  intro h
  obtain ⟨k, hreads⟩ := exists_reads h
  generalize hx : some r = x at hreads
  cases hreads
  cases hx

/-- What is read as a value that is not null is read as such a value where null is possible. -/
theorem readsAs_optional {a : α} {t : Chars} (h : ReadsAs (fun o => d n o = .ok a) t)
    (hnull : ∀ s r a, d n (.null s r) ≠ .ok a) :
    ReadsAs (fun o => Decoder.optional d n o = .ok (some a)) t := by
  intro fuel r hr hf
  obtain ⟨o, ho, ha⟩ := h hr hf
  refine ⟨o, ho, ?_⟩
  show Decoder.optional d n o = .ok (some a)
  unfold Decoder.optional
  split
  · exact absurd ha (hnull _ _ _)
  · exact absurd ho (read_ne_broken _ _)
  · rw [ha]
    rfl

theorem accepts_optional (h : Accepts (d n) L) (hnull : ∀ s r a, d n (.null s r) ≠ .ok a) :
    Accepts (Decoder.optional d n) (IsOptional L) where
  sound := by
    intro fuel s o x a hr hd
    unfold Decoder.optional at hd
    split at hd
    · cases hd
      obtain ⟨k, hreads⟩ := exists_reads hr
      cases hreads with
      | null => exact ⟨_, _, .none, rfl, rfl⟩
    · cases hd
    · obtain ⟨b, hb, rfl⟩ := map_eq_ok_iff.1 hd
      obtain ⟨t, r, ht, hx, hs⟩ := h.sound hr hb
      exact ⟨t, r, .some ht, hx, hs⟩
  complete := by
    rintro a t (_ | ht)
    · refine readsAs_null.mono ?_
      rintro o ⟨s, r, rfl⟩
      rfl
    · exact readsAs_optional (h.complete ht) hnull

/-! ### Lists -/

theorem elements_eq_ok_iff : ∀ (es : Elements) {as : List α},
    Decoder.elements d n es = .ok as ↔
      es.Closed ∧ List.Forall₂ (fun a v => d n v = .ok a) as es.toList
  | .close _, as => by simp [Decoder.elements, Elements.Closed, Elements.toList, eq_comm]
  | .next v es, as => by
    simp only [Decoder.elements, bind_eq_ok_iff, elements_eq_ok_iff es, Elements.Closed,
      Elements.toList, List.forall₂_cons_right_iff]
    constructor
    · rintro ⟨a, ha, as', ⟨hc, hall⟩, hok⟩
      cases hok
      exact ⟨hc, a, as', ha, hall, rfl⟩
    · rintro ⟨hc, a, as', ha, hall, rfl⟩
      exact ⟨a, ha, as', ⟨hc, hall⟩, rfl⟩
  | .broken .., as => by simp [Decoder.elements, Elements.Closed]

theorem recovers_of_accepts (h : Accepts (d n) L) (fuel : Nat) :
    Recovers (fun v => ∃ a, d n v = .ok a) (fun v t => ∀ a, d n v = .ok a → L a t) fuel :=
  Recovers.all fun _ _ _ _ hr ha => h.sound hr ha

/-- A list of texts of values is a list of values, one bracket deeper. -/
theorem accepts_list (h : Accepts (d n) L) : Accepts (Decoder.list d (n + 1)) (IsListOf L) where
  sound := by
    intro fuel s o x as hr hd
    cases o with
    | array start es =>
      obtain ⟨hc, hall⟩ := (elements_eq_ok_iff es).1 (hd : Decoder.elements d n es = .ok as)
      have hP : ∀ v ∈ es.toList, ∃ a, d n v = .ok a := fun v hv => by
        obtain ⟨a, -, ha⟩ := forall₂_mem_right hall v hv
        exact ⟨a, ha⟩
      obtain ⟨k, hreads⟩ := exists_reads hr
      cases hreads with
      | array hes =>
        obtain ⟨ps, t, r, hps, ht, hx, hs⟩ :=
          isList_of_readElements (fun f _ => recovers_of_accepts h f) hes hc hP
        exact ⟨t, r, ⟨ps, forall₂_trans hall hps fun _ _ _ ha hL => hL _ ha, ht⟩, hx, hs⟩
    | _ => cases hd
  complete := by
    rintro as t ⟨ps, hps, ht⟩
    have hA : ∀ p ∈ ps, ReadsAs (fun v => ∀ a, L a p → d n v = .ok a) p := fun p hp => by
      obtain ⟨a, -, ha⟩ := forall₂_mem_right hps p hp
      exact ReadsAs.all (fun _ hL => h.complete hL) ha
    refine (readsAs_isList ht (A := fun v p => ∀ a, L a p → d n v = .ok a) hA).mono ?_
    rintro o ⟨s, es, rfl, hc, hall⟩
    exact (elements_eq_ok_iff es).2 ⟨hc, forall₂_trans hps hall.flip fun _ _ _ hL ha => ha _ hL⟩

end

end Json

end Parley
