import Parley.Json.Outline
import Parley.Proofs.Json.Literal
import Parley.Proofs.Json.Numeral

/-!
# Outlines and the grammar

How the outline of a text and the text itself are put together is the same for all uses of an
outline.  Here it is said once: a use tells which outlines it accepts, and is told how the accepted
parts of a bracket make up the text of the bracket.

* `Reads` : what the reading of a value comes to (`reads`).
* `isList_of_readElements`, `isObject_of_readMembers` : a bracket all of whose parts are accepted
  has been read from the text of a list or an object.
* `readsAs_isList`, `readsAs_isObject` : the text of a list or an object is read up to its end, and
  part by part as its parts are.
* `isValue_of_skip`, `readsAs_isValue` : a text is passed over exactly if it is a value.
-/

namespace Parley

namespace Json

open Grammar

/-! ### Gaps -/

theorem isGap_iff {g : Chars} : IsGap g ↔ ∀ c ∈ g, gap c = true := by
  simp [IsGap, gap, or_assoc]

theorem exists_append_dropGap (s : Chars) : ∃ g, IsGap g ∧ s = g ++ dropGap s := by
  obtain ⟨g, hg, hs⟩ := exists_append_dropWhile gap s
  exact ⟨g, isGap_iff.2 hg, hs⟩

theorem dropGap_append {g s : Chars} (hg : IsGap g) (hs : Stops gap s) : dropGap (g ++ s) = s :=
  dropWhile_append (isGap_iff.1 hg) hs

theorem Grammar.IsGap.follows {g s : Chars} (hg : IsGap g) (hs : Follows s) : Follows (g ++ s) := by
  cases g with
  | nil => exact hs
  | cons c g =>
    rintro d hd
    cases hd
    exact .inl (hg c List.mem_cons_self)

theorem follows_cons_iff {c : Char} {s : Chars} :
    Follows (c :: s) ↔ gap c = true ∨ c = ',' ∨ c = ']' ∨ c = '}' := by
  simp [Follows, gap, or_assoc]

theorem stops_gap_of_not_follows {s : Chars} (h : ¬Follows s) : Stops gap s := by
  cases s with
  | nil => exact absurd .nil h
  | cons c s =>
    rw [follows_cons_iff, not_or] at h
    exact .cons (by simpa using h.1)

/-! ### The parts of a bracket -/

/-- The elements one by one. -/
def Elements.toList : Elements → List Outline
  | .next v es => v :: es.toList
  | _ => []

/-- The elements end with the closing bracket. -/
def Elements.Closed : Elements → Prop
  | .close _ => True
  | .next _ es => es.Closed
  | .broken .. => False

/-- The members one by one: the text behind the opening quote of the key, and the value. -/
def Members.toList : Members → List (Chars × Outline)
  | .next key _ v ms => (key, v) :: ms.toList
  | _ => []

/-- The members end with the closing brace. -/
def Members.Closed : Members → Prop
  | .close _ => True
  | .next _ _ _ ms => ms.Closed
  | .keyOnly .. => False
  | .broken .. => False

namespace Outline

/-! ### What a reading comes to -/

/-- What the reading of a value comes to, where `fuel` is left for the parts of a bracket. -/
inductive Reads (fuel : Nat) : Chars → Outline → Option Chars → Prop
  | null (r : Chars) :
      Reads fuel ('n' :: 'u' :: 'l' :: 'l' :: r) (.null ('n' :: 'u' :: 'l' :: 'l' :: r) r) (some r)
  | true (r : Chars) :
      Reads fuel ('t' :: 'r' :: 'u' :: 'e' :: r) (.bool true ('t' :: 'r' :: 'u' :: 'e' :: r) r)
        (some r)
  | false (r : Chars) :
      Reads fuel ('f' :: 'a' :: 'l' :: 's' :: 'e' :: r)
        (.bool false ('f' :: 'a' :: 'l' :: 's' :: 'e' :: r) r) (some r)
  | number {s r : Chars} {n : Numeral} :
      Numeral.scan s = .ok (n, r) → Reads fuel s (.number n s r) (some r)
  | string {s r : Chars} : Literal.skip s = .ok r → Reads fuel ('"' :: s) (.string s r) (some r)
  | array {s : Chars} {es : Elements} {x : Option Chars} :
      readElements fuel true (dropGap s) = (es, x) → Reads fuel ('[' :: s) (.array ('[' :: s) es) x
  | object {s : Chars} {ms : Members} {x : Option Chars} :
      readMembers fuel true (dropGap s) = (ms, x) → Reads fuel ('{' :: s) (.object ('{' :: s) ms) x
  | broken {s u : Chars} {f g : Fault} : Reads fuel s (.broken u f g) none

theorem word_eq_ok_iff {w s r : Chars} : word w s = .ok r ↔ s = w ++ r := by
  induction w generalizing s with
  | nil => simp [word, eq_comm]
  | cons c w ih =>
    cases s with
    | nil => simp [word]
    | cons d s =>
      by_cases hd : d = c
      · simp [word, hd, ih]
      · simp [word, hd]

theorem reads_ofWord {fuel : Nat} {s : Chars} {rest : String} {mk : Chars → Outline}
    (h : ∀ r, s.tail = rest.toList ++ r → Reads fuel s (mk r) (some r)) :
    Reads fuel s (ofWord s rest mk).1 (ofWord s rest mk).2 := by
  unfold ofWord
  split
  · rename_i r hr
    exact h r (word_eq_ok_iff.1 hr)
  · exact .broken

theorem reads (fuel : Nat) (s : Chars) :
    Reads fuel s (read (fuel + 1) s).1 (read (fuel + 1) s).2 := by
  cases s with
  | nil => exact .broken
  | cons c s =>
    simp only [read]
    -- one case for each first character
    split
    · subst c
      refine reads_ofWord fun r hr => ?_
      cases (hr : s = _)
      exact .null r
    split
    · subst c
      refine reads_ofWord fun r hr => ?_
      cases (hr : s = _)
      exact .true r
    split
    · subst c
      refine reads_ofWord fun r hr => ?_
      cases (hr : s = _)
      exact .false r
    split
    · unfold ofNumber
      split
      · rename_i hn
        exact .number hn
      · exact .broken
    split
    · subst c
      unfold ofString
      split
      · rename_i hs
        exact .string hs
      · exact .broken
    split
    · subst c
      exact .array rfl
    split
    · subst c
      exact .object rfl
    · exact .broken

theorem reads_of_eq {fuel : Nat} {s : Chars} {o : Outline} {x : Option Chars}
    (h : read (fuel + 1) s = (o, x)) : Reads fuel s o x := by
  have hr := reads fuel s
  rwa [h] at hr

/-- Whatever fuel there was, the reading of a value comes to one of these. -/
theorem exists_reads {fuel : Nat} {s : Chars} {o : Outline} {x : Option Chars}
    (h : read fuel s = (o, x)) : ∃ k, Reads k s o x := by
  cases fuel with
  | zero =>
    cases h
    exact ⟨0, .broken⟩
  | succ fuel => exact ⟨fuel, reads_of_eq h⟩

/-- A value that is read up to an end starts with none of the characters that may follow one. -/
theorem not_follows_of_read {fuel : Nat} {s r : Chars} {o : Outline}
    (h : read fuel s = (o, some r)) : ¬Follows s := by
  intro hs
  cases fuel with
  | zero => cases h
  | succ fuel =>
    cases s with
    | nil => cases h
    | cons c s =>
      rcases hs c rfl with (rfl | rfl | rfl | rfl) | rfl | rfl | rfl <;>
        simp [read, Numeral.isDigit] at h

/-! ### What is read is a list or an object -/

section

variable {P : Outline → Prop} {L : Outline → Chars → Prop}

/-- An outline that satisfies `P` is read from a text that is related to it by `L`. -/
def Recovers (P : Outline → Prop) (L : Outline → Chars → Prop) (fuel : Nat) : Prop :=
  ∀ ⦃s o x⦄, read fuel s = (o, x) → P o → ∃ t r, L o t ∧ x = some r ∧ s = t ++ r

/-- Uses that each recover their texts recover one text together: the end of the reading tells which
text it was. -/
theorem Recovers.all {ι : Type} {P : ι → Outline → Prop} {L : ι → Chars → Prop} {fuel : Nat}
    (h : ∀ i, Recovers (P i) (fun _ => L i) fuel) :
    Recovers (fun o => ∃ i, P i o) (fun o t => ∀ i, P i o → L i t) fuel := by
  rintro s o x hr ⟨i, hi⟩
  obtain ⟨t, r, -, rfl, rfl⟩ := h i hr hi
  refine ⟨t, r, fun j hj => ?_, rfl, rfl⟩
  obtain ⟨t', r', ht', hx, hs⟩ := h j hr hj
  cases hx
  rwa [List.append_cancel_right hs]

theorem readElement_cases {fuel : Nat} {s : Chars} {es : Elements} {x : Option Chars}
    (h : readElement (fuel + 1) s = (es, x)) :
    (∃ v, read fuel s = (v, none) ∧ es = .next v (.close []) ∧ x = none) ∨
      ∃ v u es', read fuel s = (v, some u) ∧ readElements fuel false (dropGap u) = (es', x) ∧
        es = .next v es' := by
  rw [readElement] at h
  split at h
  · rename_i v u hv
    cases h
    exact .inr ⟨v, u, _, hv, rfl, rfl⟩
  · rename_i v hv
    cases h
    exact .inl ⟨v, hv, rfl, rfl⟩

theorem readElements_cases {fuel : Nat} {first : Bool} {s : Chars} {es : Elements}
    {x : Option Chars} (h : readElements (fuel + 1) first s = (es, x)) (hc : es.Closed) :
    (∃ r, s = ']' :: r ∧ es = .close r ∧ x = some r) ∨
      (first = true ∧ readElement fuel s = (es, x)) ∨
      first = false ∧ ∃ g t, IsGap g ∧ s = ',' :: (g ++ t) ∧ readElement fuel t = (es, x) := by
  cases s with
  | nil => cases h; exact hc.elim
  | cons c s =>
    simp only [readElements] at h
    split at h
    · subst c
      cases h
      exact .inl ⟨s, rfl, rfl, rfl⟩
    split at h
    · rename_i hfirst
      exact .inr (.inl ⟨hfirst, h⟩)
    split at h
    · rename_i hfirst hcomma
      subst c
      split at h
      · cases h
        exact hc.elim
      · obtain ⟨g, hg, hs⟩ := exists_append_dropGap s
        exact .inr (.inr ⟨by simpa using hfirst, g, _, hg, by rw [← hs], h⟩)
    · cases h
      exact hc.elim

/-- Elements that are all accepted have been read from a run of parts. -/
theorem run_of_readElement {fuel : Nat} (hP : ∀ f < fuel, Recovers P L f) {s : Chars}
    {es : Elements} {x : Option Chars} (h : readElement fuel s = (es, x)) (hc : es.Closed)
    (he : ∀ v ∈ es.toList, P v) :
    ∃ ps t r, List.Forall₂ L es.toList ps ∧ Run ']' ps t ∧ x = some r ∧ s = t ++ r := by
  -- an element and the comma behind it take one level of fuel each
  induction fuel using Nat.strong_induction_on generalizing s es x with
  | h fuel ih =>
    cases fuel with
    | zero => cases h; exact hc.elim
    | succ fuel =>
      rcases readElement_cases h with ⟨v, hv, rfl, -⟩ | ⟨v, u, es', hv, hes, rfl⟩
      · obtain ⟨p, r, -, hr, -⟩ := hP fuel (by omega) hv (he v List.mem_cons_self)
        cases hr
      · obtain ⟨p, r, hp, hr, rfl⟩ := hP fuel (by omega) hv (he v List.mem_cons_self)
        cases hr
        obtain ⟨g, hg, hu⟩ := exists_append_dropGap u
        have he' : ∀ w ∈ es'.toList, P w := fun w hw => he w (List.mem_cons_of_mem v hw)
        cases fuel with
        | zero => cases hes; exact hc.elim
        | succ fuel =>
          rcases readElements_cases hes hc with ⟨r, hd, rfl, rfl⟩ | ⟨hf, -⟩ |
            ⟨-, g', t, hg', hd, ht⟩
          · exact ⟨[p], _, r, .cons hp .nil, .last hg, rfl, by rw [hu, hd]; simp⟩
          · cases hf
          · obtain ⟨ps, q, r, hps, hq, rfl, rfl⟩ :=
              ih fuel (by omega) (fun f hf => hP f (by omega)) ht hc he'
            exact ⟨p :: ps, _, r, .cons hp hps, .next hg hg' hq, rfl, by rw [hu, hd]; simp⟩

theorem isList_of_readElements {fuel : Nat} (hP : ∀ f < fuel, Recovers P L f) {s : Chars}
    {es : Elements} {x : Option Chars} (h : readElements fuel true (dropGap s) = (es, x))
    (hc : es.Closed) (he : ∀ v ∈ es.toList, P v) :
    ∃ ps t r, List.Forall₂ L es.toList ps ∧ IsList ps t ∧ x = some r ∧ '[' :: s = t ++ r := by
  obtain ⟨g, hg, hs⟩ := exists_append_dropGap s
  cases fuel with
  | zero => cases h; exact hc.elim
  | succ fuel =>
    rcases readElements_cases h hc with ⟨r, hd, rfl, rfl⟩ | ⟨-, ht⟩ | ⟨hf, -⟩
    · exact ⟨[], _, r, .nil, .empty hg, rfl, by rw [hs, hd]; simp⟩
    · obtain ⟨ps, q, r, hps, hq, rfl, hd⟩ :=
        run_of_readElement (fun f hf => hP f (by omega)) ht hc he
      exact ⟨ps, _, r, hps, .parts hg hq, rfl, by rw [hs, hd]; simp⟩
    · cases hf

theorem readMember_cases {fuel : Nat} {key : Chars} {ms : Members} {x : Option Chars}
    (h : readMember (fuel + 1) key = (ms, x)) (hc : ms.Closed) :
    ∃ k g g' t colon v, WellSpelled k ∧ IsGap g ∧ IsGap g' ∧
      key = k ++ '"' :: (g ++ ':' :: (g' ++ t)) ∧
      ((read fuel t = (v, none) ∧ ms = .next key colon v (.close []) ∧ x = none) ∨
        ∃ u ms', read fuel t = (v, some u) ∧ readMembers fuel false (dropGap u) = (ms', x) ∧
          ms = .next key colon v ms') := by
  rw [readMember] at h
  split at h
  · cases h
    exact hc.elim
  · rename_i afterKey hkey
    obtain ⟨k, hk, rfl⟩ := Literal.skip_eq_ok_iff.1 hkey
    obtain ⟨g, hg, hs⟩ := exists_append_dropGap afterKey
    split at h
    · cases h
      exact hc.elim
    · rename_i c r hr
      split at h
      · rename_i hcolon
        subst c
        obtain ⟨g', hg', hr'⟩ := exists_append_dropGap r
        have he : k ++ '"' :: afterKey = k ++ '"' :: (g ++ ':' :: (g' ++ dropGap r)) := by
          rw [← hr', ← hr, ← hs]
        split at h
        · rename_i v u hv
          cases h
          exact ⟨k, g, g', _, _, v, hk, hg, hg', he, .inr ⟨u, _, hv, rfl, rfl⟩⟩
        · rename_i v hv
          cases h
          exact ⟨k, g, g', _, _, v, hk, hg, hg', he, .inl ⟨hv, rfl, rfl⟩⟩
      · cases h
        exact hc.elim

theorem readMembers_cases {fuel : Nat} {first : Bool} {s : Chars} {ms : Members}
    {x : Option Chars} (h : readMembers (fuel + 1) first s = (ms, x)) (hc : ms.Closed) :
    (∃ r, s = '}' :: r ∧ ms = .close r ∧ x = some r) ∨
      (first = true ∧ ∃ key, s = '"' :: key ∧ readMember fuel key = (ms, x)) ∨
      first = false ∧ ∃ g key, IsGap g ∧ s = ',' :: (g ++ '"' :: key) ∧
        readMember fuel key = (ms, x) := by
  cases s with
  | nil => cases h; exact hc.elim
  | cons c s =>
    simp only [readMembers] at h
    split at h
    · subst c
      cases h
      exact .inl ⟨s, rfl, rfl, rfl⟩
    split at h
    · rename_i hfirst
      split at h
      · subst c
        exact .inr (.inl ⟨hfirst, s, rfl, h⟩)
      · cases h
        exact hc.elim
    split at h
    · rename_i hfirst hcomma
      subst c
      obtain ⟨g, hg, hs⟩ := exists_append_dropGap s
      split at h
      · cases h
        exact hc.elim
      · rename_i d t hd
        split at h
        · subst d
          exact .inr (.inr ⟨by simpa using hfirst, g, t, hg, by rw [← hd, ← hs], h⟩)
        · cases h
          exact hc.elim
    · cases h
      exact hc.elim

/-- The member has been read from a key and a value that are related to it. -/
def Spells (L : Outline → Chars → Prop) (m : Chars × Outline) (f : Chars × Chars) : Prop :=
  WellSpelled f.1 ∧ (∃ u, m.1 = f.1 ++ '"' :: u) ∧ L m.2 f.2

/-- Members whose values are all accepted have been read from a run of members. -/
theorem run_of_readMember {fuel : Nat} (hP : ∀ f < fuel, Recovers P L f) {key : Chars}
    {ms : Members} {x : Option Chars} (h : readMember fuel key = (ms, x)) (hc : ms.Closed)
    (hm : ∀ m ∈ ms.toList, P m.2) :
    ∃ fs ps t r, List.Forall₂ (Spells L) ms.toList fs ∧ List.Forall₂ IsMember fs ps ∧
      Run '}' ps t ∧ x = some r ∧ '"' :: key = t ++ r := by
  induction fuel using Nat.strong_induction_on generalizing key ms x with
  | h fuel ih =>
    cases fuel with
    | zero => cases h; exact hc.elim
    | succ fuel =>
      obtain ⟨k, g, g', t, colon, v, hk, hg, hg', rfl, hv⟩ := readMember_cases h hc
      rcases hv with ⟨hv, rfl, -⟩ | ⟨u, ms', hv, hms, rfl⟩
      · obtain ⟨p, r, -, hr, -⟩ := hP fuel (by omega) hv (hm _ List.mem_cons_self)
        cases hr
      · obtain ⟨p, r, hp, hr, rfl⟩ := hP fuel (by omega) hv (hm _ List.mem_cons_self)
        cases hr
        obtain ⟨e, he, hu⟩ := exists_append_dropGap u
        have hm' : ∀ m ∈ ms'.toList, P m.2 := fun m h => hm m (List.mem_cons_of_mem _ h)
        -- the first member, as it is told and as it is written
        have hs : Spells L (k ++ '"' :: (g ++ ':' :: (g' ++ (p ++ u))), v) (k, p) :=
          ⟨hk, ⟨_, rfl⟩, hp⟩
        have hmember : IsMember (k, p) ('"' :: (k ++ '"' :: (g ++ ':' :: (g' ++ p)))) :=
          ⟨g, g', hg, hg', rfl⟩
        cases fuel with
        | zero => cases hms; exact hc.elim
        | succ fuel =>
          rcases readMembers_cases hms hc with ⟨r, hd, rfl, rfl⟩ | ⟨hf, -⟩ |
            ⟨-, e', key, he', hd, hkey⟩
          · exact ⟨[(k, p)], _, _, r, .cons hs .nil, .cons hmember .nil, .last he, rfl,
              by rw [hu, hd]; simp⟩
          · cases hf
          · obtain ⟨fs, ps, q, r, hfs, hps, hq, rfl, hkq⟩ :=
              ih fuel (by omega) (fun f hf => hP f (by omega)) hkey hc hm'
            exact ⟨(k, p) :: fs, _, _, r, .cons hs hfs, .cons hmember hps, .next he he' hq, rfl,
              by rw [hu, hd, hkq]; simp⟩

theorem isObject_of_readMembers {fuel : Nat} (hP : ∀ f < fuel, Recovers P L f) {s : Chars}
    {ms : Members} {x : Option Chars} (h : readMembers fuel true (dropGap s) = (ms, x))
    (hc : ms.Closed) (hm : ∀ m ∈ ms.toList, P m.2) :
    ∃ fs t r, List.Forall₂ (Spells L) ms.toList fs ∧ IsObject fs t ∧ x = some r ∧
      '{' :: s = t ++ r := by
  obtain ⟨g, hg, hs⟩ := exists_append_dropGap s
  cases fuel with
  | zero => cases h; exact hc.elim
  | succ fuel =>
    rcases readMembers_cases h hc with ⟨r, hd, rfl, rfl⟩ | ⟨-, key, hd, hkey⟩ | ⟨hf, -⟩
    · exact ⟨[], _, r, .nil, ⟨[], .nil, .empty hg⟩, rfl, by rw [hs, hd]; simp⟩
    · obtain ⟨fs, ps, q, r, hfs, hps, hq, rfl, hkq⟩ :=
        run_of_readMember (fun f hf => hP f (by omega)) hkey hc hm
      exact ⟨fs, _, r, hfs, ⟨ps, hps, .parts hg hq⟩, rfl, by rw [hs, hd, hkq]; simp⟩
    · cases hf

end

/-! ### A list or an object is read up to its end -/

/-- Whatever may follow, `t` is read up to its end, and the outline satisfies `A`. -/
def ReadsAs (A : Outline → Prop) (t : Chars) : Prop :=
  ∀ ⦃fuel r⦄, Follows r → 3 * (t ++ r).length < fuel → ∃ o, read fuel (t ++ r) = (o, some r) ∧ A o

theorem ReadsAs.mono {A B : Outline → Prop} {t : Chars} (h : ReadsAs A t) (hab : ∀ o, A o → B o) :
    ReadsAs B t := by
  intro fuel r hr hf
  obtain ⟨o, ho, ha⟩ := h hr hf
  exact ⟨o, ho, hab o ha⟩

/-- A text that is read as something for each of several uses is read as one outline for all of
them. -/
theorem ReadsAs.all {ι : Type} {Q : ι → Prop} {A : ι → Outline → Prop} {t : Chars}
    (h : ∀ i, Q i → ReadsAs (A i) t) {i : ι} (hi : Q i) :
    ReadsAs (fun o => ∀ i, Q i → A i o) t := by
  intro fuel r hr hf
  obtain ⟨o, ho, -⟩ := h i hi hr hf
  refine ⟨o, ho, fun j hj => ?_⟩
  obtain ⟨o', ho', ha⟩ := h j hj hr hf
  cases ho.symm.trans ho'
  exact ha

/-- What is read whatever fuel there is for its parts is read. -/
theorem readsAs_of_succ {A : Outline → Prop} {t : Chars}
    (h : ∀ fuel r, Follows r → ∃ o, read (fuel + 1) (t ++ r) = (o, some r) ∧ A o) :
    ReadsAs A t := by
  intro fuel r hr hf
  cases fuel with
  | zero => omega
  | succ fuel => exact h fuel r hr

theorem readsAs_null : ReadsAs (fun o => ∃ s r, o = .null s r) ['n', 'u', 'l', 'l'] := by
  refine readsAs_of_succ fun fuel r _ => ?_
  refine ⟨.null ('n' :: 'u' :: 'l' :: 'l' :: r) r, ?_, _, _, rfl⟩
  simp [read, ofWord, word]

theorem readsAs_true : ReadsAs (fun o => ∃ s r, o = .bool true s r) ['t', 'r', 'u', 'e'] := by
  refine readsAs_of_succ fun fuel r _ => ?_
  refine ⟨.bool true ('t' :: 'r' :: 'u' :: 'e' :: r) r, ?_, _, _, rfl⟩
  simp [read, ofWord, word]

theorem readsAs_false :
    ReadsAs (fun o => ∃ s r, o = .bool false s r) ['f', 'a', 'l', 's', 'e'] := by
  refine readsAs_of_succ fun fuel r _ => ?_
  refine ⟨.bool false ('f' :: 'a' :: 'l' :: 's' :: 'e' :: r) r, ?_, _, _, rfl⟩
  simp [read, ofWord, word]

theorem readsAs_isNumeral {n : Numeral} {t : Chars} (h : IsNumeral n t) :
    ReadsAs (fun o => ∃ s r, o = .number n s r) t := by
  refine readsAs_of_succ fun fuel r hr => ?_
  have hscan := Numeral.scan_of_isNumeral h hr
  -- the first character leads to the branch of numbers
  obtain ⟨c, u, rfl, hc⟩ := Numeral.head_of_isNumeral h
  have hn : c ≠ 'n' := by rintro rfl; revert hc; decide
  have ht : c ≠ 't' := by rintro rfl; revert hc; decide
  have hf : c ≠ 'f' := by rintro rfl; revert hc; decide
  rw [List.cons_append] at hscan ⊢
  refine ⟨.number n (c :: (u ++ r)) r, ?_, _, _, rfl⟩
  simp [read, hn, ht, hf, hc, ofNumber, hscan]

theorem readsAs_wellSpelled {b : Chars} (h : WellSpelled b) :
    ReadsAs (fun o => ∃ r, o = .string (b ++ '"' :: r) r) ('"' :: b ++ ['"']) := by
  refine readsAs_of_succ fun fuel r _ => ?_
  refine ⟨_, ?_, r, rfl⟩
  simp [read, Numeral.isDigit, ofString, Literal.skip_of_wellSpelled h]

theorem readElement_next {fuel : Nat} {s u : Chars} {v : Outline}
    (h : read fuel s = (v, some u)) :
    readElement (fuel + 1) s =
      (.next v (readElements fuel false (dropGap u)).1,
        (readElements fuel false (dropGap u)).2) := by
  rw [readElement, h]

theorem not_follows_of_readElement {fuel : Nat} {s r : Chars} {es : Elements}
    (h : readElement fuel s = (es, some r)) : ¬Follows s := by
  cases fuel with
  | zero => cases h
  | succ fuel =>
    rcases readElement_cases h with ⟨v, -, -, hx⟩ | ⟨v, u, es', hv, -, -⟩
    · cases hx
    · exact not_follows_of_read hv

theorem readElements_first {fuel : Nat} {s : Chars} (hs : ¬Follows s) :
    readElements (fuel + 1) true s = readElement fuel s := by
  cases s with
  | nil => exact absurd .nil hs
  | cons c s =>
    have hc : c ≠ ']' := by rintro rfl; exact hs (follows_cons_iff.2 (by simp))
    simp [readElements, hc]

theorem readElements_comma {fuel : Nat} {g s : Chars} (hg : IsGap g) (hs : ¬Follows s) :
    readElements (fuel + 1) false (',' :: (g ++ s)) = readElement fuel s := by
  have hd := dropGap_append hg (stops_gap_of_not_follows hs)
  cases s with
  | nil => exact absurd .nil hs
  | cons c s =>
    have hc : c ≠ ']' := by rintro rfl; exact hs (follows_cons_iff.2 (by simp))
    simp [readElements, hd, hc]

theorem dropGap_append_cons {g r : Chars} {c : Char} (hg : IsGap g) (hc : gap c = false) :
    dropGap (g ++ c :: r) = c :: r :=
  dropGap_append hg (.cons hc)

section

variable {A : Outline → Chars → Prop}

theorem readElement_run {ps : List Chars} {t : Chars} (h : Run ']' ps t)
    (hA : ∀ p ∈ ps, ReadsAs (A · p) p) {fuel : Nat} {r : Chars}
    (hf : 3 * (t ++ r).length + 1 < fuel) :
    ∃ es, readElement fuel (t ++ r) = (es, some r) ∧ es.Closed ∧ List.Forall₂ A es.toList ps := by
  -- the gap and the comma or bracket behind a part end it, whatever the part is
  induction h generalizing fuel with
  | @last p g hg =>
    obtain ⟨fuel, rfl⟩ : ∃ f, fuel = f + 2 := ⟨fuel - 2, by omega⟩
    have hr : Follows (g ++ ']' :: r) := hg.follows (follows_cons_iff.2 (by simp))
    have he : (p ++ (g ++ [']'])) ++ r = p ++ (g ++ ']' :: r) := by simp
    rw [he] at hf ⊢
    have hfuel : 3 * (p ++ (g ++ ']' :: r)).length < fuel + 1 := by omega
    obtain ⟨v, hv, ha⟩ := hA p List.mem_cons_self hr hfuel
    rw [readElement_next hv, dropGap_append_cons hg (by rfl)]
    exact ⟨_, rfl, trivial, .cons ha .nil⟩
  | @next p g g' s ps hg hg' _ ih =>
    have hr : Follows (g ++ ',' :: (g' ++ (s ++ r))) := hg.follows (follows_cons_iff.2 (by simp))
    have he : (p ++ (g ++ ',' :: (g' ++ s))) ++ r = p ++ (g ++ ',' :: (g' ++ (s ++ r))) := by simp
    rw [he] at hf ⊢
    have hl := hf
    simp only [List.length_append, List.length_cons] at hl
    obtain ⟨fuel, rfl⟩ : ∃ f, fuel = f + 2 := ⟨fuel - 2, by omega⟩
    have hfuel : 3 * (p ++ (g ++ ',' :: (g' ++ (s ++ r)))).length < fuel + 1 := by omega
    obtain ⟨v, hv, ha⟩ := hA p List.mem_cons_self hr hfuel
    have hrest : 3 * (s ++ r).length + 1 < fuel := by
      rw [List.length_append]
      omega
    obtain ⟨es, hes, hc, hall⟩ := ih (fun q hq => hA q (List.mem_cons_of_mem p hq)) hrest
    rw [readElement_next hv, dropGap_append_cons hg (by rfl),
      readElements_comma hg' (not_follows_of_readElement hes), hes]
    exact ⟨_, rfl, hc, .cons ha hall⟩

theorem readsAs_isList {ps : List Chars} {t : Chars} (h : IsList ps t)
    (hA : ∀ p ∈ ps, ReadsAs (A · p) p) :
    ReadsAs (fun o => ∃ s es, o = .array s es ∧ es.Closed ∧ List.Forall₂ A es.toList ps) t := by
  intro fuel r hr hf
  cases h with
  | @empty g hg =>
    obtain ⟨fuel, rfl⟩ : ∃ f, fuel = f + 2 := ⟨fuel - 2, by simp at hf; omega⟩
    refine ⟨_, ?_, '[' :: (g ++ ']' :: r), .close r, rfl, trivial, .nil⟩
    simp [read, Numeral.isDigit, dropGap_append_cons hg (by rfl : gap ']' = false), readElements]
  | @parts g s _ hg hs =>
    simp only [List.cons_append, List.append_assoc, List.length_cons, List.length_append] at hf
    obtain ⟨fuel, rfl⟩ : ∃ f, fuel = f + 2 := ⟨fuel - 2, by omega⟩
    have hfuel : 3 * (s ++ r).length + 1 < fuel := by
      rw [List.length_append]
      omega
    obtain ⟨es, hes, hc, hall⟩ := readElement_run hs hA hfuel
    have hn := not_follows_of_readElement hes
    refine ⟨_, ?_, '[' :: (g ++ (s ++ r)), es, rfl, hc, hall⟩
    simp [read, Numeral.isDigit, dropGap_append hg (stops_gap_of_not_follows hn),
      readElements_first hn, hes]

theorem readMember_next {fuel : Nat} {k g g' t u : Chars} {v : Outline} (hk : WellSpelled k)
    (hg : IsGap g) (hg' : IsGap g') (h : read fuel t = (v, some u)) :
    readMember (fuel + 1) (k ++ '"' :: (g ++ ':' :: (g' ++ t))) =
      (.next (k ++ '"' :: (g ++ ':' :: (g' ++ t))) (':' :: (g' ++ t)) v
          (readMembers fuel false (dropGap u)).1,
        (readMembers fuel false (dropGap u)).2) := by
  have hd := dropGap_append hg' (stops_gap_of_not_follows (not_follows_of_read h))
  simp [readMember, Literal.skip_of_wellSpelled hk,
    dropGap_append_cons hg (by rfl : gap ':' = false), hd, h]

theorem readMembers_first (fuel : Nat) (key : Chars) :
    readMembers (fuel + 1) true ('"' :: key) = readMember fuel key := by
  simp [readMembers]

theorem readMembers_comma {fuel : Nat} {g key : Chars} (hg : IsGap g) :
    readMembers (fuel + 1) false (',' :: (g ++ '"' :: key)) = readMember fuel key := by
  simp [readMembers, dropGap_append_cons hg (by rfl : gap '"' = false)]

theorem readMember_run {fs : List (Chars × Chars)} {ps : List Chars} {t : Chars}
    (h : Run '}' ps t) (hps : List.Forall₂ IsMember fs ps) (hk : ∀ f ∈ fs, WellSpelled f.1)
    (hA : ∀ f ∈ fs, ReadsAs (A · f.2) f.2) {fuel : Nat} {r : Chars}
    (hf : 3 * (t ++ r).length < fuel) :
    ∃ key ms, t ++ r = '"' :: key ∧ readMember fuel key = (ms, some r) ∧ ms.Closed ∧
      List.Forall₂ (Spells A) ms.toList fs := by
  induction h generalizing fs fuel with
  | @last p e he =>
    obtain ⟨⟨k, v⟩, fs, ⟨g, g', hg, hg', rfl⟩, hnil, rfl⟩ := List.forall₂_cons_right_iff.1 hps
    cases hnil
    have hr : Follows (e ++ '}' :: r) := he.follows (follows_cons_iff.2 (by simp))
    simp only [List.cons_append, List.append_assoc, List.nil_append, List.length_cons,
      List.length_append] at hf ⊢
    obtain ⟨fuel, rfl⟩ : ∃ f, fuel = f + 2 := ⟨fuel - 2, by omega⟩
    have hfuel : 3 * (v ++ (e ++ '}' :: r)).length < fuel + 1 := by
      simp only [List.length_append, List.length_cons]
      omega
    obtain ⟨o, ho, ha⟩ := hA (k, v) List.mem_cons_self hr hfuel
    have hkey := hk (k, v) List.mem_cons_self
    have hnext := readMember_next hkey hg hg' ho
    rw [dropGap_append_cons he (by rfl)] at hnext
    exact ⟨_, _, rfl, hnext, trivial, .cons ⟨hkey, ⟨_, rfl⟩, ha⟩ .nil⟩
  | @next p e e' s ps he he' _ ih =>
    obtain ⟨⟨k, v⟩, fs, ⟨g, g', hg, hg', rfl⟩, hfs, rfl⟩ := List.forall₂_cons_right_iff.1 hps
    have hr : Follows (e ++ ',' :: (e' ++ (s ++ r))) := he.follows (follows_cons_iff.2 (by simp))
    simp only [List.cons_append, List.append_assoc, List.length_cons, List.length_append] at hf ⊢
    obtain ⟨fuel, rfl⟩ : ∃ f, fuel = f + 2 := ⟨fuel - 2, by omega⟩
    have hfuel : 3 * (v ++ (e ++ ',' :: (e' ++ (s ++ r)))).length < fuel + 1 := by
      simp only [List.length_append, List.length_cons]
      omega
    obtain ⟨o, ho, ha⟩ := hA (k, v) List.mem_cons_self hr hfuel
    have hrest : 3 * (s ++ r).length < fuel := by
      rw [List.length_append]
      omega
    obtain ⟨key, ms, hs, hms, hc, hall⟩ := ih hfs (fun f hf => hk f (List.mem_cons_of_mem _ hf))
      (fun f hf => hA f (List.mem_cons_of_mem _ hf)) hrest
    have hkey := hk (k, v) List.mem_cons_self
    have hnext := readMember_next hkey hg hg' ho
    rw [dropGap_append_cons he (by rfl), hs, readMembers_comma he', hms] at hnext
    rw [hs]
    exact ⟨_, _, rfl, hnext, hc, .cons ⟨hkey, ⟨_, rfl⟩, ha⟩ hall⟩

theorem readsAs_isObject {fs : List (Chars × Chars)} {t : Chars} (h : IsObject fs t)
    (hk : ∀ f ∈ fs, WellSpelled f.1) (hA : ∀ f ∈ fs, ReadsAs (A · f.2) f.2) :
    ReadsAs (fun o => ∃ s ms, o = .object s ms ∧ ms.Closed ∧
      List.Forall₂ (Spells A) ms.toList fs) t := by
  intro fuel r hr hf
  obtain ⟨ps, hps, h⟩ := h
  cases h with
  | @empty g hg =>
    cases hps
    obtain ⟨fuel, rfl⟩ : ∃ f, fuel = f + 2 := ⟨fuel - 2, by simp at hf; omega⟩
    refine ⟨_, ?_, '{' :: (g ++ '}' :: r), .close r, rfl, trivial, .nil⟩
    simp [read, Numeral.isDigit, dropGap_append_cons hg (by rfl : gap '}' = false), readMembers]
  | @parts g s _ hg hs =>
    simp only [List.cons_append, List.append_assoc, List.length_cons, List.length_append] at hf
    obtain ⟨fuel, rfl⟩ : ∃ f, fuel = f + 2 := ⟨fuel - 2, by omega⟩
    have hfuel : 3 * (s ++ r).length < fuel := by
      rw [List.length_append]
      omega
    obtain ⟨key, ms, hkey, hms, hc, hall⟩ := readMember_run hs hps hk hA hfuel
    refine ⟨_, ?_, '{' :: (g ++ (s ++ r)), ms, rfl, hc, hall⟩
    simp [read, Numeral.isDigit, hkey, dropGap_append_cons hg (by rfl : gap '"' = false),
      readMembers_first, hms]

end

/-! ### Passing over a value -/

theorem skipElements_eq_ok_iff : ∀ es : Elements,
    skipElements es = .ok () ↔ es.Closed ∧ ∀ v ∈ es.toList, skip v = .ok ()
  | .close _ => by simp [skipElements, Elements.Closed, Elements.toList]
  | .next v es => by
    simp only [skipElements, bind_eq_ok_iff, skipElements_eq_ok_iff es, Elements.Closed,
      Elements.toList, List.forall_mem_cons]
    constructor
    · rintro ⟨⟨⟩, hv, hc, hes⟩
      exact ⟨hc, hv, hes⟩
    · rintro ⟨hc, hv, hes⟩
      exact ⟨(), hv, hc, hes⟩
  | .broken .. => by simp [skipElements, Elements.Closed]

theorem skipMembers_eq_ok_iff : ∀ ms : Members,
    skipMembers ms = .ok () ↔ ms.Closed ∧ ∀ m ∈ ms.toList, skip m.2 = .ok ()
  | .close _ => by simp [skipMembers, Members.Closed, Members.toList]
  | .next key colon v ms => by
    simp only [skipMembers, bind_eq_ok_iff, skipMembers_eq_ok_iff ms, Members.Closed,
      Members.toList, List.forall_mem_cons]
    constructor
    · rintro ⟨⟨⟩, hv, hc, hms⟩
      exact ⟨hc, hv, hms⟩
    · rintro ⟨hc, hv, hms⟩
      exact ⟨(), hv, hc, hms⟩
  | .keyOnly .. => by simp [skipMembers, Members.Closed]
  | .broken .. => by simp [skipMembers, Members.Closed]

/-- What is passed over has been read from a value. -/
theorem isValue_of_skip (fuel : Nat) :
    Recovers (fun o => skip o = .ok ()) (fun _ t => IsValue t) fuel := by
  induction fuel using Nat.strong_induction_on with
  | h fuel ih =>
    intro s o x h hs
    cases fuel with
    | zero => cases h; cases hs
    | succ fuel =>
      have hP := fun f (hf : f < fuel) => ih f (by omega)
      cases reads_of_eq h with
      | null r => exact ⟨_, r, .null, rfl, rfl⟩
      | true r => exact ⟨_, r, .true, rfl, rfl⟩
      | false r => exact ⟨_, r, .false, rfl, rfl⟩
      | number hn =>
        obtain ⟨t, ht, rfl⟩ := Numeral.isNumeral_of_scan hn
        exact ⟨t, _, .number ht, rfl, rfl⟩
      | string hb =>
        obtain ⟨b, hspelled, rfl⟩ := Literal.skip_eq_ok_iff.1 hb
        exact ⟨_, _, .string hspelled, rfl, by simp⟩
      | array hes =>
        obtain ⟨hc, hall⟩ := (skipElements_eq_ok_iff _).1 hs
        obtain ⟨ps, t, r, hps, ht, rfl, hd⟩ := isList_of_readElements hP hes hc hall
        refine ⟨t, r, .list (fun p hp => ?_) ht, rfl, hd⟩
        obtain ⟨v, -, hv⟩ := forall₂_mem_right hps p hp
        exact hv
      | object hms =>
        obtain ⟨hc, hall⟩ := (skipMembers_eq_ok_iff _).1 hs
        obtain ⟨fs, t, r, hfs, ht, rfl, hd⟩ := isObject_of_readMembers hP hms hc hall
        refine ⟨t, r, .object (fun f hf => ?_) (fun f hf => ?_) ht, rfl, hd⟩
        · obtain ⟨m, -, hm⟩ := forall₂_mem_right hfs f hf
          exact hm.1
        · obtain ⟨m, -, hm⟩ := forall₂_mem_right hfs f hf
          exact hm.2.2
      | broken => cases hs

theorem readsAs_isValue {t : Chars} (h : IsValue t) : ReadsAs (fun o => skip o = .ok ()) t := by
  induction h with
  | null => exact readsAs_null.mono fun o ⟨_, _, ho⟩ => by rw [ho]; rfl
  | true => exact readsAs_true.mono fun o ⟨_, _, ho⟩ => by rw [ho]; rfl
  | false => exact readsAs_false.mono fun o ⟨_, _, ho⟩ => by rw [ho]; rfl
  | number hn => exact (readsAs_isNumeral hn).mono fun o ⟨_, _, ho⟩ => by rw [ho]; rfl
  | string hb => exact (readsAs_wellSpelled hb).mono fun o ⟨_, ho⟩ => by rw [ho]; rfl
  | list _ ht ih =>
    refine (readsAs_isList (A := fun o _ => skip o = .ok ()) ht ih).mono ?_
    rintro o ⟨s, es, rfl, hc, hall⟩
    refine (skipElements_eq_ok_iff es).2 ⟨hc, fun v hv => ?_⟩
    obtain ⟨p, -, hp⟩ := forall₂_mem_left hall v hv
    exact hp
  | object hk _ ht ih =>
    refine (readsAs_isObject (A := fun o _ => skip o = .ok ()) ht hk ih).mono ?_
    rintro o ⟨s, ms, rfl, hc, hall⟩
    refine (skipMembers_eq_ok_iff ms).2 ⟨hc, fun m hm => ?_⟩
    obtain ⟨f, -, hf⟩ := forall₂_mem_left hall m hm
    exact hf.2.2

end Outline

end Json

end Parley
