import Parley.Http.Post
import Parley.Proofs.Text.Blank
import Parley.Proofs.Url.Authority

/-!
# The beginning of a URL of the web

A URL of the web begins with its scheme, slashes and an authority (`HasAuthority`), and what stands
behind the authority does not matter for it.

* `exists_hasAuthority`, `parse_of_hasAuthority` : a text is a URL of the web exactly if it has such
  a beginning.
* `HasAuthority.append`, `HasAuthority.parse_ne_ok` : what may be put behind such a text, and that a
  blank right behind its authority spoils it.
* `HasAuthority.base`, `HasAuthority.base_ne_ok` : a path behind a base has the scheme and authority
  of the base, or is no URL if the base has a loose end (`LooseEnd`).
-/

namespace Parley

namespace Url

/-! ### Clean texts -/

/-- The blanks and control characters at the end of a text that would not be passed over if
something stood behind them. -/
def trail (s : Chars) : Chars := ((s.reverse.takeWhile low).filter kept).reverse

theorem low_iff {c : Char} : low c = true ↔ Low c := decide_eq_true_iff

theorem low_eq_false {c : Char} (h : ¬Low c) : low c = false := by
  rwa [Bool.eq_false_iff, Ne, low_iff]

theorem kept_of_not_low {c : Char} (h : ¬Low c) : kept c = true := by
  have hne (d : Char) (hd : Low d) : c ≠ d := fun heq => h (heq ▸ hd)
  simp [kept, hne '\t' (by decide), hne '\n' (by decide), hne '\r' (by decide)]

theorem low_of_mem_trail {s : Chars} : ∀ c ∈ trail s, Low c := by
  intro c hc
  have hmem := List.mem_takeWhile_imp (List.mem_filter.1 (List.mem_reverse.1 hc)).1
  exact low_iff.1 hmem

/-- Where something stands behind a text, only what stands before the text is taken away. -/
theorem clean_append {s w : Chars} {c : Char} (hw : ∀ d ∈ c :: w, ¬Low d) :
    clean (s ++ c :: w) = (s.dropWhile low).filter kept ++ c :: w := by
  have hc : low c = false := low_eq_false (hw c List.mem_cons_self)
  have hfront : (s ++ c :: w).dropWhile low = s.dropWhile low ++ c :: w := by
    rw [List.dropWhile_append]
    split
    · rename_i hempty
      rw [List.isEmpty_iff.1 hempty, List.nil_append]
      exact (Stops.cons hc).dropWhile
    · rfl
  have hend : Text.dropEnd low (s.dropWhile low ++ c :: w) = s.dropWhile low ++ c :: w := by
    rw [← List.dropLast_append_getLast (List.cons_ne_nil c w), ← List.append_assoc,
      Text.dropEnd_concat]
    exact low_eq_false (hw _ (List.getLast_mem _))
  rw [clean, Text.strip, hfront, hend, List.filter_append]
  congr 1
  exact List.filter_eq_self.2 fun d hd => kept_of_not_low (hw d hd)

/-- Cleaning takes away what stands before a text, and its trail. -/
theorem filter_dropWhile_eq {s : Chars} (h : clean s ≠ []) :
    (s.dropWhile low).filter kept = clean s ++ trail s := by
  obtain ⟨g, hg, hs⟩ := exists_append_dropWhile low s
  obtain ⟨t, ht, hd⟩ := Text.exists_append_dropEnd low (s.dropWhile low)
  -- the text is `g ++ mid ++ t`, where `mid` is not empty and neither begins nor ends in a blank
  have hlast := Text.getLast?_dropEnd (p := low) (s := s.dropWhile low)
  have hclean : clean s = (Text.dropEnd low (s.dropWhile low)).filter kept := rfl
  generalize Text.dropEnd low (s.dropWhile low) = mid at hd hlast hclean
  have hmid : mid ≠ [] := by
    rintro rfl
    exact h hclean
  have hstop : Stops low (mid.reverse ++ g.reverse) := by
    intro c hc
    refine hlast c ?_
    rwa [List.head?_append_of_ne_nil _ (by simpa using hmid), List.head?_reverse] at hc
  have htrail : trail s = t.filter kept := by
    rw [trail, hs, hd, List.reverse_append, List.reverse_append, List.append_assoc,
      takeWhile_append (by simpa using ht) hstop, List.filter_reverse, List.reverse_reverse]
  rw [htrail, hclean, hd, List.filter_append]

/-! ### Schemes -/

theorem splitScheme_eq_some_iff {s scheme rest : Chars} :
    splitScheme s = some (scheme, rest) ↔ ∃ raw, s = raw ++ ':' :: rest ∧
      (∀ c ∈ raw, schemeChar c = true) ∧ raw.head?.map Char.isAlpha = some true ∧
        scheme = raw.map Char.toLower := by
  have hcolon : schemeChar ':' = false := by decide
  constructor
  · intro h
    simp only [splitScheme] at h
    split at h
    · rename_i r hrest
      split at h
      · rename_i halpha
        cases h
        refine ⟨s.takeWhile schemeChar, ?_, fun c hc => List.mem_takeWhile_imp hc, ?_, rfl⟩
        · rw [← hrest, List.takeWhile_append_dropWhile]
        · cases s with
          | nil => cases hrest
          | cons c s =>
            have hc : c.isAlpha = true := by simpa using halpha
            simp [schemeChar, hc]
      · cases h
    · cases h
  · rintro ⟨raw, rfl, hraw, halpha, rfl⟩
    have hstop : Stops schemeChar (':' :: rest) := .cons hcolon
    have hhead : (raw ++ ':' :: rest).head?.map Char.isAlpha = some true := by
      cases raw with
      | nil => cases halpha
      | cons c raw => exact halpha
    simp only [splitScheme, takeWhile_append hraw hstop, dropWhile_append hraw hstop, hhead,
      if_true]

theorem splitScheme_append {s scheme rest : Chars} (h : splitScheme s = some (scheme, rest))
    (w : Chars) : splitScheme (s ++ w) = some (scheme, rest ++ w) := by
  obtain ⟨raw, rfl, hraw, halpha, rfl⟩ := splitScheme_eq_some_iff.1 h
  exact splitScheme_eq_some_iff.2 ⟨raw, by simp, hraw, halpha, rfl⟩

/-! ### Texts with an authority -/

/-- The text begins with a scheme of the web, slashes and an authority. -/
def HasAuthority (scheme : Chars) (a : Authority) (s : Chars) : Prop :=
  (scheme = "http".toList ∨ scheme = "https".toList) ∧ ∃ rest r,
    splitScheme s = some (scheme, rest) ∧
      readAuthority true (usualPort scheme) (behindSlashes rest) = .ok (a, r)

theorem readBehindSlashes_eq_ok {special : Bool} {scheme s : Chars} {u : Url}
    (h : readBehindSlashes special scheme s = .ok u) : u.scheme = scheme ∧
      ∃ a r, readAuthority special (usualPort scheme) s = .ok (a, r) ∧ u.authority = some a := by
  obtain ⟨⟨a, r⟩, hread, h⟩ := bind_eq_ok_iff.1 h
  cases h
  exact ⟨rfl, a, r, hread, rfl⟩

theorem scheme_of_readBehindScheme {scheme s : Chars} {u : Url}
    (h : readBehindScheme scheme s = .ok u) : u.scheme = scheme := by
  unfold readBehindScheme at h
  split at h
  · rename_i hfile
    simp only [readFile] at h
    split at h
    · cases h
      exact hfile.symm
    · split at h
      · cases h
        exact hfile.symm
      · obtain ⟨g, -, h⟩ := bind_eq_ok_iff.1 h
        cases h
        exact hfile.symm
  · split at h
    · exact (readBehindSlashes_eq_ok h).1
    · split at h
      · exact (readBehindSlashes_eq_ok h).1
      · cases h
        rfl

theorem readBehindScheme_of_web {scheme : Chars}
    (h : scheme = "http".toList ∨ scheme = "https".toList) (s : Chars) :
    readBehindScheme scheme s = readBehindSlashes true scheme (behindSlashes s) := by
  rcases h with rfl | rfl <;> rfl

/-- A URL of the web has an authority. -/
theorem exists_hasAuthority {text : String} {u : Url} (h : parse text = .ok u)
    (hweb : u.isWeb = true) :
    ∃ a, u.authority = some a ∧ HasAuthority u.scheme a (clean text.toList) := by
  unfold parse at h
  split at h
  · rename_i scheme rest hsplit
    obtain rfl := scheme_of_readBehindScheme h
    rw [readBehindScheme_of_web (isWeb_iff.1 hweb)] at h
    obtain ⟨-, a, r, hread, ha⟩ := readBehindSlashes_eq_ok h
    exact ⟨a, ha, isWeb_iff.1 hweb, rest, r, hsplit, hread⟩
  · cases h

/-- A text with an authority is a URL of the web. -/
theorem parse_of_hasAuthority {text : String} {scheme : Chars} {a : Authority}
    (h : HasAuthority scheme a (clean text.toList)) :
    ∃ u, parse text = .ok u ∧ u.scheme = scheme ∧ u.authority = some a := by
  obtain ⟨hweb, rest, r, hsplit, hread⟩ := h
  simp only [parse, hsplit, readBehindScheme_of_web hweb, readBehindSlashes, hread]
  exact ⟨_, rfl, rfl, rfl⟩

theorem parse_ne_ok {text : String} {scheme rest : Chars}
    (hweb : scheme = "http".toList ∨ scheme = "https".toList)
    (hsplit : splitScheme (clean text.toList) = some (scheme, rest))
    (h : ∀ p, readAuthority true (usualPort scheme) (behindSlashes rest) ≠ .ok p) (u : Url) :
    parse text ≠ .ok u := by
  simp only [parse, hsplit, readBehindScheme_of_web hweb]
  intro hparse
  obtain ⟨-, a, r, hread, -⟩ := readBehindSlashes_eq_ok hparse
  exact h _ hread

/-! ### What stands behind a text with an authority -/

/-- What stands behind the scheme of a URL and the slashes there. -/
def behindScheme (s : Chars) : Chars := behindSlashes ((s.dropWhile (· ≠ ':')).drop 1)

theorem behindScheme_eq {s scheme rest : Chars} (h : splitScheme s = some (scheme, rest)) :
    behindScheme s = behindSlashes rest := by
  obtain ⟨raw, rfl, hraw, -, -⟩ := splitScheme_eq_some_iff.1 h
  have hcolon : ∀ c ∈ raw, decide (c ≠ ':') = true := by
    intro c hc
    rw [decide_eq_true_eq]
    rintro rfl
    exact absurd (hraw _ hc) (by decide)
  rw [behindScheme, dropWhile_append hcolon (.cons (by decide)), List.drop_one, List.tail_cons]

theorem behindSlashes_append {s : Chars} (h : behindSlashes s ≠ []) (w : Chars) :
    behindSlashes (s ++ w) = behindSlashes s ++ w := by
  simp only [behindSlashes] at h ⊢
  rw [List.dropWhile_append, if_neg (by simpa using h)]

theorem behindSlashes_append_of_nil {s : Chars} (h : behindSlashes s = []) (w : Chars) :
    behindSlashes (s ++ w) = behindSlashes w := by
  simp only [behindSlashes] at h ⊢
  rw [List.dropWhile_append, if_pos (by simpa using h)]

theorem behindSlashes_of_slashes {w : Chars} (hw : ∀ c ∈ w, c = '/') : behindSlashes w = [] := by
  rw [behindSlashes, List.dropWhile_eq_nil_iff]
  rintro c hc
  simp [hw c hc]

theorem ne_nil_of_readAuthority {usual : Option Nat} {s : Chars} {p : Authority × Chars}
    (h : readAuthority true usual s = .ok p) : s ≠ [] := by
  rintro rfl
  cases h

theorem delimits_of_slashes {w : Chars} (hw : ∀ c ∈ w, c = '/') : Delimits w := by
  intro c hc
  simp [delimiter, hw c (List.mem_of_mem_head? hc)]

theorem Delimits.append {v w : Chars} (hv : Delimits v) (hw : v = [] → Delimits w) :
    Delimits (v ++ w) := by
  cases v with
  | nil => exact hw rfl
  | cons c v => exact .cons (hv c rfl)

/-- A text begins with what stands before its first delimiter. -/
theorem exists_undelimited (s : Chars) : ∃ t w, Undelimited t ∧ Delimits w ∧ s = t ++ w := by
  obtain ⟨t, ht, hs⟩ := exists_append_dropWhile (fun c => !delimiter true c) s
  exact ⟨t, _, by simpa [Undelimited] using ht, stops_dropWhile _ s, hs⟩

/-- What is put behind a text with an authority leaves the authority as it is, if it begins with a
delimiter or one stands before it. -/
theorem HasAuthority.append {scheme s w : Chars} {a : Authority} (h : HasAuthority scheme a s)
    (hw : Undelimited (behindScheme s) → Delimits w) : HasAuthority scheme a (s ++ w) := by
  obtain ⟨hweb, rest, r, hsplit, hread⟩ := h
  have hne := ne_nil_of_readAuthority hread
  rw [behindScheme_eq hsplit] at hw
  -- the authority is read from `t` alone, whichever delimiters stand behind it
  obtain ⟨t, v, ht, hv, hrest⟩ := exists_undelimited (behindSlashes rest)
  have hdelimits : Delimits (v ++ w) := by
    refine hv.append fun hnil => hw ?_
    rwa [hrest, hnil, List.append_nil]
  rw [hrest] at hread
  obtain ⟨r', hread, -⟩ := (readAuthority_append ht hv).1 hread
  refine ⟨hweb, rest ++ w, r' ++ (v ++ w), splitScheme_append hsplit w, ?_⟩
  rw [behindSlashes_append hne, hrest, List.append_assoc]
  exact (readAuthority_append ht hdelimits).2 ⟨r', hread, rfl⟩

/-- Slashes at the end of a text are not needed for its authority. -/
theorem HasAuthority.of_append {scheme s w : Chars} {a : Authority}
    (h : HasAuthority scheme a (s ++ w)) (hw : ∀ c ∈ w, c = '/') : HasAuthority scheme a s := by
  obtain ⟨hweb, rest, r, hsplit, hread⟩ := h
  obtain ⟨raw, hs, hraw, halpha, hscheme⟩ := splitScheme_eq_some_iff.1 hsplit
  -- the colon behind the scheme is none of the slashes, so that it stands before them
  have hcolon : ':' ∉ w := fun hmem => absurd (hw _ hmem) (by decide)
  obtain ⟨rest', rfl, rfl⟩ : ∃ rest', s = raw ++ ':' :: rest' ∧ rest = rest' ++ w := by
    rcases List.append_eq_append_iff.1 hs with ⟨m, -, rfl⟩ | ⟨m, rfl, hm⟩
    · simp at hcolon
    · cases m with
      | nil =>
        rw [List.nil_append] at hm
        exact absurd (hm ▸ List.mem_cons_self) hcolon
      | cons d m =>
        cases hm
        exact ⟨m, rfl, rfl⟩
  have hne : behindSlashes rest' ≠ [] := by
    intro hnil
    refine ne_nil_of_readAuthority hread ?_
    rw [behindSlashes_append_of_nil hnil, behindSlashes_of_slashes hw]
  obtain ⟨t, v, ht, hv, hrest⟩ := exists_undelimited (behindSlashes rest')
  rw [behindSlashes_append hne, hrest, List.append_assoc] at hread
  obtain ⟨r', hread, -⟩ :=
    (readAuthority_append ht (hv.append fun _ => delimits_of_slashes hw)).1 hread
  refine ⟨hweb, rest', r' ++ v, ?_, ?_⟩
  · exact splitScheme_eq_some_iff.2 ⟨raw, rfl, hraw, halpha, hscheme⟩
  · rw [hrest]
    exact (readAuthority_append ht hv).2 ⟨r', hread, rfl⟩

/-- A blank right behind an authority spoils the text. -/
theorem HasAuthority.parse_ne_ok {scheme s g w : Chars} {a : Authority}
    (h : HasAuthority scheme a s) (hs : Undelimited (behindScheme s)) (hg : ∀ c ∈ g, Low c)
    (hne : g ≠ []) (hw : Delimits w) {text : String} (htext : clean text.toList = s ++ g ++ w)
    (u : Url) : parse text ≠ .ok u := by
  obtain ⟨hweb, rest, r, hsplit, hread⟩ := h
  rw [behindScheme_eq hsplit] at hs
  rw [List.append_assoc] at htext
  refine Url.parse_ne_ok hweb (htext ▸ splitScheme_append hsplit (g ++ w)) ?_ u
  rintro ⟨a', r'⟩ hspoilt
  rw [behindSlashes_append (ne_nil_of_readAuthority hread), ← List.append_assoc,
    readAuthority_append (undelimited_append_low hs hg) hw] at hspoilt
  obtain ⟨r'', hspoilt, -⟩ := hspoilt
  exact readAuthority_append_low hs ⟨_, hread⟩ hg hne _ hspoilt

/-! ### Paths behind a base -/

/-- The text ends in blanks right behind its host or port; they count for nothing as long as nothing
stands behind them. -/
def LooseEnd (s : Chars) : Prop := trail s ≠ [] ∧ Undelimited (behindScheme (clean s))

instance : DecidablePred Undelimited := fun s =>
  decidable_of_iff (s.all (fun c => !delimiter true c) = true) (by simp [Undelimited])

instance : DecidablePred LooseEnd := fun s =>
  inferInstanceAs (Decidable (trail s ≠ [] ∧ Undelimited (behindScheme (clean s))))

theorem trail_of_slashes {s w : Chars} {c : Char} (hc : c = '/') (hw : ∀ d ∈ w, d = '/') :
    trail (s ++ c :: w) = [] := by
  have hlast : (c :: w).getLast (List.cons_ne_nil c w) = '/' := by
    rcases List.mem_cons.1 (List.getLast_mem (List.cons_ne_nil c w)) with h | h
    · exact h.trans hc
    · exact hw _ h
  rw [trail, ← List.dropLast_append_getLast (List.cons_ne_nil c w), hlast, ← List.append_assoc,
    List.reverse_append, List.reverse_singleton, List.cons_append,
    (Stops.cons (by decide)).takeWhile]
  rfl

/-- A base without its trailing slashes and a path behind it: either the base ends in slashes,
which the path takes the place of, or the path stands behind the blanks at the end of the base. -/
theorem clean_base {s path : Chars} (hpath : ∀ c ∈ '/' :: path, ¬Low c) (hs : clean s ≠ []) :
    (trail s = [] ∧ ∃ front slashes, (∀ c ∈ slashes, c = '/') ∧ clean s = front ++ slashes ∧
        clean (Text.dropEnd (· = '/') s ++ '/' :: path) = front ++ '/' :: path) ∨
      clean (Text.dropEnd (· = '/') s ++ '/' :: path) = clean s ++ trail s ++ '/' :: path := by
  obtain ⟨slashes, hslashes, hsplit⟩ := Text.exists_append_dropEnd (· = '/') s
  generalize Text.dropEnd (· = '/') s = base at hsplit ⊢
  subst hsplit
  simp only [decide_eq_true_eq] at hslashes
  cases slashes with
  | nil =>
    -- without a slash at its end the base stands as it is, blanks and all
    rw [List.append_nil] at hs ⊢
    rw [clean_append hpath, filter_dropWhile_eq hs]
    exact .inr rfl
  | cons c slashes =>
    -- blanks before the slashes are inside of the base, and stay where they are behind a path
    have hlow : ∀ d ∈ c :: slashes, ¬Low d := by
      intro d hd
      rw [hslashes d hd]
      decide
    refine .inl ⟨?_, _, c :: slashes, hslashes, clean_append hlow, clean_append hpath⟩
    exact trail_of_slashes (hslashes c List.mem_cons_self)
      fun d hd => hslashes d (List.mem_cons_of_mem c hd)

variable {scheme s path : Chars} {a : Authority}

theorem HasAuthority.clean_ne_nil (h : HasAuthority scheme a s) : s ≠ [] := by
  obtain ⟨-, rest, r, hsplit, -⟩ := h
  rintro rfl
  cases hsplit

theorem delimits_path (path : Chars) : Delimits ('/' :: path) := .cons (by decide)

/-- A path behind a base goes to the scheme and authority of the base, unless the base has a loose
end. -/
theorem HasAuthority.base (h : HasAuthority scheme a (clean s)) (hs : ¬LooseEnd s)
    (hpath : ∀ c ∈ '/' :: path, ¬Low c) :
    HasAuthority scheme a (clean (Text.dropEnd (· = '/') s ++ '/' :: path)) := by
  rcases clean_base hpath h.clean_ne_nil with ⟨-, front, slashes, hslashes, hclean, haddress⟩ |
    haddress
  · rw [haddress]
    rw [hclean] at h
    exact (h.of_append hslashes).append fun _ => delimits_path path
  · rw [haddress, List.append_assoc]
    refine h.append fun hbare => ?_
    have htrail : trail s = [] := by
      by_contra hne
      exact hs ⟨hne, hbare⟩
    rw [htrail]
    exact delimits_path path

/-- No path behind a base with a loose end makes a URL. -/
theorem HasAuthority.base_ne_ok (h : HasAuthority scheme a (clean s)) (hs : LooseEnd s)
    (hpath : ∀ c ∈ '/' :: path, ¬Low c) {text : String}
    (htext : text.toList = Text.dropEnd (· = '/') s ++ '/' :: path) (u : Url) :
    parse text ≠ .ok u := by
  rcases clean_base hpath h.clean_ne_nil with ⟨htrail, -⟩ | haddress
  · exact absurd htrail hs.1
  · exact h.parse_ne_ok hs.2 low_of_mem_trail hs.1 (delimits_path path) (htext ▸ haddress) u

end Url

end Parley
