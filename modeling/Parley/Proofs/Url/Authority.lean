import Parley.Proofs.Basic
import Parley.Proofs.Url.Domain
import Parley.Url.Parser

/-!
# Authorities

The authority of a URL of the web ends where a slash, a question mark or a number sign begins
something else.  Whatever is put behind it there leaves it as it is; a blank right behind its host
or port does not.

* `readAuthority_append` : what stands behind an authority does not matter for it.
* `readAuthority_append_low` : a blank right behind an authority spoils it.
-/

namespace Parley

namespace Url

/-! ### Hosts and ports -/

/-- The text has no character that ends an authority. -/
def Undelimited (s : Chars) : Prop := ∀ c ∈ s, delimiter true c = false

/-- The text begins with a character that ends an authority, if with any. -/
def Delimits (s : Chars) : Prop := Stops (fun c => !delimiter true c) s

theorem delimiter_of_low {c : Char} (h : Low c) : delimiter true c = false := by
  have hslash : c ≠ '/' := h.ne (by decide)
  have hquestion : c ≠ '?' := h.ne (by decide)
  have hnumber : c ≠ '#' := h.ne (by decide)
  have hbackslash : c ≠ '\\' := h.ne (by decide)
  simp [delimiter, hslash, hquestion, hnumber, hbackslash]

theorem takeHost_of_delimits {w : Chars} (h : Delimits w) (inside : Bool) :
    takeHost true inside w = [] := by
  cases w with
  | nil => rfl
  | cons c w =>
    have hc : delimiter true c = true := by simpa using h c rfl
    simp [takeHost, hc]

/-- A host either goes on with what stands behind the text, or ends within the text before a
colon. -/
theorem takeHost_append {s : Chars} (hs : Undelimited s) (inside : Bool) :
    (∃ inside', ∀ w, takeHost true inside (s ++ w) = s ++ takeHost true inside' w) ∨
      ∃ host r, s = host ++ ':' :: r ∧ ∀ w, takeHost true inside (s ++ w) = host := by
  -- brackets are opened and closed along the text, and a colon outside of them ends the host
  induction s generalizing inside with
  | nil => exact .inl ⟨inside, fun w => rfl⟩
  | cons c s ih =>
    have hc := hs c List.mem_cons_self
    by_cases hcolon : c = ':' ∧ inside = false
    · obtain ⟨rfl, rfl⟩ := hcolon
      exact .inr ⟨[], s, rfl, fun w => by simp [takeHost]⟩
    · have hstep (w : Chars) : takeHost true inside (c :: s ++ w) = c ::
          takeHost true (if c = '[' then true else if c = ']' then false else inside) (s ++ w) := by
        rw [List.cons_append, takeHost, if_neg]
        simpa [hc] using hcolon
      rcases ih (fun d hd => hs d (List.mem_cons_of_mem c hd)) _ with
        ⟨inside', hall⟩ | ⟨host, r, rfl, hhost⟩
      · exact .inl ⟨inside', fun w => by rw [hstep, hall, List.cons_append]⟩
      · exact .inr ⟨c :: host, r, rfl, fun w => by rw [hstep, hhost]⟩

theorem readPort_of_stops {usual : Option Nat} {s : Chars} (h : Stops (· = ':') s) :
    readPort usual s = .ok (none, s) := by
  unfold readPort
  split
  · cases h ':' rfl
  · rfl

/-- A port is read from the digits behind the colon, up to the end of the authority. -/
theorem readPort_colon {usual : Option Nat} {ds w : Chars}
    (hds : ∀ c ∈ ds, Json.Numeral.isDigit c = true) (hw : Stops Json.Numeral.isDigit w) :
    readPort usual (':' :: (ds ++ w)) =
      if w.head?.all (delimiter true) then (portOf usual ds).map (·, w)
      else .error .invalidPort := by
  simp only [readPort, takeWhile_append hds hw, dropWhile_append hds hw]

theorem Delimits.stops {w : Chars} (h : Delimits w) {p : Char → Bool}
    (hp : ∀ c, delimiter true c = true → p c = false) : Stops p w :=
  fun c hc => hp c (by simpa using h c hc)

theorem isDigit_of_delimiter {c : Char} (h : delimiter true c = true) :
    Json.Numeral.isDigit c = false := by
  simp only [delimiter, Bool.true_and, Bool.or_eq_true, decide_eq_true_eq] at h
  rcases h with ((rfl | rfl) | rfl) | rfl <;> decide

theorem ne_colon_of_delimiter {c : Char} (h : delimiter true c = true) :
    decide (c = ':') = false := by
  rw [decide_eq_false_iff_not]
  rintro rfl
  revert h
  decide

theorem readPort_append {usual : Option Nat} {s w : Chars} (hs : Undelimited s) (hw : Delimits w) :
    readPort usual (s ++ w) = (readPort usual s).map (fun p => (p.1, p.2 ++ w)) := by
  cases s with
  | nil =>
    rw [List.nil_append, readPort_of_stops (hw.stops fun _ => ne_colon_of_delimiter)]
    rfl
  | cons c s =>
    by_cases hc : c = ':'
    · subst hc
      obtain ⟨ds, hds, hsplit⟩ := exists_append_dropWhile Json.Numeral.isDigit s
      have hstops := stops_dropWhile Json.Numeral.isDigit s
      generalize s.dropWhile Json.Numeral.isDigit = r at hsplit hstops
      subst hsplit
      cases r with
      | nil =>
        -- the digits go on to the end of the text, where the authority ends
        have hend : w.head?.all (delimiter true) = true := by
          cases w with
          | nil => rfl
          | cons c w => simpa using hw c rfl
        rw [List.append_nil, List.cons_append,
          readPort_colon hds (hw.stops fun _ => isDigit_of_delimiter), if_pos hend,
          ← List.append_nil ds, readPort_colon hds hstops, List.append_nil]
        cases portOf usual ds <;> rfl
      | cons d r =>
        -- the digits end before the text does, at a character that ends no authority
        have hd : delimiter true d = false := hs d (by simp)
        have hgoes : Stops Json.Numeral.isDigit (d :: r ++ w) := .cons (hstops d rfl)
        rw [List.cons_append, List.append_assoc, readPort_colon hds hgoes,
          readPort_colon hds hstops]
        simp [hd, Except.map]
    · rw [List.cons_append, readPort_of_stops (.cons (decide_eq_false hc)),
        readPort_of_stops (.cons (decide_eq_false hc))]
      rfl

theorem readHost_eq_ok_iff {s : Chars} {host : Option Host} :
    readHost true s = .ok host ↔ s ≠ [] ∧ ∃ h, Host.special s = .ok h ∧ host = some h := by
  unfold readHost
  cases s with
  | nil => simp
  | cons c s => simp [map_eq_ok_iff, eq_comm (a := host)]

theorem readHostPort_eq_ok_iff {usual : Option Nat} {s r : Chars} {host : Option Host}
    {port : Option Nat} :
    readHostPort true usual s = .ok ((host, port), r) ↔
      readHost true (takeHost true false s) = .ok host ∧
        readPort usual (s.drop (takeHost true false s).length) = .ok (port, r) := by
  constructor
  · intro h
    obtain ⟨host', hhost, h⟩ := bind_eq_ok_iff.1 h
    obtain ⟨-, h, -, rfl⟩ := readHost_eq_ok_iff.1 hhost
    obtain ⟨⟨port', r'⟩, hport, h⟩ := bind_eq_ok_iff.1 h
    cases h
    exact ⟨hhost, hport⟩
  · rintro ⟨hhost, hport⟩
    obtain ⟨-, h, -, rfl⟩ := readHost_eq_ok_iff.1 hhost
    simp only [readHostPort, hhost, hport]
    rfl

theorem readAuthority_eq_ok_iff {usual : Option Nat} {s r : Chars} {a : Authority} :
    readAuthority true usual s = .ok (a, r) ↔ ∃ host port,
      readHostPort true usual (behindUser true s) = .ok ((host, port), r) ∧
        a = ⟨(userinfo ((user true s).getD [])).1, (userinfo ((user true s).getD [])).2, host,
          port⟩ := by
  constructor
  · intro h
    simp only [readAuthority] at h
    split at h
    · cases h
    · obtain ⟨⟨⟨host, port⟩, r'⟩, hread, h⟩ := bind_eq_ok_iff.1 h
      refine ⟨host, port, ?_⟩
      simp only at h
      split at h
      · cases h
      · cases h
        exact ⟨hread, rfl⟩
  · rintro ⟨host, port, hread, rfl⟩
    obtain ⟨hhost, -⟩ := readHostPort_eq_ok_iff.1 hread
    obtain ⟨hne, h, -, rfl⟩ := readHost_eq_ok_iff.1 hhost
    -- a host does not begin with a character that ends an authority
    have hhead : (behindUser true s).head?.any (delimiter true) = false := by
      cases hs : behindUser true s with
      | nil => rfl
      | cons c t =>
        rw [hs, takeHost] at hne
        rw [List.head?_cons, Option.any_some, Bool.eq_false_iff]
        exact fun hc => hne (if_pos (by simp [hc]))
    simp only [readAuthority, hread, hhead, Bool.and_false]
    rfl

/-! ### What stands behind an authority -/

theorem takeHost_of_low {g : Chars} (hg : ∀ c ∈ g, Low c) (inside : Bool) :
    takeHost true inside g = g := by
  induction g generalizing inside with
  | nil => rfl
  | cons c g ih =>
    have hc := hg c List.mem_cons_self
    have hcolon : c ≠ ':' := hc.ne (by decide)
    rw [takeHost, if_neg (by simp [delimiter_of_low hc, hcolon]),
      ih fun d hd => hg d (List.mem_cons_of_mem c hd)]

/-- A blank behind a port spoils it. -/
theorem readPort_append_low {usual : Option Nat} {s g : Chars} (hs : Undelimited s)
    (hok : ∃ p, readPort usual (':' :: s) = .ok p) (hg : ∀ c ∈ g, Low c) (hne : g ≠ [])
    (p : Option Nat × Chars) : readPort usual (':' :: (s ++ g)) ≠ .ok p := by
  obtain ⟨ds, hds, hsplit⟩ := exists_append_dropWhile Json.Numeral.isDigit s
  have hstops := stops_dropWhile Json.Numeral.isDigit s
  generalize s.dropWhile Json.Numeral.isDigit = r at hsplit hstops
  subst hsplit
  obtain ⟨q, hq⟩ := hok
  cases r with
  | nil =>
    cases g with
    | nil => exact absurd rfl hne
    | cons c g =>
      have hc := hg c List.mem_cons_self
      have hdigit : Json.Numeral.isDigit c = false := by
        simp [Json.Numeral.isDigit, hc.not_le (d := '0') (by decide)]
      rw [List.append_nil, readPort_colon hds (.cons hdigit)]
      simp [delimiter_of_low hc]
  | cons d r =>
    -- the text is no port even without the blank
    have hd : delimiter true d = false := hs d (by simp)
    rw [readPort_colon hds hstops] at hq
    simp [hd] at hq

theorem takeHost_length_le (special inside : Bool) (s : Chars) :
    (takeHost special inside s).length ≤ s.length := by
  fun_induction takeHost special inside s with
  | case1 => simp
  | case2 => simp
  | case3 inside c r _ ih => simpa using ih

theorem readHostPort_append {usual : Option Nat} {s w r : Chars} {hp : Option Host × Option Nat}
    (hs : Undelimited s) (hw : Delimits w) :
    readHostPort true usual (s ++ w) = .ok (hp, r) ↔
      ∃ r', readHostPort true usual s = .ok (hp, r') ∧ r' ++ w = r := by
  obtain ⟨host, port⟩ := hp
  have htake : takeHost true false (s ++ w) = takeHost true false s := by
    rcases takeHost_append hs false with ⟨inside, hall⟩ | ⟨host, r, -, hhost⟩
    · have hself := hall []
      rw [List.append_nil] at hself
      rw [hall, hself, takeHost_of_delimits hw]
      rfl
    · have hself := hhost []
      rw [List.append_nil] at hself
      rw [hhost, hself]
  have hrest : Undelimited (s.drop (takeHost true false s).length) :=
    fun c hc => hs c (List.mem_of_mem_drop hc)
  simp only [readHostPort_eq_ok_iff, htake,
    List.drop_append_of_le_length (takeHost_length_le _ _ _), readPort_append hrest hw,
    map_eq_ok_iff, Prod.exists, Prod.mk.injEq]
  constructor
  · rintro ⟨hhost, _, r', hport, rfl, rfl⟩
    exact ⟨r', ⟨hhost, hport⟩, rfl⟩
  · rintro ⟨r', ⟨hhost, hport⟩, rfl⟩
    exact ⟨hhost, port, r', hport, rfl, rfl⟩

/-- A blank behind a host and port spoils them. -/
theorem readHostPort_append_low {usual : Option Nat} {s g : Chars} (hs : Undelimited s)
    (hok : ∃ p, readHostPort true usual s = .ok p) (hg : ∀ c ∈ g, Low c) (hne : g ≠ [])
    (p : (Option Host × Option Nat) × Chars) : readHostPort true usual (s ++ g) ≠ .ok p := by
  obtain ⟨⟨⟨host, port⟩, r⟩, hok⟩ := hok
  obtain ⟨⟨host', port'⟩, r'⟩ := p
  obtain ⟨-, hport⟩ := readHostPort_eq_ok_iff.1 hok
  intro hread
  obtain ⟨hhost, hport'⟩ := readHostPort_eq_ok_iff.1 hread
  rcases takeHost_append hs false with ⟨inside, hall⟩ | ⟨name, r, rfl, hname⟩
  · -- the blank ends the host
    rw [hall, takeHost_of_low hg] at hhost
    obtain ⟨-, h, hspecial, -⟩ := readHost_eq_ok_iff.1 hhost
    obtain ⟨c, hc⟩ := Option.isSome_iff_exists.1 (List.getLast?_isSome.2 hne)
    refine Host.special_ne_ok (hg c (List.mem_of_getLast? hc)) ?_ h hspecial
    rw [List.getLast?_append, hc]
    rfl
  · -- the blank ends the port
    have hself := hname []
    rw [List.append_nil] at hself
    rw [hself, List.drop_left] at hport
    rw [hname, List.append_assoc, List.drop_left, List.cons_append] at hport'
    exact readPort_append_low (fun c hc => hs c (by simp [hc])) ⟨_, hport⟩ hg hne _ hport'

theorem exists_of_beforeLastAt {s info : Chars} (h : beforeLastAt s = some info) :
    ∃ r, s = info ++ '@' :: r := by
  obtain ⟨g, -, hs⟩ := exists_append_dropWhile (· ≠ '@') s.reverse
  have hstops := stops_dropWhile (· ≠ '@') s.reverse
  unfold beforeLastAt at h
  split at h
  · cases h
  · rename_i c r hback
    cases h
    rw [hback] at hs hstops
    have hc : c = '@' := by simpa using hstops c rfl
    refine ⟨g.reverse, ?_⟩
    rw [← List.reverse_reverse s, hs, hc]
    simp

theorem beforeLastAt_append {s g : Chars} (hg : '@' ∉ g) :
    beforeLastAt (s ++ g) = beforeLastAt s := by
  have hback : (s ++ g).reverse.dropWhile (· ≠ '@') = s.reverse.dropWhile (· ≠ '@') := by
    rw [List.reverse_append, List.dropWhile_append_of_pos]
    intro c hc
    rw [decide_eq_true_eq]
    rintro rfl
    exact hg (List.mem_reverse.1 hc)
  unfold beforeLastAt
  rw [hback]

theorem delimits_nil : Delimits [] := by simp [Delimits, Stops]

theorem user_append {s w : Chars} (hs : Undelimited s) (hw : Delimits w) :
    user true (s ++ w) = beforeLastAt s := by
  rw [user, takeWhile_append (by simpa [Undelimited] using hs) hw]

theorem user_eq {s : Chars} (hs : Undelimited s) : user true s = beforeLastAt s := by
  simpa using user_append hs delimits_nil

theorem undelimited_append_low {s g : Chars} (hs : Undelimited s) (hg : ∀ c ∈ g, Low c) :
    Undelimited (s ++ g) := by
  intro c hc
  rcases List.mem_append.1 hc with hc | hc
  · exact hs c hc
  · exact delimiter_of_low (hg c hc)

theorem user_append_low {s g : Chars} (hs : Undelimited s) (hg : ∀ c ∈ g, Low c) :
    user true (s ++ g) = beforeLastAt s := by
  have hat : '@' ∉ g := fun hmem => absurd (hg _ hmem) (by decide)
  rw [user_eq (undelimited_append_low hs hg), beforeLastAt_append hat]

theorem undelimited_behindUser {s : Chars} (hs : Undelimited s) :
    Undelimited (behindUser true s) := by
  unfold behindUser
  split
  · exact fun c hc => hs c (List.mem_of_mem_drop hc)
  · exact hs

/-- What stands behind a text stands behind its at-sign. -/
theorem behindUser_append {s w : Chars} (hs : Undelimited s)
    (h : user true (s ++ w) = beforeLastAt s) :
    behindUser true (s ++ w) = behindUser true s ++ w := by
  simp only [behindUser, h, user_eq hs]
  cases hinfo : beforeLastAt s with
  | none => rfl
  | some info =>
    obtain ⟨r, rfl⟩ := exists_of_beforeLastAt hinfo
    exact List.drop_append_of_le_length (by simp)

theorem readAuthority_append {usual : Option Nat} {s w r : Chars} {a : Authority}
    (hs : Undelimited s) (hw : Delimits w) :
    readAuthority true usual (s ++ w) = .ok (a, r) ↔
      ∃ r', readAuthority true usual s = .ok (a, r') ∧ r' ++ w = r := by
  have huser := user_append hs hw
  simp only [readAuthority_eq_ok_iff, behindUser_append hs huser, huser, user_eq hs,
    readHostPort_append (undelimited_behindUser hs) hw]
  constructor
  · rintro ⟨host, port, ⟨r', hread, hr⟩, ha⟩
    exact ⟨r', ⟨host, port, hread, ha⟩, hr⟩
  · rintro ⟨r', ⟨host, port, hread, ha⟩, hr⟩
    exact ⟨host, port, ⟨r', hread, hr⟩, ha⟩

/-- A blank behind an authority spoils it. -/
theorem readAuthority_append_low {usual : Option Nat} {s g : Chars} (hs : Undelimited s)
    (hok : ∃ p, readAuthority true usual s = .ok p) (hg : ∀ c ∈ g, Low c) (hne : g ≠ [])
    (p : Authority × Chars) : readAuthority true usual (s ++ g) ≠ .ok p := by
  obtain ⟨⟨a, r⟩, hok⟩ := hok
  obtain ⟨host, port, hread, -⟩ := readAuthority_eq_ok_iff.1 hok
  intro hspoilt
  obtain ⟨host', port', hread', -⟩ := readAuthority_eq_ok_iff.1 hspoilt
  rw [behindUser_append hs (user_append_low hs hg)] at hread'
  exact readHostPort_append_low (undelimited_behindUser hs) ⟨_, hread⟩ hg hne _ hread'

end Url

end Parley
