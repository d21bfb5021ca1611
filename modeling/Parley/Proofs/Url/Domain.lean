import Parley.Proofs.Basic
import Parley.Url.Host

/-!
# Blanks in a domain

A blank or control character of ASCII that stands anywhere in the text of a domain is still there
when its bytes have been decoded (`Percent.mem_decode`, `Text.mem_of_utf8?`), when its characters
have been mapped and composed (`Domain.Compose.mem_composed`), and when its labels have been read
from Punycode (`Domain.Punycode.mem_of_decode`).  There it is forbidden.

* `Domain.toAscii_eq_none` : a domain with such a character is refused.
* `Host.special_ne_ok` : so is a host that ends in such a character.
-/

namespace Parley

/-- A blank or control character of ASCII. -/
def Low (c : Char) : Prop := c.toNat ≤ 0x20

instance : DecidablePred Low := fun c => inferInstanceAs (Decidable (c.toNat ≤ 0x20))

theorem Low.lt {c : Char} (h : Low c) {n : Nat} (hn : 0x20 < n) : c.toNat < n :=
  Nat.lt_of_le_of_lt h hn

theorem Low.not_le {c d : Char} (h : Low c) (hd : 0x20 < d.toNat) : ¬d ≤ c :=
  Nat.not_le.2 (h.lt hd)

theorem Low.ne {c d : Char} (h : Low c) (hd : ¬Low d) : c ≠ d := fun heq => hd (heq ▸ h)

theorem exists_of_mapM {α β : Type} {f : α → Option β} {as : List α} {bs : List β}
    (h : as.mapM f = some bs) : ∀ a ∈ as, ∃ b ∈ bs, f a = some b := by
  induction as generalizing bs with
  | nil => simp
  | cons a as ih =>
    rw [List.mapM_cons] at h
    obtain ⟨b, hb, h⟩ := Option.bind_eq_some_iff.1 h
    obtain ⟨cs, hcs, h⟩ := Option.bind_eq_some_iff.1 h
    cases h
    rw [List.forall_mem_cons]
    refine ⟨⟨b, List.mem_cons_self, hb⟩, fun d hd => ?_⟩
    obtain ⟨c, hc, hdc⟩ := ih hcs d hd
    exact ⟨c, List.mem_cons_of_mem b hc, hdc⟩

/-! ### Bytes -/

namespace Text

theorem lead_of_lt {b : UInt8} (h : b.toNat < 0x80) : lead b = .single (Char.ofNat b.toNat) := by
  simp [lead, h]

/-- No longer character goes on with a byte of ASCII. -/
theorem low_of_lead {b : UInt8} {p : Pending} (h : lead b = .begins p) : 0x80 ≤ p.low := by
  simp only [lead] at h
  split_ifs at h <;> injection h with h <;> subst h <;> exact Nat.le_of_ble_eq_true rfl

/-- A byte of ASCII is a character of the text that bytes are decoded to. -/
theorem mem_of_decodeUtf8 {p : Option Pending} {bytes : List UInt8} {s : Chars}
    (hp : ∀ q ∈ p, 0x80 ≤ q.low) (h : decodeUtf8 none p bytes = some s) {b : UInt8}
    (hb : b ∈ bytes) (hlt : b.toNat < 0x80) : Char.ofNat b.toNat ∈ s := by
  induction bytes generalizing p s with
  | nil => cases hb
  | cons d bytes ih =>
    cases p with
    | none =>
      rw [decodeUtf8] at h
      split at h
      · rename_i c hlead
        obtain ⟨r, hr, rfl⟩ := Option.map_eq_some_iff.1 h
        rcases List.mem_cons.1 hb with rfl | hb
        · cases (lead_of_lt hlt).symm.trans hlead
          exact List.mem_cons_self
        · exact List.mem_cons_of_mem c (ih (by simp) hr hb)
      · rename_i q hlead
        rcases List.mem_cons.1 hb with rfl | hb
        · cases (lead_of_lt hlt).symm.trans hlead
        · exact ih (by simpa using low_of_lead hlead) h hb
      · cases h
    | some q =>
      have hq : 0x80 ≤ q.low := hp q rfl
      rw [decodeUtf8] at h
      split at h
      · -- the byte goes on with a character, so that it is none of ASCII
        have hd : b ≠ d := by
          rintro rfl
          omega
        have hb := (List.mem_cons.1 hb).resolve_left hd
        simp only at h
        split at h
        · obtain ⟨r, hr, rfl⟩ := Option.map_eq_some_iff.1 h
          exact List.mem_cons_of_mem _ (ih (by simp) hr hb)
        · exact ih (by simp) h hb
      · split at h <;> cases h

theorem mem_of_utf8? {bytes : List UInt8} {s : Chars} (h : utf8? bytes = some s) {c : Char}
    (hc : c.toNat < 0x80) (hb : UInt8.ofNat c.toNat ∈ bytes) : c ∈ s := by
  have hbyte : (UInt8.ofNat c.toNat).toNat = c.toNat :=
    UInt8.toNat_ofNat_of_lt (Nat.lt_trans hc (by decide))
  have hmem := mem_of_decodeUtf8 (by simp) h hb (by omega)
  rwa [hbyte, Char.ofNat_toNat] at hmem

end Text

namespace Url

namespace Percent

theorem hexDigit_of_low {c : Char} (h : Low c) : Json.Literal.hexDigit c = none := by
  have hzero : ¬('0' ≤ c) := h.not_le (by decide)
  have hsmall : ¬('a' ≤ c) := h.not_le (by decide)
  have hcapital : ¬('A' ≤ c) := h.not_le (by decide)
  simp [Json.Literal.hexDigit, hzero, hsmall, hcapital]

theorem mem_utf8EncodeChar {c : Char} (h : Low c) :
    UInt8.ofNat c.toNat ∈ String.utf8EncodeChar c := by
  have hle : c.val.toNat ≤ 127 := Nat.le_trans h (by omega)
  simp only [String.utf8EncodeChar, if_pos hle]
  exact List.mem_singleton_self _

/-- Decoding leaves a blank or control character as it is. -/
theorem mem_decode {c : Char} {s : Chars} (hc : c ∈ s) (h : Low c) :
    UInt8.ofNat c.toNat ∈ decode s := by
  fun_induction decode s with
  | case1 => cases hc
  | case2 a b r x y hb ha ih =>
    -- a character of an encoded byte is no blank
    have hne : c ≠ '%' ∧ c ≠ a ∧ c ≠ b := by
      refine ⟨h.ne (by decide), ?_, ?_⟩
      · rintro rfl
        cases (hexDigit_of_low h).symm.trans ha
      · rintro rfl
        cases (hexDigit_of_low h).symm.trans hb
    refine List.mem_cons_of_mem _ (ih ?_)
    simpa [hne] using hc
  | case3 a b r hnone ih =>
    exact List.mem_append_right _ (ih ((List.mem_cons.1 hc).resolve_left (h.ne (by decide))))
  | case4 d r hshort ih =>
    rcases List.mem_cons.1 hc with rfl | hc
    · exact List.mem_append_left _ (mem_utf8EncodeChar h)
    · exact List.mem_append_right _ (ih hc)

end Percent

namespace Domain

/-! ### Mapped and composed characters -/

theorem map_of_low {c : Char} (h : Low c) : Mapping.map c = some [c] := by
  have hlower : c.toLower = c := dif_neg fun hle => h.not_le (d := 'A') (by decide) hle.1
  simp [Mapping.map, h.lt, hlower]

namespace Compose

theorem decomposed_of_low {c : Char} (h : Low c) (fuel : Nat) :
    decomposed fuel c.toNat = [c.toNat] := by
  cases fuel with
  | zero => rfl
  | succ fuel =>
    have hsyllable : ¬(0xAC00 ≤ c.toNat ∧ c.toNat < 0xD7A4) := fun hle =>
      Nat.not_lt.2 hle.1 (h.lt (by decide))
    rw [decomposed, if_neg hsyllable]
    simp [parts?, h.lt]

theorem pair?_of_low_left {c : Char} (h : Low c) (b : Nat) : pair? c.toNat b = none := by
  have hlt : c.toNat < 0x3C := h.lt (by decide)
  unfold pair?
  split_ifs
  · omega
  · omega
  · rfl
  · omega

theorem pair?_of_low_right {c : Char} (h : Low c) (a : Nat) : pair? a c.toNat = none := by
  have hlt : c.toNat < 0x300 := h.lt (by decide)
  unfold pair?
  split_ifs
  · omega
  · omega
  · rfl
  · omega

theorem mem_insertMark {c d : Char} {s : Chars} (h : c = d ∨ c ∈ s) : c ∈ insertMark d s := by
  induction s with
  | nil => simpa [insertMark] using h
  | cons e s ih =>
    rw [insertMark]
    split
    · rcases h with h | h
      · exact List.mem_cons_of_mem e (ih (.inl h))
      · rcases List.mem_cons.1 h with rfl | h
        · exact List.mem_cons_self
        · exact List.mem_cons_of_mem e (ih (.inr h))
    · exact List.mem_cons.2 h

theorem mem_foldl_insertMark {c : Char} {s done : Chars} (h : c ∈ done ∨ c ∈ s) :
    c ∈ s.foldl (fun done d => insertMark d done) done := by
  induction s generalizing done with
  | nil => simpa using h
  | cons d s ih =>
    refine ih ?_
    rcases h with h | h
    · exact .inl (mem_insertMark (.inr h))
    · rcases List.mem_cons.1 h with h | h
      · exact .inl (mem_insertMark (.inl h))
      · exact .inr h

theorem mem_ordered {c : Char} {s : Chars} (h : c ∈ s) : c ∈ ordered s :=
  List.mem_reverse.2 (mem_foldl_insertMark (.inr h))

/-- A blank or control character composes with nothing, so that none is lost. -/
theorem mem_compose {c : Char} (hc : Low c) {o : Option Open} {done s : Chars}
    (h : c ∈ o.elim done (·.close done) ∨ c ∈ s) : c ∈ compose o done s := by
  -- the finished text with the letter and marks still open, or else the rest, has the blank
  induction s generalizing o done with
  | nil => cases o <;> simpa [compose] using h
  | cons d s ih =>
    cases o with
    | none =>
      rw [compose]
      split
      · exact ih (by simpa [Open.close, or_comm, or_assoc, or_left_comm] using h)
      · exact ih (by simpa [or_comm, or_assoc, or_left_comm] using h)
    | some p =>
      simp only [Option.elim_some, Open.close, List.mem_append, List.mem_cons] at h
      rw [compose]
      split
      · -- two characters are composed, and the blank is neither of them
        rename_i m hm
        simp only [Option.ite_none_right_eq_some] at hm
        have hpair : pair? p.letter.toNat d.toNat = some m := hm.2
        have hletter : c ≠ p.letter := by
          rintro rfl
          cases (pair?_of_low_left hc _).symm.trans hpair
        have hmark : c ≠ d := by
          rintro rfl
          cases (pair?_of_low_right hc _).symm.trans hpair
        refine ih ?_
        simp only [Option.elim_some, Open.close, List.mem_append, List.mem_cons]
        simp only [hletter, hmark, false_or] at h
        rcases h with (h | h) | h
        · exact .inl (.inl h)
        · exact .inl (.inr (.inr h))
        · exact .inr h
      · split
        · refine ih ?_
          simp only [Option.elim_some, Open.close, List.mem_append, List.mem_cons]
          simpa [or_comm, or_assoc, or_left_comm] using h
        · refine ih ?_
          simp only [Option.elim_some, Open.close, List.mem_append, List.mem_cons]
          simpa [or_comm, or_assoc, or_left_comm] using h

theorem mem_composed {c : Char} (hc : Low c) {s : Chars} (h : c ∈ s) : c ∈ composed s := by
  refine mem_compose hc (.inr (mem_ordered (List.mem_flatMap.2 ⟨c, h, ?_⟩)))
  rw [decomposed_of_low hc]
  simp

end Compose

/-! ### Labels -/

theorem exists_mem_labels {c : Char} (hc : c ≠ '.') {s : Chars} (h : c ∈ s) :
    ∃ l ∈ labels s, c ∈ l := by
  induction s with
  | nil => cases h
  | cons d s ih =>
    rw [labels]
    split
    · rename_i hd
      subst hd
      obtain ⟨l, hl, hcl⟩ := ih ((List.mem_cons.1 h).resolve_left hc)
      exact ⟨l, List.mem_cons_of_mem _ hl, hcl⟩
    · split
      · rename_i m ms hlabels
        rw [hlabels] at ih
        rcases List.mem_cons.1 h with rfl | h
        · exact ⟨_, List.mem_cons_self, List.mem_cons_self⟩
        · obtain ⟨l, hl, hcl⟩ := ih h
          rcases List.mem_cons.1 hl with rfl | hl
          · exact ⟨_, List.mem_cons_self, List.mem_cons_of_mem d hcl⟩
          · exact ⟨l, List.mem_cons_of_mem _ hl, hcl⟩
      · rename_i hlabels
        rw [hlabels] at ih
        rcases List.mem_cons.1 h with rfl | h
        · exact ⟨_, List.mem_cons_self, List.mem_cons_self⟩
        · obtain ⟨l, hl, -⟩ := ih h
          cases hl

namespace Punycode

theorem mem_of_finish {r r' : Reader} (h : r.finish = some r') {c : Char} (hc : c ∈ r.text) :
    c ∈ r'.text := by
  simp only [Reader.finish, Option.ite_none_right_eq_some] at h
  obtain ⟨-, h⟩ := h
  cases h
  rw [← List.take_append_drop ((r.cursor.place + r.distance) % (r.text.length + 1)) r.text,
    List.mem_append] at hc
  simp only [List.mem_append, List.mem_cons]
  exact hc.imp_right .inr

theorem digitValue_of_low {c : Char} (h : Low c) : digitValue c = none := by
  have hsmall : ¬('a' ≤ c) := h.not_le (by decide)
  have hcapital : ¬('A' ≤ c) := h.not_le (by decide)
  have hzero : ¬('0' ≤ c) := h.not_le (by decide)
  simp [digitValue, hsmall, hcapital, hzero]

/-- Reading digits only adds to the text, and no digit is a blank. -/
theorem mem_of_readDigits {c : Char} (hc : Low c) {r : Reader} {s u : Chars}
    (h : readDigits r s = some u) : c ∉ s ∧ (c ∈ r.text → c ∈ u) := by
  induction s generalizing r with
  | nil =>
    rw [readDigits, Option.ite_none_right_eq_some] at h
    cases h.2
    simp
  | cons d s ih =>
    rw [readDigits] at h
    obtain ⟨v, hv, h⟩ := Option.bind_eq_some_iff.1 h
    have hd : c ≠ d := by
      rintro rfl
      cases (digitValue_of_low hc).symm.trans hv
    rw [List.mem_cons, not_or]
    simp only at h
    split at h
    · cases h
    · split at h
      · obtain ⟨r', hr', h⟩ := Option.bind_eq_some_iff.1 h
        exact ⟨⟨hd, (ih h).1⟩, fun hr => (ih h).2 (mem_of_finish hr' hr)⟩
      · exact ⟨⟨hd, (ih h).1⟩, (ih h).2⟩

/-- Reading a label from Punycode leaves a blank in it as it is. -/
theorem mem_of_decode {c : Char} (hc : Low c) {s u : Chars} (h : decode s = some u)
    (hs : c ∈ s) : c ∈ u := by
  simp only [decode] at h
  split at h
  · exact absurd hs (mem_of_readDigits hc h).1
  · rename_i hascii
    obtain ⟨hdigits, htext⟩ := mem_of_readDigits hc h
    refine htext ?_
    generalize hend : (s.reverse.takeWhile (· ≠ '-')).reverse = digits at hdigits ⊢
    rcases hend ▸ eq_or_exists_append_takeWhile (· ≠ '-') s with rfl | ⟨r, d, hd, rfl⟩
    · exact absurd hs hdigits
    · -- the last hyphen is no blank, and neither is a digit behind it
      have hne : c ≠ d := by
        rw [decide_eq_false_iff_not, not_not] at hd
        exact hd ▸ hc.ne (by decide)
      have htake : (r ++ d :: digits).take ((r ++ d :: digits).length - digits.length - 1) = r := by
        rw [List.length_append, List.length_cons, List.take_left' (by omega)]
      rw [htake]
      simpa [hne, hdigits] using hs

end Punycode

theorem wellFormed_of_low {c : Char} (hc : Low c) {l : Chars} (h : c ∈ l) :
    wellFormed l = false := by
  have hforbidden : forbidden c = true := by
    simp [forbidden, show c.toNat ≤ 0x20 from hc]
  simp [wellFormed, List.any_eq_true.2 ⟨c, h, hforbidden⟩]

theorem unfold_eq_none {c : Char} (hc : Low c) {l : Chars} (h : c ∈ l) : unfold l = none := by
  simp only [unfold]
  split
  · -- the blank does not stand in the mark, so it is read with the rest of the label
    rename_i hmark
    obtain ⟨s, rfl⟩ := List.isPrefixOf_iff_prefix.1 hmark
    have hs : c ∈ s := by
      refine (List.mem_append.1 h).resolve_left fun hm => ?_
      have hnone : mark.all (fun d => !decide (Low d)) = true := by decide
      simpa [hc] using List.all_eq_true.1 hnone c hm
    split
    · rw [List.drop_left]
      cases hdecode : Punycode.decode s with
      | none => rfl
      | some u => simp [wellFormed_of_low hc (Punycode.mem_of_decode hc hdecode hs)]
    · rfl
  · rw [if_neg (by simp [wellFormed_of_low hc h])]

/-- A domain with a blank or control character is refused. -/
theorem toAscii_eq_none {c : Char} (hc : Low c) {bytes : List UInt8}
    (h : UInt8.ofNat c.toNat ∈ bytes) : toAscii bytes = none := by
  rw [Option.eq_none_iff_forall_ne_some]
  intro domain hdomain
  obtain ⟨text, htext, hdomain⟩ := Option.bind_eq_some_iff.1 hdomain
  obtain ⟨pieces, hpieces, hdomain⟩ := Option.bind_eq_some_iff.1 hdomain
  obtain ⟨ls, hls, -⟩ := Option.bind_eq_some_iff.1 hdomain
  obtain ⟨piece, hpiece, hmap⟩ :=
    exists_of_mapM hpieces c (Text.mem_of_utf8? htext (hc.lt (by decide)) h)
  cases (map_of_low hc).symm.trans hmap
  have hmapped : c ∈ pieces.flatten := List.mem_flatten_of_mem hpiece List.mem_cons_self
  have hcomposed : c ∈
      (if isAscii pieces.flatten then pieces.flatten else Compose.composed pieces.flatten) := by
    split
    · exact hmapped
    · exact Compose.mem_composed hc hmapped
  obtain ⟨l, hl, hcl⟩ := exists_mem_labels (hc.ne (by decide)) hcomposed
  obtain ⟨u, -, hu⟩ := exists_of_mapM hls l hl
  cases (unfold_eq_none hc hcl).symm.trans hu

end Domain

namespace Host

/-- No host of a special scheme ends in a blank or control character. -/
theorem special_ne_ok {c : Char} (hc : Low c) {s : Chars} (h : s.getLast? = some c) (host : Host) :
    special s ≠ .ok host := by
  intro hs
  rw [special] at hs
  split at hs
  · rw [bracketed, if_neg] at hs
    · cases hs
    · rw [h]
      rintro heq
      cases heq
      exact absurd hc (by decide)
  · rw [Domain.toAscii_eq_none hc (Percent.mem_decode (List.mem_of_getLast? h) hc)] at hs
    cases hs

end Host

end Url

end Parley
