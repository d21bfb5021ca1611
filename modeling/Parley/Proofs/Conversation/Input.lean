import Parley.Proofs.Conversation.Transcript
import Parley.Proofs.Text.Blank

/-!
# What an input text is

* `transcript?_trim_eq_some_iff` : a trimmed text is read as a conversation exactly if it is the
  text of a transcript.
* `parse_spec` : which texts are blank, which are conversations and of which turns, and which are
  what the user says.
-/

namespace Parley

open Json Json.Grammar

/-- The text is a transcript of the messages, at least one, between blank characters. -/
def IsConversation (ms : List Message) (s : Chars) : Prop :=
  ms ≠ [] ∧ ∃ g t h, (∀ c ∈ g, Text.blank c = true) ∧ IsTranscript ms t ∧
    (∀ c ∈ h, Text.blank c = true) ∧ s = g ++ (t ++ h)

/-- The turn says what the message says; its role is the one that the message names, and the user
for every other name and for none. -/
def Message.Means (m : Message) (t : Turn) : Prop :=
  t.content = m.content ∧ (t.role = .system ↔ m.role = some "system") ∧
    (t.role = .assistant ↔ m.role = some "assistant")

theorem Role.eq_of_iff {r s : Role} (hsystem : r = .system ↔ s = .system)
    (hassistant : r = .assistant ↔ s = .assistant) : r = s := by
  cases r <;> cases s <;> simp_all

namespace Message

theorem means_turn (m : Message) : m.Means m.turn := by
  refine ⟨rfl, ?_, ?_⟩
  all_goals
    simp only [turn, Role.ofLoose]
    by_cases hsystem : m.role = some "system"
    · simp [hsystem]
    by_cases hassistant : m.role = some "assistant"
    · simp [hassistant]
    · simp [hsystem, hassistant]

theorem means_iff {m : Message} {t : Turn} : m.Means t ↔ m.turn = t := by
  constructor
  · rintro ⟨hcontent, hsystem, hassistant⟩
    obtain ⟨-, hsystem', hassistant'⟩ := m.means_turn
    have hrole := Role.eq_of_iff (hsystem'.trans hsystem.symm) (hassistant'.trans hassistant.symm)
    cases t
    cases hcontent
    cases hrole
    rfl
  · rintro rfl
    exact m.means_turn

theorem forall₂_means_iff {ms : List Message} {ts : List Turn} :
    List.Forall₂ Means ms ts ↔ ts = ms.map turn := by
  have hmeans : Means = fun m t => m.turn = t := by
    funext m t
    exact propext means_iff
  rw [hmeans, ← List.forall₂_map_left_iff, List.forall₂_eq_eq_eq, eq_comm]

end Message

/-! ### Trimmed transcripts -/

theorem trim_isTranscript {ms : List Message} {t g h : Chars} (ht : IsTranscript ms t)
    (hg : ∀ c ∈ g, Text.blank c = true) (hh : ∀ c ∈ h, Text.blank c = true) :
    Text.trim (g ++ (t ++ h)) = t ∧ t.head? = some '{' := by
  obtain ⟨fs, ⟨gs, -, ps, -, henclosed⟩, -⟩ := ht
  obtain ⟨u, rfl⟩ := henclosed.eq
  exact ⟨Text.trim_append hg hh (by decide) (by decide), rfl⟩

/-- What trimming leaves of a conversation is decoded as its messages. -/
theorem decode_trim_of_isConversation {ms : List Message} {s : Chars} (h : IsConversation ms s) :
    (Text.trim s).head? = some '{' ∧
      Transcript.record.decoder.decode (String.ofList (Text.trim s)) = .ok ⟨ms⟩ := by
  obtain ⟨hms, g, t, h, hg, ht, hh, rfl⟩ := h
  obtain ⟨htrim, hhead⟩ := trim_isTranscript ht hg hh
  have hhead' : (String.ofList t).toList.head? = some '{' := by simpa using hhead
  rw [htrim]
  exact ⟨hhead, (decode_transcript_iff hms hhead').2 ⟨t, [], ht, .nil, by simp⟩⟩

namespace Input

/-- A trimmed text is read as a transcript exactly if the text is a conversation. -/
theorem transcript?_trim_eq_some_iff {s : Chars} {tr : Transcript} :
    transcript? (Text.trim s) = some tr ↔ IsConversation tr.messages s := by
  constructor
  · intro h
    unfold transcript? at h
    split at h
    · rename_i hhead
      split at h
      · rename_i tr' hdecode
        split at h
        · cases h
        · rename_i hms
          cases h
          have hms : tr.messages ≠ [] := by simpa using hms
          obtain ⟨t, u, ht, hu, hs⟩ :=
            (decode_transcript_iff hms (by simpa using hhead)).1 hdecode
          -- a gap behind the object is blank as well
          obtain ⟨g, h, hg, hh, hs'⟩ := Text.exists_append_trim s
          refine ⟨hms, g, t, u ++ h, hg, ht, ?_, ?_⟩
          · simpa [or_imp, forall_and] using ⟨hu.blank, hh⟩
          · rw [String.toList_ofList] at hs
            rw [hs', hs, List.append_assoc]
      · cases h
    · cases h
  · intro h
    obtain ⟨hhead, hdecode⟩ := decode_trim_of_isConversation h
    simp [transcript?, hhead, hdecode, h.1]

theorem isConversation_unique {s : Chars} {ms ns : List Message} (hm : IsConversation ms s)
    (hn : IsConversation ns s) : ms = ns := by
  have hm' : transcript? (Text.trim s) = some ⟨ms⟩ := transcript?_trim_eq_some_iff.2 hm
  have hn' : transcript? (Text.trim s) = some ⟨ns⟩ := transcript?_trim_eq_some_iff.2 hn
  cases hm'.symm.trans hn'
  rfl

theorem trim_ne_nil_of_isConversation {s : Chars} {ms : List Message} (h : IsConversation ms s) :
    Text.trim s ≠ [] := by
  obtain ⟨-, g, t, u, hg, ht, hu, rfl⟩ := h
  obtain ⟨htrim, hhead⟩ := trim_isTranscript ht hg hu
  rw [htrim]
  rintro rfl
  cases hhead

/-! ### The three kinds of input -/

theorem parse_of_blank {input : String} (h : ∀ c ∈ input.toList, Text.blank c = true) :
    parse input = .blank := by
  have htrim := (Text.trim_eq_nil_iff input.toList).2 h
  simp [parse, htrim]

theorem parse_of_isConversation {input : String} {ms : List Message}
    (h : IsConversation ms input.toList) : parse input = .structured (ms.map (·.turn)) := by
  have htrim := trim_ne_nil_of_isConversation h
  have htranscript : transcript? (Text.trim input.toList) = some ⟨ms⟩ :=
    transcript?_trim_eq_some_iff.2 h
  simp [parse, htrim, htranscript, Transcript.turns]

theorem parse_of_not_isConversation {input : String} {c : Char} (hc : c ∈ input.toList)
    (hblank : Text.blank c = false) (h : ∀ ms, ¬IsConversation ms input.toList) :
    parse input = .plain input := by
  have htrim : Text.trim input.toList ≠ [] := by
    rw [ne_eq, Text.trim_eq_nil_iff]
    intro hall
    simp [hall c hc] at hblank
  have htranscript : transcript? (Text.trim input.toList) = none := by
    cases htr : transcript? (Text.trim input.toList) with
    | none => rfl
    | some tr => exact absurd (transcript?_trim_eq_some_iff.1 htr) (h tr.messages)
  simp [parse, htrim, htranscript]

/-- A text is blank, or a conversation, or something else with a character that is not blank. -/
theorem input_cases (input : String) :
    (∀ c ∈ input.toList, Text.blank c = true) ∨ (∃ ms, IsConversation ms input.toList) ∨
      (∃ c ∈ input.toList, Text.blank c = false) ∧ ∀ ms, ¬IsConversation ms input.toList := by
  by_cases hblank : ∀ c ∈ input.toList, Text.blank c = true
  · exact .inl hblank
  by_cases hconv : ∃ ms, IsConversation ms input.toList
  · exact .inr (.inl hconv)
  · exact .inr (.inr ⟨by simpa using hblank, by simpa using hconv⟩)

/-- Exactly the blank texts are blank, exactly the conversations are conversations, of one turn for
each message, and every other text is what the user says, as it stands. -/
theorem parse_spec (input : String) :
    (∀ ts, parse input = .structured ts ↔
      ∃ ms, IsConversation ms input.toList ∧ List.Forall₂ Message.Means ms ts) ∧
    (∀ text, parse input = .plain text ↔ text = input ∧
      (∃ c ∈ input.toList, Text.blank c = false) ∧ ∀ ms, ¬IsConversation ms input.toList) ∧
    (parse input = .blank ↔ ∀ c ∈ input.toList, Text.blank c = true) := by
  simp only [Message.forall₂_means_iff]
  -- in each of the three cases the two other kinds are ruled out
  rcases input_cases input with hblank | ⟨ms, hms⟩ | ⟨⟨c, hc, hblank⟩, hconv⟩
  · have hconv : ∀ ms, ¬IsConversation ms input.toList := by
      intro ms hms
      exact trim_ne_nil_of_isConversation hms ((Text.trim_eq_nil_iff input.toList).2 hblank)
    rw [parse_of_blank hblank]
    simpa [hconv] using hblank
  · have hother : ∃ c ∈ input.toList, Text.blank c = false := by
      have htrim := trim_ne_nil_of_isConversation hms
      rw [ne_eq, Text.trim_eq_nil_iff] at htrim
      simpa using htrim
    rw [parse_of_isConversation hms]
    refine ⟨fun ts => ?_, fun text => ?_, ?_⟩
    · constructor
      · rintro ⟨⟩
        exact ⟨ms, hms, rfl⟩
      · rintro ⟨ns, hns, rfl⟩
        rw [isConversation_unique hms hns]
    · simp only [reduceCtorEq, false_iff]
      rintro ⟨-, -, hnot⟩
      exact hnot ms hms
    · simpa using hother
  · have hnot : ¬∀ c ∈ input.toList, Text.blank c = true := by
      intro hall
      simp [hall c hc] at hblank
    rw [parse_of_not_isConversation hc hblank hconv]
    refine ⟨by simp [hconv], fun text => ?_, by simpa using hnot⟩
    constructor
    · rintro ⟨⟩
      exact ⟨rfl, ⟨c, hc, hblank⟩, hconv⟩
    · rintro ⟨rfl, -, -⟩
      rfl

end Input

end Parley
