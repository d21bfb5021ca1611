import Parley.Proofs.Conversation.Input
import Parley.Proofs.Json.Length

/-!
# The turns of a call

The turns of a call are those of its instructions and, behind them, those of its input.  The input
adds nothing, or what the user says, or the messages of a conversation, and which of them it is can
be seen from the turns: no message of a conversation is the whole conversation.

* `conversation_composed` : what the turns of a call are made of (`Composed`).
-/

namespace Parley

open Json.Grammar

/-! ### A message is shorter than its conversation -/

section

variable {m : Message} {ms : List Message} {s t : Chars}

theorem IsMessage.length_lt (h : IsMessage m t) : m.content.toList.length < t.length := by
  cases h with
  | object hm _ _ hcontent =>
    obtain ⟨v, hv, hcontent⟩ := hcontent
    exact hcontent.length_lt.trans (hm.length_lt_of_valuesOf hv)
  | @list v w _ hcontent ht =>
    exact hcontent.length_lt.trans (ht.length_lt w (.tail _ (.head _)))

theorem IsTranscript.length_lt (h : IsTranscript ms t) :
    ∀ m ∈ ms, m.content.toList.length < t.length := by
  obtain ⟨fs, hfs, -, v, hv, es, hes, hlist⟩ := h
  intro m hm
  obtain ⟨e, he, hmessage⟩ := forall₂_mem_left hes m hm
  have helement := hmessage.length_lt.trans (hlist.length_lt e he)
  exact helement.trans (hfs.length_lt_of_valuesOf hv)

theorem IsConversation.length_lt (h : IsConversation ms s) :
    ∀ m ∈ ms, m.content.toList.length < s.length := by
  obtain ⟨-, g, t, u, -, ht, -, rfl⟩ := h
  intro m hm
  have hlt := ht.length_lt m hm
  simp only [List.length_append]
  omega

end

/-! ### The turns of the instructions -/

theorem instructionTurns_of_blank {instructions : String}
    (h : ∀ c ∈ instructions.toList, Text.blank c = true) : instructionTurns instructions = [] :=
  if_pos (Text.isBlank_iff.2 h)

theorem instructionTurns_of_not_blank {instructions : String}
    (h : ∃ c ∈ instructions.toList, Text.blank c = false) :
    instructionTurns instructions = [⟨.system, instructions⟩] := by
  rw [instructionTurns, Text.isBlank_eq_false_iff.2 h]
  rfl

theorem instructionTurns_eq_nil_iff {instructions : String} :
    instructionTurns instructions = [] ↔ ∀ c ∈ instructions.toList, Text.blank c = true := by
  constructor
  · intro h
    by_contra hnot
    rw [instructionTurns_of_not_blank (by simpa using hnot)] at h
    cases h
  · exact instructionTurns_of_blank

/-! ### The turns of the input -/

namespace Input

variable {input : String} {ms : List Message}

theorem turns_parse_of_blank (h : ∀ c ∈ input.toList, Text.blank c = true) :
    (parse input).turns = [] := by
  rw [parse_of_blank h, turns]

theorem turns_parse_of_isConversation (h : IsConversation ms input.toList) :
    (parse input).turns = ms.map (·.turn) := by
  rw [parse_of_isConversation h, turns]

theorem turns_parse_of_not_isConversation {c : Char} (hc : c ∈ input.toList)
    (hblank : Text.blank c = false) (h : ∀ ms, ¬IsConversation ms input.toList) :
    (parse input).turns = [⟨.user, input⟩] := by
  rw [parse_of_not_isConversation hc hblank h, turns]

/-- None of the messages of a conversation is the conversation itself. -/
theorem turns_parse_ne_of_isConversation (h : IsConversation ms input.toList) :
    (parse input).turns ≠ [] ∧ ∀ t ∈ (parse input).turns, t.content ≠ input := by
  rw [turns_parse_of_isConversation h]
  refine ⟨by simpa using h.1, fun t ht => ?_⟩
  obtain ⟨m, hm, rfl⟩ := List.mem_map.1 ht
  rintro rfl
  exact absurd (h.length_lt m hm) (Nat.lt_irrefl _)

theorem turns_parse_eq_nil_iff :
    (parse input).turns = [] ↔ ∀ c ∈ input.toList, Text.blank c = true := by
  refine ⟨fun h => ?_, turns_parse_of_blank⟩
  rcases input_cases input with hblank | ⟨ms, hms⟩ | ⟨⟨c, hc, hblank⟩, hnot⟩
  · exact hblank
  · exact absurd h (turns_parse_ne_of_isConversation hms).1
  · rw [turns_parse_of_not_isConversation hc hblank hnot] at h
    cases h

theorem turns_parse_eq_plain_iff : (parse input).turns = [⟨.user, input⟩] ↔
    (∃ c ∈ input.toList, Text.blank c = false) ∧ ∀ ms, ¬IsConversation ms input.toList := by
  constructor
  · intro h
    refine ⟨?_, fun ms hms => ?_⟩
    · by_contra hblank
      rw [turns_parse_of_blank (by simpa using hblank)] at h
      cases h
    · exact (turns_parse_ne_of_isConversation hms).2 _ (h ▸ List.mem_singleton_self _) rfl
  · rintro ⟨⟨c, hc, hblank⟩, hnot⟩
    exact turns_parse_of_not_isConversation hc hblank hnot

end Input

/-! ### The turns of a call -/

/-- The turns of a call are made of a head, for its instructions, and a tail, for its input. -/
structure Composed (instructions input : String) (head tail : List Turn) : Prop where
  /-- The head comes first, and nothing is left out or added. -/
  append : conversation instructions input = head ++ tail
  /-- Blank instructions have no turn. -/
  head_of_blank : (∀ c ∈ instructions.toList, Text.blank c = true) → head = []
  /-- All others are one turn of the system, as they stand. -/
  head_of_not_blank : (∃ c ∈ instructions.toList, Text.blank c = false) →
    head = [⟨.system, instructions⟩]
  /-- The tail is empty exactly if the input is blank. -/
  tail_eq_nil_iff : tail = [] ↔ ∀ c ∈ input.toList, Text.blank c = true
  /-- The tail is what the user says, as it stands, exactly if the input is neither blank nor a
  conversation. -/
  tail_eq_plain_iff : tail = [⟨.user, input⟩] ↔
    (∃ c ∈ input.toList, Text.blank c = false) ∧ ∀ ms, ¬IsConversation ms input.toList
  /-- A conversation makes the tail its messages, one turn for each, and at least one; none of the
  turns is the whole input. -/
  tail_of_isConversation : ∀ ms, IsConversation ms input.toList →
    List.Forall₂ Message.Means ms tail ∧ tail ≠ [] ∧ ∀ t ∈ tail, t.content ≠ input
  /-- Where the tail is anything but what the user says, the trimmed input can be decoded as an
  object of messages, at least one, and the tail is these messages. -/
  decodes : tail ≠ [] → tail ≠ [⟨.user, input⟩] →
    (Text.trim input.toList).head? = some '{' ∧
      ∃ ms, ms ≠ [] ∧
        Transcript.record.decoder.decode (String.ofList (Text.trim input.toList)) = .ok ⟨ms⟩ ∧
          List.Forall₂ Message.Means ms tail
  /-- An input whose first character that is not blank is no brace is what the user says. -/
  tail_of_first : ∀ g c r, input.toList = g ++ c :: r → (∀ c ∈ g, Text.blank c = true) →
    Text.blank c = false → c ≠ '{' → tail = [⟨.user, input⟩]
  /-- There is no turn at all exactly if both texts are blank. -/
  eq_nil_iff : conversation instructions input = [] ↔
    (∀ c ∈ instructions.toList, Text.blank c = true) ∧ ∀ c ∈ input.toList, Text.blank c = true

/-- The head of the turns is made of the instructions alone, and the tail of the input alone. -/
theorem conversation_composed (instructions input : String) :
    Composed instructions input (instructionTurns instructions) (Input.parse input).turns where
  append := rfl
  head_of_blank := instructionTurns_of_blank
  head_of_not_blank := instructionTurns_of_not_blank
  tail_eq_nil_iff := Input.turns_parse_eq_nil_iff
  tail_eq_plain_iff := Input.turns_parse_eq_plain_iff
  tail_of_isConversation ms hms := by
    rw [Message.forall₂_means_iff]
    exact ⟨Input.turns_parse_of_isConversation hms, Input.turns_parse_ne_of_isConversation hms⟩
  decodes hnil hplain := by
    rw [ne_eq, Input.turns_parse_eq_nil_iff] at hnil
    rw [ne_eq, Input.turns_parse_eq_plain_iff] at hplain
    rcases Input.input_cases input with hblank | ⟨ms, hms⟩ | hother
    · exact absurd hblank hnil
    · obtain ⟨hhead, hdecode⟩ := decode_trim_of_isConversation hms
      have hmeans := Message.forall₂_means_iff.2 (Input.turns_parse_of_isConversation hms)
      exact ⟨hhead, ms, hms.1, hdecode, hmeans⟩
    · exact absurd hother hplain
  tail_of_first g c r hinput hg hc hbrace := by
    refine Input.turns_parse_eq_plain_iff.2 ⟨⟨c, by simp [hinput], hc⟩, fun ms hms => hbrace ?_⟩
    obtain ⟨hhead, -⟩ := decode_trim_of_isConversation hms
    rw [hinput, Text.head?_trim hg hc] at hhead
    exact Option.some.inj hhead
  eq_nil_iff := by
    rw [conversation, List.append_eq_nil_iff, instructionTurns_eq_nil_iff,
      Input.turns_parse_eq_nil_iff]

end Parley
