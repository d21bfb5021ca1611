import Parley.Proofs.Conversation.Shape
import Parley.Proofs.Json.Printer
import Parley.Provider.Exchange

/-!
# Printed conversations as input

A printed list of turns is a list of messages (`isMessage_print`), and any printed object that holds
it as its only member `messages` is read as the conversation of these turns, whatever stands beside
it (`parse_object`).

* `conversation_payload` : what is sent to a provider, given as input, makes the turns that were
  sent.
* `conversation_printAll` : every conversation may be given as input.
-/

namespace Parley

open Json Json.Grammar Json.Printer

namespace Turn

/-- The message that a turn is printed as. -/
def message (t : Turn) : Message := ⟨some t.role.name, t.content⟩

theorem turn_message (t : Turn) : t.message.turn = t := by
  rw [message, Message.turn, Role.ofLoose_name]

theorem map_turn_message (ts : List Turn) : (ts.map message).map (·.turn) = ts := by
  simp [Function.comp_def, turn_message]

theorem isMessage_print (t : Turn) : IsMessage t.message t.print := by
  refine .object (hasMembers_object _) ?_ (.inr ⟨t.role.print, ?_, ?_⟩) ⟨string t.content, ?_, ?_⟩
  · simp
  · rfl
  · exact .some (isString_string t.role.name)
  · rfl
  · exact isString_string t.content

theorem isListOf_printAll (ts : List Turn) :
    IsListOf IsMessage (ts.map message) (printAll ts) := by
  refine ⟨ts.map print, ?_, isList_list _⟩
  rw [List.forall₂_map_left_iff, List.forall₂_map_right_iff, List.forall₂_same]
  exact fun t _ => isMessage_print t

end Turn

/-! ### Objects that hold the turns -/

theorem isTranscript_object (ts : List Turn) {ms : List (String × Chars)}
    (hms : ∀ m ∈ ms, m.1 ≠ "messages" ∧ IsValue m.2) :
    IsTranscript (ts.map (·.message)) (object (("messages", Turn.printAll ts) :: ms)) := by
  have hnone : valuesOf "messages" ms = [] := by
    simpa [valuesOf] using fun name t hm => (hms (name, t) hm).1
  refine ⟨_, hasMembers_object _, ?_, Turn.printAll ts, ?_, Turn.isListOf_printAll ts⟩
  · intro m hm hne
    rcases List.mem_cons.1 hm with rfl | hm
    · exact absurd rfl hne
    · exact (hms m hm).2
  · rw [valuesOf_cons_self, hnone]

/-- Members beside the messages do not change what a printed conversation is read as. -/
theorem parse_object {ts : List Turn} (hts : ts ≠ []) {ms : List (String × Chars)}
    (hms : ∀ m ∈ ms, m.1 ≠ "messages" ∧ IsValue m.2) :
    Input.parse (String.ofList (object (("messages", Turn.printAll ts) :: ms))) =
      .structured ts := by
  have hconv : IsConversation (ts.map (·.message))
      (String.ofList (object (("messages", Turn.printAll ts) :: ms))).toList :=
    ⟨by simpa using hts, [], _, [], by simp, isTranscript_object ts hms, by simp, by simp⟩
  rw [Input.parse_of_isConversation hconv, Turn.map_turn_message]

/-! ### What was sent -/

theorem isValue_temperature : IsValue Request.temperature.toList := by
  have hdigits : Digits "000001".toList := by
    simp [Digits]
  have hnumeral : IsNumeral ⟨false, ['0'], some "000001".toList, none⟩
      Request.temperature.toList :=
    ⟨'.' :: "000001".toList, [], ⟨by simp [Digits], fun _ => rfl⟩, .some hdigits, .none, rfl⟩
  exact .number hnumeral

theorem conversation_of_blank (input : String) :
    conversation "" input = (Input.parse input).turns := rfl

/-- What is sent for a request with turns, given as input, makes these turns and no others. -/
theorem conversation_payload (r : Request) (h : r.turns ≠ []) :
    conversation "" (String.ofList r.payload) = r.turns := by
  have hmembers : ∀ m ∈ [("model", string r.model), ("max_tokens", nat r.maxTokens.toNat),
      ("temperature", Request.temperature.toList)], m.1 ≠ "messages" ∧ IsValue m.2 := by
    simp only [List.forall_mem_cons]
    obtain ⟨b, hb, hmodel⟩ := isString_string r.model
    refine ⟨⟨by decide, hmodel ▸ .string hb.wellSpelled⟩, ⟨by decide, isValue_nat _⟩,
      ⟨by decide, isValue_temperature⟩, by simp⟩
  rw [conversation_of_blank, Request.payload, parse_object h hmembers, Input.turns]

/-- All three roles speak, with quotes, backslashes and control characters, and the user once says
nothing. -/
theorem conversation_payload_greeting :
    let ts : List Turn :=
      [⟨.system, "say \"hello\"\n"⟩, ⟨.user, "hi\t\x01"⟩, ⟨.assistant, "\\hello\\"⟩, ⟨.user, ""⟩]
    let r : Request := ⟨"m\\1", ts, 5⟩
    r.turns ≠ [] ∧
      String.ofList r.payload =
        "\x7b\"messages\":[" ++
          "\x7b\"role\":\"system\",\"content\":\"say \\\"hello\\\"\\n\"\x7d," ++
          "\x7b\"role\":\"user\",\"content\":\"hi\\t\\u0001\"\x7d," ++
          "\x7b\"role\":\"assistant\",\"content\":\"\\\\hello\\\\\"\x7d," ++
          "\x7b\"role\":\"user\",\"content\":\"\"\x7d]," ++
          "\"model\":\"m\\\\1\",\"max_tokens\":5,\"temperature\":0.000001\x7d" ∧
      conversation "" (String.ofList r.payload) = ts := by
  intro ts r
  have h : r.turns ≠ [] := by decide
  exact ⟨h, by decide +kernel, conversation_payload r h⟩

/-! ### What is given as input -/

theorem object_messages (ts : List Turn) :
    object [("messages", Turn.printAll ts)] =
      "\x7b\"messages\":".toList ++ Turn.printAll ts ++ ['}'] := by
  have hkey : Literal.quote "messages".toList ++ [':'] = "\"messages\":".toList := by decide
  have hopen : "\x7b\"messages\":".toList = '{' :: "\"messages\":".toList := by decide
  rw [hopen, ← hkey]
  simp [object, member, commas]

/-- Every conversation may be given as input: it is read turn by turn, and no instructions but those
of the call are added to it. -/
theorem conversation_printAll (instructions : String) (ts : List Turn) (h : ts ≠ []) :
    let input := String.ofList ("\x7b\"messages\":".toList ++ Turn.printAll ts ++ ['}'])
    Input.parse input = .structured ts ∧
      ((∀ c ∈ instructions.toList, Text.blank c = true) → conversation instructions input = ts) ∧
      ((∃ c ∈ instructions.toList, Text.blank c = false) →
        conversation instructions input = ⟨.system, instructions⟩ :: ts) := by
  intro input
  have hparse : Input.parse input = .structured ts := by
    show Input.parse (String.ofList _) = _
    rw [← object_messages]
    exact parse_object h (by simp)
  refine ⟨hparse, ?_, ?_⟩
  · intro hblank
    rw [conversation, instructionTurns_of_blank hblank, hparse]
    rfl
  · intro hblank
    rw [conversation, instructionTurns_of_not_blank hblank, hparse]
    rfl

theorem conversation_printAll_dialogue :
    let ts : List Turn := [⟨.system, "\""⟩, ⟨.assistant, " "⟩]
    let input := String.ofList ("\x7b\"messages\":".toList ++ Turn.printAll ts ++ ['}'])
    ts ≠ [] ∧ Input.parse input = .structured ts ∧
      conversation "be brief" input = ⟨.system, "be brief"⟩ :: ts := by
  intro ts input
  have h : ts ≠ [] := by decide
  obtain ⟨hparse, -, hinstructions⟩ := conversation_printAll "be brief" ts h
  exact ⟨h, hparse, hinstructions ⟨'b', by decide, by decide⟩⟩

end Parley
