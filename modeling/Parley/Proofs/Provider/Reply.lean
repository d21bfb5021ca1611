import Parley.Proofs.Json.Reread
import Parley.Proofs.Provider.Secrecy
import Parley.Proofs.Text.Utf8
import Parley.Provider.Sample

/-!
# From replies to completions

A call succeeds with what its reply stands for, which is the text of the first choice and the count
of all tokens.  The other choices are looked at for their form only.

* `Sample.rereads_reply` : the sample of a reply is read back as the reply.
* `Reply.normalises_completion`, `Reply.completion_congr` : what a completion is made of, and what
  makes no difference to it.
* `Adapter.run_generate_of_reply` : a call that gets a reply succeeds with its completion.
* `Adapter.run_generate_normalised` : the samples make a call succeed.
-/

namespace Parley

namespace Provider

open Json

/-- The reply that offers the texts. -/
def Reply.ofTexts (contents : List String) (total : UInt32) : Reply :=
  ⟨contents.map fun content => ⟨⟨some content⟩⟩, some ⟨total⟩⟩

/-! ### Samples are read back -/

namespace Sample

variable {n : Nat}

theorem rereads_message (n : Nat) (content : String) :
    Rereads (Message.record.decoder (n + 1)) True ⟨some content⟩
      (Printer.object
        [("content", Printer.string content), ("role", Printer.string "assistant")]) := by
  have hcontent : Rereads (Decoder.optional .string n) True (some content)
      (Printer.string content) := rereads_optional (rereads_string n content) nofun
  have hrole : Rereads (Part.role n) True () (Printer.string "assistant") := rereads_variant rfl n
  have hfields : Fills n
      [.of "content" .optional (.optional .string) (fun _ content => ⟨content⟩),
        checked "role" .required Part.role] _ _ Message.record.blank ⟨some content⟩ :=
    .of hcontent <| .of hrole .done
  refine (rereads_members (by decide) hfields ?_ (by decide) ?_).congr (by simp)
  · simp [Message.record]
  · simp [Message.record, checked, checkedOptional, Field.of]

theorem rereads_choice (n : Nat) {i : Nat} (hi : i < 2 ^ 32) (content : String) :
    Rereads (Choice.record.decoder (n + 2)) True ⟨⟨some content⟩⟩ (choice i content) := by
  have hreason : Rereads (Decoder.optional Part.finishReason (n + 1)) True (some ())
      (Printer.string "stop") := rereads_optional (rereads_variant rfl (n + 1)) nofun
  have hlogprobs : Rereads (Decoder.optional Part.logprobs (n + 1)) True none null :=
    rereads_null (n + 1)
  have hfields : Fills (n + 1)
      [checkedOptional "finish_reason" Part.finishReason, checked "index" .required .word32,
        checkedOptional "logprobs" Part.logprobs,
        .of "message" .required Message.record.decoder (fun _ message => ⟨message⟩)]
      _ _ Choice.record.blank ⟨⟨some content⟩⟩ :=
    .of hreason <| .of (rereads_nat (n + 1) hi) <| .of hlogprobs <|
      .of (rereads_message n content) .done
  refine (rereads_members (by decide) hfields ?_ (by decide) ?_).congr (by simp)
  · simp [Choice.record]
  · simp [Choice.record, checked, checkedOptional, Field.of]

theorem rereads_choices (n : Nat) {before : Nat} {contents : List String}
    (h : before + contents.length ≤ 2 ^ 32) :
    List.Forall₂ (fun c t => Rereads (Choice.record.decoder (n + 2)) True c t)
      (contents.map fun content => ⟨⟨some content⟩⟩) (choices before contents) := by
  induction contents generalizing before with
  | nil => exact .nil
  | cons content contents ih =>
    rw [List.length_cons] at h
    exact .cons (rereads_choice n (by omega) content) (ih (by omega))

theorem rereads_usage (n : Nat) (total : UInt32) :
    Rereads (Usage.record.decoder (n + 1)) True ⟨total⟩ (usage total) := by
  have hfields : Fills n
      [checked "completion_tokens" .required .word32, checked "prompt_tokens" .required .word32,
        .of "total_tokens" .required .word32 (fun _ totalTokens => ⟨totalTokens⟩)]
      _ _ Usage.record.blank ⟨total⟩ :=
    .of (rereads_nat n (i := 0) (by decide)) <| .of (rereads_word32 n total) <|
      .of (rereads_word32 n total) .done
  refine (rereads_members (by decide) hfields ?_ (by decide) ?_).congr (by simp)
  · simp [Usage.record]
  · simp [Usage.record, checked, checkedOptional, Field.of]

/-- The sample of a reply is read back as the reply, however many texts it offers as long as they
can be numbered. -/
theorem rereads_reply (n : Nat) {contents : List String} (h : contents.length ≤ 2 ^ 32)
    (total : UInt32) :
    Rereads (Reply.record.decoder (n + 4)) True (.ofTexts contents total)
      (reply contents total) := by
  have hchoices : Rereads (Decoder.list Choice.record.decoder (n + 3)) True
      (contents.map fun content => ⟨⟨some content⟩⟩) (Printer.list (choices 0 contents)) :=
    rereads_listOf (rereads_choices n (by omega))
  have husage : Rereads (Decoder.optional Usage.record.decoder (n + 3)) True (some ⟨total⟩)
      (usage total) := rereads_optional (rereads_usage (n + 2) total) nofun
  have hfields : Fills (n + 3)
      [.of "choices" .required (.list Choice.record.decoder) (fun r choices => { r with choices }),
        checked "created" .required .word32, checked "id" .required .string,
        checked "model" .required .string, checked "object" .required .string,
        .of "usage" .optional (.optional Usage.record.decoder) (fun r usage => { r with usage })]
      _ _ Reply.record.blank (.ofTexts contents total) :=
    .of hchoices <| .of (rereads_nat (n + 3) (i := 1700000000) (by decide)) <|
      .of (rereads_string (n + 3) "chatcmpl-test") <| .of (rereads_string (n + 3) "gpt-4o-mini") <|
        .of (rereads_string (n + 3) "chat.completion") <| .of husage .done
  refine (rereads_members (by decide) hfields ?_ (by decide) ?_).congr (by simp)
  · simp [Reply.record]
  · simp [Reply.record, checked, checkedOptional, Field.of]

theorem parse_reply {contents : List String} (h : contents.length ≤ 2 ^ 32) (total : UInt32) :
    Reply.parse (String.ofList (reply contents total)) = .ok (.ofTexts contents total) :=
  (rereads_reply 123 h total).decode_eq_ok_iff.2 trivial

end Sample

/-! ### Completions of replies -/

namespace Reply

/-- What the completion of a reply is, in terms of its first choice and its usage. -/
structure Normalises (r : Reply) (x : Completion) : Prop where
  /-- Without a choice there is nothing to say, and it costs nothing. -/
  of_nil : r.choices = [] → x = ⟨"", 0⟩
  /-- The output is the text of the first choice, and empty where it has none. -/
  output : ∀ c cs, r.choices = c :: cs →
    (∀ text, c.message.content = some text → x.output = text) ∧
      (c.message.content = none → x.output = "")
  /-- The cost is the count of all tokens, and nothing where it is not told. -/
  tokensUsed : ∀ c cs, r.choices = c :: cs →
    (∀ u, r.usage = some u → x.tokensUsed = u.totalTokens) ∧ (r.usage = none → x.tokensUsed = 0)

theorem completion_of_nil {r : Reply} (h : r.choices = []) : r.completion = ⟨"", 0⟩ := by
  rw [completion, h]
  rfl

theorem completion_of_cons {r : Reply} {c : Choice} {cs : List Choice} (h : r.choices = c :: cs) :
    r.completion = ⟨c.message.content.getD "", (r.usage.map (·.totalTokens)).getD 0⟩ := by
  rw [completion, h]

theorem normalises_completion (r : Reply) : r.Normalises r.completion where
  of_nil h := completion_of_nil h
  output c cs h := by
    rw [completion_of_cons h]
    exact ⟨fun text htext => by rw [htext, Option.getD_some],
      fun hnone => by rw [hnone, Option.getD_none]⟩
  tokensUsed c cs h := by
    rw [completion_of_cons h]
    exact ⟨fun u hu => by rw [hu, Option.map_some, Option.getD_some],
      fun hnone => by rw [hnone, Option.map_none, Option.getD_none]⟩

/-- The choices behind the first make no difference. -/
theorem completion_congr {r r' : Reply} (hfirst : r.choices.head? = r'.choices.head?)
    (husage : r.usage = r'.usage) : r.completion = r'.completion := by
  cases hr : r.choices with
  | nil =>
    rw [hr, eq_comm, List.head?_nil, List.head?_eq_none_iff] at hfirst
    rw [completion_of_nil hr, completion_of_nil hfirst]
  | cons c cs =>
    rw [hr, eq_comm, List.head?_cons, List.head?_eq_some_iff] at hfirst
    obtain ⟨cs', hr'⟩ := hfirst
    rw [completion_of_cons hr, completion_of_cons hr', husage]

theorem completion_ofTexts (contents : List String) (total : UInt32) :
    (ofTexts contents total).completion =
      match contents with
      | [] => ⟨"", 0⟩
      | content :: _ => ⟨content, total⟩ := by
  cases contents <;> rfl

end Reply

/-! ### Calls that get a reply -/

namespace Adapter

variable {a : Adapter} {c : Call} {n : Network} {p : Http.Post}

theorem exists_posts {model : String} (hmodel : a.options.model = some model)
    (hkey : a.endpoint.Presentable) {u : Url}
    (haddress : Http.address (a.endpoint.url completionsPath) = .ok u) (c : Call) :
    ∃ p, a.Posts c p ∧ p.url = u := by
  rcases a.endpoint.headers_cases with ⟨-, value, hheaders⟩ | ⟨hnot, -⟩
  · have hpost := post_of_headers hheaders (c.request model)
    rw [haddress] at hpost
    exact ⟨_, ⟨model, hmodel, hpost⟩, rfl⟩
  · exact absurd hkey hnot

/-- A call that gets a reply succeeds with its completion, and has sent one request. -/
theorem run_generate_of_reply (hp : a.Posts c p) {status : Http.Status} {body : List UInt8}
    (hb : n.behaviour p = .answers status body true) (hs : status.isSuccess = true) {r : Reply}
    (hr : Reply.parse (String.ofList (Text.lossy body)) = .ok r) (polls : Nat) :
    ∃ n', (a.generate c).run (polls + 2) n = (.answered (.ok r.completion), n') ∧
      n'.received = n.received ++ [p] := by
  have harrives : a.Arrives c n status body true := ⟨p, hp, hb⟩
  have hsilent : ∀ q, a.Posts c q → n.behaviour q = .silent → a.options.timeout.isSome := by
    intro q hq hsilent
    cases hp.eq hq
    cases hb.symm.trans hsilent
  obtain ⟨o, n', hrun, hends⟩ := run_generate_ends a c n hsilent polls
  refine ⟨n', ?_⟩
  generalize n'.received = received at hends ⊢
  cases hends with
  | noModel hmodel =>
    obtain ⟨model, hmodel', -⟩ := hp
    cases hmodel.symm.trans hmodel'
  | fault hf => exact absurd hr (hf.parse_ne_ok harrives hs r)
  | reply hq hb' _ hr' =>
    obtain ⟨-, rfl, -⟩ := harrives.eq ⟨_, hq, hb'⟩
    cases hr.symm.trans hr'
    cases hp.eq hq
    exact ⟨hrun, rfl⟩

/-- A call whose adapter has a model, a key that can stand in a header and an address succeeds when
the sample of a reply comes back as a whole: with the first of the texts and the count of tokens, or
with nothing that costs nothing if there is no text.  In general, the completion of a reply is made
of its first choice and its usage, whatever the other choices are. -/
theorem run_generate_normalised :
    (∀ (a : Adapter) (c : Call) (n : Network) (model : String) (u : Url) (contents : List String)
      (total : UInt32), a.options.model = some model → a.endpoint.Presentable →
      Http.address (a.endpoint.url completionsPath) = .ok u → contents.length < 2 ^ 32 →
      (∀ p, a.Posts c p → n.behaviour p = .answers ⟨200, by decide⟩
        (Text.bytes (String.ofList (Sample.reply contents total))) true) →
      ∀ polls, ∃ p n', a.Posts c p ∧ p.url = u ∧ n'.received = n.received ++ [p] ∧
        (a.generate c).run (polls + 2) n =
          (.answered (.ok
            (match contents with
            | [] => ⟨"", 0⟩
            | content :: _ => ⟨content, total⟩)), n')) ∧
    (∀ r r' : Reply, r.choices.head? = r'.choices.head? → r.usage = r'.usage →
      r.completion = r'.completion) ∧
    ∀ r : Reply, r.Normalises r.completion := by
  refine ⟨?_, fun r r' => Reply.completion_congr, Reply.normalises_completion⟩
  intro a c n model u contents total hmodel hkey haddress hlength hanswers polls
  obtain ⟨p, hp, hurl⟩ := exists_posts hmodel hkey haddress c
  have hparse : Reply.parse (String.ofList (Text.lossy
      (Text.bytes (String.ofList (Sample.reply contents total))))) =
        .ok (.ofTexts contents total) := by
    rw [Text.lossy_bytes, String.ofList_toList]
    exact Sample.parse_reply (Nat.le_of_lt hlength) total
  obtain ⟨n', hrun, hreceived⟩ :=
    run_generate_of_reply hp (hanswers p hp) (by decide) hparse polls
  rw [Reply.completion_ofTexts] at hrun
  exact ⟨p, n', hp, hurl, hreceived, hrun⟩

/-- The sample adapter is told the first of two texts, and what both cost. -/
theorem run_generate_normalised_greeting :
    let a := Sample.adapter "http://localhost/v1" "m"
    let body := Text.bytes (String.ofList (Sample.reply ["hello", "good day"] 7))
    let n : Network := { behaviour := fun _ => .answers ⟨200, by decide⟩ body true }
    a.endpoint.Presentable ∧ (∃ u, Http.address (a.endpoint.url completionsPath) = .ok u) ∧
      ∀ c, ∃ n', (a.generate c).run 2 n = (.answered (.ok ⟨"hello", 7⟩), n') := by
  intro a body n
  have hkey : a.endpoint.Presentable := by
    unfold Endpoint.Presentable
    decide +kernel
  have haddress : (Http.address (a.endpoint.url completionsPath)).toOption.isSome = true := by
    decide +kernel
  obtain ⟨u, hu⟩ : ∃ u, Http.address (a.endpoint.url completionsPath) = .ok u := by
    cases hu : Http.address (a.endpoint.url completionsPath) with
    | ok u => exact ⟨u, rfl⟩
    | error f => simp [hu, Except.toOption] at haddress
  refine ⟨hkey, ⟨u, hu⟩, fun c => ?_⟩
  obtain ⟨-, n', -, -, -, hrun⟩ := run_generate_normalised.1 a c n "m" u ["hello", "good day"] 7 rfl
    hkey hu (by decide) (fun _ _ => rfl) 0
  exact ⟨n', hrun⟩

end Adapter

end Provider

end Parley
