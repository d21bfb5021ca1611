import Parley.Conversation.Input
import Parley.Proofs.Json.Record

/-!
# The texts of messages and transcripts

* `IsMessage` : the text of a message, an object or a list of a role and a content.
* `IsTranscript` : the text of a transcript, an object with a member `messages`.
* `accepts_message`, `decode_transcript_eq_ok_iff` : the decoders accept these texts and no others.
-/

namespace Parley

open Json Json.Grammar

/-! ### Messages -/

/-- The text is the message: an object with one member `content`, at most one member `role` and
others that hold any value, or a list of the role and the content. -/
inductive IsMessage (m : Message) (t : Chars) : Prop
  | object {fs : List (String × Chars)} :
      HasMembers fs t → (∀ f ∈ fs, f.1 ≠ "role" → f.1 ≠ "content" → IsValue f.2) →
        (valuesOf "role" fs = [] ∧ m.role = none ∨
          ∃ v, valuesOf "role" fs = [v] ∧ IsOptional IsString m.role v) →
        (∃ v, valuesOf "content" fs = [v] ∧ IsString m.content v) → IsMessage m t
  | list {v w : Chars} :
      IsOptional IsString m.role v → IsString m.content w → IsList [v, w] t → IsMessage m t

namespace Message

/-- What the text of a field makes of a message. -/
inductive Takes : String → Chars → Message → Message → Prop
  | role {t : Chars} {m : Message} {role : Option String} :
      IsOptional IsString role t → Takes "role" t m { m with role }
  | content {t : Chars} {m : Message} {content : String} :
      IsString content t → Takes "content" t m { m with content }

variable {n : Nat} {seen : List String} {fs : List (String × Chars)} {a b : Message}

theorem takes_role_iff {t : Chars} :
    Takes "role" t a b ↔ ∃ role, IsOptional IsString role t ∧ { a with role } = b := by
  constructor
  · intro h
    generalize hname : "role" = name at h
    cases h with
    | role h => exact ⟨_, h, rfl⟩
    | content => simp at hname
  · rintro ⟨role, h, rfl⟩
    exact .role h

theorem takes_content_iff {t : Chars} :
    Takes "content" t a b ↔ ∃ content, IsString content t ∧ { a with content } = b := by
  constructor
  · intro h
    generalize hname : "content" = name at h
    cases h with
    | role => simp at hname
    | content h => exact ⟨_, h, rfl⟩
  · rintro ⟨content, h, rfl⟩
    exact .content h

theorem fields_names : record.fields.map (·.name) = ["role", "content"] := rfl

theorem required_iff {p : String → Prop} :
    (∀ f ∈ record.fields, f.absence = .required → p f.name) ↔ p "content" := by
  simp [record, Field.of]

/-- The two fields settle one by one, in whatever order they come. -/
theorem gathers_iff :
    Gathers (r := record) (Use.OfText Takes) seen fs a b ↔
      (∀ f ∈ fs, f.1 ≠ "role" → f.1 ≠ "content" → IsValue f.2) ∧
        Settles (IsOptional IsString) "role" seen fs a.role b.role ∧
        Settles IsString "content" seen fs a.content b.content ∧
        (valuesOf "content" fs = [] → "content" ∈ seen) := by
  induction fs generalizing seen a with
  | nil =>
    rw [gathers_nil_iff, settles_nil, settles_nil, required_iff]
    cases a
    cases b
    simp [valuesOf_nil, and_comm, and_assoc, and_left_comm]
  | cons f fs ih =>
    obtain ⟨name, t⟩ := f
    have hnames : ("role" : String) ≠ "content" := by decide
    -- behind a member of its name, a field is settled for good
    by_cases hrole : name = "role"
    · subst name
      rw [gathers_field_iff (by simp [fields_names]), settles_member_self,
        settles_member_of_ne hnames, valuesOf_cons_of_ne hnames]
      simp only [takes_role_iff, ih, settles_seen_self, settles_seen_of_ne hnames, List.mem_cons,
        hnames.symm, false_or]
      constructor
      · rintro ⟨hseen, -, ⟨role, hrole, rfl⟩, hall, ⟨hfs, hb⟩, hcontent⟩
        exact ⟨by simpa using hall, ⟨hseen, hb ▸ hrole, hfs⟩, hcontent⟩
      · rintro ⟨hall, ⟨hseen, hrole, hfs⟩, hcontent⟩
        exact ⟨hseen, _, ⟨_, hrole, rfl⟩, by simpa using hall, ⟨hfs, rfl⟩, hcontent⟩
    by_cases hcontent : name = "content"
    · subst name
      rw [gathers_field_iff (by simp [fields_names]), settles_member_self,
        settles_member_of_ne hnames.symm, valuesOf_cons_self]
      simp only [takes_content_iff, ih, settles_seen_self, settles_seen_of_ne hnames.symm]
      constructor
      · rintro ⟨hseen, -, ⟨content, hcontent, rfl⟩, hall, hrole, ⟨hfs, hb⟩, -⟩
        exact ⟨by simpa using hall, hrole, ⟨hseen, hb ▸ hcontent, hfs⟩, by simp⟩
      · rintro ⟨hall, hrole, ⟨hseen, hcontent, hfs⟩, -⟩
        exact ⟨hseen, _, ⟨_, hcontent, rfl⟩, by simpa using hall, hrole, ⟨hfs, rfl⟩, by simp⟩
    · rw [gathers_other_iff (by simp [fields_names, hrole, hcontent]), ih,
        settles_member_of_ne hrole, settles_member_of_ne hcontent, valuesOf_cons_of_ne hcontent]
      simp [hrole, hcontent, and_assoc]

theorem accepts_field (n : Nat) : ∀ f ∈ record.fields, ∀ a,
    Accepts (fun o => f.put n o a) (fun b t => Takes f.name t a b) := by
  have hrole (a : Message) := (accepts_of "role" .defaulted
    (fun (m : Message) role => { m with role })
    (accepts_optional (accepts_string n) fun _ _ _ h => by cases h) a).congr
      fun _ _ => takes_role_iff.symm
  have hcontent (a : Message) := (accepts_of "content" .required
    (fun (m : Message) content => { m with content }) (accepts_string n) a).congr
      fun _ _ => takes_content_iff.symm
  simp only [record, List.forall_mem_cons]
  exact ⟨hrole, hcontent, by simp⟩

theorem lists_iff {es : List Chars} :
    Lists (r := record) (Use.OfText Takes) record.fields es a b ↔
      ∃ v w, es = [v, w] ∧ IsOptional IsString b.role v ∧ IsString b.content w := by
  constructor
  · intro h
    cases h with
    | done habs => exact absurd (habs _ (.tail _ (.head _))) (by simp [Field.of])
    | field _ hv h =>
      obtain ⟨role, hrole, rfl⟩ := takes_role_iff.1 hv
      cases h with
      | done habs => exact absurd (habs _ (.head _)) (by simp [Field.of])
      | field _ hw h =>
        obtain ⟨content, hcontent, rfl⟩ := takes_content_iff.1 hw
        cases h
        exact ⟨_, _, rfl, hrole, hcontent⟩
  · rintro ⟨v, w, rfl, hrole, hcontent⟩
    refine .field (.head _) (takes_role_iff.2 ⟨_, hrole, rfl⟩) ?_
    exact .field (.tail _ (.head _)) (takes_content_iff.2 ⟨_, hcontent, rfl⟩) (.done (by simp))

/-- The texts of the record of a message are those of the message. -/
theorem isRecord_iff {m : Message} {t : Chars} : IsRecord record Takes m t ↔ IsMessage m t := by
  constructor
  · rintro (⟨hm, hg⟩ | ⟨ht, hl⟩)
    · obtain ⟨hall, hrole, hcontent, hseen⟩ := gathers_iff.1 hg
      refine .object hm hall ?_ ?_
      · rcases hrole with hrole | ⟨-, hrole⟩
        · exact .inl hrole
        · exact .inr hrole
      · rcases hcontent with ⟨hnone, -⟩ | ⟨-, hcontent⟩
        · exact absurd (hseen hnone) (by simp)
        · exact hcontent
    · obtain ⟨v, w, rfl, hrole, hcontent⟩ := lists_iff.1 hl
      exact .list hrole hcontent ht
  · rintro (⟨hm, hall, hrole, hcontent⟩ | ⟨hrole, hcontent, ht⟩)
    · refine .object hm (gathers_iff.2 ⟨hall, ?_, .inr ⟨by simp, hcontent⟩, ?_⟩)
      · rcases hrole with hrole | hrole
        · exact .inl hrole
        · exact .inr ⟨by simp, hrole⟩
      · obtain ⟨v, hv, -⟩ := hcontent
        simp [hv]
    · exact .list ht (lists_iff.2 ⟨_, _, rfl, hrole, hcontent⟩)

end Message

theorem accepts_message (n : Nat) : Accepts (Message.record.decoder (n + 1)) IsMessage :=
  (accepts_record (Message.accepts_field n) (by decide)).congr fun _ _ => Message.isRecord_iff

/-! ### Transcripts -/

/-- The text is an object whose only member `messages` is a list of the messages, and whose other
members hold any value. -/
def IsTranscript (ms : List Message) (t : Chars) : Prop :=
  ∃ fs, HasMembers fs t ∧ (∀ f ∈ fs, f.1 ≠ "messages" → IsValue f.2) ∧
    ∃ v, valuesOf "messages" fs = [v] ∧ IsListOf IsMessage ms v

namespace Transcript

/-- What the text of a field makes of a transcript. -/
inductive Takes : String → Chars → Transcript → Transcript → Prop
  | messages {t : Chars} {a : Transcript} {ms : List Message} :
      IsListOf IsMessage ms t → Takes "messages" t a ⟨ms⟩

variable {n : Nat} {seen : List String} {fs : List (String × Chars)} {a b : Transcript}

theorem takes_messages_iff {t : Chars} :
    Takes "messages" t a b ↔ ∃ ms, IsListOf IsMessage ms t ∧ ⟨ms⟩ = b := by
  constructor
  · rintro ⟨h⟩
    exact ⟨_, h, rfl⟩
  · rintro ⟨ms, h, rfl⟩
    exact .messages h

theorem fields_names : record.fields.map (·.name) = ["messages"] := rfl

theorem gathers_iff :
    Gathers (r := record) (Use.OfText Takes) seen fs a b ↔
      (∀ f ∈ fs, f.1 ≠ "messages" → IsValue f.2) ∧
        Settles (IsListOf IsMessage) "messages" seen fs a.messages b.messages := by
  induction fs generalizing seen a with
  | nil =>
    rw [gathers_nil_iff, settles_nil]
    cases a
    cases b
    simp [record, Field.of]
  | cons f fs ih =>
    obtain ⟨name, t⟩ := f
    by_cases hname : name = "messages"
    · subst name
      rw [gathers_field_iff (by simp [fields_names]), settles_member_self]
      simp only [takes_messages_iff, ih, settles_seen_self]
      constructor
      · rintro ⟨hseen, -, ⟨ms, hms, rfl⟩, hall, hfs, hb⟩
        exact ⟨by simpa using hall, hseen, hb ▸ hms, hfs⟩
      · rintro ⟨hall, hseen, hms, hfs⟩
        exact ⟨hseen, _, ⟨_, hms, rfl⟩, by simpa using hall, hfs, rfl⟩
    · rw [gathers_other_iff (by simp [fields_names, hname]), ih, settles_member_of_ne hname]
      simp [hname, and_assoc]

theorem accepts_field (n : Nat) : ∀ f ∈ record.fields, ∀ a,
    Accepts (fun o => f.put (n + 2) o a) (fun b t => Takes f.name t a b) := by
  have hmessages (a : Transcript) := (accepts_of "messages" .defaulted
    (fun _ messages => ⟨messages⟩) (accepts_list (accepts_message n)) a).congr
      fun _ _ => (takes_messages_iff (a := a)).symm
  simp only [record, List.forall_mem_cons]
  exact ⟨hmessages, by simp⟩

end Transcript

/-- A text that starts as an object is decoded as a transcript that is not empty exactly if it is
the text of the transcript, up to a gap behind it. -/
theorem decode_transcript_iff {text : String} {ms : List Message} (hms : ms ≠ [])
    (ht : text.toList.head? = some '{') :
    Transcript.record.decoder.decode text = .ok ⟨ms⟩ ↔
      ∃ t g, IsTranscript ms t ∧ IsGap g ∧ text.toList = t ++ g := by
  have h := accepts_record (Transcript.accepts_field 124) (by decide)
  rw [h.decode_eq_ok_iff]
  constructor
  · rintro ⟨g, t, g', hg, hrec, hg', hs⟩
    -- no gap stands before a brace, and a list does not start with one
    have hnil : g = [] := by
      cases g with
      | nil => rfl
      | cons c g =>
        rw [hs, List.cons_append, List.head?_cons, Option.some.injEq] at ht
        simpa [ht] using hg c List.mem_cons_self
    subst hnil
    refine ⟨t, g', ?_, hg', hs⟩
    cases hrec with
    | @object fs hm hgathers =>
      obtain ⟨hall, ⟨-, hb⟩ | ⟨-, hv⟩⟩ := Transcript.gathers_iff.1 hgathers
      · exact absurd hb hms
      · exact ⟨fs, hm, hall, hv⟩
    | list hlist =>
      obtain ⟨u, rfl⟩ := hlist.eq
      simp [hs] at ht
  · rintro ⟨t, g, ⟨fs, hm, hall, hv⟩, hg, hs⟩
    refine ⟨[], t, g, .nil, .object hm (Transcript.gathers_iff.2 ⟨hall, ?_⟩), hg, by simpa using hs⟩
    exact .inr ⟨by simp, hv⟩

end Parley
