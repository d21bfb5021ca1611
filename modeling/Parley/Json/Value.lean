import Parley.Json.Decoder
import Parley.Json.Printer
import Parley.Table

/-!
# JSON values

A term is a JSON value written down in some order; it is *ordered* when the keys of every object in
it ascend.  A `Value` is an ordered term: since the order of an object's members means nothing, two
values are equal exactly when they are the same JSON value.

`Value` models the `Value` of `serde_json`, whose maps keep their keys in order.

* `Value.print` : the compact text of a value, with ascending keys.
* `Term.ordered_decode` : what is decoded from a text is ordered, a later member of an object
  standing in place of an earlier one of the same key.
-/

namespace Parley

namespace Json

/-- A JSON value with the members of its objects in some order. -/
inductive Term where
  /-- The null value. -/
  | null
  /-- A truth value. -/
  | bool (b : Bool)
  /-- A number. -/
  | number (n : Number)
  /-- A text. -/
  | string (s : String)
  /-- A list. -/
  | array (items : List Term)
  /-- An object. -/
  | object (entries : List (String × Term))

namespace Term

instance : Inhabited Term := ⟨.null⟩

/-! ### Order -/

mutual

/-- The keys of every object ascend. -/
def Ordered : Term → Prop
  | .array ts => OrderedAll ts
  | .object es => Ascending es ∧ OrderedEntries es
  | _ => True

/-- All terms of a list are ordered. -/
def OrderedAll : List Term → Prop
  | [] => True
  | t :: ts => t.Ordered ∧ OrderedAll ts

/-- The values of all entries are ordered. -/
def OrderedEntries : List (String × Term) → Prop
  | [] => True
  | e :: es => e.2.Ordered ∧ OrderedEntries es

end

theorem orderedAll_iff (ts : List Term) : OrderedAll ts ↔ ∀ t ∈ ts, t.Ordered := by
  induction ts with
  | nil => simp [OrderedAll]
  | cons t ts ih => simp [OrderedAll, ih]

theorem orderedEntries_iff (es : List (String × Term)) :
    OrderedEntries es ↔ ∀ e ∈ es, e.2.Ordered := by
  induction es with
  | nil => simp [OrderedEntries]
  | cons e es ih => simp [OrderedEntries, ih]

/-! ### Text -/

mutual

/-- The compact text of a term. -/
def print : Term → Chars
  | .null => "null".toList
  | .bool b => (if b then "true" else "false").toList
  | .number n => n.print
  | .string s => Printer.string s
  | .array ts => Printer.list (printAll ts)
  | .object es => Printer.object (printEntries es)

/-- The texts of the elements of a list. -/
def printAll : List Term → List Chars
  | [] => []
  | t :: ts => t.print :: printAll ts

/-- The keys of an object with the texts of their values. -/
def printEntries : List (String × Term) → List (String × Chars)
  | [] => []
  | e :: es => (e.1, e.2.print) :: printEntries es

end

/-! ### Decoding -/

mutual

/-- Decodes any JSON value. -/
def decode : Decoder Term
  | _, .null _ _ => .ok .null
  | _, .bool b _ _ => .ok (.bool b)
  | _, .number n _ after => (n.value after).map .number
  | _, .string body _ => (Literal.read body).map (fun (s, _) => .string (String.ofList s))
  | allowed, .array start es =>
    match allowed with
    | 0 => .error (.upon .nestedTooDeep start)
    | n + 1 => (decodeAll n es).map .array
  | allowed, .object start ms =>
    match allowed with
    | 0 => .error (.upon .nestedTooDeep start)
    | n + 1 => (decodeEntries n [] ms).map .object
  | _, .broken _ reading _ => .error reading

/-- Decodes the elements of a list. -/
def decodeAll (allowed : Nat) : Elements → Except Fault (List Term)
  | .close _ => .ok []
  | .next v es => do
    let t ← decode allowed v
    let ts ← decodeAll allowed es
    return t :: ts
  | .broken reading _ _ => .error reading

/-- Decodes the members of an object into the entries that stand before. -/
def decodeEntries (allowed : Nat) (entries : List (String × Term)) :
    Members → Except Fault (List (String × Term))
  | .close _ => .ok entries
  | .next key _ v ms => do
    let (name, _) ← Literal.read key
    let t ← decode allowed v
    decodeEntries allowed (Entries.insert (String.ofList name) t entries) ms
  | .keyOnly key _ fault => do
    let _ ← Literal.read key
    throw fault
  | .broken reading _ => .error reading

end

theorem orderedEntries_insert {k : String} {t : Term} {es : List (String × Term)}
    (ht : t.Ordered) (h : OrderedEntries es) : OrderedEntries (Entries.insert k t es) := by
  rw [orderedEntries_iff] at *
  intro e he
  rcases Entries.mem_of_mem_insert he with rfl | he
  · exact ht
  · exact h e he

mutual

theorem ordered_decode {n : Nat} {o : Outline} {t : Term} (h : decode n o = .ok t) :
    t.Ordered := by
  cases o with
  | null => cases h; trivial
  | bool => cases h; trivial
  | number m s after =>
    rw [decode] at h
    cases hv : m.value after <;> rw [hv] at h <;> cases h
    trivial
  | string body after =>
    rw [decode] at h
    cases hv : Literal.read body <;> rw [hv] at h <;> cases h
    trivial
  | array start es =>
    cases n with
    | zero => rw [decode] at h; cases h
    | succ n =>
      rw [decode] at h
      cases hv : decodeAll n es <;> rw [hv] at h <;> cases h
      exact orderedAll_decodeAll hv
  | object start ms =>
    cases n with
    | zero => rw [decode] at h; cases h
    | succ n =>
      rw [decode] at h
      cases hv : decodeEntries n [] ms <;> rw [hv] at h <;> cases h
      exact ordered_decodeEntries List.Pairwise.nil trivial hv
  | broken => cases h

theorem orderedAll_decodeAll {n : Nat} {es : Elements} {ts : List Term}
    (h : decodeAll n es = .ok ts) : OrderedAll ts := by
  cases es with
  | close => cases h; trivial
  | next v es =>
    rw [decodeAll] at h
    cases hv : decode n v <;> rw [hv] at h
    · cases h
    · cases hs : decodeAll n es <;> simp only [bind, Except.bind, hs] at h
      · cases h
      · cases h
        exact ⟨ordered_decode hv, orderedAll_decodeAll hs⟩
  | broken => cases h

theorem ordered_decodeEntries {n : Nat} {acc es : List (String × Term)} {ms : Members}
    (ha : Ascending acc) (ho : OrderedEntries acc) (h : decodeEntries n acc ms = .ok es) :
    (Term.object es).Ordered := by
  cases ms with
  | close => cases h; exact ⟨ha, ho⟩
  | next key colon v ms =>
    rw [decodeEntries] at h
    cases hk : Literal.read key <;> simp only [bind, Except.bind, hk] at h
    · cases h
    · cases hv : decode n v <;> simp only [hv] at h
      · cases h
      · exact ordered_decodeEntries (Entries.ascending_insert ha)
          (orderedEntries_insert (ordered_decode hv) ho) h
  | keyOnly key colon fault =>
    rw [decodeEntries] at h
    cases hk : Literal.read key <;> simp only [bind, Except.bind, hk] at h <;> cases h
  | broken => cases h

end

end Term

/-- A JSON value. -/
structure Value where
  /-- The value with ascending keys. -/
  term : Term
  /-- The keys ascend. -/
  ordered : term.Ordered

namespace Value

@[ext] theorem ext {v w : Value} (h : v.term = w.term) : v = w := by
  cases v
  cases w
  cases h
  rfl

/-- The null value. -/
def null : Value := ⟨.null, trivial⟩

instance : Inhabited Value := ⟨null⟩

/-- A truth value. -/
def bool (b : Bool) : Value := ⟨.bool b, trivial⟩

/-- A number. -/
def number (n : Number) : Value := ⟨.number n, trivial⟩

/-- A text. -/
def string (s : String) : Value := ⟨.string s, trivial⟩

/-- A natural number, modulo the size of a word. -/
def nat (n : Nat) : Value := number (.integer ⟨(n % 2 ^ 64 : Nat), by omega⟩)

/-- A list of values. -/
def array (vs : List Value) : Value :=
  ⟨.array (vs.map (·.term)), (Term.orderedAll_iff _).2 fun t ht => by
    obtain ⟨v, -, rfl⟩ := List.mem_map.1 ht
    exact v.ordered⟩

/-- The entries of a table, as a term has them. -/
def entriesOf (t : Table Value) : List (String × Term) := t.entries.map (fun e => (e.1, e.2.term))

/-- An object. -/
def object (t : Table Value) : Value :=
  ⟨.object (entriesOf t), List.pairwise_map.2 t.ascending,
    (Term.orderedEntries_iff _).2 fun e he => by
      obtain ⟨d, -, rfl⟩ := List.mem_map.1 he
      exact d.2.ordered⟩

/-- An object with the given members. -/
def record (members : List (String × Value)) : Value := object (Table.ofList members)

/-- The elements of a list. -/
def elementsOf (ts : List Term) (h : ∀ t ∈ ts, t.Ordered) : List Value :=
  ts.pmap (fun t ht => ⟨t, ht⟩) h

/-- The entries of an object. -/
def valuesOf (es : List (String × Term)) (h : ∀ e ∈ es, e.2.Ordered) : List (String × Value) :=
  es.pmap (fun e he => (e.1, ⟨e.2, he⟩)) h

theorem ascending_valuesOf {es : List (String × Term)} (h : ∀ e ∈ es, e.2.Ordered)
    (ha : Ascending es) : Ascending (valuesOf es h) := by
  rw [Ascending, valuesOf, List.pairwise_pmap]
  exact ha.imp fun h _ _ => h

/-- The members of an object as a table; no other value has one. -/
def table? : Value → Option (Table Value)
  | ⟨.object es, h⟩ =>
    some ⟨valuesOf es ((Term.orderedEntries_iff es).1 h.2), ascending_valuesOf _ h.1⟩
  | _ => none

/-- The elements of a list; no other value has them. -/
def list? : Value → Option (List Value)
  | ⟨.array ts, h⟩ => some (elementsOf ts ((Term.orderedAll_iff ts).1 h))
  | _ => none

/-- The text that a value is. -/
def string? : Value → Option String
  | ⟨.string s, _⟩ => some s
  | _ => none

/-- The natural number that a value is. -/
def nat? : Value → Option Nat
  | ⟨.number (.integer w), _⟩ => if 0 ≤ w.toInt then some w.toInt.toNat else none
  | _ => none

/-- The truth value that a value is. -/
def bool? : Value → Option Bool
  | ⟨.bool b, _⟩ => some b
  | _ => none

/-- The value is null. -/
def isNull : Value → Bool
  | ⟨.null, _⟩ => true
  | _ => false

/-- The member of an object under a key. -/
def get? (v : Value) (key : String) : Option Value := v.table?.bind (·.get? key)

/-- The compact text of a value. -/
def print (v : Value) : String := String.ofList v.term.print

/-- Decodes any JSON value. -/
def decoder : Decoder Value := fun n o =>
  match h : Term.decode n o with
  | .ok t => .ok ⟨t, Term.ordered_decode h⟩
  | .error f => .error f

/-- Decodes an object with any members. -/
def tableDecoder : Decoder (Table Value)
  | n, .object start ms => do
    let v ← decoder n (.object start ms)
    return v.table?.getD .empty
  | _, o => .error (mismatch "a map" o)

/-- Decodes a whole text. -/
def parse (text : String) : Except Error Value := decoder.decode text

end Value

end Json

end Parley
