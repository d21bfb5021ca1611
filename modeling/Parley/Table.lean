/-!
# Tables

A table gives values to names.  Its entries are kept in ascending order of the names, each name at
most once, so that two tables with the same entries are equal.

Tables model the maps in which a model record keeps its `config` and a registry its factories.

* `Table.get?_insert` : an insertion decides what its own name stands for, and nothing else.
* `Table.keys_ascending` : the names of a table ascend.
-/

namespace Parley

/-- The names of the entries ascend. -/
def Ascending {α : Type} (es : List (String × α)) : Prop :=
  es.Pairwise (fun a b => a.1 < b.1)

namespace Entries

variable {α : Type}

/-- Puts a value under a name, in place of an earlier one. -/
def insert (k : String) (v : α) : List (String × α) → List (String × α)
  | [] => [(k, v)]
  | e :: es =>
    if k < e.1 then (k, v) :: e :: es
    else if k = e.1 then (k, v) :: es
    else e :: insert k v es

theorem mem_of_mem_insert {k : String} {v : α} {es : List (String × α)} {e : String × α}
    (h : e ∈ insert k v es) : e = (k, v) ∨ e ∈ es := by
  induction es with
  | nil => simpa [insert] using h
  | cons d ds ih =>
    rw [insert] at h
    split at h
    · simpa using h
    · split at h
      · rcases List.mem_cons.1 h with h | h
        · exact .inl h
        · exact .inr (List.mem_cons_of_mem _ h)
      · rcases List.mem_cons.1 h with h | h
        · exact .inr (h ▸ List.mem_cons_self)
        · exact (ih h).imp_right (List.mem_cons_of_mem _)

theorem lt_of_not_lt_of_ne {a b : String} (h : ¬a < b) (hne : a ≠ b) : b < a := by
  have hle := String.not_lt.1 h
  rcases String.le_total a b with h' | h'
  · exact absurd (String.le_antisymm h' hle) hne
  · exact Decidable.byContradiction fun hn =>
      hne (String.le_antisymm (String.not_lt.1 hn) hle)

theorem ascending_insert {k : String} {v : α} {es : List (String × α)} (h : Ascending es) :
    Ascending (insert k v es) := by
  induction es with
  | nil => simp [insert, Ascending]
  | cons d ds ih =>
    have hd := List.pairwise_cons.1 h
    rw [insert]
    split
    · rename_i hlt
      refine List.pairwise_cons.2 ⟨fun e he => ?_, h⟩
      rcases List.mem_cons.1 he with rfl | he
      · exact hlt
      · exact String.lt_trans hlt (hd.1 e he)
    · split
      · rename_i heq
        exact List.pairwise_cons.2 ⟨fun e he => heq ▸ hd.1 e he, hd.2⟩
      · rename_i hlt hne
        refine List.pairwise_cons.2 ⟨fun e he => ?_, ih hd.2⟩
        rcases mem_of_mem_insert he with rfl | he
        · exact lt_of_not_lt_of_ne hlt hne
        · exact hd.1 e he

theorem lookup_cons (j : String) (e : String × α) (es : List (String × α)) :
    (e :: es).lookup j = if j = e.1 then some e.2 else es.lookup j := by
  obtain ⟨k, v⟩ := e
  by_cases h : j = k
  · simp [h]
  · have hb : (j == k) = false := by simpa using h
    simp [List.lookup_cons, hb, h]

theorem lookup_insert (k j : String) (v : α) (es : List (String × α)) :
    (insert k v es).lookup j = if j = k then some v else es.lookup j := by
  induction es with
  | nil => rw [insert, lookup_cons]
  | cons d ds ih =>
    rw [insert]
    split
    · rw [lookup_cons]
    · split
      · rename_i heq
        rw [lookup_cons, lookup_cons]
        by_cases h : j = k <;> simp [h, ← heq]
      · rename_i hne
        rw [lookup_cons, lookup_cons, ih]
        by_cases h : j = d.1
        · simp [h, Ne.symm hne]
        · simp [h]

end Entries

/-- Values under names. -/
structure Table (α : Type) where
  /-- The names with their values. -/
  entries : List (String × α)
  /-- The names ascend. -/
  ascending : Ascending entries

namespace Table

variable {α : Type}

@[ext] theorem ext {s t : Table α} (h : s.entries = t.entries) : s = t := by
  cases s
  cases t
  cases h
  rfl

/-- The table without entries. -/
def empty : Table α := ⟨[], List.Pairwise.nil⟩

instance : Inhabited (Table α) := ⟨empty⟩

/-- Puts a value under a name, in place of an earlier one. -/
def insert (t : Table α) (k : String) (v : α) : Table α :=
  ⟨Entries.insert k v t.entries, Entries.ascending_insert t.ascending⟩

/-- The value under a name. -/
def get? (t : Table α) (k : String) : Option α := t.entries.lookup k

/-- There is a value under the name. -/
def contains (t : Table α) (k : String) : Bool := (t.get? k).isSome

/-- The names, in ascending order. -/
def keys (t : Table α) : List String := t.entries.map (·.1)

/-- The table of a list of entries, a later one for the same name in place of an earlier one. -/
def ofList (es : List (String × α)) : Table α := es.foldl (fun t e => t.insert e.1 e.2) empty

@[simp] theorem get?_empty (k : String) : (empty : Table α).get? k = none := rfl

theorem get?_insert (t : Table α) (k j : String) (v : α) :
    (t.insert k v).get? j = if j = k then some v else t.get? j :=
  Entries.lookup_insert k j v t.entries

theorem keys_ascending (t : Table α) : t.keys.Pairwise (· < ·) :=
  List.pairwise_map.2 t.ascending

end Table

end Parley
