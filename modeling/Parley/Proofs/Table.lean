import Parley.Table

/-!
# The names of a table

* `Table.contains_iff_mem_keys` : the names of a table are those that stand for something.
* `Table.length_keys_insert` : an insertion adds a name or finds it there.
-/

namespace Parley

namespace Entries

variable {α : Type} {k : String} {v : α} {es : List (String × α)}

theorem lookup_eq_none_of_lt (h : ∀ e ∈ es, k < e.1) : es.lookup k = none := by
  rw [List.lookup_eq_none_iff]
  intro e he
  rw [bne_iff_ne]
  rintro rfl
  exact String.lt_irrefl _ (h e he)

theorem length_insert (h : Ascending es) :
    (insert k v es).length + (if (es.lookup k).isSome then 1 else 0) = es.length + 1 := by
  induction es with
  | nil => rfl
  | cons e es ih =>
    obtain ⟨hlt, hes⟩ := List.pairwise_cons.1 h
    rw [insert, lookup_cons]
    split
    · -- the name goes in front, so that it has not been there
      rename_i hk
      have hne : k ≠ e.1 := fun heq => String.lt_irrefl _ (heq ▸ hk)
      have hnone := lookup_eq_none_of_lt fun d hd => String.lt_trans hk (hlt d hd)
      simp [hne, hnone]
    · split
      · simp
      · rw [List.length_cons, List.length_cons, ← ih hes]
        omega

/-- A name behind all others is put at the end. -/
theorem insert_of_forall_lt (h : ∀ e ∈ es, e.1 < k) : insert k v es = es ++ [(k, v)] := by
  induction es with
  | nil => rfl
  | cons e es ih =>
    obtain ⟨he, hes⟩ := List.forall_mem_cons.1 h
    have hlt : ¬k < e.1 := fun hk => String.lt_irrefl _ (String.lt_trans hk he)
    have hne : k ≠ e.1 := fun hk => String.lt_irrefl _ (hk ▸ he)
    rw [insert, if_neg hlt, if_neg hne, ih hes, List.cons_append]

end Entries

namespace Table

variable {α : Type}

theorem contains_iff_mem_keys (t : Table α) (k : String) : t.contains k = true ↔ k ∈ t.keys := by
  rw [contains, get?, List.lookup_isSome_iff, keys, List.mem_map]
  simp only [beq_iff_eq, eq_comm (a := k)]

theorem length_keys_insert (t : Table α) (k : String) (v : α) :
    (t.insert k v).keys.length + (if t.contains k then 1 else 0) = t.keys.length + 1 := by
  rw [keys, keys, List.length_map, List.length_map]
  exact Entries.length_insert t.ascending

end Table

end Parley
