import Prose.Json.Basic

namespace Prose
namespace Json
namespace Fields

/-!
# Setting a field

A field that has been set is found, and no other field is touched.  The order of the fields does not
matter for this.
-/

variable {key other : String} {value : Json} {fields : Fields}

theorem find?_cons (field : String × Json) (fields : Fields) :
    find? key (field :: fields) = if key = field.1 then some field.2 else find? key fields := by
  rcases field with ⟨k, v⟩
  rw [find?, List.lookup_cons]
  by_cases same : key = k
  · simp [same]
  · have test : (key == k) = false := beq_eq_false_iff_ne.mpr same
    rw [test, if_neg same, find?]

theorem find?_insert_self (key : String) (value : Json) (fields : Fields) :
    find? key (insert key value fields) = some value := by
  induction fields with
  | nil => rw [insert, find?_cons, if_pos rfl]
  | cons field rest inductionHypothesis =>
      rw [insert]
      split
      · rw [find?_cons, if_pos rfl]
      · split
        · rw [find?_cons, if_pos rfl]
        · rename_i _ different
          rw [find?_cons, if_neg different, inductionHypothesis]

theorem find?_insert_of_ne (different : other ≠ key) (value : Json) (fields : Fields) :
    find? other (insert key value fields) = find? other fields := by
  induction fields with
  | nil => rw [insert, find?_cons, if_neg different]
  | cons field rest inductionHypothesis =>
      rw [insert]
      split
      · rw [find?_cons, if_neg different]
      · split
        · rename_i _ same
          rw [find?_cons, if_neg different, find?_cons, if_neg (same ▸ different)]
        · rw [find?_cons, find?_cons, inductionHypothesis]

/-- To set a field twice to one value is to set it once. -/
theorem insert_insert_self (key : String) (value : Json) (fields : Fields) :
    insert key value (insert key value fields) = insert key value fields := by
  have stays : ∀ rest, insert key value ((key, value) :: rest) = (key, value) :: rest := fun rest => by
    rw [insert, if_neg (String.lt_irrefl key), if_pos rfl]
  induction fields with
  | nil => rw [insert, stays]
  | cons field rest inductionHypothesis =>
      rw [insert]
      split
      · exact stays _
      · rename_i notBefore
        split
        · exact stays _
        · rename_i different
          rw [insert, if_neg notBefore, if_neg different, inductionHypothesis]

/-! ## Two fields -/

theorem insert_cons_of_lt {k : String} (less : key < k) (value v : Json) (rest : Fields) :
    insert key value ((k, v) :: rest) = (key, value) :: (k, v) :: rest := by
  rw [insert, if_pos less]

theorem insert_cons_self (key : String) (value v : Json) (rest : Fields) :
    insert key value ((key, v) :: rest) = (key, value) :: rest := by
  rw [insert, if_neg (String.lt_irrefl key), if_pos rfl]

theorem insert_cons_of_gt {k : String} (greater : k < key) (value v : Json) (rest : Fields) :
    insert key value ((k, v) :: rest) = (k, v) :: insert key value rest := by
  have different : key ≠ k := fun same => String.lt_irrefl k (same ▸ greater)
  rw [insert, if_neg (String.lt_asymm greater), if_neg different]

theorem key_cases (key other : String) : key < other ∨ key = other ∨ other < key := by
  by_cases less : key < other
  · exact Or.inl less
  · by_cases greater : other < key
    · exact Or.inr (Or.inr greater)
    · exact Or.inr (Or.inl (String.le_antisymm (String.not_lt.mp greater) (String.not_lt.mp less)))

theorem insert_comm_of_lt {lower upper : String} (less : lower < upper) (a b : Json) (fields : Fields) :
    insert lower a (insert upper b fields) = insert upper b (insert lower a fields) := by
  induction fields with
  | nil => exact (insert_cons_of_lt less a b []).trans (insert_cons_of_gt less b a []).symm
  | cons field rest inductionHypothesis =>
      rcases field with ⟨k, v⟩
      rcases key_cases upper k with before | rfl | behind
      · rw [insert_cons_of_lt before, insert_cons_of_lt less, insert_cons_of_lt (String.lt_trans less before),
          insert_cons_of_gt less, insert_cons_of_lt before]
      · rw [insert_cons_self, insert_cons_of_lt less, insert_cons_of_lt less, insert_cons_of_gt less,
          insert_cons_self]
      · rw [insert_cons_of_gt behind]
        rcases key_cases lower k with before | rfl | further
        · rw [insert_cons_of_lt before, insert_cons_of_lt before, insert_cons_of_gt less,
            insert_cons_of_gt behind]
        · rw [insert_cons_self, insert_cons_self, insert_cons_of_gt less]
        · rw [insert_cons_of_gt further, insert_cons_of_gt further, insert_cons_of_gt behind,
            inductionHypothesis]

/-- Two fields may be set in either order. -/
theorem insert_comm (different : key ≠ other) (a b : Json) (fields : Fields) :
    insert key a (insert other b fields) = insert other b (insert key a fields) := by
  rcases key_cases key other with less | same | greater
  · exact insert_comm_of_lt less a b fields
  · exact absurd same different
  · exact (insert_comm_of_lt greater b a fields).symm

/-- No field comes in but the one that is set. -/
theorem mem_insert {field : String × Json} (member : field ∈ insert key value fields) :
    field = (key, value) ∨ field ∈ fields := by
  induction fields with
  | nil => exact Or.inl (List.mem_singleton.mp member)
  | cons first rest inductionHypothesis =>
      rw [insert] at member
      split at member
      · exact List.mem_cons.mp member
      · split at member
        · rcases List.mem_cons.mp member with new | old
          · exact Or.inl new
          · exact Or.inr (List.mem_cons_of_mem _ old)
        · rcases List.mem_cons.mp member with same | further
          · exact Or.inr (List.mem_cons.mpr (Or.inl same))
          · exact (inductionHypothesis further).imp id (List.mem_cons_of_mem _)

end Fields
end Json
end Prose
