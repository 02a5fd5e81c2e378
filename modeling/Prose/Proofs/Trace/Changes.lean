import Prose.Trace.Changes

namespace Prose
namespace Change

/-!
# Changes lose no line

The changes between two texts spell both of them: what is the same or has been taken out are the lines of
the old text, and what is the same or has been put in are those of the new one.  For this the lines that
are taken to be common need only stand in both texts in the same order, whether or not there are more
such lines.
-/

/-! ## Lines -/

theorem split_intercalate {lines : List String} (nonempty : lines ≠ [])
    (closed : ∀ line ∈ lines, '\n' ∉ line.toList) : split ("\n".intercalate lines) = lines := by
  have separate : ∀ line ∈ lines.map String.toList, '\n' ∉ line := by
    intro line member
    rcases List.mem_map.mp member with ⟨text, there, rfl⟩
    exact closed text there
  have feed : "\n".toList = ['\n'] := rfl
  rw [split, String.toList_intercalate, feed,
    List.splitOn_intercalate '\n' separate (by simpa using nonempty), List.map_map]
  exact (List.map_congr_left fun line _ => String.ofList_toList).trans (List.map_id' lines)

/-! ## Common lines -/

theorem drop_succ_sublist (lines : List String) (i : Nat) :
    (lines.drop (i + 1)).Sublist (lines.drop i) := by
  rw [← List.drop_drop]
  exact List.drop_sublist 1 _

/-- The lines collected stand in both lists in the same order. -/
theorem sublist_collect {old new : Array String} {table : Array Nat} {i j : Nat}
    {found : List String} (rows : i ≤ old.size) (columns : j ≤ new.size)
    (inOld : found.Sublist (old.toList.drop i)) (inNew : found.Sublist (new.toList.drop j)) :
    (collect old new table i j found).Sublist old.toList ∧
      (collect old new table i j found).Sublist new.toList := by
  fun_induction collect old new table i j found with
  | case1 found i j same inductionHypothesis =>
      have here : old[i]? = some old[i] := Array.getElem?_eq_getElem rows
      have there : new[j]? = some new[j] := Array.getElem?_eq_getElem columns
      have equal : old[i] = new[j] := Option.some.inj (here.symm.trans (same.trans there))
      rw [here, Option.getD_some] at inductionHypothesis ⊢
      refine inductionHypothesis (Nat.le_of_lt rows) (Nat.le_of_lt columns) ?_ ?_
      · rw [List.drop_eq_getElem_cons (show i < old.toList.length from rows), Array.getElem_toList]
        exact inOld.cons_cons _
      · rw [List.drop_eq_getElem_cons (show j < new.toList.length from columns), Array.getElem_toList, equal]
        exact inNew.cons_cons _
  | case2 =>
      exact ⟨inOld.trans (List.drop_sublist _ _), inNew.trans (List.drop_sublist _ _)⟩
  | case3 found i j _ _ _ inductionHypothesis =>
      exact inductionHypothesis rows (Nat.le_of_lt columns) inOld
        (inNew.trans (drop_succ_sublist _ _))
  | case4 found i j _ _ _ inductionHypothesis =>
      exact inductionHypothesis (Nat.le_of_lt rows) columns (inOld.trans (drop_succ_sublist _ _))
        inNew
  | case5 =>
      exact ⟨inOld.trans (List.drop_sublist _ _), inNew.trans (List.drop_sublist _ _)⟩

theorem sublist_common (old new : List String) :
    (common old new).Sublist old ∧ (common old new).Sublist new := by
  unfold common
  extract_lets table found
  have both : found.Sublist old ∧ found.Sublist new :=
    sublist_collect (Nat.le_of_eq List.size_toArray.symm) (Nat.le_of_eq List.size_toArray.symm)
      (List.nil_sublist _) (List.nil_sublist _)
  split
  · exact ⟨List.nil_sublist _, List.nil_sublist _⟩
  · exact both

/-! ## Merging -/

def before : Change → List String
  | .same lines => lines
  | .removed lines => lines
  | .added _ => []

def after : Change → List String
  | .same lines => lines
  | .removed _ => []
  | .added lines => lines

/-- What the shared lines leave of three lists does not begin with the same line in all of them. -/
theorem shared_spec {as bs cs lines as' bs' cs' : List String}
    (split : shared as bs cs = (lines, as', bs', cs')) :
    as = lines ++ as' ∧ bs = lines ++ bs' ∧ cs = lines ++ cs' ∧
      ∀ line, as'.head? = some line → bs'.head? = some line → cs'.head? ≠ some line := by
  fun_induction shared as bs cs generalizing lines with
  | case1 a as b bs c cs equal more _ _ _ further inductionHypothesis =>
      simp only [Bool.and_eq_true, decide_eq_true_eq] at equal
      rcases equal with ⟨rfl, rfl⟩
      cases split
      rcases inductionHypothesis further with ⟨rfl, rfl, rfl, apart⟩
      exact ⟨rfl, rfl, rfl, apart⟩
  | case2 a as b bs c cs differ =>
      cases split
      refine ⟨rfl, rfl, rfl, ?_⟩
      rintro line ⟨⟩ ⟨⟩ ⟨⟩
      simp at differ
  | case3 as bs cs short =>
      cases split
      refine ⟨rfl, rfl, rfl, ?_⟩
      intro line first second third
      rcases List.head?_eq_some_iff.mp first with ⟨as', rfl⟩
      rcases List.head?_eq_some_iff.mp second with ⟨bs', rfl⟩
      rcases List.head?_eq_some_iff.mp third with ⟨cs', rfl⟩
      exact short _ _ _ _ _ _ rfl rfl rfl

/-- A change without lines may be left out. -/
theorem flatMap_some? {change : List String → Change} {view : Change → List String}
    (empty : view (change []) = []) (lines : List String) :
    (some? change lines).flatMap view = view (change lines) := by
  cases lines with
  | nil => exact empty.symm
  | cons line rest => exact List.append_nil _

/-- What the changes of one round spell. -/
theorem flatMap_round (lines old new : List String) :
    (some? same lines ++ some? removed old ++ some? added new).flatMap before = lines ++ old ∧
      (some? same lines ++ some? removed old ++ some? added new).flatMap after = lines ++ new := by
  have olds : before (removed []) = [] ∧ before (added []) = [] ∧ before (same []) = [] :=
    ⟨rfl, rfl, rfl⟩
  have news : after (removed []) = [] ∧ after (added []) = [] ∧ after (same []) = [] :=
    ⟨rfl, rfl, rfl⟩
  constructor
  · rw [List.flatMap_append, List.flatMap_append, flatMap_some? olds.2.2, flatMap_some? olds.1,
      flatMap_some? olds.2.1, before, before, before, List.append_nil]
  · rw [List.flatMap_append, List.flatMap_append, flatMap_some? news.2.2, flatMap_some? news.1,
      flatMap_some? news.2.1, after, after, after, List.append_nil]

/-- Lines that stand in a list stand behind those in front of the first of them. -/
theorem sublist_dropWhile {common lines : List String} (inside : common.Sublist lines) :
    common.Sublist (lines.dropWhile fun line => some line ≠ common.head?) := by
  cases common with
  | nil => exact List.nil_sublist _
  | cons c rest =>
      induction lines with
      | nil => cases inside
      | cons line lines inductionHypothesis =>
          by_cases same : line = c
          · rw [List.dropWhile_cons_of_neg (by simp [same])]
            exact inside
          · rw [List.dropWhile_cons_of_pos (by simpa using same)]
            cases inside with
            | cons _ inside => exact inductionHypothesis inside
            | cons_cons _ inside => exact absurd rfl same

/-- A round takes lines away: those shared, or those in front of the first common line in one text. -/
theorem length_dropWhile_lt {old new common : List String} (inOld : common.Sublist old)
    (inNew : common.Sublist new) (nonempty : old ≠ [] ∨ new ≠ [])
    (apart : ∀ line, old.head? = some line → new.head? = some line → common.head? ≠ some line) :
    (old.dropWhile fun line => some line ≠ common.head?).length +
        (new.dropWhile fun line => some line ≠ common.head?).length <
      old.length + new.length := by
  have shorter : ∀ lines : List String,
      (lines.dropWhile fun line => some line ≠ common.head?).length ≤ lines.length :=
    fun lines => (List.dropWhile_sublist _).length_le
  have strict : ∀ line rest, some line ≠ common.head? →
      ((line :: rest).dropWhile fun line => some line ≠ common.head?).length <
        (line :: rest).length := by
    intro line rest differs
    rw [List.dropWhile_cons_of_pos (by simpa using differs)]
    exact Nat.lt_succ_of_le (shorter rest)
  cases old with
  | nil =>
      cases new with
      | nil => exact absurd rfl (nonempty.resolve_left (fun no => no rfl))
      | cons line rest =>
          cases inOld
          exact Nat.add_lt_add_of_le_of_lt (shorter []) (strict line rest (by simp))
  | cons a as =>
      by_cases first : some a = common.head?
      · cases new with
        | nil =>
            cases inNew
            cases first
        | cons b bs =>
            refine Nat.add_lt_add_of_le_of_lt (shorter _) (strict b bs fun second => ?_)
            rw [← first, Option.some.injEq] at second
            exact apart a rfl (congrArg some second) first.symm
      · exact Nat.add_lt_add_of_lt_of_le (strict a as first) (shorter new)

/-- Merging spells both texts. -/
theorem flatMap_merge {rounds : Nat} {old new common : List String} (inOld : common.Sublist old)
    (inNew : common.Sublist new) (enough : old.length + new.length < rounds) :
    (merge rounds old new common).flatMap before = old ∧
      (merge rounds old new common).flatMap after = new := by
  induction rounds generalizing old new common with
  | zero => exact absurd enough (Nat.not_lt_zero _)
  | succ rounds inductionHypothesis =>
      rw [merge]
      split
      · rename_i empty
        simp only [Bool.and_eq_true, List.isEmpty_iff] at empty
        rcases empty with ⟨rfl, rfl⟩
        exact ⟨rfl, rfl⟩
      · rename_i nonempty
        split
        rename_i lines old' new' common' division
        rcases shared_spec division with ⟨rfl, rfl, rfl, apart⟩
        replace inOld := (List.append_sublist_append_left lines).mp inOld
        replace inNew := (List.append_sublist_append_left lines).mp inNew
        have fewer : (old'.dropWhile fun line => some line ≠ common'.head?).length +
            (new'.dropWhile fun line => some line ≠ common'.head?).length < rounds := by
          rw [List.length_append, List.length_append] at enough
          cases lines with
          | cons line lines =>
              have first := (List.dropWhile_sublist
                (fun line => decide (some line ≠ common'.head?)) (l := old')).length_le
              have second := (List.dropWhile_sublist
                (fun line => decide (some line ≠ common'.head?)) (l := new')).length_le
              rw [List.length_cons] at enough
              omega
          | nil =>
              have some : old' ≠ [] ∨ new' ≠ [] := by
                simpa [List.isEmpty_iff, Classical.or_iff_not_imp_left] using nonempty
              have taken := length_dropWhile_lt inOld inNew some apart
              rw [List.length_nil] at enough
              omega
        rcases inductionHypothesis (sublist_dropWhile inOld) (sublist_dropWhile inNew) fewer with
          ⟨oldRest, newRest⟩
        have round := flatMap_round lines (old'.takeWhile fun line => some line ≠ common'.head?)
          (new'.takeWhile fun line => some line ≠ common'.head?)
        constructor
        · rw [List.flatMap_append, oldRest, round.1, List.append_assoc,
            List.takeWhile_append_dropWhile]
        · rw [List.flatMap_append, newRest, round.2, List.append_assoc,
            List.takeWhile_append_dropWhile]

/-- The changes between two texts spell both. -/
theorem flatMap_between (old new : String) :
    (between old new).flatMap before = split old ∧ (between old new).flatMap after = split new :=
  flatMap_merge (sublist_common _ _).1 (sublist_common _ _).2 (Nat.lt_succ_self _)

end Change
end Prose
