import Prose.Cst.Read

namespace Prose
namespace Cst

/-!
# Places in a text

A place in a text is a number of bytes in front of it, or a line and a column.  The offset of a line and
column is the number of bytes that they stand for, less one if the column is not the first: it is the
offset of the byte in front of the place.  A slice of the text may begin there if that byte is the first
one of its character.
-/

open Json.Scan

variable {cs : List Char} {bytes : Nat}

/-! ## Bytes between characters -/

theorem byteCount_append (front back : List Char) :
    byteCount (front ++ back) = byteCount front + byteCount back := by
  induction front with
  | nil => rw [List.nil_append, byteCount, Nat.zero_add]
  | cons c rest inductionHypothesis =>
      rw [List.cons_append, byteCount, byteCount, inductionHypothesis, Nat.add_assoc]

theorem byteCount_toList (text : String) : byteCount text.toList = text.utf8ByteSize := by
  have sizes : ∀ cs, byteCount cs = (String.ofList cs).utf8ByteSize := by
    intro cs
    induction cs with
    | nil => rfl
    | cons c rest inductionHypothesis =>
        rw [← List.singleton_append, String.ofList_append, String.utf8ByteSize_append,
          ← String.singleton_eq_ofList, String.utf8ByteSize_singleton, List.singleton_append, byteCount,
          inductionHypothesis]
  rw [sizes, String.ofList_toList]

/-- A number of bytes that ends between two characters of a text, or at one of its ends. -/
def Boundary (cs : List Char) (bytes : Nat) : Prop :=
  ∃ front back, cs = front ++ back ∧ byteCount front = bytes

theorem isValid_iff_boundary (text : String) :
    String.Pos.Raw.IsValid text ⟨bytes⟩ ↔ Boundary text.toList bytes := by
  rw [String.Pos.Raw.isValid_iff_exists_append]
  constructor
  · rintro ⟨front, back, rfl, same⟩
    refine ⟨front.toList, back.toList, String.toList_append, ?_⟩
    rw [byteCount_toList]
    exact (congrArg String.Pos.Raw.byteIdx same).symm
  · rintro ⟨front, back, split, rfl⟩
    refine ⟨String.ofList front, String.ofList back, ?_, ?_⟩
    · rw [← String.ofList_append, ← split, String.ofList_toList]
    · rw [String.rawEndPos, ← byteCount_toList, String.toList_ofList]

theorem boundary_zero (cs : List Char) : Boundary cs 0 := ⟨[], cs, rfl, rfl⟩

theorem boundary_append (front back : List Char) (bytes : Nat) :
    Boundary (front ++ back) (byteCount front + bytes) ↔ Boundary back bytes := by
  constructor
  · rintro ⟨first, last, split, count⟩
    rcases List.append_eq_append_iff.mp split with ⟨middle, rfl, rfl⟩ | ⟨middle, rfl, rfl⟩
    · rw [byteCount_append] at count
      exact ⟨middle, last, rfl, Nat.add_left_cancel count⟩
    · -- The cut is in `front`, so that nothing of `back` is in front of it.
      rw [byteCount_append] at count
      have none : bytes = 0 := by omega
      exact none ▸ ⟨[], back, rfl, rfl⟩
  · rintro ⟨first, last, rfl, rfl⟩
    exact ⟨front ++ first, last, by rw [List.append_assoc], byteCount_append front first⟩

theorem boundary_byteCount (front back : List Char) : Boundary (front ++ back) (byteCount front) :=
  ⟨front, back, rfl, rfl⟩

/-- A place in front of the last byte of a character is between two characters if the character has only
that byte. -/
theorem boundary_before (front : List Char) (c : Char) (back : List Char) :
    Boundary (front ++ c :: back) (byteCount front + c.utf8Size - 1) ↔ c.utf8Size = 1 := by
  have positive := c.utf8Size_pos
  rw [Nat.add_sub_assoc positive, boundary_append]
  constructor
  · rintro ⟨first, last, split, count⟩
    cases first with
    | nil =>
        rw [byteCount] at count
        omega
    | cons d first =>
        cases List.cons.inj split |>.1
        rw [byteCount] at count
        omega
  · intro single
    rw [single]
    exact boundary_zero _

/-! ## Lines and columns -/

/-- The lengths of the lines of a text that goes on in a column. -/
def carried (column : Nat) : List Nat → List Nat
  | [] => [column]
  | length :: rest => (length + column) :: rest

theorem lineLengths_cons {c : Char} (inLine : c ≠ '\n') (cs : List Char) :
    lineLengths (c :: cs) = carried c.utf8Size (lineLengths cs) := by
  rw [lineLengths, if_neg inLine]
  cases lineLengths cs <;> rfl

theorem carried_carried (first second : Nat) (lengths : List Nat) :
    carried first (carried second lengths) = carried (first + second) lengths := by
  cases lengths with
  | nil => simp only [carried, Nat.add_comm]
  | cons length rest => simp only [carried, Nat.add_comm first, Nat.add_assoc]

theorem sum_take_carried_zero (count : Nat) (lengths : List Nat) :
    ((carried 0 lengths).take count).foldr (· + ·) 0 = (lengths.take count).foldr (· + ·) 0 := by
  cases lengths with
  | nil => cases count <;> simp [carried]
  | cons length rest => rfl

/-- The lines in front of a place and its column make up the bytes in front of it. -/
theorem lineAndColumn_go (line column : Nat) (inside : bytes ≤ byteCount cs) :
    line ≤ (lineAndColumn.go bytes line column cs).1 ∧
      ((carried column (lineLengths cs)).take
          ((lineAndColumn.go bytes line column cs).1 - line)).foldr (· + ·) 0 +
        (lineAndColumn.go bytes line column cs).2 = column + bytes := by
  induction cs generalizing bytes line column with
  | nil =>
      have none : bytes = 0 := Nat.le_zero.mp inside
      simp [lineAndColumn.go, none]
  | cons c rest inductionHypothesis =>
      rw [byteCount] at inside
      rw [lineAndColumn.go]
      split
      · rename_i none
        simp [none]
      split
      · rename_i nonzero feed
        subst feed
        have size : '\n'.utf8Size = 1 := rfl
        rcases @inductionHypothesis (bytes - 1) (line + 1) 0 (by omega) with ⟨later, count⟩
        generalize lineAndColumn.go (bytes - 1) (line + 1) 0 rest = place at later count
        refine ⟨by omega, ?_⟩
        rw [sum_take_carried_zero] at count
        rw [lineLengths, if_pos rfl, carried,
          show place.1 - line = place.1 - (line + 1) + 1 by omega, List.take_succ_cons, List.foldr_cons]
        omega
      split
      · simp
      · rename_i nonzero inLine wide
        have within := @inductionHypothesis (bytes - c.utf8Size) line (column + c.utf8Size)
          (by omega)
        rw [lineLengths_cons inLine, carried_carried]
        refine ⟨within.1, within.2.trans ?_⟩
        omega

/-- A place in the first column is the beginning of the text or behind a line feed. -/
theorem lineAndColumn_go_zero {line column : Nat} (inside : bytes ≤ byteCount cs)
    (first : (lineAndColumn.go bytes line column cs).2 = 0) :
    (column = 0 ∧ bytes = 0) ∨
      ∃ front back, cs = front ++ '\n' :: back ∧ bytes = byteCount front + 1 := by
  induction cs generalizing bytes line column with
  | nil => exact .inl ⟨first, Nat.le_zero.mp inside⟩
  | cons c rest inductionHypothesis =>
      rw [byteCount] at inside
      rw [lineAndColumn.go] at first
      split at first
      · exact .inl ⟨first, ‹_›⟩
      split at first
      · rename_i nonzero feed
        subst feed
        have size : '\n'.utf8Size = 1 := rfl
        rcases inductionHypothesis (by omega) first with ⟨_, none⟩ | ⟨front, back, rfl, count⟩
        · exact .inr ⟨[], rest, rfl, by rw [byteCount]; omega⟩
        · exact .inr ⟨'\n' :: front, back, rfl, by rw [byteCount]; omega⟩
      have positive := c.utf8Size_pos
      split at first
      · omega
      · rcases inductionHypothesis (by omega) first with ⟨none, _⟩ | ⟨front, back, rfl, count⟩
        · omega
        · exact .inr ⟨c :: front, back, rfl, by rw [byteCount]; omega⟩

/-- The offset of the line and column behind some bytes. -/
theorem offsetOf_lineAndColumn (inside : bytes ≤ byteCount cs) :
    offsetOf cs (lineAndColumn bytes cs).1 (lineAndColumn bytes cs).2 =
      if (lineAndColumn bytes cs).2 = 0 then bytes else bytes - 1 := by
  have within := (lineAndColumn_go 1 0 inside).2
  rw [sum_take_carried_zero, ← lineAndColumn, Nat.zero_add] at within
  rw [offsetOf, lineStart]
  split <;> omega

theorem offsetOf_le (cs : List Char) (line column : Nat) :
    offsetOf cs line column ≤ byteCount cs := Nat.min_le_right _ _

/-- A text can be cut at the offset of a place if it can be cut in front of the last byte there. -/
theorem boundary_offsetOf (inside : bytes ≤ byteCount cs) :
    Boundary cs (offsetOf cs (lineAndColumn bytes cs).1 (lineAndColumn bytes cs).2) ↔
      Boundary cs (bytes - 1) := by
  rw [offsetOf_lineAndColumn inside]
  split
  · rename_i first
    rcases lineAndColumn_go_zero inside first with ⟨_, rfl⟩ | ⟨front, back, rfl, rfl⟩
    · rfl
    · have ahead := boundary_byteCount front ('\n' :: back)
      have behind := boundary_byteCount (front ++ ['\n']) back
      rw [byteCount_append, List.append_assoc] at behind
      exact iff_of_true behind ahead
  · rfl

end Cst
end Prose
