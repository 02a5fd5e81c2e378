import Prose.Proofs.Cst.Places
import Prose.Proofs.Cst.Stops

namespace Prose
namespace Cst

/-!
# Where errors of reading point

The error for a text that describes no node points at the last byte that had been taken in when reading
stopped.  That is a byte of the text, and nearly always the first one of its character.  It is not in
three cases, all of them inside strings: the text ends behind a character of several bytes, the four bytes
of an escape end inside such a character, or a string that is passed over has a control character behind
one.  `Splits` lists them, and `points_of_ofJson_error` says that there are no others.
-/

open Json.Scan

variable {text : List Char} {stop : Stop}

/-- The last byte taken in at a stop is not the first one of its character. -/
inductive Splits (text : List Char) : Stop → Prop where
  | ending {front : List Char} {c : Char} (last : text = front ++ [c]) (wide : c.utf8Size ≠ 1) :
      Splits text ⟨.endInString, [], 0⟩
  | escape {left : List Char} (inside : left <:+ text) (wide : ¬ Boundary left 3) :
      Splits text ⟨.invalidEscape, left, 4⟩
  | control {front left : List Char} {c d : Char} (last : text = front ++ c :: d :: left)
      (wide : c.utf8Size ≠ 1) : Splits text ⟨.controlCharacter, d :: left, 0⟩

/-- What an error of reading says about its place: it is inside the text, and the text can be cut there
unless the stop splits a character. -/
structure Points (json : String) (stop : Stop) (error : Error) : Prop where
  stopped : whole json.toList = .error stop
  place : ∃ message offset, error = .parse message "cst.json" offset 0 ∧
    offset ≤ json.utf8ByteSize ∧
    (¬ String.Pos.Raw.IsValid json ⟨offset⟩ ↔ Splits json.toList stop)

/-! ## The last byte taken in -/

theorem byteCount_of_single {cs : List Char} (single : ∀ c ∈ cs, c.utf8Size = 1) :
    byteCount cs = cs.length := by
  induction cs with
  | nil => rfl
  | cons c rest inductionHypothesis =>
      rw [byteCount, single c List.mem_cons_self, List.length_cons, Nat.add_comm,
        inductionHypothesis fun d member => single d (List.mem_cons_of_mem c member)]

theorem stopOffset_append (front left : List Char) (flaw : Flaw) (taken : Nat) :
    stopOffset (front ++ left) ⟨flaw, left, taken⟩ = byteCount front + taken := by
  rw [stopOffset, byteCount_append, Nat.add_sub_cancel_right]

/-- A text cannot be cut in front of the last byte of its beginning if that ends in a wide character. -/
theorem not_boundary_last_iff (front left : List Char) :
    ¬ Boundary (front ++ left) (byteCount front - 1) ↔
      ∃ first c, front = first ++ [c] ∧ c.utf8Size ≠ 1 := by
  rcases List.eq_nil_or_concat front with rfl | ⟨first, c, rfl⟩
  · refine iff_of_false (not_not_intro (boundary_zero _)) ?_
    rintro ⟨first, c, nonempty, _⟩
    simp at nonempty
  · rw [List.concat_eq_append, byteCount_append, List.append_assoc, List.singleton_append, byteCount,
      byteCount, Nat.add_zero, boundary_before]
    constructor
    · intro wide
      exact ⟨first, c, rfl, wide⟩
    · rintro ⟨_, _, same, wide⟩
      rcases List.append_inj' same rfl with ⟨_, last⟩
      cases last
      exact wide

/-- What four characters of one byte each come to. -/
theorem exists_digits {left : List Char} (inside : left <:+ text) (enough : 4 ≤ left.length)
    (single : ∀ c ∈ left.take 4, c.utf8Size = 1) :
    ∃ front, text = front ++ left ∧
      byteCount (front ++ left.take 4) = byteCount front + 4 := by
  rcases inside with ⟨front, rfl⟩
  refine ⟨front, rfl, ?_⟩
  rw [byteCount_append, byteCount_of_single single, List.length_take, Nat.min_eq_left enough]

/-- No more is taken in at a stop than the text has. -/
theorem stopOffset_le (stopped : Stopped text stop) : stopOffset text stop ≤ byteCount text := by
  have cut : ∀ left : List Char, byteCount left = byteCount (left.take 4) + byteCount (left.drop 4) :=
    fun left => by rw [← byteCount_append, List.take_append_drop]
  cases stopped with
  | @behind left flaw edge =>
      rcases edge.suffix with ⟨front, rfl⟩
      rw [stopOffset_append, byteCount_append]
      omega
  | @on c left flaw inside =>
      rcases inside with ⟨front, rfl⟩
      have positive := c.utf8Size_pos
      rw [stopOffset_append, byteCount_append, byteCount]
      omega
  | @digits left flaw inside enough single =>
      rcases exists_digits inside enough single with ⟨front, rfl, four⟩
      rw [byteCount_append] at four
      rw [stopOffset_append, byteCount_append, cut left]
      omega
  | ending => exact Nat.sub_le _ _
  | @escape left inside enough =>
      rcases inside with ⟨front, rfl⟩
      rw [stopOffset_append, byteCount_append, cut left]
      omega
  | @control c left inside control =>
      rcases inside with ⟨front, rfl⟩
      rw [stopOffset_append, byteCount_append]
      omega

/-- A text cannot be cut in front of the last byte taken in exactly if the stop splits a character. -/
theorem not_boundary_stopOffset_iff (stopped : Stopped text stop) :
    ¬ Boundary text (stopOffset text stop - 1) ↔ Splits text stop := by
  cases stopped with
  | @behind left flaw edge =>
      rcases edge with ⟨front, rfl, single⟩
      have narrow : ∀ first c, front = first ++ [c] → c.utf8Size = 1 := by
        rintro first c rfl
        exact single c List.getLast?_concat
      rw [stopOffset_append, Nat.add_zero, not_boundary_last_iff]
      refine iff_of_false ?_ fun splits => ?_
      · rintro ⟨first, c, last, wide⟩
        exact wide (narrow first c last)
      · cases splits with
        | @ending first c last wide => exact wide (narrow first c ((List.append_nil front).symm.trans last))
        | @control first _ c d last wide =>
            refine wide (narrow first c (List.append_cancel_right (last.trans ?_)))
            rw [List.append_assoc, List.singleton_append]
  | @on c left flaw inside =>
      rcases inside with ⟨front, rfl⟩
      rw [stopOffset_append, Nat.add_sub_cancel]
      refine iff_of_false (not_not_intro (boundary_byteCount _ _)) fun splits => ?_
      cases splits
  | @digits left flaw inside enough single =>
      have three : Boundary left 3 := by
        refine ⟨left.take 3, left.drop 3, (List.take_append_drop 3 left).symm, ?_⟩
        rw [byteCount_of_single fun c member => single c ((List.take_sublist_take_left (by decide)).mem member),
          List.length_take]
        omega
      rcases inside with ⟨front, rfl⟩
      rw [stopOffset_append, show byteCount front + 4 - 1 = byteCount front + 3 from rfl, boundary_append]
      refine iff_of_false (not_not_intro three) fun splits => ?_
      cases splits with
      | escape _ wide => exact wide three
  | ending =>
      have offset := stopOffset_append text [] .endInString 0
      have last := not_boundary_last_iff text []
      rw [List.append_nil] at offset last
      rw [offset, Nat.add_zero, last]
      constructor
      · rintro ⟨first, c, last, wide⟩
        exact .ending last wide
      · rintro (_ | _)
        exact ⟨_, _, ‹_›, ‹_›⟩
  | @escape left inside enough =>
      have begun := inside
      rcases inside with ⟨front, rfl⟩
      rw [stopOffset_append, show byteCount front + 4 - 1 = byteCount front + 3 from rfl, boundary_append]
      constructor
      · exact .escape begun
      · rintro (_ | _)
        assumption
  | @control d left inside control =>
      rcases inside with ⟨front, rfl⟩
      rw [stopOffset_append, Nat.add_zero, not_boundary_last_iff]
      constructor
      · rintro ⟨first, c, rfl, wide⟩
        exact .control (by rw [List.append_assoc, List.singleton_append]) wide
      · intro splits
        cases splits with
        | @control first _ c _ last wide =>
            refine ⟨first, c, List.append_cancel_right (last.trans ?_), wide⟩
            rw [List.append_assoc, List.singleton_append]

/-! ## Errors -/

/-- Where the error of a failed reading points. -/
theorem points_of_ofJson_error {json : String} {error : Error} (failed : ofJson json = .error error) :
    ∃ stop, Points json stop error := by
  rw [ofJson] at failed
  cases read : whole json.toList with
  | ok node => rw [read] at failed; cases failed
  | error stop =>
      rw [read] at failed
      cases failed
      have stopped := stopped_of_whole read
      have inside := stopOffset_le stopped
      refine ⟨stop, read, _, _, rfl, ?_, ?_⟩
      · exact byteCount_toList json ▸ offsetOf_le _ _ _
      · rw [isValid_iff_boundary]
        exact (not_congr (boundary_offsetOf inside)).trans (not_boundary_stopOffset_iff stopped)

/-- Reading fails where reading the node at the beginning of the text does. -/
theorem ofJson_of_node_error (json : String)
    (read : node (2 * fuelFor json.toList) nesting json.toList = .error stop) :
    ofJson json = .error (stopError json.toList stop) := by
  rw [ofJson, Cst.whole, read]
  rfl

/-- Four bytes of an escape end inside a character of two bytes. -/
theorem points_of_ofJson_error_escape :
    ofJson "\"\\u12é\"" = .error (.parse "invalid escape at line 1 column 7" "cst.json" 6 0) ∧
      ∃ stop, Points "\"\\u12é\"" stop
        (.parse "invalid escape at line 1 column 7" "cst.json" 6 0) := by
  have read : node 32 nesting ['"', '\\', 'u', '1', '2', 'é', '"'] =
      .error ⟨.invalidEscape, ['1', '2', 'é', '"'], 4⟩ := by
    rw [node]
    rfl
  have failed : ofJson "\"\\u12é\"" =
      .error (.parse "invalid escape at line 1 column 7" "cst.json" 6 0) :=
    ofJson_of_node_error "\"\\u12é\"" read
  exact ⟨failed, points_of_ofJson_error failed⟩

/-- A string is not closed, and the text ends in a character of two bytes.  The error points at the
second one. -/
theorem not_isValid_unclosed :
    ¬ ∀ (json message source : String) (offset length : Nat),
      ofJson json = .error (.parse message source offset length) →
        offset ≤ json.utf8ByteSize ∧ String.Pos.Raw.IsValid json ⟨offset⟩ := by
  intro claim
  have read : node 12 nesting ['"', 'é'] = .error ⟨.endInString, [], 0⟩ := by
    rw [node]
    rfl
  have failed : ofJson "\"é" =
      .error (.parse "EOF while parsing a string at line 1 column 3" "cst.json" 2 0) :=
    ofJson_of_node_error "\"é" read
  have split : ¬ String.Pos.Raw.IsValid "\"é" ⟨2⟩ := by decide
  exact split (claim _ _ _ _ _ failed).2

end Cst
end Prose
