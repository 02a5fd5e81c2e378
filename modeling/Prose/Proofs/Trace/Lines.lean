import Prose.Proofs.Trace.Changes
import Prose.Proofs.Tree.Outline
import Prose.Trace.Steps

namespace Prose
namespace Trace

/-!
# The lines of outlines

An outline is a list of lines, and it can be taken apart into them: over the standard types no line is
empty, holds a line feed or ends in white space, whatever texts and annotations it shows.  So cutting the
white space off its end takes its last line feed and nothing else, and a trace shows its lines as they
are.
-/

open Text.Property (isWhiteSpace)

/-! ## Lines that are closed -/

/-- A text of lines, each of which ends in a line feed. -/
def unlines (lines : List String) : String := String.join (lines.map (· ++ "\n"))

@[simp] theorem unlines_nil : unlines [] = "" := by rw [unlines, List.map_nil, String.join_nil]

@[simp] theorem unlines_cons (line : String) (lines : List String) :
    unlines (line :: lines) = line ++ ("\n" ++ unlines lines) := by
  rw [unlines, List.map_cons, String.join_cons, unlines, String.append_assoc]

theorem unlines_eq {lines : List String} (nonempty : lines ≠ []) :
    unlines lines = "\n".intercalate lines ++ "\n" := by
  induction lines with
  | nil => exact absurd rfl nonempty
  | cons line rest inductionHypothesis =>
      cases rest with
      | nil => rw [unlines_cons, unlines_nil, String.append_empty, String.intercalate_singleton]
      | cons next rest =>
          rw [unlines_cons, inductionHypothesis (List.cons_ne_nil next rest),
            String.intercalate_cons_cons]
          simp only [String.append_assoc]

/-- A line is cut off where it ends. -/
theorem cut_line {l m s t : String} (closedL : '\n' ∉ l.toList) (closedM : '\n' ∉ m.toList)
    (same : l ++ ("\n" ++ s) = m ++ ("\n" ++ t)) : l = m ∧ s = t := by
  have front : ∀ {l s : String}, '\n' ∉ l.toList →
      (l ++ ("\n" ++ s)).toList.takeWhile (· ≠ '\n') = l.toList := by
    intro l s closed
    have feed : "\n".toList = ['\n'] := rfl
    rw [String.toList_append, String.toList_append, feed, List.takeWhile_append_of_pos,
      List.singleton_append, List.takeWhile_cons_of_neg (by simp), List.append_nil]
    intro c member
    exact decide_eq_true fun feed => closed (feed ▸ member)
  have line := congrArg (fun text : String => text.toList.takeWhile (· ≠ '\n')) same
  simp only [front closedL, front closedM] at line
  have equal := String.toList_inj.mp line
  rw [equal] at same
  exact ⟨equal, (String.append_right_inj _).mp ((String.append_right_inj _).mp same)⟩

/-- A line with text in it, and nothing of the next line. -/
def Filled (line : String) : Prop := line ≠ "" ∧ '\n' ∉ line.toList

/-- Filled lines are known from a text that goes on with an empty line behind them. -/
theorem unlines_inj {lines others : List String} {s t : String} (filled : ∀ line ∈ lines, Filled line)
    (filled' : ∀ line ∈ others, Filled line)
    (same : unlines lines ++ ("\n" ++ s) = unlines others ++ ("\n" ++ t)) : lines = others ∧ s = t := by
  induction lines generalizing others with
  | nil =>
      cases others with
      | nil =>
          rw [unlines_nil] at same
          exact ⟨rfl, (cut_line List.not_mem_nil List.not_mem_nil same).2⟩
      | cons other others =>
          have first := filled' other List.mem_cons_self
          simp only [unlines_nil, unlines_cons, String.append_assoc] at same
          exact absurd (cut_line List.not_mem_nil first.2 same).1.symm first.1
  | cons line lines inductionHypothesis =>
      have first := filled line List.mem_cons_self
      cases others with
      | nil =>
          simp only [unlines_nil, unlines_cons, String.append_assoc] at same
          exact absurd (cut_line first.2 List.not_mem_nil same).1 first.1
      | cons other others =>
          rw [List.forall_mem_cons] at filled filled'
          simp only [unlines_cons, String.append_assoc] at same
          rcases cut_line first.2 filled'.1.2 same with ⟨rfl, behind⟩
          rcases inductionHypothesis filled.2 filled'.2 behind with ⟨rfl, rest⟩
          exact ⟨rfl, rest⟩

def linesOf (text : String) : List String := (Change.split text).dropLast

theorem linesOf_unlines {lines : List String} (closed : ∀ line ∈ lines, '\n' ∉ line.toList) :
    linesOf (unlines lines) = lines := by
  have ended : unlines lines = "\n".intercalate (lines ++ [""]) := by
    cases lines with
    | nil => rw [unlines_nil, List.nil_append, String.intercalate_singleton]
    | cons line rest =>
        rw [unlines_eq (List.cons_ne_nil line rest),
          String.intercalate_append_of_ne_nil (List.cons_ne_nil line rest) (List.cons_ne_nil "" []),
          String.intercalate_singleton, String.append_empty]
  have closed' : ∀ line ∈ lines ++ [""], '\n' ∉ line.toList := by
    intro line member
    rcases List.mem_append.mp member with inside | last
    · exact closed line inside
    · rw [List.mem_singleton.mp last]
      exact List.not_mem_nil
  rw [linesOf, ended, Change.split_intercalate (by simp) closed', List.dropLast_concat]

/-! ## Lines that show their end -/

/-- A line that ends in something other than white space. -/
def Solid (line : String) : Prop :=
  '\n' ∉ line.toList ∧ ∃ c, line.toList.getLast? = some c ∧ isWhiteSpace c = false

theorem Solid.filled {line : String} (solid : Solid line) : Filled line := by
  rcases solid with ⟨closed, c, last, -⟩
  refine ⟨?_, closed⟩
  rintro rfl
  cases last

/-- Lines that are solid end in a character that is no white space. -/
theorem getLast?_intercalate {lines : List String} (nonempty : lines ≠ [])
    (solid : ∀ line ∈ lines, Solid line) :
    ∃ c, ("\n".intercalate lines).toList.getLast? = some c ∧ isWhiteSpace c = false := by
  induction lines with
  | nil => exact absurd rfl nonempty
  | cons line rest inductionHypothesis =>
      cases rest with
      | nil =>
          rw [String.intercalate_singleton]
          exact (solid line List.mem_cons_self).2
      | cons next rest =>
          rcases inductionHypothesis (List.cons_ne_nil next rest)
            (fun line member => solid line (List.mem_cons_of_mem _ member)) with ⟨c, last, black⟩
          refine ⟨c, ?_, black⟩
          rw [String.intercalate_cons_cons, String.toList_append, List.getLast?_append, last]
          rfl

/-- Cutting the white space off the end of solid lines takes the last line feed. -/
theorem trimEnd_unlines {lines : List String} (nonempty : lines ≠ [])
    (solid : ∀ line ∈ lines, Solid line) : trimEnd (unlines lines) = "\n".intercalate lines := by
  rcases getLast?_intercalate nonempty solid with ⟨c, last, black⟩
  have feed : "\n".toList.reverse = ['\n'] := rfl
  have white : isWhiteSpace '\n' = true := by decide
  have first : ("\n".intercalate lines).toList.reverse.dropWhile isWhiteSpace =
      ("\n".intercalate lines).toList.reverse := by
    rw [List.getLast?_eq_head?_reverse] at last
    rcases List.head?_eq_some_iff.mp last with ⟨rest, reversed⟩
    rw [reversed, List.dropWhile_cons_of_neg (by rw [black]; exact Bool.false_ne_true)]
  rw [trimEnd, unlines_eq nonempty, String.toList_append, List.reverse_append, feed,
    List.singleton_append, List.dropWhile_cons_of_pos white, first, List.reverse_reverse,
    String.ofList_toList]

theorem split_trimEnd {lines : List String} (nonempty : lines ≠ [])
    (solid : ∀ line ∈ lines, Solid line) : Change.split (trimEnd (unlines lines)) = lines := by
  rw [trimEnd_unlines nonempty solid]
  exact Change.split_intercalate nonempty fun line member => (solid line member).1

/-- Solid lines are shown as they are. -/
theorem shown_of_solid {lines : List String} (solid : ∀ line ∈ lines, Solid line) :
    Change.shown lines = lines := by
  cases lines with
  | nil => rfl
  | cons line rest =>
      have parts := Change.split_intercalate (List.cons_ne_nil line rest)
        fun line member => (solid line member).1
      have last : (line :: rest).getLast? ≠ some "" := by
        intro last
        exact (solid "" (List.mem_of_getLast? last)).filled.1 rfl
      have each : ∀ text ∈ line :: rest, (if text.toList.getLast? = some '\r' then
          String.ofList text.toList.dropLast else text) = text := by
        intro text member
        rcases (solid text member).2 with ⟨c, last, black⟩
        rw [if_neg]
        rw [last, Option.some.injEq]
        rintro rfl
        exact absurd black (by decide)
      simp only [Change.shown, parts, if_neg last]
      exact (List.map_congr_left each).trans (List.map_id' _)

/-! ## Outlines -/

theorem solid_outlineLines {tree : Tree} (known : tree.Known .standard) :
    ∀ line ∈ tree.outlineLines 0, Solid line := by
  intro line member
  rw [Tree.outlineLines_eq] at member
  rcases List.mem_map.mp member with ⟨shown, inside, rfl⟩
  rcases Tree.mem_lines inside with ⟨part, there, type, -⟩
  exact Tree.Line.solid_write (type ▸ known part there)

theorem outlineLines_ne_nil (tree : Tree) : tree.outlineLines 0 ≠ [] := by
  cases tree <;> simp [Tree.outlineLines]

theorem outline_eq (tree : Tree) : tree.outline = unlines (tree.outlineLines 0) := rfl

end Trace
end Prose
