import Prose.Proofs.Json.Compact
import Prose.Proofs.Text.Quoted
import Prose.Proofs.Tree.RoundTrip
import Prose.Tree.Outline

namespace Prose
namespace Tree

/-!
# Outlines determine trees

The lines of an outline can be read back, over the standard types and if no annotation holds a fraction.
What a line shows is found from left to right: the blanks give the depth, the name ends before the next
blank, a text in quotes is told from annotations in braces, and the form of neither can be mistaken for
what follows.  The depths of the lines, which come in document order, then give the shape of the tree: a
node's children go as far as the lines below it are deeper than its own.
-/

/-! ## Lines -/

/-- What the line of a node shows. -/
structure Line where
  depth : Nat
  type : NodeType
  text : Option String
  data : Json.Fields

def Line.write (line : Line) : String := outlineLine line.depth line.type line.text line.data

mutual

/-- What the lines of a tree show whose root stands at some depth. -/
def lines (depth : Nat) : Tree → List Line
  | .branch type data children => ⟨depth, type, none, data⟩ :: linesAll (depth + 1) children
  | .leaf type data value => [⟨depth, type, some value, data⟩]

def linesAll (depth : Nat) : List Tree → List Line
  | [] => []
  | tree :: rest => tree.lines depth ++ linesAll depth rest

end

mutual

theorem outlineLines_eq (depth : Nat) : ∀ tree : Tree,
    tree.outlineLines depth = (tree.lines depth).map Line.write
  | .branch type data children => by
      rw [outlineLines, lines, List.map_cons, outlineLinesAll_eq (depth + 1) children, Line.write]
  | .leaf type data value => by
      rw [outlineLines, lines, List.map_singleton, Line.write]

theorem outlineLinesAll_eq (depth : Nat) : ∀ trees : List Tree,
    outlineLinesAll depth trees = (linesAll depth trees).map Line.write
  | [] => by rw [outlineLinesAll, linesAll, List.map_nil]
  | tree :: rest => by
      rw [outlineLinesAll, linesAll, List.map_append, outlineLines_eq depth tree,
        outlineLinesAll_eq depth rest]

end

mutual

/-- Every line belongs to a node. -/
theorem mem_lines {depth : Nat} {line : Line} : ∀ {tree : Tree}, line ∈ tree.lines depth →
    ∃ part ∈ tree.subtrees, part.type = line.type ∧ part.data = line.data
  | .branch type data children, member => by
      rw [lines, List.mem_cons] at member
      rw [subtrees]
      rcases member with rfl | below
      · exact ⟨_, List.mem_cons_self, rfl, rfl⟩
      · rcases mem_linesAll below with ⟨part, inside, shows⟩
        exact ⟨part, List.mem_cons_of_mem _ inside, shows⟩
  | .leaf type data value, member => by
      rw [lines, List.mem_singleton] at member
      rw [subtrees, member]
      exact ⟨_, List.mem_singleton_self _, rfl, rfl⟩

theorem mem_linesAll {depth : Nat} {line : Line} : ∀ {trees : List Tree}, line ∈ linesAll depth trees →
    ∃ part ∈ subtreesAll trees, part.type = line.type ∧ part.data = line.data
  | [], member => by
      rw [linesAll] at member
      cases member
  | tree :: rest, member => by
      rw [linesAll, List.mem_append] at member
      rw [subtreesAll]
      rcases member with first | others
      · rcases mem_lines first with ⟨part, inside, shows⟩
        exact ⟨part, List.mem_append_left _ inside, shows⟩
      · rcases mem_linesAll others with ⟨part, inside, shows⟩
        exact ⟨part, List.mem_append_right _ inside, shows⟩

end

/-! ## Names -/

/-- The names of the standard types are written without blanks. -/
theorem name_standard {type : NodeType} (known : Model.standard.resolve type.name = .ok type) :
    type.name.toList.getLast? = some 'e' ∧ ∀ c ∈ type.name.toList, c ≠ ' ' ∧ c ≠ '\n' := by
  have member : type ∈ Model.standard.types := by
    rw [Model.resolve] at known
    split at known
    · rename_i found
      cases known
      exact List.mem_of_find?_eq_some found
    · cases known
  have all : (Model.standard.types.all fun type => type.name.toList.getLast? = some 'e' &&
      type.name.toList.all fun c => c ≠ ' ' && c ≠ '\n') = true := by decide
  simpa using List.all_eq_true.mp all type member

/-- Types of one name that a model has are the same. -/
theorem type_eq_of_name_eq {model : Model} {a b : NodeType} (knownA : model.resolve a.name = .ok a)
    (knownB : model.resolve b.name = .ok b) (same : a.name = b.name) : a = b := by
  rw [same] at knownA
  exact Except.ok.inj (knownA.symm.trans knownB)

/-! ## Parts of a line -/

/-- A text as a line shows it. -/
def shownText : Option String → List Char
  | some value => ' ' :: (Text.Quoted.encode value).toList
  | none => []

/-- Annotations as a line shows them. -/
def shownData (data : Json.Fields) : List Char :=
  if data.isEmpty then [] else ' ' :: Json.compactChars (.object data)

theorem toList_write (line : Line) :
    line.write.toList = List.replicate (2 * line.depth) ' ' ++
      (line.type.name.toList ++ (shownText line.text ++ shownData line.data)) := by
  rcases line with ⟨depth, type, text, data⟩
  have dataChars : (if data.isEmpty then "" else " " ++ (Json.object data).compact).toList =
      shownData data := by
    rw [shownData]
    split
    · rfl
    · rw [String.toList_append, Json.compact, String.toList_ofList, String.toList_ofList]
      rfl
  cases text with
  | none =>
      simp only [Line.write, outlineLine, String.toList_append, String.toList_ofList, dataChars,
        shownText, String.toList_empty, List.append_nil, List.nil_append, List.append_assoc]
  | some value =>
      have blank : " ".toList = [' '] := rfl
      simp only [Line.write, outlineLine, String.toList_append, String.toList_ofList, dataChars,
        shownText, blank, List.cons_append, List.nil_append, List.append_assoc]

/-- Behind the name of a line comes a blank, or nothing. -/
theorem takeWhile_shown (text : Option String) (data : Json.Fields) :
    (shownText text ++ shownData data).takeWhile (· ≠ ' ') = [] := by
  cases text with
  | some value => rfl
  | none =>
      rw [shownText, List.nil_append, shownData]
      split <;> rfl

/-- The blanks in front of a line go up to the name. -/
theorem takeWhile_indent {type : NodeType} (known : Model.standard.resolve type.name = .ok type)
    (depth : Nat) (rest : List Char) :
    (List.replicate (2 * depth) ' ' ++ (type.name.toList ++ rest)).takeWhile (· = ' ') =
      List.replicate (2 * depth) ' ' := by
  rcases name_standard known with ⟨last, clear⟩
  rw [List.takeWhile_append_of_pos (fun c member => decide_eq_true (List.eq_of_mem_replicate member))]
  cases name : type.name.toList with
  | nil =>
      rw [name] at last
      cases last
  | cons c more =>
      have solid : c ≠ ' ' := (clear c (name ▸ List.mem_cons_self)).1
      rw [List.cons_append, List.takeWhile_cons_of_neg (by simpa using solid), List.append_nil]

/-- The name goes up to the next blank. -/
theorem takeWhile_name {type : NodeType} (known : Model.standard.resolve type.name = .ok type)
    (text : Option String) (data : Json.Fields) :
    (type.name.toList ++ (shownText text ++ shownData data)).takeWhile (· ≠ ' ') =
      type.name.toList := by
  rw [List.takeWhile_append_of_pos
    (fun c member => decide_eq_true ((name_standard known).2 c member).1), takeWhile_shown,
    List.append_nil]

/-- Annotations that are shown alike are the same, if they hold no fractions. -/
theorem shownData_inj {a b : Json.Fields} (wholeA : ∀ field ∈ a, field.2.Whole)
    (wholeB : ∀ field ∈ b, field.2.Whole) (same : shownData a = shownData b) : a = b := by
  cases a with
  | nil =>
      cases b with
      | nil => rfl
      | cons field rest => cases same
  | cons field rest =>
      cases b with
      | nil => cases same
      | cons other more =>
          have objects := Json.compactChars_inj (.object _ wholeA) (.object _ wholeB)
            (List.cons.inj same).2
          exact Json.object.inj objects

/-- A text and annotations that are shown alike are the same. -/
theorem shown_inj {s t : Option String} {a b : Json.Fields} (wholeA : ∀ field ∈ a, field.2.Whole)
    (wholeB : ∀ field ∈ b, field.2.Whole)
    (same : shownText s ++ shownData a = shownText t ++ shownData b) : s = t ∧ a = b := by
  have apart : ∀ {value : String} {data other : Json.Fields},
      shownData data ≠ shownText (some value) ++ shownData other := by
    intro value data other
    -- Annotations begin with a brace where a text begins with a quote.
    cases data with
    | nil => exact fun same => by cases same
    | cons field rest =>
        intro same
        rw [shownText, Text.Quoted.encode, String.toList_ofList] at same
        cases same
  cases s with
  | none =>
      cases t with
      | none => exact ⟨rfl, shownData_inj wholeA wholeB same⟩
      | some value => exact absurd same apart
  | some value =>
      cases t with
      | none => exact absurd same.symm apart
      | some other =>
          simp only [shownText, Text.Quoted.encode, String.toList_ofList, List.cons_append,
            List.append_assoc, List.nil_append, List.cons.injEq, true_and] at same
          rcases Text.Quoted.flatMap_encodeChar_inj same with ⟨texts, data⟩
          exact ⟨congrArg some (String.toList_inj.mp texts), shownData_inj wholeA wholeB data⟩

/-- What is shown by a line can be told from it. -/
theorem Line.write_inj {a b : Line} (knownA : Model.standard.resolve a.type.name = .ok a.type)
    (knownB : Model.standard.resolve b.type.name = .ok b.type)
    (wholeA : ∀ field ∈ a.data, field.2.Whole) (wholeB : ∀ field ∈ b.data, field.2.Whole)
    (same : a.write = b.write) : a = b := by
  have chars := congrArg String.toList same
  rw [toList_write, toList_write] at chars
  have front := congrArg (List.takeWhile (· = ' ')) chars
  rw [takeWhile_indent knownA, takeWhile_indent knownB] at front
  rw [front] at chars
  have behind := List.append_cancel_left chars
  have name := congrArg (List.takeWhile (· ≠ ' ')) behind
  rw [takeWhile_name knownA, takeWhile_name knownB] at name
  rw [name] at behind
  have depth : 2 * a.depth = 2 * b.depth := by
    simpa only [List.length_replicate] using congrArg List.length front
  rcases shown_inj wholeA wholeB (List.append_cancel_left behind) with ⟨text, data⟩
  have type := type_eq_of_name_eq knownA knownB (String.toList_inj.mp name)
  cases a
  cases b
  simp only [Line.mk.injEq]
  exact ⟨Nat.eq_of_mul_eq_mul_left Nat.two_pos depth, type, text, data⟩

/-- A line of a standard type is one line: no line feed is in it, and its last character is no white
space. -/
theorem Line.solid_write {line : Line}
    (known : Model.standard.resolve line.type.name = .ok line.type) :
    '\n' ∉ line.write.toList ∧
      ∃ c, line.write.toList.getLast? = some c ∧ Text.Property.isWhiteSpace c = false := by
  rcases name_standard known with ⟨last, clear⟩
  rw [toList_write]
  constructor
  · have indent : '\n' ∉ List.replicate (2 * line.depth) ' ' := fun member =>
      absurd (List.eq_of_mem_replicate member) (by decide)
    have name : '\n' ∉ line.type.name.toList := fun member => (clear _ member).2 rfl
    have text : '\n' ∉ shownText line.text := by
      cases line.text with
      | none => exact List.not_mem_nil
      | some value => exact List.not_mem_cons_of_ne_of_not_mem (by decide) (Text.Quoted.not_mem_encode value)
    have data : '\n' ∉ shownData line.data := by
      rw [shownData]
      split
      · exact List.not_mem_nil
      · exact List.not_mem_cons_of_ne_of_not_mem (by decide) (Json.not_mem_compactChars _)
    simp only [List.mem_append, indent, name, text, data, or_self, not_false_eq_true]
  · -- A line ends in a brace, in a quote, or in the last letter of a name.
    cases annotated : line.data with
    | cons field rest =>
        refine ⟨'\x7d', ?_, by decide⟩
        simp [shownData, Json.compactChars, List.getLast?_append, List.getLast?_cons]
    | nil =>
        cases line.text with
        | some value =>
            refine ⟨'"', ?_, by decide⟩
            simp [shownData, shownText, Text.Quoted.encode, List.getLast?_append, List.getLast?_cons]
        | none =>
            refine ⟨'e', ?_, by decide⟩
            simp [shownData, shownText, List.getLast?_append, last]

/-! ## Trees -/

/-- No line comes next that is deeper than some depth. -/
def Within (depth : Nat) (rest : List Line) : Prop := ∀ line ∈ rest.head?, line.depth ≤ depth

theorem Within.mono {depth : Nat} {rest : List Line} (within : Within depth rest) :
    Within (depth + 1) rest := fun line first => Nat.le_succ_of_le (within line first)

theorem exists_lines (depth : Nat) (tree : Tree) :
    ∃ line rest, tree.lines depth = line :: rest ∧ line.depth = depth := by
  cases tree with
  | branch type data children => exact ⟨_, _, by rw [lines], rfl⟩
  | leaf type data value => exact ⟨_, _, by rw [lines], rfl⟩

theorem within_linesAll {depth : Nat} {rest : List Line} (within : Within depth rest)
    (trees : List Tree) : Within (depth + 1) (linesAll (depth + 1) trees ++ rest) := by
  cases trees with
  | nil => exact within.mono
  | cons tree trees =>
      rcases exists_lines (depth + 1) tree with ⟨line, more, text, level⟩
      rw [linesAll, text]
      intro first same
      rw [List.cons_append, List.cons_append, List.head?_cons] at same
      cases same
      exact Nat.le_of_eq level

theorem within_nil (depth : Nat) : Within depth [] := nofun

/-- No tree's lines begin where a shallower line comes next. -/
theorem lines_append_ne {depth : Nat} {tree : Tree} {s t : List Line} (within : Within depth s) :
    s ≠ tree.lines (depth + 1) ++ t := by
  rintro rfl
  rcases exists_lines (depth + 1) tree with ⟨line, more, text, level⟩
  have shallow := within line (by rw [text]; rfl)
  omega

mutual

/-- A tree is known from its lines, and so are the lines behind it, if these are not deeper than it. -/
theorem lines_inj {depth : Nat} : ∀ {a b : Tree} {s t : List Line}, Within depth s → Within depth t →
    a.lines depth ++ s = b.lines depth ++ t → a = b ∧ s = t
  | .branch type data children, .branch type' data' children', s, t, withinS, withinT, same => by
      rw [lines, lines, List.cons_append, List.cons_append, List.cons.injEq, Line.mk.injEq] at same
      rcases same with ⟨⟨-, rfl, -, rfl⟩, below⟩
      rcases linesAll_inj withinS withinT below with ⟨rfl, rest⟩
      exact ⟨rfl, rest⟩
  | .branch type data children, .leaf type' data' value, s, t, _, _, same => by
      rw [lines, lines, List.cons_append, List.cons_append, List.cons.injEq, Line.mk.injEq] at same
      cases same.1.2.2.1
  | .leaf type data value, .branch type' data' children, s, t, _, _, same => by
      rw [lines, lines, List.cons_append, List.cons_append, List.cons.injEq, Line.mk.injEq] at same
      cases same.1.2.2.1
  | .leaf type data value, .leaf type' data' value', s, t, _, _, same => by
      rw [lines, lines, List.cons_append, List.cons_append, List.cons.injEq, Line.mk.injEq] at same
      rcases same with ⟨⟨-, rfl, text, rfl⟩, rest⟩
      exact ⟨congrArg (leaf type data) (Option.some.inj text), rest⟩

theorem linesAll_inj {depth : Nat} : ∀ {as bs : List Tree} {s t : List Line}, Within depth s →
    Within depth t → linesAll (depth + 1) as ++ s = linesAll (depth + 1) bs ++ t → as = bs ∧ s = t
  | [], [], s, t, _, _, same => by
      rw [linesAll, List.nil_append, List.nil_append] at same
      exact ⟨rfl, same⟩
  | [], b :: bs, s, t, withinS, _, same => by
      rw [linesAll, linesAll, List.nil_append, List.append_assoc] at same
      exact absurd same (lines_append_ne withinS)
  | a :: as, [], s, t, _, withinT, same => by
      rw [linesAll, linesAll, List.nil_append, List.append_assoc] at same
      exact absurd same.symm (lines_append_ne withinT)
  | a :: as, b :: bs, s, t, withinS, withinT, same => by
      rw [linesAll, linesAll, List.append_assoc, List.append_assoc] at same
      rcases lines_inj (within_linesAll withinS as) (within_linesAll withinT bs) same with ⟨rfl, others⟩
      rcases linesAll_inj withinS withinT others with ⟨rfl, rest⟩
      exact ⟨rfl, rest⟩

end

/-- No annotation in a tree holds a fraction. -/
def Whole (tree : Tree) : Prop := ∀ part ∈ tree.subtrees, ∀ field ∈ part.data, field.2.Whole

/-- Lists are equal if what is written of them is, and what is written tells the members. -/
theorem map_inj_of_mem {α β : Type} {write : α → β} {good : α → Prop}
    (told : ∀ {a b}, good a → good b → write a = write b → a = b) :
    ∀ {as bs : List α}, (∀ a ∈ as, good a) → (∀ b ∈ bs, good b) → as.map write = bs.map write → as = bs
  | [], [], _, _, _ => rfl
  | [], _ :: _, _, _, same => nomatch same
  | _ :: _, [], _, _, same => nomatch same
  | a :: as, b :: bs, goodA, goodB, same => by
      rw [List.forall_mem_cons] at goodA goodB
      rw [List.map_cons, List.map_cons, List.cons.injEq] at same
      rw [told goodA.1 goodB.1 same.1, map_inj_of_mem told goodA.2 goodB.2 same.2]

/-- Trees over the standard types that hold no fractions are equal if their outlines have the same
lines. -/
theorem outlineLines_inj {a b : Tree} (knownA : a.Known .standard) (knownB : b.Known .standard)
    (wholeA : a.Whole) (wholeB : b.Whole) (same : a.outlineLines 0 = b.outlineLines 0) : a = b := by
  have good : ∀ {tree : Tree}, tree.Known .standard → tree.Whole → ∀ line ∈ tree.lines 0,
      Model.standard.resolve line.type.name = .ok line.type ∧ ∀ field ∈ line.data, field.2.Whole := by
    intro tree known whole line member
    rcases mem_lines member with ⟨part, inside, type, data⟩
    exact ⟨type ▸ known part inside, data ▸ whole part inside⟩
  rw [outlineLines_eq, outlineLines_eq] at same
  have equal : a.lines 0 = b.lines 0 :=
    map_inj_of_mem (fun goodA goodB => Line.write_inj goodA.1 goodB.1 goodA.2 goodB.2)
      (good knownA wholeA) (good knownB wholeB) same
  exact (lines_inj (within_nil 0) (within_nil 0) (congrArg (· ++ []) equal)).1

end Tree
end Prose
