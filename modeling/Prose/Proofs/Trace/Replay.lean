import Prose.Proofs.Trace.Lines

namespace Prose

/-!
# Replaying a trace

Of all outlines but the first a trace shows only what has changed.  That is enough to get every outline
back: what is behind a blank or a minus sign is the outline before, line by line, and what is behind a
blank or a plus sign is the outline after.  No line of a changed outline can be mistaken for the note
that nothing has changed, and no step for a part of another one.
-/

namespace Change

def sign : Change → Char
  | .same _ => ' '
  | .removed _ => '-'
  | .added _ => '+'

def lines : Change → List String
  | .same lines => lines
  | .removed lines => lines
  | .added lines => lines

theorem before_eq (change : Change) :
    change.before = if change.sign ∈ [' ', '-'] then change.lines else [] := by
  cases change <;> rfl

theorem after_eq (change : Change) :
    change.after = if change.sign ∈ [' ', '+'] then change.lines else [] := by
  cases change <;> rfl

/-- Every line of a change is in one of the texts. -/
theorem mem_lines {change : Change} {line : String} (member : line ∈ change.lines) :
    line ∈ change.before ∨ line ∈ change.after := by
  cases change with
  | same lines => exact .inl member
  | removed lines => exact .inl member
  | added lines => exact .inr member

end Change

namespace Trace

/-! ## Signs -/

def signed (sign : Char) (line : String) : String := String.singleton sign ++ line

def unsigned (line : String) : String := String.ofList (line.toList.drop 1)

/-- The lines that stand behind one of some signs. -/
def kept (signs : List Char) (lines : List String) : List String :=
  (lines.filter fun line => line.toList.head?.any (· ∈ signs)).map unsigned

theorem toList_signed (sign : Char) (line : String) :
    (signed sign line).toList = sign :: line.toList := by
  rw [signed, String.toList_append, String.toList_singleton, List.singleton_append]

@[simp] theorem unsigned_signed (sign : Char) (line : String) : unsigned (signed sign line) = line := by
  rw [unsigned, toList_signed, List.drop_one, List.tail_cons, String.ofList_toList]

@[simp] theorem kept_nil (signs : List Char) : kept signs [] = [] := rfl

@[simp] theorem kept_append (signs : List Char) (lines more : List String) :
    kept signs (lines ++ more) = kept signs lines ++ kept signs more := by
  rw [kept, List.filter_append, List.map_append, kept, kept]

theorem kept_signed (signs : List Char) (sign : Char) (lines : List String) :
    kept signs (lines.map (signed sign)) = if sign ∈ signs then lines else [] := by
  have head : ∀ line, (signed sign line).toList.head?.any (· ∈ signs) = decide (sign ∈ signs) := by
    intro line
    rw [toList_signed, List.head?_cons, Option.any_some]
  induction lines with
  | nil => simp
  | cons line rest inductionHypothesis =>
      rw [kept] at inductionHypothesis ⊢
      rw [List.map_cons, List.filter_cons, head]
      split
      · rename_i shows
        rw [if_pos (of_decide_eq_true shows)] at inductionHypothesis ⊢
        rw [List.map_cons, unsigned_signed, inductionHypothesis]
      · rename_i hidden
        rw [if_neg (by simpa using hidden)] at inductionHypothesis ⊢
        exact inductionHypothesis

/-! ## Changes -/

theorem write_eq {change : Change} (solid : ∀ line ∈ change.lines, Solid line) :
    change.write = change.lines.map (signed change.sign) := by
  have shown := shown_of_solid solid
  cases change with
  | same lines => exact congrArg (List.map (" " ++ ·)) shown
  | removed lines => exact congrArg (List.map ("-" ++ ·)) shown
  | added lines => exact congrArg (List.map ("+" ++ ·)) shown

/-- What some signs keep of changes. -/
theorem kept_write (signs : List Char) {changes : List Change}
    (solid : ∀ change ∈ changes, ∀ line ∈ change.lines, Solid line) :
    kept signs (changes.flatMap Change.write) =
      changes.flatMap fun change => if change.sign ∈ signs then change.lines else [] := by
  induction changes with
  | nil => rfl
  | cons change rest inductionHypothesis =>
      rw [List.forall_mem_cons] at solid
      rw [List.flatMap_cons, List.flatMap_cons, kept_append, inductionHypothesis solid.2,
        write_eq solid.1, kept_signed]

theorem filled_signed {sign : Char} (visible : sign ≠ '\n') {line : String}
    (closed : '\n' ∉ line.toList) : Filled (signed sign line) := by
  constructor
  · intro empty
    have chars := congrArg String.toList empty
    rw [toList_signed] at chars
    cases chars
  · rw [toList_signed]
    exact List.not_mem_cons_of_ne_of_not_mem visible.symm closed

section

variable {old new : List String} (nonempty : old ≠ []) (nonempty' : new ≠ [])
  (solid : ∀ line ∈ old, Solid line) (solid' : ∀ line ∈ new, Solid line)

include nonempty nonempty' solid solid'

/-- The changes between texts of solid lines. -/
theorem changes_spec :
    let changes := Change.between (trimEnd (unlines old)) (trimEnd (unlines new))
    changes.flatMap Change.before = old ∧ changes.flatMap Change.after = new ∧
      ∀ change ∈ changes, ∀ line ∈ change.lines, Solid line := by
  intro changes
  have both := Change.flatMap_between (trimEnd (unlines old)) (trimEnd (unlines new))
  have before : changes.flatMap Change.before = old := both.1.trans (split_trimEnd nonempty solid)
  have after : changes.flatMap Change.after = new := both.2.trans (split_trimEnd nonempty' solid')
  refine ⟨before, after, ?_⟩
  intro change member line inside
  rcases Change.mem_lines inside with first | second
  · exact solid line (before ▸ List.mem_flatMap.mpr ⟨change, member, first⟩)
  · exact solid' line (after ▸ List.mem_flatMap.mpr ⟨change, member, second⟩)

/-- The lines of a diff can be told from its text. -/
theorem exists_diff :
    let changes := Change.between (trimEnd (unlines old)) (trimEnd (unlines new))
    (∀ line ∈ changes.flatMap Change.write, Filled line) ∧
      kept [' ', '-'] (changes.flatMap Change.write) = old ∧
      kept [' ', '+'] (changes.flatMap Change.write) = new := by
  intro changes
  rcases changes_spec nonempty nonempty' solid solid' with ⟨before, after, all⟩
  refine ⟨?_, ?_, ?_⟩
  · intro line member
    rcases List.mem_flatMap.mp member with ⟨change, inside, written⟩
    rw [write_eq (all change inside)] at written
    rcases List.mem_map.mp written with ⟨text, there, rfl⟩
    have visible : change.sign ≠ '\n' := by cases change <;> simp [Change.sign]
    exact filled_signed visible (all change inside text there).1
  · rw [kept_write _ all, ← funext Change.before_eq]
    exact before
  · rw [kept_write _ all, ← funext Change.after_eq]
    exact after

end

/-! ## Steps -/

/-- What is shown where nothing has changed. -/
def unchanged : String := " (unchanged)\n"

/-- What a step shows of an outline with some lines, after one with others. -/
inductive Shows (before after : List String) (printed : String) : Prop where
  | unchanged (same : after = before) (text : printed = Trace.unchanged)
  | changed (different : after ≠ before) (text : printed ≠ Trace.unchanged)
      (old : kept [' ', '-'] (linesOf printed) = before)
      (new : kept [' ', '+'] (linesOf printed) = after)

/-- The outline after a step, from the one before it and what the step shows. -/
def rebuild (before printed : String) : String :=
  if printed = unchanged then before else unlines (kept [' ', '+'] (linesOf printed))

theorem rebuild_of_shows {before after : List String} {printed : String}
    (shows : Shows before after printed) : rebuild (unlines before) printed = unlines after := by
  cases shows with
  | unchanged same text => rw [rebuild, if_pos text, same]
  | changed different text old new => rw [rebuild, if_neg text, new]

section

variable {old new : List String} (nonempty : old ≠ []) (nonempty' : new ≠ [])
  (solid : ∀ line ∈ old, Solid line) (solid' : ∀ line ∈ new, Solid line) (label : String)

include nonempty nonempty' solid solid'

/-- What a step shows behind another one. -/
theorem shows_body :
    Shows old new (body (some (trimEnd (unlines old))) ⟨label, unlines new⟩) := by
  rw [body]
  split
  · rename_i same
    have equal : old = new := (split_trimEnd nonempty solid).symm.trans
      ((congrArg Change.split same).trans (split_trimEnd nonempty' solid'))
    exact .unchanged equal.symm rfl
  · rename_i different
    rcases exists_diff nonempty nonempty' solid solid' with ⟨filled, before, after⟩
    have lines := linesOf_unlines fun line member => (filled line member).2
    rw [← lines] at before after
    have apart : new ≠ old := fun same => different (same ▸ rfl)
    refine .changed apart (fun text => ?_) before after
    -- Were the note a diff, it would be one common line, and nothing would have changed.
    replace text : unlines _ = unchanged := text
    rw [text] at before after
    have note : kept [' ', '-'] (linesOf unchanged) = kept [' ', '+'] (linesOf unchanged) := by decide
    exact apart (after.symm.trans (note.symm.trans before))

/-- What a step shows consists of filled lines. -/
theorem exists_body :
    ∃ lines, (∀ line ∈ lines, Filled line) ∧
      body (some (trimEnd (unlines old))) ⟨label, unlines new⟩ = unlines lines := by
  rw [body]
  split
  · refine ⟨[" (unchanged)"], fun line member => ?_, rfl⟩
    rw [List.mem_singleton.mp member]
    exact ⟨by decide, by decide⟩
  · exact ⟨_, (exists_diff nonempty nonempty' solid solid').1, rfl⟩

end

/-! ## Traces -/

def bodies : Option String → List Step → List String
  | _, [] => []
  | before, step :: rest => body before step :: bodies (some (trimEnd step.outline)) rest

/-- Texts below the headings of their steps. -/
def framed (number : Nat) : List (String × String) → String
  | [] => ""
  | (label, printed) :: rest =>
    "--- Step " ++ toString number ++ ": " ++ label ++ " ---\n" ++ printed ++ "\n" ++
      framed (number + 1) rest

/-- The outlines after a first one, from what the steps show. -/
def replayFrom (before : String) : List String → List String
  | [] => []
  | printed :: rest => rebuild before printed :: replayFrom (rebuild before printed) rest

def replay : List String → List String
  | [] => []
  | first :: rest => first :: replayFrom first rest

/-- The outlines of steps belong to trees over the standard types. -/
def Outlined (steps : List Step) : Prop :=
  ∀ step ∈ steps, ∃ tree : Tree, tree.Known .standard ∧ step.outline = tree.outline

/-- Headings can be told from the rest of a trace: the labels are the same, or each is on one line. -/
def Headed (steps others : List Step) : Prop :=
  steps.map Step.label = others.map Step.label ∨
    ∀ step ∈ steps ++ others, '\n' ∉ step.label.toList

theorem write_cons (number : Nat) (before : Option String) (step : Step) (rest : List Step) :
    write number before (step :: rest) =
      "--- Step " ++ toString number ++ ": " ++ step.label ++ " ---\n" ++ body before step ++ "\n" ++
        write (number + 1) (some (trimEnd step.outline)) rest := rfl

theorem framed_cons (number : Nat) (label printed : String) (rest : List (String × String)) :
    framed number ((label, printed) :: rest) =
      "--- Step " ++ toString number ++ ": " ++ label ++ " ---\n" ++ printed ++ "\n" ++
        framed (number + 1) rest := rfl

theorem write_eq_framed (number : Nat) (before : Option String) (steps : List Step) :
    write number before steps = framed number ((steps.map Step.label).zip (bodies before steps)) := by
  induction steps generalizing number before with
  | nil => rfl
  | cons step rest inductionHypothesis =>
      rw [write_cons, inductionHypothesis, bodies, List.map_cons, List.zip_cons_cons, framed_cons]

theorem getElem?_bodies {steps : List Step} {i : Nat} {before after : Step} (start : Option String)
    (first : steps[i]? = some before) (second : steps[i + 1]? = some after) :
    (bodies start steps)[i + 1]? = some (body (some (trimEnd before.outline)) after) := by
  induction steps generalizing i start with
  | nil => cases first
  | cons step rest inductionHypothesis =>
      rw [bodies, List.getElem?_cons_succ]
      cases i with
      | succ i => exact inductionHypothesis _ first second
      | zero =>
          cases first
          cases rest with
          | nil => cases second
          | cons next rest =>
              cases second
              rfl

variable {steps others : List Step} {step : Step}

/-- An outline of a tree over the standard types has solid lines. -/
theorem Outlined.exists_lines (made : Outlined steps) (member : step ∈ steps) :
    ∃ lines, lines ≠ [] ∧ (∀ line ∈ lines, Solid line) ∧ step.outline = unlines lines := by
  rcases made step member with ⟨tree, known, same⟩
  exact ⟨_, outlineLines_ne_nil tree, solid_outlineLines known, same⟩

theorem shows_step (made : Outlined steps) {before after : Step} (first : before ∈ steps)
    (second : after ∈ steps) :
    Shows (linesOf before.outline) (linesOf after.outline)
        (body (some (trimEnd before.outline)) after) ∧
      rebuild before.outline (body (some (trimEnd before.outline)) after) = after.outline := by
  rcases made.exists_lines first with ⟨old, nonempty, solid, spelled⟩
  rcases made.exists_lines second with ⟨new, nonempty', solid', spelled'⟩
  have shows := shows_body nonempty nonempty' solid solid' after.label
  have rebuilt := rebuild_of_shows shows
  rw [← spelled, ← spelled'] at shows rebuilt
  refine ⟨?_, rebuilt⟩
  rw [spelled, spelled', linesOf_unlines fun line member => (solid line member).1,
    linesOf_unlines fun line member => (solid' line member).1, ← spelled]
  exact shows

/-- Behind an outline, what steps show gives the outlines of the steps. -/
theorem replayFrom_bodies (made : Outlined (step :: steps)) :
    replayFrom step.outline (bodies (some (trimEnd step.outline)) steps) = steps.map Step.outline := by
  induction steps generalizing step with
  | nil => rfl
  | cons next rest inductionHypothesis =>
      have rebuilt := (shows_step made List.mem_cons_self (List.mem_cons_of_mem _ List.mem_cons_self)).2
      have further := inductionHypothesis fun step member => made step (List.mem_cons_of_mem _ member)
      rw [bodies, replayFrom, rebuilt, further, List.map_cons]

theorem replay_bodies (made : Outlined steps) : replay (bodies none steps) = steps.map Step.outline := by
  cases steps with
  | nil => rfl
  | cons step rest =>
      rw [bodies, body, replay, replayFrom_bodies made, List.map_cons]

/-! ## The whole text -/

/-- A label is found in its heading, if it is known or on one line. -/
theorem heading_inj {label other s t : String}
    (headed : label = other ∨ '\n' ∉ label.toList ∧ '\n' ∉ other.toList)
    (same : label ++ (" ---\n" ++ s) = other ++ (" ---\n" ++ t)) : label = other ∧ s = t := by
  rcases headed with rfl | ⟨closed, closed'⟩
  · exact ⟨rfl, (String.append_right_inj _).mp ((String.append_right_inj _).mp same)⟩
  · have ends : " ---\n" = " ---" ++ "\n" := by decide
    have mark : '\n' ∉ " ---".toList := by decide
    have whole : ∀ {label : String}, '\n' ∉ label.toList → '\n' ∉ (label ++ " ---").toList := by
      intro label closed
      rw [String.toList_append, List.mem_append, not_or]
      exact ⟨closed, mark⟩
    have regroup : ∀ label rest : String,
        label ++ (" ---\n" ++ rest) = (label ++ " ---") ++ ("\n" ++ rest) := by
      intro label rest
      rw [ends, String.append_assoc, String.append_assoc]
    rw [regroup, regroup] at same
    rcases cut_line (whole closed) (whole closed') same with ⟨heading, rest⟩
    exact ⟨(String.append_left_inj _).mp heading, rest⟩

/-- What a step is compared with is the outline before it without its last line feed. -/
def Past (before : Option String) : Prop :=
  ∀ text ∈ before, ∃ lines, lines ≠ [] ∧ (∀ line ∈ lines, Solid line) ∧ text = trimEnd (unlines lines)

theorem past_none : Past none := fun _ member => nomatch member

theorem Past.exists_body {before : Option String} (past : Past before) (made : Outlined (step :: steps)) :
    ∃ lines, (∀ line ∈ lines, Filled line) ∧ body before step = unlines lines := by
  rcases made.exists_lines List.mem_cons_self with ⟨new, nonempty', solid', spelled'⟩
  cases before with
  | none => exact ⟨new, fun line member => (solid' line member).filled, spelled'⟩
  | some text =>
      rcases past text rfl with ⟨old, nonempty, solid, rfl⟩
      have shows := Trace.exists_body nonempty nonempty' solid solid' step.label
      rw [← spelled'] at shows
      exact shows

theorem Outlined.past (made : Outlined (step :: steps)) : Past (some (trimEnd step.outline)) := by
  rintro text ⟨⟩
  rcases made.exists_lines List.mem_cons_self with ⟨lines, nonempty, solid, spelled⟩
  exact ⟨lines, nonempty, solid, by rw [spelled]⟩

theorem Headed.cons {other : Step} (headed : Headed (step :: steps) (other :: others)) :
    (step.label = other.label ∨ '\n' ∉ step.label.toList ∧ '\n' ∉ other.label.toList) ∧
      Headed steps others := by
  rcases headed with labels | closed
  · rw [List.map_cons, List.map_cons, List.cons.injEq] at labels
    exact ⟨.inl labels.1, .inl labels.2⟩
  · refine ⟨.inr ⟨closed step (by simp), closed other (by simp)⟩, .inr fun step member => ?_⟩
    refine closed step ?_
    rcases List.mem_append.mp member with first | second
    · exact List.mem_append_left _ (List.mem_cons_of_mem _ first)
    · exact List.mem_append_right _ (List.mem_cons_of_mem _ second)

/-- The labels and what is shown below them are known from the text of the steps. -/
theorem write_inj {number : Nat} {before before' : Option String} (past : Past before)
    (past' : Past before') (made : Outlined steps) (made' : Outlined others)
    (headed : Headed steps others) (same : write number before steps = write number before' others) :
    steps.map Step.label = others.map Step.label ∧ bodies before steps = bodies before' others := by
  have opens : ∀ {number : Nat} {before : Option String} {step : Step} {steps : List Step},
      write number before (step :: steps) ≠ "" := by
    intro number before step steps empty
    rw [write_cons] at empty
    simp at empty
  induction steps generalizing number before before' others with
  | nil =>
      cases others with
      | nil => exact ⟨rfl, rfl⟩
      | cons other others => exact absurd same.symm opens
  | cons step steps inductionHypothesis =>
      cases others with
      | nil => exact absurd same opens
      | cons other others =>
          rw [write_cons, write_cons] at same
          simp only [String.append_assoc, String.append_right_inj] at same
          rcases heading_inj headed.cons.1 same with ⟨label, behind⟩
          rcases past.exists_body made with ⟨lines, filled, shown⟩
          rcases past'.exists_body made' with ⟨lines', filled', shown'⟩
          rw [shown, shown'] at behind
          rcases unlines_inj filled filled' behind with ⟨rfl, rest⟩
          rcases inductionHypothesis made.past made'.past
            (fun step member => made step (List.mem_cons_of_mem _ member))
            (fun step member => made' step (List.mem_cons_of_mem _ member)) headed.cons.2 rest with
            ⟨labels, texts⟩
          rw [List.map_cons, List.map_cons, bodies, bodies, label, labels, shown, shown', texts]
          exact ⟨rfl, rfl⟩

/-- Steps are known from their labels and outlines. -/
theorem steps_eq (labels : steps.map Step.label = others.map Step.label)
    (outlines : steps.map Step.outline = others.map Step.outline) : steps = others := by
  have parts : ∀ steps : List Step,
      ((steps.map Step.label).zip (steps.map Step.outline)).map (fun part => Step.mk part.1 part.2) =
        steps := by
    intro steps
    rw [List.zip_map', List.map_map]
    exact List.map_id _
  rw [← parts steps, ← parts others, labels, outlines]

/-- A trace can be replayed.  Each step behind the first shows the outline before it and its own, line by
line, or notes that both are the same; so what the steps show gives all outlines.  The whole text of a
trace tells what each step shows: no other trace has the same text, if the labels are known or each is
on one line. -/
theorem replay_trace {steps : List Step} (made : Outlined steps) :
    render steps = framed 0 ((steps.map Step.label).zip (bodies none steps)) ∧
    (∀ (i : Nat) (before after : Step), steps[i]? = some before → steps[i + 1]? = some after →
      ∃ printed, (bodies none steps)[i + 1]? = some printed ∧
        Shows (linesOf before.outline) (linesOf after.outline) printed ∧
        rebuild before.outline printed = after.outline) ∧
    replay (bodies none steps) = steps.map Step.outline ∧
    ∀ others, Outlined others → Headed steps others → render steps = render others →
      steps = others := by
  refine ⟨write_eq_framed 0 none steps, ?_, replay_bodies made, ?_⟩
  · intro i before after first second
    exact ⟨_, getElem?_bodies none first second,
      shows_step made (List.mem_of_getElem? first) (List.mem_of_getElem? second)⟩
  · intro others made' headed same
    rcases write_inj past_none past_none made made' headed same with ⟨labels, texts⟩
    refine steps_eq labels ?_
    rw [← replay_bodies made, ← replay_bodies made', texts]

/-- A word is put into an empty sentence, and the next plugin changes nothing. -/
theorem replay_trace_sentence :
    let bare : Tree := .branch ⟨Kind.sentence, .parent⟩ [] []
    let full : Tree := .branch ⟨Kind.sentence, .parent⟩ [] [.leaf ⟨Kind.word, .text⟩ [] "a\n"]
    let steps : List Step :=
      [⟨"parse", bare.outline⟩, ⟨"first", full.outline⟩, ⟨"second", full.outline⟩]
    Outlined steps ∧ replay (bodies none steps) =
      ["SentenceNode\n", "SentenceNode\n  WordNode \"a\\n\"\n", "SentenceNode\n  WordNode \"a\\n\"\n"] := by
  intro bare full steps
  have knownBare : bare.Known .standard := Tree.known_branch.mpr ⟨rfl, List.forall_mem_nil _⟩
  have knownFull : full.Known .standard := by
    refine Tree.known_branch.mpr ⟨rfl, fun tree member part inside => ?_⟩
    rw [List.mem_singleton.mp member, Tree.subtrees, List.mem_singleton] at inside
    rw [inside]
    rfl
  have made : Outlined steps := by
    intro step member
    simp only [steps, List.mem_cons, List.not_mem_nil, or_false] at member
    rcases member with rfl | rfl | rfl
    · exact ⟨bare, knownBare, rfl⟩
    · exact ⟨full, knownFull, rfl⟩
    · exact ⟨full, knownFull, rfl⟩
  have outlines : steps.map Step.outline = ["SentenceNode\n",
      "SentenceNode\n  WordNode \"a\\n\"\n", "SentenceNode\n  WordNode \"a\\n\"\n"] := by decide
  exact ⟨made, (replay_trace made).2.2.1.trans outlines⟩

end Trace
end Prose
