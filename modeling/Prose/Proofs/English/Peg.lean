namespace Prose

/-!
# Parsing expressions

Parsing expressions read a text from its front.  Each of them fails, or gives tokens and leaves the rest
of the text.  A choice takes its first expression if that does not fail, and a repetition goes on until
its body fails; neither is ever taken back.
-/

/-- A parsing expression whose tokens have names of type `ρ`. -/
inductive Peg (ρ : Type) where
  /-- A character of a class. -/
  | char (admits : Char → Bool)
  | seq (first second : Peg ρ)
  | choice (first second : Peg ρ)
  | star (body : Peg ρ)
  /-- The text that the body takes, as one token. -/
  | token (name : ρ) (body : Peg ρ)
  /-- The end of the text. -/
  | finish

namespace Peg

variable {ρ : Type}

/-- One or more times. -/
def plus (body : Peg ρ) : Peg ρ := .seq body (.star body)

/-- What an expression comes to on a text: nothing if it fails, and otherwise tokens and a rest. -/
inductive Parses : Peg ρ → List Char → Option (List (ρ × List Char) × List Char) → Prop where
  | char {admits : Char → Bool} {c : Char} {rest : List Char} (admitted : admits c = true) :
      Parses (.char admits) (c :: rest) (some ([], rest))
  | char_refused {admits : Char → Bool} {c : Char} {rest : List Char} (refused : admits c = false) :
      Parses (.char admits) (c :: rest) none
  | char_end {admits : Char → Bool} : Parses (.char admits) [] none
  | seq {first second : Peg ρ} {text middle rest : List Char} {tokens more : List (ρ × List Char)}
      (one : Parses first text (some (tokens, middle)))
      (two : Parses second middle (some (more, rest))) :
      Parses (.seq first second) text (some (tokens ++ more, rest))
  | seq_first {first second : Peg ρ} {text : List Char} (one : Parses first text none) :
      Parses (.seq first second) text none
  | seq_second {first second : Peg ρ} {text middle : List Char} {tokens : List (ρ × List Char)}
      (one : Parses first text (some (tokens, middle))) (two : Parses second middle none) :
      Parses (.seq first second) text none
  | choice_first {first second : Peg ρ} {text : List Char}
      {result : List (ρ × List Char) × List Char} (one : Parses first text (some result)) :
      Parses (.choice first second) text (some result)
  | choice_second {first second : Peg ρ} {text : List Char}
      {outcome : Option (List (ρ × List Char) × List Char)} (one : Parses first text none)
      (two : Parses second text outcome) : Parses (.choice first second) text outcome
  | star_stop {body : Peg ρ} {text : List Char} (stop : Parses body text none) :
      Parses (.star body) text (some ([], text))
  | star {body : Peg ρ} {text middle rest : List Char} {tokens more : List (ρ × List Char)}
      (one : Parses body text (some (tokens, middle)))
      (others : Parses (.star body) middle (some (more, rest))) :
      Parses (.star body) text (some (tokens ++ more, rest))
  | token {name : ρ} {body : Peg ρ} {text taken rest : List Char} {inner : List (ρ × List Char)}
      (one : Parses body text (some (inner, rest))) (split : text = taken ++ rest) :
      Parses (.token name body) text (some ([(name, taken)], rest))
  | token_refused {name : ρ} {body : Peg ρ} {text : List Char} (refused : Parses body text none) :
      Parses (.token name body) text none
  | finish : Parses .finish [] (some ([], []))
  | finish_refused {c : Char} {rest : List Char} : Parses .finish (c :: rest) none

/-- An expression comes to one outcome at most. -/
theorem Parses.unique {expression : Peg ρ} {text : List Char}
    {outcome other : Option (List (ρ × List Char) × List Char)}
    (parses : Parses expression text outcome) (parses' : Parses expression text other) :
    outcome = other := by
  induction parses generalizing other with
  | char admitted =>
      cases parses' with
      | char => rfl
      | char_refused refused => rw [admitted] at refused; cases refused
  | char_refused refused =>
      cases parses' with
      | char admitted => rw [admitted] at refused; cases refused
      | char_refused => rfl
  | char_end => cases parses'; rfl
  | seq _ _ one two =>
      cases parses' with
      | seq one' two' =>
          cases one one'
          cases two two'
          rfl
      | seq_first one' => cases one one'
      | seq_second one' two' =>
          cases one one'
          cases two two'
  | seq_first _ one =>
      cases parses' with
      | seq one' => cases one one'
      | seq_first => rfl
      | seq_second one' => cases one one'
  | seq_second _ _ one two =>
      cases parses' with
      | seq one' two' =>
          cases one one'
          cases two two'
      | seq_first => rfl
      | seq_second => rfl
  | choice_first _ one =>
      cases parses' with
      | choice_first one' => exact one one'
      | choice_second one' => cases one one'
  | choice_second _ _ one two =>
      cases parses' with
      | choice_first one' => cases one one'
      | choice_second _ two' => exact two two'
  | star_stop _ stop =>
      cases parses' with
      | star_stop => rfl
      | star one' => cases stop one'
  | star _ _ one others =>
      cases parses' with
      | star_stop stop' => cases one stop'
      | star one' others' =>
          cases one one'
          cases others others'
          rfl
  | token _ split one =>
      cases parses' with
      | token one' split' =>
          cases one one'
          rw [List.append_cancel_right (split.symm.trans split')]
      | token_refused refused' => cases one refused'
  | token_refused _ refused =>
      cases parses' with
      | token one' => cases refused one'
      | token_refused => rfl
  | finish => cases parses'; rfl
  | finish_refused => cases parses'; rfl

/-! ## Single characters -/

/-- An expression reads one character of a class, and fails if there is none. -/
structure Reads (expression : Peg ρ) (admits : Char → Bool) : Prop where
  read : ∀ c rest, admits c = true → Parses expression (c :: rest) (some ([], rest))
  refuse : ∀ c rest, admits c = false → Parses expression (c :: rest) none
  empty : Parses expression [] none

theorem reads_char (admits : Char → Bool) : Reads (.char admits : Peg ρ) admits where
  read := fun _ _ => .char
  refuse := fun _ _ => .char_refused
  empty := .char_end

/-- A choice between two classes reads a character of either. -/
theorem Reads.choice {first second : Peg ρ} {admits others : Char → Bool}
    (reads : Reads first admits) (reads' : Reads second others) :
    Reads (.choice first second) fun c => admits c || others c where
  read := by
    intro c rest either
    cases admitted : admits c with
    | true => exact .choice_first (reads.read c rest admitted)
    | false =>
        rw [admitted, Bool.false_or] at either
        exact .choice_second (reads.refuse c rest admitted) (reads'.read c rest either)
  refuse := by
    intro c rest neither
    rw [Bool.or_eq_false_iff] at neither
    exact .choice_second (reads.refuse c rest neither.1) (reads'.refuse c rest neither.2)
  empty := .choice_second reads.empty reads'.empty

/-- A repetition reads all characters of the class that stand in front. -/
theorem Reads.star {expression : Peg ρ} {admits : Char → Bool} (reads : Reads expression admits)
    (text : List Char) : Parses (.star expression) text (some ([], text.dropWhile admits)) := by
  induction text with
  | nil => exact .star_stop reads.empty
  | cons c rest inductionHypothesis =>
      cases admitted : admits c with
      | true =>
          rw [List.dropWhile_cons_of_pos admitted]
          exact .star (reads.read c rest admitted) inductionHypothesis
      | false =>
          rw [List.dropWhile_cons_of_neg (by simp [admitted])]
          exact .star_stop (reads.refuse c rest admitted)

/-- A repetition behind a character of the class goes on as if it stood in front of it. -/
theorem Reads.plus {expression : Peg ρ} {admits : Char → Bool} (reads : Reads expression admits)
    {c : Char} (admitted : admits c = true) (rest : List Char) :
    Parses (.plus expression) (c :: rest) (some ([], (c :: rest).dropWhile admits)) := by
  rw [List.dropWhile_cons_of_pos admitted]
  exact .seq (reads.read c rest admitted) (reads.star rest)

/-- One or more characters cannot be read if there is none of the class in front. -/
theorem Reads.plus_refused {expression : Peg ρ} {admits : Char → Bool}
    (reads : Reads expression admits) {text : List Char} (stop : text.head?.all (!admits ·)) :
    Parses (.plus expression) text none := by
  cases text with
  | nil => exact .seq_first reads.empty
  | cons c rest => exact .seq_first (reads.refuse c rest (by simpa using stop))

end Peg
end Prose
