import Prose.Proofs.English.Peg
import Prose.Proofs.English.Runs

namespace Prose
namespace English
namespace Grammar

open Peg Token

/-!
# The grammar of tokens

The tokens of prose are given by a grammar.  It takes a symbol for each character that no other token
starts with, so it accepts every text.  Symbols that stand next to each other are put together again and
cut into clusters.  What comes out are the tokens that `Token.scan` finds from run to run.
-/

/-! ## Rules -/

def wordStart : Peg Kind :=
  .choice (.char Text.Property.isAlphabetic) (.char Text.Property.isNumber)

/-- What a word goes on with. -/
def wordChar : Peg Kind :=
  .choice (.choice (.char Text.Property.isAlphabetic) (.char Text.Property.isNumber))
    (.char Text.Property.isMark)

/-- What joins two parts of a word. -/
def joiner : Peg Kind := .choice (.char fun c => c = '\'') (.char fun c => c = '\u2019')

/-- A joiner and the part of a word behind it. -/
def joined : Peg Kind := .seq joiner (.plus wordChar)

def word : Peg Kind := .token .word (.seq wordStart (.seq (.star wordChar) (.star joined)))

def whiteSpace : Peg Kind := .token .whiteSpace (.plus (.char Text.Property.isWhiteSpace))

def punctuation : Peg Kind := .token .punctuation (.char Text.Property.isPunctuation)

def symbol : Peg Kind := .token .symbol (.char fun _ => true)

def token : Peg Kind := .choice word (.choice whiteSpace (.choice punctuation symbol))

def tokens : Peg Kind := .seq (.star token) .finish

/-! ## Symbols -/

/-- The tokens of a run of symbols that has been put together. -/
def flush (symbols : List Char) : List Token := ofRun (.symbol, symbols)

/-- The tokens that the grammar gives, after some symbols that have been put together. -/
def regroup (symbols : List Char) : List (Kind × List Char) → List Token
  | [] => flush symbols
  | (.symbol, chars) :: rest => regroup (symbols ++ chars) rest
  | (kind, chars) :: rest => flush symbols ++ ⟨kind, String.ofList chars⟩ :: regroup [] rest

/-- What the grammar makes of a run: one token, but for symbols one for each character. -/
def pieces (run : Kind × List Char) : List (Kind × List Char) :=
  match run.1 with
  | .symbol => run.2.map fun c => (.symbol, [c])
  | kind => [(kind, run.2)]

/-! ## What the rules take -/

theorem reads_wordStart : Reads wordStart startsWord := (reads_char _).choice (reads_char _)

theorem reads_wordChar : Reads wordChar continuesWord :=
  ((reads_char _).choice (reads_char _)).choice (reads_char _)

theorem reads_joiner : Reads joiner isApostrophe := (reads_char _).choice (reads_char _)

theorem reads_whiteSpace :
    Reads (.char Text.Property.isWhiteSpace : Peg Kind) Text.Property.isWhiteSpace := reads_char _

theorem parses_joined (text : List Char) :
    Parses (.star joined) (text.dropWhile continuesWord) (some ([], (extent .word text).2)) := by
  induction text with
  | nil => exact .star_stop (.seq_first reads_joiner.empty)
  | cons c rest inductionHypothesis =>
      cases goesOn : continuesWord c with
      | true =>
          have continues : continues .word c rest = true := by simp [Token.continues, goesOn]
          rw [List.dropWhile_cons_of_pos goesOn, extent_of_continues continues]
          exact inductionHypothesis
      | false =>
          rw [List.dropWhile_cons_of_neg (by simp [goesOn])]
          cases joins : isApostrophe c with
          | false =>
              have stops : continues .word c rest = false := by
                simp [Token.continues, goesOn, joins]
              rw [extent_of_stops stops]
              exact .star_stop (.seq_first (reads_joiner.refuse c rest joins))
          | true =>
              cases rest with
              | nil =>
                  have stops : continues .word c [] = false := by simp [Token.continues, goesOn]
                  rw [extent_of_stops stops]
                  exact .star_stop (.seq_second (reads_joiner.read c [] joins)
                    (reads_wordChar.plus_refused rfl))
              | cons d further =>
                  cases part : continuesWord d with
                  | false =>
                      have stops : continues .word c (d :: further) = false := by
                        simp [Token.continues, goesOn, part]
                      rw [extent_of_stops stops]
                      exact .star_stop (.seq_second (reads_joiner.read c (d :: further) joins)
                        (reads_wordChar.plus_refused (by simp [part])))
                  | true =>
                      have continues : continues .word c (d :: further) = true := by
                        simp [Token.continues, joins, part]
                      rw [extent_of_continues continues]
                      exact .star (.seq (reads_joiner.read c (d :: further) joins)
                        (reads_wordChar.plus part further)) inductionHypothesis

/-- A word takes a run of a word. -/
theorem parses_word {c : Char} (starts : startsWord c = true) (rest : List Char) :
    Parses word (c :: rest)
      (some ([(.word, c :: (extent .word rest).1)], (extent .word rest).2)) := by
  refine .token (.seq (reads_wordStart.read c rest starts)
    (.seq (reads_wordChar.star rest) (parses_joined rest))) ?_
  rw [List.cons_append, extent_append]

theorem extent_whiteSpace (text : List Char) :
    (extent .whiteSpace text).2 = text.dropWhile Text.Property.isWhiteSpace := by
  induction text with
  | nil => rfl
  | cons c rest inductionHypothesis =>
      cases blank : Text.Property.isWhiteSpace c with
      | true =>
          have continues : continues .whiteSpace c rest = true := blank
          rw [extent_of_continues continues, inductionHypothesis, List.dropWhile_cons_of_pos blank]
      | false =>
          have stops : continues .whiteSpace c rest = false := blank
          rw [extent_of_stops stops, List.dropWhile_cons_of_neg (by simp [blank])]

/-- White space takes a run of white space. -/
theorem parses_whiteSpace {c : Char} (blank : Text.Property.isWhiteSpace c = true)
    (rest : List Char) :
    Parses whiteSpace (c :: rest)
      (some ([(.whiteSpace, c :: (extent .whiteSpace rest).1)], (extent .whiteSpace rest).2)) := by
  have taken := reads_whiteSpace.plus blank rest
  rw [List.dropWhile_cons_of_pos blank, ← extent_whiteSpace] at taken
  exact .token taken (by rw [List.cons_append, extent_append])

/-! ## Texts -/

/-- What a token takes is the run of its kind, but only one character if that is a symbol. -/
theorem parses_token (c : Char) (rest : List Char) :
    (kindOf c = .symbol ∧ Parses token (c :: rest) (some ([(.symbol, [c])], rest))) ∨
      (kindOf c ≠ .symbol ∧ Parses token (c :: rest)
        (some ([(kindOf c, c :: (extent (kindOf c) rest).1)], (extent (kindOf c) rest).2))) := by
  cases starts : startsWord c with
  | true =>
      have kind : kindOf c = .word := by simp [kindOf, starts]
      rw [kind]
      exact Or.inr ⟨by simp, .choice_first (parses_word starts rest)⟩
  | false =>
      have noWord : Parses word (c :: rest) none :=
        .token_refused (.seq_first (reads_wordStart.refuse c rest starts))
      cases blank : Text.Property.isWhiteSpace c with
      | true =>
          have kind : kindOf c = .whiteSpace := by simp [kindOf, starts, blank]
          rw [kind]
          exact Or.inr ⟨by simp,
            .choice_second noWord (.choice_first (parses_whiteSpace blank rest))⟩
      | false =>
          have noWhiteSpace : Parses whiteSpace (c :: rest) none :=
            .token_refused (reads_whiteSpace.plus_refused (by simp [blank]))
          cases mark : Text.Property.isPunctuation c with
          | true =>
              have kind : kindOf c = .punctuation := by simp [kindOf, starts, blank, mark]
              have alone : extent .punctuation rest = ([], rest) := by
                cases rest with
                | nil => rfl
                | cons d further => exact extent_of_stops rfl
              rw [kind, alone]
              exact Or.inr ⟨by simp, .choice_second noWord (.choice_second noWhiteSpace
                (.choice_first (.token (.char mark) rfl)))⟩
          | false =>
              have kind : kindOf c = .symbol := by simp [kindOf, starts, blank, mark]
              exact Or.inl ⟨kind, .choice_second noWord (.choice_second noWhiteSpace
                (.choice_second (.token_refused (.char_refused mark)) (.token (.char rfl) rfl)))⟩

/-- There is no token at the end of a text. -/
theorem parses_token_nil : Parses token [] none :=
  .choice_second (.token_refused (.seq_first reads_wordStart.empty))
    (.choice_second (.token_refused (reads_whiteSpace.plus_refused rfl))
      (.choice_second (.token_refused .char_end) (.token_refused .char_end)))

/-- A symbol in front of a text is a piece of its own. -/
theorem pieces_of_symbol {c : Char} (kind : kindOf c = .symbol) (rest : List Char) :
    (runs (c :: rest)).flatMap pieces = (.symbol, [c]) :: (runs rest).flatMap pieces := by
  rw [runs_cons, kind]
  cases rest with
  | nil => rfl
  | cons d further =>
      by_cases same : kindOf d = .symbol
      · have goesOn : continues .symbol d further = true := decide_eq_true same
        rw [extent_of_continues goesOn, runs_cons, same]
        rfl
      · have stops : continues .symbol d further = false := decide_eq_false same
        rw [extent_of_stops stops]
        rfl

/-- The tokens of a text are the pieces of its runs, and there is no rest. -/
theorem parses_tokens (text : List Char) :
    Parses (.star token) text (some ((runs text).flatMap pieces, [])) :=
  match text with
  | [] => .star_stop parses_token_nil
  | c :: rest => by
      rcases parses_token c rest with ⟨kind, parses⟩ | ⟨kind, parses⟩
      · rw [pieces_of_symbol kind]
        exact .star parses (parses_tokens rest)
      · rw [runs_cons, List.flatMap_cons]
        have alone : pieces (kindOf c, c :: (extent (kindOf c) rest).1) =
            [(kindOf c, c :: (extent (kindOf c) rest).1)] := by
          cases other : kindOf c with
          | symbol => exact absurd other kind
          | word => rfl
          | whiteSpace => rfl
          | punctuation => rfl
        rw [alone]
        exact .star parses (parses_tokens (extent (kindOf c) rest).2)
termination_by text.length
decreasing_by
  · exact Nat.lt_succ_self _
  · exact Nat.lt_succ_of_le (length_extent_le _ _)

/-! ## Putting symbols together -/

theorem regroup_symbols (symbols chars : List Char) (more : List (Kind × List Char)) :
    regroup symbols ((chars.map fun c => (.symbol, [c])) ++ more) =
      regroup (symbols ++ chars) more := by
  induction chars generalizing symbols with
  | nil => rw [List.append_nil]; rfl
  | cons c rest inductionHypothesis =>
      rw [List.map_cons, List.cons_append, regroup, inductionHypothesis, List.append_assoc]
      rfl

/-- Symbols are put together up to the next piece that is none. -/
theorem regroup_of_ne {more : List (Kind × List Char)}
    (other : ∀ chars rest, more ≠ (.symbol, chars) :: rest) (symbols : List Char) :
    regroup symbols more = flush symbols ++ regroup [] more := by
  cases more with
  | nil => exact (List.append_nil _).symm
  | cons piece rest =>
      rcases piece with ⟨kind, chars⟩
      cases kind with
      | symbol => exact absurd rfl (other chars rest)
      | word => rfl
      | whiteSpace => rfl
      | punctuation => rfl

/-- The piece behind a run of symbols is no symbol. -/
theorem pieces_extent_symbol (text : List Char) (chars : List Char)
    (rest : List (Kind × List Char)) :
    (runs (extent .symbol text).2).flatMap pieces ≠ (.symbol, chars) :: rest := by
  induction text with
  | nil => nofun
  | cons c further inductionHypothesis =>
      by_cases same : kindOf c = .symbol
      · have goesOn : continues .symbol c further = true := decide_eq_true same
        rw [extent_of_continues goesOn]
        exact inductionHypothesis
      · have stops : continues .symbol c further = false := decide_eq_false same
        rw [extent_of_stops stops, runs_cons, List.flatMap_cons]
        intro impossible
        cases kind : kindOf c with
        | symbol => exact same kind
        | word => rw [kind] at impossible; cases impossible
        | whiteSpace => rw [kind] at impossible; cases impossible
        | punctuation => rw [kind] at impossible; cases impossible

/-- The tokens that the grammar gives are those found from run to run. -/
theorem regroup_pieces (text : List Char) :
    regroup [] ((runs text).flatMap pieces) = (runs text).flatMap ofRun := by
  induction text using runs_induction with
  | nil => rfl
  | cons c rest inductionHypothesis =>
      rw [runs_cons, List.flatMap_cons, List.flatMap_cons, ← inductionHypothesis]
      cases kind : kindOf c with
      | symbol =>
          exact (regroup_symbols [] _ _).trans
            (regroup_of_ne (pieces_extent_symbol rest) (c :: (extent .symbol rest).1))
      | word => rfl
      | whiteSpace => rfl
      | punctuation => rfl

/-- The grammar accepts every text and no text fails; its tokens are those of `Token.scan`. -/
theorem accepts (text : String) :
    ∃ found, Parses tokens text.toList (some (found, [])) ∧
      ¬ Parses tokens text.toList none ∧ regroup [] found = scan text := by
  have parses : Parses tokens text.toList (some ((runs text.toList).flatMap pieces ++ [], [])) :=
    .seq (parses_tokens text.toList) .finish
  refine ⟨_, parses, fun fails => ?_, ?_⟩
  · cases parses.unique fails
  · rw [List.append_nil]
    exact regroup_pieces text.toList

end Grammar
end English
end Prose
