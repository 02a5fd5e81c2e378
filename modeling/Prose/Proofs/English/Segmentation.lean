import Prose.Proofs.English.Stretches

namespace Prose
namespace English

/-!
# The one way to cut a text

`Segmentation` says what a list of tokens must be like to cut a text, in terms of the characters of each
token and of those next to it, and without any scanning.  The first character of a token tells its kind.
Words and white space are as long as they can be, punctuation is one character, and symbols next to each
other are the grapheme clusters of the text that they spell together.

This leaves it open which characters symbols are made of.  A cluster may begin with a symbol and go on
with a letter, a digit or a blank, so that the text has a second segmentation with that cluster in it.
If symbols hold nothing but characters that symbols start with, there is one segmentation of each text,
and the tokens of the text are it.
-/

namespace Token

open Text.Property (isAlphabetic isNumber isMark isWhiteSpace isPunctuation)

variable {kind : Kind} {c : Char} {chars behind : List Char} {text : String} {tokens : List Token}

/-! ## What tokens are made of -/

/-- Tokens of a kind start with a character. -/
def Opens (kind : Kind) (c : Char) : Prop :=
  match kind with
  | .word => isAlphabetic c = true ∨ isNumber c = true
  | .whiteSpace => ¬ (isAlphabetic c = true ∨ isNumber c = true) ∧ isWhiteSpace c = true
  | .punctuation =>
    ¬ (isAlphabetic c = true ∨ isNumber c = true) ∧ isWhiteSpace c = false ∧ isPunctuation c = true
  | .symbol =>
    ¬ (isAlphabetic c = true ∨ isNumber c = true) ∧ isWhiteSpace c = false ∧ isPunctuation c = false

/-- Words go on with a character, whatever follows it. -/
def Inner (c : Char) : Prop := isAlphabetic c = true ∨ isNumber c = true ∨ isMark c = true

/-- An apostrophe and some characters that words go on with. -/
def Joined (group : List Char) : Prop :=
  ∃ mark chars, group = mark :: chars ∧ (mark = '\'' ∨ mark = '\u2019') ∧ chars ≠ [] ∧
    ∀ c ∈ chars, Inner c

/-- Some characters are a word: one that words start with, those that they go on with, and any number of
groups that are joined to them. -/
def FormsWord (chars : List Char) : Prop :=
  ∃ (first : Char) (body : List Char) (groups : List (List Char)),
    chars = first :: (body ++ groups.flatten) ∧ Opens .word first ∧
      (∀ c ∈ body, Inner c) ∧ ∀ group ∈ groups, Joined group

/-- A word in front of some text does not go on with it. -/
def EndsWord (behind : List Char) : Prop :=
  ∀ c rest, behind = c :: rest → ¬ Inner c ∧
    ¬ ((c = '\'' ∨ c = '\u2019') ∧ ∃ next more, rest = next :: more ∧ Inner next)

/-- Some symbols are all those that stand next to each other at their place. -/
structure SymbolRun (before run after : List Token) : Prop where
  filled : run ≠ []
  symbols : ∀ token ∈ run, token.kind = .symbol
  last : ∀ token, before.getLast? = some token → token.kind ≠ .symbol
  next : ∀ token, after.head? = some token → token.kind ≠ .symbol

/-- Tokens cut a text. -/
structure Segmentation (text : String) (tokens : List Token) : Prop where
  spelled : spelled tokens = text.toList
  opens : ∀ token ∈ tokens, ∃ first rest, token.text.toList = first :: rest ∧ Opens token.kind first
  words : ∀ before token after, tokens = before ++ token :: after → token.kind = .word →
    FormsWord token.text.toList ∧ EndsWord (Token.spelled after)
  spaces : ∀ before token after, tokens = before ++ token :: after → token.kind = .whiteSpace →
    (∀ c ∈ token.text.toList, isWhiteSpace c = true) ∧
      (∀ c, (Token.spelled before).getLast? = some c → isWhiteSpace c = false) ∧
      ∀ c, (Token.spelled after).head? = some c → isWhiteSpace c = false
  marks : ∀ token ∈ tokens, token.kind = .punctuation → token.text.length = 1
  clusters : ∀ before run after, tokens = before ++ (run ++ after) → SymbolRun before run after →
    run.map (fun token => token.text.toList) = Text.Cluster.clusters (Token.spelled run)

/-- Tokens cut a text, and its symbols hold nothing but characters that symbols start with. -/
structure PureSegmentation (text : String) (tokens : List Token) : Prop
    extends Segmentation text tokens where
  pure : ∀ token ∈ tokens, token.kind = .symbol → ∀ c ∈ token.text.toList, Opens .symbol c

theorem opens_iff : Opens kind c ↔ kindOf c = kind := by
  have starts : startsWord c = true ↔ isAlphabetic c = true ∨ isNumber c = true :=
    Bool.or_eq_true_iff
  unfold Opens
  rw [← starts, kindOf]
  cases startsWord c <;> cases isWhiteSpace c <;> cases isPunctuation c <;> cases kind <;> decide

theorem inner_iff : Inner c ↔ continuesWord c = true := by
  rw [Inner, continuesWord, startsWord, Bool.or_eq_true, Bool.or_eq_true, or_assoc]

theorem apostrophe_iff : isApostrophe c = true ↔ c = '\'' ∨ c = '\u2019' := by
  rw [isApostrophe, Bool.or_eq_true, decide_eq_true_eq, decide_eq_true_eq]

/-! ## Runs that are made of given characters -/

/-- Characters that go on with a run whatever follows them are a part of it. -/
theorem extent_append_of_forall (goOn : ∀ c ∈ chars, ∀ rest, continues kind c rest = true)
    (behind : List Char) :
    extent kind (chars ++ behind) = (chars ++ (extent kind behind).1, (extent kind behind).2) := by
  induction chars with
  | nil => rfl
  | cons c rest inductionHypothesis =>
      rw [List.forall_mem_cons] at goOn
      rw [List.cons_append, extent_of_continues (goOn.1 _), inductionHypothesis goOn.2]
      rfl

/-- A text whose first character does not go on with a run is behind it. -/
theorem extent_of_end (ends : ∀ c rest, behind = c :: rest → continues kind c rest = false) :
    extent kind behind = ([], behind) := by
  cases behind with
  | nil => rfl
  | cons c rest => exact extent_of_stops (ends c rest rfl)

theorem extent_of_forall (goOn : ∀ c ∈ chars, ∀ rest, continues kind c rest = true)
    (ends : ∀ c rest, behind = c :: rest → continues kind c rest = false) :
    extent kind (chars ++ behind) = (chars, behind) := by
  rw [extent_append_of_forall goOn, extent_of_end ends, List.append_nil]

theorem continues_of_inner (inner : Inner c) (rest : List Char) : continues .word c rest = true :=
  Bool.or_eq_true_iff.mpr (.inl (inner_iff.mp inner))

/-- A word ends in front of a text exactly if the first character of the text does not go on with it. -/
theorem endsWord_iff :
    EndsWord behind ↔ ∀ c rest, behind = c :: rest → continues .word c rest = false := by
  have stops_iff : ∀ c rest, (¬ Inner c ∧
      ¬ ((c = '\'' ∨ c = '\u2019') ∧ ∃ next more, rest = next :: more ∧ Inner next)) ↔
        continues .word c rest = false := by
    intro c rest
    rw [← apostrophe_iff, inner_iff]
    cases rest with
    | nil => simp [continues]
    | cons next more =>
        have inner : (∃ d further, next :: more = d :: further ∧ Inner d) ↔
            continuesWord next = true := by
          rw [← inner_iff]
          constructor
          · rintro ⟨d, further, ⟨⟩, inner⟩
            exact inner
          · exact fun inner => ⟨next, more, rfl, inner⟩
        rw [inner]
        simp [continues]
  exact forall₃_congr fun c rest _ => stops_iff c rest

/-- The groups that are joined to a word are a part of it. -/
theorem extent_groups {groups : List (List Char)} (joined : ∀ group ∈ groups, Joined group)
    (ends : EndsWord behind) :
    extent .word (groups.flatten ++ behind) = (groups.flatten, behind) := by
  induction groups with
  | nil => exact extent_of_end (endsWord_iff.mp ends)
  | cons group rest inductionHypothesis =>
      rw [List.forall_mem_cons] at joined
      rcases joined.1 with ⟨mark, chars, rfl, apostrophe, some, inner⟩
      have goesOn : ∀ more, continues .word mark (chars ++ more) = true := by
        intro more
        cases chars with
        | nil => exact absurd rfl some
        | cons d chars =>
            refine Bool.or_eq_true_iff.mpr (.inr (Bool.and_eq_true_iff.mpr ⟨?_, ?_⟩))
            · exact apostrophe_iff.mpr apostrophe
            · exact inner_iff.mp (inner d List.mem_cons_self)
      rw [List.flatten_cons, List.cons_append, List.cons_append, List.append_assoc,
        extent_of_continues (goesOn _), extent_append_of_forall fun c inside =>
          continues_of_inner (inner c inside), inductionHypothesis joined.2]

/-- A word is a run, if the text behind it does not go on with it. -/
theorem extent_of_formsWord {first : Char} {rest : List Char} (word : FormsWord (first :: rest))
    (ends : EndsWord behind) : extent .word (rest ++ behind) = (rest, behind) := by
  rcases word with ⟨_, body, groups, same, _, inner, joined⟩
  rw [(List.cons.inj same).2, List.append_assoc, extent_append_of_forall fun c inside =>
    continues_of_inner (inner c inside), extent_groups joined ends]

/-! ## A segmentation is the tokens of its text -/

section

variable {before rest after run : List Token} {token : Token}

/-- The last tokens of a segmentation cut what they spell, unless they begin among symbols. -/
theorem PureSegmentation.suffix (cut : PureSegmentation text (before ++ rest))
    (seam : Seam before rest) : PureSegmentation (String.ofList (Token.spelled rest)) rest where
  spelled := String.toList_ofList.symm
  opens token member := cut.opens token (List.mem_append_right _ member)
  words front token after split := cut.words (before ++ front) token after (by rw [split]; simp)
  spaces front token after split blank := by
    rcases cut.spaces (before ++ front) token after (by rw [split]; simp) blank with
      ⟨all, last, next⟩
    refine ⟨all, fun c final => last c ?_, next⟩
    rw [spelled_append, List.getLast?_append, final]
    rfl
  marks token member := cut.marks token (List.mem_append_right _ member)
  clusters front run after split symbols := by
    refine cut.clusters (before ++ front) run after (by rw [split]; simp) ?_
    refine ⟨symbols.filled, symbols.symbols, fun last final => ?_, symbols.next⟩
    rcases List.eq_nil_or_concat front with rfl | ⟨initial, other, rfl⟩
    · rw [List.append_nil] at final
      rcases List.exists_cons_of_ne_nil symbols.filled with ⟨first, more, rfl⟩
      rcases seam last first final (by rw [split]; rfl) with left | right
      · exact left
      · exact absurd (symbols.symbols first List.mem_cons_self) right
    · rw [List.concat_eq_append, ← List.append_assoc, List.getLast?_concat] at final
      exact symbols.last last (by rw [List.concat_eq_append, List.getLast?_concat, final])
  pure token member := cut.pure token (List.mem_append_right _ member)

/-- A first token that is no symbol is the first run of the text. -/
theorem PureSegmentation.runs_of_other (cut : PureSegmentation text (token :: after))
    (other : token.kind ≠ .symbol) :
    runs (spelled (token :: after)) = (token.kind, token.text.toList) :: runs (spelled after) := by
  rcases cut.opens token List.mem_cons_self with ⟨first, rest, chars, opens⟩
  have kind : kindOf first = token.kind := opens_iff.mp opens
  have extent_eq : extent token.kind (rest ++ spelled after) = (rest, spelled after) := by
    cases same : token.kind with
    | symbol => exact absurd same other
    | word =>
        rcases cut.words [] token after rfl same with ⟨word, ends⟩
        rw [chars] at word
        exact extent_of_formsWord word ends
    | whiteSpace =>
        rcases cut.spaces [] token after rfl same with ⟨blank, _, next⟩
        refine extent_of_forall (fun c inside _ => blank c ?_) fun c more split => next c ?_
        · rw [chars]
          exact List.mem_cons_of_mem _ inside
        · rw [split]
          rfl
    | punctuation =>
        have one := cut.marks token List.mem_cons_self same
        rw [← String.length_toList, chars, List.length_cons, Nat.succ_inj,
          List.length_eq_zero_iff] at one
        rw [one]
        exact extent_of_end fun _ _ _ => rfl
  have whole : spelled (token :: after) = first :: (rest ++ spelled after) := by
    rw [spelled, List.flatMap_cons, chars]
    rfl
  rw [whole, runs_cons, kind, extent_eq, chars]

/-- The first symbols are the tokens of the first run of the text. -/
theorem PureSegmentation.runs_of_symbols (cut : PureSegmentation text (run ++ after))
    (symbols : SymbolRun [] run after) :
    runs (spelled (run ++ after)) = (.symbol, spelled run) :: runs (spelled after) ∧
      ofRun (.symbol, spelled run) = run := by
  have kinds : ∀ c ∈ spelled run, kindOf c = .symbol := by
    intro c inside
    rcases List.mem_flatMap.mp inside with ⟨token, member, here⟩
    exact opens_iff.mp
      (cut.pure token (List.mem_append_left _ member) (symbols.symbols token member) c here)
  have ends : ∀ c rest, spelled after = c :: rest → continues .symbol c rest = false := by
    intro c rest split
    cases after with
    | nil => cases split
    | cons next more =>
        rcases cut.opens next (List.mem_append_right _ List.mem_cons_self) with
          ⟨first, further, chars, opens⟩
        rw [spelled, List.flatMap_cons, chars] at split
        cases split
        refine decide_eq_false fun kind => symbols.next next rfl ?_
        rw [← opens_iff.mp opens, kind]
  constructor
  · rw [spelled_append]
    rcases List.exists_cons_of_ne_nil symbols.filled with ⟨token, more, rfl⟩
    rcases cut.opens token List.mem_cons_self with ⟨first, rest, chars, _⟩
    generalize shape : spelled (token :: more) = all at kinds
    have filled : all ≠ [] := by
      rw [← shape, spelled, List.flatMap_cons, chars]
      exact List.cons_ne_nil _ _
    rcases List.exists_cons_of_ne_nil filled with ⟨c, others, rfl⟩
    rw [List.forall_mem_cons] at kinds
    have goOn : ∀ d ∈ others, ∀ rest, continues .symbol d rest = true :=
      fun d inside _ => decide_eq_true (kinds.2 d inside)
    rw [List.cons_append, runs_cons, kinds.1, extent_of_forall goOn ends]
  · have texts := cut.clusters [] run after rfl symbols
    rw [ofRun, ← texts, List.map_map]
    refine (List.map_congr_left fun token member => ?_).trans (List.map_id run)
    rcases token with ⟨kind, chars⟩
    have kind_eq : kind = .symbol := symbols.symbols _ member
    simp [kind_eq]

/-- Tokens that begin with a symbol begin with all symbols that stand there next to each other. -/
theorem exists_symbolRun (symbol : token.kind = .symbol) (after : List Token) :
    ∃ run rest, token :: after = run ++ rest ∧ SymbolRun [] run rest ∧ rest.length ≤ after.length := by
  let isSymbol : Token → Bool := fun other => other.kind = .symbol
  have here : (token :: after).takeWhile isSymbol = token :: after.takeWhile isSymbol :=
    List.takeWhile_cons_of_pos (decide_eq_true symbol)
  have there : (token :: after).dropWhile isSymbol = after.dropWhile isSymbol :=
    List.dropWhile_cons_of_pos (decide_eq_true symbol)
  refine ⟨_, _, (List.takeWhile_append_dropWhile (p := isSymbol)).symm, ⟨?_, ?_, nofun, ?_⟩, ?_⟩
  · rw [here]
    exact List.cons_ne_nil _ _
  · intro other member
    have passed : isSymbol other = true := List.mem_takeWhile_imp member
    exact of_decide_eq_true passed
  · intro other found
    have stays := List.head?_dropWhile_not isSymbol (token :: after)
    rw [found] at stays
    exact of_decide_eq_false stays
  · rw [there]
    exact (List.dropWhile_sublist isSymbol).length_le

/-- A segmentation is found again from run to run. -/
theorem PureSegmentation.flatMap_runs {text : String} {tokens : List Token}
    (cut : PureSegmentation text tokens) : (runs (spelled tokens)).flatMap ofRun = tokens := by
  match tokens with
  | [] => rfl
  | token :: after =>
      by_cases symbol : token.kind = .symbol
      · -- The symbols in front are taken together, since their clusters are those of what they spell.
        rcases exists_symbolRun symbol after with ⟨run, rest, split, symbols, shorter⟩
        rw [split] at cut ⊢
        have further : (runs (spelled rest)).flatMap ofRun = rest :=
          (cut.suffix fun _ first _ start => .inr (symbols.next first start)).flatMap_runs
        rw [(cut.runs_of_symbols symbols).1, List.flatMap_cons, (cut.runs_of_symbols symbols).2,
          further]
      · have whole : PureSegmentation text ([token] ++ after) := cut
        have further : (runs (spelled after)).flatMap ofRun = after :=
          (whole.suffix fun last _ final _ => .inl (by cases final; exact symbol)).flatMap_runs
        rw [cut.runs_of_other symbol, List.flatMap_cons, ofRun_of_other symbol, String.ofList_toList,
          further]
        rfl
termination_by tokens.length
decreasing_by
  · exact Nat.lt_succ_of_le shorter
  · exact Nat.lt_succ_self _

end

/-! ## The tokens of a text are a segmentation -/

/-- What goes on with a word: characters of words, and groups that are joined to them. -/
theorem exists_groups (text : List Char) :
    ∃ (body : List Char) (groups : List (List Char)),
      (extent .word text).1 = body ++ groups.flatten ∧ (∀ c ∈ body, Inner c) ∧
        (∀ group ∈ groups, Joined group) ∧ ∀ c rest, text = c :: rest → Inner c → body ≠ [] := by
  induction text with
  | nil => exact ⟨[], [], rfl, nofun, nofun, nofun⟩
  | cons c rest inductionHypothesis =>
      cases goesOn : continues .word c rest with
      | false =>
          refine ⟨[], [], by rw [extent_of_stops goesOn]; rfl, nofun, nofun, fun d more same inner => ?_⟩
          cases same
          rw [continues_of_inner inner] at goesOn
          cases goesOn
      | true =>
          rcases inductionHypothesis with ⟨body, groups, further, inner, joined, filled⟩
          rw [extent_of_continues goesOn, further]
          by_cases here : Inner c
          · exact ⟨c :: body, groups, rfl, List.forall_mem_cons.mpr ⟨here, inner⟩, joined,
              fun _ _ _ _ => List.cons_ne_nil _ _⟩
          · -- An apostrophe goes on with a word only in front of a character that starts a group.
            have apostrophe : (c = '\'' ∨ c = '\u2019') ∧
                ∃ next more, rest = next :: more ∧ Inner next := by
              by_contra stays
              have ends : EndsWord (c :: rest) := by
                rintro d more ⟨⟩
                exact ⟨here, stays⟩
              rw [endsWord_iff.mp ends c rest rfl] at goesOn
              cases goesOn
            rcases apostrophe with ⟨mark, next, more, split, first⟩
            refine ⟨[], (c :: body) :: groups, rfl, nofun, List.forall_mem_cons.mpr ⟨?_, joined⟩, ?_⟩
            · exact ⟨c, body, rfl, mark, filled next more split first, inner⟩
            · rintro d further ⟨⟩ inner
              exact absurd inner here

section

variable {before after run : List Token} {token : Token}

/-- A token that is no symbol is a run, and the tokens behind it are those of what is behind the run. -/
theorem exists_run_of_other (split : scan text = before ++ token :: after)
    (other : token.kind ≠ .symbol) :
    ∃ c rest, kindOf c = token.kind ∧ token.text.toList = c :: (extent (kindOf c) rest).1 ∧
      spelled after = (extent (kindOf c) rest).2 := by
  rcases exists_runs_of_seam split fun _ first _ start => .inr (by cases start; exact other) with
    ⟨front, back, runs_eq, _, tokens⟩
  have alone := runs_of_suffix runs_eq
  generalize back.flatMap Prod.snd = chars at alone
  rw [← alone] at tokens
  cases chars with
  | nil => cases tokens
  | cons c rest =>
      have kind : token.kind = kindOf c := kind_of_head_runs (by rw [tokens]; rfl)
      rw [runs_cons, List.flatMap_cons, ofRun_of_other (kind ▸ other), List.singleton_append,
        List.cons.injEq] at tokens
      rcases tokens with ⟨rfl, rfl⟩
      refine ⟨c, rest, rfl, String.toList_ofList, ?_⟩
      rw [spelled, List.flatMap_assoc]
      simp only [ofRun_spell]
      exact runs_spell _

/-- The symbols of a text hold nothing but characters that symbols start with. -/
theorem kindOf_of_mem_symbol (member : token ∈ scan text) (symbol : token.kind = .symbol) :
    ∀ c ∈ token.text.toList, kindOf c = .symbol := by
  unfold scan at member
  generalize text.toList = chars at member
  induction chars using runs_induction with
  | nil => cases member
  | cons c rest inductionHypothesis =>
      rw [runs_cons, List.flatMap_cons, List.mem_append] at member
      refine member.elim (fun here d inside => ?_) inductionHypothesis
      have kind : kindOf c = .symbol := (kind_of_mem_ofRun here).symm.trans symbol
      rcases List.mem_cons.mp (mem_run_of_mem_ofRun here inside) with rfl | further
      · exact kind
      · rcases continues_of_mem_extent further with ⟨_, goesOn⟩
        rw [kind] at goesOn
        exact of_decide_eq_true goesOn

/-- A text with no tokens but symbols is one run, and its tokens are its clusters. -/
theorem clusters_of_symbols {chars : List Char}
    (symbols : ∀ token ∈ (runs chars).flatMap ofRun, token.kind = .symbol) :
    ((runs chars).flatMap ofRun).map (fun token => token.text.toList) =
      Text.Cluster.clusters chars := by
  cases chars with
  | nil => rfl
  | cons c rest =>
      have head : ∀ d more, (∀ token ∈ (runs (d :: more)).flatMap ofRun, token.kind = .symbol) →
          kindOf d = .symbol := by
        intro d more all
        rcases exists_ofRun (kindOf d) (List.cons_ne_nil d (extent (kindOf d) more).1) with
          ⟨first, others, start⟩
        have found : ((runs (d :: more)).flatMap ofRun).head? = some first := by
          rw [runs_cons, List.flatMap_cons, start]
          rfl
        rw [← kind_of_head_runs found]
        exact all first (List.mem_of_head? found)
      have kind : kindOf c = .symbol := head c rest symbols
      have whole := extent_append (kindOf c) rest
      rw [runs_cons, List.flatMap_cons] at symbols ⊢
      have done : (extent (kindOf c) rest).2 = [] := by
        cases behind : (extent (kindOf c) rest).2 with
        | nil => rfl
        | cons d more =>
            rw [behind] at symbols
            have stops := stops_of_extent behind
            rw [kind] at stops
            refine absurd (head d more fun token member => ?_) (of_decide_eq_false stops)
            exact symbols token (List.mem_append_right _ member)
      rw [done, List.append_nil] at whole
      rw [done, whole, kind]
      simp [ofRun, runs, Function.comp_def]

theorem scan_words (split : scan text = before ++ token :: after) (kind : token.kind = .word) :
    FormsWord token.text.toList ∧ EndsWord (spelled after) := by
  rcases exists_run_of_other split (by rw [kind]; exact nofun) with ⟨c, rest, starts, chars, behind⟩
  rw [starts, kind] at chars behind
  rcases exists_groups rest with ⟨body, groups, goesOn, inner, joined, _⟩
  constructor
  · exact ⟨c, body, groups, by rw [chars, goesOn], opens_iff.mpr (starts.trans kind), inner, joined⟩
  · refine endsWord_iff.mpr fun d more found => ?_
    rw [behind] at found
    exact stops_of_extent found

theorem scan_spaces (split : scan text = before ++ token :: after)
    (kind : token.kind = .whiteSpace) :
    (∀ c ∈ token.text.toList, isWhiteSpace c = true) ∧
      (∀ c, (spelled before).getLast? = some c → isWhiteSpace c = false) ∧
      ∀ c, (spelled after).head? = some c → isWhiteSpace c = false := by
  have member : token ∈ scan text := by rw [split]; simp
  refine ⟨(sound_of_mem_scan member).blank kind, fun c final => ?_, fun c start => ?_⟩
  · rcases List.eq_nil_or_concat before with rfl | ⟨initial, last, rfl⟩
    · cases final
    · rw [List.concat_eq_append] at split final
      have inside : last ∈ scan text := by rw [split]; simp
      have apart : Apart last token := by
        have chain := scan_apart text
        rw [split, List.append_assoc] at chain
        exact (List.isChain_cons_cons.mp (List.isChain_append.mp chain).2.1).1
      have other : last.kind ≠ .whiteSpace := by
        intro blank
        have either := apart (blank.trans kind.symm)
        rw [blank] at either
        exact either.elim nofun nofun
      refine solid_of_mem_scan inside other c ?_
      rw [spelled_append, spelled, spelled, List.flatMap_singleton,
        List.getLast?_append_of_ne_nil _ (sound_of_mem_scan inside).toList_ne_nil] at final
      exact List.mem_of_getLast? final
  · rcases exists_run_of_other split (by rw [kind]; exact nofun) with ⟨d, rest, starts, _, behind⟩
    rw [starts, kind] at behind
    rcases List.head?_eq_some_iff.mp start with ⟨more, found⟩
    have stops : continues .whiteSpace c more = false := stops_of_extent (behind.symm.trans found)
    exact stops

theorem scan_marks (member : token ∈ scan text) (kind : token.kind = .punctuation) :
    token.text.length = 1 := by
  rcases List.append_of_mem member with ⟨before, after, split⟩
  rcases exists_run_of_other split (by rw [kind]; exact nofun) with ⟨c, rest, starts, chars, _⟩
  have ends : extent .punctuation rest = ([], rest) := extent_of_end fun _ _ _ => rfl
  rw [starts, kind, ends] at chars
  rw [← String.length_toList, chars]
  rfl

theorem scan_opens (member : token ∈ scan text) :
    ∃ first rest, token.text.toList = first :: rest ∧ Opens token.kind first := by
  by_cases symbol : token.kind = .symbol
  · rcases List.exists_cons_of_ne_nil (sound_of_mem_scan member).toList_ne_nil with ⟨c, rest, chars⟩
    refine ⟨c, rest, chars, opens_iff.mpr ?_⟩
    rw [symbol, kindOf_of_mem_symbol member symbol c (by rw [chars]; exact List.mem_cons_self)]
  · rcases List.append_of_mem member with ⟨before, after, split⟩
    rcases exists_run_of_other split symbol with ⟨c, rest, starts, chars, _⟩
    exact ⟨c, _, chars, opens_iff.mpr starts⟩

theorem scan_clusters (split : scan text = before ++ (run ++ after))
    (symbols : SymbolRun before run after) :
    run.map (fun token => token.text.toList) = Text.Cluster.clusters (spelled run) := by
  have slice := scan_slice split (fun last _ final _ => .inl (symbols.last last final))
    fun _ first _ start => .inr (symbols.next first start)
  have chars : (String.join (run.map Token.text)).toList = spelled run := by
    rw [String.toList_join, List.flatMap_map]
    rfl
  rw [scan, chars] at slice
  have alone : ((runs (spelled run)).flatMap ofRun).map (fun token => token.text.toList) =
      Text.Cluster.clusters (spelled run) := clusters_of_symbols (by rw [slice]; exact symbols.symbols)
  rwa [slice] at alone

end

/-- The tokens of a text cut it. -/
theorem pureSegmentation_scan (text : String) : PureSegmentation text (scan text) where
  spelled := scan_spell text
  opens _ := scan_opens
  words _ _ _ := scan_words
  spaces _ _ _ := scan_spaces
  marks _ := scan_marks
  clusters _ _ _ := scan_clusters
  pure _ member symbol c inside := opens_iff.mpr (kindOf_of_mem_symbol member symbol c inside)

/-- The tokens of a text are the one way to cut it in which symbols hold nothing but characters that
symbols start with. -/
theorem pureSegmentation_iff (text : String) (tokens : List Token) :
    PureSegmentation text tokens ↔ tokens = scan text := by
  constructor
  · intro cut
    rw [scan, ← cut.spelled, cut.flatMap_runs]
  · rintro rfl
    exact pureSegmentation_scan text

/-- The Arabic number sign is a symbol that forms one cluster with the digit behind it, and that cluster
alone cuts their text. -/
theorem segmentation_numberSign : Segmentation "\u06001" [⟨.symbol, "\u06001"⟩] := by
  have alone : ∀ before token after,
      [(⟨.symbol, "\u06001"⟩ : Token)] = before ++ token :: after → token = ⟨.symbol, "\u06001"⟩ :=
    fun before token after split => List.mem_singleton.mp (by rw [split]; simp)
  constructor
  · decide +kernel
  · rw [List.forall_mem_singleton]
    exact ⟨'\u0600', ['1'], by decide +kernel, opens_iff.mpr (by decide +kernel)⟩
  · intro before token after split word
    rw [alone before token after split] at word
    cases word
  · intro before token after split blank
    rw [alone before token after split] at blank
    cases blank
  · rw [List.forall_mem_singleton]
    exact nofun
  · intro before run after split symbols
    have whole : run = [⟨.symbol, "\u06001"⟩] := by
      rcases List.singleton_eq_append_iff.mp split with ⟨rfl, rest⟩ | ⟨_, rest⟩
      · rcases List.append_eq_singleton_iff.mp rest with ⟨none, _⟩ | ⟨all, _⟩
        · exact absurd none symbols.filled
        · exact all
      · exact absurd (List.append_eq_nil_iff.mp rest).1 symbols.filled
    rw [whole]
    decide +kernel

/-- A text can be cut in more than one way, if its symbols may hold anything. -/
theorem not_segmentation_iff :
    ¬ ∀ tokens, Segmentation "\u06001" tokens ↔ tokens = scan "\u06001" := by
  intro unique
  have same : [⟨.symbol, "\u06001"⟩] = scan "\u06001" := (unique _).mp segmentation_numberSign
  revert same
  decide +kernel

end Token
end English
end Prose
