import Prose.Proofs.English.Form

namespace Prose

/-!
# Paragraphs stand on their own

A break parts a text into two that have nothing to do with each other.  No run of characters reaches over
white space, so the tokens of the whole are those of both sides with the break between them; and a
paragraph ends at a break whatever it holds, so the nodes of both sides are those of the two texts alone.
-/

namespace Text
namespace CharSet

theorem exists_range_of_covers {n : Nat} {ranges : List (Nat × Nat)} (covered : covers n ranges = true) :
    ∃ range ∈ ranges, range.1 ≤ n ∧ n ≤ range.2 := by
  induction ranges with
  | nil => cases covered
  | cons first rest inductionHypothesis =>
      rw [covers] at covered
      split at covered
      · rcases inductionHypothesis covered with ⟨range, member, within⟩
        exact ⟨range, List.mem_cons_of_mem _ member, within⟩
      · rename_i notBehind
        exact ⟨first, List.mem_cons_self, of_decide_eq_true covered, Nat.le_of_not_lt notBehind⟩

/-- Whether no code point from `least` to `greatest` lies in one of some ascending ranges. -/
def avoids (least greatest : Nat) : List (Nat × Nat) → Bool
  | [] => true
  | (lo, hi) :: rest =>
    if hi < least then avoids least greatest rest else decide (greatest < lo ∧ lo ≤ hi)

theorem not_covers_of_avoids {least greatest n : Nat} {ranges : List (Nat × Nat)}
    (avoided : avoids least greatest ranges = true) (above : least ≤ n) (below : n ≤ greatest) :
    covers n ranges = false := by
  induction ranges with
  | nil => rfl
  | cons first rest inductionHypothesis =>
      rcases first with ⟨lo, hi⟩
      rw [avoids] at avoided
      rw [covers]
      split at avoided
      · rw [if_pos (by omega)]
        exact inductionHypothesis avoided
      · rw [decide_eq_true_eq] at avoided
        rw [if_neg (by omega), decide_eq_false (by omega)]

/-- Whether no range of one set meets a range of another. -/
def apart (first second : CharSet) : Bool :=
  first.ranges.all fun range => avoids range.1 range.2 second.ranges

/-- A character of a set belongs to no set that is apart from it. -/
theorem not_contains_of_apart {first second : CharSet} (disjoint : first.apart second = true) {c : Char}
    (member : first.contains c = true) : second.contains c = false := by
  rcases exists_range_of_covers member with ⟨range, inside, least, greatest⟩
  exact not_covers_of_avoids (List.all_eq_true.mp disjoint range inside) least greatest

end CharSet

namespace Property

/-- White space is neither alphabetic nor a number nor a mark. -/
theorem not_word_of_isWhiteSpace {c : Char} (blank : isWhiteSpace c = true) :
    isAlphabetic c = false ∧ isNumber c = false ∧ isMark c = false := by
  have none : ∀ second : CharSet, whiteSpaces.apart second = true → second.contains c = false :=
    fun second disjoint => CharSet.not_contains_of_apart disjoint blank
  refine ⟨?_, ?_, ?_⟩
  · rw [isAlphabetic, isLetter, none _ (by decide +kernel), none _ (by decide +kernel),
      none _ (by decide +kernel), none _ (by decide +kernel), none _ (by decide +kernel),
      none _ (by decide +kernel), none _ (by decide +kernel)]
    rfl
  · rw [isNumber, none _ (by decide +kernel), none _ (by decide +kernel), none _ (by decide +kernel)]
    rfl
  · rw [isMark, none _ (by decide +kernel), none _ (by decide +kernel), none _ (by decide +kernel)]
    rfl

end Property
end Text

namespace English
namespace Token

variable {kind : Kind} {c : Char} {rest : List Char}

/-! ## Runs and white space -/

theorem continuesWord_of_isWhiteSpace (blank : Text.Property.isWhiteSpace c = true) :
    continuesWord c = false := by
  have no := Text.Property.not_word_of_isWhiteSpace blank
  rw [continuesWord, startsWord, no.1, no.2.1, no.2.2]
  rfl

theorem kindOf_of_isWhiteSpace (blank : Text.Property.isWhiteSpace c = true) :
    kindOf c = .whiteSpace := by
  have no := Text.Property.not_word_of_isWhiteSpace blank
  rw [kindOf, startsWord, no.1, no.2.1, if_neg (by decide), if_pos blank]

/-- White space goes on with no other run. -/
theorem stops_of_isWhiteSpace (blank : Text.Property.isWhiteSpace c = true)
    (other : kind ≠ .whiteSpace) (rest : List Char) : continues kind c rest = false := by
  cases kind with
  | whiteSpace => exact absurd rfl other
  | punctuation => rfl
  | symbol =>
      change decide (kindOf c = .symbol) = false
      rw [kindOf_of_isWhiteSpace blank]
      rfl
  | word =>
      have apostrophe : isApostrophe c = false := by
        rw [Bool.eq_false_iff]
        intro mark
        rw [isApostrophe, Bool.or_eq_true, decide_eq_true_eq, decide_eq_true_eq] at mark
        rcases mark with rfl | rfl <;> exact absurd blank (by decide)
      rw [continues.eq_def]
      dsimp only
      rw [continuesWord_of_isWhiteSpace blank, apostrophe]
      rfl

/-- Whether a character goes on with a run does not depend on white space behind the text. -/
theorem continues_append (kind : Kind) (c : Char) {d : Char} (blank : Text.Property.isWhiteSpace d = true)
    (text more : List Char) : continues kind c (text ++ d :: more) = continues kind c text := by
  cases text with
  | cons next rest => cases kind <;> rfl
  | nil =>
      cases kind with
      | word =>
          rw [List.nil_append, continues, continuesWord_of_isWhiteSpace blank]
          rfl
      | whiteSpace => rfl
      | punctuation => rfl
      | symbol => rfl

/-- A run ends in front of white space, unless it is white space that reaches to the end of the text. -/
theorem extent_append_blank {text : List Char} {d : Char} (blank : Text.Property.isWhiteSpace d = true)
    (ends : (extent kind text).2 = [] → kind ≠ .whiteSpace) (more : List Char) :
    extent kind (text ++ d :: more) = ((extent kind text).1, (extent kind text).2 ++ d :: more) := by
  induction text with
  | nil => exact extent_of_stops (stops_of_isWhiteSpace blank (ends rfl) more)
  | cons first rest inductionHypothesis =>
      have same := continues_append kind first blank rest more
      cases goesOn : continues kind first rest with
      | true =>
          rw [extent_of_continues goesOn] at ends ⊢
          rw [List.cons_append, extent_of_continues (same.trans goesOn), inductionHypothesis ends]
      | false =>
          rw [List.cons_append, extent_of_stops (same.trans goesOn), extent_of_stops goesOn,
            List.cons_append]

/-- Where a text does not end with white space but is followed by it, no run reaches over the place. -/
theorem runs_append_blank {text : List Char} {d : Char} (blank : Text.Property.isWhiteSpace d = true)
    (ends : ∀ last, text.getLast? = some last → Text.Property.isWhiteSpace last = false)
    (more : List Char) : runs (text ++ d :: more) = runs text ++ runs (d :: more) := by
  induction text using runs_induction with
  | nil => rfl
  | cons c rest inductionHypothesis =>
      have whole := extent_append (kindOf c) rest
      -- White space up to the end of the text would have its last character there.
      have kind : (extent (kindOf c) rest).2 = [] → kindOf c ≠ .whiteSpace := by
        intro none space
        rw [none, List.append_nil] at whole
        have last := ends _ (List.getLast?_eq_some_getLast (List.cons_ne_nil c rest))
        have member := List.getLast_mem (List.cons_ne_nil c rest)
        have space' : ∀ other ∈ c :: rest, Text.Property.isWhiteSpace other = true := by
          rw [List.forall_mem_cons]
          refine ⟨isWhiteSpace_of_kindOf space, fun other inside => ?_⟩
          rw [← whole] at inside
          rcases continues_of_mem_extent inside with ⟨_, goesOn⟩
          rw [space] at goesOn
          exact goesOn
        rw [space' _ member] at last
        cases last
      have behind : ∀ last, (extent (kindOf c) rest).2.getLast? = some last →
          Text.Property.isWhiteSpace last = false := by
        intro last found
        refine ends last ?_
        rw [← whole, ← List.cons_append, List.getLast?_append, found]
        rfl
      have further := inductionHypothesis behind
      rw [List.cons_append, runs_cons c (rest ++ d :: more), extent_append_blank blank kind, further,
        runs_cons c rest, List.cons_append]

/-- White space in front of something else is one run. -/
theorem runs_blank_append {space text : List Char} (filled : space ≠ [])
    (blank : ∀ c ∈ space, Text.Property.isWhiteSpace c = true)
    (starts : ∀ first, text.head? = some first → Text.Property.isWhiteSpace first = false) :
    runs (space ++ text) = (.whiteSpace, space) :: runs text := by
  have extent_eq : ∀ front : List Char, (∀ c ∈ front, Text.Property.isWhiteSpace c = true) →
      extent .whiteSpace (front ++ text) = (front, text) := by
    intro front blank
    induction front with
    | nil =>
        cases text with
        | nil => rfl
        | cons first rest => exact extent_of_stops (starts first rfl)
    | cons c rest inductionHypothesis =>
        rw [List.forall_mem_cons] at blank
        have goesOn : continues .whiteSpace c (rest ++ text) = true := blank.1
        rw [List.cons_append, extent_of_continues goesOn, inductionHypothesis blank.2]
  cases space with
  | nil => exact absurd rfl filled
  | cons c rest =>
      rw [List.forall_mem_cons] at blank
      rw [List.cons_append, runs_cons, kindOf_of_isWhiteSpace blank.1, extent_eq rest blank.2]

/-! ## Joined texts -/

/-- The tokens of two texts with white space between them are those of both, with a token between them. -/
theorem scan_append_blank {front space back : String} (filled : space ≠ "")
    (blank : ∀ c ∈ space.toList, Text.Property.isWhiteSpace c = true) (ends : ¬ EndsBlank front)
    (starts : ¬ StartsBlank back) :
    scan (front ++ space ++ back) = scan front ++ ⟨.whiteSpace, space⟩ :: scan back := by
  have last : ∀ last, front.toList.getLast? = some last → Text.Property.isWhiteSpace last = false :=
    fun last found => Bool.eq_false_iff.mpr fun space => ends ⟨last, found, space⟩
  have first : ∀ first, back.toList.head? = some first → Text.Property.isWhiteSpace first = false :=
    fun first found => Bool.eq_false_iff.mpr fun space => starts ⟨first, found, space⟩
  have filled' : space.toList ≠ [] := fun none => filled (String.toList_eq_nil_iff.mp none)
  have between := runs_blank_append filled' blank first
  have joined : runs (front.toList ++ (space.toList ++ back.toList)) =
      runs front.toList ++ runs (space.toList ++ back.toList) := by
    cases chars : space.toList with
    | nil => exact absurd chars filled'
    | cons d more =>
        rw [chars, List.forall_mem_cons] at blank
        exact runs_append_blank blank.1 last (more ++ back.toList)
  rw [scan, String.toList_append, String.toList_append, List.append_assoc, joined, between,
    List.flatMap_append, List.flatMap_cons, ofRun_whiteSpace, String.ofList_toList]
  rfl

end Token

/-! ## Joined documents -/

theorem sections_append_break {token : Token} (parts : isBreak token = true) (front back : List Token) :
    sections (front ++ token :: back) =
      ((sections front).1, (sections front).2 ++ (token, (sections back).1) :: (sections back).2) := by
  induction front with
  | nil =>
      rw [List.nil_append, sections.eq_def (token :: back)]
      exact if_pos parts
  | cons first rest inductionHypothesis =>
      rw [List.cons_append, sections, inductionHypothesis, sections]
      split <;> rfl

theorem levels_append (first : List Token) (more : List (Token × List Token)) (token : Token)
    (tokens : List Token) (behind : List (Token × List Token)) :
    levels first (more ++ (token, tokens) :: behind) =
      levels first more ++ token.leaf :: levels tokens behind := by
  induction more generalizing first with
  | nil => rfl
  | cons part rest inductionHypothesis =>
      rcases part with ⟨other, others⟩
      rw [List.cons_append, levels, inductionHypothesis, levels, List.append_assoc, List.cons_append]

/-- Below the root of the document of a text stand the nodes that its sections give. -/
theorem parse_eq (text : String) :
    parse text = .parent Prose.Kind.root
      (levels (sections (Token.scan text)).1 (sections (Token.scan text)).2) :=
  document_eq (Token.scan text)

/-- Paragraphs are parsed on their own: the nodes below the root of two texts with a break between them
are those of the first text, the break and those of the second. -/
theorem parse_append_break {front space back : String}
    (blank : ∀ c ∈ space.toList, Text.Property.isWhiteSpace c = true)
    (feeds : 2 ≤ space.toList.count '\n') (ends : ¬ Token.EndsBlank front)
    (starts : ¬ Token.StartsBlank back) :
    ∃ first second, parse front = .parent Prose.Kind.root first ∧
      parse back = .parent Prose.Kind.root second ∧
      parse (front ++ space ++ back) =
        .parent Prose.Kind.root (first ++ .leaf Prose.Kind.whiteSpace space :: second) := by
  have filled : space ≠ "" := by
    rintro rfl
    exact absurd feeds (by decide)
  have parts : isBreak ⟨.whiteSpace, space⟩ = true := by
    rw [isBreak, isParagraphBreak, decide_eq_true feeds]
    rfl
  refine ⟨_, _, parse_eq front, parse_eq back, ?_⟩
  rw [parse_eq, Token.scan_append_blank filled blank ends starts, sections_append_break parts,
    levels_append]
  rfl

/-- A sentence without a mark at its end stops at the break, and the closing quote behind the break does
not trail it. -/
theorem parse_append_break_quoted :
    (∀ c ∈ "\n \n".toList, Text.Property.isWhiteSpace c = true) ∧ 2 ≤ "\n \n".toList.count '\n' ∧
      ¬ Token.EndsBlank "It's so.'" ∧ ¬ Token.StartsBlank "'" ∧
      ∃ first second, parse "It's so.'" = .parent Prose.Kind.root first ∧
        parse "'" = .parent Prose.Kind.root second ∧
        parse ("It's so.'" ++ "\n \n" ++ "'") =
          .parent Prose.Kind.root (first ++ .leaf Prose.Kind.whiteSpace "\n \n" :: second) := by
  have feed : Text.Property.isWhiteSpace '\n' = true := by decide
  have space : Text.Property.isWhiteSpace ' ' = true := by decide
  have blank : ∀ c ∈ "\n \n".toList, Text.Property.isWhiteSpace c = true := by
    have chars : "\n \n".toList = ['\n', ' ', '\n'] := by decide
    rw [chars]
    exact List.forall_mem_cons.mpr ⟨feed, List.forall_mem_cons.mpr ⟨space,
      List.forall_mem_singleton.mpr feed⟩⟩
  have feeds : 2 ≤ "\n \n".toList.count '\n' := by decide
  have ends : ¬ Token.EndsBlank "It's so.'" := by
    rintro ⟨c, last, space⟩
    cases last
    exact absurd space (by decide)
  have starts : ¬ Token.StartsBlank "'" := by
    rintro ⟨c, first, space⟩
    cases first
    exact absurd space (by decide)
  exact ⟨blank, feeds, ends, starts, parse_append_break blank feeds ends starts⟩

end English
end Prose
