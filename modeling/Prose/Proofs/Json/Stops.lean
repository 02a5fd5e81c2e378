import Prose.Json.Read

namespace Prose
namespace Json
namespace Scan

/-!
# Where reading stops

Outside of strings JSON is written in characters of one byte.  So wherever a scanner gives back what is
left of a text, the character in front of it has one byte, and a scanner that starts at such a place
stops at such a place or at a character whose first byte it has taken.  The exceptions are all inside
strings: the end of the text, an escape that takes four bytes whatever they belong to, and a control
character in a string that is passed over.  `Stopped` lists these five ways.
-/

/-- What is left of a text begins behind a character of one byte, or is the whole text. -/
def Edge (text left : List Char) : Prop :=
  ∃ front, text = front ++ left ∧ ∀ c ∈ front.getLast?, c.utf8Size = 1

/-- The ways to stop in a text. -/
inductive Stopped (text : List Char) : Stop → Prop where
  /-- Behind a character of one byte. -/
  | behind {left : List Char} (flaw : Flaw) (edge : Edge text left) : Stopped text ⟨flaw, left, 0⟩
  /-- At a character whose first byte has been taken. -/
  | on {c : Char} {left : List Char} (flaw : Flaw) (inside : c :: left <:+ text) :
      Stopped text ⟨flaw, c :: left, 1⟩
  /-- Behind four characters of one byte each. -/
  | digits {left : List Char} (flaw : Flaw) (inside : left <:+ text) (enough : 4 ≤ left.length)
      (single : ∀ c ∈ left.take 4, c.utf8Size = 1) : Stopped text ⟨flaw, left, 4⟩
  /-- At the end of the text, inside a string. -/
  | ending : Stopped text ⟨.endInString, [], 0⟩
  /-- Behind four bytes that should have been digits. -/
  | escape {left : List Char} (inside : left <:+ text) (enough : 4 ≤ byteCount (left.take 4)) :
      Stopped text ⟨.invalidEscape, left, 4⟩
  /-- In front of a control character of a string that is passed over. -/
  | control {c : Char} {left : List Char} (inside : c :: left <:+ text) (control : c.toNat < 0x20) :
      Stopped text ⟨.controlCharacter, c :: left, 0⟩

/-- A scanner that begins at an edge of a text ends at an edge, or stops in one of the ways listed.
`left` is what the result leaves of the text. -/
def Stays {α : Type} (text : List Char) (left : α → List Char) : Except Stop α → Prop
  | .ok result => Edge text (left result)
  | .error stop => Stopped text stop

/-! ## Characters of one byte -/

theorem utf8Size_of_lt {c : Char} (small : c.toNat < 0x80) : c.utf8Size = 1 := by
  rw [Char.utf8Size_eq_one_iff, UInt32.le_iff_toNat_le]
  exact Nat.le_of_lt_succ small

theorem utf8Size_of_isDigit {c : Char} (digit : c.isDigit = true) : c.utf8Size = 1 := by
  simp only [Char.isDigit, Bool.and_eq_true, decide_eq_true_eq, UInt32.le_iff_toNat_le] at digit
  exact utf8Size_of_lt (Nat.lt_of_le_of_lt digit.2 (by decide))

theorem utf8Size_of_isBlank {c : Char} (blank : isBlank c = true) : c.utf8Size = 1 := by
  simp only [isBlank, Bool.or_eq_true, decide_eq_true_eq] at blank
  rcases blank with ((rfl | rfl) | rfl) | rfl <;> rfl

theorem utf8Size_of_hexValue? {c : Char} {n : Nat} (value : hexValue? c = some n) :
    c.utf8Size = 1 := by
  have upTo : ∀ d : Char, d.toNat < 0x80 → c ≤ d → c.utf8Size = 1 := fun d small le =>
    utf8Size_of_lt (Nat.lt_of_le_of_lt (UInt32.le_iff_toNat_le.mp le) small)
  unfold hexValue? at value
  split at value
  · exact upTo '9' (by decide) (And.right ‹_›)
  split at value
  · exact upTo 'f' (by decide) (And.right ‹_›)
  split at value
  · exact upTo 'F' (by decide) (And.right ‹_›)
  · cases value

/-! ## Edges -/

section

variable {text cs left : List Char} {c : Char}

theorem Edge.refl (text : List Char) : Edge text text :=
  ⟨[], rfl, fun c none => by cases none⟩

theorem Edge.suffix (edge : Edge text left) : left <:+ text := by
  rcases edge with ⟨front, rfl, _⟩
  exact List.suffix_append front left

/-- Behind any character of one byte there is an edge. -/
theorem edge_of_suffix (inside : c :: left <:+ text) (single : c.utf8Size = 1) : Edge text left := by
  rcases inside with ⟨front, rfl⟩
  refine ⟨front ++ [c], by simp, fun d last => ?_⟩
  rw [List.getLast?_concat, Option.mem_some_iff] at last
  exact last ▸ single

theorem Edge.tail (edge : Edge text (c :: left)) (single : c.utf8Size = 1) : Edge text left :=
  edge_of_suffix edge.suffix single

theorem Edge.dropWhile {p : Char → Bool} (edge : Edge text cs)
    (single : ∀ c, p c = true → c.utf8Size = 1) : Edge text (cs.dropWhile p) := by
  induction cs with
  | nil => exact edge
  | cons c rest inductionHypothesis =>
      rw [List.dropWhile_cons]
      split
      · exact inductionHypothesis (edge.tail (single c ‹_›))
      · exact edge

theorem Edge.skipBlanks (edge : Edge text cs) : Edge text (skipBlanks cs) :=
  edge.dropWhile fun _ => utf8Size_of_isBlank

theorem Edge.skipDigits (edge : Edge text cs) : Edge text (cs.dropWhile Char.isDigit) :=
  edge.dropWhile fun _ => utf8Size_of_isDigit

/-- What begins behind leading blanks. -/
theorem Edge.of_skipBlanks (edge : Edge text cs) (skipped : Scan.skipBlanks cs = left) :
    Edge text left := skipped ▸ edge.skipBlanks

end

/-! ## Ends of scanners -/

section

variable {α β : Type} {text left : List Char} {rest : α → List Char} {rest' : β → List Char}
  {result : Except Stop α}

theorem Stays.edge {value : α} (stays : Stays text rest result) (ok : result = .ok value) :
    Edge text (rest value) := by
  subst ok
  exact stays

theorem Stays.stopped {stop : Stop} (stays : Stays text rest result)
    (error : result = .error stop) : Stopped text stop := by
  subst error
  exact stays

theorem Stays.bind {next : α → Except Stop β} (stays : Stays text rest result)
    (further : ∀ value, Edge text (rest value) → Stays text rest' (next value)) :
    Stays text rest' (result.bind next) := by
  cases result with
  | error stop => exact stays
  | ok value => exact further value stays

theorem Stays.map {f : α → β} (stays : Stays text rest result)
    (same : ∀ value, rest' (f value) = rest value) : Stays text rest' (result.map f) := by
  cases result with
  | error stop => exact stays
  | ok value =>
      have edge : Edge text (rest value) := stays
      rwa [← same] at edge

theorem stays_stopAt (edge : Edge text left) (flaw : Flaw) : Stays text rest (stopAt flaw left) :=
  Stopped.behind flaw edge

theorem stays_stopOn (edge : Edge text left) (flaw : Flaw) : Stays text rest (stopOn flaw left) := by
  cases left with
  | nil => exact Stopped.behind flaw edge
  | cons c cs => exact Stopped.on flaw edge.suffix

end

variable {text cs : List Char}

/-! ## Literals and strings -/

theorem stays_literal {word : List Char} (single : (word.all fun c => c.utf8Size = 1) = true)
    (edge : Edge text cs) : Stays text id (literal word cs) := by
  induction word generalizing cs with
  | nil => exact edge
  | cons w word inductionHypothesis =>
      cases cs with
      | nil => exact stays_stopAt edge _
      | cons c cs =>
          rw [literal]
          split
          · rename_i same
            rw [List.all_cons, Bool.and_eq_true, decide_eq_true_eq] at single
            exact inductionHypothesis single.2 (edge.tail (same ▸ single.1))
          · exact stays_stopOn edge _

/-- Four digits are read, or four bytes that are none, or the text ends before. -/
theorem fourDigits_cases (inside : cs <:+ text) :
    (∃ stop, fourDigits cs = .error stop ∧ Stopped text stop) ∨
      ∃ n, fourDigits cs = .ok n ∧ 4 ≤ cs.length ∧ ∀ c ∈ cs.take 4, c.utf8Size = 1 := by
  unfold fourDigits
  split
  · exact .inl ⟨_, rfl, .ending⟩
  · rename_i enough
    have enough : 4 ≤ byteCount (cs.take 4) := Nat.le_of_not_lt enough
    split
    · split
      · rename_i a b c d rest _ _ _ _ first second third fourth
        refine .inr ⟨_, rfl, by simp, fun digit member => ?_⟩
        simp only [List.take, List.mem_cons, List.not_mem_nil, or_false] at member
        rcases member with rfl | rfl | rfl | rfl
        · exact utf8Size_of_hexValue? first
        · exact utf8Size_of_hexValue? second
        · exact utf8Size_of_hexValue? third
        · exact utf8Size_of_hexValue? fourth
      · exact .inl ⟨_, rfl, .escape inside enough⟩
    · exact .inl ⟨_, rfl, .escape inside enough⟩

theorem stopped_of_secondHalf {first : Nat} {stop : Stop} (inside : cs <:+ text)
    (failed : secondHalf first cs = .error stop) : Stopped text stop := by
  unfold secondHalf at failed
  split at failed
  · cases failed
    exact .ending
  · cases failed
    exact .ending
  · rename_i rest
    have inside : rest <:+ text :=
      ((List.suffix_cons _ _).trans (List.suffix_cons _ _)).trans inside
    rcases fourDigits_cases inside with ⟨stop, read, stopped⟩ | ⟨n, read, enough, single⟩
    · rw [read] at failed
      cases failed
      exact stopped
    · simp only [read, bind, Except.bind] at failed
      split at failed
      · cases failed
      · cases failed
        exact .digits _ inside enough single
  · rename_i rest nonempty _
    have inside : rest <:+ text := (List.suffix_cons _ _).trans inside
    cases rest with
    | nil => exact absurd rfl nonempty
    | cons c rest =>
        cases failed
        exact .on _ inside
  · rename_i nonempty _ _ _
    cases cs with
    | nil => exact absurd rfl nonempty
    | cons c rest =>
        cases failed
        exact .on _ inside

theorem stopped_of_escape {stop : Stop} (inside : cs <:+ text) (failed : escape cs = .error stop) :
    Stopped text stop := by
  unfold escape at failed
  split at failed
  case h_1 =>
    cases failed
    exact .ending
  case h_10 rest =>
    have inside : rest <:+ text := (List.suffix_cons _ _).trans inside
    rcases fourDigits_cases inside with ⟨stop, read, stopped⟩ | ⟨n, read, enough, single⟩
    · rw [read] at failed
      cases failed
      exact stopped
    · simp only [read, bind, Except.bind] at failed
      split at failed
      · cases failed
        exact .digits _ inside enough single
      split at failed
      · split at failed
        · rename_i half
          cases failed
          exact stopped_of_secondHalf ((List.drop_suffix 4 rest).trans inside) half
        · cases failed
      · cases failed
  case h_11 nonempty _ _ _ _ _ _ _ _ _ =>
    cases cs with
    | nil => exact absurd rfl nonempty
    | cons c rest =>
        cases failed
        exact .on _ inside
  all_goals cases failed

/-- A string that is read ends behind its closing quote. -/
theorem stays_stringTail (read : List Char) (pending : Nat) (inside : cs <:+ text) :
    Stays text Prod.snd (stringTail read pending cs) := by
  induction cs generalizing read pending with
  | nil => exact Stopped.ending
  | cons c rest inductionHypothesis =>
      have further : rest <:+ text := (List.suffix_cons c rest).trans inside
      cases pending with
      | succ pending => exact inductionHypothesis read pending further
      | zero =>
          rw [stringTail]
          split
          · rename_i quote
            exact edge_of_suffix inside (by rw [quote]; rfl)
          split
          · split
            · exact stopped_of_escape further ‹_›
            · exact inductionHypothesis _ _ further
          split
          · exact Stopped.on _ inside
          · exact inductionHypothesis _ _ further

theorem stopped_of_escapeLength {stop : Stop} (inside : cs <:+ text)
    (failed : escapeLength cs = .error stop) : Stopped text stop := by
  unfold escapeLength at failed
  split at failed
  · cases failed
    exact .ending
  · rename_i rest
    have inside : rest <:+ text := (List.suffix_cons _ _).trans inside
    rcases fourDigits_cases inside with ⟨stop, read, stopped⟩ | ⟨n, read, _⟩
    · rw [read] at failed
      cases failed
      exact stopped
    · rw [read] at failed
      cases failed
  · split at failed
    · cases failed
    · cases failed
      exact .on _ inside

/-- So does a string that is passed over. -/
theorem stays_skipString (pending : Nat) (inside : cs <:+ text) :
    Stays text id (skipString pending cs) := by
  induction cs generalizing pending with
  | nil => exact Stopped.ending
  | cons c rest inductionHypothesis =>
      have further : rest <:+ text := (List.suffix_cons c rest).trans inside
      cases pending with
      | succ pending => exact inductionHypothesis pending further
      | zero =>
          rw [skipString]
          split
          · rename_i quote
            exact edge_of_suffix inside (by rw [quote]; rfl)
          split
          · split
            · exact stopped_of_escapeLength further ‹_›
            · exact inductionHypothesis _ further
          split
          · exact Stopped.control inside ‹_›
          · exact inductionHypothesis _ further

/-! ## Numbers -/

theorem edge_gather (edge : Edge text cs) (value count : Nat) :
    Edge text (gather value count cs).2.2 := by
  induction cs generalizing value count with
  | nil => exact edge
  | cons c rest inductionHypothesis =>
      rw [gather]
      split
      · rename_i digit
        exact inductionHypothesis (edge.tail (utf8Size_of_isDigit digit.1)) _ _
      · exact edge

theorem edge_exponentDigits (edge : Edge text cs) (value : Nat) :
    Edge text (exponentDigits value cs).2 := by
  induction cs generalizing value with
  | nil => exact edge
  | cons c rest inductionHypothesis =>
      rw [exponentDigits]
      split
      · rename_i digit
        have behind := edge.tail (utf8Size_of_isDigit digit)
        split
        · exact inductionHypothesis behind _
        · exact behind
      · exact edge

theorem stays_fraction (edge : Edge text cs) (positive : Bool) (digits : Nat) (power : Int) :
    Stays text Prod.snd (fraction positive digits power cs) := by
  unfold fraction
  split
  · exact edge
  · exact stays_stopAt edge _

theorem stays_exponent (edge : Edge text cs) (positive : Bool) (digits : Nat) (power : Int) :
    Stays text Prod.snd (exponent positive digits power cs) := by
  unfold exponent
  split
  rename_i up left signed
  -- Behind the sign, if there is one.
  have edge : Edge text left := by
    split at signed
    · cases signed
      exact edge.tail rfl
    · cases signed
      exact edge.tail rfl
    · cases signed
      exact edge
  split
  · exact stays_stopAt edge _
  · rename_i c rest
    split
    · exact stays_stopOn edge _
    · rename_i digit
      rw [Bool.not_eq_true, Bool.not_eq_false'] at digit
      have behind := edge_exponentDigits (edge.tail (utf8Size_of_isDigit digit)) (digitValue c)
      split
      · rename_i read
        rw [read] at behind
        exact stays_fraction behind _ _ _
      · rename_i read
        rw [read] at behind
        split
        · exact stays_stopAt behind _
        · exact behind.skipDigits

theorem stays_exponentOrEnd (edge : Edge text cs) (positive : Bool) (digits : Nat) (power : Int) :
    Stays text Prod.snd (exponentOrEnd positive digits power cs) := by
  unfold exponentOrEnd
  split
  · exact stays_exponent (edge.tail rfl) _ _ _
  · exact stays_exponent (edge.tail rfl) _ _ _
  · exact stays_fraction edge _ _ _

theorem stays_decimals (edge : Edge text cs) (positive : Bool) (digits : Nat) (power : Int) :
    Stays text Prod.snd (decimals positive digits power cs) := by
  unfold decimals
  have behind := edge_gather edge digits 0
  split
  rename_i value count left read
  rw [read] at behind
  split
  · split
    · exact stays_exponentOrEnd behind.skipDigits _ _ _
    split
    · exact stays_stopOn behind _
    · exact stays_exponentOrEnd behind _ _ _
  · split
    · exact stays_stopAt behind _
    · exact stays_fraction behind _ _ _

theorem stays_whole (edge : Edge text cs) (positive : Bool) (value : Nat) :
    Stays text Prod.snd (whole positive value cs) := by
  unfold whole
  split
  · exact edge
  split
  · exact edge
  · exact stays_fraction edge _ _ _

theorem stays_numberTail (edge : Edge text cs) (positive : Bool) (value extra : Nat) :
    Stays text Prod.snd (numberTail positive value extra cs) := by
  unfold numberTail
  split
  · exact stays_decimals (edge.tail rfl) _ _ _
  · exact stays_exponent (edge.tail rfl) _ _ _
  · exact stays_exponent (edge.tail rfl) _ _ _
  · split
    · exact stays_whole edge _ _
    · exact stays_fraction edge _ _ _

/-- A number that is read ends behind its last character. -/
theorem stays_number (edge : Edge text cs) (positive : Bool) :
    Stays text Prod.snd (number positive cs) := by
  unfold number
  split
  · exact stays_stopAt edge _
  · rename_i c rest
    split
    · rename_i zero
      have behind := edge.tail (zero ▸ rfl)
      split
      · split
        · exact stays_stopOn behind _
        · exact stays_numberTail behind _ _ _
      · exact stays_numberTail behind _ _ _
    split
    · rename_i digit
      exact stays_numberTail
        (edge_gather (edge.tail (utf8Size_of_isDigit digit)) (digitValue c) 0).skipDigits _ _ _
    · exact stays_stopOn edge _

theorem stays_skipExponent (edge : Edge text cs) : Stays text id (skipExponent cs) := by
  unfold skipExponent
  extract_lets left
  have edge : Edge text left := by
    unfold left
    split
    · exact edge.tail rfl
    · exact edge.tail rfl
    · exact edge
  clear_value left
  split
  · exact stays_stopAt edge _
  · split
    · rename_i digit
      exact (edge.tail (utf8Size_of_isDigit digit)).skipDigits
    · exact stays_stopOn edge _

theorem stays_skipNumberTail (edge : Edge text cs) : Stays text id (skipNumberTail cs) := by
  unfold skipNumberTail
  split
  · rename_i rest
    have behind : Edge text rest := edge.tail rfl
    dsimp only
    split
    · exact stays_stopOn behind _
    · split
      · rename_i tail skipped
        exact stays_skipExponent ((skipped ▸ behind.skipDigits : Edge text ('e' :: tail)).tail rfl)
      · rename_i tail skipped
        exact stays_skipExponent ((skipped ▸ behind.skipDigits : Edge text ('E' :: tail)).tail rfl)
      · exact behind.skipDigits
  · exact stays_skipExponent (edge.tail rfl)
  · exact stays_skipExponent (edge.tail rfl)
  · exact edge

/-- So does a number that is passed over. -/
theorem stays_skipNumber (edge : Edge text cs) : Stays text id (skipNumber cs) := by
  unfold skipNumber
  split
  · exact stays_stopAt edge _
  · split
    · rename_i zero
      have behind := edge.tail (zero ▸ rfl)
      split
      · split
        · exact stays_stopOn behind _
        · exact stays_skipNumberTail behind
      · exact behind
    split
    · rename_i digit
      exact stays_skipNumberTail (edge.tail (utf8Size_of_isDigit digit)).skipDigits
    · exact stays_stopOn edge _

/-! ## Values -/

/-- The characters that a next element leaves. -/
def Next.left : Next → List Char
  | .close left => left
  | .more left => left

theorem stays_nextItem (edge : Edge text cs) (first : Bool) :
    Stays text Next.left (nextItem first cs) := by
  unfold nextItem
  split
  · rename_i skipped
    exact stays_stopAt (edge.of_skipBlanks skipped) _
  · rename_i skipped
    exact (edge.of_skipBlanks skipped).tail rfl
  · rename_i skipped
    have begun := edge.of_skipBlanks skipped
    split
    · exact begun
    split
    · rename_i comma
      have behind := begun.tail (comma ▸ rfl)
      split
      · rename_i skipped
        exact stays_stopAt (behind.of_skipBlanks skipped) _
      · rename_i skipped
        exact stays_stopOn (behind.of_skipBlanks skipped) _
      · exact behind.skipBlanks
    · exact stays_stopOn begun _

/-- An array is closed by a bracket. -/
theorem skipBlanks_of_nextItem_close {first : Bool} {left : List Char}
    (closed : nextItem first cs = .ok (.close left)) : skipBlanks cs = ']' :: left := by
  unfold nextItem at closed
  split at closed
  · cases closed
  · rename_i skipped
    cases closed
    exact skipped
  · split at closed
    · cases closed
    split at closed
    · split at closed <;> cases closed
    · cases closed

theorem stays_keyStart (edge : Edge text cs) : Stays text Next.left (keyStart cs) := by
  unfold keyStart
  split
  · exact stays_stopAt edge _
  · exact edge.tail rfl
  · exact stays_stopOn edge _
  · exact stays_stopOn edge _

theorem stays_nextKey (edge : Edge text cs) (first : Bool) :
    Stays text Next.left (nextKey first cs) := by
  unfold nextKey
  split
  · rename_i skipped
    exact stays_stopAt (edge.of_skipBlanks skipped) _
  · rename_i skipped
    exact (edge.of_skipBlanks skipped).tail rfl
  · rename_i skipped
    have begun := edge.of_skipBlanks skipped
    split
    · exact stays_keyStart begun
    split
    · rename_i comma
      exact stays_keyStart (begun.tail (comma ▸ rfl)).skipBlanks
    · exact stays_stopOn begun _

theorem stays_colon (edge : Edge text cs) : Stays text id (colon cs) := by
  unfold colon
  split
  · rename_i skipped
    exact stays_stopAt (edge.of_skipBlanks skipped) _
  · rename_i skipped
    exact (edge.of_skipBlanks skipped).tail rfl
  · exact stays_stopOn edge.skipBlanks _

mutual

/-- A value that is read ends behind its last character. -/
theorem stays_value : ∀ (fuel depth : Nat) {cs : List Char}, Edge text cs →
    Stays text Prod.snd (value fuel depth cs)
  | 0, _, _, edge => stays_stopAt edge _
  | fuel + 1, depth, cs, edge => by
      unfold value
      split
      · rename_i skipped
        exact stays_stopAt (edge.of_skipBlanks skipped) _
      · rename_i skipped
        exact (stays_literal (by decide) ((edge.of_skipBlanks skipped).tail rfl)).map
          fun _ => rfl
      · rename_i skipped
        exact (stays_literal (by decide) ((edge.of_skipBlanks skipped).tail rfl)).map
          fun _ => rfl
      · rename_i skipped
        exact (stays_literal (by decide) ((edge.of_skipBlanks skipped).tail rfl)).map
          fun _ => rfl
      · rename_i skipped
        exact stays_number ((edge.of_skipBlanks skipped).tail rfl) _
      · rename_i skipped
        exact (stays_stringTail _ _ ((edge.of_skipBlanks skipped).tail rfl).suffix).map fun _ => rfl
      · rename_i skipped
        have begun := edge.of_skipBlanks skipped
        split
        · exact stays_stopOn begun _
        · exact (stays_items fuel _ _ (begun.tail rfl)).map fun _ => rfl
      · rename_i skipped
        have begun := edge.of_skipBlanks skipped
        split
        · exact stays_stopOn begun _
        · exact (stays_fields fuel _ _ _ (begun.tail rfl)).map fun _ => rfl
      · rename_i skipped
        have begun := edge.of_skipBlanks skipped
        split
        · exact stays_number begun _
        · exact stays_stopOn begun _

theorem stays_items : ∀ (fuel depth : Nat) (first : Bool) {cs : List Char}, Edge text cs →
    Stays text Prod.snd (items fuel depth first cs)
  | 0, _, _, _, edge => stays_stopAt edge _
  | fuel + 1, depth, first, cs, edge => by
      have next := stays_nextItem edge first
      unfold items
      split
      · exact next.stopped ‹_›
      · exact next.edge ‹_›
      · rename_i begun
        have item := stays_value fuel depth (next.edge begun)
        split
        · exact item.stopped ‹_›
        · rename_i read
          have rest := stays_items fuel depth false (item.edge read)
          split
          · exact rest.stopped ‹_›
          · rename_i read
            have behind := rest.edge read
            exact behind

theorem stays_fields : ∀ (fuel depth : Nat) (first : Bool) (before : Fields) {cs : List Char},
    Edge text cs → Stays text Prod.snd (fields fuel depth first before cs)
  | 0, _, _, _, _, edge => stays_stopAt edge _
  | fuel + 1, depth, first, before, cs, edge => by
      have next := stays_nextKey edge first
      unfold fields
      split
      · exact next.stopped ‹_›
      · exact next.edge ‹_›
      · rename_i begun
        have key := stays_stringTail [] 0 (next.edge begun).suffix
        split
        · exact key.stopped ‹_›
        · rename_i read
          have behind := stays_colon (key.edge read)
          split
          · exact behind.stopped ‹_›
          · rename_i read
            have item := stays_value fuel depth (behind.edge read)
            split
            · exact item.stopped ‹_›
            · rename_i read
              exact stays_fields fuel depth false _ (item.edge read)

end

/-! ## Values that are passed over -/

theorem stays_skipKey (edge : Edge text cs) : Stays text id (skipKey cs) := by
  unfold skipKey
  split
  · rename_i skipped
    exact stays_stopAt (edge.of_skipBlanks skipped) _
  · rename_i skipped
    exact (stays_skipString 0 ((edge.of_skipBlanks skipped).tail rfl).suffix).bind fun _ =>
      stays_colon
  · exact stays_stopOn edge.skipBlanks _

mutual

/-- So does a value that is passed over. -/
theorem stays_skipValue : ∀ (fuel : Nat) {cs : List Char}, Edge text cs →
    Stays text id (skipValue fuel cs)
  | 0, _, edge => stays_stopAt edge _
  | fuel + 1, cs, edge => by
      unfold skipValue
      split
      · rename_i skipped
        exact stays_stopAt (edge.of_skipBlanks skipped) _
      · rename_i skipped
        exact stays_literal (by decide) ((edge.of_skipBlanks skipped).tail rfl)
      · rename_i skipped
        exact stays_literal (by decide) ((edge.of_skipBlanks skipped).tail rfl)
      · rename_i skipped
        exact stays_literal (by decide) ((edge.of_skipBlanks skipped).tail rfl)
      · rename_i skipped
        exact stays_skipNumber ((edge.of_skipBlanks skipped).tail rfl)
      · rename_i skipped
        exact stays_skipString _ ((edge.of_skipBlanks skipped).tail rfl).suffix
      · rename_i skipped
        have begun := (edge.of_skipBlanks skipped).tail rfl
        split
        · rename_i skipped
          exact stays_stopAt (begun.of_skipBlanks skipped) _
        · rename_i skipped
          exact (begun.of_skipBlanks skipped).tail rfl
        · exact stays_skipItems fuel begun.skipBlanks
      · rename_i skipped
        have begun := (edge.of_skipBlanks skipped).tail rfl
        split
        · rename_i skipped
          exact stays_stopAt (begun.of_skipBlanks skipped) _
        · rename_i skipped
          exact (begun.of_skipBlanks skipped).tail rfl
        · exact stays_skipFields fuel begun.skipBlanks
      · rename_i skipped
        have begun := edge.of_skipBlanks skipped
        split
        · exact stays_skipNumber begun
        · exact stays_stopOn begun _

theorem stays_skipItems : ∀ (fuel : Nat) {cs : List Char}, Edge text cs →
    Stays text id (skipItems fuel cs)
  | 0, _, edge => stays_stopAt edge _
  | fuel + 1, cs, edge => by
      have item := stays_skipValue fuel edge
      unfold skipItems
      split
      · exact item.stopped ‹_›
      · rename_i read
        have behind := item.edge read
        split
        · rename_i skipped
          exact stays_stopAt (behind.of_skipBlanks skipped) _
        · rename_i skipped
          exact (behind.of_skipBlanks skipped).tail rfl
        · rename_i skipped
          exact stays_skipItems fuel ((behind.of_skipBlanks skipped).tail rfl)
        · exact stays_stopOn behind.skipBlanks _

theorem stays_skipFields : ∀ (fuel : Nat) {cs : List Char}, Edge text cs →
    Stays text id (skipFields fuel cs)
  | 0, _, edge => stays_stopAt edge _
  | fuel + 1, cs, edge => by
      have field := (stays_skipKey edge).bind fun _ => stays_skipValue fuel
      unfold skipFields
      split
      · exact field.stopped ‹_›
      · rename_i read
        have behind := field.edge read
        split
        · rename_i skipped
          exact stays_stopAt (behind.of_skipBlanks skipped) _
        · rename_i skipped
          exact (behind.of_skipBlanks skipped).tail rfl
        · rename_i skipped
          exact stays_skipFields fuel ((behind.of_skipBlanks skipped).tail rfl)
        · exact stays_stopOn behind.skipBlanks _

end

end Scan
end Json
end Prose
