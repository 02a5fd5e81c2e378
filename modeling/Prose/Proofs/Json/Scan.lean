import Prose.Json.Read

namespace Prose
namespace Json
namespace Scan

/-!
# Scanning what has been written

Strings and whole numbers are read back from their written forms, whatever comes behind a string, and if
nothing that could belong to the number comes behind a number.
-/

/-! ## Blanks -/

theorem skipBlanks_append {blanks : List Char} (blank : ∀ c ∈ blanks, isBlank c = true)
    (cs : List Char) : skipBlanks (blanks ++ cs) = skipBlanks cs :=
  List.dropWhile_append_of_pos blank

theorem skipBlanks_cons_blank {c : Char} (blank : isBlank c = true) (cs : List Char) :
    skipBlanks (c :: cs) = skipBlanks cs :=
  List.dropWhile_cons_of_pos blank

theorem skipBlanks_cons {c : Char} (solid : isBlank c = false) (cs : List Char) :
    skipBlanks (c :: cs) = c :: cs :=
  List.dropWhile_cons_of_neg (by rw [solid]; exact Bool.false_ne_true)

/-! ## Strings -/

/-- The characters of an escape that has been read are passed over. -/
theorem stringTail_pending (read : List Char) (escape cs : List Char) :
    stringTail read escape.length (escape ++ cs) = stringTail read 0 cs := by
  induction escape with
  | nil => rfl
  | cons c rest inductionHypothesis =>
      rw [List.length_cons, List.cons_append, stringTail]
      exact inductionHypothesis

theorem stringTail_escape (read text : List Char) {c : Char} {cs : List Char}
    (stands : escape (text ++ cs) = .ok (c, text.length)) :
    stringTail read 0 ('\\' :: (text ++ cs)) = stringTail (c :: read) 0 cs := by
  rw [stringTail, if_neg (by decide), if_pos rfl, stands]
  exact stringTail_pending (c :: read) text cs

theorem hexValue?_digitChar {n : Nat} (bound : n < 16) : hexValue? (Nat.digitChar n) = some n := by
  revert n
  decide

theorem four_le_byteCount (a b c d : Char) : 4 ≤ byteCount [a, b, c, d] := by
  have := a.utf8Size_pos
  have := b.utf8Size_pos
  have := c.utf8Size_pos
  have := d.utf8Size_pos
  simp only [byteCount]
  omega

/-- A control character is read back from its number. -/
theorem escape_hexPair {c : Char} (control : c.toNat < 0x20) (cs : List Char) :
    escape (['u', '0', '0'] ++ hexPair c.toNat ++ cs) = .ok (c, 5) := by
  have high := hexValue?_digitChar (n := c.toNat / 16) (by omega)
  have low := hexValue?_digitChar (n := c.toNat % 16) (by omega)
  have number : ((0 * 16 + 0) * 16 + c.toNat / 16) * 16 + c.toNat % 16 = c.toNat := by omega
  have digits : fourDigits ('0' :: '0' :: Nat.digitChar (c.toNat / 16) ::
      Nat.digitChar (c.toNat % 16) :: cs) = .ok c.toNat := by
    have enough := four_le_byteCount '0' '0' (Nat.digitChar (c.toNat / 16)) (Nat.digitChar (c.toNat % 16))
    rw [fourDigits, if_neg]
    · have zero : hexValue? '0' = some 0 := by decide
      simp only [zero, high, low, number]
    · simpa only [List.take, Nat.not_lt] using enough
  have single : isTrailing c.toNat = false ∧ isLeading c.toNat = false := by
    simp only [isTrailing, isLeading, Bool.and_eq_false_iff, decide_eq_false_iff_not]
    omega
  simp only [hexPair, List.cons_append, List.nil_append, escape, digits, bind, Except.bind, single.1,
    single.2, Bool.false_eq_true, if_false, Char.ofNat_toNat]

/-- Every character is read back from its written form. -/
theorem stringTail_escapeChar (read : List Char) (c : Char) (cs : List Char) :
    stringTail read 0 (escapeChar c ++ cs) = stringTail (c :: read) 0 cs := by
  have short : ∀ mark d : Char, escape (mark :: cs) = .ok (d, 1) →
      stringTail read 0 (['\\', mark] ++ cs) = stringTail (d :: read) 0 cs := fun mark d stands =>
    stringTail_escape read [mark] stands
  unfold escapeChar
  split
  · rename_i same
    exact same ▸ short '"' '"' rfl
  split
  · rename_i same
    exact same ▸ short '\\' '\\' rfl
  split
  · rename_i same
    exact same ▸ short 'n' '\n' rfl
  split
  · rename_i same
    exact same ▸ short 'r' '\r' rfl
  split
  · rename_i same
    exact same ▸ short 't' '\t' rfl
  split
  · rename_i same
    exact same ▸ short 'b' '\x08' rfl
  split
  · rename_i same
    exact same ▸ short 'f' '\x0c' rfl
  split
  · rename_i control
    exact stringTail_escape read (['u', '0', '0'] ++ hexPair c.toNat) (escape_hexPair control cs)
  · rename_i quote backslash _ _ _ _ _ plain
    rw [List.cons_append, List.nil_append, stringTail, if_neg quote, if_neg backslash, if_neg plain]

theorem stringTail_flatMap (read text cs : List Char) :
    stringTail read 0 (text.flatMap escapeChar ++ '"' :: cs) =
      .ok (String.ofList (read.reverse ++ text), cs) := by
  induction text generalizing read with
  | nil =>
      rw [List.flatMap_nil, List.nil_append, stringTail, if_pos rfl, List.append_nil]
  | cons c rest inductionHypothesis =>
      rw [List.flatMap_cons, List.append_assoc, stringTail_escapeChar, inductionHypothesis,
        List.reverse_cons, List.append_assoc, List.singleton_append]

/-- A string is read back from behind its opening quote. -/
theorem stringTail_quote (text : String) (cs : List Char) :
    stringTail [] 0 (text.toList.flatMap escapeChar ++ '"' :: cs) = .ok (text, cs) := by
  rw [stringTail_flatMap, List.reverse_nil, List.nil_append, String.ofList_toList]

/-! ## Whole numbers -/

/-- No digit, point or exponent comes next. -/
def Ends (cs : List Char) : Prop :=
  ∀ c ∈ cs.head?, c.isDigit = false ∧ c ≠ '.' ∧ c ≠ 'e' ∧ c ≠ 'E'

theorem ends_nil : Ends [] := nofun

theorem ends_cons {c : Char} (cs : List Char)
    (ends : c.isDigit = false ∧ c ≠ '.' ∧ c ≠ 'e' ∧ c ≠ 'E') : Ends (c :: cs) := by
  intro d first
  rw [List.head?_cons] at first
  cases first
  exact ends

theorem le_ofDigitChars (value : Nat) (ds : List Char) : value ≤ Nat.ofDigitChars 10 ds value := by
  induction ds generalizing value with
  | nil => exact Nat.le_of_eq Nat.ofDigitChars_nil.symm
  | cons d rest inductionHypothesis =>
      have le := inductionHypothesis (10 * value + (d.toNat - '0'.toNat))
      rw [Nat.ofDigitChars_cons]
      omega

/-- Digits are gathered up to their end, if the number that they make is in range. -/
theorem gather_append {ds cs : List Char} (value count : Nat) (digits : ∀ d ∈ ds, d.isDigit = true)
    (least : Nat.ofDigitChars 10 ds value ≤ greatest) (ends : Ends cs) :
    gather value count (ds ++ cs) = (Nat.ofDigitChars 10 ds value, count + ds.length, cs) := by
  induction ds generalizing value count with
  | nil =>
      rw [List.nil_append, Nat.ofDigitChars_nil, List.length_nil, Nat.add_zero]
      cases cs with
      | nil => rw [gather]
      | cons c rest =>
          have digit := (ends c rfl).1
          rw [gather, if_neg]
          rw [digit]
          exact fun both => Bool.false_ne_true both.1
  | cons d rest inductionHypothesis =>
      have same : value * 10 + digitValue d = 10 * value + (d.toNat - '0'.toNat) := by
        rw [digitValue, Nat.mul_comm]
        rfl
      rw [Nat.ofDigitChars_cons, ← same] at least
      have small := Nat.le_trans (le_ofDigitChars _ rest) least
      have further := inductionHypothesis (value * 10 + digitValue d) (count + 1)
        (fun d member => digits d (List.mem_cons_of_mem _ member)) least
      rw [List.cons_append, gather, if_pos ⟨digits d List.mem_cons_self, small⟩, further,
        Nat.ofDigitChars_cons, ← same, List.length_cons, Nat.add_right_comm, Nat.add_assoc]

/-- Only zero is written with a zero in front. -/
theorem head_toDigits {n : Nat} (positive : 0 < n) : (Nat.toDigits 10 n).head? ≠ some '0' := by
  induction n using Nat.strongRecOn with
  | ind n inductionHypothesis =>
      by_cases small : n < 10
      · have digits : ∀ d < 10, 0 < d → [Nat.digitChar d].head? ≠ some '0' := by decide
        rw [Nat.toDigits_of_lt_base small]
        exact digits n small positive
      · have before := inductionHypothesis (n / 10) (by omega) (by omega)
        rw [Nat.toDigits_of_base_le (by decide) (Nat.le_of_not_lt small), List.head?_append]
        cases head : (Nat.toDigits 10 (n / 10)).head? with
        | none => exact absurd (List.head?_eq_none_iff.mp head) Nat.toDigits_ne_nil
        | some c =>
            rw [head] at before
            exact before

theorem takeWhile_of_ends {cs : List Char} (ends : Ends cs) :
    cs.takeWhile Char.isDigit = [] ∧ cs.dropWhile Char.isDigit = cs := by
  cases cs with
  | nil => exact ⟨rfl, rfl⟩
  | cons c rest =>
      have digit := (ends c rfl).1
      rw [List.takeWhile_cons, List.dropWhile_cons, digit]
      exact ⟨rfl, rfl⟩

theorem numberTail_of_ends {cs : List Char} (ends : Ends cs) (positive : Bool) (n : Nat) :
    numberTail positive n 0 cs = whole positive n cs := by
  cases cs with
  | nil => rfl
  | cons c rest =>
      rcases ends c rfl with ⟨_, point, small, capital⟩
      unfold numberTail
      split
      · rename_i same
        exact absurd (List.head_eq_of_cons_eq same) point
      · rename_i same
        exact absurd (List.head_eq_of_cons_eq same) small
      · rename_i same
        exact absurd (List.head_eq_of_cons_eq same) capital
      · rw [if_pos rfl]

/-- A number in range is read back from its digits. -/
theorem number_toDigits {n : Nat} (least : n ≤ greatest) {cs : List Char} (ends : Ends cs)
    (positive : Bool) : number positive (Nat.toDigits 10 n ++ cs) = whole positive n cs := by
  rcases Nat.eq_zero_or_pos n with rfl | more
  · rw [Nat.toDigits_zero, List.singleton_append]
    cases cs with
    | nil => rfl
    | cons c rest =>
        have digit := (ends c rfl).1
        simp only [number, digit, Bool.false_eq_true, if_false, if_true]
        exact numberTail_of_ends ends positive 0
  · have digits : ∀ c ∈ Nat.toDigits 10 n, c.isDigit = true := fun c =>
      Nat.isDigit_of_mem_toDigits (by decide) (by decide)
    have back := Nat.ofDigitChars_ten_toDigits (n := n)
    have front := head_toDigits more
    cases written : Nat.toDigits 10 n with
    | nil => exact absurd written Nat.toDigits_ne_nil
    | cons d rest =>
        rw [written] at digits back front
        have nonzero : d ≠ '0' := fun same => front (congrArg Option.some same)
        have value : Nat.ofDigitChars 10 rest (digitValue d) = n := by
          rw [Nat.ofDigitChars_cons, Nat.mul_zero, Nat.zero_add] at back
          exact back
        have gathered := gather_append (digitValue d) 0
          (fun c member => digits c (List.mem_cons_of_mem _ member)) (value.symm ▸ least) ends
        have digit := digits d List.mem_cons_self
        simp only [List.cons_append, number, nonzero, digit, gathered, value, takeWhile_of_ends ends,
          List.length_nil, if_true, if_false]
        exact numberTail_of_ends ends positive n

end Scan
end Json
end Prose
