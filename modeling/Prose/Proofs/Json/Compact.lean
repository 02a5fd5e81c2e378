import Prose.Proofs.Json.RoundTrip

namespace Prose
namespace Json

/-!
# Compact texts stand for their values

No two values without fractions have the same compact text, nor is one text the beginning of another
one, but for the digits of whole numbers.  So a value and what is written behind it can be told from the
whole text, without any bound on its numbers, on its depth or on the order of its fields.
-/

open Scan

variable {v w : Json} {s t : List Char}

/-! ## The first character -/

/-- What can be told of a value from the first character of its text. -/
inductive Opening where
  | null
  | boolean (b : Bool)
  | number
  | string
  | array
  | object

/-- What a value begins with. -/
def opening : Json → Opening
  | .null => .null
  | .boolean b => .boolean b
  | .integer _ | .number _ => .number
  | .string _ => .string
  | .array _ => .array
  | .object _ => .object

/-- What begins with a character. -/
def openingOf (c : Char) : Option Opening :=
  if c.isDigit || c = '-' then some .number
  else if c = 'n' then some .null
  else if c = 't' then some (.boolean true)
  else if c = 'f' then some (.boolean false)
  else if c = '"' then some .string
  else if c = '[' then some .array
  else if c = '\x7b' then some .object
  else none

theorem openingOf_isDigit {c : Char} (digit : c.isDigit = true) : openingOf c = some .number := by
  rw [openingOf, digit, Bool.true_or, if_pos rfl]

/-- Decimal digits begin with one. -/
theorem exists_toDigits (n : Nat) :
    ∃ c rest, Nat.toDigits 10 n = c :: rest ∧ c.isDigit = true := by
  cases written : Nat.toDigits 10 n with
  | nil => exact absurd written Nat.toDigits_ne_nil
  | cons c rest =>
      exact ⟨c, rest, rfl,
        Nat.isDigit_of_mem_toDigits (by decide) (by decide) (written ▸ List.mem_cons_self)⟩

/-- A value's text begins with a character that tells of it. -/
theorem exists_compactChars (whole : v.Whole) :
    ∃ c rest, compactChars v = c :: rest ∧ openingOf c = some v.opening := by
  cases whole with
  | null => exact ⟨'n', _, rfl, rfl⟩
  | boolean b =>
      cases b with
      | true => exact ⟨'t', _, rfl, rfl⟩
      | false => exact ⟨'f', _, rfl, rfl⟩
  | integer n =>
      cases n with
      | negSucc n => exact ⟨'-', _, rfl, rfl⟩
      | ofNat n =>
          rcases exists_toDigits n with ⟨c, rest, written, digit⟩
          exact ⟨c, rest, written, openingOf_isDigit digit⟩
  | string s => exact ⟨'"', _, rfl, rfl⟩
  | array values _ => exact ⟨'[', _, rfl, rfl⟩
  | object fields _ => exact ⟨'\x7b', _, rfl, rfl⟩

/-- Values whose texts begin alike are of one sort. -/
theorem opening_eq (wholeV : v.Whole) (wholeW : w.Whole)
    (same : compactChars v ++ s = compactChars w ++ t) : v.opening = w.opening := by
  rcases exists_compactChars wholeV with ⟨c, rest, textV, first⟩
  rcases exists_compactChars wholeW with ⟨d, more, textW, second⟩
  rw [textV, textW, List.cons_append, List.cons_append] at same
  rw [(List.cons.inj same).1] at first
  exact Option.some.inj (first.symm.trans second)

/-- No value's text begins with a character that nothing begins with. -/
theorem compactChars_append_ne (whole : v.Whole) {c : Char} (nothing : openingOf c = none)
    (cs : List Char) : compactChars v ++ s ≠ c :: cs := by
  intro same
  rcases exists_compactChars whole with ⟨d, rest, text, first⟩
  rw [text, List.cons_append] at same
  rw [(List.cons.inj same).1, nothing] at first
  cases first

/-! ## Strings and numbers -/

theorem quote_inj {a b : String} (same : quote a ++ s = quote b ++ t) : a = b ∧ s = t := by
  simp only [quote, List.cons_append, List.append_assoc, List.nil_append, List.cons.injEq,
    true_and] at same
  have read := congrArg (stringTail [] 0) same
  rw [stringTail_quote, stringTail_quote] at read
  cases read
  exact ⟨rfl, rfl⟩

theorem toDigits_inj {m n : Nat} (endsS : Ends s) (endsT : Ends t)
    (same : Nat.toDigits 10 m ++ s = Nat.toDigits 10 n ++ t) : m = n ∧ s = t := by
  have digits : ∀ n, ∀ c ∈ Nat.toDigits 10 n, c.isDigit = true := fun n c member =>
    Nat.isDigit_of_mem_toDigits (by decide) (by decide) member
  have front : ∀ {n u}, Ends u → (Nat.toDigits 10 n ++ u).takeWhile Char.isDigit = Nat.toDigits 10 n := by
    intro n u ends
    rw [List.takeWhile_append_of_pos (digits n), (takeWhile_of_ends ends).1, List.append_nil]
  have written := congrArg (List.takeWhile Char.isDigit) same
  rw [front endsS, front endsT] at written
  refine ⟨?_, List.append_cancel_left (written ▸ same)⟩
  rw [← Nat.ofDigitChars_ten_toDigits (n := m), written, Nat.ofDigitChars_ten_toDigits]

theorem digits_inj {m n : Int} (endsS : Ends s) (endsT : Ends t)
    (same : digits m ++ s = digits n ++ t) : m = n ∧ s = t := by
  have sign : ∀ {n : Nat} {u cs : List Char}, Nat.toDigits 10 n ++ u ≠ '-' :: cs := by
    intro n u cs same
    rcases exists_toDigits n with ⟨c, rest, written, digit⟩
    rw [written, List.cons_append] at same
    exact ne_of_isDigit digit rfl (List.cons.inj same).1
  cases m with
  | ofNat m =>
      cases n with
      | ofNat n =>
          rcases toDigits_inj endsS endsT same with ⟨rfl, rest⟩
          exact ⟨rfl, rest⟩
      | negSucc n => exact absurd same sign
  | negSucc m =>
      cases n with
      | ofNat n => exact absurd same.symm sign
      | negSucc n =>
          rcases toDigits_inj endsS endsT (List.cons.inj same).2 with ⟨number, rest⟩
          exact ⟨congrArg Int.negSucc (Nat.succ.inj number), rest⟩

/-! ## Arrays and objects -/

def moreItems : List Json → List Char
  | [] => []
  | item :: rest => ',' :: (compactChars item ++ moreItems rest)

def moreFields : Fields → List Char
  | [] => []
  | (key, value) :: rest => ',' :: (quote key ++ ':' :: (compactChars value ++ moreFields rest))

theorem compactItems_cons (item : Json) (rest : List Json) :
    compactItems (item :: rest) = compactChars item ++ moreItems rest := by
  induction rest generalizing item with
  | nil => rw [compactItems, moreItems, List.append_nil]
  | cons next rest inductionHypothesis =>
      rw [compactItems, inductionHypothesis, moreItems]
      exact List.cons_ne_nil next rest

theorem compactFields_cons (key : String) (value : Json) (rest : Fields) :
    compactFields ((key, value) :: rest) =
      quote key ++ ':' :: (compactChars value ++ moreFields rest) := by
  induction rest generalizing key value with
  | nil => rw [compactFields, moreFields, List.append_nil]
  | cons next rest inductionHypothesis =>
      rw [compactFields, inductionHypothesis, moreFields, List.append_assoc, List.cons_append]
      exact List.cons_ne_nil next rest

/-! ## One line -/

theorem not_mem_of_isDigit {digits : List Char} (each : ∀ c ∈ digits, c.isDigit = true) :
    '\n' ∉ digits := fun member => absurd (each _ member) (by decide)

theorem not_mem_toDigits (n : Nat) : '\n' ∉ Nat.toDigits 10 n :=
  not_mem_of_isDigit fun _ member => Nat.isDigit_of_mem_toDigits (by decide) (by decide) member

theorem not_mem_escapeChar (c : Char) : '\n' ∉ escapeChar c := by
  by_cases feed : c = '\n'
  · rw [feed]
    decide
  · have digit : ∀ d < 16, '\n' ≠ Nat.digitChar d := by decide
    have high : '\n' ≠ Nat.digitChar (c.toNat % 16) := digit _ (Nat.mod_lt _ (by decide))
    unfold escapeChar
    iterate 6
      split
      · decide
    split
    · have low : '\n' ≠ Nat.digitChar (c.toNat / 16) := digit _ (by omega)
      simp [hexPair, high, low]
    · exact fun member => feed (List.mem_singleton.mp member).symm

theorem not_mem_quote (s : String) : '\n' ∉ quote s := by
  simp [quote, not_mem_escapeChar]

theorem not_mem_pointed {digits : List Char} (clear : '\n' ∉ digits) (whole : Nat) :
    '\n' ∉ Decimal.pointed digits whole := by
  have front : '\n' ∉ digits.take whole := fun member => clear (List.mem_of_mem_take member)
  have behind : '\n' ∉ digits.drop whole := fun member => clear (List.mem_of_mem_drop member)
  rw [Decimal.pointed]
  split
  · simp [front]
  · simp [front, behind]

theorem not_mem_positional {digits : List Char} (clear : '\n' ∉ digits) (lead : Int) :
    '\n' ∉ Decimal.positional digits lead := by
  cases lead with
  | ofNat k =>
      refine not_mem_pointed ?_ (k + 1)
      simp [clear, List.mem_replicate]
  | negSucc k => simp [Decimal.positional, clear, List.mem_replicate]

theorem not_mem_exponential {digits : List Char} (clear : '\n' ∉ digits) (lead : Int) :
    '\n' ∉ Decimal.exponential notation64 digits lead := by
  unfold Decimal.exponential
  rw [List.mem_append, List.mem_cons, not_or, not_or]
  refine ⟨?_, by decide, ?_⟩
  · split
    · exact List.not_mem_nil
    · exact clear
    · simpa using clear
  · cases lead with
    | ofNat k => simp [notation64, not_mem_toDigits k]
    | negSucc k => simp [not_mem_toDigits (k + 1)]

theorem not_mem_write (x : Binary64) : '\n' ∉ (x.write notation64).toList := by
  have magnitude : '\n' ∉
      (if x.mantissa = 0 then ['0', '.', '0'] else (Decimal.shortest x).write notation64) := by
    split
    · decide
    · rw [Decimal.write]
      split
      · exact not_mem_positional (not_mem_toDigits _) _
      · exact not_mem_exponential (not_mem_toDigits _) _
  rw [Binary64.write, String.toList_ofList]
  split
  · exact List.not_mem_cons_of_ne_of_not_mem (by decide) magnitude
  · exact magnitude

mutual

/-- A compact text is one line. -/
theorem not_mem_compactChars : ∀ v : Json, '\n' ∉ compactChars v
  | .null => by decide
  | .boolean true => by decide
  | .boolean false => by decide
  | .integer (.ofNat n) => not_mem_toDigits n
  | .integer (.negSucc n) => List.not_mem_cons_of_ne_of_not_mem (by decide) (not_mem_toDigits (n + 1))
  | .number x => not_mem_write x
  | .string s => not_mem_quote s
  | .array [] => by decide
  | .array (item :: rest) => by
      rw [compactChars, compactItems_cons]
      simp [not_mem_compactChars item, not_mem_moreItems rest]
  | .object [] => by decide
  | .object ((key, value) :: rest) => by
      rw [compactChars, compactFields_cons]
      simp [not_mem_quote key, not_mem_compactChars value, not_mem_moreFields rest]

theorem not_mem_moreItems : ∀ items : List Json, '\n' ∉ moreItems items
  | [] => List.not_mem_nil
  | item :: rest => by
      rw [moreItems]
      simp [not_mem_compactChars item, not_mem_moreItems rest]

theorem not_mem_moreFields : ∀ fields : Fields, '\n' ∉ moreFields fields
  | [] => List.not_mem_nil
  | (key, value) :: rest => by
      rw [moreFields]
      simp [not_mem_quote key, not_mem_compactChars value, not_mem_moreFields rest]

end

/-! ## Items and fields -/

/-- A value can be told from every text that begins with its own, and so can what is left of it. -/
def Told (v : Json) : Prop :=
  ∀ {w : Json} {s t : List Char}, w.Whole → Ends s → Ends t →
    compactChars v ++ s = compactChars w ++ t → v = w ∧ s = t

theorem ends_moreItems {close : Char}
    (bracket : close.isDigit = false ∧ close ≠ '.' ∧ close ≠ 'e' ∧ close ≠ 'E') (items : List Json)
    (s : List Char) : Ends (moreItems items ++ close :: s) := by
  cases items with
  | nil => exact ends_cons s bracket
  | cons item rest => exact ends_cons _ (by decide)

theorem ends_moreFields (fields : Fields) (s : List Char) : Ends (moreFields fields ++ '\x7d' :: s) := by
  cases fields with
  | nil => exact ends_cons s (by decide)
  | cons field rest => exact ends_cons _ (by decide)

theorem moreItems_inj {values others : List Json} (each : ∀ value ∈ values, value.Told)
    (whole : ∀ value ∈ others, value.Whole)
    (same : moreItems values ++ ']' :: s = moreItems others ++ ']' :: t) : values = others ∧ s = t := by
  induction values generalizing others with
  | nil =>
      cases others with
      | nil => exact ⟨rfl, (List.cons.inj same).2⟩
      | cons other rest => exact absurd (List.cons.inj same).1 (by decide)
  | cons value values inductionHypothesis =>
      cases others with
      | nil => exact absurd (List.cons.inj same).1 (by decide)
      | cons other others =>
          rw [List.forall_mem_cons] at each whole
          simp only [moreItems, List.cons_append, List.append_assoc, List.cons.injEq, true_and] at same
          rcases each.1 whole.1 (ends_moreItems (by decide) values s)
            (ends_moreItems (by decide) others t) same with ⟨rfl, left⟩
          rcases inductionHypothesis each.2 whole.2 left with ⟨rfl, rest⟩
          exact ⟨rfl, rest⟩

theorem moreFields_inj {fields others : Fields} (each : ∀ field ∈ fields, field.2.Told)
    (whole : ∀ field ∈ others, field.2.Whole)
    (same : moreFields fields ++ '\x7d' :: s = moreFields others ++ '\x7d' :: t) :
    fields = others ∧ s = t := by
  induction fields generalizing others with
  | nil =>
      cases others with
      | nil => exact ⟨rfl, (List.cons.inj same).2⟩
      | cons other rest => exact absurd (List.cons.inj same).1 (by decide)
  | cons field fields inductionHypothesis =>
      cases others with
      | nil => exact absurd (List.cons.inj same).1 (by decide)
      | cons other others =>
          rw [List.forall_mem_cons] at each whole
          simp only [moreFields, List.cons_append, List.append_assoc, List.cons.injEq, true_and] at same
          rcases quote_inj same with ⟨keys, behind⟩
          rcases each.1 whole.1 (ends_moreFields fields s) (ends_moreFields others t)
            (List.cons.inj behind).2 with ⟨values, left⟩
          rcases inductionHypothesis each.2 whole.2 left with ⟨rfl, rest⟩
          exact ⟨congrArg (· :: fields) (Prod.ext keys values), rest⟩

theorem compactItems_inj {values others : List Json}
    (each : ∀ value ∈ values, value.Whole ∧ value.Told) (whole : ∀ value ∈ others, value.Whole)
    (same : compactItems values ++ ']' :: s = compactItems others ++ ']' :: t) :
    values = others ∧ s = t := by
  cases values with
  | nil =>
      cases others with
      | nil => exact ⟨rfl, (List.cons.inj same).2⟩
      | cons other others =>
          rw [compactItems_cons, List.append_assoc] at same
          exact absurd same.symm (compactChars_append_ne (whole other List.mem_cons_self) rfl _)
  | cons value values =>
      have wholeV := (each value List.mem_cons_self).1
      cases others with
      | nil =>
          rw [compactItems_cons, List.append_assoc] at same
          exact absurd same (compactChars_append_ne wholeV rfl _)
      | cons other others =>
          refine moreItems_inj (fun value member => (each value member).2) whole ?_
          rw [compactItems_cons, compactItems_cons] at same
          rw [moreItems, moreItems, List.cons_append, List.cons_append, same]

theorem compactFields_inj {fields others : Fields} (each : ∀ field ∈ fields, field.2.Told)
    (whole : ∀ field ∈ others, field.2.Whole)
    (same : compactFields fields ++ '\x7d' :: s = compactFields others ++ '\x7d' :: t) :
    fields = others ∧ s = t := by
  cases fields with
  | nil =>
      cases others with
      | nil => exact ⟨rfl, (List.cons.inj same).2⟩
      | cons other others =>
          rw [compactFields_cons] at same
          exact absurd (List.cons.inj same).1 (by decide)
  | cons field fields =>
      cases others with
      | nil =>
          rw [compactFields_cons] at same
          exact absurd (List.cons.inj same).1 (by decide)
      | cons other others =>
          refine moreFields_inj each whole ?_
          rw [compactFields_cons, compactFields_cons] at same
          rw [moreFields, moreFields, List.cons_append, List.cons_append, same]

/-! ## All values -/

/-- Every value without fractions can be told from its text. -/
theorem told (whole : v.Whole) : v.Told := by
  induction whole with
  | null =>
      intro w s t whole _ _ same
      have opens := opening_eq .null whole same
      cases whole with
      | null => exact ⟨rfl, List.append_cancel_left same⟩
      | _ => cases opens
  | boolean b =>
      intro w s t whole _ _ same
      have opens := opening_eq (.boolean b) whole same
      cases whole with
      | boolean c =>
          cases opens
          exact ⟨rfl, List.append_cancel_left same⟩
      | _ => cases opens
  | integer n =>
      intro w s t whole endsS endsT same
      have opens := opening_eq (.integer n) whole same
      cases whole with
      | integer m =>
          rcases digits_inj endsS endsT same with ⟨rfl, rest⟩
          exact ⟨rfl, rest⟩
      | _ => cases opens
  | string a =>
      intro w s t whole _ _ same
      have opens := opening_eq (.string a) whole same
      cases whole with
      | string b =>
          rcases quote_inj same with ⟨rfl, rest⟩
          exact ⟨rfl, rest⟩
      | _ => cases opens
  | array values each inductionHypothesis =>
      intro w s t whole _ _ same
      have opens := opening_eq (.array values each) whole same
      cases whole with
      | array others whole =>
          simp only [compactChars, List.cons_append, List.append_assoc, List.nil_append,
            List.cons.injEq, true_and] at same
          rcases compactItems_inj (fun value member =>
            ⟨each value member, inductionHypothesis value member⟩) whole same with ⟨rfl, rest⟩
          exact ⟨rfl, rest⟩
      | _ => cases opens
  | object fields each inductionHypothesis =>
      intro w s t whole _ _ same
      have opens := opening_eq (.object fields each) whole same
      cases whole with
      | object others whole =>
          simp only [compactChars, List.cons_append, List.append_assoc, List.nil_append,
            List.cons.injEq, true_and] at same
          rcases compactFields_inj inductionHypothesis whole same with ⟨rfl, rest⟩
          exact ⟨rfl, rest⟩
      | _ => cases opens

/-- Values without fractions are equal if their compact texts are. -/
theorem compactChars_inj (wholeV : v.Whole) (wholeW : w.Whole)
    (same : compactChars v = compactChars w) : v = w :=
  (told wholeV wholeW ends_nil ends_nil (congrArg (· ++ []) same)).1

end Json
end Prose
