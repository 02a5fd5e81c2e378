import Prose.Proofs.Json.Scan
import Prose.Text.Quoted

namespace Prose
namespace Text
namespace Quoted

/-!
# Quoted texts stand for themselves

A quoted text can be told from its written form, and so can what comes behind it: the closing quote is
the first one that is not escaped, and every character is read back from its escape.
-/

/-! ## Hexadecimal digits -/

/-- The number that hexadecimal digits stand for. -/
def number (digits : List Char) : Nat :=
  digits.foldl (fun value c => value * 16 + (Json.Scan.hexValue? c).getD 0) 0

theorem number_hex (n : Nat) : number (hex n) = n := by
  induction n using Nat.strongRecOn with
  | ind n inductionHypothesis =>
      by_cases small : n < 16
      · rw [hex, Nat.toDigits_of_lt_base small]
        simp [number, Json.Scan.hexValue?_digitChar small]
      · have before := inductionHypothesis (n / 16) (by omega)
        rw [hex, number] at before
        rw [hex, Nat.toDigits_of_base_le (by decide) (Nat.le_of_not_lt small), number,
          List.foldl_append, before, List.foldl_cons, List.foldl_nil,
          Json.Scan.hexValue?_digitChar (Nat.mod_lt n (by decide)), Option.getD_some]
        omega

theorem mem_hex {n : Nat} {c : Char} (member : c ∈ hex n) :
    ∃ d < 16, c = Nat.digitChar d := by
  induction n using Nat.strongRecOn with
  | ind n inductionHypothesis =>
      by_cases small : n < 16
      · rw [hex, Nat.toDigits_of_lt_base small, List.mem_singleton] at member
        exact ⟨n, small, member⟩
      · rw [hex, Nat.toDigits_of_base_le (by decide) (Nat.le_of_not_lt small), List.mem_append,
          List.mem_singleton] at member
        rcases member with before | last
        · exact inductionHypothesis (n / 16) (by omega) before
        · exact ⟨n % 16, Nat.mod_lt n (by decide), last⟩

theorem ne_brace_of_mem_hex {n : Nat} {c : Char} (member : c ∈ hex n) : c ≠ '\x7d' := by
  rcases mem_hex member with ⟨d, small, rfl⟩
  exact (by decide : ∀ d < 16, Nat.digitChar d ≠ '\x7d') d small

theorem not_mem_hex (n : Nat) : '\n' ∉ hex n := by
  intro member
  rcases mem_hex member with ⟨d, small, same⟩
  exact (by decide : ∀ d < 16, '\n' ≠ Nat.digitChar d) d small same

/-! ## Reading back -/

/-- The character at the beginning of a quoted text, and what comes behind it. -/
def decodeChar : List Char → Option (Char × List Char)
  | [] => none
  | '\\' :: '0' :: rest => some ('\x00', rest)
  | '\\' :: 't' :: rest => some ('\t', rest)
  | '\\' :: 'n' :: rest => some ('\n', rest)
  | '\\' :: 'r' :: rest => some ('\r', rest)
  | '\\' :: '"' :: rest => some ('"', rest)
  | '\\' :: '\\' :: rest => some ('\\', rest)
  | '\\' :: 'u' :: '\x7b' :: rest =>
    some (Char.ofNat (number (rest.takeWhile (· ≠ '\x7d'))), (rest.dropWhile (· ≠ '\x7d')).drop 1)
  | c :: rest => some (c, rest)

theorem decodeChar_encodeChar (c : Char) (rest : List Char) :
    decodeChar (encodeChar c ++ rest) = some (c, rest) := by
  unfold encodeChar
  split
  · rename_i same
    subst same
    rfl
  split
  · rename_i same
    subst same
    rfl
  split
  · rename_i same
    subst same
    rfl
  split
  · rename_i same
    subst same
    rfl
  split
  · rename_i same
    subst same
    rfl
  split
  · rename_i same
    subst same
    rfl
  split
  · rename_i backslash _
    rw [List.singleton_append]
    unfold decodeChar
    split <;> simp_all
  · have digits : ∀ d ∈ hex c.toNat, decide (d ≠ '\x7d') = true := fun d member =>
      decide_eq_true (ne_brace_of_mem_hex member)
    have taken := @List.takeWhile_append_of_pos _ _ _ ('\x7d' :: rest) digits
    have dropped := @List.dropWhile_append_of_pos _ _ _ ('\x7d' :: rest) digits
    simp only [List.cons_append, List.nil_append, List.append_assoc]
    rw [decodeChar, taken, dropped]
    simp [number_hex]

/-- A character stands alone, or it is written behind a backslash. -/
theorem encodeChar_cases (c : Char) :
    (encodeChar c = [c] ∧ c ≠ '\n' ∧ c ≠ '"') ∨
      ∃ rest, encodeChar c = '\\' :: rest ∧ '\n' ∉ rest := by
  unfold encodeChar
  split
  · exact .inr ⟨_, rfl, by decide⟩
  split
  · exact .inr ⟨_, rfl, by decide⟩
  split
  · exact .inr ⟨_, rfl, by decide⟩
  split
  · exact .inr ⟨_, rfl, by decide⟩
  split
  · exact .inr ⟨_, rfl, by decide⟩
  split
  · exact .inr ⟨_, rfl, by decide⟩
  split
  · exact .inl ⟨rfl, ‹_›, ‹_›⟩
  · refine .inr ⟨'u' :: '\x7b' :: (hex c.toNat ++ ['\x7d']), rfl, ?_⟩
    simp [not_mem_hex c.toNat]

/-- No written character begins with a quote. -/
theorem exists_encodeChar (c : Char) :
    ∃ first rest, encodeChar c = first :: rest ∧ first ≠ '"' := by
  rcases encodeChar_cases c with ⟨alone, -, other⟩ | ⟨rest, escaped, -⟩
  · exact ⟨c, [], alone, other⟩
  · exact ⟨'\\', rest, escaped, by decide⟩

/-- A quoted text stands on one line. -/
theorem not_mem_encode (s : String) : '\n' ∉ (encode s).toList := by
  have each : ∀ c ∈ s.toList, '\n' ∉ encodeChar c := by
    intro c _
    rcases encodeChar_cases c with ⟨alone, other, -⟩ | ⟨rest, escaped, closed⟩
    · rw [alone]
      exact fun same => other (List.mem_singleton.mp same).symm
    · rw [escaped]
      simp [closed]
  rw [encode, String.toList_ofList]
  simpa using each

/-- A quoted text and what comes behind it are known from what is written. -/
theorem flatMap_encodeChar_inj : ∀ {s t u v : List Char},
    s.flatMap encodeChar ++ '"' :: u = t.flatMap encodeChar ++ '"' :: v → s = t ∧ u = v
  | [], [], u, v, same => ⟨rfl, (List.cons.inj same).2⟩
  | [], d :: t, u, v, same => by
      rcases exists_encodeChar d with ⟨first, rest, written, other⟩
      rw [List.flatMap_cons, written] at same
      exact absurd (List.cons.inj same).1.symm other
  | c :: s, [], u, v, same => by
      rcases exists_encodeChar c with ⟨first, rest, written, other⟩
      rw [List.flatMap_cons, written] at same
      exact absurd (List.cons.inj same).1 other
  | c :: s, d :: t, u, v, same => by
      rw [List.flatMap_cons, List.flatMap_cons, List.append_assoc, List.append_assoc] at same
      have read := congrArg decodeChar same
      rw [decodeChar_encodeChar, decodeChar_encodeChar, Option.some.injEq, Prod.mk.injEq] at read
      rcases flatMap_encodeChar_inj read.2 with ⟨rfl, rfl⟩
      exact ⟨read.1 ▸ rfl, rfl⟩

end Quoted
end Text
end Prose
