import Mathlib.Data.List.DropRight
import Prose.Proofs.Cst.Spans

namespace Prose
namespace Cst

/-!
# Lines and columns of bytes

A line and a column are counted on the bytes in front of a place: the line is one more than the line feeds
among them, and the column is how many of them stand behind the last one.  Walking over the characters
counts the same, also where a place is inside a character, because a line feed is no part of any other
character.  So the offset of a line and column leads back to the place that they were counted for, one byte
in front of it if that is still in the line.

Offsets are taken in machine words.  The places of a text are words, and so are their sums.  For a column
far beyond the text the sum may be none: a program then stops, or goes on with a smaller word, which is an
offset inside the text as well.
-/

open Json.Scan

variable {front : List UInt8}

def bytesOf (text : String) : List UInt8 := text.toUTF8.data.toList

def lineBehind (front : List UInt8) : Nat := front.count 10 + 1

def columnBehind (front : List UInt8) : Nat := (front.rtakeWhile fun byte => byte ≠ 10).length

theorem bytesOf_eq (text : String) : bytesOf text = text.toList.flatMap String.utf8EncodeChar := by
  have encoded : text.toUTF8 = text.toList.utf8Encode := by
    rw [String.toUTF8_eq_toByteArray, ← String.toByteArray_ofList, String.ofList_toList]
  rw [bytesOf, encoded, List.utf8Encode, List.data_toByteArray]

/-! ## One byte at a time -/

/-- The line and column behind one more byte. -/
def advance (place : Nat × Nat) (byte : UInt8) : Nat × Nat :=
  if byte = 10 then (place.1 + 1, 0) else (place.1, place.2 + 1)

theorem foldl_advance (front : List UInt8) :
    front.foldl advance (1, 0) = (lineBehind front, columnBehind front) := by
  induction front using List.reverseRecOn with
  | nil => rfl
  | append_singleton front byte inductionHypothesis =>
      rw [List.foldl_append, inductionHypothesis, List.foldl_cons, List.foldl_nil, advance]
      by_cases feed : byte = 10
      · simp [feed, lineBehind, columnBehind]
      · simp [feed, lineBehind, columnBehind]

/-- Bytes that are no line feeds stay in the line. -/
theorem foldl_advance_of_inLine (inLine : ∀ byte ∈ front, byte ≠ 10) (line column : Nat) :
    front.foldl advance (line, column) = (line, column + front.length) := by
  induction front generalizing column with
  | nil => rfl
  | cons byte rest inductionHypothesis =>
      rw [List.forall_mem_cons] at inLine
      rw [List.foldl_cons, advance, if_neg inLine.1, inductionHypothesis inLine.2, List.length_cons,
        Nat.add_assoc, Nat.add_comm 1]

/-- No byte of another character is a line feed. -/
theorem ne_of_mem_utf8EncodeChar {c : Char} (inLine : c ≠ '\n') :
    ∀ byte ∈ String.utf8EncodeChar c, byte ≠ 10 := by
  have other : c.val.toNat ≠ 10 := fun same => inLine (Char.ext (UInt32.toNat_inj.mp same))
  rintro byte member rfl
  -- The bytes of a longer encoding are all 128 or more.
  unfold String.utf8EncodeChar at member
  dsimp only at member
  split_ifs at member <;>
    simp only [List.mem_cons, List.not_mem_nil, or_false, ← UInt8.toNat_inj, UInt8.toNat_ofNat',
      UInt8.reduceToNat, Nat.reducePow] at member <;>
    omega

/-- A place is found by walking over the bytes in front of it. -/
theorem lineAndColumn_go_eq (bytes line column : Nat) (cs : List Char) :
    lineAndColumn.go bytes line column cs =
      ((cs.flatMap String.utf8EncodeChar).take bytes).foldl advance (line, column) := by
  induction cs generalizing bytes line column with
  | nil => simp [lineAndColumn.go]
  | cons c rest inductionHypothesis =>
      have size := String.length_utf8EncodeChar c
      rw [lineAndColumn.go, List.flatMap_cons]
      split
      · rename_i none
        simp [none]
      split
      · rename_i some feed
        obtain ⟨fewer, rfl⟩ := Nat.exists_eq_succ_of_ne_zero some
        rw [feed, inductionHypothesis]
        rfl
      have inLine := ne_of_mem_utf8EncodeChar ‹_›
      split
      · rename_i within
        have part : ∀ byte ∈ (String.utf8EncodeChar c).take bytes, byte ≠ 10 := fun byte member =>
          inLine byte (List.mem_of_mem_take member)
        rw [List.take_append_of_le_length (by omega), foldl_advance_of_inLine part, List.length_take,
          Nat.min_eq_left (by omega)]
      · rename_i beyond
        rw [List.take_append, List.take_of_length_le (by omega), size, List.foldl_append,
          foldl_advance_of_inLine inLine, size, inductionHypothesis]

/-- The line and column behind the first bytes of a text. -/
theorem lineAndColumn_eq (text : String) (bytes : Nat) :
    lineAndColumn bytes text.toList =
      (lineBehind ((bytesOf text).take bytes), columnBehind ((bytesOf text).take bytes)) := by
  rw [lineAndColumn, lineAndColumn_go_eq, ← bytesOf_eq, foldl_advance]

/-! ## Machine words -/

variable {cs : List Char} {line column : USize}

theorem sum_lineLengths (cs : List Char) : (lineLengths cs).foldr (· + ·) 0 = byteCount cs := by
  induction cs with
  | nil => rfl
  | cons c rest inductionHypothesis =>
      rw [byteCount, ← inductionHypothesis]
      by_cases feed : c = '\n'
      · rw [lineLengths, if_pos feed, List.foldr_cons, feed]
        rfl
      · rw [lineLengths_cons feed]
        cases lineLengths rest with
        | nil => rfl
        | cons length lengths => simp only [carried, List.foldr_cons]; omega

theorem lineStart_le (cs : List Char) (line : Nat) : lineStart cs line ≤ byteCount cs := by
  have whole :
      ((lineLengths cs).take (line - 1) ++ (lineLengths cs).drop (line - 1)).sum = byteCount cs := by
    rw [List.take_append_drop]
    exact sum_lineLengths cs
  rw [List.sum_append] at whole
  exact Nat.le.intro whole

/-- A text whose bytes have addresses: none takes more than half of the memory. -/
def Addressable (cs : List Char) : Prop := 2 * byteCount cs < USize.size

theorem toNat_min (a b : USize) : (min a b).toNat = min a.toNat b.toNat := by
  change (if a ≤ b then a else b).toNat = _
  simp only [USize.le_iff_toNat_le, apply_ite USize.toNat, Nat.min_def]

theorem Overflow.add_ofNat (overflow : Overflow) {a b : Nat} (first : a < USize.size)
    (second : b < USize.size) :
    overflow.add (.ofNat a) (.ofNat b) =
      if overflow = .wraps ∨ a + b < USize.size then some (.ofNat (a + b)) else none := by
  rw [USize.ofNat_add]
  cases overflow with
  | stops => rw [add, USize.toNat_ofNat_of_lt' first, USize.toNat_ofNat_of_lt' second]; simp
  | wraps => rw [if_pos (.inl rfl)]; rfl

theorem byteOffset_of_addressable (addressable : Addressable cs) (overflow : Overflow)
    (line column : USize) :
    byteOffset overflow cs line column =
      if overflow = .wraps ∨ lineStart cs line.toNat + (column.toNat - 1) < USize.size then
        some (min (.ofNat (lineStart cs line.toNat + (column.toNat - 1))) (.ofNat (byteCount cs)))
      else none := by
  have start := lineStart_le cs line.toNat
  have more := column.toNat_lt_size
  unfold Addressable at addressable
  rw [byteOffset, overflow.add_ofNat (by omega) (by omega)]
  split <;> rfl

theorem Addressable.toNat_byteCount (addressable : Addressable cs) :
    (USize.ofNat (byteCount cs)).toNat = byteCount cs :=
  USize.toNat_ofNat_of_lt' (by unfold Addressable at addressable; omega)

/-- If the sum is a machine word, the offset is that of the numbers. -/
theorem byteOffset_of_lt (addressable : Addressable cs) (overflow : Overflow)
    (word : lineStart cs line.toNat + (column.toNat - 1) < USize.size) :
    byteOffset overflow cs line column = some (.ofNat (offsetOf cs line.toNat column.toNat)) := by
  have inside : offsetOf cs line.toNat column.toNat < USize.size :=
    Nat.lt_of_le_of_lt (Nat.min_le_left _ _) word
  rw [byteOffset_of_addressable addressable, if_pos (.inr word), Option.some.injEq, ← USize.toNat_inj,
    toNat_min, addressable.toNat_byteCount, USize.toNat_ofNat_of_lt' word, USize.toNat_ofNat_of_lt' inside,
    offsetOf]

theorem lineBehind_le (front : List UInt8) : lineBehind front ≤ front.length + 1 :=
  Nat.succ_le_succ List.count_le_length

theorem columnBehind_le (front : List UInt8) : columnBehind front ≤ front.length :=
  (List.rtakeWhile_suffix _ _).length_le

/-- The line and column behind some bytes are machine words, and so is their sum. -/
theorem byteOffset_behind {text : String} (addressable : Addressable text.toList) (overflow : Overflow)
    (bytes : Nat) (inside : bytes ≤ text.utf8ByteSize) :
    let front := (bytesOf text).take bytes
    byteOffset overflow text.toList (.ofNat (lineBehind front)) (.ofNat (columnBehind front)) =
      some (.ofNat (offsetOf text.toList (lineBehind front) (columnBehind front))) := by
  intro front
  have short : front.length ≤ bytes := List.length_take_le _ _
  have lines := lineBehind_le front
  have columns := columnBehind_le front
  have start := lineStart_le text.toList (lineBehind front)
  have half := addressable
  have large := USize.le_size
  rw [Addressable, byteCount_toList] at half
  rw [byteCount_toList] at start
  have line := USize.toNat_ofNat_of_lt' (n := lineBehind front) (by omega)
  have column := USize.toNat_ofNat_of_lt' (n := columnBehind front) (by omega)
  rw [byteOffset_of_lt addressable overflow (by rw [line, column]; omega), line, column]

/-- Where reading stops, the offset that the error tells is the one in machine words: no sum is too large,
whatever becomes of those that are. -/
theorem byteOffset_of_stopped {json : String} {stop : Stop} (addressable : Addressable json.toList)
    (stopped : whole json.toList = .error stop) (overflow : Overflow) :
    let place := lineAndColumn (stopOffset json.toList stop) json.toList
    byteOffset overflow json.toList (.ofNat place.1) (.ofNat place.2) =
      some (.ofNat (offsetOf json.toList place.1 place.2)) := by
  have inside := stopOffset_le (stopped_of_whole stopped)
  rw [byteCount_toList] at inside
  rw [lineAndColumn_eq]
  exact byteOffset_behind addressable overflow _ inside

end Cst
end Prose
