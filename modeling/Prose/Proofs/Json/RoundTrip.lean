import Prose.Proofs.Json.Scan

namespace Prose
namespace Json

/-!
# Reading back what has been written

A value that is written in the pretty layout is read back as it was, if it holds no fraction and does not
nest too deep.  Reading needs no more steps than the text has characters.
-/

open Scan

/-! ## Values -/

/-- A value as it can be held: its whole numbers fit into sixty-four bits, signed or not, and the keys of
its objects ascend. -/
inductive Held : Json → Prop where
  | null : Held .null
  | boolean (b : Bool) : Held (.boolean b)
  | integer (n : Int) (least : -0x8000000000000000 ≤ n) (most : n ≤ 0xFFFFFFFFFFFFFFFF) :
      Held (.integer n)
  | number (x : Binary64) : Held (.number x)
  | string (s : String) : Held (.string s)
  | array (values : List Json) (each : ∀ value ∈ values, Held value) : Held (.array values)
  | object (fields : Fields) (ascending : fields.Pairwise fun a b => a.1 < b.1)
      (each : ∀ field ∈ fields, Held field.2) : Held (.object fields)

/-- No fraction occurs in a value. -/
inductive Whole : Json → Prop where
  | null : Whole .null
  | boolean (b : Bool) : Whole (.boolean b)
  | integer (n : Int) : Whole (.integer n)
  | string (s : String) : Whole (.string s)
  | array (values : List Json) (each : ∀ value ∈ values, Whole value) : Whole (.array values)
  | object (fields : Fields) (each : ∀ field ∈ fields, Whole field.2) : Whole (.object fields)

/-- The written form of a value is read back, wherever it stands and if nothing behind it could belong to
it. -/
def Reads (v : Json) : Prop :=
  ∀ indent fuel nesting left, (prettyChars indent v).length ≤ fuel + 1 → v.depth < nesting →
    Ends left → Scan.value (fuel + 1) nesting (prettyChars indent v ++ left) = .ok (v, left)

variable {v : Json} {values : List Json} {key : String} {entries : Fields} {left gap : List Char}

/-! ## Layout -/

/-- Items as they are written behind an opening bracket or behind another item. -/
def itemsText (first : Bool) (indent : Nat) : List Json → List Char
  | [] => []
  | value :: rest => (if first then [] else [',']) ++ prettyItems indent (value :: rest)

/-- Fields as they are written behind an opening bracket or behind another field. -/
def fieldsText (first : Bool) (indent : Nat) : List (String × Json) → List Char
  | [] => []
  | field :: rest => (if first then [] else [',']) ++ prettyFields indent (field :: rest)

theorem itemsText_cons (first : Bool) (indent : Nat) (value : Json) (rest : List Json) :
    itemsText first indent (value :: rest) =
      (if first then [] else [',']) ++
        (newLine indent ++ (prettyChars indent value ++ itemsText false indent rest)) := by
  cases rest with
  | nil => simp [itemsText, prettyItems]
  | cons next rest => simp [itemsText, prettyItems]

theorem fieldsText_cons (first : Bool) (indent : Nat) (key : String) (value : Json)
    (rest : List (String × Json)) :
    fieldsText first indent ((key, value) :: rest) =
      (if first then [] else [',']) ++ (newLine indent ++
        '"' :: (key.toList.flatMap escapeChar ++ '"' :: ':' :: ' ' ::
          (prettyChars indent value ++ fieldsText false indent rest))) := by
  cases rest with
  | nil => simp [fieldsText, prettyFields, quote]
  | cons next rest => simp [fieldsText, prettyFields, quote]

/-- What stands between the last part of an array or object and its closing bracket. -/
def gapOf (indent : Nat) (isEmpty : Bool) : List Char := if isEmpty then [] else newLine indent

theorem prettyChars_array (indent : Nat) (values : List Json) :
    prettyChars indent (.array values) =
      '[' :: (itemsText true (indent + 1) values ++ (gapOf indent values.isEmpty ++ [']'])) := by
  cases values with
  | nil => rfl
  | cons value rest => simp [prettyChars, itemsText, gapOf]

theorem prettyChars_object (indent : Nat) (entries : Fields) :
    prettyChars indent (.object entries) =
      '\x7b' :: (fieldsText true (indent + 1) entries ++ (gapOf indent entries.isEmpty ++ ['\x7d'])) := by
  cases entries with
  | nil => rfl
  | cons field rest => simp [prettyChars, fieldsText, gapOf]

theorem blank_newLine (indent : Nat) : ∀ c ∈ newLine indent, isBlank c = true := by
  intro c member
  rcases List.mem_cons.mp member with rfl | inside
  · rfl
  · rw [List.eq_of_mem_replicate inside]
    rfl

theorem blank_gapOf (indent : Nat) (isEmpty : Bool) : ∀ c ∈ gapOf indent isEmpty, isBlank c = true := by
  unfold gapOf
  split
  · exact nofun
  · exact blank_newLine indent

theorem ne_of_isDigit {c d : Char} (digit : c.isDigit = true) (no : d.isDigit = false) : c ≠ d := by
  rintro rfl
  rw [digit] at no
  cases no

theorem solid_of_isDigit {c : Char} (digit : c.isDigit = true) : isBlank c = false ∧ c ≠ ']' := by
  have other (d : Char) (no : d.isDigit = false) : c ≠ d := ne_of_isDigit digit no
  refine ⟨?_, other ']' rfl⟩
  simp only [isBlank, other ' ' rfl, other '\n' rfl, other '\t' rfl, other '\r' rfl, decide_false,
    Bool.or_false]

/-- No text of a value starts with a blank or a closing bracket. -/
theorem prettyChars_opens (whole : v.Whole) (indent : Nat) :
    ∃ c rest, prettyChars indent v = c :: rest ∧ isBlank c = false ∧ c ≠ ']' := by
  cases whole with
  | null => exact ⟨'n', _, rfl, rfl, by decide⟩
  | boolean b =>
      cases b with
      | true => exact ⟨'t', _, rfl, rfl, by decide⟩
      | false => exact ⟨'f', _, rfl, rfl, by decide⟩
  | integer n =>
      cases n with
      | negSucc n => exact ⟨'-', _, rfl, rfl, by decide⟩
      | ofNat n =>
          cases written : Nat.toDigits 10 n with
          | nil => exact absurd written Nat.toDigits_ne_nil
          | cons c rest =>
              have member : c ∈ Nat.toDigits 10 n := written ▸ List.mem_cons_self
              have digit : c.isDigit = true :=
                Nat.isDigit_of_mem_toDigits (by decide) (by decide) member
              exact ⟨c, rest, written, solid_of_isDigit digit⟩
  | string s => exact ⟨'"', _, rfl, rfl, by decide⟩
  | array values _ => exact ⟨'[', _, prettyChars_array indent values, rfl, by decide⟩
  | object entries _ => exact ⟨'\x7b', _, prettyChars_object indent entries, rfl, by decide⟩

/-! ## Items -/

/-- Behind the opening bracket, or behind a comma, an item is found where its text starts. -/
theorem nextItem_of_solid {c : Char} {cs rest : List Char} (found : skipBlanks cs = c :: rest)
    (other : c ≠ ']') (first : Bool) :
    nextItem first ((if first then [] else [',']) ++ cs) = .ok (.more (c :: rest)) := by
  cases first with
  | true =>
      rw [if_pos rfl, List.nil_append, nextItem, found]
      split
      · rename_i same
        cases same
      · rename_i same
        exact absurd (List.head_eq_of_cons_eq same) other
      · rename_i same
        cases same
        rw [if_pos rfl]
  | false =>
      have comma : skipBlanks (',' :: cs) = ',' :: cs := skipBlanks_cons rfl cs
      rw [if_neg Bool.false_ne_true, List.singleton_append, nextItem, comma]
      split
      · rename_i same
        cases same
      · rename_i same
        exact absurd (List.head_eq_of_cons_eq same) (by decide)
      · rename_i same
        cases same
        rw [if_neg Bool.false_ne_true, if_pos rfl, found]
        split
        · rename_i same
          cases same
        · rename_i same
          exact absurd (List.head_eq_of_cons_eq same) other
        · rfl

theorem nextItem_cons {indent : Nat} (opens : ∃ c rest, prettyChars indent v = c :: rest ∧
    isBlank c = false ∧ c ≠ ']') (first : Bool) (rest : List Json) (left : List Char) :
    nextItem first (itemsText first indent (v :: rest) ++ left) =
      .ok (.more (prettyChars indent v ++ (itemsText false indent rest ++ left))) := by
  rcases opens with ⟨c, text, written, solid, other⟩
  have found : skipBlanks (newLine indent ++ (prettyChars indent v ++
      (itemsText false indent rest ++ left))) =
      c :: (text ++ (itemsText false indent rest ++ left)) := by
    rw [skipBlanks_append (blank_newLine indent), written, List.cons_append, skipBlanks_cons solid]
  rw [itemsText_cons, List.append_assoc, List.append_assoc, List.append_assoc,
    nextItem_of_solid found other, written, List.cons_append]

theorem nextItem_close (blank : ∀ c ∈ gap, isBlank c = true) (first : Bool) (left : List Char) :
    nextItem first (gap ++ ']' :: left) = .ok (.close left) := by
  have found : skipBlanks (gap ++ ']' :: left) = ']' :: left := by
    rw [skipBlanks_append blank, skipBlanks_cons rfl]
  simp only [nextItem, found]

theorem not_number_of_blank {c : Char} (blank : isBlank c = true) :
    c.isDigit = false ∧ c ≠ '.' ∧ c ≠ 'e' ∧ c ≠ 'E' := by
  have cases : c = ' ' ∨ c = '\n' ∨ c = '\t' ∨ c = '\r' := by
    simpa [isBlank, or_assoc] using blank
  rcases cases with rfl | rfl | rfl | rfl <;> decide

theorem ends_gap (blank : ∀ c ∈ gap, isBlank c = true) {c : Char}
    (bracket : c.isDigit = false ∧ c ≠ '.' ∧ c ≠ 'e' ∧ c ≠ 'E') (left : List Char) :
    Ends (gap ++ c :: left) := by
  cases gap with
  | nil => exact ends_cons left bracket
  | cons d rest => exact ends_cons _ (not_number_of_blank (blank d List.mem_cons_self))

theorem ends_itemsText (ends : Ends left) (indent : Nat) (values : List Json) :
    Ends (itemsText false indent values ++ left) := by
  cases values with
  | nil => exact ends
  | cons value rest =>
      rw [itemsText_cons]
      exact ends_cons _ (by decide)

/-- Items are read back if each of them is. -/
theorem items_itemsText (first : Bool) (indent fuel nesting : Nat)
    (each : ∀ value ∈ values, value.Whole ∧ value.Reads)
    (steps : (itemsText first indent values).length < fuel)
    (open_lt : depthAll values < nesting) (blank : ∀ c ∈ gap, isBlank c = true) (left : List Char) :
    Scan.items fuel nesting first (itemsText first indent values ++ (gap ++ ']' :: left)) =
      .ok (values, left) := by
  induction values generalizing first fuel with
  | nil =>
      cases fuel with
      | zero => cases steps
      | succ fuel =>
          rw [itemsText, List.nil_append, Scan.items, nextItem_close blank]
  | cons value rest inductionHypothesis =>
      cases fuel with
      | zero => cases steps
      | succ fuel =>
          rcases each value List.mem_cons_self with ⟨whole, reads⟩
          rw [itemsText_cons] at steps
          simp only [List.length_append, newLine, List.length_cons] at steps
          rw [depthAll] at open_lt
          have ends := ends_gap blank (c := ']') (by decide) left
          have further := inductionHypothesis false fuel
            (fun value member => each value (List.mem_cons_of_mem _ member)) (by omega) (by omega)
          rw [Scan.items, nextItem_cons (prettyChars_opens whole indent)]
          cases fuel with
          | zero => omega
          | succ fuel =>
              have item := reads indent fuel nesting _ (by omega) (by omega)
                (ends_itemsText ends indent rest)
              simp only [item, further]

/-! ## Fields -/

theorem colon_cons (cs : List Char) : colon (':' :: cs) = .ok cs := by
  have found : skipBlanks (':' :: cs) = ':' :: cs := skipBlanks_cons rfl cs
  simp only [colon, found]

/-- Behind the opening bracket, or behind a comma, a key is found where its quote stands. -/
theorem nextKey_of_quote {cs rest : List Char} (found : skipBlanks cs = '"' :: rest) (first : Bool) :
    nextKey first ((if first then [] else [',']) ++ cs) = .ok (.more rest) := by
  cases first with
  | true => simp [nextKey, found, keyStart]
  | false =>
      have comma : skipBlanks (',' :: cs) = ',' :: cs := skipBlanks_cons rfl cs
      simp [nextKey, comma, found, keyStart]

theorem nextKey_cons (first : Bool) (indent : Nat) (key : String) (v : Json) (rest : Fields)
    (left : List Char) :
    nextKey first (fieldsText first indent ((key, v) :: rest) ++ left) =
      .ok (.more (key.toList.flatMap escapeChar ++ '"' :: ':' :: ' ' ::
        (prettyChars indent v ++ (fieldsText false indent rest ++ left)))) := by
  have found : ∀ cs, skipBlanks (newLine indent ++ '"' :: cs) = '"' :: cs := fun cs => by
    rw [skipBlanks_append (blank_newLine indent), skipBlanks_cons rfl]
  rw [fieldsText_cons, List.append_assoc, List.append_assoc, List.cons_append,
    nextKey_of_quote (found _)]
  simp only [List.append_assoc, List.cons_append]

theorem nextKey_close (blank : ∀ c ∈ gap, isBlank c = true) (first : Bool) (left : List Char) :
    nextKey first (gap ++ '\x7d' :: left) = .ok (.close left) := by
  have found : skipBlanks (gap ++ '\x7d' :: left) = '\x7d' :: left := by
    rw [skipBlanks_append blank, skipBlanks_cons rfl]
  simp only [nextKey, found]

theorem ends_fieldsText (ends : Ends left) (indent : Nat) (entries : Fields) :
    Ends (fieldsText false indent entries ++ left) := by
  cases entries with
  | nil => exact ends
  | cons field rest =>
      rw [fieldsText_cons]
      exact ends_cons _ (by decide)

/-- A field whose key is above all others comes last. -/
theorem insert_of_above {before : Fields} (above : ∀ field ∈ before, field.1 < key) :
    before.insert key v = before ++ [(key, v)] := by
  induction before with
  | nil => rfl
  | cons field rest inductionHypothesis =>
      have below := above field List.mem_cons_self
      have further := inductionHypothesis fun field member => above field (List.mem_cons_of_mem _ member)
      have different : key ≠ field.1 := fun same => String.lt_irrefl _ (same ▸ below)
      rw [Fields.insert, if_neg (String.lt_asymm below), if_neg different, further, List.cons_append]

theorem value_blank (fuel nesting : Nat) (cs : List Char) :
    Scan.value (fuel + 1) nesting (' ' :: cs) = Scan.value (fuel + 1) nesting cs := by
  rw [Scan.value, Scan.value, skipBlanks_cons_blank rfl]

/-- Fields are read back behind those with lesser keys, if each value is. -/
theorem fields_fieldsText (first : Bool) (indent fuel nesting : Nat) (before : Fields)
    (each : ∀ field ∈ entries, field.2.Reads)
    (ascending : (before ++ entries).Pairwise fun a b => a.1 < b.1)
    (steps : (fieldsText first indent entries).length < fuel)
    (open_lt : depthFields entries < nesting) (blank : ∀ c ∈ gap, isBlank c = true)
    (left : List Char) :
    Scan.fields fuel nesting first before (fieldsText first indent entries ++ (gap ++ '\x7d' :: left)) =
      .ok (before ++ entries, left) := by
  induction entries generalizing first fuel before with
  | nil =>
      cases fuel with
      | zero => cases steps
      | succ fuel =>
          rw [fieldsText, List.nil_append, Scan.fields, nextKey_close blank, List.append_nil]
  | cons field rest inductionHypothesis =>
      rcases field with ⟨key, v⟩
      cases fuel with
      | zero => cases steps
      | succ fuel =>
          rw [fieldsText_cons] at steps
          simp only [List.length_append, newLine, List.length_cons] at steps
          rw [depthFields] at open_lt
          have above : ∀ field ∈ before, field.1 < key := fun field member =>
            (List.pairwise_append.mp ascending).2.2 field member (key, v) List.mem_cons_self
          have ends := ends_gap blank (c := '\x7d') (by decide) left
          have reads : v.Reads := each (key, v) List.mem_cons_self
          have further := inductionHypothesis false fuel (before ++ [(key, v)])
            (fun field member => each field (List.mem_cons_of_mem _ member))
            (by rw [List.append_assoc]; exact ascending) (by omega) (by omega)
          rw [Scan.fields, nextKey_cons]
          simp only [stringTail_quote, colon_cons]
          cases fuel with
          | zero => omega
          | succ fuel =>
              have item := reads indent fuel nesting _ (by omega) (by omega)
                (ends_fieldsText ends indent rest)
              rw [value_blank]
              simp only [item, insert_of_above above, further, List.append_assoc, List.singleton_append]

/-! ## All values -/

theorem value_of_isDigit {c : Char} (digit : c.isDigit = true) (fuel nesting : Nat) (cs : List Char) :
    Scan.value (fuel + 1) nesting (c :: cs) = Scan.number true (c :: cs) := by
  rw [Scan.value, skipBlanks_cons (solid_of_isDigit digit).1]
  split
  · rename_i same
    cases same
  iterate 7
    · rename_i same
      exact absurd (List.head_eq_of_cons_eq same) (ne_of_isDigit digit rfl)
  · rename_i same
    cases same
    rw [if_pos digit]

theorem reads_null : Reads .null := fun _ _ _ _ _ _ _ => rfl

theorem reads_boolean (b : Bool) : Reads (.boolean b) := by
  intro indent fuel nesting left _ _ _
  cases b with
  | true => rfl
  | false => rfl

theorem reads_string (s : String) : Reads (.string s) := by
  intro indent fuel nesting left _ _ _
  have start := skipBlanks_cons (c := '"') rfl
  rw [prettyChars, scalar, quote, List.cons_append, List.cons_append, List.append_assoc,
    List.singleton_append, Scan.value, start]
  simp only [stringTail_quote, Except.map]

theorem reads_ofNat {n : Nat} (most : n ≤ greatest) : Reads (.integer n) := by
  intro indent fuel nesting left _ _ ends
  have back := number_toDigits most ends true
  cases written : Nat.toDigits 10 n with
  | nil => exact absurd written Nat.toDigits_ne_nil
  | cons c rest =>
      have digit : c.isDigit = true :=
        Nat.isDigit_of_mem_toDigits (by decide) (by decide) (written ▸ List.mem_cons_self)
      have text : prettyChars indent (.integer n) = c :: rest := written
      rw [written, List.cons_append] at back
      rw [text, List.cons_append, value_of_isDigit digit, back, Scan.whole, if_pos rfl]

theorem reads_negSucc {n : Nat} (most : n + 1 ≤ Nat.pow 2 63) : Reads (.integer (Int.negSucc n)) := by
  intro indent fuel nesting left _ _ ends
  have greatest_eq : greatest = 0xFFFFFFFFFFFFFFFF := rfl
  have power : Nat.pow 2 63 = 0x8000000000000000 := rfl
  have back := number_toDigits (n := n + 1) (by omega) ends false
  have text : prettyChars indent (.integer (Int.negSucc n)) = '-' :: Nat.toDigits 10 (n + 1) := rfl
  have start := skipBlanks_cons (c := '-') rfl
  rw [text, List.cons_append, Scan.value, start]
  simp only [back]
  rw [Scan.whole, if_neg Bool.false_ne_true, if_pos ⟨Nat.succ_ne_zero n, most⟩]
  rfl

theorem reads_integer {n : Int} (least : -0x8000000000000000 ≤ n) (most : n ≤ 0xFFFFFFFFFFFFFFFF) :
    Reads (.integer n) := by
  cases n with
  | ofNat n =>
      have greatest_eq : greatest = 0xFFFFFFFFFFFFFFFF := rfl
      have most : (n : Int) ≤ 0xFFFFFFFFFFFFFFFF := most
      exact reads_ofNat (by omega)
  | negSucc n =>
      have power : Nat.pow 2 63 = 0x8000000000000000 := rfl
      have least : -0x8000000000000000 ≤ -((n : Int) + 1) := Int.negSucc_eq n ▸ least
      exact reads_negSucc (by omega)

theorem reads_array (each : ∀ value ∈ values, value.Whole ∧ value.Reads) : Reads (.array values) := by
  intro indent fuel nesting left steps open_lt _
  rw [prettyChars_array] at steps
  rw [depth] at open_lt
  simp only [List.length_cons, List.length_append] at steps
  have back := items_itemsText true (indent + 1) fuel (nesting - 1) each (by omega) (by omega)
    (blank_gapOf indent values.isEmpty) left
  have start := skipBlanks_cons (c := '[') rfl
  rw [prettyChars_array, List.cons_append, Scan.value, start]
  simp only [List.append_assoc, List.singleton_append, back, Except.map]
  rw [if_neg (by omega)]

theorem reads_object (ascending : entries.Pairwise fun a b => a.1 < b.1)
    (each : ∀ field ∈ entries, field.2.Reads) : Reads (.object entries) := by
  intro indent fuel nesting left steps open_lt _
  rw [prettyChars_object] at steps
  rw [depth] at open_lt
  simp only [List.length_cons, List.length_append] at steps
  have back := fields_fieldsText true (indent + 1) fuel (nesting - 1) [] each ascending (by omega)
    (by omega) (blank_gapOf indent entries.isEmpty) left
  have start := skipBlanks_cons (c := '\x7b') rfl
  rw [prettyChars_object, List.cons_append, Scan.value, start]
  simp only [List.append_assoc, List.singleton_append, back, Except.map, List.nil_append]
  rw [if_neg (by omega)]

/-- Every value that is held and has no fraction is read back. -/
theorem reads (held : v.Held) (whole : v.Whole) : v.Reads := by
  induction held with
  | null => exact reads_null
  | boolean b => exact reads_boolean b
  | integer n least most => exact reads_integer least most
  | number x => cases whole
  | string s => exact reads_string s
  | array values each inductionHypothesis =>
      cases whole with
      | array _ whole =>
          exact reads_array fun value member =>
            ⟨whole value member, inductionHypothesis value member (whole value member)⟩
  | object entries ascending each inductionHypothesis =>
      cases whole with
      | object _ whole =>
          exact reads_object ascending fun field member =>
            inductionHypothesis field member (whole field member)

end Json
end Prose
