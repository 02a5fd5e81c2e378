namespace Prose

/-!
# Changes between two texts

Two lists of lines are compared by lines that both have in the same order.  What is in one list only is
shown as taken out or as put in.
-/

/-- Neighbouring lines: in both texts, only in the old one, or only in the new one. -/
inductive Change where
  | same (lines : List String)
  | removed (lines : List String)
  | added (lines : List String)
deriving DecidableEq, Repr

namespace Change

/-! ## Common lines -/

/-- A row of the table of lengths, from the row above it.  Each place holds how many lines the two
lists have in common up to there. -/
def nextRow (line : String) : (corner left : Nat) → List String → List Nat → List Nat
  | corner, left, other :: others, up :: ups =>
    let here := if line = other then corner + 1 else max left up
    here :: nextRow line up here others ups
  | _, _, _, _ => []

/-- The table of lengths, row after row. -/
def lengths (new : List String) : List Nat → List String → List Nat
  | _, [] => []
  | above, line :: rest =>
    let row := nextRow line 0 0 new above
    row ++ lengths new row rest

/-- Walk back through the table from a place and collect common lines.  Left of the first column the
table is continued by the end of the row above. -/
def collect (old new : Array String) (table : Array Nat) (i j : Nat) (found : List String) :
    List String :=
  match i, j with
  | i + 1, j + 1 =>
    if old[i]? = new[j]? then collect old new table i j ((old[i]?.getD "") :: found)
    else if i = 0 && j = 0 then found
    else if i = 0 ||
        table[(i - 1) * new.size + j]?.getD 0 < table[i * new.size + j - 1]?.getD 0 then
      collect old new table (i + 1) j found
    else collect old new table i (j + 1) found
  | _, _ => found
termination_by i + j

/-- Lines that both texts have in the same order.  A single empty line does not count. -/
def common (old new : List String) : List String :=
  let table := lengths new (new.map fun _ => 0) old
  let found := collect old.toArray new.toArray table.toArray old.length new.length []
  if found = [""] then [] else found

/-! ## Merging -/

/-- The lines in front that all three lists share, and what is left of the lists. -/
def shared : List String → List String → List String →
    List String × List String × List String × List String
  | a :: as, b :: bs, c :: cs =>
    if a = b && a = c then
      let (lines, as, bs, cs) := shared as bs cs
      (a :: lines, as, bs, cs)
    else ([], a :: as, b :: bs, c :: cs)
  | as, bs, cs => ([], as, bs, cs)

def some? (change : List String → Change) (lines : List String) : List Change :=
  if lines.isEmpty then [] else [change lines]

/-- Go through both texts by their common lines, in at most a number of rounds. -/
def merge : Nat → List String → List String → List String → List Change
  | 0, _, _, _ => []
  | rounds + 1, old, new, common =>
    if old.isEmpty && new.isEmpty then []
    else
      let (lines, old, new, common) := shared old new common
      let differs := fun line => some line ≠ common.head?
      some? .same lines ++ some? .removed (old.takeWhile differs) ++
        some? .added (new.takeWhile differs) ++
        merge rounds (old.dropWhile differs) (new.dropWhile differs) common

def split (text : String) : List String := (text.toList.splitOn '\n').map String.ofList

/-- The changes from an old text to a new one. -/
def between (old new : String) : List Change :=
  let a := split old
  let b := split new
  merge (a.length + b.length + 1) a b (common a b)

/-! ## Writing -/

/-- The lines that lines joined to one text show: a last line without text is none, and a carriage
return at the end of a line does not show. -/
def shown (lines : List String) : List String :=
  let lines := split ("\n".intercalate lines)
  let lines := if lines.getLast? = some "" then lines.dropLast else lines
  lines.map fun line =>
    let chars := line.toList
    if chars.getLast? = some '\r' then String.ofList chars.dropLast else line

/-- Every line behind a sign for what became of it. -/
def write : Change → List String
  | .same lines => (shown lines).map (" " ++ ·)
  | .removed lines => (shown lines).map ("-" ++ ·)
  | .added lines => (shown lines).map ("+" ++ ·)

end Change
end Prose
