import Prose.Cst.Read
import Prose.Proofs.Json.Stops

namespace Prose
namespace Cst

/-!
# Where reading a syntax tree stops

A syntax tree is read by the scanners of JSON, so its reader stops where these stop.  It adds flaws of its
own, which are noticed behind a scalar, a key or a bracket, and so behind a character of one byte.
-/

open Json.Scan

variable {text cs : List Char}

/-- A scalar of the wrong type is read to its end. -/
theorem stays_mismatch {α : Type} {left : α → List Char} (edge : Edge text cs) (wanted : String) :
    Stays text left (mismatch wanted cs) := by
  have number : ∀ result : Json × List Char, Edge text result.2 →
      Stays text left (mismatch.foundNumber wanted result) := by
    intro result edge
    unfold mismatch.foundNumber
    split <;> exact stays_stopAt edge _
  unfold mismatch
  split
  · exact (stays_literal (by decide) (edge.tail rfl)).bind fun _ behind => stays_stopAt behind _
  · exact (stays_literal (by decide) (edge.tail rfl)).bind fun _ behind => stays_stopAt behind _
  · exact (stays_literal (by decide) (edge.tail rfl)).bind fun _ behind => stays_stopAt behind _
  · exact (stays_number (edge.tail rfl) _).bind number
  · exact (stays_stringTail _ _ (edge.tail rfl).suffix).bind fun _ behind => stays_stopAt behind _
  · exact stays_stopAt edge _
  · exact stays_stopAt edge _
  · split
    · exact (stays_number edge _).bind number
    · exact stays_stopOn edge _
  · exact stays_stopOn edge _

theorem stays_text (edge : Edge text cs) : Stays text Prod.snd (Cst.text cs) := by
  unfold Cst.text
  split
  · rename_i skipped
    exact stays_stopAt (edge.of_skipBlanks skipped) _
  · rename_i skipped
    exact stays_stringTail _ _ ((edge.of_skipBlanks skipped).tail rfl).suffix
  · exact stays_mismatch edge.skipBlanks _

theorem stays_annotations (fuel depth : Nat) (edge : Edge text cs) :
    Stays text Prod.snd (annotations fuel depth cs) := by
  unfold annotations
  split
  · rename_i skipped
    exact stays_stopAt (edge.of_skipBlanks skipped) _
  · rename_i skipped
    have begun := edge.of_skipBlanks skipped
    split
    · exact stays_stopOn begun _
    · exact stays_fields fuel _ _ _ (begun.tail rfl)
  · exact stays_mismatch edge.skipBlanks _

/-- Something that may be missing is read like what it is. -/
theorem stays_optional {α : Type} {read : List Char → Scanned α} (edge : Edge text cs)
    (stays : ∀ {cs : List Char}, Edge text cs → Stays text Prod.snd (read cs)) :
    Stays text Prod.snd (optional read cs) := by
  unfold optional
  split
  · rename_i skipped
    exact (stays_literal (by decide) ((edge.of_skipBlanks skipped).tail rfl)).map fun _ => rfl
  · exact (stays edge.skipBlanks).map fun _ => rfl

theorem Edge.closeObject (edge : Edge text cs) : Edge text (closeObject cs) := by
  unfold Cst.closeObject
  split
  · rename_i skipped
    exact (edge.of_skipBlanks skipped).tail rfl
  · exact edge.skipBlanks

/-- In front of the bracket that ends a node in array form there is an edge as well. -/
theorem stays_item {α : Type} {read : List Char → Scanned α} (first : Bool) (edge : Edge text cs)
    (stays : ∀ {cs : List Char}, Edge text cs → Stays text Prod.snd (read cs)) :
    Stays text Prod.snd (item first read cs) := by
  have next := stays_nextItem edge first
  unfold item
  split
  · exact next.stopped ‹_›
  · rename_i closed
    exact edge.of_skipBlanks (skipBlanks_of_nextItem_close closed)
  · rename_i begun
    exact (stays (next.edge begun)).map fun _ => rfl

theorem exists_left_of_item_none {α : Type} {read : List Char → Scanned α} {first : Bool}
    {left : List Char} (ended : item first read cs = .ok (none, left)) :
    ∃ rest, left = ']' :: rest := by
  unfold item at ended
  split at ended
  · cases ended
  · cases ended
    exact ⟨_, rfl⟩
  · rename_i left' _
    cases result : read left' with
    | error stop => rw [result] at ended; cases ended
    | ok value => rw [result] at ended; cases ended

theorem stays_endItems (edge : Edge text cs) : Stays text id (endItems cs) := by
  unfold endItems
  split
  · rename_i skipped
    exact stays_stopOn (edge.of_skipBlanks skipped) _
  · rename_i skipped
    exact (edge.of_skipBlanks skipped).tail rfl
  · rename_i skipped
    have behind := (edge.of_skipBlanks skipped).tail rfl
    split
    · rename_i skipped
      exact stays_stopOn (behind.of_skipBlanks skipped) _
    · exact stays_stopOn behind.skipBlanks _
  · exact stays_stopOn edge.skipBlanks _

mutual

/-- A node that is read ends behind its closing bracket. -/
theorem stays_node : ∀ (fuel depth : Nat) {cs : List Char}, Edge text cs →
    Stays text Prod.snd (node fuel depth cs)
  | 0, _, _, edge => by
      rw [node]
      exact stays_stopAt edge _
  | fuel + 1, depth, cs, edge => by
      unfold node
      split
      · rename_i skipped
        exact stays_stopAt (edge.of_skipBlanks skipped) _
      · rename_i skipped
        have begun := edge.of_skipBlanks skipped
        split
        · exact stays_stopOn begun _
        · have items := stays_nodeItems fuel (depth - 1) (begun.tail rfl)
          split
          · exact items.stopped ‹_›
          · rename_i read
            exact (stays_endItems (items.edge read)).map fun _ => rfl
      · rename_i skipped
        have begun := edge.of_skipBlanks skipped
        split
        · exact stays_stopOn begun _
        · exact stays_nodeFields fuel _ _ _ (begun.tail rfl)
      · exact stays_mismatch edge.skipBlanks _

theorem stays_nodeItems : ∀ (fuel depth : Nat) {cs : List Char}, Edge text cs →
    Stays text Prod.snd (nodeItems fuel depth cs)
  | 0, _, _, edge => by
      rw [nodeItems]
      exact stays_stopAt edge _
  | fuel + 1, depth, cs, edge => by
      have type := stays_item true edge stays_text
      unfold nodeItems
      split
      · exact type.stopped ‹_›
      · rename_i ended
        rcases exists_left_of_item_none ended with ⟨rest, rfl⟩
        have behind : Edge text rest := Edge.tail (type.edge ended) rfl
        exact stays_stopAt behind _
      · rename_i read
        have children := stays_item false (type.edge read) fun edge =>
          stays_optional edge (stays_nodeList fuel depth)
        split
        · exact children.stopped ‹_›
        · rename_i read
          have value := stays_item false (children.edge read) fun edge =>
            stays_optional edge stays_text
          split
          · exact value.stopped ‹_›
          · rename_i read
            have data := stays_item false (value.edge read) fun edge =>
              stays_optional edge (stays_annotations fuel depth)
            split
            · exact data.stopped ‹_›
            · rename_i read
              have behind := data.edge read
              exact behind

theorem stays_nodeFields : ∀ (fuel depth : Nat) (first : Bool) (draft : Draft) {cs : List Char},
    Edge text cs → Stays text Prod.snd (nodeFields fuel depth first draft cs)
  | 0, _, _, _, _, edge => by
      rw [nodeFields]
      exact stays_stopAt edge _
  | fuel + 1, depth, first, draft, cs, edge => by
      have next := stays_nextKey edge first
      unfold nodeFields
      split
      · exact next.stopped ‹_›
      · rename_i closed
        split
        · exact next.edge closed
        · exact stays_stopAt (next.edge closed) _
      · rename_i begun
        have key := stays_stringTail [] 0 (next.edge begun).suffix
        split
        · exact key.stopped ‹_›
        · rename_i read
          split
          · exact stays_stopAt (Edge.closeObject (key.edge read)) _
          · have behind := stays_colon (key.edge read)
            split
            · exact behind.stopped ‹_›
            · rename_i read
              have edge := behind.edge read
              split
              · have type := stays_text edge
                split
                · exact type.stopped ‹_›
                · rename_i read
                  exact stays_nodeFields fuel depth false _ (type.edge read)
              · have children := stays_optional edge (stays_nodeList fuel depth)
                split
                · exact children.stopped ‹_›
                · rename_i read
                  exact stays_nodeFields fuel depth false _ (children.edge read)
              · have value := stays_optional edge stays_text
                split
                · exact value.stopped ‹_›
                · rename_i read
                  exact stays_nodeFields fuel depth false _ (value.edge read)
              · have data := stays_optional edge (stays_annotations fuel depth)
                split
                · exact data.stopped ‹_›
                · rename_i read
                  exact stays_nodeFields fuel depth false _ (data.edge read)
              · have other := stays_skipValue fuel edge
                split
                · exact other.stopped ‹_›
                · rename_i read
                  exact stays_nodeFields fuel depth false _ (other.edge read)

theorem stays_nodeList : ∀ (fuel depth : Nat) {cs : List Char}, Edge text cs →
    Stays text Prod.snd (nodeList fuel depth cs)
  | 0, _, _, edge => by
      rw [nodeList]
      exact stays_stopAt edge _
  | fuel + 1, depth, cs, edge => by
      unfold nodeList
      split
      · rename_i skipped
        exact stays_stopAt (edge.of_skipBlanks skipped) _
      · rename_i skipped
        have begun := edge.of_skipBlanks skipped
        split
        · exact stays_stopOn begun _
        · exact stays_nodes fuel _ _ (begun.tail rfl)
      · exact stays_mismatch edge.skipBlanks _

theorem stays_nodes : ∀ (fuel depth : Nat) (first : Bool) {cs : List Char}, Edge text cs →
    Stays text Prod.snd (nodes fuel depth first cs)
  | 0, _, _, _, edge => by
      rw [nodes]
      exact stays_stopAt edge _
  | fuel + 1, depth, first, cs, edge => by
      have next := stays_nextItem edge first
      unfold nodes
      split
      · exact next.stopped ‹_›
      · exact next.edge ‹_›
      · rename_i begun
        have child := stays_node fuel depth (next.edge begun)
        split
        · exact child.stopped ‹_›
        · rename_i read
          have rest := stays_nodes fuel depth false (child.edge read)
          split
          · exact rest.stopped ‹_›
          · rename_i read
            have behind := rest.edge read
            exact behind

end

/-- Reading a text as one node stops in one of the ways listed. -/
theorem stopped_of_whole {stop : Stop} (failed : whole text = .error stop) : Stopped text stop := by
  have node := stays_node (2 * fuelFor text) nesting (Edge.refl text)
  unfold whole at failed
  split at failed
  · rename_i stopped
    cases failed
    exact node.stopped stopped
  · rename_i result left read
    have behind : Edge text left := node.edge read
    have finished : Stays text (fun _ => []) (finish result left) := by
      unfold finish
      split
      · rename_i skipped
        exact behind.of_skipBlanks skipped
      · exact stays_stopOn behind.skipBlanks _
    exact finished.stopped failed

end Cst
end Prose
