import Prose.Proofs.Tree.Edits
import Prose.Proofs.Tree.Stored

namespace Prose

/-!
# Types that nodes keep

A node gets its type when it is made and keeps it.  Types may be registered anew at any time, also under the
name of a node's type and with the other shape: that decides what is made later, and nothing else.  So a
node has children if the shape of its own type asks for them and a text if it asks for that, and every
operation is admitted or refused by the node's own shape.

`Typed` says so for one node among those that a history has left, and what each operation on it comes to.
-/

/-- A model with the nodes that have been made over it. -/
structure Editor where
  model : Model
  store : Store

namespace Editor

/-- What may happen to a model and to nodes.  Annotations may be changed in any way. -/
inductive Event where
  | register (name : String) (shape : Shape)
  | create (type : String)
  | load (cst : Cst)
  | append (parent child : Ref)
  | prepend (parent child : Ref)
  | remove (parent : Ref) (index : Nat)
  | setText (node : Ref) (text : String)
  | annotate (node : Ref) (change : Json.Fields → Json.Fields)

/-- What comes back: an error, or the node that has been made or taken out, if there is one. -/
abbrev Answer := Except Error (Option Ref)

def start (model : Model) : Editor := ⟨model, Store.empty⟩

/-- Take the store that an operation gives; if it fails, all stays as it was. -/
def settle (editor : Editor) : Except Error (Store × Option Ref) → Editor × Answer
  | .ok (store, ref) => ({ editor with store := store }, .ok ref)
  | .error error => (editor, .error error)

/-- Change a node by an operation that may fail. -/
def change (editor : Editor) (ref : Ref) (operation : Node Ref → Except Error (Node Ref)) :
    Editor × Answer :=
  editor.settle ((editor.store.edit ref operation).map fun store => (store, none))

/-- What an event makes of an editor, and what comes back. -/
def step (editor : Editor) : Event → Editor × Answer
  | .register name shape => ({ editor with model := editor.model.register name shape }, .ok none)
  | .create type =>
    editor.settle ((editor.store.create editor.model type).map fun made => (made.1, some made.2))
  | .load cst =>
    editor.settle ((Tree.ofCst editor.model cst).map fun tree =>
      ((editor.store.plant tree).1, some (editor.store.plant tree).2))
  | .append parent child => editor.change parent (·.append child)
  | .prepend parent child => editor.change parent (·.prepend child)
  | .remove parent index =>
    match (editor.store.get? parent).bind (·.remove index) with
    | some (child, node) => ({ editor with store := editor.store.set parent node }, .ok (some child))
    | none => (editor, .ok none)
  | .setText node text => editor.change node (·.setText text)
  | .annotate node change => editor.change node fun node => .ok { node with data := change node.data }

def after (editor : Editor) (events : List Event) : Editor :=
  events.foldl (fun editor event => (editor.step event).1) editor

/-- One node is another one now, and all else is as it was. -/
structure Becomes (before after : Editor) (ref : Ref) (node : Node Ref) : Prop where
  model : after.model = before.model
  here : after.store.get? ref = some node
  elsewhere : ∀ other, other ≠ ref → after.store.get? other = before.store.get? other

/-- An operation is meant for nodes of a shape.  Such a node becomes another one.  On any other node the
operation fails with the type and the shape that the node itself has, and nothing is changed. -/
structure MeantFor (shape : Shape) (operation : String) (editor : Editor) (ref : Ref)
    (node changed : Node Ref) (event : Event) : Prop where
  done : node.type.shape = shape →
    ∃ after, editor.step event = (after, .ok none) ∧ Becomes editor after ref changed
  refused : node.type.shape ≠ shape →
    editor.step event = (editor, .error (.shapeMismatch node.type.name node.type.shape operation))

/-- What holds of a node of an editor, and what the operations on it come to. -/
structure Typed (editor : Editor) (ref : Ref) (node : Node Ref) : Prop where
  children_iff : (∃ nodes, node.content = .children nodes) ↔ node.type.shape = .parent
  text_iff : (∃ text, node.content = .text text) ↔ node.type.shape = .text
  append : ∀ child, MeantFor .parent "children" editor ref node
    { node with content := .children (node.children ++ [child]) } (.append ref child)
  prepend : ∀ child, MeantFor .parent "children" editor ref node
    { node with content := .children (child :: node.children) } (.prepend ref child)
  setText : ∀ text, MeantFor .text "a text value" editor ref node
    { node with content := .text text } (.setText ref text)
  /-- A child at an index is taken out. -/
  remove : ∀ index child, node.type.shape = .parent → node.children[index]? = some child →
    ∃ after, editor.step (.remove ref index) = (after, .ok (some child)) ∧
      Becomes editor after ref { node with content := .children (node.children.eraseIdx index) }
  /-- Of a node with a text, and at an index out of range, nothing is taken out. -/
  remove_none : ∀ index, node.type.shape = .text ∨ node.children.length ≤ index →
    editor.step (.remove ref index) = (editor, .ok none)
  /-- Annotations may be changed at every node. -/
  annotate : ∀ change, ∃ after, editor.step (.annotate ref change) = (after, .ok none) ∧
    Becomes editor after ref { node with data := change node.data }
  /-- Whatever happens later, the node is there and has its type. -/
  lasts : ∀ later, ∃ changed, (editor.after later).store.get? ref = some changed ∧
    changed.type = node.type

end Editor

/-! ## What stays -/

namespace Store

variable {store after : Store} {ref : Ref} {node changed : Node Ref}

/-- The nodes of a store are still there, with the types that they had. -/
def KeepsTypes (store after : Store) : Prop :=
  ∀ ref node, store.get? ref = some node → ∃ changed, after.get? ref = some changed ∧
    changed.type = node.type

theorem KeepsTypes.refl (store : Store) : KeepsTypes store store :=
  fun _ node found => ⟨node, found, rfl⟩

theorem KeepsTypes.trans {first second third : Store} (one : KeepsTypes first second)
    (two : KeepsTypes second third) : KeepsTypes first third := by
  intro ref node found
  rcases one ref node found with ⟨middle, found', same⟩
  rcases two ref middle found' with ⟨last, found'', same'⟩
  exact ⟨last, found'', same'.trans same⟩

theorem Grown.keepsTypes (grown : Grown store after) : KeepsTypes store after := by
  intro ref node found
  have old : ref < store.nodes.size := (Array.getElem?_eq_some_iff.mp found).1
  exact ⟨node, (grown.kept ref old).trans found, rfl⟩

theorem keepsTypes_set (found : store.get? ref = some node) (same : changed.type = node.type) :
    KeepsTypes store (store.set ref changed) := by
  intro other old found'
  by_cases here : ref = other
  · subst here
    rw [found] at found'
    cases found'
    exact ⟨changed, get?_set_self found changed, same⟩
  · exact ⟨old, (get?_set_of_ne here changed).trans found', rfl⟩

/-- No edit takes a node away or gives it another type. -/
theorem Edited.keepsTypes (edited : Edited store after) : KeepsTypes store after := by
  cases edited with
  | same => exact .refl store
  | made type => exact (grown_add store _).keepsTypes
  | @planted tree _ =>
      rcases Store.planted tree store with ⟨refs, _, fresh⟩
      exact fresh.grown.keepsTypes
  | altered found alters => exact keepsTypes_set found alters.type

end Store

namespace Editor

variable {editor : Editor} {ref : Ref} {node changed : Node Ref}

theorem store_change (editor : Editor) (ref : Ref) (operation : Node Ref → Except Error (Node Ref)) :
    (editor.change ref operation).1.store =
      editor.store.orElse (editor.store.edit ref operation) := by
  rw [change]
  cases editor.store.edit ref operation <;> rfl

/-- An event is an edit of the store with the types of the time, or leaves the store as it is. -/
theorem store_step (editor : Editor) (event : Event) :
    (editor.step event).1.store = editor.store ∨
      ∃ edit, (editor.step event).1.store = editor.store.apply edit := by
  cases event with
  | register name shape => exact .inl rfl
  | create type =>
      refine .inr ⟨.create editor.model type, ?_⟩
      rw [step, Store.apply]
      cases editor.store.create editor.model type <;> rfl
  | load cst =>
      refine .inr ⟨.load editor.model cst, ?_⟩
      rw [step, Store.apply]
      cases Tree.ofCst editor.model cst <;> rfl
  | append parent child => exact .inr ⟨.append parent child, store_change editor parent _⟩
  | prepend parent child => exact .inr ⟨.prepend parent child, store_change editor parent _⟩
  | setText node text => exact .inr ⟨.setText node text, store_change editor node _⟩
  | annotate node change => exact .inr ⟨.annotate node change, store_change editor node _⟩
  | remove parent index =>
      refine .inr ⟨.remove parent index, ?_⟩
      rw [step, Store.apply]
      cases (editor.store.get? parent).bind (·.remove index) <;> rfl

/-- Events keep a store well shaped, and keep the types of its nodes. -/
theorem kept_after (shaped : editor.store.WellShaped) (events : List Event) :
    (editor.after events).store.WellShaped ∧
      Store.KeepsTypes editor.store (editor.after events).store := by
  induction events generalizing editor with
  | nil => exact ⟨shaped, .refl _⟩
  | cons event rest inductionHypothesis =>
      have here : (editor.step event).1.store.WellShaped ∧
          Store.KeepsTypes editor.store (editor.step event).1.store := by
        rcases store_step editor event with same | ⟨edit, edited⟩
        · rw [same]
          exact ⟨shaped, .refl _⟩
        · rw [edited]
          exact ⟨shaped.apply edit, (Store.edited_apply _ edit).keepsTypes⟩
      have further := inductionHypothesis here.1
      exact ⟨further.1, here.2.trans further.2⟩

/-! ## One operation -/

theorem becomes_set (found : editor.store.get? ref = some node) (changed : Node Ref) :
    Becomes editor { editor with store := editor.store.set ref changed } ref changed where
  model := rfl
  here := Store.get?_set_self found changed
  elsewhere _ different := Store.get?_set_of_ne different.symm changed

/-- An operation that a node admits makes another one of it. -/
theorem change_of_ok {operation : Node Ref → Except Error (Node Ref)}
    (found : editor.store.get? ref = some node) (done : operation node = .ok changed) :
    ∃ after, editor.change ref operation = (after, .ok none) ∧ Becomes editor after ref changed := by
  refine ⟨_, ?_, becomes_set found changed⟩
  rw [change, Store.edit, found]
  simp only [done]
  rfl

theorem change_of_error {operation : Node Ref → Except Error (Node Ref)} {error : Error}
    (found : editor.store.get? ref = some node) (failed : operation node = .error error) :
    editor.change ref operation = (editor, .error error) := by
  rw [change, Store.edit, found]
  simp only [failed]
  rfl

/-- An operation that nodes of one shape admit, and others refuse, is meant for that shape. -/
theorem meantFor_change {shape : Shape} {name : String} {event : Event}
    {operation : Node Ref → Except Error (Node Ref)} (found : editor.store.get? ref = some node)
    (asks : editor.step event = editor.change ref operation)
    (admits : node.type.shape = shape → operation node = .ok changed)
    (refuses : node.type.shape ≠ shape →
      operation node = .error (.shapeMismatch node.type.name node.type.shape name)) :
    MeantFor shape name editor ref node changed event where
  done same := by
    rw [asks]
    exact change_of_ok found (admits same)
  refused other := by
    rw [asks]
    exact change_of_error found (refuses other)

theorem step_remove_of_some {index : Nat} {child : Ref} (found : editor.store.get? ref = some node)
    (removed : node.remove index = some (child, changed)) :
    editor.step (.remove ref index) =
      ({ editor with store := editor.store.set ref changed }, .ok (some child)) := by
  rw [step, found, Option.bind_some, removed]

theorem step_remove_of_none {index : Nat} (found : editor.store.get? ref = some node)
    (absent : node.remove index = none) : editor.step (.remove ref index) = (editor, .ok none) := by
  rw [step, found, Option.bind_some, absent]

/-! ## Every node -/

/-- The nodes of a well-shaped store are typed. -/
theorem typed_of_wellShaped (shaped : editor.store.WellShaped)
    (found : editor.store.get? ref = some node) : Typed editor ref node := by
  have own := shaped ref node found
  have lasts := fun later => (kept_after shaped later).2 ref node found
  have annotate : ∀ change : Json.Fields → Json.Fields, ∃ after,
      editor.step (.annotate ref change) = (after, .ok none) ∧
        Becomes editor after ref { node with data := change node.data } :=
    fun _ => change_of_ok found rfl
  rcases node with ⟨type, content, data⟩
  cases content with
  | children nodes =>
      have parent : type.shape = .parent := own
      have text : type.shape ≠ .text := by rw [parent]; nofun
      exact {
        children_iff := iff_of_true ⟨nodes, rfl⟩ parent
        text_iff := iff_of_false nofun text
        append := fun child => meantFor_change found rfl (fun _ => rfl) (absurd parent)
        prepend := fun child => meantFor_change found rfl (fun _ => rfl) (absurd parent)
        setText := fun value => meantFor_change found rfl (fun same => absurd same text) fun _ => rfl
        remove := by
          intro index child _ there
          have removed : Node.remove ⟨type, .children nodes, data⟩ index =
              some (child, ⟨type, .children (nodes.eraseIdx index), data⟩) :=
            Option.map_eq_some_iff.mpr ⟨child, there, rfl⟩
          exact ⟨_, step_remove_of_some found removed, becomes_set found _⟩
        remove_none := by
          rintro index (same | beyond)
          · exact absurd same text
          · exact step_remove_of_none found
              (Option.map_eq_none_iff.mpr (List.getElem?_eq_none beyond))
        annotate := annotate
        lasts := lasts }
  | text value =>
      have text : type.shape = .text := own
      have parent : type.shape ≠ .parent := by rw [text]; nofun
      exact {
        children_iff := iff_of_false nofun parent
        text_iff := iff_of_true ⟨value, rfl⟩ text
        append := fun child => meantFor_change found rfl (fun same => absurd same parent) fun _ => rfl
        prepend := fun child => meantFor_change found rfl (fun same => absurd same parent) fun _ => rfl
        setText := fun value => meantFor_change found rfl (fun _ => rfl) (absurd text)
        remove := fun index child same => absurd same parent
        remove_none := fun index _ => step_remove_of_none found rfl
        annotate := annotate
        lasts := lasts }

/-- Every node that a history has left is typed, whatever types have been registered in between. -/
theorem typed_after (model : Model) (events : List Event)
    (found : ((start model).after events).store.get? ref = some node) :
    Typed ((start model).after events) ref node :=
  typed_of_wellShaped (kept_after Store.wellShaped_empty events).1 found

/-- Words are parents from some time on.  The word made before stays a text and takes in no child, while
the one made later, over the same name, takes in the first. -/
theorem typed_after_registered :
    let events : List Event :=
      [.create Kind.word, .setText 0 "Cat", .register Kind.word .parent, .create Kind.word, .append 0 1,
        .append 1 0, .setText 1 "refused"]
    let word : Node Ref := ⟨⟨Kind.word, .text⟩, .text "Cat", []⟩
    let other : Node Ref := ⟨⟨Kind.word, .parent⟩, .children [0], []⟩
    let editor := (start .standard).after events
    editor.store.get? 0 = some word ∧ Typed editor 0 word ∧
      editor.store.get? 1 = some other ∧ Typed editor 1 other := by
  intro events word other editor
  have found : editor.store.get? 0 = some word := rfl
  have found' : editor.store.get? 1 = some other := rfl
  exact ⟨found, typed_after .standard events found, found', typed_after .standard events found'⟩

end Editor
end Prose
