import Prose.Tree.Build

namespace Prose

/-!
# Stores of nodes

A store keeps nodes under references, so that a node may be a child in several places and may be edited
while others refer to it.  Below a reference stands a tree, as long as no node is below itself; a tree
read from a store shows a shared node once for each of its places.
-/

/-- A reference to a node of a store. -/
abbrev Ref := Nat

/-- The nodes made so far. -/
structure Store where
  nodes : Array (Node Ref)

namespace Store

def empty : Store := ⟨#[]⟩

def get? (store : Store) (ref : Ref) : Option (Node Ref) := store.nodes[ref]?

def add (store : Store) (node : Node Ref) : Store × Ref :=
  (⟨store.nodes.push node⟩, store.nodes.size)

def set (store : Store) (ref : Ref) (node : Node Ref) : Store :=
  ⟨store.nodes.setIfInBounds ref node⟩

/-- Change a node by an operation that may fail or have no effect. -/
def edit (store : Store) (ref : Ref) (change : Node Ref → Except Error (Node Ref)) :
    Except Error Store :=
  match store.get? ref with
  | some node => (change node).map (store.set ref)
  | none => .ok store

def create (store : Store) (model : Model) (type : String) : Except Error (Store × Ref) :=
  (model.resolve type).map fun type => store.add (Node.create type)

def children (store : Store) (ref : Ref) : List Ref :=
  match store.get? ref with
  | some node => node.children
  | none => []

/-! ## Trees in a store -/

mutual

/-- Add the nodes of a tree. -/
def plant (store : Store) : Tree → Store × Ref
  | .branch type data children =>
    let (store, refs) := plantAll store children
    store.add ⟨type, .children refs, data⟩
  | .leaf type data value => store.add ⟨type, .text value, data⟩

def plantAll (store : Store) : List Tree → Store × List Ref
  | [] => (store, [])
  | tree :: rest =>
    let (store, ref) := plant store tree
    let (store, refs) := plantAll store rest
    (store, ref :: refs)

end

/-- The tree below a reference, if it is at most `depth` nodes deep. -/
def treeWithin (store : Store) : Nat → Ref → Option Tree
  | 0, _ => none
  | depth + 1, ref =>
    match store.get? ref with
    | none => none
    | some node =>
      match node.content with
      | .text value => some (.leaf node.type node.data value)
      | .children refs =>
        (refs.mapM (treeWithin store depth)).map fun trees => .branch node.type node.data trees

/-- The tree below a reference.  No path in it is longer than there are nodes. -/
def tree? (store : Store) (ref : Ref) : Option Tree := store.treeWithin (store.nodes.size + 1) ref

mutual

/-- Give the nodes below a reference the texts and annotations of a tree of the same form.  At a node in
several places the last one stays. -/
def overwrite (store : Store) (ref : Ref) : Tree → Store
  | .leaf _ data value =>
    match store.get? ref with
    | some node => store.set ref { node with content := .text value, data := data }
    | none => store
  | .branch _ data trees =>
    match store.get? ref with
    | some node =>
      overwriteAll (store.set ref { node with data := data }) node.children trees
    | none => store

def overwriteAll (store : Store) (refs : List Ref) : List Tree → Store
  | [] => store
  | tree :: trees =>
    match refs with
    | [] => store
    | ref :: refs => overwriteAll (overwrite store ref tree) refs trees

end

/-- Apply a transform of trees to the nodes below a reference. -/
def transform (store : Store) (ref : Ref) (change : Tree → Tree) : Store :=
  match store.tree? ref with
  | some tree => store.overwrite ref (change tree)
  | none => store

/-- Visit nodes from a list of references, and after each node those below it, as they are after its
visit.  The number of visits is bounded. -/
def visit {α : Type} (look : Store → Ref → Store × List α) :
    Nat → Store → List Ref → Store × List α
  | 0, store, _ => (store, [])
  | _, store, [] => (store, [])
  | visits + 1, store, ref :: rest =>
    let (store, found) := look store ref
    let (store, more) := visit look visits store (store.children ref ++ rest)
    (store, found ++ more)

end Store
end Prose
