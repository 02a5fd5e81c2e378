import Prose.Proofs.Tree.Shape

namespace Prose

/-!
# Which error building gives

A syntax tree that is refused is refused for one of its nodes.  `Defect` lists what can be wrong with a
node and which error says so, and `Passes` what building has found in order about a node when it goes on
to one of its children: building goes from left to right, and it looks at the shape of a type only when
the first child has been built.  So it leaves a text type through its first child or not at all.

The error is that of a node with a defect to which such a way leads, and there is such a node exactly if
building fails.
-/

namespace Cst

def at? : Cst → List Nat → Option Cst
  | cst, [] => some cst
  | cst, index :: place => (cst.children.getD [])[index]?.bind fun child => child.at? place

end Cst

namespace Tree

variable {model : Model} {cst node : Cst} {nodes : List Cst} {error : Error} {index : Nat}
  {place : List Nat}

/-- What is wrong with a node, and the error that tells it. -/
inductive Defect (model : Model) : Cst → Error → Prop where
  | unknown {name : String} {children : Option (List Cst)} {value : Option String}
      {data : Option Json.Fields} (unregistered : model.shape? name = none) :
      Defect model ⟨name, children, value, data⟩ (.unknownNodeType name)
  | both {name text : String} {shape : Shape} {nodes : List Cst} {data : Option Json.Fields}
      (registered : model.shape? name = some shape) :
      Defect model ⟨name, some nodes, some text, data⟩
        (.malformedCst name "carries both `children` and `value`")
  | neither {name : String} {shape : Shape} {data : Option Json.Fields}
      (registered : model.shape? name = some shape) :
      Defect model ⟨name, none, none, data⟩
        (.malformedCst name "carries neither `children` nor `value`")
  | value {name text : String} {data : Option Json.Fields}
      (parent : model.shape? name = some .parent) :
      Defect model ⟨name, none, some text, data⟩ (.shapeMismatch name .parent "a text value")
  /-- That there is no place for children shows when the first of them has been built. -/
  | children {name : String} {first : Cst} {rest : List Cst} {data : Option Json.Fields} {tree : Tree}
      (text : model.shape? name = some .text) (built : ofCst model first = .ok tree) :
      Defect model ⟨name, some (first :: rest), none, data⟩ (.shapeMismatch name .text "children")

/-- Building goes from a node on to its child at an index: the node has a registered type and children
only, the children to the left are built, and a text type is left through its first child. -/
inductive Passes (model : Model) (index : Nat) : Cst → Prop where
  | intro {name : String} {shape : Shape} {nodes : List Cst} {data : Option Json.Fields}
      (registered : model.shape? name = some shape) (first : shape = .text → index = 0)
      (left : ∀ sibling ∈ nodes.take index, ∃ tree, ofCst model sibling = .ok tree) :
      Passes model index ⟨name, some nodes, none, data⟩

/-- A node with a defect stands at a place, and building passes through all nodes above it. -/
structure Refused (model : Model) (cst : Cst) (place : List Nat) (node : Cst) (error : Error) : Prop where
  found : cst.at? place = some node
  defect : Defect model node error
  passed : ∀ front index back, place = front ++ index :: back →
    ∃ above, cst.at? front = some above ∧ Passes model index above

/-! ## Types and shapes -/

/-- A registered name is the name of its type. -/
theorem exists_resolve_of_shape? {name : String} {shape : Shape}
    (registered : model.shape? name = some shape) :
    ∃ type, model.resolve name = .ok type ∧ type.shape = shape ∧ type.name = name := by
  cases resolved : model.resolve name with
  | error error =>
      rw [Model.shape?_of_resolve_error resolved] at registered
      cases registered
  | ok type =>
      rw [Model.shape?_of_resolve resolved] at registered
      cases registered
      exact ⟨type, rfl, rfl, Model.name_of_resolve resolved⟩

theorem resolve_of_shape?_none {name : String} (unregistered : model.shape? name = none) :
    model.resolve name = .error (.unknownNodeType name) := by
  rw [Model.shape?, Option.map_eq_none_iff] at unregistered
  rw [Model.resolve, unregistered]

/-! ## From one node to the next -/

theorem refused_here (defect : Defect model cst error) : Refused model cst [] cst error where
  found := rfl
  defect := defect
  passed front index back split := by
    rw [eq_comm, List.append_eq_nil_iff] at split
    cases split.2

theorem at?_cons {name : String} {value : Option String} {data : Option Json.Fields} {child : Cst}
    (here : nodes[index]? = some child) (place : List Nat) :
    Cst.at? ⟨name, some nodes, value, data⟩ (index :: place) = child.at? place := by
  rw [Cst.at?, Option.getD_some, here, Option.bind_some]

/-- A child that is refused is what a node is refused for, if building passes to it. -/
theorem Refused.above {name : String} {data : Option Json.Fields} {child : Cst}
    (refused : Refused model child place node error)
    (passes : Passes model index ⟨name, some nodes, none, data⟩) (here : nodes[index]? = some child) :
    Refused model ⟨name, some nodes, none, data⟩ (index :: place) node error where
  found := (at?_cons here place).trans refused.found
  defect := refused.defect
  passed front other back split := by
    rcases List.cons_eq_append_iff.mp split with ⟨rfl, same⟩ | ⟨rest, rfl, further⟩
    · cases same
      exact ⟨_, rfl, passes⟩
    · rw [at?_cons here]
      exact refused.passed rest other back further

/-- The node that is refused is found below the child that the way leads to. -/
theorem Refused.below (refused : Refused model cst (index :: place) node error) :
    ∃ name nodes data child, cst = ⟨name, some nodes, none, data⟩ ∧ nodes[index]? = some child ∧
      Passes model index cst ∧ Refused model child place node error := by
  rcases refused.passed [] index place rfl with ⟨above, root, passes⟩
  cases root
  cases passes with
  | @intro name shape nodes data registered first left =>
      have found := refused.found
      rw [Cst.at?, Option.getD_some] at found
      rcases Option.bind_eq_some_iff.mp found with ⟨child, here, inside⟩
      refine ⟨name, nodes, data, child, rfl, here, .intro registered first left, inside,
        refused.defect, fun front other back split => ?_⟩
      rcases refused.passed (index :: front) other back (by rw [split, List.cons_append]) with
        ⟨above, there, passed⟩
      exact ⟨above, (at?_cons here front).symm.trans there, passed⟩

/-! ## A refused tree is refused for a node -/

/-- The first of several nodes that fails is what all of them fail for. -/
theorem ofCstAll_of_error {child : Cst} (here : nodes[index]? = some child)
    (left : ∀ sibling ∈ nodes.take index, ∃ tree, ofCst model sibling = .ok tree)
    (failed : ofCst model child = .error error) : ofCstAll model nodes = .error error := by
  induction nodes generalizing index with
  | nil => cases here
  | cons first rest inductionHypothesis =>
      cases index with
      | zero =>
          cases here
          rw [ofCstAll, failed]
      | succ index =>
          rw [List.take_succ_cons, List.forall_mem_cons] at left
          rcases left.1 with ⟨tree, built⟩
          rw [ofCstAll, built, inductionHypothesis here left.2]
          rfl

theorem ofCstAll_cons_error {rest : List Cst}
    (failed : ofCstAll model (node :: rest) = .error error) :
    ofCst model node = .error error ∨
      ∃ tree, ofCst model node = .ok tree ∧ ofCstAll model rest = .error error := by
  rw [ofCstAll] at failed
  cases first : ofCst model node with
  | error other =>
      rw [first] at failed
      cases failed
      exact Or.inl rfl
  | ok tree =>
      rw [first] at failed
      cases others : ofCstAll model rest with
      | error other =>
          rw [others] at failed
          cases failed
          exact Or.inr ⟨tree, rfl, rfl⟩
      | ok more =>
          rw [others] at failed
          cases failed

section

variable {name : String} {value : Option String} {data : Option Json.Fields}

theorem defect_of_unregistered {children : Option (List Cst)} (unregistered : model.shape? name = none)
    (failed : ofCst model ⟨name, children, value, data⟩ = .error error) :
    Defect model ⟨name, children, value, data⟩ error := by
  rw [ofCst_of_unknown (resolve_of_shape?_none unregistered)] at failed
  cases failed
  exact .unknown unregistered

/-- A node without children can only be refused for itself. -/
theorem defect_of_childless (failed : ofCst model ⟨name, none, value, data⟩ = .error error) :
    Defect model ⟨name, none, value, data⟩ error := by
  cases registered : model.shape? name with
  | none => exact defect_of_unregistered registered failed
  | some shape =>
      rcases exists_resolve_of_shape? registered with ⟨type, resolved, rfl, rfl⟩
      cases value with
      | none =>
          rw [ofCst_neither resolved] at failed
          cases failed
          exact .neither registered
      | some text =>
          cases shape : type.shape with
          | text => rw [ofCst_value_of_text resolved shape] at failed; cases failed
          | parent =>
              rw [ofCst_value_of_parent resolved shape] at failed
              cases failed
              exact .value (shape ▸ registered)

/-- So can a node with children and a text. -/
theorem defect_of_both {text : String}
    (failed : ofCst model ⟨name, some nodes, some text, data⟩ = .error error) :
    Defect model ⟨name, some nodes, some text, data⟩ error := by
  cases registered : model.shape? name with
  | none => exact defect_of_unregistered registered failed
  | some shape =>
      rcases exists_resolve_of_shape? registered with ⟨type, resolved, rfl, rfl⟩
      rw [ofCst_both resolved] at failed
      cases failed
      exact .both registered

/-- A node with children is refused for itself or for its children, and a node of a text type then for the
first of them. -/
theorem defect_or_ofCstAll_error (failed : ofCst model ⟨name, some nodes, none, data⟩ = .error error) :
    Defect model ⟨name, some nodes, none, data⟩ error ∨
      ∃ shape, model.shape? name = some shape ∧ ofCstAll model nodes = .error error ∧
        (shape = .text → ∃ first rest, nodes = first :: rest ∧ ofCst model first = .error error) := by
  cases registered : model.shape? name with
  | none => exact Or.inl (defect_of_unregistered registered failed)
  | some shape =>
      rcases exists_resolve_of_shape? registered with ⟨type, resolved, rfl, rfl⟩
      cases shape : type.shape with
      | parent =>
          rw [ofCst_children_of_parent resolved shape] at failed
          cases all : ofCstAll model nodes with
          | ok trees => rw [all] at failed; cases failed
          | error other =>
              rw [all] at failed
              cases failed
              exact Or.inr ⟨.parent, rfl, rfl, nofun⟩
      | text =>
          cases nodes with
          | nil => rw [ofCst_empty_of_text resolved shape] at failed; cases failed
          | cons first rest =>
              rw [ofCst_children_of_text resolved shape] at failed
              cases built : ofCst model first with
              | ok tree =>
                  rw [built] at failed
                  cases failed
                  exact Or.inl (.children (shape ▸ registered) built)
              | error other =>
                  rw [built] at failed
                  cases failed
                  have all : ofCstAll model (first :: rest) = .error error :=
                    @ofCstAll_of_error _ _ _ 0 _ rfl nofun built
                  exact Or.inr ⟨.text, rfl, all, fun _ => ⟨first, rest, rfl, built⟩⟩

end

mutual

theorem exists_refused : ∀ (cst : Cst), ofCst model cst = .error error →
    ∃ place node, Refused model cst place node error
  | ⟨name, none, value, data⟩, failed => ⟨[], _, refused_here (defect_of_childless failed)⟩
  | ⟨name, some nodes, some text, data⟩, failed => ⟨[], _, refused_here (defect_of_both failed)⟩
  | ⟨name, some nodes, none, data⟩, failed => by
      rcases defect_or_ofCstAll_error failed with defect | ⟨shape, registered, failedAll, head⟩
      · exact ⟨[], _, refused_here defect⟩
      · rcases exists_refused_of_all nodes failedAll with
          ⟨index, child, place, node, here, left, refused⟩
        refine ⟨index :: place, node, refused.above (.intro registered (fun text => ?_) left) here⟩
        -- The first child of a text type fails, so it does not stand to the left of the way.
        rcases head text with ⟨first, rest, rfl, firstFailed⟩
        cases index with
        | zero => rfl
        | succ index =>
            rw [List.take_succ_cons, List.forall_mem_cons] at left
            rcases left.1 with ⟨tree, built⟩
            rw [firstFailed] at built
            cases built

theorem exists_refused_of_all : ∀ (nodes : List Cst), ofCstAll model nodes = .error error →
    ∃ index child place node, nodes[index]? = some child ∧
      (∀ sibling ∈ nodes.take index, ∃ tree, ofCst model sibling = .ok tree) ∧
        Refused model child place node error
  | [], failed => by
      rw [ofCstAll] at failed
      cases failed
  | first :: rest, failed => by
      rcases ofCstAll_cons_error failed with here | ⟨tree, built, further⟩
      · rcases exists_refused first here with ⟨place, node, refused⟩
        exact ⟨0, first, place, node, rfl, nofun, refused⟩
      · rcases exists_refused_of_all rest further with ⟨index, child, place, node, here, left, refused⟩
        refine ⟨index + 1, child, place, node, here, ?_, refused⟩
        rw [List.take_succ_cons, List.forall_mem_cons]
        exact ⟨⟨tree, built⟩, left⟩

end

/-! ## A tree with such a node is refused -/

theorem ofCst_of_defect (defect : Defect model cst error) : ofCst model cst = .error error := by
  cases defect with
  | unknown unregistered => exact ofCst_of_unknown (resolve_of_shape?_none unregistered) _ _
  | both registered =>
      rcases exists_resolve_of_shape? registered with ⟨type, resolved, _, _⟩
      exact ofCst_both resolved _ _
  | neither registered =>
      rcases exists_resolve_of_shape? registered with ⟨type, resolved, _, _⟩
      exact ofCst_neither resolved
  | value parent =>
      rcases exists_resolve_of_shape? parent with ⟨type, resolved, shape, rfl⟩
      exact ofCst_value_of_parent resolved shape _
  | children text built =>
      rcases exists_resolve_of_shape? text with ⟨type, resolved, shape, rfl⟩
      rw [ofCst_children_of_text resolved shape, built]

theorem Refused.ofCst_eq (refused : Refused model cst place node error) :
    ofCst model cst = .error error := by
  induction place generalizing cst with
  | nil =>
      cases refused.found
      exact ofCst_of_defect refused.defect
  | cons index place inductionHypothesis =>
      rcases refused.below with ⟨name, nodes, data, child, rfl, here, passes, inner⟩
      have failed := inductionHypothesis inner
      cases passes with
      | intro registered first left =>
          rcases exists_resolve_of_shape? registered with ⟨type, resolved, rfl, _⟩
          cases shape : type.shape with
          | parent =>
              rw [ofCst_children_of_parent resolved shape, ofCstAll_of_error here left failed]
              rfl
          | text =>
              cases first shape
              cases nodes with
              | nil => cases here
              | cons head rest =>
                  cases here
                  rw [ofCst_children_of_text resolved shape, failed]

/-- Building fails exactly if there is a node with a defect to which it gets, and with the error that
tells this defect. -/
theorem ofCst_error_iff (model : Model) (cst : Cst) (error : Error) :
    ofCst model cst = .error error ↔ ∃ place node, Refused model cst place node error := by
  constructor
  · exact exists_refused cst
  · rintro ⟨place, node, refused⟩
    exact refused.ofCst_eq

/-- The first child of a text type is found out before the text type is. -/
example :
    ofCst .standard (.parent Kind.root [.leaf Kind.word "a",
      .parent Kind.word [.leaf "Unheard" "b"], .leaf "Unknown" "c"]) =
      .error (.unknownNodeType "Unheard") := by
  rfl

end Tree
end Prose
