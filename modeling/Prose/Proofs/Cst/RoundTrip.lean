import Prose.Cst.Read
import Prose.Proofs.Json.RoundTrip

namespace Prose
namespace Cst

/-!
# Reading back syntax trees

A tree that is written as JSON is read back as it was: with the parts that its nodes have, be they empty,
and without those that they lack.  Its annotations must hold no fraction, and the text must not nest too
deep.
-/

open Json (Fields fieldsText itemsText prettyChars)
open Json.Scan

/-- The annotations of a node and of all nodes below it have some property. -/
inductive Annotated (p : Json → Prop) : Cst → Prop where
  | intro {node : Cst} (data : ∀ fields, node.data = some fields → p (.object fields))
      (below : ∀ nodes, node.children = some nodes → ∀ child ∈ nodes, Annotated p child) :
      Annotated p node

/-- The written form of a node is read back, whatever comes behind it. -/
def Reads (tree : Cst) : Prop :=
  ∀ indent fuel nesting left, (prettyChars indent tree.toJson).length ≤ fuel + 1 →
    tree.toJson.depth < nesting →
    node (fuel + 1) nesting (prettyChars indent tree.toJson ++ left) = .ok (tree, left)

variable {α : Type} {key : String} {v : Json} {rest entries : Fields} {draft : Draft} {first : Bool}
  {indent fuel nesting : Nat} {left gap : List Char}

/-! ## The parts of a node -/

/-- The field for a part that a node may lack. -/
def part (key : String) (write : α → Json) (content : Option α) : Fields :=
  (content.map fun x => (key, write x)).toList

def parts (tree : Cst) : Fields :=
  ("type", .string tree.type) ::
    (part "children" (fun nodes => .array (allToJson nodes)) tree.children ++
      (part "value" .string tree.value ++ part "data" .object tree.data))

theorem toJson_eq (tree : Cst) : tree.toJson = .object tree.parts := by
  rcases tree with ⟨type, children, value, data⟩
  cases children <;> cases value <;> cases data <;> rfl

/-! ## Strings, lists and annotations -/

theorem prettyChars_string (indent : Nat) (string : String) (left : List Char) :
    prettyChars indent (.string string) ++ left =
      '"' :: (string.toList.flatMap Json.escapeChar ++ '"' :: left) := by
  rw [Json.prettyChars, Json.scalar, Json.quote, List.cons_append, List.cons_append, List.append_assoc,
    List.singleton_append]

theorem text_string (indent : Nat) (string : String) (left : List Char) :
    text (prettyChars indent (.string string) ++ left) = .ok (string, left) := by
  have start := skipBlanks_cons (c := '"') rfl
  rw [prettyChars_string, text, start]
  exact stringTail_quote string left

theorem text_blank (cs : List Char) : text (' ' :: cs) = text cs := by
  rw [text, text, skipBlanks_cons_blank rfl]

/-- What does not start as `null` does is read as something. -/
theorem optional_written {read : List Char → Scanned α} {written cs : List Char} {x : α}
    (opens : ∃ c text, written = c :: text ∧ isBlank c = false ∧ c ≠ 'n')
    (back : read (written ++ cs) = .ok (x, cs)) :
    optional read (' ' :: (written ++ cs)) = .ok (some x, cs) := by
  rcases opens with ⟨c, text, rfl, solid, other⟩
  rw [List.cons_append] at back ⊢
  rw [optional, skipBlanks_cons_blank rfl, skipBlanks_cons solid]
  split
  · rename_i same
    exact absurd (List.head_eq_of_cons_eq same) other
  · rw [back]
    rfl

/-- Nodes are read back if each of them is. -/
theorem nodes_itemsText (first : Bool) (indent fuel nesting : Nat) {children : List Cst}
    (each : ∀ child ∈ children, child.Reads)
    (steps : (itemsText first indent (allToJson children)).length < fuel)
    (open_lt : Json.depthAll (allToJson children) < nesting) (blank : ∀ c ∈ gap, isBlank c = true)
    (left : List Char) :
    nodes fuel nesting first (itemsText first indent (allToJson children) ++ (gap ++ ']' :: left)) =
      .ok (children, left) := by
  induction children generalizing first fuel with
  | nil =>
      cases fuel with
      | zero => cases steps
      | succ fuel => rw [allToJson, itemsText, List.nil_append, nodes, Json.nextItem_close blank]
  | cons child rest inductionHypothesis =>
      cases fuel with
      | zero => cases steps
      | succ fuel =>
          have reads := each child List.mem_cons_self
          have opens : ∃ c text, prettyChars indent child.toJson = c :: text ∧ isBlank c = false ∧
              c ≠ ']' := by
            rw [toJson_eq]
            exact ⟨'\x7b', _, Json.prettyChars_object indent child.parts, rfl, by decide⟩
          rw [allToJson, Json.itemsText_cons] at steps
          simp only [List.length_append, Json.newLine, List.length_cons] at steps
          rw [allToJson, Json.depthAll] at open_lt
          have further := inductionHypothesis false fuel
            (fun child member => each child (List.mem_cons_of_mem _ member)) (by omega) (by omega)
          rw [allToJson, nodes, Json.nextItem_cons opens]
          cases fuel with
          | zero => omega
          | succ fuel =>
              have item := reads indent fuel nesting
                (itemsText false indent (allToJson rest) ++ (gap ++ ']' :: left)) (by omega) (by omega)
              simp only [item, further]

theorem nodeList_array {children : List Cst} (each : ∀ child ∈ children, child.Reads)
    (steps : (prettyChars indent (.array (allToJson children))).length ≤ fuel + 1)
    (open_lt : (Json.array (allToJson children)).depth < nesting) (left : List Char) :
    nodeList (fuel + 1) nesting (prettyChars indent (.array (allToJson children)) ++ left) =
      .ok (children, left) := by
  rw [Json.prettyChars_array] at steps
  rw [Json.depth] at open_lt
  simp only [List.length_cons, List.length_append] at steps
  have back := nodes_itemsText true (indent + 1) fuel (nesting - 1) each (by omega) (by omega)
    (Json.blank_gapOf indent (allToJson children).isEmpty) left
  have start := skipBlanks_cons (c := '[') rfl
  rw [Json.prettyChars_array, List.cons_append, nodeList, start]
  simp only [List.append_assoc, List.singleton_append, back]
  rw [if_neg (by omega)]

theorem annotations_object {entries : Fields} (held : Json.Held (.object entries))
    (whole : Json.Whole (.object entries))
    (steps : (prettyChars indent (.object entries)).length ≤ fuel + 1)
    (open_lt : (Json.object entries).depth < nesting) (left : List Char) :
    annotations fuel nesting (prettyChars indent (.object entries) ++ left) = .ok (entries, left) := by
  rw [Json.prettyChars_object] at steps
  rw [Json.depth] at open_lt
  simp only [List.length_cons, List.length_append] at steps
  cases held with
  | object _ ascending held =>
      cases whole with
      | object _ whole =>
          have each : ∀ field ∈ entries, field.2.Reads := fun field member =>
            Json.reads (held field member) (whole field member)
          have back := Json.fields_fieldsText true (indent + 1) fuel (nesting - 1) [] each ascending
            (by omega) (by omega) (Json.blank_gapOf indent entries.isEmpty) left
          have start := skipBlanks_cons (c := '\x7b') rfl
          rw [Json.prettyChars_object, List.cons_append, annotations, start]
          simp only [List.append_assoc, List.singleton_append, back, List.nil_append]
          rw [if_neg (by omega)]

/-! ## Fields of nodes -/

theorem nodeFields_type (type : String) (fresh : draft.type = none) :
    nodeFields (fuel + 1) nesting first draft
        (fieldsText first indent (("type", .string type) :: rest) ++ left) =
      nodeFields fuel nesting false { draft with type := some type }
        (fieldsText false indent rest ++ left) := by
  have absent : draft.has .type = false := by rw [Draft.has, fresh]; rfl
  have known : Field.ofKey "type" = .type := rfl
  rw [nodeFields, Json.nextKey_cons]
  simp only [stringTail_quote, known, absent, Bool.false_eq_true, if_false, Json.colon_cons, text_blank,
    text_string]

theorem nodeFields_children {children : List Cst} (fresh : draft.children = none)
    (each : ∀ child ∈ children, child.Reads)
    (steps : (prettyChars indent (.array (allToJson children))).length ≤ fuel)
    (open_lt : (Json.array (allToJson children)).depth < nesting) :
    nodeFields (fuel + 1) nesting first draft
        (fieldsText first indent (("children", .array (allToJson children)) :: rest) ++ left) =
      nodeFields fuel nesting false { draft with children := some (some children) }
        (fieldsText false indent rest ++ left) := by
  have absent : draft.has .children = false := by rw [Draft.has, fresh]; rfl
  have known : Field.ofKey "children" = .children := rfl
  have written := Json.prettyChars_array indent (allToJson children)
  cases fuel with
  | zero => rw [written] at steps; cases steps
  | succ fuel =>
      have back := optional_written ⟨'[', _, written, rfl, by decide⟩
        (nodeList_array each steps open_lt (fieldsText false indent rest ++ left))
      rw [nodeFields, Json.nextKey_cons]
      simp only [stringTail_quote, known, absent, Bool.false_eq_true, if_false, Json.colon_cons, back]

theorem nodeFields_value (value : String) (fresh : draft.value = none) :
    nodeFields (fuel + 1) nesting first draft
        (fieldsText first indent (("value", .string value) :: rest) ++ left) =
      nodeFields fuel nesting false { draft with value := some (some value) }
        (fieldsText false indent rest ++ left) := by
  have absent : draft.has .value = false := by rw [Draft.has, fresh]; rfl
  have known : Field.ofKey "value" = .value := rfl
  have written : prettyChars indent (.string value) =
    '"' :: (value.toList.flatMap Json.escapeChar ++ ['"']) := rfl
  have back := optional_written ⟨'"', _, written, rfl, by decide⟩
    (text_string indent value (fieldsText false indent rest ++ left))
  rw [nodeFields, Json.nextKey_cons]
  simp only [stringTail_quote, known, absent, Bool.false_eq_true, if_false, Json.colon_cons, back]

theorem nodeFields_data {data : Fields} (fresh : draft.data = none) (held : Json.Held (.object data))
    (whole : Json.Whole (.object data))
    (steps : (prettyChars indent (.object data)).length ≤ fuel)
    (open_lt : (Json.object data).depth < nesting) :
    nodeFields (fuel + 1) nesting first draft
        (fieldsText first indent (("data", .object data) :: rest) ++ left) =
      nodeFields fuel nesting false { draft with data := some (some data) }
        (fieldsText false indent rest ++ left) := by
  have absent : draft.has .data = false := by rw [Draft.has, fresh]; rfl
  have known : Field.ofKey "data" = .data := rfl
  have back := optional_written ⟨'\x7b', _, Json.prettyChars_object indent data, rfl, by decide⟩
    (annotations_object held whole (Nat.le_succ_of_le steps) open_lt
      (fieldsText false indent rest ++ left))
  rw [nodeFields, Json.nextKey_cons]
  simp only [stringTail_quote, known, absent, Bool.false_eq_true, if_false, Json.colon_cons, back]

theorem nodeFields_close {tree : Cst} (complete : draft.node? = some tree)
    (blank : ∀ c ∈ gap, isBlank c = true) :
    nodeFields (fuel + 1) nesting first draft (gap ++ '\x7d' :: left) = .ok (tree, left) := by
  rw [nodeFields, Json.nextKey_close blank]
  simp only [complete]

/-- Reading the fields of a node comes from those in `entries` to those in `rest`. -/
def ComesTo (indent nesting : Nat) (left : List Char) (before : Draft) (entries : Fields)
    (behind : Draft) (rest : Fields) : Prop :=
  ∀ fuel, (fieldsText false indent entries).length < fuel → Json.depthFields entries < nesting →
    ∃ fuel', (fieldsText false indent rest).length < fuel' ∧ Json.depthFields rest < nesting ∧
      nodeFields fuel nesting false before (fieldsText false indent entries ++ left) =
        nodeFields fuel' nesting false behind (fieldsText false indent rest ++ left)

theorem ComesTo.trans {before between behind : Draft} {between' : Fields}
    (first : ComesTo indent nesting left before entries between between')
    (second : ComesTo indent nesting left between between' behind rest) :
    ComesTo indent nesting left before entries behind rest := by
  intro fuel steps open_lt
  rcases first fuel steps open_lt with ⟨fuel', steps', open_lt', read⟩
  rcases second fuel' steps' open_lt' with ⟨last, enough, fits, read'⟩
  exact ⟨last, enough, fits, read.trans read'⟩

/-- A field that a node may lack is read if it is there, and otherwise the draft stays as it is. -/
theorem comesTo_part {write : α → Json} {content : Option α} {before behind : Draft}
    (absent : content = none → behind = before)
    (present : ∀ x fuel, content = some x → (prettyChars indent (write x)).length ≤ fuel →
      (write x).depth < nesting →
      nodeFields (fuel + 1) nesting false before
          (fieldsText false indent ((key, write x) :: rest) ++ left) =
        nodeFields fuel nesting false behind (fieldsText false indent rest ++ left)) :
    ComesTo indent nesting left before (part key write content ++ rest) behind rest := by
  intro fuel steps open_lt
  cases content with
  | none => exact ⟨fuel, steps, open_lt, by rw [absent rfl]; rfl⟩
  | some x =>
      have fields : part key write (some x) ++ rest = (key, write x) :: rest := rfl
      rw [fields] at steps open_lt ⊢
      rw [Json.fieldsText_cons] at steps
      simp only [List.length_append, List.length_cons] at steps
      rw [Json.depthFields] at open_lt
      cases fuel with
      | zero => cases steps
      | succ fuel =>
          exact ⟨fuel, by omega, by omega, present x fuel rfl (by omega) (by omega)⟩

theorem comesTo_children {children : Option (List Cst)}
    (each : ∀ nodes, children = some nodes → ∀ child ∈ nodes, child.Reads) (type : String) :
    ComesTo indent nesting left ⟨some type, none, none, none⟩
      (part "children" (fun nodes => .array (allToJson nodes)) children ++ rest)
      ⟨some type, children.map some, none, none⟩ rest := by
  refine comesTo_part (fun missing => by rw [missing]; rfl) ?_
  intro nodes fuel found steps open_lt
  rw [nodeFields_children rfl (each nodes found) steps open_lt, found]
  rfl

theorem comesTo_value (type : String) (children : Option (Option (List Cst))) (value : Option String) :
    ComesTo indent nesting left ⟨some type, children, none, none⟩ (part "value" .string value ++ rest)
      ⟨some type, children, value.map some, none⟩ rest := by
  refine comesTo_part (fun missing => by rw [missing]; rfl) ?_
  intro text fuel found _ _
  rw [nodeFields_value text rfl, found]
  rfl

theorem comesTo_data {data : Option Fields}
    (held : ∀ fields, data = some fields → Json.Held (.object fields))
    (whole : ∀ fields, data = some fields → Json.Whole (.object fields)) (type : String)
    (children : Option (Option (List Cst))) (value : Option (Option String)) :
    ComesTo indent nesting left ⟨some type, children, value, none⟩ (part "data" .object data ++ rest)
      ⟨some type, children, value, data.map some⟩ rest := by
  refine comesTo_part (fun missing => by rw [missing]; rfl) ?_
  intro fields fuel found steps open_lt
  rw [nodeFields_data rfl (held fields found) (whole fields found) steps open_lt, found]
  rfl

/-- What a node has besides its type is read to the end. -/
theorem comesTo_nil (indent nesting : Nat) (left : List Char) {tree : Cst}
    (each : ∀ nodes, tree.children = some nodes → ∀ child ∈ nodes, child.Reads)
    (held : ∀ data, tree.data = some data → Json.Held (.object data))
    (whole : ∀ data, tree.data = some data → Json.Whole (.object data)) :
    ComesTo indent nesting left ⟨some tree.type, none, none, none⟩
      (part "children" (fun nodes => .array (allToJson nodes)) tree.children ++
        (part "value" .string tree.value ++ part "data" .object tree.data))
      ⟨some tree.type, tree.children.map some, tree.value.map some, tree.data.map some⟩ [] := by
  have data : ComesTo indent nesting left
      ⟨some tree.type, tree.children.map some, tree.value.map some, none⟩
      (part "data" .object tree.data ++ [])
      ⟨some tree.type, tree.children.map some, tree.value.map some, tree.data.map some⟩ [] :=
    comesTo_data held whole tree.type _ _
  rw [List.append_nil] at data
  exact (comesTo_children each tree.type).trans ((comesTo_value tree.type _ tree.value).trans data)

/-- The fields of a node are read back if its children are. -/
theorem nodeFields_parts {tree : Cst} (indent fuel nesting : Nat)
    (each : ∀ nodes, tree.children = some nodes → ∀ child ∈ nodes, child.Reads)
    (held : ∀ data, tree.data = some data → Json.Held (.object data))
    (whole : ∀ data, tree.data = some data → Json.Whole (.object data))
    (steps : (fieldsText true indent tree.parts).length < fuel)
    (open_lt : Json.depthFields tree.parts < nesting) (blank : ∀ c ∈ gap, isBlank c = true)
    (left : List Char) :
    nodeFields fuel nesting true Draft.empty
        (fieldsText true indent tree.parts ++ (gap ++ '\x7d' :: left)) = .ok (tree, left) := by
  rw [parts] at steps open_lt ⊢
  rw [Json.fieldsText_cons] at steps
  simp only [List.length_append, List.length_cons] at steps
  rw [Json.depthFields] at open_lt
  cases fuel with
  | zero => cases steps
  | succ fuel =>
      rcases comesTo_nil indent nesting (gap ++ '\x7d' :: left) each held whole fuel (by omega)
        (by omega) with ⟨last, steps, _, read⟩
      rw [nodeFields_type tree.type rfl]
      refine read.trans ?_
      cases last with
      | zero => cases steps
      | succ last =>
          refine nodeFields_close ?_ blank
          rcases tree with ⟨type, children, value, data⟩
          cases children <;> cases value <;> cases data <;> rfl

/-! ## Trees -/

/-- Every tree is read back whose annotations are held and have no fraction. -/
theorem reads {tree : Cst} (held : tree.Annotated Json.Held) (whole : tree.Annotated Json.Whole) :
    tree.Reads := by
  induction held with
  | @intro tree held _ inductionHypothesis =>
      cases whole with
      | intro whole below =>
          intro indent fuel nesting left steps open_lt
          rw [toJson_eq] at steps open_lt ⊢
          rw [Json.prettyChars_object] at steps ⊢
          rw [Json.depth] at open_lt
          simp only [List.length_cons, List.length_append] at steps
          have each : ∀ nodes, tree.children = some nodes → ∀ child ∈ nodes, child.Reads :=
            fun nodes found child member =>
              inductionHypothesis nodes found child member (below nodes found child member)
          have back := nodeFields_parts (indent + 1) fuel (nesting - 1) each held whole (by omega)
            (by omega) (Json.blank_gapOf indent tree.parts.isEmpty) left
          have start := skipBlanks_cons (c := '\x7b') rfl
          rw [List.cons_append, node, start]
          simp only [List.append_assoc, List.singleton_append, back]
          rw [if_neg (by omega)]

/-- A tree is read back from its pretty text, if its annotations have no fraction and no more than 127
arrays and objects are open at once. -/
theorem ofJson_pretty {tree : Cst} (held : tree.Annotated Json.Held)
    (whole : tree.Annotated Json.Whole) (nested : tree.toJson.depth ≤ 127) :
    ofJson tree.toJson.pretty = .ok tree := by
  have back := reads held whole 0 (4 * (prettyChars 0 tree.toJson).length + 3) 128 []
    (by omega) (by omega)
  rw [List.append_nil] at back
  have text : tree.toJson.pretty.toList = prettyChars 0 tree.toJson := String.toList_ofList
  have fuel : 2 * fuelFor (prettyChars 0 tree.toJson) =
    4 * (prettyChars 0 tree.toJson).length + 3 + 1 := by rw [fuelFor]; omega
  rw [ofJson, text, Cst.whole, fuel, Json.Scan.nesting, back]
  rfl

def mixedData : Fields :=
  [("a", .array [.integer (-9223372036854775808), .integer 18446744073709551615, .null]),
    ("b\"\\\n\x01é", .object [("", .boolean true)])]

def mixed : Cst := ⟨"Root", some [⟨"", some [], some "", some []⟩], none, some mixedData⟩

theorem annotated_mixed {p : Json → Prop} (top : p (.object mixedData)) (bottom : p (.object [])) :
    mixed.Annotated p := by
  refine .intro ?_ ?_
  · intro fields found
    cases found
    exact top
  · intro nodes found child member
    cases found
    cases List.mem_singleton.mp member
    refine .intro ?_ ?_
    · intro fields found
      cases found
      exact bottom
    · intro nodes found child member
      cases found
      cases member

theorem ofJson_pretty_mixed :
    mixed.Annotated Json.Held ∧ mixed.Annotated Json.Whole ∧ mixed.toJson.depth ≤ 127 ∧
      ofJson mixed.toJson.pretty = .ok mixed := by
  have held : mixed.Annotated Json.Held := by
    refine annotated_mixed ?_ (.object [] .nil nofun)
    refine .object _ (by decide) (List.forall_mem_cons.mpr ⟨.array _ ?_, ?_⟩)
    · exact List.forall_mem_cons.mpr ⟨.integer _ (by decide) (by decide),
        List.forall_mem_cons.mpr ⟨.integer _ (by decide) (by decide),
          List.forall_mem_singleton.mpr .null⟩⟩
    · exact List.forall_mem_singleton.mpr
        (.object _ (by decide) (List.forall_mem_singleton.mpr (.boolean true)))
  have whole : mixed.Annotated Json.Whole := by
    refine annotated_mixed ?_ (.object [] nofun)
    refine .object _ (List.forall_mem_cons.mpr ⟨.array _ ?_, ?_⟩)
    · exact List.forall_mem_cons.mpr ⟨.integer _, List.forall_mem_cons.mpr ⟨.integer _,
        List.forall_mem_singleton.mpr .null⟩⟩
    · exact List.forall_mem_singleton.mpr (.object _ (List.forall_mem_singleton.mpr (.boolean true)))
  have nested : mixed.toJson.depth ≤ 127 := by decide
  exact ⟨held, whole, nested, ofJson_pretty held whole nested⟩

end Cst
end Prose
