import Prose.Proofs.Tree.Stored
import Prose.Store.Transforms

namespace Prose

/-!
# Words in a store

A walk over the nodes below a reference rewrites words one after the other, in a store that changes
meanwhile.  The walk keeps all links, so it comes to the nodes of an unshared tree in document order and
to each of them once.  Therefore it can be said node by node what the store is afterwards: `Changes`
compares two stores that differ by one function at some references.

No rewriting fails, whatever shape the type of a word has: a new text is only looked for where there is an
old one, and where there is one it can be replaced.
-/

namespace Node

variable {χ : Type}

def word? (node : Node χ) : Option String := if node.type.name = Kind.word then node.text? else none

def editWord (edit : String → Tree.Edit) (node : Node χ) : Node χ :=
  match node.word? with
  | none => node
  | some word =>
    match edit word with
    | .keep => node
    | .replace text => { node with content := .text text }
    | .replaceAndMark text key mark =>
      { node with content := .text text, data := node.data.insert key mark }

theorem word?_branch (type : NodeType) (children : List χ) (data : Json.Fields) :
    word? ⟨type, .children children, data⟩ = none := by
  unfold word?
  split <;> rfl

theorem word?_of_word {type : NodeType} (isWord : type.name = Kind.word) (value : String)
    (data : Json.Fields) : word? (⟨type, .text value, data⟩ : Node χ) = some value :=
  if_pos isWord

theorem word?_of_other {node : Node χ} (other : node.type.name ≠ Kind.word) : node.word? = none :=
  if_neg other

theorem editWord_of_none {node : Node χ} (none : node.word? = none) (edit : String → Tree.Edit) :
    node.editWord edit = node := by
  rw [editWord, none]

theorem editWord_of_word {node : Node χ} {word : String} (isWord : node.word? = some word)
    (edit : String → Tree.Edit) :
    node.editWord edit =
      match edit word with
      | .keep => node
      | .replace text => { node with content := .text text }
      | .replaceAndMark text key mark =>
        { node with content := .text text, data := node.data.insert key mark } := by
  rw [editWord, isWord]

/-- Only a node with a text is a word. -/
theorem content_of_word? {node : Node χ} {word : String} (isWord : node.word? = some word) :
    node.type.name = Kind.word ∧ node.content = .text word := by
  rcases node with ⟨type, content, data⟩
  unfold word? at isWord
  split at isWord
  · rename_i name
    cases content with
    | children nodes => cases isWord
    | text value =>
        cases isWord
        exact ⟨name, rfl⟩
  · cases isWord

end Node

namespace Tree

/-- The edit that gives words new texts. -/
def Edit.respell (rewrite : String → Option String) (word : String) : Edit :=
  match rewrite word with
  | some text => .replace text
  | none => .keep

/-- The edit that masks the words that match, and marks them. -/
def Edit.redact (isMatch : String → Bool) (mask : Char) (word : String) : Edit :=
  if isMatch word then .replaceAndMark (masked mask word) "redacted" (.boolean true) else .keep

/-- The new text of a word that is to be masked. -/
def masking (isMatch : String → Bool) (mask : Char) (word : String) : Option String :=
  if isMatch word then some (masked mask word) else none

theorem redactWords_eq (isMatch : String → Bool) (mask : Char) (tree : Tree) :
    tree.redactWords isMatch mask = tree.editWords (Edit.redact isMatch mask) := rfl

end Tree

namespace Node

variable {χ : Type} {node : Node χ} {isMatch : String → Bool} {mask : Char}

/-- Masking a word is giving it a new text and then marking it. -/
theorem annotate_respell (hit : (node.word?.bind (Tree.masking isMatch mask)).isSome) :
    (node.editWord (Tree.Edit.respell (Tree.masking isMatch mask))).annotate "redacted" (.boolean true) =
      node.editWord (Tree.Edit.redact isMatch mask) := by
  cases isWord : node.word? with
  | none => rw [isWord] at hit; cases hit
  | some word =>
      rw [isWord, Option.bind_some, Tree.masking] at hit
      cases matching : isMatch word with
      | false => rw [matching] at hit; cases hit
      | true =>
          simp only [editWord_of_word isWord, Tree.Edit.respell, Tree.Edit.redact, Tree.masking, matching,
            if_true, annotate]

/-- A node that is not masked is left alone. -/
theorem respell_of_missed (missed : node.word?.bind (Tree.masking isMatch mask) = none) :
    node.editWord (Tree.Edit.respell (Tree.masking isMatch mask)) =
      node.editWord (Tree.Edit.redact isMatch mask) := by
  cases isWord : node.word? with
  | none => rw [editWord_of_none isWord, editWord_of_none isWord]
  | some word =>
      rw [isWord, Option.bind_some, Tree.masking] at missed
      cases matching : isMatch word with
      | true => rw [matching] at missed; cases missed
      | false =>
          simp only [editWord_of_word isWord, Tree.Edit.respell, Tree.Edit.redact, Tree.masking, matching,
            Bool.false_eq_true, if_false]

end Node

namespace Store

variable {store after : Store} {ref : Ref} {refs : List Ref} {tree : Tree}

/-! ## Changed nodes -/

/-- Two stores differ by a change of the nodes at some references. -/
structure Changes (change : Node Ref → Node Ref) (refs : List Ref) (store after : Store) : Prop where
  inside : ∀ ref ∈ refs, after.get? ref = (store.get? ref).map change
  outside : ∀ ref, ref ∉ refs → after.get? ref = store.get? ref

theorem ext_get? {store other : Store} (same : ∀ ref, store.get? ref = other.get? ref) :
    store = other := by
  rcases store with ⟨nodes⟩
  rcases other with ⟨nodes'⟩
  exact congrArg Store.mk (Array.ext_getElem? same)

/-- A change that is made twice is made once if it settles every node. -/
theorem Changes.again {change : Node Ref → Node Ref} {second : Store}
    (settles : ∀ node, change (change node) = change node) (one : Changes change refs store after)
    (two : Changes change refs after second) : second = after := by
  refine ext_get? fun ref => ?_
  by_cases member : ref ∈ refs
  · rw [two.inside ref member, one.inside ref member, Option.map_map]
    exact congrArg (Option.map · _) (funext settles)
  · exact two.outside ref member

theorem changes_nil (change : Node Ref → Node Ref) (store : Store) : Changes change [] store store where
  inside _ member := absurd member List.not_mem_nil
  outside _ _ := rfl

theorem Changes.cons {change : Node Ref → Node Ref} {middle : Store}
    (first : Changes change [ref] store middle) (others : Changes change refs middle after)
    (apart : ref ∉ refs) : Changes change (ref :: refs) store after where
  inside := by
    rw [List.forall_mem_cons]
    constructor
    · rw [others.outside ref apart, first.inside ref List.mem_cons_self]
    · intro other member
      have different : other ∉ [ref] := fun same => apart (List.mem_singleton.mp same ▸ member)
      rw [others.inside other member, first.outside other different]
  outside other absent := by
    rw [List.mem_cons, not_or] at absent
    rw [others.outside other absent.2, first.outside other (by rw [List.mem_singleton]; exact absent.1)]

theorem changes_set {node : Node Ref} {change : Node Ref → Node Ref}
    (found : store.get? ref = some node) : Changes change [ref] store (store.set ref (change node)) where
  inside := by rw [List.forall_mem_singleton, get?_set_self found, found, Option.map_some]
  outside other absent := by
    rw [List.mem_singleton] at absent
    exact get?_set_of_ne (Ne.symm absent) _

/-- Nothing is changed where the change leaves the node as it is. -/
theorem changes_self {change : Node Ref → Node Ref}
    (same : ∀ node, store.get? ref = some node → change node = node) :
    Changes change [ref] store store where
  inside := by
    rw [List.forall_mem_singleton]
    cases found : store.get? ref with
    | none => rfl
    | some node => rw [Option.map_some, same node found]
  outside _ _ := rfl

theorem changes_of_absent {change : Node Ref → Node Ref} (absent : store.get? ref = none) :
    Changes change [ref] store store :=
  changes_self fun node found => by rw [absent] at found; cases found

/-! ## Edited trees -/

mutual

/-- Where the words of a tree are edited, the edited tree stands. -/
theorem Holds.editWords {edit : String → Tree.Edit} : ∀ (tree : Tree) {ref : Ref} {refs : List Ref},
    store.Holds ref refs tree →
      (∀ other ∈ refs, after.get? other = (store.get? other).map (Node.editWord edit)) →
        after.Holds ref refs (tree.editWords edit)
  | .leaf type data value, ref, refs, holds, edited => by
      cases holds with
      | leaf found =>
          rw [List.forall_mem_singleton, found, Option.map_some] at edited
          rw [Tree.editWords]
          split
          · rename_i isWord
            rw [Node.editWord_of_word (Node.word?_of_word isWord value data)] at edited
            cases change : edit value <;> rw [change] at edited <;> exact .leaf edited
          · rename_i other
            rw [Node.editWord_of_none (Node.word?_of_other other)] at edited
            exact .leaf edited
  | .branch type data trees, ref, refs, holds, edited => by
      cases holds with
      | branch found all =>
          rw [List.forall_mem_cons, found, Option.map_some,
            Node.editWord_of_none (Node.word?_branch ..)] at edited
          rw [Tree.editWords]
          exact .branch edited.1 (HoldsAll.editWords trees all edited.2)

theorem HoldsAll.editWords {edit : String → Tree.Edit} : ∀ (trees : List Tree)
    {children refs : List Ref}, store.HoldsAll children refs trees →
      (∀ other ∈ refs, after.get? other = (store.get? other).map (Node.editWord edit)) →
        after.HoldsAll children refs (Tree.editWordsAll edit trees)
  | [], children, refs, holds, _ => by
      cases holds
      rw [Tree.editWordsAll]
      exact .nil
  | tree :: rest, children, refs, holds, edited => by
      cases holds with
      | cons first others =>
          rw [List.forall_mem_append] at edited
          rw [Tree.editWordsAll]
          exact .cons (Holds.editWords tree first edited.1) (HoldsAll.editWords rest others edited.2)

end

theorem Unshared.editWords {edit : String → Tree.Edit} (unshared : store.Unshared ref refs tree)
    (changes : Changes (Node.editWord edit) refs store after) :
    after.Unshared ref refs (tree.editWords edit) :=
  ⟨unshared.holds.editWords tree changes.inside, unshared.nodup⟩

/-! ## Walks -/

section Walks

variable {α : Type} {look : Store → Ref → Store × List α}

def lookAll (look : Store → Ref → Store × List α) (store : Store) : List Ref → Store × List α
  | [] => (store, [])
  | ref :: rest =>
    let (store, found) := look store ref
    let (store, more) := lookAll look store rest
    (store, found ++ more)

theorem lookAll_cons (store : Store) (ref : Ref) (rest : List Ref) :
    lookAll look store (ref :: rest) =
      ((lookAll look (look store ref).1 rest).1,
        (look store ref).2 ++ (lookAll look (look store ref).1 rest).2) := rfl

theorem visit_cons (visits : Nat) (store : Store) (ref : Ref) (rest : List Ref) :
    visit look (visits + 1) store (ref :: rest) =
      ((visit look visits (look store ref).1 ((look store ref).1.children ref ++ rest)).1,
        (look store ref).2 ++
          (visit look visits (look store ref).1 ((look store ref).1.children ref ++ rest)).2) := rfl

theorem lookAll_append (store : Store) (refs more : List Ref) :
    lookAll look store (refs ++ more) =
      ((lookAll look (lookAll look store refs).1 more).1,
        (lookAll look store refs).2 ++ (lookAll look (lookAll look store refs).1 more).2) := by
  induction refs generalizing store with
  | nil => rfl
  | cons ref rest inductionHypothesis =>
      rw [List.cons_append, lookAll_cons, inductionHypothesis, lookAll_cons, List.append_assoc]

theorem links_lookAll (keeps : ∀ store ref, (look store ref).1.links = store.links) (store : Store)
    (refs : List Ref) : (lookAll look store refs).1.links = store.links := by
  induction refs generalizing store with
  | nil => rfl
  | cons ref rest inductionHypothesis => rw [lookAll_cons, inductionHypothesis, keeps]

theorem children_of_links {children : List Ref} (linked : store.links ref = some children) :
    store.children ref = children := by
  rcases exists_node_of_links linked with ⟨node, found, rfl⟩
  rw [Store.children, found]

mutual

/-- A walk that keeps all links comes to the nodes of a tree in document order, and then goes on. -/
theorem Holds.visit (keeps : ∀ store ref, (look store ref).1.links = store.links) (visits : Nat)
    (rest : List Ref) : ∀ (tree : Tree) {now : Store} {ref : Ref} {refs : List Ref},
      store.Holds ref refs tree → now.links = store.links →
        visit look (refs.length + visits) now (ref :: rest) =
          ((visit look visits (lookAll look now refs).1 rest).1,
            (lookAll look now refs).2 ++ (visit look visits (lookAll look now refs).1 rest).2)
  | .leaf type data value, now, ref, refs, holds, same => by
      cases holds with
      | leaf found =>
          have childless : (look now ref).1.children ref = [] := by
            refine children_of_links ?_
            rw [keeps, same, Store.links, found]
            rfl
          rw [List.length_singleton, Nat.add_comm, visit_cons, childless, List.nil_append, lookAll_cons,
            lookAll, List.append_nil]
  | .branch type data trees, now, ref, refs, holds, same => by
      cases holds with
      | @branch _ children below _ _ _ found all =>
          have linked : (look now ref).1.links = store.links := (keeps now ref).trans same
          have here : (look now ref).1.children ref = children := by
            refine children_of_links ?_
            rw [linked, Store.links, found]
            rfl
          rw [List.length_cons, Nat.add_right_comm, visit_cons, here,
            HoldsAll.visit keeps visits rest trees all linked, lookAll_cons, List.append_assoc]

theorem HoldsAll.visit (keeps : ∀ store ref, (look store ref).1.links = store.links) (visits : Nat)
    (rest : List Ref) : ∀ (trees : List Tree) {now : Store} {children refs : List Ref},
      store.HoldsAll children refs trees → now.links = store.links →
        visit look (refs.length + visits) now (children ++ rest) =
          ((visit look visits (lookAll look now refs).1 rest).1,
            (lookAll look now refs).2 ++ (visit look visits (lookAll look now refs).1 rest).2)
  | [], now, children, refs, holds, _ => by
      cases holds
      rw [List.length_nil, Nat.zero_add, List.nil_append, lookAll, List.nil_append]
  | tree :: others, now, children, refs, holds, same => by
      cases holds with
      | @cons _ more here below _ _ first further =>
          have linked : (lookAll look now here).1.links = store.links :=
            (links_lookAll keeps now here).trans same
          rw [List.length_append, Nat.add_assoc, List.cons_append,
            Holds.visit keeps _ _ tree first same, HoldsAll.visit keeps visits rest others further linked,
            lookAll_append, List.append_assoc]

end

/-- A walk over an unshared tree comes to each of its nodes once. -/
theorem Unshared.visit (unshared : store.Unshared ref refs tree)
    (keeps : ∀ store ref, (look store ref).1.links = store.links) :
    visit look (store.visits ref) store [ref] = lookAll look store refs := by
  have count : store.visits ref = refs.length := by
    rw [visits, unshared.tree?, unshared.holds.length tree]
    rfl
  have walk := unshared.holds.visit keeps 0 [] tree rfl
  rw [count, ← Nat.add_zero refs.length, walk, Store.visit, List.append_nil]

end Walks

/-! ## Rewritten words -/

section Rewriting

variable {rewrite : String → Option String}

/-- The node at a reference is a word for which there is a new text. -/
def rewrites (store : Store) (rewrite : String → Option String) (ref : Ref) : Bool :=
  ((store.get? ref).bind fun node => node.word?.bind rewrite).isSome

theorem rewriteAt_of_rewritten {node : Node Ref} {word text : String}
    (found : store.get? ref = some node) (isWord : node.word? = some word)
    (new : rewrite word = some text) :
    rewriteAt rewrite store ref = (store.set ref { node with content := .text text }, [.ok ref]) := by
  rcases Node.content_of_word? isWord with ⟨name, content⟩
  rcases node with ⟨type, _, data⟩
  subst content
  have known : (Node.mk type (.text word) data : Node Ref).text?.bind rewrite = some text := new
  simp only [rewriteAt, found, if_pos name, known, Store.edit, Node.setText, Except.map]

theorem rewriteAt_of_kept {node : Node Ref} (found : store.get? ref = some node)
    (old : node.word?.bind rewrite = none) : rewriteAt rewrite store ref = (store, []) := by
  rw [rewriteAt, found]
  unfold Node.word? at old
  split at old
  · rename_i name
    simp only [if_pos name, old]
  · rename_i other
    simp only [if_neg other]

theorem rewriteAt_of_absent (absent : store.get? ref = none) :
    rewriteAt rewrite store ref = (store, []) := by
  rw [rewriteAt, absent]

/-- What a visit of a node does, and what it tells. -/
theorem changes_rewriteAt (rewrite : String → Option String) (store : Store) (ref : Ref) :
    Changes (Node.editWord (Tree.Edit.respell rewrite)) [ref] store (rewriteAt rewrite store ref).1 ∧
      (rewriteAt rewrite store ref).2 = ([ref].filter (store.rewrites rewrite)).map .ok := by
  rw [List.filter_singleton, rewrites]
  cases found : store.get? ref with
  | none =>
      rw [rewriteAt_of_absent found]
      exact ⟨changes_of_absent found, rfl⟩
  | some node =>
      rw [Option.bind_some]
      cases isWord : node.word? with
      | none =>
          rw [rewriteAt_of_kept found (by rw [isWord]; rfl)]
          refine ⟨changes_self fun other here => ?_, rfl⟩
          cases found.symm.trans here
          exact Node.editWord_of_none isWord _
      | some word =>
          rw [Option.bind_some]
          cases new : rewrite word with
          | none =>
              rw [rewriteAt_of_kept found (by rw [isWord]; exact new)]
              refine ⟨changes_self fun other here => ?_, rfl⟩
              cases found.symm.trans here
              simp only [Node.editWord, isWord, Tree.Edit.respell, new]
          | some text =>
              rw [rewriteAt_of_rewritten found isWord new]
              have edited : node.editWord (Tree.Edit.respell rewrite) =
                  { node with content := .text text } := by
                simp only [Node.editWord, isWord, Tree.Edit.respell, new]
              exact ⟨edited ▸ changes_set found, rfl⟩

theorem children_editWord (edit : String → Tree.Edit) (node : Node Ref) :
    (node.editWord edit).children = node.children := by
  cases isWord : node.word? with
  | none => rw [Node.editWord_of_none isWord]
  | some word =>
      have childless : node.children = [] := by
        rw [Node.children, (Node.content_of_word? isWord).2]
      simp only [Node.editWord, isWord]
      split
      · rfl
      · exact childless.symm
      · exact childless.symm

/-- The words of a store are rewritten without changing what is below what. -/
theorem links_rewriteAt (rewrite : String → Option String) (store : Store) (ref : Ref) :
    (rewriteAt rewrite store ref).1.links = store.links := by
  have changes := (changes_rewriteAt rewrite store ref).1
  funext other
  rw [Store.links, Store.links]
  by_cases member : other ∈ [ref]
  · rw [changes.inside other member, Option.map_map]
    exact congrArg (Option.map · _) (funext fun node => children_editWord _ node)
  · rw [changes.outside other member]

/-- Rewriting goes through all words of a list without repetitions, and tells which ones it has
rewritten. -/
theorem changes_lookAll (rewrite : String → Option String) (nodup : refs.Nodup) (store : Store) :
    Changes (Node.editWord (Tree.Edit.respell rewrite)) refs store
        (lookAll (rewriteAt rewrite) store refs).1 ∧
      (lookAll (rewriteAt rewrite) store refs).2 =
        (refs.filter (store.rewrites rewrite)).map .ok := by
  induction refs generalizing store with
  | nil => exact ⟨changes_nil _ store, rfl⟩
  | cons ref rest inductionHypothesis =>
      rcases List.nodup_cons.mp nodup with ⟨apart, distinct⟩
      rcases changes_rewriteAt rewrite store ref with ⟨first, told⟩
      rcases inductionHypothesis distinct (rewriteAt rewrite store ref).1 with ⟨others, toldAll⟩
      -- The node that has been rewritten is none of the others, which are therefore as they were.
      have same : rest.filter ((rewriteAt rewrite store ref).1.rewrites rewrite) =
          rest.filter (store.rewrites rewrite) := by
        refine List.filter_congr fun other member => ?_
        have different : other ∉ [ref] := fun here => apart (List.mem_singleton.mp here ▸ member)
        rw [rewrites, rewrites, first.outside other different]
      rw [lookAll_cons]
      refine ⟨first.cons others apart, ?_⟩
      rw [told, toldAll, same, ← List.map_append, ← List.filter_append, List.singleton_append]

theorem mapM_ok {α : Type} (items : List α) :
    (items.map (.ok : α → Except Error α)).mapM id = .ok items := by
  induction items with
  | nil => rfl
  | cons item rest inductionHypothesis =>
      rw [List.map_cons, List.mapM_cons, inductionHypothesis]
      rfl

/-- The words of an unshared tree are rewritten, and none of them fails. -/
theorem rewriteWords_unshared (unshared : store.Unshared ref refs tree)
    (rewrite : String → Option String) :
    ∃ after, store.rewriteWords ref rewrite = (after, .ok (refs.filter (store.rewrites rewrite))) ∧
      Changes (Node.editWord (Tree.Edit.respell rewrite)) refs store after := by
  rcases changes_lookAll rewrite unshared.nodup store with ⟨changes, told⟩
  refine ⟨_, ?_, changes⟩
  rw [rewriteWords, unshared.visit (links_rewriteAt rewrite)]
  simp only [told, mapM_ok]

end Rewriting

/-! ## Marked words -/

theorem changes_annotateAll (key : String) (value : Json) (nodup : refs.Nodup) (store : Store) :
    Changes (·.annotate key value) refs store (store.annotateAll refs key value) := by
  induction refs generalizing store with
  | nil => exact changes_nil _ store
  | cons ref rest inductionHypothesis =>
      rcases List.nodup_cons.mp nodup with ⟨apart, distinct⟩
      have first : Changes (·.annotate key value) [ref] store (store.annotateAt ref key value) := by
        rw [annotateAt]
        cases found : store.get? ref with
        | none => exact changes_of_absent found
        | some node => exact changes_set found
      exact first.cons (inductionHypothesis distinct _) apart

/-- The words of an unshared tree that match are masked and marked, and all others are left alone. -/
theorem changes_redactWords (unshared : store.Unshared ref refs tree) (isMatch : String → Bool)
    (mask : Char) :
    ∃ after, store.redactWords ref isMatch mask = (after, .ok ()) ∧
      Changes (Node.editWord (Tree.Edit.redact isMatch mask)) refs store after := by
  let masking := Tree.masking isMatch mask
  rcases rewriteWords_unshared unshared masking with ⟨middle, rewritten, respelled⟩
  have marked : Changes (·.annotate "redacted" (.boolean true)) (refs.filter (store.rewrites masking))
      middle (middle.annotateAll (refs.filter (store.rewrites masking)) "redacted" (.boolean true)) :=
    changes_annotateAll _ _ (unshared.nodup.filter _) middle
  have redacted : store.redactWords ref isMatch mask =
      (middle.annotateAll (refs.filter (store.rewrites masking)) "redacted" (.boolean true), .ok ()) := by
    unfold redactWords
    change (store.rewriteWords ref fun word =>
      if isMatch word then some (Tree.masked mask word) else none) = _ at rewritten
    rw [rewritten]
  refine ⟨_, redacted, fun other member => ?_, fun other absent => ?_⟩
  · by_cases hit : store.rewrites masking other
    · rw [marked.inside other (List.mem_filter.mpr ⟨member, hit⟩), respelled.inside other member]
      cases found : store.get? other with
      | none => rfl
      | some node =>
          rw [rewrites, found] at hit
          exact congrArg some (Node.annotate_respell hit)
    · have missed : other ∉ refs.filter (store.rewrites masking) := fun inside =>
        hit (List.mem_filter.mp inside).2
      rw [marked.outside other missed, respelled.inside other member]
      cases found : store.get? other with
      | none => rfl
      | some node =>
          rw [rewrites, found, Bool.not_eq_true, Option.isSome_eq_false_iff, Option.isNone_iff_eq_none]
            at hit
          exact congrArg some (Node.respell_of_missed hit)
  · have missed : other ∉ refs.filter (store.rewrites masking) := fun inside =>
      absent (List.mem_filter.mp inside).1
    rw [marked.outside other missed, respelled.outside other absent]

end Store
end Prose
