import Mathlib.Data.List.Nodup
import Prose.Plugin.Attachments

namespace Prose

/-!
# Depth-first order

The order in which a search through a graph comes upon its vertices, if it goes on from each new vertex
before it turns to what was waiting.  The vertices seen so far are a list, and each one comes behind
those seen before it.  In a finite graph there is such an order for all starting points: it has every
vertex that can be reached past the vertices seen at the start, and has it once.
-/

variable {V : Type} {next : V → List V} {seen roots rest mid out : List V} {v w : V}

/-- The search from the vertices of `roots`, where those in `seen` have been seen, ends with `out`. -/
inductive Preorder (next : V → List V) : List V → List V → List V → Prop where
  | nil (seen : List V) : Preorder next seen [] seen
  | known {v : V} {seen rest out : List V} (known : v ∈ seen) (further : Preorder next seen rest out) :
      Preorder next seen (v :: rest) out
  | new {v : V} {seen rest mid out : List V} (new : v ∉ seen)
      (inner : Preorder next (seen ++ [v]) (next v) mid) (further : Preorder next mid rest out) :
      Preorder next seen (v :: rest) out

/-- A vertex can be reached from some vertices, past those in `seen`. -/
inductive Reaches (next : V → List V) (seen roots : List V) : V → Prop where
  | root {v : V} (member : v ∈ roots) (new : v ∉ seen) : Reaches next seen roots v
  | step {v w : V} (before : Reaches next seen roots v) (edge : w ∈ next v) (new : w ∉ seen) :
      Reaches next seen roots w

namespace Reaches

theorem not_mem (reaches : Reaches next seen roots v) : v ∉ seen := by
  cases reaches with
  | root _ new => exact new
  | step _ _ new => exact new

/-- What is reached past more vertices is reached past fewer, also from a starting point that leads to
the others. -/
theorem of_inner (new : v ∉ seen) (reaches : Reaches next (seen ++ [v]) (next v) w) :
    Reaches next seen (v :: rest) w := by
  induction reaches with
  | root member fresh =>
      have fresh := fun old => fresh (List.mem_append_left _ old)
      exact .step (.root List.mem_cons_self new) member fresh
  | step before edge fresh inductionHypothesis =>
      exact .step inductionHypothesis edge fun old => fresh (List.mem_append_left _ old)

theorem of_further (grows : seen <+: mid) (reaches : Reaches next mid rest w) :
    Reaches next seen (v :: rest) w := by
  induction reaches with
  | root member fresh =>
      exact .root (List.mem_cons_of_mem _ member) fun old => fresh (grows.subset old)
  | step before edge fresh inductionHypothesis =>
      exact .step inductionHypothesis edge fun old => fresh (grows.subset old)

end Reaches

namespace Preorder

theorem seen_grows (order : Preorder next seen roots out) : seen <+: out := by
  induction order with
  | nil seen => exact List.prefix_refl seen
  | known _ _ inductionHypothesis => exact inductionHypothesis
  | new _ _ _ inner further => exact ((List.prefix_append _ _).trans inner).trans further

/-- There is one such order. -/
theorem unique {other : List V} (order : Preorder next seen roots out)
    (again : Preorder next seen roots other) : out = other := by
  induction order generalizing other with
  | nil seen =>
      cases again with
      | nil => rfl
  | known known _ inductionHypothesis =>
      cases again with
      | known _ further => exact inductionHypothesis further
      | new fresh => exact absurd known fresh
  | new fresh _ _ inner further =>
      cases again with
      | known known => exact absurd known fresh
      | new _ inner' further' =>
          cases inner inner'
          exact further further'

theorem nodup_concat (distinct : seen.Nodup) (new : v ∉ seen) : (seen ++ [v]).Nodup := by
  rw [List.nodup_append]
  refine ⟨distinct, List.nodup_singleton v, ?_⟩
  rintro old member other inside rfl
  exact new (List.mem_singleton.mp inside ▸ member)

/-- Each vertex has one place in the order. -/
theorem nodup (order : Preorder next seen roots out) (distinct : seen.Nodup) : out.Nodup := by
  induction order with
  | nil seen => exact distinct
  | known _ _ inductionHypothesis => exact inductionHypothesis distinct
  | new new _ _ inner further => exact further (inner (nodup_concat distinct new))

/-- What comes into the order has been reached. -/
theorem reaches_of_mem (order : Preorder next seen roots out) (member : w ∈ out) :
    w ∈ seen ∨ Reaches next seen roots w := by
  induction order with
  | nil seen => exact Or.inl member
  | known _ _ inductionHypothesis =>
      exact (inductionHypothesis member).imp id (Reaches.of_further (List.prefix_refl _))
  | @new v seen rest mid out new before _ inner further =>
      have grows : seen <+: mid := (List.prefix_append _ _).trans before.seen_grows
      rcases further member with old | reached
      · rcases inner old with known | reached
        · rcases List.mem_append.mp known with earlier | this
          · exact Or.inl earlier
          · rw [List.mem_singleton.mp this]
            exact Or.inr (.root List.mem_cons_self new)
        · exact Or.inr (.of_inner new reached)
      · exact Or.inr (.of_further grows reached)

/-- The order has all starting points, and all that its new vertices lead to. -/
theorem closed (order : Preorder next seen roots out) :
    (∀ v ∈ roots, v ∈ out) ∧ ∀ v ∈ out, v ∉ seen → ∀ w ∈ next v, w ∈ out := by
  induction order with
  | nil seen => exact ⟨nofun, fun v old new => absurd old new⟩
  | known known further inductionHypothesis =>
      refine ⟨?_, inductionHypothesis.2⟩
      rw [List.forall_mem_cons]
      exact ⟨further.seen_grows.subset known, inductionHypothesis.1⟩
  | @new v seen rest mid out new before behind inner further =>
      have grows := behind.seen_grows.subset
      have inside : v ∈ mid := before.seen_grows.subset (List.mem_append_right _ List.mem_cons_self)
      refine ⟨?_, ?_⟩
      · rw [List.forall_mem_cons]
        exact ⟨grows inside, further.1⟩
      · -- A vertex of the inner search leads on within it, and one behind it leads on within the rest.
        intro other member fresh w edge
        by_cases early : other ∈ mid
        · by_cases same : other = v
          · exact grows (inner.1 w (same ▸ edge))
          · refine grows (inner.2 other early ?_ w edge)
            rw [List.mem_append, List.mem_singleton, not_or]
            exact ⟨fresh, same⟩
        · exact further.2 other member early w edge

/-- The order has the vertices seen before and those that are reached past them. -/
theorem mem_iff (order : Preorder next seen roots out) :
    w ∈ out ↔ w ∈ seen ∨ Reaches next seen roots w := by
  constructor
  · exact order.reaches_of_mem
  · rintro (old | reached)
    · exact order.seen_grows.subset old
    · induction reached with
      | root member _ => exact order.closed.1 _ member
      | step before edge _ inductionHypothesis =>
          exact order.closed.2 _ inductionHypothesis before.not_mem _ edge

/-- A search among finitely many vertices comes to its end. -/
theorem exists_of_finite [DecidableEq V] {all : List V} (edges : ∀ v, ∀ w ∈ next v, w ∈ all)
    (seen roots : List V) (inside : ∀ v ∈ roots, v ∈ all) : ∃ out, Preorder next seen roots out := by
  match roots with
  | [] => exact ⟨seen, .nil seen⟩
  | v :: rest =>
      have parts := List.forall_mem_cons.mp inside
      by_cases known : v ∈ seen
      · rcases exists_of_finite edges seen rest parts.2 with ⟨out, further⟩
        exact ⟨out, .known known further⟩
      · rcases exists_of_finite edges (seen ++ [v]) (next v) (edges v) with ⟨mid, inner⟩
        rcases exists_of_finite edges mid rest parts.2 with ⟨out, further⟩
        exact ⟨out, .new known inner further⟩
termination_by (all.countP (fun v => decide (v ∉ seen)), roots.length)
decreasing_by
  · exact Prod.Lex.right _ (Nat.lt_succ_self _)
  · refine Prod.Lex.left _ _ (Attachments.countP_lt_countP v parts.1 ?_ ?_ ?_)
    · intro other
      simp only [decide_eq_true_eq]
      exact fun fresh old => fresh (List.mem_append_left _ old)
    · simp
    · simpa using known
  · refine Prod.Lex.left _ _ (Attachments.countP_lt_countP v parts.1 ?_ ?_ ?_)
    · intro other
      simp only [decide_eq_true_eq]
      exact fun fresh old => fresh (inner.seen_grows.subset (List.mem_append_left _ old))
    · have seen : v ∈ mid := inner.seen_grows.subset (List.mem_append_right _ List.mem_cons_self)
      simpa using seen
    · simpa using known

end Preorder
end Prose
