import Prose.Plugin.Entry

namespace Prose
namespace Attachments

/-!
# Meeting needs

What happens to the need in front of an agenda: it fails, it is met, its plugin is attached already, or
its plugin is new and brings its own needs.  These come before what was waiting, so an agenda is met as
hooks are run: one inside the other.
-/

open Stock (Need)

variable {β : Type} {model : Model} {a b : Attachments (List Need) β} {need : Need} {id : Nat}
  {plugin : Plugin (List Need) β}

theorem satisfy_nil (model : Model) (a : Attachments (List Need) β) :
    a.satisfy model [] = (a, .ok ()) := by
  rw [satisfy]

theorem satisfy_of_error {error : Error} (failed : a.target model need = .error error)
    (rest : List Need) : a.satisfy model (need :: rest) = (a, .error error) := by
  rw [satisfy]
  split <;> simp_all

theorem satisfy_of_met (met : a.target model need = .ok (b, none)) (rest : List Need) :
    a.satisfy model (need :: rest) = b.satisfy model rest := by
  rw [satisfy]
  split <;> simp_all

theorem satisfy_of_attached (found : a.target model need = .ok (b, some id))
    (made : b.plugin? id = some plugin) (attached : b.has plugin.id = true) (rest : List Need) :
    a.satisfy model (need :: rest) = b.satisfy model rest := by
  rw [satisfy]
  split <;> simp_all
  split <;> simp_all

theorem satisfy_of_new (found : a.target model need = .ok (b, some id))
    (made : b.plugin? id = some plugin) (new : b.has plugin.id = false) (rest : List Need) :
    a.satisfy model (need :: rest) =
      (b.register plugin).satisfy model (plugin.hook.getD [] ++ rest) := by
  rw [satisfy]
  split <;> simp_all
  split <;> simp_all

theorem satisfy_of_absent (found : a.target model need = .ok (b, some id))
    (absent : b.plugin? id = none) (rest : List Need) :
    a.satisfy model (need :: rest) = b.satisfy model rest := by
  rw [satisfy]
  split <;> simp_all
  split <;> simp_all

/-! ## One need at a time -/

/-- The need in front of an agenda is met: there is nothing to attach for it. -/
inductive Met (model : Model) (a : Attachments (List Need) β) (need : Need)
    (b : Attachments (List Need) β) : Prop where
  | nothing (found : a.target model need = .ok (b, none))
  | absent {id : Nat} (found : a.target model need = .ok (b, some id)) (absent : b.plugin? id = none)
  | attached {id : Nat} {plugin : Plugin (List Need) β}
      (found : a.target model need = .ok (b, some id)) (made : b.plugin? id = some plugin)
      (attached : b.has plugin.id = true)

/-- The need in front of an agenda brings a plugin that is not attached yet. -/
inductive Brings (model : Model) (a : Attachments (List Need) β) (need : Need)
    (b : Attachments (List Need) β) (plugin : Plugin (List Need) β) : Prop where
  | intro {id : Nat} (found : a.target model need = .ok (b, some id))
      (made : b.plugin? id = some plugin) (new : b.has plugin.id = false)

/-- A need fails, is met, or brings a plugin. -/
theorem need_cases (model : Model) (a : Attachments (List Need) β) (need : Need) :
    (∃ error, a.target model need = .error error) ∨ (∃ b, Met model a need b) ∨
      ∃ b plugin, Brings model a need b plugin := by
  cases found : a.target model need with
  | error error => exact Or.inl ⟨error, rfl⟩
  | ok pair =>
      rcases pair with ⟨b, none | id⟩
      · exact Or.inr (Or.inl ⟨b, .nothing found⟩)
      · cases made : b.plugin? id with
        | none => exact Or.inr (Or.inl ⟨b, .absent found made⟩)
        | some plugin =>
            cases attached : b.has plugin.id with
            | true => exact Or.inr (Or.inl ⟨b, .attached found made attached⟩)
            | false => exact Or.inr (Or.inr ⟨b, plugin, .intro found made attached⟩)

theorem Met.satisfy_eq (met : Met model a need b) (rest : List Need) :
    a.satisfy model (need :: rest) = b.satisfy model rest := by
  cases met with
  | nothing found => exact satisfy_of_met found rest
  | absent found absent => exact satisfy_of_absent found absent rest
  | attached found made attached => exact satisfy_of_attached found made attached rest

theorem Met.pending_le (met : Met model a need b) : b.pending ≤ a.pending := by
  cases met with
  | nothing found => exact pending_target_le found
  | absent found => exact pending_target_le found
  | attached found => exact pending_target_le found

theorem Brings.pending_lt (brings : Brings model a need b plugin) :
    (b.register plugin).pending < a.pending := by
  rcases brings with ⟨found, made, new⟩
  exact Nat.lt_of_lt_of_le (pending_register_lt (lt_size_of_plugin? made).1 new)
    (pending_target_le found)

theorem pending_satisfy_le (model : Model) (a : Attachments (List Need) β) (agenda : List Need) :
    (a.satisfy model agenda).1.pending ≤ a.pending := by
  induction a, agenda using satisfy.induct model with
  | case1 a => exact Nat.le_of_eq (congrArg (fun pair => pair.1.pending) (satisfy_nil model a))
  | case2 a need rest error failed =>
      exact Nat.le_of_eq (congrArg (fun pair => pair.1.pending) (satisfy_of_error failed rest))
  | case3 a need rest b found le inductionHypothesis =>
      rw [satisfy_of_met found]
      exact Nat.le_trans inductionHypothesis le
  | case4 a need rest b id found le absent inductionHypothesis =>
      rw [satisfy_of_absent found absent]
      exact Nat.le_trans inductionHypothesis le
  | case5 a need rest b id found le plugin made attached inductionHypothesis =>
      rw [satisfy_of_attached found made attached]
      exact Nat.le_trans inductionHypothesis le
  | case6 a need rest b id found le plugin made new less inductionHypothesis =>
      rw [satisfy_of_new found made (Bool.eq_false_iff.mpr new)]
      exact Nat.le_trans inductionHypothesis (Nat.le_trans (Nat.le_of_lt less) le)

/-- An agenda in two parts: the second part is looked at once all needs of the first have been met. -/
theorem satisfy_append (model : Model) (a : Attachments (List Need) β) (first second : List Need) :
    a.satisfy model (first ++ second) =
      match a.satisfy model first with
      | (b, .ok ()) => b.satisfy model second
      | (b, .error error) => (b, .error error) := by
  induction a, first using satisfy.induct model with
  | case1 a => rw [satisfy_nil, List.nil_append]
  | case2 a need rest error failed =>
      rw [List.cons_append, satisfy_of_error failed, satisfy_of_error failed]
  | case3 a need rest b found _ inductionHypothesis =>
      rw [List.cons_append, satisfy_of_met found, satisfy_of_met found, inductionHypothesis]
  | case4 a need rest b id found _ absent inductionHypothesis =>
      rw [List.cons_append, satisfy_of_absent found absent, satisfy_of_absent found absent,
        inductionHypothesis]
  | case5 a need rest b id found _ plugin made attached inductionHypothesis =>
      rw [List.cons_append, satisfy_of_attached found made attached,
        satisfy_of_attached found made attached, inductionHypothesis]
  | case6 a need rest b id found _ plugin made new _ inductionHypothesis =>
      have new : b.has plugin.id = false := Bool.eq_false_iff.mpr new
      rw [List.cons_append, satisfy_of_new found made new, satisfy_of_new found made new,
        ← List.append_assoc, inductionHypothesis]

/-- The needs of a new plugin are met first, and then those that were waiting, unless there has been a
failure. -/
theorem Brings.satisfy_eq (brings : Brings model a need b plugin) (rest : List Need) :
    a.satisfy model (need :: rest) =
      match (b.register plugin).satisfy model (plugin.hook.getD []) with
      | (c, .ok ()) => c.satisfy model rest
      | (c, .error error) => (c, .error error) := by
  rcases brings with ⟨found, made, new⟩
  rw [satisfy_of_new found made new, satisfy_append]

/-- Induction over an agenda in which the needs of a new plugin stand apart from those that were
waiting. -/
theorem nested_induction (model : Model) {motive : Attachments (List Need) β → List Need → Prop}
    (nil : ∀ a, motive a [])
    (failed : ∀ a need rest error, a.target model need = .error error → motive a (need :: rest))
    (met : ∀ a need rest b, Met model a need b → motive b rest → motive a (need :: rest))
    (brings : ∀ a need rest b plugin, Brings model a need b plugin →
      motive (b.register plugin) (plugin.hook.getD []) →
      motive ((b.register plugin).satisfy model (plugin.hook.getD [])).1 rest →
      motive a (need :: rest))
    (a : Attachments (List Need) β) (agenda : List Need) : motive a agenda := by
  match agenda with
  | [] => exact nil a
  | need :: rest =>
      rcases need_cases model a need with ⟨error, failure⟩ | ⟨b, passed⟩ | ⟨b, plugin, new⟩
      · exact failed a need rest error failure
      · exact met a need rest b passed (nested_induction model nil failed met brings b rest)
      · exact brings a need rest b plugin new
          (nested_induction model nil failed met brings (b.register plugin) (plugin.hook.getD []))
          (nested_induction model nil failed met brings
            ((b.register plugin).satisfy model (plugin.hook.getD [])).1 rest)
termination_by (a.pending, agenda.length)
decreasing_by
  · have le := passed.pending_le
    rw [Prod.lex_def]
    simp only [List.length_cons]
    omega
  · exact Prod.Lex.left _ _ new.pending_lt
  · have le := pending_satisfy_le model (b.register plugin) (plugin.hook.getD [])
    exact Prod.Lex.left _ _ (Nat.lt_of_le_of_lt le new.pending_lt)

end Attachments
end Prose
