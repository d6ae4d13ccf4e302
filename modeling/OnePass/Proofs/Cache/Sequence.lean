import Mathlib.Data.List.Forall2
import OnePass.Proofs.Cache.History

namespace OnePass

/-!
# Demands one after another

Demands in a row are a history without inquiries.  A procedure that one of them
answers with stays an entry to the end.
-/

variable {Name : Type} {Base : Name → Type} {ε : Type}

namespace Registry

variable [DecidableEq Name]
variable {registry : Registry Base ε} {callers : List (Caller Base ε)}

/-- Demands one after another can be split anywhere. -/
theorem obtainAll_append
    (registry : Registry Base ε)
    (first later : List (Caller Base ε)) :
    registry.obtainAll (first ++ later) =
      ((registry.obtainAll first).1 ++
          ((registry.obtainAll first).2.obtainAll later).1,
        ((registry.obtainAll first).2.obtainAll later).2) := by
  induction first generalizing registry with
  | nil =>
      rfl
  | cons caller rest inductionHypothesis =>
      simp [obtainAll, inductionHypothesis]

/-- Demands one after another are a history. -/
theorem obtainAll_eq_after
    (registry : Registry Base ε)
    (callers : List (Caller Base ε)) :
    (registry.obtainAll callers).2 =
      registry.after (callers.map .obtain) := by
  induction callers generalizing registry with
  | nil =>
      rfl
  | cons caller rest inductionHypothesis =>
      exact inductionHypothesis _

/-- Demands one after another only add entries at the end. -/
theorem entries_prefix_obtainAll
    (registry : Registry Base ε)
    (callers : List (Caller Base ε)) :
    registry.cache.entries <+:
      (registry.obtainAll callers).2.cache.entries := by
  rw [obtainAll_eq_after, entries_after]
  exact List.prefix_append _ _

/-- Every procedure that was answered with is that of an entry at the end. -/
theorem mem_entries_of_obtainAll
    (registry : Registry Base ε)
    (callers : List (Caller Base ε)) :
    List.Forall₂
      (fun caller reply =>
        ∀ signature procedure,
          reply = ⟨signature, .ok procedure⟩ →
          ⟨caller.demand.key, signature, procedure⟩ ∈
            (registry.obtainAll callers).2.cache.entries)
      callers (registry.obtainAll callers).1 := by
  induction callers generalizing registry with
  | nil =>
      exact .nil
  | cons caller rest inductionHypothesis =>
      refine .cons ?_ (inductionHypothesis _)
      intro signature procedure answered
      exact (entries_prefix_obtainAll _ rest).subset
        (mem_entries_of_obtained answered)

end Registry

end OnePass
