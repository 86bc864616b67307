import Mathlib.Data.Finset.Card
import Mathlib.Data.List.Induction
import Mathlib.Logic.Function.Basic
import Mathlib.Tactic.Ring

/-!
# Iterations that stop

A function applied again and again to its own value, until the value passes a test. When the
values come from a set of `bound` many, an iteration that stops at all stops after fewer steps
than that: otherwise a value comes back, and the steps between its two visits can be left out.
-/

namespace SoundBoard.Lib

variable {α : Type} {f : α → α} {x : α}

/-- Steps between two visits of a value can be left out. -/
theorem iterate_shorten {first second steps : Nat} (same : f^[first] x = f^[second] x)
    (after : second ≤ steps) : f^[steps - second + first] x = f^[steps] x := by
  calc f^[steps - second + first] x
      = f^[steps - second] (f^[first] x) := Function.iterate_add_apply f _ _ x
    _ = f^[steps - second] (f^[second] x) := by rw [same]
    _ = f^[steps - second + second] x := (Function.iterate_add_apply f _ _ x).symm
    _ = f^[steps] x := by rw [Nat.sub_add_cancel after]

/-- Among more than `bound` steps a value comes back. -/
theorem iterate_repeats (code : α → Nat) (bound : Nat) (inside : ∀ n, code (f^[n] x) < bound)
    (injective : ∀ m n, code (f^[m] x) = code (f^[n] x) → f^[m] x = f^[n] x) :
    ∃ first second, first < second ∧ second ≤ bound ∧ f^[first] x = f^[second] x := by
  have more : (Finset.range bound).card < (Finset.range (bound + 1)).card := by
    simp only [Finset.card_range]
    exact Nat.lt_succ_self bound
  have within : ∀ n ∈ Finset.range (bound + 1), code (f^[n] x) ∈ Finset.range bound :=
    fun n _ => Finset.mem_range.mpr (inside n)
  obtain ⟨m, mIn, n, nIn, apart, same⟩ := Finset.exists_ne_map_eq_of_card_lt_of_maps_to more within
  have mLow := Nat.lt_succ_iff.mp (Finset.mem_range.mp mIn)
  have nLow := Nat.lt_succ_iff.mp (Finset.mem_range.mp nIn)
  have agree := injective m n same
  rcases Nat.lt_or_gt_of_ne apart with before | after
  · exact ⟨m, n, before, nLow, agree⟩
  · exact ⟨n, m, after, mLow, agree.symm⟩

/-- An iteration that stops at all stops within `bound` steps. The induction is on the number
of steps it is known to take. -/
theorem iterate_stops (stop : α → Prop) (code : α → Nat) (bound : Nat)
    (inside : ∀ n, code (f^[n] x) < bound)
    (injective : ∀ m n, code (f^[m] x) = code (f^[n] x) → f^[m] x = f^[n] x) (steps : Nat)
    (stopped : stop (f^[steps] x)) : ∃ early, early < bound ∧ stop (f^[early] x) := by
  induction steps using Nat.strongRecOn with
  | ind steps ih =>
    by_cases early : steps < bound
    · exact ⟨steps, early, stopped⟩
    · obtain ⟨first, second, before, low, same⟩ := iterate_repeats code bound inside injective
      have shorter := iterate_shorten same (Nat.le_trans low (Nat.not_lt.mp early))
      rw [← shorter] at stopped
      exact ih _ (by omega) stopped

end SoundBoard.Lib
