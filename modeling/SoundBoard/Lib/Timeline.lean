import Mathlib.Data.Finset.Card
import Mathlib.Data.List.Induction
import Mathlib.Logic.Function.Basic
import Mathlib.Tactic.Ring

/-!
# Timelines

A timeline plays a value for a number of ticks, then the next, and so on. It is given by the
values and the numbers of ticks of its segments, and it is determined by the value at every
tick, so two timelines are compared tick by tick.
-/

namespace SoundBoard.Lib

variable {α : Type} {value other : Nat → α} {ticks shorter : Nat → Nat}

/-- The tick at which a segment begins. -/
def offset (ticks : Nat → Nat) : Nat → Nat
  | 0 => 0
  | i + 1 => offset ticks i + ticks i

/-- The first segments of a timeline, tick by tick. -/
def timeline (value : Nat → α) (ticks : Nat → Nat) : Nat → List α
  | 0 => []
  | n + 1 => timeline value ticks n ++ List.replicate (ticks n) (value n)

/-- A timeline is as long as the offset at which it ends. -/
@[simp] theorem timeline_length (value : Nat → α) (ticks : Nat → Nat) (n : Nat) :
    (timeline value ticks n).length = offset ticks n := by
  induction n with
  | zero => rfl
  | succ n ih => simp [timeline, offset, ih]

/-- A timeline depends on its own segments only. -/
theorem timeline_congr {n : Nat} (values : ∀ i, i < n → value i = other i)
    (lengths : ∀ i, i < n → ticks i = shorter i) :
    timeline value ticks n = timeline other shorter n := by
  induction n with
  | zero => rfl
  | succ n ih =>
    have before := ih (fun i inside => values i (by omega)) (fun i inside => lengths i (by omega))
    simp only [timeline, before, values n (Nat.lt_succ_self n), lengths n (Nat.lt_succ_self n)]

/-- Segments follow one another. -/
theorem offset_mono (ticks : Nat → Nat) {i j : Nat} (order : i ≤ j) :
    offset ticks i ≤ offset ticks j := by
  induction order with
  | refl => exact Nat.le_refl _
  | step _ ih => exact Nat.le_trans ih (Nat.le_add_right _ _)

/-- Every tick before the end lies in a segment. -/
theorem exists_segment {n tick : Nat} (inside : tick < offset ticks n) :
    ∃ i, i < n ∧ offset ticks i ≤ tick ∧ tick < offset ticks (i + 1) := by
  induction n with
  | zero => exact absurd inside (Nat.not_lt_zero tick)
  | succ n ih =>
    by_cases before : tick < offset ticks n
    · obtain ⟨i, low, bounds⟩ := ih before
      exact ⟨i, by omega, bounds⟩
    · exact ⟨n, Nat.lt_succ_self n, Nat.not_lt.mp before, inside⟩

/-- At the ticks of a segment, a timeline has the segment's value. -/
theorem timeline_get {n i tick : Nat} (segment : i < n) (low : offset ticks i ≤ tick)
    (high : tick < offset ticks (i + 1)) : (timeline value ticks n)[tick]? = some (value i) := by
  induction n with
  | zero => exact absurd segment (Nat.not_lt_zero i)
  | succ n ih =>
    by_cases last : i = n
    · subst last
      simp only [offset] at high
      rw [timeline, List.getElem?_append_right (by simpa using low), timeline_length,
        List.getElem?_replicate_of_lt (by omega)]
    · have order := offset_mono ticks (show i + 1 ≤ n by omega)
      rw [timeline, List.getElem?_append_left (by simp only [timeline_length]; omega),
        ih (by omega)]

/-- A list is a timeline when it is as long and has the segment's value at every tick. -/
theorem eq_timeline_iff {list : List α} {n : Nat} :
    list = timeline value ticks n ↔ list.length = offset ticks n ∧
      ∀ i, i < n → ∀ tick, offset ticks i ≤ tick → tick < offset ticks (i + 1) →
        list[tick]? = some (value i) := by
  constructor
  · rintro rfl
    exact ⟨timeline_length _ _ _, fun i segment tick low high => timeline_get segment low high⟩
  · rintro ⟨length, values⟩
    refine List.ext_getElem? fun tick => ?_
    by_cases inside : tick < offset ticks n
    · obtain ⟨i, segment, low, high⟩ := exists_segment inside
      rw [values i segment tick low high, timeline_get segment low high]
    · rw [List.getElem?_eq_none (by omega), List.getElem?_eq_none (by
        simp only [timeline_length]
        omega)]

/-- One more tick in every segment moves each segment by its number. -/
theorem offset_succ (ticks : Nat → Nat) (n : Nat) :
    offset (fun i => ticks i + 1) n = offset ticks n + n := by
  induction n with
  | zero => rfl
  | succ n ih =>
    simp only [offset, ih]
    omega

end SoundBoard.Lib
