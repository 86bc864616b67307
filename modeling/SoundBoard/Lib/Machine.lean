import Mathlib.Data.Finset.Card
import Mathlib.Data.List.Induction
import Mathlib.Logic.Function.Basic
import Mathlib.Tactic.Ring

/-!
# Machines

A machine takes labelled steps; a step can be disabled, and an enabled one emits events. Its
runs carry the events emitted so far, and every step of a run meets a guard on the state before
it, so one notion serves both for all runs and for the runs that keep to some rule.
-/

namespace SoundBoard.Lib

/-- A machine over states `σ`, labels `α` and events `ε`. -/
structure Machine (σ α ε : Type) where
  step : α → σ → Option (σ × List ε)

namespace Machine

variable {σ α ε : Type} {m : Machine σ α ε} {guard weaker : σ → α → Prop} {start s : σ}
  {trace : List ε}

/-- A run from a start state, with its trace and the state that it reaches. -/
inductive Run (m : Machine σ α ε) (guard : σ → α → Prop) (start : σ) : List ε → σ → Prop where
  | nil : Run m guard start [] start
  | snoc {trace events : List ε} {s s' : σ} {label : α} : Run m guard start trace s →
      guard s label → m.step label s = some (s', events) →
      Run m guard start (trace ++ events) s'

/-- The guard of the machine's unrestricted runs. -/
def Free (_ : σ) (_ : α) : Prop := True

/-- A property of trace and state that holds at the start and that every guarded step keeps
holds at the end of every run. -/
theorem Run.invariant (holds : List ε → σ → Prop) (initial : holds [] start)
    (kept : ∀ trace s label s' events, holds trace s → guard s label →
      m.step label s = some (s', events) → holds (trace ++ events) s')
    (run : Run m guard start trace s) : holds trace s := by
  induction run with
  | nil => exact initial
  | snoc _ meets step ih => exact kept _ _ _ _ _ ih meets step

/-- A property of the state alone. -/
theorem Run.stateInvariant (holds : σ → Prop) (initial : holds start)
    (kept : ∀ s label s' events, holds s → guard s label →
      m.step label s = some (s', events) → holds s')
    (run : Run m guard start trace s) : holds s :=
  run.invariant (fun _ s => holds s) initial
    fun _ s label s' events before meets step => kept s label s' events before meets step

/-- A run goes on with a step of a given label. -/
theorem Run.take {events : List ε} {s' : σ} (label : α) (run : Run m guard start trace s)
    (meets : guard s label) (step : m.step label s = some (s', events)) :
    Run m guard start (trace ++ events) s' :=
  run.snoc meets step

/-- A run goes on with a run. -/
theorem Run.trans {later : List ε} {t : σ} (run : Run m guard start trace s)
    (rest : Run m guard s later t) : Run m guard start (trace ++ later) t := by
  induction rest with
  | nil =>
    rw [List.append_nil]
    exact run
  | snoc _ meets step ih =>
    rw [← List.append_assoc]
    exact ih.snoc meets step

/-- Take the steps of a list of labels. -/
def exec (m : Machine σ α ε) : List α → List ε → σ → Option (List ε × σ)
  | [], trace, s => some (trace, s)
  | label :: labels, trace, s =>
    (m.step label s).bind fun next => exec m labels (trace ++ next.2) next.1

/-- Steps taken one after the other are a run. -/
theorem Run.exec {labels : List α} {trace' : List ε} {s' : σ} (run : Run m Free start trace s)
    (steps : m.exec labels trace s = some (trace', s')) : Run m Free start trace' s' := by
  induction labels generalizing trace s with
  | nil =>
    obtain ⟨rfl, rfl⟩ := Prod.mk.inj (Option.some.inj steps)
    exact run
  | cons label labels ih =>
    obtain ⟨⟨next, events⟩, step, rest⟩ := Option.bind_eq_some_iff.mp steps
    exact ih (run.snoc trivial step) rest

/-- Take the steps of a list of labels as long as they meet a guard. -/
def execWithin (m : Machine σ α ε) (guard : σ → α → Prop) [∀ s label, Decidable (guard s label)] :
    List α → List ε → σ → Option (List ε × σ)
  | [], trace, s => some (trace, s)
  | label :: labels, trace, s =>
    if guard s label then
      (m.step label s).bind fun next => execWithin m guard labels (trace ++ next.2) next.1
    else none

/-- Such steps are a run under the guard. -/
theorem Run.execWithin [∀ s label, Decidable (guard s label)] {labels : List α} {trace' : List ε}
    {s' : σ} (run : Run m guard start trace s)
    (steps : m.execWithin guard labels trace s = some (trace', s')) :
    Run m guard start trace' s' := by
  induction labels generalizing trace s with
  | nil =>
    obtain ⟨rfl, rfl⟩ := Prod.mk.inj (Option.some.inj steps)
    exact run
  | cons label labels ih =>
    rw [Machine.execWithin] at steps
    split at steps
    · rename_i meets
      obtain ⟨⟨next, events⟩, step, rest⟩ := Option.bind_eq_some_iff.mp steps
      exact ih (run.snoc meets step) rest
    · contradiction

/-! ## Watching a machine -/

variable {ω : Type} {note : σ → α → List ω}

/-- The same machine, which emits notes on the steps that it takes in place of its events. -/
def watch (m : Machine σ α ε) (note : σ → α → List ω) : Machine σ α ω where
  step label s := (m.step label s).map fun next => (next.1, note s label)

/-- It takes the same steps. -/
theorem watch_step {label : α} {s' : σ} {notes : List ω} :
    (m.watch note).step label s = some (s', notes) ↔
      notes = note s label ∧ ∃ events, m.step label s = some (s', events) := by
  constructor
  · intro step
    obtain ⟨⟨next, events⟩, taken, same⟩ := Option.map_eq_some_iff.mp step
    obtain ⟨rfl, rfl⟩ := Prod.mk.inj same
    exact ⟨rfl, events, taken⟩
  · rintro ⟨rfl, events, step⟩
    exact Option.map_eq_some_iff.mpr ⟨(s', events), step, rfl⟩

/-- So every run of the machine is one that can be watched. -/
theorem Run.watch (note : σ → α → List ω) (run : Run m guard start trace s) :
    ∃ notes, Run (m.watch note) guard start notes s := by
  induction run with
  | nil => exact ⟨[], .nil⟩
  | snoc _ meets step ih =>
    obtain ⟨notes, watched⟩ := ih
    exact ⟨_, watched.snoc meets (watch_step.mpr ⟨rfl, _, step⟩)⟩

/-- And a watched run is one of the machine. -/
theorem Run.unwatch {notes : List ω} (run : Run (m.watch note) guard start notes s) :
    ∃ trace, Run m guard start trace s := by
  induction run with
  | nil => exact ⟨[], .nil⟩
  | snoc _ meets step ih =>
    obtain ⟨trace, run⟩ := ih
    obtain ⟨_, events, step⟩ := watch_step.mp step
    exact ⟨_, run.snoc meets step⟩

end Machine

end SoundBoard.Lib
