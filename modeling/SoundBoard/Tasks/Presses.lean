import SoundBoard.Tasks.Steps

/-!
# One press of the record button

`TaskKeyHandler` polls the record button once in an iteration and has no memory of the touch
that it has answered. Each poll that sees a touch leads, 50 ms later, to a change of
`busyRecording`, so the changes of a stretch of a run are counted by its polls.
-/

namespace SoundBoard.Tasks

open SoundBoard.Lib

/-- What is noted of a run: polls of the record button that see a touch of it, and changes of
`busyRecording`. -/
inductive Press where
  | poll
  | change
  deriving DecidableEq, Repr

/-- A step in which a poll of the record button sees a touch of it. -/
def Sys.polls (s : Sys) : Act → Bool
  | .run .keyHandler _ => s.keyHandler.readyPc == some .recordTouch && s.shared.mtc2.touchNum != 0
  | _ => false

/-- A step that changes `busyRecording`. -/
def Sys.changes (s : Sys) (act : Act) : Bool :=
  (system.step act s).any fun next => next.1.shared.busyRecording != s.shared.busyRecording

/-- The notes that are taken. -/
def presses (s : Sys) (act : Act) : List Press :=
  (if s.polls act then [.poll] else []) ++ (if s.changes act then [.change] else [])

/-- A step between two reports that no finger touches the screen. -/
def Held (_ : Sys) : Act → Prop
  | .report touch => touch.touchNum ≠ 0
  | _ => True

instance (s : Sys) : DecidablePred (Held s)
  | .report touch => inferInstanceAs (Decidable (touch.touchNum ≠ 0))
  | .run _ _ | .keys _ | .tick _ => .isTrue trivial

/-- Between two such reports `busyRecording` changes at most once. -/
def OneToggle : Prop :=
  ∀ {x1 y1 : Nat} {trace : List Event} {notes : List Press} {s t : Sys},
    system.Run Machine.Free (.boot x1 y1) trace s →
    (system.watch presses).Run Held s notes t → notes.count .change ≤ 1

/-- The polls that have seen a touch and whose 50 ms are not over. -/
def Task.awaiting : Task HandlerPc → Nat
  | .ready .toggle | .asleep .toggle => 1
  | _ => 0

/-! ## Counting -/

variable {s s' : Sys} {act : Act} {events : List Event}

/-- Steps other than those of `TaskKeyHandler` neither poll nor change anything. -/
theorem presses_quiet (step : system.step act s = some (s', events))
    (other : s.polls act = false) (kept : s'.shared.busyRecording = s.shared.busyRecording) :
    presses s act = [] := by
  have unchanged : s.changes act = false := by simp [Sys.changes, step, kept]
  simp [presses, other, unchanged]

/-- In a step of `TaskKeyHandler`, a change answers a poll. -/
theorem taskKeyHandler_awaiting (answer : Answer) (locals : Locals) (shared : Shared)
    (pc : HandlerPc) :
    (taskKeyHandler answer locals shared pc).task.awaiting =
      if pc = .recordTouch ∧ shared.mtc2.touchNum ≠ 0 then 1 else 0 := by
  have controls := taskKeyHandler_controls answer shared locals pc
  by_cases polled : pc = .recordTouch ∧ shared.mtc2.touchNum ≠ 0
  · obtain ⟨rfl, touched⟩ := polled
    simp [taskKeyHandler, touched, Task.awaiting]
  · rw [if_neg polled]
    cases next : (taskKeyHandler answer locals shared pc).task with
    | absent => rfl
    | ready pc' | asleep pc' =>
      have not_toggle : pc' ≠ .toggle := fun toggle =>
        polled ((controls pc' (by rw [next]; rfl)).2.1 toggle)
      cases pc' with
      | toggle => contradiction
      | _ => rfl

/-- One step: its changes and the polls that still wait are the polls that waited and its own. -/
theorem presses_step (step : system.step act s = some (s', events)) :
    (presses s act).count .change + s'.keyHandler.awaiting =
      s.keyHandler.awaiting + (presses s act).count .poll := by
  cases Sys.step_cases step with
  | report touch | keys button =>
    rw [presses_quiet step rfl rfl]
    simp
  | wakeReadSD asleep | wakePlayRecording asleep =>
    rw [presses_quiet step rfl rfl]
    simp
  | @wakeKeyHandler pc asleep =>
    rw [presses_quiet step rfl rfl, asleep]
    cases pc <;> rfl
  | @readSD pc answer ready =>
    obtain ⟨_, _, _, _, same⟩ := taskReadSD_shared answer s.shared pc
    rw [presses_quiet step rfl (by simp only [Sys.readSDNext, same])]
    simp [Sys.readSDNext]
  | @playRecording pc answer ready first =>
    obtain ⟨_, _, _, _, _, _, _, _, same⟩ := taskPlayRecording_shared answer s.shared pc
    rw [presses_quiet step rfl (by simp only [Sys.playRecordingNext, same])]
    simp [Sys.playRecordingNext]
  | @keyHandler pc answer ready first second =>
    obtain ⟨_, _, _, _, _, _, _, _, same⟩ := taskKeyHandler_shared answer s.shared s.locals pc
    have busy : (s.keyHandlerNext (taskKeyHandler answer s.locals s.shared pc)).shared.busyRecording
        = pc.busyRecording s.shared := by
      simp only [Sys.keyHandlerNext, same]
    have changes : s.changes (.run .keyHandler answer) = decide (pc = .toggle) := by
      simp only [Sys.changes, step, Option.any_some, busy]
      cases pc <;> simp [HandlerPc.busyRecording]
    have polls : s.polls (.run .keyHandler answer) =
        decide (pc = .recordTouch ∧ s.shared.mtc2.touchNum ≠ 0) := by
      rw [Bool.eq_iff_iff]
      simp [Sys.polls, ready, Task.readyPc]
    have next := taskKeyHandler_awaiting answer s.locals s.shared pc
    simp only [Sys.keyHandlerNext, presses, changes, polls, next, ready]
    cases pc with
    | toggle => simp [Task.awaiting]
    | recordTouch =>
      by_cases touched : s.shared.mtc2.touchNum ≠ 0 <;> simp [Task.awaiting, touched]
    | _ => simp [Task.awaiting]

/-- A stretch of a run. -/
theorem presses_run {guard : Sys → Act → Prop} {notes : List Press} {t : Sys}
    (run : (system.watch presses).Run guard s notes t) :
    notes.count .change + t.keyHandler.awaiting =
      s.keyHandler.awaiting + notes.count .poll := by
  refine run.invariant (fun notes t => notes.count .change + t.keyHandler.awaiting =
    s.keyHandler.awaiting + notes.count .poll) (Nat.add_comm _ _) ?_
  intro notes t act t' noted before _ step
  obtain ⟨rfl, events, step⟩ := Machine.watch_step.mp step
  have one := presses_step step
  rw [List.count_append, List.count_append]
  omega

/-- `busyRecording` changes at most once in a stretch exactly when at most one poll sees the
touch, counting one that waits at its beginning and not counting one that waits at its end. -/
theorem one_toggle_iff {notes : List Press} {t : Sys}
    (run : (system.watch presses).Run Held s notes t) :
    notes.count .change ≤ 1 ↔
      s.keyHandler.awaiting + notes.count .poll ≤ 1 + t.keyHandler.awaiting := by
  have counted := presses_run run
  omega

/-! ## A short touch and a long one -/

/-- A card with one song, up to the end of an iteration of `TaskKeyHandler`. -/
def cardReady : List Act := insertCard 1 ++ firstIteration

/-- The finger touches the record button for one iteration. -/
theorem one_toggle_iff_short : ∃ s notes t, (system.watch presses).Run Held s notes t ∧
    notes.count .poll = 1 ∧ notes.count .change ≤ 1 := by
  have steps : (system.exec cardReady [] (.boot 0 0)).bind (fun run =>
      ((system.watch presses).execWithin Held touchRecord [] run.2).map fun after =>
        (run.2.keyHandler.awaiting, after.1.count .poll)) = some (0, 1) := by decide +kernel
  obtain ⟨⟨trace, s⟩, before, steps⟩ := Option.bind_eq_some_iff.mp steps
  obtain ⟨⟨notes, t⟩, watched, same⟩ := Option.map_eq_some_iff.mp steps
  simp only [Prod.mk.injEq] at same
  obtain ⟨waits, polls⟩ := same
  have run := Machine.Run.nil.execWithin watched
  have fits : s.keyHandler.awaiting + notes.count .poll ≤ 1 + t.keyHandler.awaiting := by omega
  exact ⟨s, notes, t, run, polls, (one_toggle_iff run).mpr fits⟩

/-- The finger rests on the record button for two iterations. -/
theorem twoIterations : (system.exec cardReady [] (.boot 0 0)).bind (fun run =>
      ((system.watch presses).execWithin Held (touchRecord ++ touchRecord) [] run.2).map
        fun run => run.1.count .change) = some 2 := by decide +kernel

/-- The recording that the first begins is ended by the second. -/
theorem not_oneToggle : ¬OneToggle := by
  intro once
  obtain ⟨⟨trace, s⟩, before, steps⟩ := Option.bind_eq_some_iff.mp twoIterations
  obtain ⟨⟨notes, t⟩, watched, changes⟩ := Option.map_eq_some_iff.mp steps
  have bound := once (Machine.Run.nil.exec before) (Machine.Run.nil.execWithin watched)
  rw [changes] at bound
  contradiction

end SoundBoard.Tasks
