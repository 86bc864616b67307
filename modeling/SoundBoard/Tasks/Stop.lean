import SoundBoard.Tasks.Replay

/-!
# The stop button

What `TaskPlayRecording` still plays after it has seen a touch of the stop button. The poll
clears `playingRecording`, which only the outer loop tests; the two loops inside it go on to the
last tick of the last entry.
-/

namespace SoundBoard.Tasks

open SoundBoard.Lib

/-! ## The property -/

/-- The next step of `TaskPlayRecording` sees a touch of the stop button. -/
def PlayPc.seesStop (shared : Shared) : PlayPc → Bool
  | .pollY _ _ x | .pollEntryY _ x => playTouched x shared.mtc2.y1
  | _ => false

/-- A step within a replay: `TaskPlayRecording` has not been deleted. -/
def Within (s : Sys) (_ : Act) : Prop := s.playRecording ≠ .absent

/-- The replay makes no call of `waveplay_execute` from here on, whatever happens. -/
def Silent (s : Sys) : Prop :=
  ∀ (later : List Event) (t : Sys), system.Run Within s later t → playCalls later = []

/-- Once a replay has seen a touch of the stop button, it is silent. -/
def StopStops : Prop :=
  ∀ {x1 y1 : Nat} {trace events : List Event} {s s' : Sys} {answer : Answer} {pc : PlayPc},
    system.Run Machine.Free (.boot x1 y1) trace s →
    system.step (.run .playRecording answer) s = some (s', events) →
    s.playRecording = .ready pc → pc.seesStop s.shared = true → Silent s'

/-- The poll comes after the last tick of the tenth entry. -/
def PlayPc.Last (recordingPlaylist : Nat → Recording) : PlayPc → Prop
  | .pollY i j _ => maxRecording - 30 ≤ i + 1 ∧ (recordingPlaylist i).playticks ≤ j
  | .pollEntryY i _ => maxRecording - 30 ≤ i + 1
  | _ => False

/-! ## The rest of a replay -/

/-- No call of `waveplay_execute` is left to make. -/
def PlayPc.Ending (recordingPlaylist : Nat → Recording) : PlayPc → Prop
  | .forJ i j => maxRecording - 30 ≤ i + 1 ∧ (recordingPlaylist i).playticks < j
  | .pollEntryX i | .pollEntryY i _ => maxRecording - 30 ≤ i + 1
  | .forI i => maxRecording - 30 ≤ i
  | .whileTest | .delay | .clearFlag | .finish => True
  | _ => False

variable (answer : Answer) (shared : Shared)

/-- `TaskPlayRecording` comes to its end without a call. It does not sleep at the test of the
inner loop, where a change of the recording would matter. -/
theorem taskPlayRecording_ending {pc : PlayPc} (stopped : shared.playingRecording = false)
    (ending : pc.Ending shared.recordingPlaylist) :
    (taskPlayRecording answer shared pc).shared.playingRecording = false ∧
      ((taskPlayRecording answer shared pc).task.All
        (PlayPc.Ending (taskPlayRecording answer shared pc).shared.recordingPlaylist)) ∧
      (∀ i j, (taskPlayRecording answer shared pc).task ≠ .asleep (.forJ i j)) ∧
      (taskPlayRecording answer shared pc).events = [] := by
  cases pc with
  | begin | clearX | clearY | execute | key | pollX | pollY => exact ending.elim
  | forJ i j =>
    have passed := Nat.not_le.mpr ending.2
    simp only [taskPlayRecording, if_neg passed]
    refine ⟨stopped, ?_, by simp, trivial⟩
    exact (Task.all_ready _ _).mpr ending.1
  | forI i =>
    have passed := Nat.not_lt.mpr ending
    simp [taskPlayRecording, if_neg passed, PlayPc.Ending, stopped]
  | pollEntryY i x =>
    have last : maxRecording - 30 ≤ i + 1 := ending
    simp only [taskPlayRecording, Shared.pollStop]
    split <;> simp [PlayPc.Ending, stopped, last]
  | pollEntryX i =>
    have last : maxRecording - 30 ≤ i + 1 := ending
    simp [taskPlayRecording, PlayPc.Ending, stopped, last]
  | whileTest | delay | clearFlag | finish =>
    simp [taskPlayRecording, PlayPc.Ending, stopped]

/-- The last poll leaves no call to make. -/
theorem taskPlayRecording_last {pc : PlayPc} (sees : pc.seesStop shared = true)
    (last : pc.Last shared.recordingPlaylist) :
    (taskPlayRecording answer shared pc).shared.playingRecording = false ∧
      ((taskPlayRecording answer shared pc).task.All
        (PlayPc.Ending (taskPlayRecording answer shared pc).shared.recordingPlaylist)) ∧
      ∀ i j, (taskPlayRecording answer shared pc).task ≠ .asleep (.forJ i j) := by
  cases pc with
  | pollY i j x =>
    have touched : playTouched x shared.mtc2.y1 = true := sees
    simp only [taskPlayRecording, Shared.pollStop, if_pos touched]
    refine ⟨trivial, ?_, by simp⟩
    exact (Task.all_ready _ _).mpr ⟨last.1, Nat.lt_succ_of_le last.2⟩
  | pollEntryY i x =>
    have touched : playTouched x shared.mtc2.y1 = true := sees
    simp only [taskPlayRecording, Shared.pollStop, if_pos touched]
    refine ⟨trivial, ?_, by simp⟩
    exact (Task.all_ready _ _).mpr last
  | _ => contradiction

/-- The states behind such a poll. -/
structure Stopped (s : Sys) : Prop where
  flag : s.shared.playingRecording = false
  ends : s.playRecording.All (PlayPc.Ending s.shared.recordingPlaylist)
  awake : ∀ i j, s.playRecording ≠ .asleep (.forJ i j)

/-- A step of `TaskKeyHandler` finds the replay asleep, where its recording does not matter any
more. -/
theorem Stopped.keyHandler {s : Sys} {pc : HandlerPc} (before : Stopped s) (answer : Answer)
    (present : s.playRecording ≠ .absent) (rests : s.playRecording.readyPc = none) :
    Stopped (s.keyHandlerNext (taskKeyHandler answer s.locals s.shared pc)) := by
  obtain ⟨_, _, _, _, _, _, _, _, same⟩ := taskKeyHandler_shared answer s.shared s.locals pc
  have kept : (taskKeyHandler answer s.locals s.shared pc).create.playRecordingTask
      s.playRecording = s.playRecording := by
    rcases Create.playRecordingTask_cases (taskKeyHandler answer s.locals s.shared pc).create
      s.playRecording with old | ⟨_, absent, _⟩
    · exact old
    · exact absurd absent present
  constructor <;> simp only [Sys.keyHandlerNext, kept]
  · rw [same]
    exact before.flag
  · intro play here
    have ending := before.ends play here
    cases task : s.playRecording with
    | absent => exact absurd task present
    | ready pc =>
      rw [task] at rests
      contradiction
    | asleep pc =>
      rw [task] at here
      obtain rfl : pc = play := Option.some.inj here
      cases pc with
      | forJ i j => exact absurd task (before.awake i j)
      | _ => exact ending
  · exact before.awake

/-- While the replay exists, every step keeps it so, and makes no call. -/
theorem Stopped.step {s s' : Sys} {act : Act} {events : List Event} (before : Stopped s)
    (within : Within s act) (step : system.step act s = some (s', events)) :
    Stopped s' ∧ playCalls events = [] := by
  cases Sys.step_cases step with
  | report touch | keys button => exact ⟨{ before with }, rfl⟩
  | wakeReadSD asleep | wakeKeyHandler asleep => exact ⟨{ before with }, rfl⟩
  | wakePlayRecording asleep =>
    have ends := before.ends
    rw [asleep, Task.all_asleep] at ends
    exact ⟨⟨before.flag, (Task.all_ready _ _).mpr ends, by simp⟩, rfl⟩
  | @readSD pc answer ready =>
    obtain ⟨_, _, _, _, same⟩ := taskReadSD_shared answer s.shared pc
    refine ⟨⟨?_, ?_, before.awake⟩, ?_⟩
    · simp only [Sys.readSDNext, same]
      exact before.flag
    · simp only [Sys.readSDNext, same]
      exact before.ends
    · apply List.filterMap_eq_nil_iff.mpr
      intro event called
      obtain ⟨count, rfl⟩ := taskReadSD_events answer s.shared pc event called
      rfl
  | @playRecording pc answer ready first =>
    have ending := before.ends
    rw [ready, Task.all_ready] at ending
    obtain ⟨flag, ends, awake, none⟩ := taskPlayRecording_ending answer s.shared before.flag ending
    rw [none]
    exact ⟨⟨flag, ends, awake⟩, rfl⟩
  | @keyHandler pc answer ready first second =>
    have quiet := taskKeyHandler_playCalls answer s.locals s.shared pc
    exact ⟨before.keyHandler answer within second, quiet⟩

/-- So the replay is silent in such a state. -/
theorem Stopped.silent {s : Sys} (stopped : Stopped s) : Silent s := by
  intro later t run
  have kept : Stopped t ∧ playCalls later = [] := by
    refine run.invariant (fun events t => Stopped t ∧ playCalls events = []) ⟨stopped, rfl⟩ ?_
    intro trace s act s' events before within step
    obtain ⟨after, quiet⟩ := before.1.step within step
    refine ⟨after, ?_⟩
    rw [playCalls_append, before.2, quiet]
    rfl
  exact kept.2

/-! ## Polls that come too early -/

/-- A step of a replay that no task of a higher priority holds up. -/
theorem step_playRecording {s : Sys} {pc : PlayPc} (idle : s.readSD.readyPc = none)
    (here : s.playRecording = .ready pc) :
    system.step (.run .playRecording answer) s =
      some (s.playRecordingNext (taskPlayRecording answer s.shared pc),
        (taskPlayRecording answer s.shared pc).events) := by
  show s.runPlayRecording answer = _
  rw [Sys.runPlayRecording, idle, here]
  rfl

/-- A silent replay stays silent, and its step is no call. -/
theorem Silent.next {s : Sys} {pc : PlayPc} (silent : Silent s) (idle : s.readSD.readyPc = none)
    (here : s.playRecording = .ready pc) :
    Silent (s.playRecordingNext (taskPlayRecording answer s.shared pc)) ∧
      playCalls (taskPlayRecording answer s.shared pc).events = [] := by
  have step := step_playRecording answer idle here
  have present : Within s (.run .playRecording answer) := by simp [Within, here]
  have first : system.Run Within s ([] ++ _) _ := Machine.Run.nil.take _ present step
  refine ⟨fun later t run => ?_, silent _ _ first⟩
  have whole := silent _ _ (first.trans run)
  rw [playCalls_append, List.append_eq_nil_iff] at whole
  exact whole.2

/-- At the test of the inner loop a silent replay is past the last tick. -/
theorem Silent.forJ {s : Sys} {i j : Nat} (silent : Silent s) (idle : s.readSD.readyPc = none)
    (here : s.playRecording = .ready (.forJ i j)) :
    (s.shared.recordingPlaylist i).playticks < j := by
  by_contra more
  have none := (silent.next .yes idle here).2
  simp [taskPlayRecording, Nat.le_of_not_lt more, playCalls] at none

/-- At the test of the outer loop it is past the tenth entry. -/
theorem Silent.forI {s : Sys} {i : Nat} (silent : Silent s) (idle : s.readSD.readyPc = none)
    (here : s.playRecording = .ready (.forI i)) : maxRecording - 30 ≤ i := by
  by_contra more
  have next := (silent.next .yes idle here).1
  have past := next.forJ (i := i) (j := 0) idle
    (by simp [Sys.playRecordingNext, taskPlayRecording, Nat.lt_of_not_le more])
  exact absurd past (Nat.not_lt_zero _)

/-- Behind the ticks of an entry it is past the ninth. -/
theorem Silent.entry {s : Sys} {i j : Nat} (silent : Silent s) (idle : s.readSD.readyPc = none)
    (here : s.playRecording = .ready (.forJ i j)) : maxRecording - 30 ≤ i + 1 := by
  have past := silent.forJ idle here
  have polls := (silent.next .yes idle here).1
  have entry : (s.playRecordingNext (taskPlayRecording .yes s.shared (.forJ i j))).playRecording =
      .ready (.pollEntryX i) := by
    simp [Sys.playRecordingNext, taskPlayRecording, Nat.not_le.mpr past]
  have polls := (polls.next .yes idle entry).1
  have tests := (polls.next .yes idle rfl).1
  exact tests.forI idle rfl

/-- Only the last poll silences a replay. -/
theorem Silent.last {s : Sys} {pc : PlayPc} (idle : s.readSD.readyPc = none)
    (sees : pc.seesStop s.shared = true)
    (silent : Silent (s.playRecordingNext (taskPlayRecording answer s.shared pc))) :
    pc.Last s.shared.recordingPlaylist := by
  have kept (x : Nat) : (s.shared.pollStop x).recordingPlaylist = s.shared.recordingPlaylist := by
    unfold Shared.pollStop
    split <;> rfl
  cases pc with
  | pollY i j x =>
    have past := silent.forJ (i := i) (j := j + 1) idle rfl
    simp only [Sys.playRecordingNext, taskPlayRecording, kept] at past
    have last := silent.entry (i := i) (j := j + 1) idle rfl
    exact ⟨last, Nat.le_of_lt_succ past⟩
  | pollEntryY i x => exact silent.forI (i := i + 1) idle rfl
  | _ => contradiction

/-! ## The exact condition -/

/-- A replay that has seen a touch of the stop button is silent exactly when the poll was its
last. -/
theorem stop_stops_iff {s s' : Sys} {answer : Answer} {pc : PlayPc} {events : List Event}
    (step : system.step (.run .playRecording answer) s = some (s', events))
    (ready : s.playRecording = .ready pc) (sees : pc.seesStop s.shared = true) :
    Silent s' ↔ pc.Last s.shared.recordingPlaylist := by
  cases Sys.step_cases step with
  | @playRecording here _ at_ first =>
    obtain rfl : pc = here := Task.ready.inj (ready.symm.trans at_)
    constructor
    · intro silent
      exact silent.last answer first sees
    · intro last
      obtain ⟨flag, ends, awake⟩ := taskPlayRecording_last answer s.shared sees last
      have stopped : Stopped (s.playRecordingNext (taskPlayRecording answer s.shared pc)) :=
        ⟨flag, ends, awake⟩
      exact stopped.silent

/-- A card with one song, a recording of one press, and its replay, in which stop is touched
after some steps, up to the poll that sees it. -/
def touchStop (steps : Nat) : List Act :=
  insertCard 1 ++ firstIteration ++ recordPress ++ touchPlay ++ runs .playRecording steps ++
    [.report ⟨1, 500, 440⟩] ++ runs .playRecording 1

/-- Behind the tenth entry, the touch is seen by the last poll. -/
theorem stop_stops_iff_last : ∃ s s' events,
    system.step (.run .playRecording .yes) s = some (s', events) ∧
      s.playRecording = .ready (.pollEntryY 9 500) ∧ s.shared.mtc2.y1 = 440 ∧ Silent s' := by
  have steps : (system.exec (touchStop 130) [] (.boot 0 0)).bind (fun run =>
      (system.step (.run .playRecording .yes) run.2).map fun _ =>
        (run.2.playRecording.readyPc, run.2.shared.mtc2.y1)) =
      some (some (.pollEntryY 9 500), 440) := by decide +kernel
  obtain ⟨⟨trace, s⟩, steps, last⟩ := Option.bind_eq_some_iff.mp steps
  obtain ⟨⟨s', events⟩, step, same⟩ := Option.map_eq_some_iff.mp last
  obtain ⟨here, touch⟩ := Prod.mk.inj same
  have ready := Task.readyPc_cases here
  have sees : PlayPc.seesStop s.shared (.pollEntryY 9 500) = true := by
    show playTouched 500 s.shared.mtc2.y1 = true
    rw [touch]
    rfl
  exact ⟨s, s', events, step, ready, touch,
    (stop_stops_iff step ready sees).mpr (Nat.le_refl _)⟩

/-- A touch that is seen behind the first tick of the first entry is followed by a call for the
second. -/
theorem touchStop_calls : (system.exec (touchStop 11) [] (.boot 0 0)).bind (fun run =>
      (system.step (.run .playRecording .yes) run.2).bind fun next =>
        (system.step (.run .playRecording .yes) next.1).map fun after =>
          (run.2.playRecording.readyPc, run.2.shared.mtc2.y1, next.1.playRecording.readyPc,
            playCalls after.2)) =
    some (some (.pollY 0 0 500), 440, some (.forJ 0 1), [0]) := by decide +kernel

/-- Stop does not stop a replay. -/
theorem not_stopStops : ¬StopStops := by
  intro stops
  obtain ⟨⟨trace, s⟩, steps, last⟩ := Option.bind_eq_some_iff.mp touchStop_calls
  obtain ⟨⟨s', events⟩, step, last⟩ := Option.bind_eq_some_iff.mp last
  obtain ⟨⟨t, later⟩, call, same⟩ := Option.map_eq_some_iff.mp last
  simp only [Prod.mk.injEq] at same
  obtain ⟨here, touch, next, calls⟩ := same
  have sees : PlayPc.seesStop s.shared (.pollY 0 0 500) = true := by
    show playTouched 500 s.shared.mtc2.y1 = true
    rw [touch]
    rfl
  have silent := stops (Machine.Run.nil.exec steps) step (Task.readyPc_cases here) sees
  have present : Within s' (.run .playRecording .yes) := by
    simp [Within, Task.readyPc_cases next]
  have none := silent _ _ (Machine.Run.nil.take _ present call)
  rw [List.nil_append, calls] at none
  contradiction

end SoundBoard.Tasks
