import SoundBoard.Tasks.Exclusive

/-!
# The recording under the player

`TaskPlayRecording` reads `recordingPlaylist` entry by entry, and sleeps wherever a song begins
again or a volume is written. `TaskKeyHandler` runs in these gaps. It writes an entry behind a
press in a recording session, and clears all of them where a session begins.
-/

namespace SoundBoard.Tasks

open SoundBoard.Lib

/-! ## The property -/

/-- `TaskPlayRecording` goes through the recording, and a call of `waveplay_execute` is under
way or still to come. -/
def PlayPc.iterating (recordingPlaylist : Nat → Recording) : PlayPc → Bool
  | .forI i => i < maxRecording - 30
  | .forJ i j => j ≤ (recordingPlaylist i).playticks || i + 1 < maxRecording - 30
  | .execute _ _ _ => true
  | .key i j _ | .pollX i j | .pollY i j _ =>
    j + 1 ≤ (recordingPlaylist i).playticks || i + 1 < maxRecording - 30
  | .pollEntryX i | .pollEntryY i _ => i + 1 < maxRecording - 30
  | _ => false

/-- In the runs under a guard, no step modifies the recording while it is iterated. -/
def Unmodified (guard : Sys → Act → Prop) : Prop :=
  ∀ {x1 y1 : Nat} {trace events : List Event} {s s' : Sys} {act : Act} {pc : PlayPc},
    system.Run guard (.boot x1 y1) trace s → guard s act →
    system.step act s = some (s', events) → s.playRecording.pc? = some pc →
    pc.iterating s.shared.recordingPlaylist = true →
    s'.shared.recordingPlaylist = s.shared.recordingPlaylist

/-! ## The rule -/

/-- A touch of the record button that begins a session is seen outside replays. -/
def HandlerPc.RecordsOutside (s : Sys) : HandlerPc → Prop
  | .recordTouch =>
    s.shared.mtc2.touchNum ≠ 0 → s.shared.busyRecording = false → s.NotReplaying
  | _ => True

/-- A step by which no session begins inside a replay. -/
def RecordsOutside (s : Sys) : Act → Prop
  | .run .keyHandler _ => s.keyHandler.All fun pc => pc.RecordsOutside s
  | _ => True

instance (s : Sys) : DecidablePred (HandlerPc.RecordsOutside s)
  | .recordTouch => inferInstanceAs (Decidable
    (s.shared.mtc2.touchNum ≠ 0 → s.shared.busyRecording = false → s.NotReplaying))
  | .head | .createRead | .touch | .touchX | .touchY _ | .songCheck | .startCall | .start _
  | .loopTest | .loopReady | .loopX | .loopY _ | .executeCall | .execute _ | .stopPlaying
  | .loopKey _ | .afterLoop | .endPress | .recordX | .recordY _ | .toggle | .playX | .playY _
  | .playTouch | .playFlag | .createPlay | .key _ | .delay => .isTrue trivial

instance (s : Sys) : DecidablePred (RecordsOutside s)
  | .run .keyHandler _ =>
    inferInstanceAs (Decidable (s.keyHandler.All fun pc => pc.RecordsOutside s))
  | .run .readSD _ | .run .playRecording _ | .report _ | .keys _ | .tick _ => .isTrue trivial

/-! ## The invariant -/

/-- The states of runs that keep to the rule: a replay finds no session, and none about to
begin. -/
structure Undisturbed (s : Sys) : Prop where
  replay : s.playRecording.All fun pc => pc.inReplay s.shared.playingRecording = true →
    s.shared.busyRecording = false ∧ s.keyHandler.All fun pc => pc ≠ .toggle
  finished : s.shared.songRecording = true → s.shared.busyRecording = false
  accepted : s.keyHandler.All fun pc => pc.accepted = true → s.shared.busyRecording = false

/-- After start-up there is no session. -/
theorem Undisturbed.boot (x1 y1 : Nat) : Undisturbed (.boot x1 y1) := by
  constructor <;> simp [Sys.boot, Shared.boot]

/-- A step of `TaskReadSD`. -/
theorem Undisturbed.readSD {s : Sys} {pc : ReadPc} (before : Undisturbed s) (answer : Answer) :
    Undisturbed (s.readSDNext (taskReadSD answer s.shared pc)) := by
  obtain ⟨_, _, _, _, same⟩ := taskReadSD_shared answer s.shared pc
  simp only [Sys.readSDNext, same]
  exact ⟨before.replay, before.finished, before.accepted⟩

/-- A step of `TaskPlayRecording`. -/
theorem Undisturbed.playRecording {s : Sys} {pc : PlayPc} (before : Undisturbed s)
    (answer : Answer) (ready : s.playRecording = .ready pc) :
    Undisturbed (s.playRecordingNext (taskPlayRecording answer s.shared pc)) := by
  have replay := before.replay
  rw [ready, Task.all_ready] at replay
  have points := taskPlayRecording_points answer s.shared pc
  obtain ⟨_, _, _, _, _, _, _, _, same⟩ := taskPlayRecording_shared answer s.shared pc
  simp only [Sys.playRecordingNext]
  rw [same] at points ⊢
  exact ⟨points.mono fun pc' point inside => replay (point.2 inside), before.finished,
    before.accepted⟩

/-- A step of `TaskKeyHandler`. -/
theorem Undisturbed.keyHandler {s : Sys} {pc : HandlerPc} (before : Undisturbed s)
    (answer : Answer) (ready : s.keyHandler = .ready pc) (rule : pc.RecordsOutside s) :
    Undisturbed (s.keyHandlerNext (taskKeyHandler answer s.locals s.shared pc)) := by
  have replay := before.replay
  have accepted := before.accepted
  simp only [ready, Task.all_ready] at replay accepted
  have controls := taskKeyHandler_controls answer s.shared s.locals pc
  have shows := taskKeyHandler_shows answer s.shared s.locals pc
  have creates := taskKeyHandler_create answer s.shared s.locals pc
  obtain ⟨_, _, _, _, _, _, _, _, same⟩ := taskKeyHandler_shared answer s.shared s.locals pc
  have playing : (taskKeyHandler answer s.locals s.shared pc).shared.playingRecording =
      s.shared.playingRecording := by rw [same]
  have busy : (taskKeyHandler answer s.locals s.shared pc).shared.busyRecording =
      pc.busyRecording s.shared := by rw [same]
  have still (other : pc ≠ .toggle) : pc.busyRecording s.shared = s.shared.busyRecording := by
    cases pc with
    | toggle => exact absurd rfl other
    | _ => rfl
  constructor <;> simp only [Sys.keyHandlerNext, playing, busy]
  · intro play here inside
    rcases Create.playRecordingTask_cases (taskKeyHandler answer s.locals s.shared pc).create
      s.playRecording with old | ⟨created, _, _⟩
    · rw [old] at here
      obtain ⟨idle, outside⟩ := replay play here inside
      refine ⟨(still outside).trans idle, controls.mono fun pc' taken toggles => ?_⟩
      obtain ⟨rfl, touched⟩ := taken.2.1 toggles
      have rests := rule touched idle play here
      rw [rests] at inside
      contradiction
    · rw [created] at creates
      cases pc with
      | createPlay =>
        refine ⟨accepted rfl, controls.mono fun pc' taken toggles => ?_⟩
        have from_ := (taken.2.1 toggles).1
        contradiction
      | _ => contradiction
  · have exists_ := congrArg Prod.fst shows
    simp only [Shared.controls] at exists_
    rw [exists_]
    intro recorded
    cases pc with
    | toggle =>
      cases session : s.shared.busyRecording <;>
        simp_all [HandlerPc.controls, Shared.toggleRecording, Shared.controls,
          HandlerPc.busyRecording]
    | _ => exact before.finished recorded
  · refine controls.mono fun pc' taken takes => ?_
    rcases taken.1 takes with already | ⟨rfl, recorded⟩
    · have other : pc ≠ .toggle := by
        rintro rfl
        contradiction
      exact (still other).trans (accepted already)
    · exact before.finished recorded

/-- In the states of a run that keeps to the rule, replays are undisturbed. -/
theorem Undisturbed.run {x1 y1 : Nat} {trace : List Event} {s : Sys}
    (run : system.Run RecordsOutside (.boot x1 y1) trace s) : Undisturbed s := by
  apply run.stateInvariant Undisturbed (.boot x1 y1)
  intro s act s' events before rule step
  cases Sys.step_cases step with
  | report touch | keys button => exact ⟨before.replay, before.finished, before.accepted⟩
  | wakeReadSD asleep => exact ⟨before.replay, before.finished, before.accepted⟩
  | wakePlayRecording asleep =>
    have replay := before.replay
    rw [asleep, Task.all_asleep] at replay
    exact ⟨(Task.all_ready _ _).mpr replay, before.finished, before.accepted⟩
  | wakeKeyHandler asleep =>
    have replay := before.replay
    have accepted := before.accepted
    simp only [asleep, Task.all_asleep] at replay accepted
    refine ⟨replay.mono fun pc kept inside => ?_, before.finished,
      (Task.all_ready _ _).mpr accepted⟩
    obtain ⟨idle, outside⟩ := kept inside
    exact ⟨idle, (Task.all_ready _ _).mpr outside⟩
  | readSD answer ready => exact before.readSD answer
  | playRecording answer ready first => exact before.playRecording answer ready
  | keyHandler answer ready first second =>
    simp only [RecordsOutside, ready, Task.all_ready] at rule
    exact before.keyHandler answer ready rule

/-- An iteration is part of a replay. -/
theorem PlayPc.inReplay_of_iterating {pc : PlayPc} {recordingPlaylist : Nat → Recording}
    (playingRecording : Bool) (iterates : pc.iterating recordingPlaylist = true) :
    pc.inReplay playingRecording = true := by
  cases pc <;> first | rfl | contradiction

/-- In the runs that keep to the rule, the recording does not change while it is iterated. -/
theorem unmodified_recordsOutside {x1 y1 : Nat} {trace events : List Event} {s s' : Sys}
    {act : Act} {pc : PlayPc} (run : system.Run RecordsOutside (.boot x1 y1) trace s)
    (step : system.step act s = some (s', events)) (here : s.playRecording.pc? = some pc)
    (iterates : pc.iterating s.shared.recordingPlaylist = true) :
    s'.shared.recordingPlaylist = s.shared.recordingPlaylist := by
  have undisturbed := Undisturbed.run run
  obtain ⟨idle, outside⟩ := undisturbed.replay pc here (PlayPc.inReplay_of_iterating _ iterates)
  cases Sys.step_cases step with
  | report touch | keys button => rfl
  | wakeReadSD asleep | wakePlayRecording asleep | wakeKeyHandler asleep => rfl
  | @readSD read answer ready =>
    obtain ⟨_, _, _, _, same⟩ := taskReadSD_shared answer s.shared read
    simp only [Sys.readSDNext, same]
  | @playRecording play answer ready first =>
    obtain ⟨_, _, _, _, _, _, _, _, same⟩ := taskPlayRecording_shared answer s.shared play
    simp only [Sys.playRecordingNext, same]
  | @keyHandler handle answer ready first second =>
    rw [ready, Task.all_ready] at outside
    obtain ⟨_, _, _, _, _, _, _, _, same⟩ :=
      taskKeyHandler_shared answer s.shared s.locals handle
    simp only [Sys.keyHandlerNext, same]
    cases handle with
    | afterLoop => simp [HandlerPc.recordingPlaylist, idle]
    | toggle => exact absurd rfl outside
    | _ => rfl

/-- A card with one song, a recording of one press, and its replay, which sleeps in its first
call. -/
def replayPress : List Act :=
  insertCard 1 ++ firstIteration ++ recordPress ++ touchPlay ++ restartSong

/-- A step of `TaskKeyHandler` in that gap leaves the recording as it is. -/
theorem unmodified_recordsOutside_replay : ∃ trace s s' events pc,
    system.Run RecordsOutside (.boot 0 0) trace s ∧
      system.step (.run .keyHandler .yes) s = some (s', events) ∧
      s.playRecording.pc? = some pc ∧ pc.iterating s.shared.recordingPlaylist = true ∧
      s'.shared.recordingPlaylist = s.shared.recordingPlaylist := by
  have steps : (system.execWithin RecordsOutside replayPress [] (.boot 0 0)).bind (fun run =>
      (system.step (.run .keyHandler .yes) run.2).map fun _ => run.2.playRecording.pc?) =
      some (some (.execute 0 0 (.restart (.setRate 44100)))) := by decide +kernel
  obtain ⟨⟨trace, s⟩, steps, last⟩ := Option.bind_eq_some_iff.mp steps
  obtain ⟨⟨s', events⟩, step, here⟩ := Option.map_eq_some_iff.mp last
  have run := Machine.Run.nil.execWithin steps
  exact ⟨trace, s, s', events, _, run, step, here, rfl,
    unmodified_recordsOutside run step here rfl⟩

/-! ## A session that begins inside a replay -/

/-- While the replay sleeps, the record button is touched and the touch is seen. -/
def touchInReplay : List Act :=
  replayPress ++ runs .keyHandler 4 ++ [.report ⟨1, 200, 440⟩, .tick .keyHandler] ++
    runs .keyHandler 8 ++ [.tick .keyHandler]

/-- The session that begins clears the entry that is being played. -/
theorem touchInReplay_entries : (system.exec touchInReplay [] (.boot 0 0)).bind (fun run =>
      (system.step (.run .keyHandler .yes) run.2).map fun next =>
        (run.2.playRecording.pc?, run.2.shared.recordingPlaylist 0,
          next.1.shared.recordingPlaylist 0)) =
    some (some (.execute 0 0 (.restart (.setRate 44100))), ⟨0, 1⟩, ⟨0, 0⟩) := by decide +kernel

/-- Without the rule, a recording changes while it is iterated. -/
theorem not_unmodified_free : ¬Unmodified Machine.Free := by
  intro unmodified
  obtain ⟨⟨trace, s⟩, steps, last⟩ := Option.bind_eq_some_iff.mp touchInReplay_entries
  obtain ⟨⟨s', events⟩, step, same⟩ := Option.map_eq_some_iff.mp last
  obtain ⟨here, entries⟩ := Prod.mk.inj same
  obtain ⟨first, second⟩ := Prod.mk.inj entries
  have kept := unmodified (Machine.Run.nil.exec steps) trivial step here rfl
  have entry := congrFun kept 0
  rw [first, second] at entry
  contradiction

end SoundBoard.Tasks
