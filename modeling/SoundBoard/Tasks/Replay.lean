import SoundBoard.Lib.Timeline
import SoundBoard.Tasks.Steps

/-!
# The replay

Which songs `TaskPlayRecording` passes to `waveplay_execute` from its creation to its end. Both
the recording and the replay are timelines. The replay has ten segments, each with one tick
more than was recorded.
-/

namespace SoundBoard.Tasks

open SoundBoard.Lib

/-- The song numbers that `TaskPlayRecording` has played. -/
def playCalls (trace : List Event) : List Int :=
  trace.filterMap fun event => match event with
    | .execute .playRecording songnummer => some songnummer
    | _ => none

@[simp] theorem playCalls_append (first second : List Event) :
    playCalls (first ++ second) = playCalls first ++ playCalls second := by
  simp [playCalls, List.filterMap_append]

/-- The number of entries that a replay goes through, `MAX_RECORDING - 30`. -/
def replayed : Nat := 10

/-- The steps of one replay: the recording does not change, no second replay is created, and
the stop button is not touched when it is polled. -/
def OneReplay (s : Sys) : Act → Prop
  | .run .playRecording _ => s.playRecording.All fun pc =>
      (∀ (i j x : Nat), pc = .pollY i j x → playTouched x s.shared.mtc2.y1 = false) ∧
        ∀ (i x : Nat), pc = .pollEntryY i x → playTouched x s.shared.mtc2.y1 = false
  | .run .keyHandler _ => s.keyHandler.All fun pc =>
      pc ≠ .createPlay ∧ pc ≠ .toggle ∧ (pc = .afterLoop → s.shared.busyRecording = false)
  | _ => True

/-- Every complete replay of a recording plays exactly its first `n` entries. -/
def Replays (recordingPlaylist : Nat → Recording) (n : Nat) : Prop :=
  ∀ {start s : Sys} {trace : List Event}, start.playRecording = .ready .begin →
    start.shared.recordingPlaylist = recordingPlaylist → system.Run OneReplay start trace s →
    s.playRecording = .absent →
    playCalls trace = timeline (fun i => (recordingPlaylist i).songnummer)
      (fun i => (recordingPlaylist i).playticks) n

/-! ## What a replay plays -/

/-- The songs of the first entries as the replay plays them: an entry of `playticks` ticks is
played once more. -/
def replayCalls (recordingPlaylist : Nat → Recording) (n : Nat) : List Int :=
  timeline (fun i => (recordingPlaylist i).songnummer)
    (fun i => (recordingPlaylist i).playticks + 1) n

/-- What has been played at a program point. -/
def PlayPc.Heard (recordingPlaylist : Nat → Recording) (playingRecording : Bool)
    (heard : List Int) : PlayPc → Prop
  | .begin => heard = []
  | .clearX | .clearY => heard = [] ∧ playingRecording = true
  | .whileTest => heard = if playingRecording then [] else replayCalls recordingPlaylist replayed
  | .forI i => i ≤ replayed ∧ heard = replayCalls recordingPlaylist i
  | .forJ i j => i < replayed ∧ j ≤ (recordingPlaylist i).playticks + 1 ∧
      heard = replayCalls recordingPlaylist i ++
        List.replicate j (recordingPlaylist i).songnummer
  | .execute i j _ | .key i j _ | .pollX i j | .pollY i j _ =>
      i < replayed ∧ j ≤ (recordingPlaylist i).playticks ∧
      heard = replayCalls recordingPlaylist i ++
        List.replicate (j + 1) (recordingPlaylist i).songnummer
  | .pollEntryX i | .pollEntryY i _ =>
      i < replayed ∧ heard = replayCalls recordingPlaylist (i + 1)
  | .delay | .clearFlag | .finish => heard = replayCalls recordingPlaylist replayed

/-- What has been played when the task is where it is; when it is gone, everything. -/
def Task.Heard (recordingPlaylist : Nat → Recording) (playingRecording : Bool)
    (heard : List Int) : Task PlayPc → Prop
  | .absent => heard = replayCalls recordingPlaylist replayed
  | .ready pc | .asleep pc => pc.Heard recordingPlaylist playingRecording heard

/-- A call inside the replay keeps what has been played. -/
theorem Sub.heard {inner result : Type} {recordingPlaylist : Nat → Recording}
    {playingRecording : Bool} {heard : List Int} {wrap : inner → PlayPc}
    {behind : result → PlayPc} (sub : Sub inner result)
    (inside : ∀ pc, (wrap pc).Heard recordingPlaylist playingRecording heard)
    (after : ∀ result, (behind result).Heard recordingPlaylist playingRecording heard) :
    (sub.task wrap behind).Heard recordingPlaylist playingRecording heard := by
  cases sub with
  | «at» pc => exact inside pc
  | sleep pc => exact inside pc
  | done result => exact after result

/-- A step of `TaskPlayRecording` plays what its program points say. -/
theorem taskPlayRecording_heard {shared : Shared} {pc : PlayPc} {heard : List Int}
    (answer : Answer)
    (before : pc.Heard shared.recordingPlaylist shared.playingRecording heard) :
    (taskPlayRecording answer shared pc).task.Heard shared.recordingPlaylist
      (taskPlayRecording answer shared pc).shared.playingRecording
      (heard ++ playCalls (taskPlayRecording answer shared pc).events) := by
  cases pc with
  | execute i j pc =>
    simp only [taskPlayRecording, playCalls, List.filterMap_nil, List.append_nil]
    exact Sub.heard _ (fun _ => before) fun _ => before
  | key i j pc =>
    simp only [taskPlayRecording, playCalls, List.filterMap_nil, List.append_nil]
    exact Sub.heard _ (fun _ => before) fun _ => before
  | forI i =>
    obtain ⟨inside, rfl⟩ := before
    by_cases more : i < maxRecording - 30
    · simp only [taskPlayRecording, if_pos more, playCalls, List.filterMap_nil, List.append_nil]
      exact ⟨more, Nat.zero_le _, (List.append_nil _).symm⟩
    · simp only [taskPlayRecording, if_neg more, playCalls, List.filterMap_nil, List.append_nil]
      have last : i = replayed := by
        simp only [maxRecording, replayed] at more inside ⊢
        omega
      rw [last]
      rfl
  | forJ i j =>
    obtain ⟨inside, bound, rfl⟩ := before
    by_cases more : j ≤ (shared.recordingPlaylist i).playticks
    · simp only [taskPlayRecording, if_pos more, playCalls, List.filterMap_cons,
        List.filterMap_nil]
      refine ⟨inside, more, ?_⟩
      rw [List.append_assoc, List.replicate_succ']
    · simp only [taskPlayRecording, if_neg more, playCalls, List.filterMap_nil, List.append_nil]
      refine ⟨inside, ?_⟩
      rw [show j = (shared.recordingPlaylist i).playticks + 1 by omega]
      rfl
  | pollY i j x =>
    simp only [taskPlayRecording, playCalls, List.filterMap_nil, List.append_nil]
    exact ⟨before.1, Nat.succ_le_succ before.2.1, before.2.2⟩
  | pollEntryY i x =>
    simp only [taskPlayRecording, playCalls, List.filterMap_nil, List.append_nil]
    exact ⟨before.1, before.2⟩
  | whileTest =>
    cases playing : shared.playingRecording <;>
      simp_all [taskPlayRecording, playCalls, Task.Heard, PlayPc.Heard, replayCalls, timeline]
  | begin => simp_all [taskPlayRecording, playCalls, Task.Heard, PlayPc.Heard]
  | clearY => simp_all [taskPlayRecording, playCalls, Task.Heard, PlayPc.Heard]
  | clearFlag => simp_all [taskPlayRecording, playCalls, Task.Heard, PlayPc.Heard]
  | _ =>
    simpa [taskPlayRecording, playCalls, Task.Heard, PlayPc.Heard] using before

/-- `TaskKeyHandler` plays for itself. -/
theorem taskKeyHandler_playCalls (answer : Answer) (locals : Locals) (shared : Shared)
    (pc : HandlerPc) : playCalls (taskKeyHandler answer locals shared pc).events = [] := by
  cases pc with
  | loopKey | afterLoop =>
    simp only [taskKeyHandler]
    split <;> rfl
  | _ => rfl

/-- Every run from the creation of a replay to its end plays the ten segments. -/
theorem replay_run {start s : Sys} {trace : List Event}
    (begins : start.playRecording = .ready .begin) (run : system.Run OneReplay start trace s) :
    s.shared.recordingPlaylist = start.shared.recordingPlaylist ∧
      s.playRecording.Heard start.shared.recordingPlaylist s.shared.playingRecording
        (playCalls trace) := by
  refine run.invariant (fun trace s =>
    s.shared.recordingPlaylist = start.shared.recordingPlaylist ∧
      s.playRecording.Heard start.shared.recordingPlaylist s.shared.playingRecording
        (playCalls trace)) ⟨rfl, ?_⟩ ?_
  · rw [begins]
    rfl
  · rintro trace s act s' events ⟨recording, heard⟩ rule step
    rw [playCalls_append]
    cases Sys.step_cases step with
    | report | keys | wakeReadSD | wakeKeyHandler =>
      rw [show playCalls [] = [] from rfl, List.append_nil]
      exact ⟨recording, heard⟩
    | wakePlayRecording asleep =>
      rw [asleep] at heard
      rw [show playCalls [] = [] from rfl, List.append_nil]
      exact ⟨recording, heard⟩
    | @readSD pc answer ready =>
      obtain ⟨_, _, _, _, same⟩ := taskReadSD_shared answer s.shared pc
      have silent : playCalls (taskReadSD answer s.shared pc).events = [] := by
        refine List.filterMap_eq_nil_iff.mpr fun event emitted => ?_
        obtain ⟨count, rfl⟩ := taskReadSD_events answer s.shared pc event emitted
        rfl
      simp only [Sys.readSDNext, same, silent, List.append_nil]
      exact ⟨recording, heard⟩
    | @playRecording pc answer ready first =>
      rw [ready, ← recording] at heard
      have next := taskPlayRecording_heard answer heard
      obtain ⟨_, _, _, _, _, _, _, _, same⟩ := taskPlayRecording_shared answer s.shared pc
      refine ⟨?_, ?_⟩
      · simp only [Sys.playRecordingNext, same]
        exact recording
      · rw [← recording]
        exact next
    | @keyHandler pc answer ready first second =>
      simp only [OneReplay, ready, Task.all_ready] at rule
      obtain ⟨noReplay, noToggle, noPress⟩ := rule
      obtain ⟨_, _, _, _, _, _, _, _, same⟩ := taskKeyHandler_shared answer s.shared s.locals pc
      have kept : pc.recordingPlaylist s.locals s.shared = s.shared.recordingPlaylist := by
        cases pc with
        | afterLoop => simp [HandlerPc.recordingPlaylist, noPress rfl]
        | toggle => exact absurd rfl noToggle
        | _ => rfl
      have created : (taskKeyHandler answer s.locals s.shared pc).create.playRecordingTask
          s.playRecording = s.playRecording := by
        rw [taskKeyHandler_create]
        cases pc with
        | createPlay => exact absurd rfl noReplay
        | _ => rfl
      simp only [Sys.keyHandlerNext, same, kept, created, taskKeyHandler_playCalls,
        List.append_nil]
      exact ⟨recording, heard⟩

/-! ## Every recording has a complete replay -/

/-- The shared variables of a replay without touches, keys or restarts. -/
def replayShared (recordingPlaylist : Nat → Recording) : Shared :=
  { Shared.boot 0 0 with
    playingRecording := true, bFirsTime2SetupVol := false, playBox := .stop, recordingPlaylist }

/-- The system while `TaskKeyHandler` sleeps and `TaskPlayRecording` is where it is. -/
def replaySys (recordingPlaylist : Nat → Recording) (task : Task PlayPc) : Sys :=
  ⟨replayShared recordingPlaylist, .absent, task, .asleep .head, ⟨111, 0, 0⟩⟩

/-- A replay of the recording comes to a program point. -/
def Reaches (recordingPlaylist : Nat → Recording) (task : Task PlayPc) : Prop :=
  ∃ trace, system.Run OneReplay (replaySys recordingPlaylist (.ready .begin)) trace
    (replaySys recordingPlaylist task)

variable {recordingPlaylist : Nat → Recording}

/-- A step that changes no shared variable. -/
theorem Reaches.next {pc : PlayPc} {task : Task PlayPc} {events : List Event}
    (reaches : Reaches recordingPlaylist (.ready pc))
    (next : taskPlayRecording .yes (replayShared recordingPlaylist) pc =
      ⟨task, replayShared recordingPlaylist, events⟩) : Reaches recordingPlaylist task := by
  obtain ⟨trace, run⟩ := reaches
  refine ⟨trace ++ events, run.take (.run .playRecording .yes) ?_ ?_⟩
  · refine (Task.all_ready _ _).mpr ⟨fun i j x _ => ?_, fun i x _ => ?_⟩ <;>
      simp [replaySys, replayShared, Shared.boot, playTouched]
  · have step : system.step (.run .playRecording .yes)
        (replaySys recordingPlaylist (.ready pc)) = some
          ((replaySys recordingPlaylist (.ready pc)).playRecordingNext
            (taskPlayRecording .yes (replayShared recordingPlaylist) pc),
          (taskPlayRecording .yes (replayShared recordingPlaylist) pc).events) := rfl
    rw [step, next]
    rfl

/-- An entry is played to its end. -/
theorem Reaches.entry {i : Nat} (reaches : Reaches recordingPlaylist (.ready (.forJ i 0))) :
    ∀ j, j ≤ (recordingPlaylist i).playticks + 1 →
      Reaches recordingPlaylist (.ready (.forJ i j)) := by
  intro j
  induction j with
  | zero => exact fun _ => reaches
  | succ j ih =>
    intro bound
    have more : j ≤ ((replayShared recordingPlaylist).recordingPlaylist i).playticks :=
      Nat.le_of_succ_le_succ bound
    have called : Reaches recordingPlaylist
        (.ready (.execute i j (.body (recordingPlaylist i).songnummer))) :=
      (ih (by omega)).next (by rw [taskPlayRecording, if_pos more]; rfl)
    have returned : Reaches recordingPlaylist (.ready (.execute i j (.ret true))) :=
      called.next rfl
    have keys : Reaches recordingPlaylist (.ready (.key i j .capture)) := returned.next rfl
    have cleared : Reaches recordingPlaylist (.ready (.key i j (.clear 0))) := keys.next rfl
    have decides : Reaches recordingPlaylist (.ready (.key i j (.decide 0))) := cleared.next rfl
    have polls : Reaches recordingPlaylist (.ready (.pollX i j)) := decides.next rfl
    have polls : Reaches recordingPlaylist (.ready (.pollY i j 0)) := polls.next rfl
    exact polls.next rfl

/-- All entries are played. -/
theorem Reaches.entries : ∀ i, i ≤ replayed → Reaches recordingPlaylist (.ready (.forI i)) := by
  intro i
  induction i with
  | zero =>
    intro _
    have begins : Reaches recordingPlaylist (.ready .begin) := ⟨[], .nil⟩
    have clears : Reaches recordingPlaylist (.ready .clearX) := begins.next rfl
    have clears : Reaches recordingPlaylist (.ready .clearY) := clears.next rfl
    have tests : Reaches recordingPlaylist (.ready .whileTest) := clears.next rfl
    exact tests.next rfl
  | succ i ih =>
    intro bound
    have more : i < maxRecording - 30 := bound
    have enters : Reaches recordingPlaylist (.ready (.forJ i 0)) :=
      (ih (by omega)).next (by rw [taskPlayRecording, if_pos more])
    have last := enters.entry ((recordingPlaylist i).playticks + 1) (Nat.le_refl _)
    have past : ¬(recordingPlaylist i).playticks + 1 ≤
        ((replayShared recordingPlaylist).recordingPlaylist i).playticks :=
      Nat.not_succ_le_self _
    have polls : Reaches recordingPlaylist (.ready (.pollEntryX i)) :=
      last.next (by rw [taskPlayRecording, if_neg past])
    have polls : Reaches recordingPlaylist (.ready (.pollEntryY i 0)) := polls.next rfl
    exact polls.next rfl

/-- The replay of a recording comes to its end. -/
theorem exists_replay (recordingPlaylist : Nat → Recording) :
    ∃ trace s, system.Run OneReplay (replaySys recordingPlaylist (.ready .begin)) trace s ∧
      s.playRecording = .absent := by
  have delays : Reaches recordingPlaylist (.ready .delay) :=
    (Reaches.entries replayed (Nat.le_refl _)).next rfl
  have sleeps : Reaches recordingPlaylist (.asleep .clearFlag) := delays.next rfl
  obtain ⟨trace, run⟩ := sleeps
  have free (s : Sys) (pc : PlayPc) (here : s.playRecording = .ready pc)
      (other : ∀ (i j x : Nat), pc ≠ .pollY i j x ∧ pc ≠ .pollEntryY i x) :
      OneReplay s (.run .playRecording .yes) := by
    rw [OneReplay, here, Task.all_ready]
    exact ⟨fun i j x at_ => absurd at_ (other i j x).1, fun i x at_ => absurd at_ (other i 0 x).2⟩
  have wakes := run.take (Act.tick .playRecording) (by trivial) rfl
  have clears := wakes.take (.run .playRecording .yes) (free _ .clearFlag rfl (by simp)) rfl
  have tests := clears.take (.run .playRecording .yes) (free _ .whileTest rfl (by simp)) rfl
  have ends := tests.take (.run .playRecording .yes) (free _ .finish rfl (by simp)) rfl
  exact ⟨_, _, ends, rfl⟩

/-! ## Which recordings are replayed right -/

/-- The recordings whose replay is right: exactly ten ticks lie behind the tenth entry, and the
recorded timeline has the song of entry `i` wherever the replay, later by one tick for every
entry before, has it. -/
def DelayFits (recordingPlaylist : Nat → Recording) (n : Nat) : Prop :=
  offset (fun i => (recordingPlaylist i).playticks) n =
      offset (fun i => (recordingPlaylist i).playticks) replayed + replayed ∧
    ∀ i, i < replayed → ∀ tick,
      offset (fun i => (recordingPlaylist i).playticks) i + i ≤ tick →
      tick ≤ offset (fun i => (recordingPlaylist i).playticks) (i + 1) + i →
      (timeline (fun i => (recordingPlaylist i).songnummer)
        (fun i => (recordingPlaylist i).playticks) n)[tick]? =
          some (recordingPlaylist i).songnummer

/-- The replay of a recording is right when the delayed timeline fits. -/
theorem replays_iff_replayCalls (recordingPlaylist : Nat → Recording) (n : Nat) :
    Replays recordingPlaylist n ↔
      timeline (fun i => (recordingPlaylist i).songnummer)
        (fun i => (recordingPlaylist i).playticks) n = replayCalls recordingPlaylist replayed := by
  constructor
  · intro replays
    obtain ⟨trace, s, run, ends⟩ := exists_replay recordingPlaylist
    have heard := (replay_run rfl run).2
    rw [ends] at heard
    rw [← replays rfl rfl run ends]
    exact heard
  · intro same start s trace begins recording run ends
    have heard := (replay_run begins run).2
    rw [ends, recording] at heard
    exact heard.trans same.symm

/-- The replay of the first `n` entries of a recording is right exactly when the delayed
timeline fits. -/
theorem replays_iff (recordingPlaylist : Nat → Recording) (n : Nat) :
    Replays recordingPlaylist n ↔ DelayFits recordingPlaylist n := by
  rw [replays_iff_replayCalls, replayCalls, eq_timeline_iff, DelayFits, timeline_length,
    offset_succ]
  refine and_congr_right fun _ => forall_congr' fun i => forall_congr' fun segment => ?_
  refine forall_congr' fun tick => ?_
  rw [offset_succ, offset_succ, ← Nat.add_assoc, Nat.lt_succ_iff]

/-- A recording of at most ten entries is never replayed right. -/
theorem not_delayFits {recordingPlaylist : Nat → Recording} {n : Nat} (few : n ≤ replayed) :
    ¬DelayFits recordingPlaylist n := by
  rintro ⟨length, _⟩
  have order := offset_mono (fun i => (recordingPlaylist i).playticks) few
  simp only [replayed] at length order
  omega

/-- A recording of three ticks of the first song is not replayed right: it is played for four
ticks, and nine unused entries for one tick each. -/
theorem not_replays_threeTicks :
    ¬Replays (Function.update (fun _ => ⟨0, 0⟩) 0 ⟨0, 3⟩) 1 := fun replays =>
  absurd ((replays_iff_replayCalls _ _).mp replays) (by decide)

end SoundBoard.Tasks
