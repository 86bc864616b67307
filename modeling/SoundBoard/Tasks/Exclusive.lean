import SoundBoard.Tasks.Steps

/-!
# Exclusive use of the card and the codec

Which task is inside an operation on the card, the mounted volume, the codec or the FIFO. Every
such operation sleeps, and the tasks test `bSdacrdReady` and `playingRecording` before they
begin one, if they test anything. The rule `TakesTurns` says when these tests are enough.
-/

namespace SoundBoard.Tasks

open SoundBoard.Lib

/-! ## Operations -/

/-- `SDLIB_Init`, `Fat_Mount` and `build_wave_play_list`. -/
def ReadPc.inOperation : ReadPc → Bool
  | .insertInit _ | .mount _ | .mountInit _ | .mountRead | .mountFail | .listBegin | .listNext _
  | .listStart _ _ | .listEnd _ => true
  | _ => false

/-- The codec write of `handle_key`. -/
def KeyPc.inOperation : KeyPc → Bool
  | .left _ _ | .right _ | .ret => true
  | _ => false

/-- `waveplay_execute` and the codec write of `handle_key`. -/
def PlayPc.inOperation : PlayPc → Bool
  | .execute _ _ _ => true
  | .key _ _ pc => pc.inOperation
  | _ => false

/-- `waveplay_start`, `waveplay_execute` and the codec write of `handle_key`. -/
def HandlerPc.inOperation : HandlerPc → Bool
  | .start _ | .execute _ => true
  | .loopKey pc | .key pc => pc.inOperation
  | _ => false

/-- A task is inside an operation. -/
def Sys.Inside (s : Sys) : TaskId → Prop
  | .readSD => ∃ pc, s.readSD.pc? = some pc ∧ pc.inOperation = true
  | .playRecording => ∃ pc, s.playRecording.pc? = some pc ∧ pc.inOperation = true
  | .keyHandler => ∃ pc, s.keyHandler.pc? = some pc ∧ pc.inOperation = true

/-- At no state of a run under a guard are two tasks inside an operation. -/
def Exclusive (guard : Sys → Act → Prop) : Prop :=
  ∀ {x1 y1 : Nat} {trace : List Event} {s : Sys}, system.Run guard (.boot x1 y1) trace s →
    ∀ first second, s.Inside first → s.Inside second → first = second

/-! ## The rule -/

/-- `TaskReadSD` has not yet told that the card is ready. -/
def ReadPc.reading : ReadPc → Bool
  | .cardReady | .noFiles | .finish => false
  | _ => true

/-- No card is being looked for, mounted or listed. -/
def Sys.NotReading (s : Sys) : Prop := s.readSD.All fun pc => pc.reading = false

/-- No recording is being played. -/
def Sys.NotReplaying (s : Sys) : Prop :=
  s.playRecording.All fun pc => pc.inReplay s.shared.playingRecording = false

/-- The part of the rule for each program point of `TaskKeyHandler`: a task that it creates
finds the tested flag still as it was and the other task at rest, a press begins outside
replays, and a volume is written outside both. -/
def HandlerPc.TakesTurns (s : Sys) : HandlerPc → Prop
  | .createRead => s.readSD = .absent → s.shared.bSdacrdReady = false ∧ s.NotReplaying
  | .createPlay => s.playRecording = .absent → s.NotReading
  | .startCall => s.NotReplaying
  | .key (.decide button) =>
    newVolume s.shared.bFirsTime2SetupVol button s.shared.volume = none ∨
      s.NotReading ∧ s.NotReplaying
  | _ => True

/-- A step by which no task enters an operation in the turn of another. -/
def TakesTurns (s : Sys) : Act → Prop
  | .run .keyHandler _ => s.keyHandler.All fun pc => pc.TakesTurns s
  | _ => True

instance (s : Sys) : Decidable s.NotReading :=
  inferInstanceAs (Decidable (s.readSD.All _))

instance (s : Sys) : Decidable s.NotReplaying :=
  inferInstanceAs (Decidable (s.playRecording.All _))

instance (s : Sys) : DecidablePred (HandlerPc.TakesTurns s)
  | .createRead => inferInstanceAs
    (Decidable (s.readSD = .absent → s.shared.bSdacrdReady = false ∧ s.NotReplaying))
  | .createPlay => inferInstanceAs (Decidable (s.playRecording = .absent → s.NotReading))
  | .startCall => inferInstanceAs (Decidable s.NotReplaying)
  | .key (.decide button) => inferInstanceAs (Decidable
    (newVolume s.shared.bFirsTime2SetupVol button s.shared.volume = none ∨
      s.NotReading ∧ s.NotReplaying))
  | .key .capture | .key (.clear _) | .key (.store _) | .key .loadLeft | .key (.loadRight _)
  | .key (.left _ _) | .key (.right _) | .key .ret
  | .head | .touch | .touchX | .touchY _ | .songCheck | .start _ | .loopTest | .loopReady | .loopX
  | .loopY _ | .executeCall | .execute _ | .stopPlaying | .loopKey _ | .afterLoop | .endPress
  | .recordX | .recordY _ | .recordTouch | .toggle | .playX | .playY _ | .playTouch | .playFlag
  | .delay => .isTrue trivial

instance (s : Sys) : DecidablePred (TakesTurns s)
  | .run .keyHandler _ => inferInstanceAs (Decidable (s.keyHandler.All fun pc => pc.TakesTurns s))
  | .run .readSD _ | .run .playRecording _ | .report _ | .keys _ | .tick _ => .isTrue trivial

/-! ## Program points -/

/-- `handle_key` has a volume to write. -/
def KeyPc.decided : KeyPc → Bool
  | .store _ | .loadLeft | .loadRight _ | .left _ _ | .right _ | .ret => true
  | _ => false

/-- `TaskKeyHandler` is in a press behind its first call, or has a volume to write. -/
def HandlerPc.operating : HandlerPc → Bool
  | .startCall => false
  | .key pc => pc.decided
  | pc => pc.inPress

/-- `TaskKeyHandler` is outside presses and has no volume to write. -/
def HandlerPc.idle : HandlerPc → Bool
  | .endPress => false
  | .key pc => !pc.decided
  | pc => !pc.inPress

/-- `TaskKeyHandler` has found the card ready and asks for a touch. -/
def HandlerPc.touching : HandlerPc → Bool
  | .touch | .touchX | .touchY _ => true
  | _ => false

variable (answer : Answer) (shared : Shared)

/-- `handle_key` has a volume to write when its decision gives one. -/
theorem handleKey_decided (pc : KeyPc) {outer : Type} {holds : outer → Prop}
    {wrap : KeyPc → outer} {behind : Unit → outer}
    (inside : ∀ pc', (pc'.decided = true → pc.decided = true ∨ ∃ button, pc = .decide button ∧
      newVolume shared.bFirsTime2SetupVol button shared.volume ≠ none) → holds (wrap pc'))
    (after : holds (behind ())) :
    ((handleKey answer shared pc).1.task wrap behind).All holds := by
  cases pc with
  | decide button =>
    simp only [handleKey]
    split
    · rename_i nHwVol found
      exact (Task.all_ready _ _).mpr (inside _ fun _ => .inr ⟨button, rfl, by simp [found]⟩)
    · exact (Task.all_ready _ _).mpr after
  | capture | clear | store | loadLeft | loadRight =>
    exact (Task.all_ready _ _).mpr (inside _ (by simp [KeyPc.decided]))
  | left | right => exact (Task.all_asleep _ _).mpr (inside _ (by simp [KeyPc.decided]))
  | ret => exact (Task.all_ready _ _).mpr after

/-- `TaskKeyHandler` leaves its idle points for a press or a volume. -/
theorem taskKeyHandler_idle (locals : Locals) (pc : HandlerPc) :
    (taskKeyHandler answer locals shared pc).task.All fun pc' => pc.idle = true →
      pc'.idle = true ∨ pc = .songCheck ∧ playable locals.songNummer shared.nFileNum ∨
        ∃ button, pc = .key (.decide button) ∧
          newVolume shared.bFirsTime2SetupVol button shared.volume ≠ none := by
  cases pc with
  | start | execute | loopKey | afterLoop =>
    intro pc' _ idle
    contradiction
  | key pc =>
    simp only [taskKeyHandler]
    refine handleKey_decided answer shared pc (fun pc' decided idle => ?_) ?_
    · by_cases writes : pc'.decided = true
      · rcases decided writes with before | ⟨button, rfl, some⟩
        · simp [HandlerPc.idle, before] at idle
        · exact .inr (.inr ⟨button, rfl, some⟩)
      · exact .inl (by simpa [HandlerPc.idle] using writes)
    · exact fun _ => .inl rfl
  | songCheck =>
    by_cases song : playable locals.songNummer shared.nFileNum <;>
      simp [taskKeyHandler, song, HandlerPc.idle, HandlerPc.inPress]
  | head | touch | recordY | recordTouch | playY | playTouch | playFlag =>
    simp only [taskKeyHandler]
    split <;> simp [HandlerPc.idle, HandlerPc.inPress, KeyPc.decided]
  | _ => simp [taskKeyHandler, HandlerPc.idle, HandlerPc.inPress, KeyPc.decided]

/-- `TaskKeyHandler` begins to operate with a press or a volume. -/
theorem taskKeyHandler_operating (locals : Locals) (pc : HandlerPc) :
    (taskKeyHandler answer locals shared pc).task.All fun pc' => pc'.operating = true →
      pc.operating = true ∨ pc = .startCall ∨
        ∃ button, pc = .key (.decide button) ∧
          newVolume shared.bFirsTime2SetupVol button shared.volume ≠ none := by
  cases pc with
  | start | execute | loopKey | afterLoop => exact fun pc' _ _ => .inl rfl
  | key pc =>
    simp only [taskKeyHandler]
    refine handleKey_decided answer shared pc (fun pc' decided operating => ?_) ?_
    · rcases decided operating with before | ⟨button, rfl, some⟩
      · exact .inl before
      · exact .inr (.inr ⟨button, rfl, some⟩)
    · simp [HandlerPc.operating, HandlerPc.inPress]
  | songCheck =>
    by_cases song : playable locals.songNummer shared.nFileNum <;>
      simp [taskKeyHandler, song, HandlerPc.operating, HandlerPc.inPress]
  | head | touch | recordY | recordTouch | playY | playTouch | playFlag =>
    simp only [taskKeyHandler]
    split <;> simp [HandlerPc.operating, HandlerPc.inPress, KeyPc.decided]
  | _ => simp [taskKeyHandler, HandlerPc.operating, HandlerPc.inPress, KeyPc.decided]

/-- Without a card, `TaskKeyHandler` finishes its press and forgets its song number. -/
def HandlerPc.Waits (songNummer : Int) (pc : HandlerPc) : Prop :=
  pc.inPress = true ∨ pc = .endPress ∨ songNummer = 111 ∧ pc.touching = false

/-- Outside presses the number is forgotten. -/
theorem HandlerPc.Waits.outside {songNummer : Int} {pc : HandlerPc} (waits : pc.Waits songNummer)
    (outside : pc.inPress = false) (behind : pc ≠ .endPress) :
    songNummer = 111 ∧ pc.touching = false := by
  rcases waits with inside | ends | forgotten
  · simp [outside] at inside
  · exact absurd ends behind
  · exact forgotten

/-- It goes on waiting while the card is not ready. -/
theorem taskKeyHandler_waits (locals : Locals) (pc : HandlerPc)
    (waits : shared.bSdacrdReady = false → pc.Waits locals.songNummer)
    (waiting : pc.bSdacrdReady shared.bSdacrdReady = false) :
    (taskKeyHandler answer locals shared pc).task.All
      (HandlerPc.Waits (pc.songNummer locals shared)) := by
  by_cases stops : pc = .stopPlaying
  · subst stops
    exact (Task.all_ready _ _).mpr (.inl rfl)
  have notReady : shared.bSdacrdReady = false := by
    cases pc with
    | stopPlaying => exact absurd rfl stops
    | _ => exact waiting
  have here := waits notReady
  cases pc with
  | start pc =>
    simp only [taskKeyHandler]
    refine Sub.all_task _ ?_ ?_ <;> exact fun _ => .inl rfl
  | execute pc =>
    simp only [taskKeyHandler]
    refine Sub.all_task _ (fun _ => .inl rfl) fun result => ?_
    cases result <;> exact .inl rfl
  | loopKey pc =>
    simp only [taskKeyHandler]
    split
    · exact (Task.all_ready _ _).mpr (.inl rfl)
    · exact Sub.all_task _ (fun _ => .inl rfl) fun _ => .inl rfl
  | key pc =>
    simp only [taskKeyHandler]
    obtain ⟨none, _⟩ := here.outside rfl (by simp)
    refine Sub.all_task _ ?_ ?_ <;> exact fun _ => .inr (.inr ⟨none, rfl⟩)
  | head =>
    obtain ⟨none, _⟩ := here.outside rfl (by simp)
    simp [taskKeyHandler, notReady, HandlerPc.Waits, HandlerPc.songNummer, none,
      HandlerPc.touching]
  | touch | touchX | touchY =>
    obtain ⟨_, other⟩ := here.outside rfl (by simp)
    contradiction
  | loopTest | loopReady =>
    simp only [taskKeyHandler]
    split <;> simp [HandlerPc.Waits, HandlerPc.inPress]
  | startCall | loopX | loopY | executeCall | stopPlaying =>
    exact (Task.all_ready _ _).mpr (.inl rfl)
  | afterLoop =>
    simp only [taskKeyHandler]
    split <;> simp [HandlerPc.Waits]
  | endPress => exact (Task.all_ready _ _).mpr (.inr (.inr ⟨rfl, rfl⟩))
  | songCheck =>
    obtain ⟨none, _⟩ := here.outside rfl (by simp)
    simp [taskKeyHandler, playable, none, HandlerPc.Waits, HandlerPc.songNummer,
      HandlerPc.touching]
  | recordY | recordTouch | playY | playTouch | playFlag =>
    obtain ⟨none, _⟩ := here.outside rfl (by simp)
    simp only [taskKeyHandler]
    split <;> simp [HandlerPc.Waits, HandlerPc.songNummer, none, HandlerPc.touching]
  | createRead | recordX | toggle | playX | createPlay | delay =>
    obtain ⟨none, _⟩ := here.outside rfl (by simp)
    simp [taskKeyHandler, HandlerPc.Waits, HandlerPc.songNummer, none, HandlerPc.touching]

/-- `TaskReadSD` does not begin to read again. -/
theorem taskReadSD_reading (pc : ReadPc) :
    (taskReadSD answer shared pc).task.All fun pc' => pc'.reading = true → pc.reading = true := by
  cases pc with
  | cardReady | noFiles | finish => simp [taskReadSD, ReadPc.reading]
  | _ => exact fun _ _ _ => rfl

/-! ## The invariant -/

/-- The states of runs that keep to the rule. -/
structure Turns (s : Sys) : Prop where
  reading : s.readSD.All fun pc => pc.reading = true →
    s.shared.bSdacrdReady = false ∧ s.NotReplaying ∧ s.keyHandler.All fun pc => pc.idle = true
  replaying : s.playRecording.All fun pc => pc.inReplay s.shared.playingRecording = true →
    s.keyHandler.All fun pc => pc.operating = false
  waiting : s.shared.bSdacrdReady = false →
    s.keyHandler.All (HandlerPc.Waits s.locals.songNummer)

/-- After start-up `TaskKeyHandler` waits for a card. -/
theorem Turns.boot (x1 y1 : Nat) : Turns (.boot x1 y1) := by
  refine ⟨?_, ?_, ?_⟩ <;> simp [Sys.boot, HandlerPc.Waits, HandlerPc.touching]

/-- A step of `TaskReadSD`. -/
theorem Turns.readSD {s : Sys} {pc : ReadPc} (before : Turns s) (answer : Answer)
    (ready : s.readSD = .ready pc) :
    Turns (s.readSDNext (taskReadSD answer s.shared pc)) := by
  obtain ⟨reading, replaying, waiting⟩ := before
  obtain ⟨_, _, _, _, same⟩ := taskReadSD_shared answer s.shared pc
  rw [ready, Task.all_ready] at reading
  simp only [Sys.readSDNext, same]
  refine ⟨?_, replaying, fun notReady => waiting ?_⟩
  · refine (taskReadSD_reading answer s.shared pc).mono fun pc' stays inside => ?_
    obtain ⟨notReady, rest⟩ := reading (stays inside)
    refine ⟨?_, rest⟩
    cases pc with
    | cardReady => simp [ReadPc.reading] at stays inside; exact absurd inside (by simp [stays])
    | _ => exact notReady
  · cases pc with
    | cardReady => contradiction
    | _ => exact notReady

/-- A step of `TaskPlayRecording`. -/
theorem Turns.playRecording {s : Sys} {pc : PlayPc} (before : Turns s) (answer : Answer)
    (ready : s.playRecording = .ready pc) :
    Turns (s.playRecordingNext (taskPlayRecording answer s.shared pc)) := by
  obtain ⟨reading, replaying, waiting⟩ := before
  have points := taskPlayRecording_points answer s.shared pc
  obtain ⟨_, _, _, _, _, _, _, _, same⟩ := taskPlayRecording_shared answer s.shared pc
  simp only [Sys.NotReplaying, ready, Task.all_ready] at reading replaying
  simp only [Sys.playRecordingNext]
  rw [same] at points ⊢
  refine ⟨reading.mono fun pc' old inside => ?_, ?_, waiting⟩
  · obtain ⟨notReady, outside, idle⟩ := old inside
    refine ⟨notReady, points.mono fun pc' point => ?_, idle⟩
    refine Bool.eq_false_iff.mpr fun inside => ?_
    simp [outside] at point
    simp [point.2] at inside
  · exact points.mono fun pc' point inside => replaying (point.2 inside)

/-- `TaskKeyHandler` stays idle when no card is ready and no volume is written. -/
theorem Turns.idle {s : Sys} {pc : HandlerPc} (answer : Answer)
    (waits : pc.Waits s.locals.songNummer) (idle : pc.idle = true)
    (quiet : ∀ button, pc = .key (.decide button) →
      newVolume s.shared.bFirsTime2SetupVol button s.shared.volume = none) :
    (taskKeyHandler answer s.locals s.shared pc).task.All fun pc' => pc'.idle = true := by
  refine (taskKeyHandler_idle answer s.shared s.locals pc).mono fun pc' leaves => ?_
  rcases leaves idle with stays | ⟨rfl, _, some⟩ | ⟨button, rfl, some⟩
  · exact stays
  · exact absurd (waits.outside rfl (by simp)).1 some
  · exact absurd (quiet button rfl) some

/-- While `TaskReadSD` reads, also if it has just been created, `TaskKeyHandler` is idle, no
recording is played and none is begun. -/
theorem Turns.quiet {s : Sys} {pc : HandlerPc} {read : ReadPc} (before : Turns s)
    (answer : Answer) (ready : s.keyHandler = .ready pc) (rule : pc.TakesTurns s)
    (here : ((taskKeyHandler answer s.locals s.shared pc).create.readSDTask s.readSD).pc? =
      some read) (inside : read.reading = true) :
    s.shared.bSdacrdReady = false ∧ s.NotReplaying ∧ pc.idle = true ∧
      (∀ button, pc = .key (.decide button) →
        newVolume s.shared.bFirsTime2SetupVol button s.shared.volume = none) ∧
      (pc = .createPlay → s.playRecording ≠ .absent) := by
  have creates := taskKeyHandler_create answer s.shared s.locals pc
  rcases Create.readSDTask_cases (taskKeyHandler answer s.locals s.shared pc).create s.readSD
    with old | ⟨created, absent, _⟩
  · rw [old] at here
    obtain ⟨notReady, outside, idle⟩ := before.reading read here inside
    rw [ready, Task.all_ready] at idle
    have reads : ¬s.NotReading := fun rests => by simp [rests read here] at inside
    refine ⟨notReady, outside, idle, fun button at_ => ?_, fun at_ absent => ?_⟩
    · subst at_
      exact rule.resolve_right fun rests => reads rests.1
    · subst at_
      exact reads (rule absent)
  · rw [created] at creates
    cases pc with
    | createRead =>
      obtain ⟨notReady, outside⟩ := rule absent
      exact ⟨notReady, outside, rfl, by simp, by simp⟩
    | _ => contradiction

/-- A step of `TaskKeyHandler` that keeps to the rule. -/
theorem Turns.keyHandler {s : Sys} {pc : HandlerPc} (before : Turns s) (answer : Answer)
    (ready : s.keyHandler = .ready pc) (rule : pc.TakesTurns s) :
    Turns (s.keyHandlerNext (taskKeyHandler answer s.locals s.shared pc)) := by
  have operating := taskKeyHandler_operating answer s.shared s.locals pc
  have song := taskKeyHandler_songNummer answer s.shared s.locals pc
  have creates := taskKeyHandler_create answer s.shared s.locals pc
  obtain ⟨_, _, _, _, _, _, _, _, same⟩ := taskKeyHandler_shared answer s.shared s.locals pc
  have replaying := before.replaying
  have waiting := before.waiting
  simp only [ready, Task.all_ready] at replaying waiting
  have replays := Create.playRecordingTask_cases
    (taskKeyHandler answer s.locals s.shared pc).create s.playRecording
  simp only [Sys.keyHandlerNext]
  refine ⟨fun read here inside => ?_, fun play here inside => ?_, fun notReady => ?_⟩
  · obtain ⟨notReady, outside, idle, silent, alone⟩ := before.quiet answer ready rule here inside
    refine ⟨?_, ?_, Turns.idle answer (waiting notReady) idle silent⟩
    · rw [same]
      cases pc with
      | stopPlaying => rfl
      | _ => exact notReady
    · rcases replays with old | ⟨created, absent, _⟩
      · rw [old, same]
        exact outside
      · rw [created] at creates
        cases pc with
        | createPlay => exact absurd absent (alone rfl)
        | _ => contradiction
  · rw [same] at inside
    refine operating.mono fun pc' enters => ?_
    refine Bool.eq_false_iff.mpr fun operates => ?_
    rcases replays with old | ⟨created, absent, _⟩
    · rw [old] at here
      have busy : ¬s.NotReplaying := fun outside => by simp [outside play here] at inside
      rcases enters operates with before | rfl | ⟨button, rfl, some⟩
      · simp [replaying play here inside] at before
      · exact busy rule
      · exact rule.elim some fun rests => busy rests.2
    · rw [created] at creates
      cases pc with
      | createPlay => rcases enters operates with _ | _ | ⟨_, _, _⟩ <;> contradiction
      | _ => contradiction
  · rw [same] at notReady
    rw [song]
    exact taskKeyHandler_waits answer s.shared s.locals pc waiting notReady

/-- In every state of a run that keeps to the rule the tasks take turns. -/
theorem Turns.run {x1 y1 : Nat} {trace : List Event} {s : Sys}
    (run : system.Run TakesTurns (.boot x1 y1) trace s) : Turns s := by
  refine run.stateInvariant Turns (.boot x1 y1) ?_
  intro s act s' events before rule step
  cases Sys.step_cases step with
  | report touch | keys button => exact { before with }
  | wakeReadSD asleep =>
    have reading := before.reading
    rw [asleep, Task.all_asleep] at reading
    exact { before with reading := (Task.all_ready _ _).mpr reading }
  | wakePlayRecording asleep =>
    have reading := before.reading
    have replaying := before.replaying
    simp only [Sys.NotReplaying, asleep, Task.all_asleep] at reading replaying
    refine { before with
      reading := reading.mono fun pc old inside => ?_
      replaying := (Task.all_ready _ _).mpr replaying }
    obtain ⟨notReady, outside, idle⟩ := old inside
    exact ⟨notReady, (Task.all_ready _ _).mpr outside, idle⟩
  | wakeKeyHandler asleep =>
    have reading := before.reading
    have replaying := before.replaying
    have waiting := before.waiting
    simp only [asleep, Task.all_asleep] at reading replaying waiting
    refine ⟨reading.mono fun pc old inside => ?_, replaying.mono fun pc old inside => ?_,
      fun notReady => (Task.all_ready _ _).mpr (waiting notReady)⟩
    · obtain ⟨notReady, outside, idle⟩ := old inside
      exact ⟨notReady, outside, (Task.all_ready _ _).mpr idle⟩
    · exact (Task.all_ready _ _).mpr (old inside)
  | readSD answer ready => exact before.readSD answer ready
  | playRecording answer ready first => exact before.playRecording answer ready
  | keyHandler answer ready first second =>
    simp only [TakesTurns, ready, Task.all_ready] at rule
    exact before.keyHandler answer ready rule

/-! ## Operations and the points that lead to them -/

/-- `TaskReadSD` is reading in its operations. -/
theorem ReadPc.reading_of_inOperation {pc : ReadPc} (inside : pc.inOperation = true) :
    pc.reading = true := by
  cases pc <;> first | rfl | contradiction

/-- A volume is written when there is one. -/
theorem KeyPc.decided_of_inOperation {pc : KeyPc} (inside : pc.inOperation = true) :
    pc.decided = true := by
  cases pc <;> first | rfl | contradiction

/-- `TaskPlayRecording` is in its loops in its operations. -/
theorem PlayPc.inReplay_of_inOperation {pc : PlayPc} (playingRecording : Bool)
    (inside : pc.inOperation = true) : pc.inReplay playingRecording = true := by
  cases pc <;> first | rfl | contradiction

/-- `TaskKeyHandler` operates in its operations. -/
theorem HandlerPc.operating_of_inOperation {pc : HandlerPc} (inside : pc.inOperation = true) :
    pc.operating = true := by
  cases pc with
  | start | execute | loopKey => rfl
  | key pc => exact KeyPc.decided_of_inOperation inside
  | _ => contradiction

/-- An idle task does not operate. -/
theorem HandlerPc.operating_of_idle {pc : HandlerPc} (idle : pc.idle = true) :
    pc.operating = false := by
  cases pc with
  | key pc => simpa [HandlerPc.idle, HandlerPc.operating] using idle
  | _ => first | rfl | contradiction

/-- In the runs that keep to the rule, one task at a time is inside an operation. -/
theorem exclusive_takesTurns {x1 y1 : Nat} {trace : List Event} {s : Sys}
    (run : system.Run TakesTurns (.boot x1 y1) trace s) (first second : TaskId)
    (one : s.Inside first) (other : s.Inside second) : first = second := by
  obtain ⟨reading, replaying, waiting⟩ := Turns.run run
  have readPlay : s.Inside .readSD → ¬s.Inside .playRecording := by
    rintro ⟨read, readHere, reads⟩ ⟨play, playHere, plays⟩
    obtain ⟨_, outside, _⟩ := reading read readHere (ReadPc.reading_of_inOperation reads)
    have rests := outside play playHere
    simp [PlayPc.inReplay_of_inOperation _ plays] at rests
  have readHandle : s.Inside .readSD → ¬s.Inside .keyHandler := by
    rintro ⟨read, readHere, reads⟩ ⟨handle, handleHere, handles⟩
    obtain ⟨_, _, idle⟩ := reading read readHere (ReadPc.reading_of_inOperation reads)
    have rests := HandlerPc.operating_of_idle (idle handle handleHere)
    rw [HandlerPc.operating_of_inOperation handles] at rests
    contradiction
  have playHandle : s.Inside .playRecording → ¬s.Inside .keyHandler := by
    rintro ⟨play, playHere, plays⟩ ⟨handle, handleHere, handles⟩
    have rests := replaying play playHere (PlayPc.inReplay_of_inOperation _ plays) handle handleHere
    simp [HandlerPc.operating_of_inOperation handles] at rests
  cases first <;> cases second
  · rfl
  · exact absurd other (readPlay one)
  · exact absurd other (readHandle one)
  · exact absurd one (readPlay other)
  · rfl
  · exact absurd other (playHandle one)
  · exact absurd one (readHandle other)
  · exact absurd one (playHandle other)
  · rfl

/-- While a card is looked for, `TaskReadSD` alone is inside an operation. -/
theorem exclusive_takesTurns_insert : ∃ trace s, system.Run TakesTurns (.boot 0 0) trace s ∧
    s.Inside .readSD ∧ ∀ task, s.Inside task → .readSD = task := by
  have steps : (system.execWithin TakesTurns (runs .keyHandler 2 ++ runs .readSD 2) []
      (.boot 0 0)).map (fun next => next.2.readSD.pc?) = some (some (.insertInit true)) := by
    decide +kernel
  obtain ⟨⟨trace, s⟩, steps, here⟩ := Option.map_eq_some_iff.mp steps
  have run := Machine.Run.nil.execWithin steps
  exact ⟨trace, s, run, ⟨_, here, rfl⟩, fun task => exclusive_takesTurns run .readSD task ⟨_, here, rfl⟩⟩

/-! ## The first volume -/

/-- `TaskReadSD` sleeps in `SDLIB_Init` when `TaskKeyHandler` sets the volume for the first
time. -/
def firstVolume : List Act := runs .keyHandler 2 ++ runs .readSD 2 ++ runs .keyHandler 12

/-- Both tasks are then inside an operation. -/
theorem firstVolume_points :
    (system.exec firstVolume [] (.boot 0 0)).map (fun next =>
      (next.2.readSD.pc?, next.2.keyHandler.pc?)) =
    some (some (.insertInit true), some (.key (.right 120))) := by decide +kernel

/-- Without the rule, two tasks meet in their operations. -/
theorem not_exclusive_free : ¬Exclusive Machine.Free := by
  intro alone
  obtain ⟨⟨trace, s⟩, steps, same⟩ := Option.map_eq_some_iff.mp firstVolume_points
  obtain ⟨read, handle⟩ := Prod.mk.inj same
  have equal := alone (Machine.Run.nil.exec steps) .readSD .keyHandler
    ⟨_, read, rfl⟩ ⟨_, handle, rfl⟩
  contradiction

end SoundBoard.Tasks
