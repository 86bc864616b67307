import SoundBoard.Tasks.System

/-!
# What one step of the system does

The inversion of a step of the system (`Sys.Step`), and for each task and each call the
variables that its steps leave alone. Proofs about runs go through these lemmas and look at a
program point only where it matters to them.
-/

namespace SoundBoard.Tasks

open SoundBoard.Lib

/-! ## Program points of a task -/

/-- A property of the program point of a task, unless the task is absent. -/
def Task.All {pc : Type} (holds : pc → Prop) (task : Task pc) : Prop :=
  ∀ pc, task.pc? = some pc → holds pc

@[simp] theorem Task.all_absent {pc : Type} (holds : pc → Prop) :
    (Task.absent : Task pc).All holds := by simp [Task.All, Task.pc?]

@[simp] theorem Task.all_ready {pc : Type} (holds : pc → Prop) (here : pc) :
    (Task.ready here).All holds ↔ holds here := by simp [Task.All, Task.pc?]

@[simp] theorem Task.all_asleep {pc : Type} (holds : pc → Prop) (here : pc) :
    (Task.asleep here).All holds ↔ holds here := by simp [Task.All, Task.pc?]

instance {pc : Type} (holds : pc → Prop) [DecidablePred holds] (task : Task pc) :
    Decidable (task.All holds) :=
  match task with
  | .absent => .isTrue (Task.all_absent holds)
  | .ready pc => decidable_of_iff (holds pc) (Task.all_ready holds pc).symm
  | .asleep pc => decidable_of_iff (holds pc) (Task.all_asleep holds pc).symm

/-- A weaker property of the same program point. -/
theorem Task.All.mono {pc : Type} {holds weaker : pc → Prop} {task : Task pc}
    (all : task.All holds) (implies : ∀ pc, holds pc → weaker pc) : task.All weaker :=
  fun pc here => implies pc (all pc here)

/-- A property of every program point inside a call and behind it. -/
theorem Sub.all_task {inner result outer : Type} {holds : outer → Prop}
    {wrap : inner → outer} {behind : result → outer} (sub : Sub inner result)
    (inside : ∀ pc, holds (wrap pc)) (after : ∀ result, holds (behind result)) :
    (sub.task wrap behind).All holds := by
  cases sub <;> simp [Sub.task, inside, after]

/-- The song whose file the next step of `waveplay_start` opens. -/
def StartPc.opens : StartPc → Option Int
  | .body songnummer => some songnummer
  | _ => none

/-- The song whose file the next step of `waveplay_execute` opens. -/
def ExecutePc.opens : ExecutePc → Option Int
  | .restart pc => pc.opens
  | _ => none

/-- The song whose file the next step of `TaskPlayRecording` opens. -/
def PlayPc.opens : PlayPc → Option Int
  | .execute _ _ pc => pc.opens
  | _ => none

/-- The song whose file the next step of `TaskKeyHandler` opens. -/
def HandlerPc.opens : HandlerPc → Option Int
  | .start pc => pc.opens
  | .execute pc => pc.opens
  | _ => none

/-! ## Inversion of a step -/

/-- A step of the system, by what takes it. -/
inductive Sys.Step (s : Sys) : Act → Sys → List Event → Prop where
  | report (touch : Touch) :
      Step s (.report touch) { s with shared := { s.shared with mtc2 := touch } } []
  | keys (button : Nat) : Step s (.keys button)
      { s with shared := { s.shared with edgeCap := s.shared.edgeCap ||| button } } []
  | wakeReadSD {pc : ReadPc} (asleep : s.readSD = .asleep pc) :
      Step s (.tick .readSD) { s with readSD := .ready pc } []
  | wakePlayRecording {pc : PlayPc} (asleep : s.playRecording = .asleep pc) :
      Step s (.tick .playRecording) { s with playRecording := .ready pc } []
  | wakeKeyHandler {pc : HandlerPc} (asleep : s.keyHandler = .asleep pc) :
      Step s (.tick .keyHandler) { s with keyHandler := .ready pc } []
  | readSD {pc : ReadPc} (answer : Answer) (ready : s.readSD = .ready pc) :
      Step s (.run .readSD answer) (s.readSDNext (taskReadSD answer s.shared pc))
        (taskReadSD answer s.shared pc).events
  | playRecording {pc : PlayPc} (answer : Answer) (ready : s.playRecording = .ready pc)
      (first : s.readSD.readyPc = none) :
      Step s (.run .playRecording answer)
        (s.playRecordingNext (taskPlayRecording answer s.shared pc))
        (taskPlayRecording answer s.shared pc).events
  | keyHandler {pc : HandlerPc} (answer : Answer) (ready : s.keyHandler = .ready pc)
      (first : s.readSD.readyPc = none) (second : s.playRecording.readyPc = none) :
      Step s (.run .keyHandler answer)
        (s.keyHandlerNext (taskKeyHandler answer s.locals s.shared pc))
        (taskKeyHandler answer s.locals s.shared pc).events

/-- A task that wakes was asleep. -/
theorem Task.wake_cases {pc : Type} {task woken : Task pc} (wakes : task.wake = some woken) :
    ∃ pc, task = .asleep pc ∧ woken = .ready pc := by
  cases task with
  | absent => contradiction
  | ready here => contradiction
  | asleep here => exact ⟨here, rfl, (Option.some.inj wakes).symm⟩

/-- A task that has a next step is ready. -/
theorem Task.readyPc_cases {pc : Type} {task : Task pc} {here : pc}
    (ready : task.readyPc = some here) : task = .ready here := by
  cases task with
  | absent => contradiction
  | ready pc => exact congrArg Task.ready (Option.some.inj ready)
  | asleep pc => contradiction

/-- Every step of the machine is one of these. -/
theorem Sys.step_cases {s s' : Sys} {act : Act} {events : List Event}
    (step : system.step act s = some (s', events)) : s.Step act s' events := by
  cases act with
  | report touch =>
    obtain ⟨rfl, rfl⟩ := Prod.mk.inj (Option.some.inj step)
    exact .report touch
  | keys button =>
    obtain ⟨rfl, rfl⟩ := Prod.mk.inj (Option.some.inj step)
    exact .keys button
  | tick task =>
    obtain ⟨woken, wakes, same⟩ := Option.map_eq_some_iff.mp step
    obtain ⟨rfl, rfl⟩ := Prod.mk.inj same
    cases task with
    | readSD =>
      obtain ⟨task, inner, rfl⟩ := Option.map_eq_some_iff.mp wakes
      obtain ⟨pc, asleep, rfl⟩ := Task.wake_cases inner
      exact .wakeReadSD asleep
    | playRecording =>
      obtain ⟨task, inner, rfl⟩ := Option.map_eq_some_iff.mp wakes
      obtain ⟨pc, asleep, rfl⟩ := Task.wake_cases inner
      exact .wakePlayRecording asleep
    | keyHandler =>
      obtain ⟨task, inner, rfl⟩ := Option.map_eq_some_iff.mp wakes
      obtain ⟨pc, asleep, rfl⟩ := Task.wake_cases inner
      exact .wakeKeyHandler asleep
  | run task answer =>
    cases task with
    | readSD =>
      obtain ⟨pc, ready, same⟩ := Option.map_eq_some_iff.mp step
      obtain ⟨rfl, rfl⟩ := Prod.mk.inj same
      exact .readSD answer (Task.readyPc_cases ready)
    | playRecording =>
      simp only [system, Sys.runPlayRecording] at step
      cases first : s.readSD.readyPc with
      | some pc =>
        rw [first] at step
        contradiction
      | none =>
        rw [first] at step
        obtain ⟨pc, ready, same⟩ := Option.map_eq_some_iff.mp step
        obtain ⟨rfl, rfl⟩ := Prod.mk.inj same
        exact .playRecording answer (Task.readyPc_cases ready) first
    | keyHandler =>
      simp only [system, Sys.runKeyHandler] at step
      split at step
      · rename_i first second
        obtain ⟨pc, ready, same⟩ := Option.map_eq_some_iff.mp step
        obtain ⟨rfl, rfl⟩ := Prod.mk.inj same
        exact .keyHandler answer (Task.readyPc_cases ready) first second
      · contradiction

/-- Creating a task keeps a property that its first program point has. -/
theorem Task.All.create {pc : Type} {holds : pc → Prop} {task : Task pc} {begin : pc}
    (all : task.All holds) (first : holds begin) : (task.create begin).All holds := by
  cases task with
  | absent => simpa [Task.create] using first
  | ready here => exact all
  | asleep here => exact all

/-! ## What the calls leave alone -/

variable (answer : Answer) (shared : Shared)

/-- `waveplay_start` changes handles and codec registers only. -/
theorem waveplayStart_shared (pc : StartPc) :
    ∃ handles codec, (waveplayStart answer shared pc).2 = { shared with handles, codec } := by
  cases pc with
  | body songnummer =>
    simp only [waveplayStart]
    split <;> exact ⟨_, _, rfl⟩
  | _ => exact ⟨_, _, rfl⟩

/-- So does `waveplay_execute`. -/
theorem waveplayExecute_shared (pc : ExecutePc) :
    ∃ handles codec, (waveplayExecute answer shared pc).2 = { shared with handles, codec } := by
  cases pc with
  | body songnummer =>
    simp only [waveplayExecute]
    split <;> exact ⟨_, _, rfl⟩
  | restart pc =>
    obtain ⟨handles, codec, same⟩ := waveplayStart_shared answer shared pc
    refine ⟨handles, codec, ?_⟩
    rw [← same]
    simp only [waveplayExecute]
    split <;> simp_all
  | ret bSuccess => exact ⟨_, _, rfl⟩

/-- `handle_key` changes the keys, the volume and the codec registers only. -/
theorem handleKey_shared (pc : KeyPc) :
    ∃ edgeCap volume first codec, (handleKey answer shared pc).2 =
      { shared with edgeCap, volume, bFirsTime2SetupVol := first, codec } := by
  cases pc with
  | decide button =>
    simp only [handleKey]
    split <;> exact ⟨_, _, _, _, rfl⟩
  | _ => exact ⟨_, _, _, _, rfl⟩

/-! ## What the tasks leave alone -/

/-- The number of songs after a step of `TaskReadSD`: it is written where a listing begins and
where it ends. -/
def ReadPc.nFileNum (before : Nat) : ReadPc → Nat
  | .listBegin => 0
  | .listEnd count => count
  | _ => before

/-- The card is ready when `TaskReadSD` says so. -/
def ReadPc.bSdacrdReady (before : Bool) : ReadPc → Bool
  | .cardReady => true
  | _ => before

/-- `TaskReadSD` writes none of the recorder's variables and no touch. -/
theorem taskReadSD_shared (pc : ReadPc) :
    ∃ codec handles recordBox playBox, (taskReadSD answer shared pc).shared =
      { shared with
        bSdacrdReady := pc.bSdacrdReady shared.bSdacrdReady
        nFileNum := pc.nFileNum shared.nFileNum, codec, handles, recordBox, playBox } := by
  cases pc with
  | listStart count pc =>
    obtain ⟨handles, codec, same⟩ := waveplayStart_shared answer shared pc
    exact ⟨_, _, _, _, same⟩
  | insertInit first =>
    simp only [taskReadSD]
    split
    · exact ⟨_, _, _, _, rfl⟩
    · split
      · exact ⟨_, _, _, _, rfl⟩
      · split <;> exact ⟨_, _, _, _, rfl⟩
  | mountInit nTry =>
    simp only [taskReadSD]
    split
    · exact ⟨_, _, _, _, rfl⟩
    · split
      · exact ⟨_, _, _, _, rfl⟩
      · split <;> exact ⟨_, _, _, _, rfl⟩
  | mountRead =>
    simp only [taskReadSD]
    split <;> exact ⟨_, _, _, _, rfl⟩
  | listNext count =>
    simp only [taskReadSD]
    split <;> exact ⟨_, _, _, _, rfl⟩
  | _ => exact ⟨_, _, _, _, rfl⟩

/-- A poll of the stop button writes the playing flag only. -/
theorem pollStop_shared (x : Nat) :
    ∃ playingRecording, shared.pollStop x = { shared with playingRecording } := by
  simp only [Shared.pollStop]
  split <;> exact ⟨_, rfl⟩

/-- `TaskPlayRecording` writes none of the recorder's variables but its own flag, and nothing
of the play list. -/
theorem taskPlayRecording_shared (pc : PlayPc) :
    ∃ playingRecording mtc2 edgeCap volume first codec handles playBox,
      (taskPlayRecording answer shared pc).shared =
        { shared with
          playingRecording, mtc2, edgeCap, volume, bFirsTime2SetupVol := first, codec, handles
          playBox } := by
  cases pc with
  | execute i j pc =>
    obtain ⟨handles, codec, same⟩ := waveplayExecute_shared answer shared pc
    exact ⟨_, _, _, _, _, _, _, _, same⟩
  | key i j pc =>
    obtain ⟨_, _, _, _, same⟩ := handleKey_shared answer shared pc
    exact ⟨_, _, _, _, _, _, _, _, same⟩
  | forJ i j =>
    simp only [taskPlayRecording]
    split <;> exact ⟨_, _, _, _, _, _, _, _, rfl⟩
  | pollY i j x =>
    obtain ⟨_, same⟩ := pollStop_shared shared x
    exact ⟨_, _, _, _, _, _, _, _, same⟩
  | pollEntryY i x =>
    obtain ⟨_, same⟩ := pollStop_shared shared x
    exact ⟨_, _, _, _, _, _, _, _, same⟩
  | _ => exact ⟨_, _, _, _, _, _, _, _, rfl⟩

/-- The recording after a step of `TaskKeyHandler`. -/
def HandlerPc.recordingPlaylist (locals : Locals) (shared : Shared) :
    HandlerPc → Nat → Recording
  | .afterLoop =>
    if shared.busyRecording then
      Function.update shared.recordingPlaylist locals.count ⟨locals.songNummer, locals.ticks⟩
    else shared.recordingPlaylist
  | .toggle => shared.toggleRecording.recordingPlaylist
  | _ => shared.recordingPlaylist

/-- The recorder's flag after a step of `TaskKeyHandler`. -/
def HandlerPc.busyRecording (shared : Shared) : HandlerPc → Bool
  | .toggle => !shared.busyRecording
  | _ => shared.busyRecording

/-- The card is no longer ready when a song stops playing. -/
def HandlerPc.bSdacrdReady (before : Bool) : HandlerPc → Bool
  | .stopPlaying => false
  | _ => before

/-- `TaskKeyHandler` writes neither the number of songs nor the playing flag nor a touch, and
the recorder's variables only behind a press and at a touch of the record button. -/
theorem taskKeyHandler_shared (locals : Locals) (pc : HandlerPc) :
    ∃ songRecording edgeCap volume first codec handles recordBox playBox,
      (taskKeyHandler answer locals shared pc).shared =
        { shared with
          bSdacrdReady := pc.bSdacrdReady shared.bSdacrdReady, songRecording
          busyRecording := pc.busyRecording shared
          recordingPlaylist := pc.recordingPlaylist locals shared, edgeCap, volume
          bFirsTime2SetupVol := first, codec, handles, recordBox, playBox } := by
  cases pc with
  | start pc =>
    obtain ⟨handles, codec, same⟩ := waveplayStart_shared answer shared pc
    exact ⟨_, _, _, _, _, _, _, _, same⟩
  | execute pc =>
    obtain ⟨handles, codec, same⟩ := waveplayExecute_shared answer shared pc
    exact ⟨_, _, _, _, _, _, _, _, same⟩
  | loopKey pc =>
    obtain ⟨edgeCap, volume, first, codec, same⟩ := handleKey_shared answer shared pc
    refine ⟨shared.songRecording, edgeCap, volume, first, codec, shared.handles,
      shared.recordBox, shared.playBox, ?_⟩
    simp only [taskKeyHandler]
    split <;> simp_all [HandlerPc.recordingPlaylist, HandlerPc.busyRecording, HandlerPc.bSdacrdReady]
  | key pc =>
    obtain ⟨_, _, _, _, same⟩ := handleKey_shared answer shared pc
    exact ⟨_, _, _, _, _, _, _, _, same⟩
  | afterLoop =>
    simp only [taskKeyHandler, HandlerPc.recordingPlaylist]
    split <;> exact ⟨_, _, _, _, _, _, _, _, rfl⟩
  | toggle =>
    cases busy : shared.busyRecording <;>
      simp only [taskKeyHandler, Shared.toggleRecording, HandlerPc.recordingPlaylist,
        HandlerPc.busyRecording, HandlerPc.bSdacrdReady, busy] <;>
      exact ⟨_, _, _, _, _, _, _, _, rfl⟩
  | _ => exact ⟨_, _, _, _, _, _, _, _, rfl⟩

/-- `TaskReadSD` calls nothing but `waveplay_start`, for the songs it lists. -/
theorem taskReadSD_events (pc : ReadPc) :
    ∀ event ∈ (taskReadSD answer shared pc).events, ∃ count, event = .start .readSD count := by
  cases pc with
  | insertInit first =>
    simp only [taskReadSD]
    split
    · simp
    · split <;> simp
  | mountInit nTry =>
    simp only [taskReadSD]
    split
    · simp
    · split
      · simp
      · split <;> simp
  | mountRead =>
    simp only [taskReadSD]
    split <;> simp
  | listNext count =>
    simp only [taskReadSD]
    split <;> simp
  | _ => simp [taskReadSD]

/-- `TaskPlayRecording` has not passed its loops. -/
def PlayPc.inReplay (playingRecording : Bool) : PlayPc → Bool
  | .whileTest => playingRecording
  | .delay | .clearFlag | .finish => false
  | _ => true

/-- The entry of the recording at which `TaskPlayRecording` is. -/
def PlayPc.entry : PlayPc → Option Nat
  | .forJ i _ | .execute i _ _ | .key i _ _ | .pollX i _ | .pollY i _ _ | .pollEntryX i
  | .pollEntryY i _ => some i
  | _ => none

/-- `TaskPlayRecording` stays at entries that it has tested, and enters its loops only from its
beginning. -/
theorem taskPlayRecording_points (pc : PlayPc) :
    (taskPlayRecording answer shared pc).task.All fun pc' =>
      (∀ i, pc'.entry = some i → i < 10 ∨ pc.entry = some i) ∧
        (pc'.inReplay (taskPlayRecording answer shared pc).shared.playingRecording = true →
          pc.inReplay shared.playingRecording = true) := by
  cases pc with
  | execute i j pc =>
    simp only [taskPlayRecording]
    refine Sub.all_task _ ?_ ?_ <;> simp [PlayPc.entry, PlayPc.inReplay]
  | key i j pc =>
    simp only [taskPlayRecording]
    refine Sub.all_task _ ?_ ?_ <;> simp [PlayPc.entry, PlayPc.inReplay]
  | forI i =>
    by_cases more : i < maxRecording - 30
    · have inside : i < 10 := more
      simp [taskPlayRecording, if_pos more, PlayPc.entry, PlayPc.inReplay, inside]
    · simp [taskPlayRecording, if_neg more, PlayPc.entry, PlayPc.inReplay]
  | forJ i j =>
    simp only [taskPlayRecording]
    split <;> simp [PlayPc.entry, PlayPc.inReplay]
  | whileTest =>
    cases playing : shared.playingRecording <;>
      simp [taskPlayRecording, playing, PlayPc.entry, PlayPc.inReplay]
  | _ => simp [taskPlayRecording, PlayPc.entry, PlayPc.inReplay]

/-- `TaskPlayRecording` calls nothing but `waveplay_execute`, for the entry at which it is. -/
theorem taskPlayRecording_events (pc : PlayPc) :
    ∀ event ∈ (taskPlayRecording answer shared pc).events, ∃ i j, pc = .forJ i j ∧
      event = .execute .playRecording (shared.recordingPlaylist i).songnummer := by
  cases pc with
  | forJ i j =>
    simp only [taskPlayRecording]
    split <;> simp
  | _ => simp [taskPlayRecording]

/-- `TaskKeyHandler` is between its test of a song number and the end of the press. -/
def HandlerPc.inPress : HandlerPc → Bool
  | .startCall | .start _ | .loopTest | .loopReady | .loopX | .loopY _ | .executeCall | .execute _
  | .stopPlaying | .loopKey _ | .afterLoop => true
  | _ => false

/-- `TaskKeyHandler` enters a press through its test. -/
theorem taskKeyHandler_points (locals : Locals) (pc : HandlerPc) :
    (taskKeyHandler answer locals shared pc).task.All fun pc' => pc'.inPress = true →
      pc.inPress = true ∨ pc = .songCheck ∧ playable locals.songNummer shared.nFileNum := by
  cases pc with
  | start pc =>
    simp only [taskKeyHandler]
    refine Sub.all_task _ ?_ ?_ <;> simp [HandlerPc.inPress]
  | execute | loopKey | afterLoop => simp [HandlerPc.inPress, Task.All]
  | key pc =>
    simp only [taskKeyHandler]
    refine Sub.all_task _ ?_ ?_ <;> simp [HandlerPc.inPress]
  | songCheck =>
    by_cases song : playable locals.songNummer shared.nFileNum <;>
      simp [taskKeyHandler, song, HandlerPc.inPress]
  | head | touch | recordY | recordTouch | playY | playTouch | playFlag =>
    simp only [taskKeyHandler]
    split <;> simp [HandlerPc.inPress]
  | _ => simp [taskKeyHandler, HandlerPc.inPress]

/-- The song number after a step of `TaskKeyHandler`. -/
def HandlerPc.songNummer (locals : Locals) (shared : Shared) : HandlerPc → Int
  | .touchY x | .loopY x => getButtonId x shared.mtc2.y1
  | .endPress => 111
  | _ => locals.songNummer

/-- `TaskKeyHandler` takes its song number from a touch, and forgets it after a press. -/
theorem taskKeyHandler_songNummer (locals : Locals) (pc : HandlerPc) :
    (taskKeyHandler answer locals shared pc).locals.songNummer = pc.songNummer locals shared := by
  cases pc with
  | loopKey | afterLoop | toggle =>
    simp only [taskKeyHandler]
    split <;> rfl
  | _ => rfl

/-- It stays a button, or the number for none. -/
theorem HandlerPc.songNummer_nonneg {locals : Locals} (pc : HandlerPc)
    (nonneg : 0 ≤ locals.songNummer) : 0 ≤ pc.songNummer locals shared := by
  cases pc with
  | touchY x | loopY x => exact getButtonId_nonneg _ _
  | endPress => exact Int.natCast_nonneg 111
  | _ => exact nonneg

/-- The number of recorded presses after a step of `TaskKeyHandler`. -/
def HandlerPc.count (locals : Locals) (shared : Shared) : HandlerPc → Nat
  | .afterLoop => bif shared.busyRecording then locals.count + 1 else locals.count
  | .toggle => bif shared.busyRecording then locals.count else 0
  | _ => locals.count

/-- `TaskKeyHandler` counts the presses that it records in a session. -/
theorem taskKeyHandler_count (locals : Locals) (pc : HandlerPc) :
    (taskKeyHandler answer locals shared pc).locals.count = pc.count locals shared := by
  cases pc with
  | loopKey =>
    simp only [taskKeyHandler]
    split <;> rfl
  | afterLoop | toggle =>
    cases busy : shared.busyRecording <;> simp [taskKeyHandler, HandlerPc.count, busy]
  | _ => rfl

/-- What the control buttons show, and whether there is a recording. -/
def Shared.controls (shared : Shared) : Bool × RecordBox × PlayBox :=
  (shared.songRecording, shared.recordBox, shared.playBox)

/-- The control buttons after a step of `TaskKeyHandler`. -/
def HandlerPc.controls (shared : Shared) : HandlerPc → Bool × RecordBox × PlayBox
  | .toggle => shared.toggleRecording.controls
  | _ => shared.controls

/-- `TaskKeyHandler` draws the control buttons at a touch of the record button. -/
theorem taskKeyHandler_shows (locals : Locals) (pc : HandlerPc) :
    (taskKeyHandler answer locals shared pc).shared.controls = pc.controls shared := by
  cases pc with
  | start pc =>
    obtain ⟨_, _, same⟩ := waveplayStart_shared answer shared pc
    exact (congrArg Shared.controls same).trans rfl
  | execute pc =>
    obtain ⟨_, _, same⟩ := waveplayExecute_shared answer shared pc
    exact (congrArg Shared.controls same).trans rfl
  | loopKey pc =>
    obtain ⟨_, _, _, _, same⟩ := handleKey_shared answer shared pc
    have kept := congrArg Shared.controls same
    simp only [taskKeyHandler]
    split <;> simp_all [HandlerPc.controls, Shared.controls]
  | key pc =>
    obtain ⟨_, _, _, _, same⟩ := handleKey_shared answer shared pc
    exact (congrArg Shared.controls same).trans rfl
  | afterLoop =>
    simp only [taskKeyHandler]
    split <;> rfl
  | _ => rfl

/-- `TaskKeyHandler` has taken a touch of the play button. -/
def HandlerPc.accepted : HandlerPc → Bool
  | .playFlag | .createPlay => true
  | _ => false

/-- A touch of the play button is taken when there is a recording, and leads to a replay when
none is played; one of the record button is taken whenever a touch is reported. -/
theorem taskKeyHandler_controls (locals : Locals) (pc : HandlerPc) :
    (taskKeyHandler answer locals shared pc).task.All fun pc' =>
      (pc'.accepted = true →
        pc.accepted = true ∨ pc = .playTouch ∧ shared.songRecording = true) ∧
      (pc' = .toggle → pc = .recordTouch ∧ shared.mtc2.touchNum ≠ 0) ∧
      (pc' = .createPlay → pc = .playFlag ∧ shared.playingRecording = false) := by
  cases pc with
  | start pc =>
    simp only [taskKeyHandler]
    apply Sub.all_task <;> simp [HandlerPc.accepted]
  | execute pc =>
    simp only [taskKeyHandler]
    apply Sub.all_task
    · simp [HandlerPc.accepted]
    · intro result
      cases result <;> simp [HandlerPc.accepted]
  | loopKey pc =>
    simp only [taskKeyHandler]
    split
    · simp [HandlerPc.accepted]
    · apply Sub.all_task <;> simp [HandlerPc.accepted]
  | key pc =>
    simp only [taskKeyHandler]
    apply Sub.all_task <;> simp [HandlerPc.accepted]
  | playTouch =>
    by_cases taken : shared.songRecording = true ∧ shared.mtc2.touchNum ≠ 0
    · simp [taskKeyHandler, taken.1, taken.2]
    · simp [taskKeyHandler, if_neg taken, HandlerPc.accepted]
  | recordTouch =>
    by_cases touched : shared.mtc2.touchNum ≠ 0
    · simp [taskKeyHandler, HandlerPc.accepted, touched]
    · simp [taskKeyHandler, if_neg touched, HandlerPc.accepted]
  | playFlag =>
    cases playing : shared.playingRecording <;>
      simp [taskKeyHandler, HandlerPc.accepted, playing]
  | songCheck | head | touch | recordY | playY | loopTest | loopReady | afterLoop =>
    simp only [taskKeyHandler]
    split <;> simp [HandlerPc.accepted]
  | _ => simp [taskKeyHandler, HandlerPc.accepted]

/-- The task that a step of `TaskKeyHandler` creates. -/
theorem taskKeyHandler_create (locals : Locals) (pc : HandlerPc) :
    (taskKeyHandler answer locals shared pc).create =
      match pc with
      | .createRead => .readSD
      | .createPlay => .playRecording
      | _ => .nothing := by
  cases pc with
  | loopKey | afterLoop =>
    simp only [taskKeyHandler]
    split <;> rfl
  | _ => rfl

/-- `TaskReadSD` after a step of `TaskKeyHandler`: as before, or just created. -/
theorem Create.readSDTask_cases (create : Create) (task : Task ReadPc) :
    create.readSDTask task = task ∨
      create = .readSD ∧ task = .absent ∧ create.readSDTask task = .ready .begin := by
  cases create with
  | readSD =>
    cases task with
    | absent => exact .inr ⟨rfl, rfl, rfl⟩
    | _ => exact .inl rfl
  | _ => exact .inl rfl

/-- `TaskPlayRecording` after a step of `TaskKeyHandler`. -/
theorem Create.playRecordingTask_cases (create : Create) (task : Task PlayPc) :
    create.playRecordingTask task = task ∨
      create = .playRecording ∧ task = .absent ∧
        create.playRecordingTask task = .ready .begin := by
  cases create with
  | playRecording =>
    cases task with
    | absent => exact .inr ⟨rfl, rfl, rfl⟩
    | _ => exact .inl rfl
  | _ => exact .inl rfl

/-- A property of `TaskReadSD` is kept by a step of `TaskKeyHandler`, which may create it. -/
theorem Task.All.createRead {holds : ReadPc → Prop} {task : Task ReadPc} {create : Create}
    (all : task.All holds) (first : create = .readSD → holds .begin) :
    (create.readSDTask task).All holds := by
  cases create with
  | readSD => exact all.create (first rfl)
  | _ => exact all

/-- A property of `TaskPlayRecording` is kept by a step of `TaskKeyHandler`, which may create
it. -/
theorem Task.All.createPlay {holds : PlayPc → Prop} {task : Task PlayPc} {create : Create}
    (all : task.All holds) (first : create = .playRecording → holds .begin) :
    (create.playRecordingTask task).All holds := by
  cases create with
  | playRecording => exact all.create (first rfl)
  | _ => exact all

/-! ## Runs on a card -/

/-- An answer by which every operation succeeds and no entry of the directory is left. -/
def Answer.yes : Answer := ⟨false, true, some 44100, true, false, .last⟩

/-- Some steps of a task, with that answer. -/
def runs (task : TaskId) (count : Nat) : List Act := List.replicate count (.run task .yes)

/-- A `waveplay_start` that accepts its file, to its return: the body and three codec writes. -/
def startRuns (task : TaskId) : List Act :=
  runs task 2 ++ [.tick task] ++ runs task 1 ++ [.tick task] ++ runs task 1 ++ [.tick task] ++
    runs task 1

/-- A card with some songs is found, mounted and listed. -/
def insertCard (songs : Nat) : List Act :=
  runs .keyHandler 2 ++ runs .readSD 2 ++ [.tick .readSD] ++ runs .readSD 3 ++ [.tick .readSD] ++
    runs .readSD 3 ++
    (List.replicate songs
      ([.run .readSD { Answer.yes with entry := .accepted }] ++ startRuns .readSD)).flatten ++
    runs .readSD 4

/-- `TaskKeyHandler` finishes its first iteration without a touch, and sets the volume. -/
def firstIteration : List Act :=
  runs .keyHandler 12 ++ [.tick .keyHandler] ++ runs .keyHandler 1 ++ [.tick .keyHandler] ++
    runs .keyHandler 2

/-- From the end of an iteration to the play loop of a press on a button. -/
def pressButton (touch : Touch) : List Act :=
  [.report touch, .tick .keyHandler] ++ runs .keyHandler 6 ++ startRuns .keyHandler

/-- A pass of the play loop. -/
def playPass : List Act := runs .keyHandler 10

/-- From the end of an iteration through a touch of the record button to the end of the next. -/
def touchRecord : List Act :=
  [.report ⟨1, 200, 440⟩, .tick .keyHandler] ++ runs .keyHandler 8 ++ [.tick .keyHandler] ++
    runs .keyHandler 7

/-- From the end of an iteration through a recording session with one press of the first button
to the end of the iteration that ends the session. -/
def recordPress : List Act :=
  touchRecord ++ pressButton ⟨1, 50, 50⟩ ++ playPass ++ [.report ⟨0, 50, 50⟩] ++
    runs .keyHandler 11 ++ touchRecord

/-- From the end of an iteration through a touch of the play button to the creation of
`TaskPlayRecording`. -/
def touchPlay : List Act :=
  [.report ⟨1, 500, 440⟩, .tick .keyHandler] ++ runs .keyHandler 11 ++ [.tick .keyHandler] ++
    runs .keyHandler 1

/-- A replay begins its first song again, and sleeps where the codec is configured for it. -/
def restartSong : List Act :=
  runs .playRecording 6 ++ [.run .playRecording { Answer.yes with restart := true }] ++
    runs .playRecording 2

end SoundBoard.Tasks
