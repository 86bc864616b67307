import SoundBoard.Lib.Machine
import SoundBoard.Tasks.Calls

/-!
# The tasks of main.c

`TaskReadSD`, `TaskKeyHandler` and `TaskPlayRecording` as functions from a program point to
the next, and their fixed-priority composition. Every read of a field of the touch record is a
step of its own. A step belongs to the highest-priority task that is ready; touch reports, key
presses and the ticks that wake a sleeping task come at any time.
-/

namespace SoundBoard.Tasks

open SoundBoard.Lib

/-- The outcome of a task's step: where the task is now, and what it did. -/
structure Next (pc : Type) where
  task : Task pc
  shared : Shared
  events : List Event := []

/-! ## TaskReadSD -/

/-- `nMaxTry` of `fatMountSdcard`. -/
def maxTry : Nat := 10

/-- Program points of `TaskReadSD`. -/
inductive ReadPc where
  | begin
  /-- `wait_sdcard_insert`, before a call of `SDLIB_Init` and in it. -/
  | insert (bFirstTime2Detect : Bool)
  | insertInit (bFirstTime2Detect : Bool)
  | drawBlank
  /-- `Fat_Mount`: before its `SDLIB_Init` calls, in them, and when the card is read. -/
  | mount (nTry : Nat)
  | mountInit (nTry : Nat)
  | mountRead
  | mountFail
  /-- `build_wave_play_list`, with the number of songs so far. -/
  | listBegin
  | listNext (count : Nat)
  | listStart (count : Nat) (pc : StartPc)
  | listEnd (count : Nat)
  | cardReady
  | noFiles
  | finish
  deriving DecidableEq, Repr

/-- `drawMessage` and `drawSdcardBlank` paint over both control buttons. -/
def Shared.drawOver (shared : Shared) : Shared :=
  { shared with recordBox := .blank, playBox := .blank }

/-- A step of `TaskReadSD`. -/
def taskReadSD (answer : Answer) (shared : Shared) : ReadPc → Next ReadPc
  | .begin => ⟨.ready (.insert true), shared, []⟩
  | .insert first => ⟨.asleep (.insertInit first), shared, []⟩
  | .insertInit first =>
    if answer.again then ⟨.asleep (.insertInit first), shared, []⟩
    else if answer.ok then ⟨.ready .drawBlank, shared.drawOver, []⟩
    else ⟨.asleep (.insert false), if first then shared.drawOver else shared, []⟩
  | .drawBlank => ⟨.ready (.mount 0), shared.drawOver, []⟩
  | .mount nTry => ⟨.asleep (.mountInit nTry), shared, []⟩
  | .mountInit nTry =>
    if answer.again then ⟨.asleep (.mountInit nTry), shared, []⟩
    else if answer.ok then ⟨.ready .mountRead, shared, []⟩
    else if nTry + 1 < maxTry then ⟨.asleep (.mount (nTry + 1)), shared, []⟩
    else ⟨.asleep .mountFail, shared, []⟩
  | .mountRead =>
    if answer.ok then
      ⟨.ready .listBegin, { shared with handles := shared.handles.mount }, []⟩
    else ⟨.ready .mountFail, { shared with handles := shared.handles.pass }, []⟩
  | .mountFail =>
    ⟨.ready .finish, { shared.drawOver with handles := { shared.handles with hFat := 0 } }, []⟩
  | .listBegin => ⟨.ready (.listNext 0), { shared with nFileNum := 0 }, []⟩
  | .listNext count =>
    match answer.entry with
    | .last => ⟨.ready (.listEnd count), shared, []⟩
    | .passed => ⟨.ready (.listNext count), shared, []⟩
    | .readFailed =>
      ⟨.ready (.listNext count), { shared with handles := shared.handles.leak }, []⟩
    | .rejected =>
      ⟨.ready (.listNext count), { shared with handles := shared.handles.pass }, []⟩
    | .accepted =>
      ⟨.ready (.listStart count (.body count)), { shared with handles := shared.handles.pass },
        [.start .readSD count]⟩
  | .listStart count pc =>
    match waveplayStart answer shared pc with
    | (sub, shared) =>
      ⟨sub.task (.listStart count) (fun _ => .listNext (count + 1)), shared, []⟩
  | .listEnd count =>
    ⟨.ready (if count = 0 then .noFiles else .cardReady), { shared with nFileNum := count }, []⟩
  | .cardReady =>
    ⟨.ready .finish, { shared with bSdacrdReady := true, recordBox := .record }, []⟩
  | .noFiles => ⟨.ready .finish, shared.drawOver, []⟩
  | .finish => ⟨.absent, shared, []⟩

/-! ## TaskPlayRecording -/

/-- Program points of `TaskPlayRecording`, with its loop variables. -/
inductive PlayPc where
  | begin
  | clearX
  | clearY
  | whileTest
  | forI (i : Nat)
  | forJ (i j : Nat)
  | execute (i j : Nat) (pc : ExecutePc)
  | key (i j : Nat) (pc : KeyPc)
  | pollX (i j : Nat)
  | pollY (i j : Nat) (x : Nat)
  | pollEntryX (i : Nat)
  | pollEntryY (i : Nat) (x : Nat)
  | delay
  | clearFlag
  | finish
  deriving DecidableEq, Repr

/-- A poll of the stop button. -/
def Shared.pollStop (shared : Shared) (x : Nat) : Shared :=
  if playTouched x shared.mtc2.y1 then { shared with playingRecording := false } else shared

/-- A step of `TaskPlayRecording`. -/
def taskPlayRecording (answer : Answer) (shared : Shared) : PlayPc → Next PlayPc
  | .begin => ⟨.ready .clearX, { shared with playingRecording := true, playBox := .stop }, []⟩
  | .clearX => ⟨.ready .clearY, { shared with mtc2 := { shared.mtc2 with x1 := 0 } }, []⟩
  | .clearY => ⟨.ready .whileTest, { shared with mtc2 := { shared.mtc2 with y1 := 0 } }, []⟩
  | .whileTest => ⟨.ready (if shared.playingRecording then .forI 0 else .finish), shared, []⟩
  | .forI i => ⟨.ready (if i < maxRecording - 30 then .forJ i 0 else .delay), shared, []⟩
  | .forJ i j =>
    -- the comparison is `<=`, so an entry of n ticks is played n + 1 times
    if j ≤ (shared.recordingPlaylist i).playticks then
      ⟨.ready (.execute i j (.body (shared.recordingPlaylist i).songnummer)), shared,
        [.execute .playRecording (shared.recordingPlaylist i).songnummer]⟩
    else ⟨.ready (.pollEntryX i), shared, []⟩
  | .execute i j pc =>
    match waveplayExecute answer shared pc with
    | (sub, shared) => ⟨sub.task (.execute i j) (fun _ => .key i j .capture), shared, []⟩
  | .key i j pc =>
    match handleKey answer shared pc with
    | (sub, shared) => ⟨sub.task (.key i j) (fun _ => .pollX i j), shared, []⟩
  | .pollX i j => ⟨.ready (.pollY i j shared.mtc2.x1), shared, []⟩
  | .pollY i j x => ⟨.ready (.forJ i (j + 1)), shared.pollStop x, []⟩
  | .pollEntryX i => ⟨.ready (.pollEntryY i shared.mtc2.x1), shared, []⟩
  | .pollEntryY i x => ⟨.ready (.forI (i + 1)), shared.pollStop x, []⟩
  | .delay => ⟨.asleep .clearFlag, shared, []⟩
  | .clearFlag => ⟨.ready .whileTest, { shared with playingRecording := false }, []⟩
  | .finish => ⟨.absent, { shared with playBox := .play }, []⟩

/-! ## TaskKeyHandler -/

/-- Program points of `TaskKeyHandler`. -/
inductive HandlerPc where
  | head
  | createRead
  /-- The touch poll, when the card is ready. -/
  | touch
  | touchX
  | touchY (x : Nat)
  | songCheck
  /-- The press: `waveplay_start`, and the play loop. -/
  | startCall
  | start (pc : StartPc)
  | loopTest
  | loopReady
  | loopX
  | loopY (x : Nat)
  | executeCall
  | execute (pc : ExecutePc)
  | stopPlaying
  | loopKey (pc : KeyPc)
  | afterLoop
  | endPress
  /-- The record button. -/
  | recordX
  | recordY (x : Nat)
  | recordTouch
  | toggle
  /-- The play button. -/
  | playX
  | playY (x : Nat)
  | playTouch
  | playFlag
  | createPlay
  | key (pc : KeyPc)
  | delay
  deriving DecidableEq, Repr

/-- The local variables of `TaskKeyHandler` that survive an iteration, and those of a press. -/
structure Locals where
  songNummer : Int
  ticks : Nat
  count : Nat
  deriving DecidableEq, Repr

/-- A task that `TaskKeyHandler` creates in a step. -/
inductive Create where
  | nothing
  | readSD
  | playRecording

/-- The outcome of a step of `TaskKeyHandler`, which is never deleted. -/
structure HandlerNext where
  task : Task HandlerPc
  locals : Locals
  shared : Shared
  events : List Event := []
  create : Create := .nothing

/-- The test of `TaskKeyHandler` on a song number before it starts a song. -/
def playable (songNummer : Int) (nFileNum : Nat) : Prop := songNummer < nFileNum ∧ songNummer ≠ 111

instance (songNummer : Int) (nFileNum : Nat) : Decidable (playable songNummer nFileNum) :=
  inferInstanceAs (Decidable (songNummer < nFileNum ∧ songNummer ≠ 111))

/-- The change that a touch of the record button makes. -/
def Shared.toggleRecording (shared : Shared) : Shared :=
  if shared.busyRecording then
    { shared with
      busyRecording := false, songRecording := true, recordBox := .record, playBox := .play }
  else
    { shared with
      busyRecording := true, songRecording := false, recordBox := .stopRecording, playBox := .blank
      recordingPlaylist := fun i =>
        if i < maxRecording then ⟨0, 0⟩ else shared.recordingPlaylist i }

/-- A step of `TaskKeyHandler`. -/
def taskKeyHandler (answer : Answer) (locals : Locals) (shared : Shared) : HandlerPc → HandlerNext
  | .head =>
    { task := .ready (if shared.bSdacrdReady then .touch else .createRead), locals, shared
      events := [.iteration] }
  | .createRead => { task := .ready .songCheck, locals, shared, create := .readSD }
  | .touch =>
    { task := .ready (if shared.mtc2.touchNum ≠ 0 then .touchX else .songCheck), locals, shared }
  | .touchX => { task := .ready (.touchY shared.mtc2.x1), locals, shared }
  | .touchY x =>
    let songNummer := getButtonId x shared.mtc2.y1
    { task := .ready .songCheck, locals := { locals with songNummer }, shared
      events := [.touched songNummer] }
  | .songCheck =>
    { task := .ready (if playable locals.songNummer shared.nFileNum then .startCall else .recordX)
      locals, shared }
  | .startCall =>
    { task := .ready (.start (.body locals.songNummer)), locals := { locals with ticks := 0 }
      shared, events := [.start .keyHandler locals.songNummer] }
  | .start pc =>
    match waveplayStart answer shared pc with
    | (sub, shared) => { task := sub.task .start (fun _ => .loopTest), locals, shared }
  | .loopTest =>
    { task := .ready (if shared.mtc2.touchNum ≠ 0 then .loopReady else .afterLoop), locals, shared }
  | .loopReady =>
    { task := .ready (if shared.bSdacrdReady ∧ locals.songNummer ≠ 111 then .loopX else .afterLoop)
      locals, shared }
  | .loopX => { task := .ready (.loopY shared.mtc2.x1), locals, shared }
  | .loopY x =>
    { task := .ready .executeCall
      locals := { locals with songNummer := getButtonId x shared.mtc2.y1 }, shared }
  | .executeCall =>
    { task := .ready (.execute (.body locals.songNummer)), locals, shared
      events := [.execute .keyHandler locals.songNummer] }
  | .execute pc =>
    match waveplayExecute answer shared pc with
    | (sub, shared) =>
      { task := sub.task .execute (fun ok => if ok then .loopKey .capture else .stopPlaying)
        locals, shared }
  | .stopPlaying =>
    { task := .ready (.loopKey .capture), locals, shared := { shared with bSdacrdReady := false } }
  | .loopKey pc =>
    match handleKey answer shared pc with
    | (.done (), shared) =>
      { task := .ready .loopTest, locals := { locals with ticks := locals.ticks + 1 }, shared }
    | (sub, shared) => { task := sub.task .loopKey (fun _ => .loopTest), locals, shared }
  | .afterLoop =>
    if shared.busyRecording then
      let entry : Recording := ⟨locals.songNummer, locals.ticks⟩
      { task := .ready .endPress, locals := { locals with count := locals.count + 1 }
        shared := { shared with
          recordingPlaylist := Function.update shared.recordingPlaylist locals.count entry }
        events := [.record locals.count entry] }
    else { task := .ready .endPress, locals, shared }
  | .endPress => { task := .ready .recordX, locals := { locals with songNummer := 111 }, shared }
  | .recordX => { task := .ready (.recordY shared.mtc2.x1), locals, shared }
  | .recordY x =>
    { task := .ready (if recordTouched x shared.mtc2.y1 then .recordTouch else .playX)
      locals, shared }
  | .recordTouch =>
    { task := if shared.mtc2.touchNum ≠ 0 then .asleep .toggle else .ready .playX, locals, shared }
  | .toggle =>
    { task := .ready .playX
      locals := if shared.busyRecording then locals else { locals with count := 0 }
      shared := shared.toggleRecording, events := [.toggle (!shared.busyRecording)] }
  | .playX => { task := .ready (.playY shared.mtc2.x1), locals, shared }
  | .playY x =>
    { task := .ready (if playTouched x shared.mtc2.y1 then .playTouch else .key .capture)
      locals, shared }
  | .playTouch =>
    { task := .ready
        (if shared.songRecording ∧ shared.mtc2.touchNum ≠ 0 then .playFlag else .key .capture)
      locals, shared }
  | .playFlag =>
    { task := if shared.playingRecording then .ready (.key .capture) else .asleep .createPlay
      locals, shared }
  | .createPlay => { task := .ready (.key .capture), locals, shared, create := .playRecording }
  | .key pc =>
    match handleKey answer shared pc with
    | (sub, shared) => { task := sub.task .key (fun _ => .delay), locals, shared }
  | .delay => { task := .asleep .head, locals, shared }

/-! ## The system -/

/-- State of the three tasks. -/
structure Sys where
  shared : Shared
  readSD : Task ReadPc
  playRecording : Task PlayPc
  keyHandler : Task HandlerPc
  locals : Locals

/-- What happens next: a touch report, a press of keys, a tick that wakes a task, or a step of
a task. -/
inductive Act where
  | report (touch : Touch)
  | keys (button : Nat)
  | tick (task : TaskId)
  | run (task : TaskId) (answer : Answer)

/-- A tick that wakes a task. -/
def Task.wake {pc : Type} : Task pc → Option (Task pc)
  | .asleep pc => some (.ready pc)
  | _ => none

/-- Where a task goes on, when it is ready. -/
def Task.readyPc {pc : Type} : Task pc → Option pc
  | .ready pc => some pc
  | _ => none

/-- `OSTaskCreate`: no effect while the priority is taken. -/
def Task.create {pc : Type} (task : Task pc) (begin : pc) : Task pc :=
  match task with
  | .absent => .ready begin
  | _ => task

/-- Wake a task. -/
def Sys.wake (s : Sys) : TaskId → Option Sys
  | .readSD => s.readSD.wake.map fun task => { s with readSD := task }
  | .playRecording => s.playRecording.wake.map fun task => { s with playRecording := task }
  | .keyHandler => s.keyHandler.wake.map fun task => { s with keyHandler := task }

/-- `TaskReadSD` when `TaskKeyHandler` has taken a step. -/
def Create.readSDTask (task : Task ReadPc) : Create → Task ReadPc
  | .readSD => task.create .begin
  | _ => task

/-- `TaskPlayRecording` when `TaskKeyHandler` has taken a step. -/
def Create.playRecordingTask (task : Task PlayPc) : Create → Task PlayPc
  | .playRecording => task.create .begin
  | _ => task

/-- The system after a step of `TaskReadSD`. -/
def Sys.readSDNext (s : Sys) (next : Next ReadPc) : Sys :=
  { s with readSD := next.task, shared := next.shared }

/-- The system after a step of `TaskPlayRecording`. -/
def Sys.playRecordingNext (s : Sys) (next : Next PlayPc) : Sys :=
  { s with playRecording := next.task, shared := next.shared }

/-- The system after a step of `TaskKeyHandler`. -/
def Sys.keyHandlerNext (s : Sys) (next : HandlerNext) : Sys where
  shared := next.shared
  keyHandler := next.task
  locals := next.locals
  readSD := next.create.readSDTask s.readSD
  playRecording := next.create.playRecordingTask s.playRecording

/-- A step of `TaskReadSD`, the task of the highest priority. -/
def Sys.runReadSD (s : Sys) (answer : Answer) : Option (Sys × List Event) :=
  s.readSD.readyPc.map fun pc =>
    (s.readSDNext (taskReadSD answer s.shared pc), (taskReadSD answer s.shared pc).events)

/-- A step of `TaskPlayRecording`, unless `TaskReadSD` is ready. -/
def Sys.runPlayRecording (s : Sys) (answer : Answer) : Option (Sys × List Event) :=
  match s.readSD.readyPc with
  | some _ => none
  | none => s.playRecording.readyPc.map fun pc =>
    (s.playRecordingNext (taskPlayRecording answer s.shared pc),
      (taskPlayRecording answer s.shared pc).events)

/-- A step of `TaskKeyHandler`, unless another task is ready. -/
def Sys.runKeyHandler (s : Sys) (answer : Answer) : Option (Sys × List Event) :=
  match s.readSD.readyPc, s.playRecording.readyPc with
  | none, none => s.keyHandler.readyPc.map fun pc =>
    (s.keyHandlerNext (taskKeyHandler answer s.locals s.shared pc),
      (taskKeyHandler answer s.locals s.shared pc).events)
  | _, _ => none

/-- The task system. -/
def system : Machine Sys Act Event where
  step
    | .report touch, s => some ({ s with shared := { s.shared with mtc2 := touch } }, [])
    | .keys button, s =>
      some ({ s with shared := { s.shared with edgeCap := s.shared.edgeCap ||| button } }, [])
    | .tick task, s => (s.wake task).map (·, [])
    | .run .readSD answer, s => s.runReadSD answer
    | .run .playRecording answer, s => s.runPlayRecording answer
    | .run .keyHandler answer, s => s.runKeyHandler answer

/-- The shared variables after `main`. The touch record is not initialised but for its number
of touches. -/
def Shared.boot (x1 y1 : Nat) : Shared where
  bSdacrdReady := false
  songRecording := false
  playingRecording := false
  busyRecording := false
  nFileNum := 0
  recordingPlaylist := fun _ => ⟨0, 0⟩
  mtc2 := ⟨0, x1, y1⟩
  edgeCap := 0
  volume := hwDefaultVol
  bFirsTime2SetupVol := true
  codec := ⟨0x5B, 0x5B, true, some 48000⟩
  handles := ⟨1, ∅, ∅, fun _ => 0, 0⟩
  recordBox := .blank
  playBox := .blank

/-- The system when `OSStart` runs its only task. -/
def Sys.boot (x1 y1 : Nat) : Sys where
  shared := .boot x1 y1
  readSD := .absent
  playRecording := .absent
  keyHandler := .ready .head
  locals := ⟨111, 0, 0⟩

end SoundBoard.Tasks
