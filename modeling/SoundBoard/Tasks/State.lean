import SoundBoard.Fat.Types

/-!
# State of the task system

The variables that the three tasks of `main.c` share, the touch controller's record, and the
functions of `graphic_f.c` that turn a touch into a button. What the card answers is left open:
every step of a task gets an `Answer`, so a run covers every card, every read failure and
every file.
-/

namespace SoundBoard.Tasks

/-- `MTC2_EVENT`, as far as the tasks read it. -/
structure Touch where
  touchNum : Nat
  x1 : Nat
  y1 : Nat
  deriving DecidableEq, Repr

/-- `getButtonId`, with the quotient rounded toward zero. 111 stands for no button. -/
def getButtonId (x y : Int) : Int :=
  if 25 < y ∧ y < 130 then (x - 25).tdiv 130
  else if 155 < y ∧ y < 260 then (x - 25).tdiv 130 + 6
  else if 285 < y ∧ y < 390 then (x - 25).tdiv 130 + 12
  else 111

/-- `recordTouched`. -/
def recordTouched (x y : Int) : Bool := 420 < y ∧ y < 460 ∧ 130 < x ∧ x < 360

/-- `playTouched`. -/
def playTouched (x y : Int) : Bool := 420 < y ∧ y < 460 ∧ 430 < x ∧ x < 560

/-- Screen coordinates are not negative, so neither is a button. -/
theorem getButtonId_nonneg (x y : Nat) : 0 ≤ getButtonId x y := by
  have quotient : 0 ≤ ((x : Int) - 25).tdiv 130 := by
    rw [Int.tdiv_eq_ediv, show Int.sign 130 = 1 from rfl]
    split <;> omega
  simp only [getButtonId]
  split
  · exact quotient
  · split
    · omega
    · split <;> omega

/-- `MAX_RECORDING`. -/
def maxRecording : Nat := 40

/-- `RECORDING_PLAYLIST`. The number of ticks is an `int` that counts calls: never negative, and no
press is long enough for 2³¹ of them. -/
structure Recording where
  songnummer : Int
  playticks : Nat
  deriving DecidableEq, Repr

/-- The label of the record button. -/
inductive RecordBox where
  | blank
  | record
  | stopRecording
  deriving DecidableEq, Repr

/-- The label of the play button. -/
inductive PlayBox where
  | blank
  | play
  | stop
  deriving DecidableEq, Repr

/-- The allocations of the FAT library and the variables that refer to them. A handle is a
number that is not used again, 0 for none. The table is a total function of the song number;
what a number outside `gWavePlay` overwrites is not modelled. -/
structure Handles where
  next : Nat
  files : Finset Nat
  volumes : Finset Nat
  hFile : Int → Nat
  hFat : Nat

/-- The registers of the codec that the tasks write. -/
structure Codec where
  leftVol : Nat
  rightVol : Nat
  active : Bool
  rate : Option Int
  deriving DecidableEq, Repr

/-- The variables that the tasks share. -/
structure Shared where
  bSdacrdReady : Bool
  songRecording : Bool
  playingRecording : Bool
  busyRecording : Bool
  nFileNum : Nat
  recordingPlaylist : Nat → Recording
  mtc2 : Touch
  edgeCap : Nat
  volume : Nat
  bFirsTime2SetupVol : Bool
  codec : Codec
  handles : Handles
  recordBox : RecordBox
  playBox : PlayBox

/-- What `Fat_FileBrowseNext` and the reads behind it make of a directory entry in
`build_wave_play_list`. -/
inductive Entry where
  /-- No entry is left. -/
  | last
  /-- The name is passed over, or the file does not open. -/
  | passed
  /-- The file opens and its header is not read. -/
  | readFailed
  /-- The header is read and not accepted. -/
  | rejected
  /-- The header is accepted. -/
  | accepted
  deriving DecidableEq, Repr

/-- What a step of a task gets from the card, the codec and the player's state. -/
structure Answer where
  /-- `waveplay_execute` finds the song at its end. -/
  restart : Bool
  /-- `Fat_FileOpen` finds the file. -/
  opened : Bool
  /-- The sample rate of a header that `waveplay_start` accepts. -/
  header : Option Int
  /-- The operation succeeds. -/
  ok : Bool
  /-- The operation sleeps once more before it ends. -/
  again : Bool
  /-- The next entry of the directory. -/
  entry : Entry
  deriving DecidableEq, Repr

/-- The tasks of `main.c`. -/
inductive TaskId where
  | readSD
  | playRecording
  | keyHandler
  deriving DecidableEq, Repr

/-- What the tasks do, as far as the properties of runs speak about it. -/
inductive Event where
  /-- A call of `waveplay_start`. -/
  | start (task : TaskId) (songnummer : Int)
  /-- A call of `waveplay_execute`. -/
  | execute (task : TaskId) (songnummer : Int)
  /-- `TaskKeyHandler` begins its loop again. -/
  | iteration
  /-- `TaskKeyHandler` takes the number of a touched button. -/
  | touched (songnummer : Int)
  /-- `TaskKeyHandler` writes an entry of `recordingPlaylist`. -/
  | record (index : Nat) (entry : Recording)
  /-- A touch of the record button changes `busyRecording`. -/
  | toggle (busyRecording : Bool)
  deriving DecidableEq, Repr

/-- A call has come to its next program point, sleeps before it, or returns. -/
inductive Sub (pc result : Type) where
  | at (pc : pc)
  | sleep (pc : pc)
  | done (result : result)

/-- A task: not created or deleted, ready to run, or sleeping. -/
inductive Task (pc : Type) where
  | absent
  | ready (pc : pc)
  | asleep (pc : pc)
  deriving DecidableEq

/-- Where a task is, unless it is absent. -/
def Task.pc? {pc : Type} : Task pc → Option pc
  | .absent => none
  | .ready pc => some pc
  | .asleep pc => some pc

/-- Continue a task inside a call, or behind it. -/
def Sub.task {inner result outer : Type} (wrap : inner → outer) (behind : result → outer) :
    Sub inner result → Task outer
  | .at pc => .ready (wrap pc)
  | .sleep pc => .asleep (wrap pc)
  | .done result => .ready (behind result)

end SoundBoard.Tasks
