import SoundBoard.Tasks.State

/-!
# Calls that sleep

`waveplay_start`, `waveplay_execute` and `handle_key` as the tasks run them: in steps, between
which another task may run. Every write of a codec register sleeps before it returns. The
player's work on its buffers is one step here; its result is part of the answer, and its effect
on the open handles is kept.
-/

namespace SoundBoard.Tasks

/-! ## Handles -/

/-- `Fat_FileOpen` for an entry of `gWavePlay`: the entry gets a new handle, or 0. -/
def Handles.open (handles : Handles) (songnummer : Int) (opened : Bool) : Handles :=
  if opened then
    { handles with
      next := handles.next + 1
      files := insert handles.next handles.files
      hFile := Function.update handles.hFile songnummer handles.next }
  else { handles with hFile := Function.update handles.hFile songnummer 0 }

/-- An entry of the directory that is opened and not closed again. -/
def Handles.leak (handles : Handles) : Handles :=
  { handles with next := handles.next + 1, files := insert handles.next handles.files }

/-- An allocation that is freed again: an entry of the directory that is opened, read and
closed, or a volume that does not mount. -/
def Handles.pass (handles : Handles) : Handles := { handles with next := handles.next + 1 }

/-- A volume that mounts; `hFat` refers to it from now on. -/
def Handles.mount (handles : Handles) : Handles :=
  { handles with
    next := handles.next + 1
    volumes := insert handles.next handles.volumes
    hFat := handles.next }

/-! ## waveplay_start -/

/-- Program points of `waveplay_start`. -/
inductive StartPc where
  /-- Open the file, read its first block and check the header. -/
  | body (songnummer : Int)
  /-- The three codec writes for an accepted header. -/
  | inactive (sampleRate : Int)
  | setRate (sampleRate : Int)
  | activate
  | ret
  deriving DecidableEq, Repr

/-- A step of `waveplay_start`. Its result is used by none of its callers. -/
def waveplayStart (answer : Answer) (shared : Shared) : StartPc → Sub StartPc Unit × Shared
  | .body songnummer =>
    let shared := { shared with handles := shared.handles.open songnummer answer.opened }
    match answer.header with
    | some sampleRate => (.at (.inactive sampleRate), shared)
    | none => (.at .ret, shared)
  | .inactive sampleRate =>
    (.sleep (.setRate sampleRate), { shared with codec := { shared.codec with active := false } })
  | .setRate sampleRate =>
    (.sleep .activate, { shared with codec := { shared.codec with rate := some sampleRate } })
  | .activate => (.sleep .ret, { shared with codec := { shared.codec with active := true } })
  | .ret => (.done (), shared)

/-! ## waveplay_execute -/

/-- Program points of `waveplay_execute`. -/
inductive ExecutePc where
  /-- Compare the positions, refill the buffer and play it. -/
  | body (songnummer : Int)
  /-- Begin an ended song again. -/
  | restart (pc : StartPc)
  | ret (bSuccess : Bool)
  deriving DecidableEq, Repr

/-- A step of `waveplay_execute`. -/
def waveplayExecute (answer : Answer) (shared : Shared) :
    ExecutePc → Sub ExecutePc Bool × Shared
  | .body songnummer =>
    if answer.restart then (.at (.restart (.body songnummer)), shared)
    else (.at (.ret answer.ok), shared)
  | .restart pc =>
    match waveplayStart answer shared pc with
    | (.at pc, shared) => (.at (.restart pc), shared)
    | (.sleep pc, shared) => (.sleep (.restart pc), shared)
    | (.done (), shared) => (.at (.ret true), shared)
  | .ret bSuccess => (.done bSuccess, shared)

/-! ## handle_key -/

/-- `HW_MIN_VOL`. -/
def hwMinVol : Nat := 47

/-- `HW_MAX_VOL`. -/
def hwMaxVol : Nat := 127

/-- `HW_DEFAULT_VOL`. -/
def hwDefaultVol : Nat := 120

/-- Program points of `handle_key`. -/
inductive KeyPc where
  /-- Read the edge capture register. -/
  | capture
  /-- Clear it. -/
  | clear (button : Nat)
  /-- Read `volume` and compute the new one, if there is one. -/
  | decide (button : Nat)
  /-- Write `volume`. -/
  | store (nHwVol : Nat)
  /-- Load `volume` for both arguments of `AUDIO_SetLineOutVol`. -/
  | loadLeft
  | loadRight (lVol : Nat)
  /-- The two codec writes of `AUDIO_SetLineOutVol`. -/
  | left (lVol rVol : Nat)
  | right (rVol : Nat)
  | ret
  deriving DecidableEq, Repr

/-- The new volume of `handle_key`, if its first call or a key asks for one. -/
def newVolume (first : Bool) (button volume : Nat) : Option Nat :=
  if first then some volume
  else if button.testBit 2 then some (if volume < hwMaxVol then volume + 1 else volume)
  else if button.testBit 1 then some (if hwMinVol < volume then volume - 1 else volume)
  else none

/-- A volume register with its seven volume bits replaced. -/
def setVolBits (control vol : Nat) : Nat := control / 128 * 128 + vol % 128

/-- A step of `handle_key`. -/
def handleKey (answer : Answer) (shared : Shared) : KeyPc → Sub KeyPc Unit × Shared
  | .capture => (.at (.clear shared.edgeCap), shared)
  | .clear button => (.at (.decide button), { shared with edgeCap := 0 })
  | .decide button =>
    match newVolume shared.bFirsTime2SetupVol button shared.volume with
    | some nHwVol => (.at (.store nHwVol), { shared with bFirsTime2SetupVol := false })
    | none => (.done (), shared)
  | .store nHwVol => (.at .loadLeft, { shared with volume := nHwVol })
  -- the arguments are passed by value: another task may change `volume` before they are written
  | .loadLeft => (.at (.loadRight shared.volume), shared)
  | .loadRight lVol => (.at (.left lVol shared.volume), shared)
  | .left lVol rVol =>
    -- a register write that is not acknowledged makes the call skip the other side
    (.sleep (if answer.ok then .right rVol else .ret),
      { shared with codec := { shared.codec with
        leftVol := setVolBits shared.codec.leftVol lVol } })
  | .right rVol =>
    (.sleep .ret, { shared with codec := { shared.codec with
      rightVol := setVolBits shared.codec.rightVol rVol } })
  | .ret => (.done (), shared)

end SoundBoard.Tasks
