import SoundBoard.Player.Context

/-!
# Playing a song

`waveplay_start` and `waveplay_execute` of `audio_f.c`. Their output, the configured sample
rates, the blocks loaded from the card and the samples handed to the DAC, is returned as a
list of events in the order in which the code produces them.
-/

namespace SoundBoard.Player

open SoundBoard.Lib SoundBoard.Fat SoundBoard.Wave

/-- The two 16-bit samples of one `AUDIO_DacFifoSetData` call. -/
structure Frame where
  chLeft : Nat
  chRight : Nat
  deriving DecidableEq, Repr

/-- What a call does to the hardware, and what it takes from the card. -/
inductive Event where
  /-- `AUDIO_InterfaceActive`. -/
  | interfaceActive (bActive : Bool)
  /-- `AUDIO_SetSampleRate`, for the rate in a header. -/
  | rate (sampleRate : Int)
  /-- `AUDIO_FifoClear`. -/
  | fifoClear
  /-- A successful `Fat_FileRead` of `size` bytes, and the buffer after it. -/
  | load (size : Nat) (szBuf : Bytes)
  /-- `AUDIO_DacFifoSetData`. -/
  | dac (frame : Frame)

/-- The result of a call: its return value, its output and the globals after it. -/
structure Outcome (σ : Type) where
  ok : Bool
  events : List Event
  player : Globals σ

variable {σ : Type}

/-- The codec writes with which `waveplay_start` ends. -/
def rateEvents (sampleRate : Int) : List Event :=
  [.interfaceActive false, .rate sampleRate, .fifoClear, .interfaceActive true]

/-- The little-endian stereo frame at an offset of memory. -/
def frameAt (memory : View) (offset : Int) : Frame :=
  ⟨u16At memory offset, u16At memory (offset + 2)⟩

/-- A song made ready to play: the positions that `waveplay_start` sets. -/
def PlaywaveContext.prepared (context : PlaywaveContext) (offset size : Int) : PlaywaveContext :=
  { context with
    uWavePlayPos := toU32 offset
    uWaveMaxPlayPos := toU32 (toU32 offset + size)
    uWaveReadPos := waveBufSize }

/-- The header part of `waveplay_start`, after the first block has been read. -/
def waveplayPrepare (garbage : Garbage) (songnummer : Nat) (events : List Event)
    (p : Globals σ) : Exec (Outcome σ) :=
  match headerCheck (bufView p.gWavePlay garbage songnummer) waveBufSize with
  | none => .error .neverReturns
  | some (_, false) => .ok ⟨false, events, p⟩
  | some (sampleRate, true) =>
    match waveGetWaveOffset (bufView p.gWavePlay garbage songnummer) waveBufSize,
      waveGetDataByteSize (bufView p.gWavePlay garbage songnummer) waveBufSize with
    | some offset, some size =>
      .ok ⟨true, events ++ rateEvents sampleRate,
        p.setSong songnummer ((p.gWavePlay songnummer).prepared offset size)⟩
    | _, _ => .error .neverReturns

/-- The first part of `waveplay_start`: open the file and read its first block. The flag is
`bSuccess`, which is assigned only by the read. -/
def waveplayOpen (api : FileApi σ) (garbage : Garbage) (songnummer : Nat) (p : Globals σ) :
    Exec (Outcome σ) :=
  match api.fatFileOpen p.files p.hFat (p.gWavePlay songnummer).szFilename with
  | .error fault => .error fault
  | .ok (hFile, files) =>
    let p := { p with files }.setSong songnummer { p.gWavePlay songnummer with hFile }
    if hFile = 0 then .ok ⟨garbage.bSuccess, [], p⟩
    else
      match api.fatFileRead files hFile (p.gWavePlay songnummer).szBuf waveBufSize with
      | .error fault => .error fault
      | .ok (bSuccess, szBuf, files) =>
        let p := { p with files }.setSong songnummer { p.gWavePlay songnummer with szBuf }
        .ok ⟨bSuccess, if bSuccess then [.load waveBufSize szBuf] else [], p⟩

/-- `waveplay_start`. -/
def waveplayStart (api : FileApi σ) (garbage : Garbage) (songnummer : Nat) (p : Globals σ) :
    Exec (Outcome σ) :=
  if songnummer ≤ maxSongs then
    match waveplayOpen api garbage songnummer p with
    | .error fault => .error fault
    | .ok first =>
      if first.ok then waveplayPrepare garbage songnummer first.events first.player
      else .ok first
  else .error .outOfBounds

/-- The size of the next read of `waveplay_execute`. -/
def readSize (context : PlaywaveContext) : Nat :=
  min waveBufSize (toU32 ((context.uWaveMaxPlayPos : Int) - context.uWavePlayPos))

/-- The first loop of `waveplay_execute`: read on until the play position lies before the read
position. The read position grows by at least one byte with every read. -/
def refillLoop (api : FileApi σ) (songnummer : Nat) :
    Nat → List Event → Globals σ → Exec (Outcome σ)
  | 0, _, _ => .error .neverReturns
  | fuel + 1, events, p =>
    let context := p.gWavePlay songnummer
    if context.uWavePlayPos < context.uWaveReadPos then .ok ⟨true, events, p⟩
    else
      match api.fatFileRead p.files context.hFile context.szBuf (readSize context) with
      | .error fault => .error fault
      | .ok (true, szBuf, files) =>
        refillLoop api songnummer fuel (events ++ [.load (readSize context) szBuf])
          ({ p with files }.setSong songnummer { context with
            szBuf, uWaveReadPos := toU32 (context.uWaveReadPos + readSize context) })
      | .ok (false, szBuf, files) =>
        .ok ⟨false, events, { p with files }.setSong songnummer { context with szBuf }⟩

/-- `play_size`, rounded toward zero to whole frames. -/
def playSize (context : PlaywaveContext) : Int :=
  (toInt32 ((context.uWaveReadPos : Int) - context.uWavePlayPos)).tdiv 4 * 4

/-- The frames that the second loop of `waveplay_execute` hands to the DAC. -/
def playedFrames (garbage : Garbage) (songnummer : Nat) (p : Globals σ) : List Frame :=
  let context := p.gWavePlay songnummer
  (List.range (playSize context / 4).toNat).map fun i : Nat =>
    frameAt (bufView p.gWavePlay garbage songnummer)
      ((context.uWavePlayPos % waveBufSize + 4 * i : Nat) : Int)

/-- The second loop of `waveplay_execute` and the step of the play position. -/
def playBuffer (garbage : Garbage) (songnummer : Nat) (p : Globals σ) : List Event × Globals σ :=
  let context := p.gWavePlay songnummer
  ((playedFrames garbage songnummer p).map .dac,
    p.setSong songnummer { context with
      uWavePlayPos := toU32 (context.uWavePlayPos + playSize context) })

/-- The test with which `waveplay_execute` decides to begin the song again. -/
def atEnd (context : PlaywaveContext) : Prop := context.uWaveMaxPlayPos ≤ context.uWavePlayPos

instance (context : PlaywaveContext) : Decidable (atEnd context) :=
  inferInstanceAs (Decidable (context.uWaveMaxPlayPos ≤ context.uWavePlayPos))

/-- Enough passes for `refillLoop`: the read position has at most the play position to
reach. -/
def refillFuel (context : PlaywaveContext) : Nat := context.uWavePlayPos + 2

/-- `waveplay_execute`. Its restart of an ended song drops the result of `waveplay_start`. -/
def waveplayExecute (api : FileApi σ) (garbage : Garbage) (songnummer : Nat) (p : Globals σ) :
    Exec (Outcome σ) :=
  if songnummer ≤ maxSongs then
    if atEnd (p.gWavePlay songnummer) then
      (waveplayStart api garbage songnummer p).map fun restart => { restart with ok := true }
    else
      match refillLoop api songnummer (refillFuel (p.gWavePlay songnummer)) [] p with
      | .error fault => .error fault
      | .ok refill =>
        if refill.ok then
          let played := playBuffer garbage songnummer refill.player
          .ok ⟨true, refill.events ++ played.1, played.2⟩
        else .ok refill
  else .error .outOfBounds

/-- The frames among the events of a call. -/
def frames (events : List Event) : List Frame :=
  events.filterMap fun event => match event with
    | .dac frame => some frame
    | _ => none

/-- The loaded blocks among the events of a call, with their sizes. -/
def loads (events : List Event) : List (Nat × Bytes) :=
  events.filterMap fun event => match event with
    | .load size szBuf => some (size, szBuf)
    | _ => none

end SoundBoard.Player
