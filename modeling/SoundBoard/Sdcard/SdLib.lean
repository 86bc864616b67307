import SoundBoard.Sdcard.Protocol

/-!
# sd_lib.c

The initialisation of the card, and the reads and writes of its blocks. The record `gSdInfo` and
the bus are the state; the clock and the variables that are read before they are set come from
outside.
-/

namespace SoundBoard.Sdcard

open SoundBoard.Lib

variable {κ α : Type}

/-- `SD_INFO`. -/
structure SdInfo where
  bSupport4Bits : Bool
  bVer2 : Bool
  bSDHC : Bool
  hostOCR32 : UInt32
  ocr32 : UInt32
  rca16 : UInt16
  szCID : List UInt8
  szCSD : List UInt8

/-- `gSdInfo` after `memset`, with the width of the data bus. -/
def SdInfo.cleared : SdInfo :=
  ⟨sdIsSupport4Bits, false, false, 0, 0, 0, List.replicate 17 0, List.replicate 17 0⟩

/-- `gSdInfo` and the bus. -/
structure Driver (κ : Type) where
  gSdInfo : SdInfo
  bus : Bus κ

/-- What an initialisation finds outside the driver: the readings of `alt_nticks`, the value of
`alt_ticks_per_second`, and what `SD_CMD9` and `SD_CMD10` find in their own variables. -/
structure Surroundings where
  nticks : Nat → UInt32
  ticksPerSecond : UInt32
  csdCopyLen : Int
  cidCopyLen : Int
  szThisCID : List UInt8

/-- `SD_VHS_2V7_3V6`. -/
def sdVhs2V73V6 : UInt8 := 0x01

/-- `CMD8_DEFAULT_TEST_PATTERN`. -/
def cmd8DefaultTestPattern : UInt8 := 0xAA

/-- `if (!command) return FALSE;` before the rest. -/
def Driver.attempt (command : Bus κ → Bool × Bus κ) (rest : Driver κ → Bool × Driver κ)
    (d : Driver κ) : Bool × Driver κ :=
  let answer := command d.bus
  if answer.1 then rest { d with bus := answer.2 } else (false, { d with bus := answer.2 })

/-- The same for a command with a result, which is stored before the rest. -/
def Driver.fetch (command : Bus κ → Option α × Bus κ) (store : α → SdInfo → SdInfo)
    (rest : Driver κ → Bool × Driver κ) (d : Driver κ) : Bool × Driver κ :=
  let answer := command d.bus
  match answer.1 with
  | some value => rest { gSdInfo := store value d.gSdInfo, bus := answer.2 }
  | none => (false, { d with bus := answer.2 })

section Returns

variable {command : Bus κ → Bool × Bus κ} {fetched : Bus κ → Option α × Bus κ}
  {store : α → SdInfo → SdInfo} {rest : Driver κ → Bool × Driver κ} {d : Driver κ}

/-- A command that succeeds goes on to the rest. -/
theorem Driver.attempt_true (success : (command d.bus).1 = true) :
    d.attempt command rest = rest { d with bus := (command d.bus).2 } := by
  simp [Driver.attempt, success]

/-- A command that fails ends the call. -/
theorem Driver.attempt_false (failure : (command d.bus).1 = false) :
    d.attempt command rest = (false, { d with bus := (command d.bus).2 }) := by
  simp [Driver.attempt, failure]

/-- A command with a result goes on to the rest. -/
theorem Driver.fetch_some {value : α} (success : (fetched d.bus).1 = some value) :
    d.fetch fetched store rest = rest ⟨store value d.gSdInfo, (fetched d.bus).2⟩ := by
  simp [Driver.fetch, success]

/-- A command without a result ends the call. -/
theorem Driver.fetch_none (failure : (fetched d.bus).1 = none) :
    d.fetch fetched store rest = (false, { d with bus := (fetched d.bus).2 }) := by
  simp [Driver.fetch, failure]

end Returns

/-- The `while` loop of `SDLIB_Init` around `SD_ACMD41`, from the reading of the clock that its
next failure takes. -/
def acmd41Loop (card : Card κ) (env : Surroundings) (timeStart : UInt32) :
    Nat → Nat → Driver κ → Option (Bool × Driver κ)
  | 0, _, _ => none
  | fuel + 1, reading, d =>
    let app := sdCmd55 card d.gSdInfo.rca16 sdStateIdle d.bus
    if app.1 then
      let answer := sdAcmd41 card d.gSdInfo.hostOCR32 app.2
      match answer.1 with
      | some ocr32 =>
        let bSDHC := d.gSdInfo.bSDHC && ocr32 &&& 0x40000000 != 0
        some (true, { gSdInfo := { d.gSdInfo with ocr32, bSDHC }, bus := answer.2 })
      | none =>
        if env.nticks reading - timeStart > env.ticksPerSecond then
          some (false, { d with bus := answer.2 })
        else acmd41Loop card env timeStart fuel (reading + 1) { d with bus := answer.2 }
    else some (false, { d with bus := app.2 })

/-- The part of `SDLIB_Init` that sets the bus to four bits. -/
def widen (card : Card κ) (d : Driver κ) : Bool × Driver κ :=
  if d.gSdInfo.bSupport4Bits then
    d.attempt (sdCmd55 card d.gSdInfo.rca16 sdStateTran) fun d =>
    d.attempt (sdAcmd6 card true sdStateTran) fun d =>
    d.attempt (sdCmd55 card d.gSdInfo.rca16 sdStateTran) fun d =>
    d.attempt (sdAcmd42 card true sdStateTran) fun d => (true, d)
  else (true, d)

/-- The part of `SDLIB_Init` from stand-by to transfer. The second reading of the card's
identification goes to a local variable. -/
def transfer (card : Card κ) (env : Surroundings) (d : Driver κ) : Bool × Driver κ :=
  d.fetch (sdCmd9 card env.csdCopyLen d.gSdInfo.rca16 d.gSdInfo.szCSD)
    (fun szCSD info => { info with szCSD }) fun d =>
  d.fetch (sdCmd10 card env.cidCopyLen d.gSdInfo.rca16 env.szThisCID) (fun _ info => info) fun d =>
  d.attempt (sdCmd7 card d.gSdInfo.rca16) fun d =>
  d.attempt (sdCmd16 card 512) fun d => widen card d

/-- The part of `SDLIB_Init` that names the card. -/
def identify (card : Card κ) (env : Surroundings) (d : Driver κ) : Bool × Driver κ :=
  d.fetch (sdCmd2 card d.gSdInfo.szCID 17) (fun szCID info => { info with szCID }) fun d =>
  d.fetch (sdCmd3 card) (fun rca16 info => { info with rca16 }) fun d => transfer card env d

/-- The part of `SDLIB_Init` before the loop. -/
def powerOn (card : Card κ) (bus : Bus κ) : Driver κ :=
  let version := sdCmd8 card sdVhs2V73V6 cmd8DefaultTestPattern (sdCmd0 card (sdInit card bus))
  if version.1 then
    { gSdInfo := { SdInfo.cleared with hostOCR32 := 0x40FF8000, bVer2 := true, bSDHC := true }
      bus := version.2 }
  else
    { gSdInfo := { SdInfo.cleared with hostOCR32 := 0x00040000 }, bus := sdCmd0 card version.2 }

/-- `SDLIB_Init`, unless its loop runs out of fuel. -/
def sdlibInit (card : Card κ) (env : Surroundings) (fuel : Nat) (bus : Bus κ) :
    Option (Bool × Driver κ) :=
  (acmd41Loop card env (env.nticks 0) fuel 1 (powerOn card bus)).map fun ready =>
    if ready.1 then identify card env ready.2 else ready

/-- The address that a block has in a command: in 32 bits, and in bytes unless the card has a
high capacity. -/
def SdInfo.addr (info : SdInfo) (blockNumber : UInt32) : UInt32 :=
  if info.bSDHC then blockNumber else blockNumber * 512

/-- `SDLIB_ReadBlock512`. -/
def sdlibReadBlock512 (card : Card κ) (blockNumber : UInt32) (buff : Bytes) (d : Driver κ) :
    Bool × Bytes × Driver κ :=
  let command := sdCmd17 card (d.gSdInfo.addr blockNumber) d.bus
  if command.1 then
    let answer := sdReadData card buff 512 command.2
    (answer.1, answer.2.1, { d with bus := answer.2.2 })
  else (false, buff, { d with bus := command.2 })

/-- `SDLIB_WriteBlock512`. -/
def sdlibWriteBlock512 (card : Card κ) (blockNumber : UInt32) (szDataWrite : List UInt8)
    (d : Driver κ) : Bool × Driver κ :=
  let command := sdCmd24 card (d.gSdInfo.addr blockNumber) d.bus
  if command.1 then
    let answer := sdWriteData card szDataWrite command.2
    (answer.1, { d with bus := answer.2 })
  else (false, { d with bus := command.2 })

end SoundBoard.Sdcard
