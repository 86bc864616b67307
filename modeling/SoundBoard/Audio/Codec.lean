import SoundBoard.Audio.I2C

/-!
# AUDIO.c

The registers of the codec. They cannot be read, so `reg_file` has what was written last, and the
calls that change some bits of a register take the others from there.
-/

namespace SoundBoard.Audio

open SoundBoard.Lib

/-- `reg_file`, and the bus of the codec. -/
structure Driver (κ : Type) where
  regFile : Nat → UInt16
  bus : Bus κ

variable {κ : Type}

/-- `I2C_AUDIO_ADDR`. -/
def i2cAudioAddr : UInt8 := 0x34

/-- `control` of `aduio_RegWrite`: the register, and the highest of its nine bits. -/
def regControl (regIndex : UInt8) (data16 : UInt16) : UInt8 :=
  let control : UInt8 := (regIndex <<< 1) &&& 0xFE
  control ||| ((data16 >>> 8) &&& 0x01).toUInt8

/-- `aduio_RegWrite`. -/
def aduioRegWrite (slave : Slave κ) (regIndex : UInt8) (data16 : UInt16) (driver : Driver κ) :
    Bool × Driver κ :=
  let regFile := if regIndex ≤ 10 then Function.update driver.regFile regIndex.toNat data16
    else driver.regFile
  let write := I2C_Write slave i2cAudioAddr (regControl regIndex data16) (data16 &&& 0xFF).toUInt8
    driver.bus
  (write.1, ⟨regFile, write.2⟩)

/-- Registers written one after the other, up to the first failure. -/
def regWrites (slave : Slave κ) : List (UInt8 × UInt16) → Driver κ → Bool × Driver κ
  | [], driver => (true, driver)
  | (regIndex, data16) :: rest, driver =>
    let write := aduioRegWrite slave regIndex data16 driver
    if write.1 then regWrites slave rest write.2 else (false, write.2)

/-- The registers of `AUDIO_Init`. -/
def initValues : List (UInt8 × UInt16) :=
  [(15, 0x0000), (9, 0x0000), (2, 0x005B), (3, 0x005B), (4, 0x0015 ||| 0x20 ||| 0x08 ||| 0x01),
    (5, 0x0000), (6, 0), (7, 0x0042), (8, 0x0002), (9, 0x0001)]

/-- `AUDIO_Init`. -/
def audioInit (slave : Slave κ) (driver : Driver κ) : Bool × Driver κ :=
  regWrites slave initValues driver

/-- `AUDIO_InterfaceActive`. -/
def audioInterfaceActive (slave : Slave κ) (bActive : Bool) (driver : Driver κ) :
    Bool × Driver κ :=
  aduioRegWrite slave 9 (if bActive then 0x0001 else 0x0000) driver

/-- `AUDIO_SAMPLE_RATE`. -/
inductive AudioSampleRate where
  | adc48kDac48k | adc48kDac8k | adc8kDac48k | adc8kDac8k | adc32kDac32k | adc96kDac96k
  | adc44k1Dac44k1
  deriving DecidableEq, Repr

/-- The number of a sample rate in register 8. -/
def AudioSampleRate.code : AudioSampleRate → UInt16
  | .adc48kDac48k => 0x0
  | .adc48kDac8k => 0x1
  | .adc8kDac48k => 0x2
  | .adc8kDac8k => 0x3
  | .adc32kDac32k => 0x6
  | .adc96kDac96k => 0x7
  | .adc44k1Dac44k1 => 0x8

/-- `AUDIO_SetSampleRate`. -/
def audioSetSampleRate (slave : Slave κ) (sampleRate : AudioSampleRate) (driver : Driver κ) :
    Bool × Driver κ :=
  aduioRegWrite slave 8 ((sampleRate.code <<< 2) ||| 0x02) driver

/-- A volume in the lower seven bits of a register. -/
def volControl (control vol : UInt16) : UInt16 := (control &&& 0xFF80) + (vol &&& 0x7F)

/-- `AUDIO_SetLineOutVol`. -/
def audioSetLineOutVol (slave : Slave κ) (lVol rVol : UInt16) (driver : Driver κ) :
    Bool × Driver κ :=
  let left := aduioRegWrite slave 2 (volControl (driver.regFile 2) lVol) driver
  if left.1 then aduioRegWrite slave 3 (volControl (left.2.regFile 3) rVol) left.2
  else (false, left.2)

/-- A bit of the analogue path, set or cleared. -/
def enablePath (slave : Slave κ) (mask : UInt16) (bEnable : Bool) (driver : Driver κ) :
    Bool × Driver κ :=
  let control := driver.regFile 4
  aduioRegWrite slave 4 (if bEnable then control ||| mask else control &&& ~~~mask) driver

/-- `AUDIO_EnableByPass`. -/
def audioEnableByPass (slave : Slave κ) (bEnable : Bool) (driver : Driver κ) : Bool × Driver κ :=
  enablePath slave ((0x01 : UInt16) <<< 3) bEnable driver

/-- `AUDIO_EnableSiteTone`. -/
def audioEnableSiteTone (slave : Slave κ) (bEnable : Bool) (driver : Driver κ) :
    Bool × Driver κ :=
  enablePath slave ((0x01 : UInt16) <<< 5) bEnable driver

/-- The calls. -/
inductive Call where
  | interfaceActive (bActive : Bool)
  | setSampleRate (sampleRate : AudioSampleRate)
  | setLineOutVol (lVol rVol : UInt16)
  | enableByPass (bEnable : Bool)
  | enableSiteTone (bEnable : Bool)
  deriving DecidableEq, Repr

/-- A call, and whether it reports success. -/
def Call.run (slave : Slave κ) : Call → Driver κ → Bool × Driver κ
  | .interfaceActive bActive => audioInterfaceActive slave bActive
  | .setSampleRate sampleRate => audioSetSampleRate slave sampleRate
  | .setLineOutVol lVol rVol => audioSetLineOutVol slave lVol rVol
  | .enableByPass bEnable => audioEnableByPass slave bEnable
  | .enableSiteTone bEnable => audioEnableSiteTone slave bEnable

/-- Calls one after the other, each with its result. -/
def runCalls (slave : Slave κ) : List Call → Driver κ → List (Call × Bool) × Driver κ
  | [], driver => ([], driver)
  | call :: calls, driver =>
    let result := call.run slave driver
    let rest := runCalls slave calls result.2
    ((call, result.1) :: rest.1, rest.2)

end SoundBoard.Audio
