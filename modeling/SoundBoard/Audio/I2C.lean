import SoundBoard.Lib.TwoWire
import SoundBoard.Lib.Memory

/-!
# I2C.c

The two pins of the codec, and the routines that move them. The slave is whatever reacts to them;
it puts a level on the data line, which counts while the pin is an input. `heard` is not a variable
of the program: it lists the levels of the lines after every write to a pin.
-/

namespace SoundBoard.Audio

open SoundBoard.Lib SoundBoard.Lib.TwoWire

/-- A slave: how it reacts to the clock and to what the master drives, and its data line. -/
structure Slave (κ : Type) where
  step : κ → Bool → Option Bool → κ
  sda : κ → Bool

/-- The registers of the two pins, the slave behind them, and the levels there have been. -/
structure Bus (κ : Type) where
  slave : κ
  scl : Bool
  bOut : Bool
  sda : Bool
  heard : List Levels

variable {κ : Type}

/-- What the registers make the master drive. -/
def Bus.driven (bus : Bus κ) : Option Bool := if bus.bOut then some bus.sda else none

/-- The levels of the two lines. -/
def Bus.levels (slave : Slave κ) (bus : Bus κ) : Levels :=
  ⟨bus.scl, bus.driven.getD (slave.sda bus.slave)⟩

/-- The slave reacts to the pins. -/
def Bus.react (slave : Slave κ) (bus : Bus κ) : Bus κ :=
  let bus := { bus with slave := slave.step bus.slave bus.scl bus.driven }
  { bus with heard := bus.heard ++ [bus.levels slave] }

/-- `SCL_HIGH` and `SCL_LOW`. -/
def setScl (slave : Slave κ) (level : Bool) (bus : Bus κ) : Bus κ :=
  { bus with scl := level }.react slave

/-- `SDA_HIGH` and `SDA_LOW`. -/
def setSda (slave : Slave κ) (level : Bool) (bus : Bus κ) : Bus κ :=
  { bus with sda := level }.react slave

/-- `SDA_DIR_OUT` and `SDA_DIR_IN`. -/
def setDir (slave : Slave κ) (bOut : Bool) (bus : Bus κ) : Bus κ :=
  { bus with bOut := bOut }.react slave

/-- `SDA_READ`. -/
def sdaRead (slave : Slave κ) (bus : Bus κ) : Bool := (bus.levels slave).sda

/-- `i2c_start`. -/
def i2cStart (slave : Slave κ) (bus : Bus κ) : Bus κ :=
  let bus := setDir slave true bus
  let bus := setSda slave true bus
  let bus := setScl slave true bus
  let bus := setSda slave false bus
  setScl slave false bus

/-- `i2c_stop`. -/
def i2cStop (slave : Slave κ) (bus : Bus κ) : Bus κ :=
  let bus := setDir slave true bus
  let bus := setSda slave false bus
  let bus := setScl slave true bus
  setSda slave true bus

/-- The loop of `i2c_write` under a mask that moves down, for the passes left. -/
def i2cWriteLoop (slave : Slave κ) (data : UInt8) : Nat → UInt8 → Bus κ → Bus κ
  | 0, _, bus => bus
  | left + 1, mask, bus =>
    let bus := setScl slave false bus
    let bus := setSda slave (data &&& mask != 0) bus
    let bus := setScl slave true bus
    i2cWriteLoop slave data left (mask >>> 1) (setScl slave false bus)

/-- `i2c_write`: whether the byte was acknowledged. -/
def i2cWrite (slave : Slave κ) (data : UInt8) (bus : Bus κ) : Bool × Bus κ :=
  let bus := i2cWriteLoop slave data 8 0x80 (setDir slave true bus)
  let bus := setScl slave true (setDir slave false bus)
  (!sdaRead slave bus, setScl slave false bus)

/-- The loop of `i2c_read`, for the passes left. -/
def i2cReadLoop (slave : Slave κ) : Nat → UInt8 → Bus κ → UInt8 × Bus κ
  | 0, data, bus => (data, bus)
  | left + 1, data, bus =>
    let bus := setScl slave true bus
    let data := if sdaRead slave bus then (data <<< 1) ||| 1 else data <<< 1
    i2cReadLoop slave left data (setScl slave false bus)

/-- `i2c_read`: the byte, which is acknowledged if `bAck` says so. -/
def i2cRead (slave : Slave κ) (bAck : Bool) (bus : Bus κ) : UInt8 × Bus κ :=
  let read := i2cReadLoop slave 8 0 (setScl slave false (setDir slave false bus))
  let bus := setScl slave false read.2
  let bus := setSda slave (!bAck) (setDir slave true bus)
  let bus := setScl slave true bus
  let bus := setScl slave false bus
  (read.1, setSda slave false bus)

/-- A byte is written only after successes. -/
def writeIf (slave : Slave κ) (bSuccess : Bool) (data : UInt8) (bus : Bus κ) : Bool × Bus κ :=
  if bSuccess then i2cWrite slave data bus else (false, bus)

/-- `I2C_Write`. -/
def I2C_Write (slave : Slave κ) (deviceAddr controlAddr controlData : UInt8) (bus : Bus κ) :
    Bool × Bus κ :=
  let device := i2cWrite slave deviceAddr (i2cStart slave bus)
  let control := writeIf slave device.1 controlAddr device.2
  let data := writeIf slave control.1 controlData control.2
  (data.1, i2cStop slave data.2)

/-- The device is addressed once more, to be read from, and the transfer ends. -/
def readBack {α : Type} (slave : Slave κ) (bSuccess : Bool) (deviceAddr : UInt8)
    (read : Bus κ → α × Bus κ) (bus : Bus κ) : Option α × Bus κ :=
  let device := writeIf slave bSuccess (deviceAddr ||| 1) bus
  if device.1 then
    let data := read device.2
    (some data.1, i2cStop slave data.2)
  else (none, i2cStop slave device.2)

/-- `I2C_Read`: the byte read, if the transfer succeeds. The restart is made either way. -/
def I2C_Read (slave : Slave κ) (deviceAddr controlAddr : UInt8) (bus : Bus κ) :
    Option UInt8 × Bus κ :=
  let device := i2cWrite slave deviceAddr (i2cStart slave bus)
  let control := writeIf slave device.1 controlAddr device.2
  readBack slave control.1 deviceAddr (i2cRead slave false) (i2cStart slave control.2)

/-- The loop of `I2C_MultipleRead`, for the bytes left; all but the last are acknowledged. -/
def multipleReadLoop (slave : Slave κ) : Nat → Bus κ → List UInt8 × Bus κ
  | 0, bus => ([], bus)
  | left + 1, bus =>
    let read := i2cRead slave (left != 0) bus
    let rest := multipleReadLoop slave left read.2
    (read.1 :: rest.1, rest.2)

/-- `I2C_MultipleRead`: the bytes read, if the transfer succeeds. The restart is made only after
successes. -/
def I2C_MultipleRead (slave : Slave κ) (deviceAddr : UInt8) (len : Nat) (bus : Bus κ) :
    Option (List UInt8) × Bus κ :=
  let device := i2cWrite slave deviceAddr (i2cStart slave bus)
  let control := writeIf slave device.1 0 device.2
  readBack slave control.1 deviceAddr (multipleReadLoop slave len)
    (if control.1 then i2cStart slave control.2 else control.2)

/-! ## A slave -/

/-- A slave that counts the falls of the clock since a transfer began. -/
structure Counter where
  scl : Bool
  sda : Bool
  falls : Nat
  deriving DecidableEq, Repr

/-- It acknowledges every byte: it pulls its line down behind the eighth bit, for one cycle. -/
def counter : Slave Counter where
  step state scl driven :=
    let sda := driven.getD true
    if state.scl && scl && state.sda && !sda then ⟨scl, sda, 0⟩
    else if state.scl && !scl then ⟨scl, sda, state.falls + 1⟩
    else ⟨scl, sda, state.falls⟩
  sda state := state.falls % 9 != 0 || state.falls == 0

/-- The same slave, but in one of its transfers, which it counts from zero, it acknowledges
nothing. -/
def refuser (refused : Nat) : Slave (Counter × Nat) where
  step state scl driven :=
    let next := counter.step state.1 scl driven
    (next, if next.falls = 0 ∧ state.1.falls ≠ 0 then state.2 + 1 else state.2)
  sda state := state.2 == refused || counter.sda state.1

/-- The pins after a reset. -/
def powerUp : Bus Counter := ⟨⟨false, true, 0⟩, false, false, false, [⟨false, true⟩]⟩

end SoundBoard.Audio
