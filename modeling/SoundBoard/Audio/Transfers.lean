import SoundBoard.Audio.I2C

/-!
# Transfers on the codec's bus

The routines of `I2C.c` heard from the two lines. Each of them leaves the clock where the next one
expects it, so what goes over the lines is the bytes the program sends, and those it reports as
read, whoever the slave is and whatever it acknowledges.
-/

namespace SoundBoard.Audio

open SoundBoard.Lib SoundBoard.Lib.TwoWire

variable {κ : Type} {slave : Slave κ} {bus : Bus κ} {last : Levels} {bits : List Bool}
  {items : List Item} {frames : List (List Item)}

/-- What has been heard of the two lines. -/
def Bus.ear (bus : Bus κ) : Ear := bus.heard.foldl Ear.hear Ear.silent

/-- A write to a pin is heard. -/
theorem react_ear (slave : Slave κ) (bus : Bus κ) :
    (bus.react slave).ear = bus.ear.hear ((bus.react slave).levels slave) := by
  simp only [Bus.ear, Bus.react, List.foldl_append]
  rfl

/-- A transfer has begun, and the clock is low. -/
structure Within (slave : Slave κ) (bus : Bus κ) (bits : List Bool) (frames : List (List Item)) :
    Prop where
  low : bus.scl = false
  ear : bus.ear = ⟨bus.levels slave, some bits, frames⟩

/-- No transfer has begun, and the lines are high unless the clock is low. -/
structure Idle (slave : Slave κ) (bus : Bus κ) (frames : List (List Item)) : Prop where
  lines : bus.scl = true → bus.bOut = true ∧ bus.sda = true
  ear : bus.ear = ⟨bus.levels slave, none, frames⟩

/-! ## Pins -/

/-- While the clock is low, the lines may change. -/
theorem react_low (slave : Slave κ) (bus : Bus κ) {begun : Option (List Bool)}
    (low : bus.scl = false) (ear : bus.ear = ⟨last, begun, frames⟩) :
    (bus.react slave).ear = ⟨(bus.react slave).levels slave, begun, frames⟩ := by
  have levels : (bus.react slave).levels slave =
      ⟨false, ((bus.react slave).levels slave).sda⟩ := by
    rw [← low]
    rfl
  rw [react_ear, ear, levels, Ear.hear_low]

/-- The data line, driven to a level. -/
theorem Within.drive (within : Within slave bus bits frames) (level : Bool) :
    Within slave (setSda slave level bus) bits frames where
  low := within.low
  ear := react_low slave { bus with sda := level } within.low within.ear

/-- The direction of the data pin. -/
theorem Within.turn (within : Within slave bus bits frames) (bOut : Bool) :
    Within slave (setDir slave bOut bus) bits frames where
  low := within.low
  ear := react_low slave { bus with bOut := bOut } within.low within.ear

/-- The clock, held low. -/
theorem Within.hold (within : Within slave bus bits frames) :
    Within slave (setScl slave false bus) bits frames where
  low := rfl
  ear := react_low slave { bus with scl := false } rfl within.ear

/-- While the master drives both lines, they are at the levels it drives. -/
theorem levels_driven (slave : Slave κ) (clock : bus.scl = true) (out : bus.bOut = true) :
    bus.levels slave = ⟨true, bus.sda⟩ := by
  simp only [Bus.levels, Bus.driven, clock, out, if_true, Option.getD_some]

/-- Both lines are high. -/
theorem levels_high (slave : Slave κ) (clock : bus.scl = true) (out : bus.bOut = true)
    (level : bus.sda = true) : bus.levels slave = ⟨true, true⟩ := by
  rw [levels_driven slave clock out, level]

/-- They stay as they are. -/
theorem react_same (slave : Slave κ) (bus : Bus κ) {begun : Option (List Bool)}
    (clock : bus.scl = true) (out : bus.bOut = true) (level : bus.sda = true)
    (ear : bus.ear = ⟨⟨true, true⟩, begun, frames⟩) :
    (bus.react slave).ear = ⟨⟨true, true⟩, begun, frames⟩ := by
  have levels : (bus.react slave).levels slave = ⟨true, true⟩ := levels_high slave clock out level
  rw [react_ear, ear, levels]
  exact Ear.hear_same _ rfl

/-- When the clock rises, whoever listens takes a bit. -/
theorem setScl_rises (bus : Bus κ) {begun : Option (List Bool)} (low : bus.scl = false)
    (ear : bus.ear = ⟨bus.levels slave, begun, frames⟩) :
    (setScl slave true bus).ear = ⟨(setScl slave true bus).levels slave,
      begun.map (· ++ [sdaRead slave (setScl slave true bus)]), frames⟩ := by
  have heard := react_ear slave { bus with scl := true }
  have before : ({ bus with scl := true } : Bus κ).ear = ⟨bus.levels slave, begun, frames⟩ := ear
  rw [before] at heard
  exact heard.trans (Ear.hear_rise _ low _)

/-- A cycle of the clock takes a bit. -/
theorem Within.clock (within : Within slave bus bits frames) :
    Within slave (setScl slave false (setScl slave true bus))
      (bits ++ [sdaRead slave (setScl slave true bus)]) frames where
  low := rfl
  ear := react_low slave { setScl slave true bus with scl := false } rfl
    (setScl_rises bus within.low within.ear)

/-- A level that the master drives is read back. -/
theorem sdaRead_driven (slave : Slave κ) (bus : Bus κ) (out : bus.bOut = true) :
    sdaRead slave (setScl slave true bus) = bus.sda := by
  simp only [sdaRead, setScl, Bus.react, Bus.levels, Bus.driven, out, if_true, Option.getD_some]

/-! ## Beginnings and ends -/

/-- The data line is driven while the clock is high. -/
theorem setSda_ear {begun : Option (List Bool)} (clock : bus.scl = true) (out : bus.bOut = true)
    (ear : bus.ear = ⟨bus.levels slave, begun, frames⟩) (level : Bool) :
    (setSda slave level bus).ear = Ear.hear ⟨⟨true, bus.sda⟩, begun, frames⟩ ⟨true, level⟩ := by
  have now : (setSda slave level bus).levels slave = ⟨true, level⟩ :=
    levels_driven slave (show (setSda slave level bus).scl = true from clock) out
  have heard := react_ear slave { bus with sda := level }
  rw [levels_driven slave clock out] at ear
  rw [show ({ bus with sda := level } : Bus κ).ear = _ from ear] at heard
  exact heard.trans (congrArg (Ear.hear _) now)

/-- A transfer begins when the data line falls. -/
theorem setSda_starts {begun : Option (List Bool)} (clock : bus.scl = true)
    (out : bus.bOut = true) (level : bus.sda = true)
    (ear : bus.ear = ⟨bus.levels slave, begun, frames⟩) :
    Within slave (setScl slave false (setSda slave false bus)) []
      (frames ++ (begun.map itemsOf).toList) := by
  have fallen := setSda_ear clock out ear false
  rw [level, Ear.hear_start _ rfl] at fallen
  constructor
  · rfl
  · exact react_low slave { setSda slave false bus with scl := false } rfl fallen

/-- It ends when the data line rises. -/
theorem setSda_stops {begun : Option (List Bool)} (clock : bus.scl = true)
    (out : bus.bOut = true) (level : bus.sda = false)
    (ear : bus.ear = ⟨bus.levels slave, begun, frames⟩) :
    Idle slave (setSda slave true bus) (frames ++ (begun.map itemsOf).toList) := by
  have risen := setSda_ear clock out ear true
  rw [level, Ear.hear_stop _ rfl] at risen
  constructor
  · exact fun _ => ⟨out, rfl⟩
  · have now : (setSda slave true bus).levels slave = ⟨true, true⟩ := by
      apply levels_driven
      · exact clock
      · exact out
    rw [now]
    exact risen

/-- `i2c_start` begins a transfer when there is none. -/
theorem i2cStart_idle (idle : Idle slave bus frames) :
    Within slave (i2cStart slave bus) [] frames := by
  have risen : (setScl slave true (setSda slave true (setDir slave true bus))).ear =
      ⟨(setScl slave true (setSda slave true (setDir slave true bus))).levels slave, none,
        frames⟩ := by
    cases clock : bus.scl with
    | false =>
      -- after a reset: the data line may move, and the clock rises outside a transfer
      have turned := react_low slave { bus with bOut := true } clock idle.ear
      have driven := react_low slave { setDir slave true bus with sda := true } clock turned
      exact setScl_rises (setSda slave true (setDir slave true bus)) clock driven
    | true =>
      -- behind a stop: both lines are high already, and none of the writes moves them
      obtain ⟨out, level⟩ := idle.lines clock
      have before := levels_high slave clock out level
      have ear : bus.ear = ⟨⟨true, true⟩, none, frames⟩ := by
        rw [← before]
        exact idle.ear
      have turned := react_same slave { bus with bOut := true } clock rfl level ear
      have driven := react_same slave { setDir slave true bus with sda := true } clock rfl
        rfl turned
      have high := react_same slave
        { setSda slave true (setDir slave true bus) with scl := true } rfl rfl rfl driven
      rw [levels_high slave rfl rfl rfl]
      exact high
  have began := setSda_starts rfl rfl rfl risen
  rwa [Option.map_none, Option.toList_none, List.append_nil] at began

/-- Within one it begins another; the bit on the way is part of no byte. -/
theorem i2cStart_within (within : Within slave bus bits frames) :
    Within slave (i2cStart slave bus) [] (frames ++ [itemsOf (bits ++ [true])]) := by
  have driven := (within.turn true).drive true
  have out : (setSda slave true (setDir slave true bus)).bOut = true := rfl
  have risen := setScl_rises _ driven.low driven.ear
  rw [sdaRead_driven slave _ out] at risen
  exact setSda_starts rfl rfl rfl risen

/-- `i2c_stop` ends it. -/
theorem i2cStop_within (within : Within slave bus bits frames) :
    Idle slave (i2cStop slave bus) (frames ++ [itemsOf (bits ++ [false])]) := by
  have driven := (within.turn true).drive false
  have out : (setSda slave false (setDir slave true bus)).bOut = true := rfl
  have risen := setScl_rises _ driven.low driven.ear
  rw [sdaRead_driven slave _ out] at risen
  exact setSda_stops rfl rfl rfl risen

/-! ## Bytes -/

/-- A transfer has begun and carried these bytes. -/
abbrev Carried (slave : Slave κ) (bus : Bus κ) (items : List Item) (frames : List (List Item)) :
    Prop := Within slave bus (items.flatMap itemBits) frames

/-- The loop of `i2c_write` sends the bits under the mask. -/
theorem i2cWriteLoop_within (within : Within slave bus bits frames) (out : bus.bOut = true)
    (data : UInt8) (left : Nat) (mask : UInt8) :
    Within slave (i2cWriteLoop slave data left mask bus) (bits ++ maskBits data left mask)
      frames := by
  induction left generalizing bus bits mask with
  | zero => simpa only [i2cWriteLoop, maskBits, List.append_nil] using within
  | succ left ih =>
    have driven := (within.hold.drive (data &&& mask != 0)).clock
    rw [sdaRead_driven slave (setSda slave _ (setScl slave false bus)) out] at driven
    have rest := ih driven out (mask >>> 1)
    rwa [List.append_assoc] at rest

/-- `i2c_write` sends a byte, and reports whether it was acknowledged. -/
theorem i2cWrite_carried (carried : Carried slave bus items frames) (data : UInt8) :
    Carried slave (i2cWrite slave data bus).2 (items ++ [(data, (i2cWrite slave data bus).1)])
      frames := by
  have sent := i2cWriteLoop_within (carried.turn true) rfl data 8 0x80
  have acked := (sent.turn false).clock
  rw [maskBits_eq] at acked
  simp only [Carried, List.flatMap_append, List.flatMap_cons, List.flatMap_nil, List.append_nil,
    itemBits, ← List.append_assoc, i2cWrite, Bool.not_not]
  exact acked

/-- The loop of `i2c_read` takes what bits there are. -/
theorem i2cReadLoop_within (within : Within slave bus bits frames) (left : Nat) (data : UInt8) :
    ∃ taken : List Bool, taken.length = left ∧
      (i2cReadLoop slave left data bus).1 =
        taken.foldl (fun value : UInt8 => fun bit => (value <<< 1) ||| if bit then 1 else 0) data ∧
      Within slave (i2cReadLoop slave left data bus).2 (bits ++ taken) frames := by
  induction left generalizing bus bits data with
  | zero => exact ⟨[], rfl, rfl, by rwa [List.append_nil]⟩
  | succ left ih =>
    have next := within.clock
    obtain ⟨taken, length, value, rest⟩ := ih next
      (if sdaRead slave (setScl slave true bus) then (data <<< 1) ||| 1 else data <<< 1)
    refine ⟨sdaRead slave (setScl slave true bus) :: taken, ?_, ?_, ?_⟩
    · rw [List.length_cons, length]
    · rw [List.foldl_cons, i2cReadLoop, value]
      cases sdaRead slave (setScl slave true bus) with
      | true => rfl
      | false => simp
    · rwa [List.append_assoc] at rest

/-- `i2c_read` reports the byte there is, and acknowledges it as it is told to. -/
theorem i2cRead_carried (carried : Carried slave bus items frames) (bAck : Bool) :
    Carried slave (i2cRead slave bAck bus).2 (items ++ [((i2cRead slave bAck bus).1, bAck)])
      frames := by
  obtain ⟨taken, eight, value, within⟩ := i2cReadLoop_within (carried.turn false).hold 8 0
  -- the last write pulls the data line down again, for whatever comes next
  have answered := ((within.hold.turn true).drive (!bAck)).clock.drive false
  rw [sdaRead_driven slave (setSda slave (!bAck) (setDir slave true _)) rfl] at answered
  have byte : byteBits (i2cRead slave bAck bus).1 = taken := by
    rw [← byteBits_byteOf eight]
    exact congrArg byteBits value
  simp only [Carried, List.flatMap_append, List.flatMap_cons, List.flatMap_nil, List.append_nil,
    itemBits, ← List.append_assoc, byte]
  exact answered

/-- A byte that is sent only after successes. -/
theorem writeIf_carries {bytes : List UInt8} {frame : List Item} {bSuccess : Bool}
    (carries : Carries bytes frame bSuccess) (carried : Carried slave bus frame frames)
    (data : UInt8) :
    ∃ longer, Carries (bytes ++ [data]) longer (writeIf slave bSuccess data bus).1 ∧
      Carried slave (writeIf slave bSuccess data bus).2 longer frames := by
  cases bSuccess with
  | true => exact ⟨_, carries.snoc data _, i2cWrite_carried carried data⟩
  | false => exact ⟨frame, carries.unsent data, carried⟩

/-- A transfer that has carried bytes ends. -/
theorem Within.stopped (carried : Carried slave bus items frames) :
    Idle slave (i2cStop slave bus) (frames ++ [items]) := by
  have stopped := i2cStop_within carried
  rwa [itemsOf_items] at stopped

/-- Another begins behind it. -/
theorem Within.restarted (carried : Carried slave bus items frames) :
    Carried slave (i2cStart slave bus) [] (frames ++ [items]) := by
  have restarted := i2cStart_within carried
  rwa [itemsOf_items] at restarted

/-- Two bytes at the beginning of a transfer. -/
theorem i2cStart_carries (idle : Idle slave bus frames) (deviceAddr controlAddr : UInt8) :
    let device := i2cWrite slave deviceAddr (i2cStart slave bus)
    let control := writeIf slave device.1 controlAddr device.2
    ∃ frame, Carries [deviceAddr, controlAddr] frame control.1 ∧
      Carried slave control.2 frame frames := by
  have began : Carried slave (i2cStart slave bus) [] frames := i2cStart_idle idle
  have device := i2cWrite_carried began deviceAddr
  have first := Carries.whole.snoc deviceAddr (i2cWrite slave deviceAddr (i2cStart slave bus)).1
  exact writeIf_carries first device controlAddr

/-- `I2C_Write` puts one transfer on the wires: it carries the three bytes up to the first that is
not acknowledged, and the program is told whether all of them were. -/
theorem i2c_Write_carries (idle : Idle slave bus frames)
    (deviceAddr controlAddr controlData : UInt8) :
    ∃ frame, Carries [deviceAddr, controlAddr, controlData] frame
        (I2C_Write slave deviceAddr controlAddr controlData bus).1 ∧
      Idle slave (I2C_Write slave deviceAddr controlAddr controlData bus).2
        (frames ++ [frame]) := by
  obtain ⟨_, carries, carried⟩ := i2cStart_carries idle deviceAddr controlAddr
  obtain ⟨frame, carries, carried⟩ := writeIf_carries carries carried controlData
  exact ⟨frame, carries, carried.stopped⟩

/-- The pins after a reset are idle. -/
theorem powerUp_idle : Idle counter powerUp [] where
  lines := nofun
  ear := rfl

/-- Three bytes to the slave that acknowledges all of them. -/
theorem i2c_Write_carries_counter :
    (I2C_Write counter 0x34 0x04 0x5B powerUp).1 = true ∧
      ∃ frame, Carries [0x34, 0x04, 0x5B] frame (I2C_Write counter 0x34 0x04 0x5B powerUp).1 ∧
        Idle counter (I2C_Write counter 0x34 0x04 0x5B powerUp).2 ([] ++ [frame]) :=
  ⟨by decide +kernel, i2c_Write_carries powerUp_idle 0x34 0x04 0x5B⟩

/-- The loop of `I2C_MultipleRead` reads as many bytes as it is told to. -/
theorem multipleReadLoop_length (slave : Slave κ) (len : Nat) (bus : Bus κ) :
    (multipleReadLoop slave len bus).1.length = len := by
  induction len generalizing bus with
  | zero => rfl
  | succ len ih => exact congrArg (· + 1) (ih _)

/-- It reports the bytes there are, and acknowledges all but the last. -/
theorem multipleReadLoop_carried (carried : Carried slave bus items frames) (len : Nat) :
    Carried slave (multipleReadLoop slave len bus).2
      (items ++ answered (multipleReadLoop slave len bus).1) frames := by
  induction len generalizing bus items with
  | zero => rwa [multipleReadLoop, answered, List.append_nil]
  | succ len ih =>
    have rest := ih (i2cRead_carried carried (len != 0))
    rw [List.append_assoc] at rest
    simp only [multipleReadLoop, answered, multipleReadLoop_length]
    exact rest

/-- The transfer of a read: the device is addressed again and sends its bytes, once it has been
told what to read. -/
def Replies {α : Type} (deviceAddr : UInt8) (sent : α → List Item) :
    Bool → Option α → List Item → Prop
  | true, some value, frame => frame = (deviceAddr ||| 1, true) :: sent value
  | true, none, frame => frame = [(deviceAddr ||| 1, false)]
  | false, some _, _ => False
  | false, none, frame => frame = []

/-- What is read back is what the transfer carries behind the address. -/
theorem readBack_replies {α : Type} {read : Bus κ → α × Bus κ} (sent : α → List Item)
    (carried : Carried slave bus [] frames) (bSuccess : Bool) (deviceAddr : UInt8)
    (reads : ∀ {bus : Bus κ} {items : List Item}, Carried slave bus items frames →
      Carried slave (read bus).2 (items ++ sent (read bus).1) frames) :
    ∃ frame, Replies deviceAddr sent bSuccess
        (readBack slave bSuccess deviceAddr read bus).1 frame ∧
      Idle slave (readBack slave bSuccess deviceAddr read bus).2 (frames ++ [frame]) := by
  cases bSuccess with
  | false => exact ⟨[], rfl, carried.stopped⟩
  | true =>
    have addressed := i2cWrite_carried carried (deviceAddr ||| 1)
    simp only [readBack, writeIf, if_true]
    generalize i2cWrite slave (deviceAddr ||| 1) bus = device at addressed ⊢
    cases acked : device.1 with
    | false =>
      rw [acked] at addressed
      exact ⟨_, rfl, addressed.stopped⟩
    | true =>
      rw [acked] at addressed
      exact ⟨_, rfl, (reads addressed).stopped⟩

/-- What is reported has been read. -/
theorem readBack_some {α : Type} {read : Bus κ → α × Bus κ} {bSuccess : Bool} {deviceAddr : UInt8}
    {value : α} (reported : (readBack slave bSuccess deviceAddr read bus).1 = some value) :
    ∃ before, (read before).1 = value := by
  simp only [readBack] at reported
  split at reported
  · exact ⟨_, Option.some.inj reported⟩
  · contradiction

/-- `I2C_Read` puts two transfers on the wires: the second carries the byte it reports, which is
not acknowledged, and is empty unless all of the first was acknowledged. -/
theorem i2c_Read_replies (idle : Idle slave bus frames) (deviceAddr controlAddr : UInt8) :
    ∃ asked whole again, Carries [deviceAddr, controlAddr] asked whole ∧
      Replies deviceAddr (fun byte => [(byte, false)]) whole
        (I2C_Read slave deviceAddr controlAddr bus).1 again ∧
      Idle slave (I2C_Read slave deviceAddr controlAddr bus).2 (frames ++ [asked, again]) := by
  obtain ⟨asked, carries, carried⟩ := i2cStart_carries idle deviceAddr controlAddr
  obtain ⟨again, replies, ended⟩ := readBack_replies (fun byte => [(byte, false)])
    carried.restarted _ deviceAddr fun carried => i2cRead_carried carried false
  rw [List.append_assoc] at ended
  exact ⟨asked, _, again, carries, replies, ended⟩

/-- `I2C_MultipleRead` addresses the device again only if all of the first transfer was
acknowledged; then it reports as many bytes as it is asked for, those that the second one carries,
and acknowledges all but the last. -/
theorem i2c_MultipleRead_replies (idle : Idle slave bus frames) (deviceAddr : UInt8) (len : Nat) :
    ∃ asked whole again, Carries [deviceAddr, 0] asked whole ∧
      Replies deviceAddr answered whole (I2C_MultipleRead slave deviceAddr len bus).1 again ∧
      (∀ bytes, (I2C_MultipleRead slave deviceAddr len bus).1 = some bytes → bytes.length = len) ∧
      Idle slave (I2C_MultipleRead slave deviceAddr len bus).2
        (frames ++ if whole then [asked, again] else [asked]) := by
  obtain ⟨asked, carries, carried⟩ := i2cStart_carries idle deviceAddr 0
  simp only [I2C_MultipleRead]
  generalize writeIf slave _ 0 _ = control at carries carried ⊢
  cases whole : control.1 with
  | false => exact ⟨asked, false, [], whole ▸ carries, rfl, nofun, carried.stopped⟩
  | true =>
    obtain ⟨again, replies, ended⟩ := readBack_replies answered carried.restarted true deviceAddr
      fun carried => multipleReadLoop_carried carried len
    rw [List.append_assoc] at ended
    refine ⟨asked, true, again, whole ▸ carries, replies, ?_, ended⟩
    intro bytes read
    obtain ⟨before, value⟩ := readBack_some read
    rw [← value, multipleReadLoop_length]

/-- Two bytes from a slave that sends none: its line stays high. -/
theorem i2c_MultipleRead_replies_counter :
    (I2C_MultipleRead counter 0x34 2 powerUp).1 = some [0xFF, 0xFF] ∧
      ∃ asked whole again, Carries [0x34, 0] asked whole ∧
        Replies 0x34 answered whole (I2C_MultipleRead counter 0x34 2 powerUp).1 again ∧
        (∀ bytes, (I2C_MultipleRead counter 0x34 2 powerUp).1 = some bytes → bytes.length = 2) ∧
        Idle counter (I2C_MultipleRead counter 0x34 2 powerUp).2
          ([] ++ if whole then [asked, again] else [asked]) :=
  ⟨by decide +kernel, i2c_MultipleRead_replies powerUp_idle 0x34 2⟩

end SoundBoard.Audio
