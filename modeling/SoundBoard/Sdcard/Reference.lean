import SoundBoard.Sdcard.Receiver

/-!
# A card that keeps to the protocol

The other party of the protocol: the states of a card from idle to transfer, and the responses and
blocks that it puts on the lines. What a card may choose is a parameter: its registers, its
address, how often it is busy, how long it takes to answer, and its contents.
-/

namespace SoundBoard.Sdcard

open SoundBoard.Lib

/-! ## The card -/

/-- The states of a card. -/
inductive Phase where
  | idle
  | ready
  | ident
  | stby
  | tran
  deriving DecidableEq, Repr

/-- The number of a state in a status. -/
def Phase.code : Phase → UInt8
  | .idle => 0
  | .ready => 1
  | .ident => 2
  | .stby => 3
  | .tran => 4

/-- What a card may choose. -/
structure Profile where
  /-- Whether it answers `CMD8`. -/
  version2 : Bool
  highCapacity : Bool
  /-- The voltages in its operating conditions. -/
  voltages : UInt32
  rca : UInt16
  cid : List UInt8
  csd : List UInt8
  /-- How many times it is still busy after a reset. -/
  busy : Nat
  /-- Clocks between a command and its response. -/
  delay : UInt8 → UInt32 → Nat
  /-- Clocks between the response of a read and its block. -/
  access : UInt32 → Nat
  /-- The checksums behind a block. -/
  checksums : Bytes → List UInt8
  image : Nat → Bytes

/-- What a card remembers between commands. -/
structure Memory where
  phase : Phase
  /-- Whether the next command is an application command. -/
  app : Bool
  polls : Nat
  wide : Bool
  deriving DecidableEq, Repr

/-- A card after a reset. -/
def Memory.reset : Memory := ⟨.idle, false, 0, false⟩

/-- What a card does with a command. -/
structure Reply where
  memory : Memory
  response : Option (List UInt8)
  block : Option Bytes

/-- A response with a checksum at its end. -/
def checkedFrame (bytes : List UInt8) : List UInt8 := bytes ++ [crcAndEnd bytes]

/-- A response with a register. -/
def registerFrame (register : List UInt8) : List UInt8 := 0x3F :: checkedFrame register

/-- A command that is not legal is not answered. -/
def Memory.illegal (memory : Memory) : Reply := ⟨{ memory with app := false }, none, none⟩

/-- The status of a card that is ready for data. -/
def Memory.status (memory : Memory) : UInt32 :=
  sdBitReadyForData ||| sdCurrentStateEncode memory.phase.code

/-- A reply with a status, and what is remembered after it. -/
def Memory.answer (memory : Memory) (index : UInt8) (status : UInt32) : Reply :=
  ⟨{ memory with app := false }, some (statusFrame index status), none⟩

/-- The conditions that a card reports to `ACMD41`. -/
def Profile.conditions (profile : Profile) (ready : Bool) : UInt32 :=
  (profile.voltages &&& 0x00FFFFFF) |||
    (if ready then 0x80000000 else 0) |||
    (if ready && profile.highCapacity then 0x40000000 else 0)

/-- Whether a card accepts the conditions of a host: a card of high capacity asks for a host
that supports it, and some voltage has to be common. -/
def Profile.agrees (profile : Profile) (arg : UInt32) : Bool :=
  (!profile.highCapacity || arg &&& 0x40000000 != 0) &&
    arg &&& profile.voltages &&& 0x00FFFFFF != 0

/-- Whether a command addresses the card. -/
def Profile.addressed (profile : Profile) (arg : UInt32) : Bool :=
  (arg >>> 16).toUInt16 = profile.rca

/-- The block that an address names. -/
def Profile.blockAt (profile : Profile) (arg : UInt32) : Bytes :=
  profile.image (if profile.highCapacity then arg.toNat else arg.toNat / 512)

/-- The application commands. -/
def Profile.appCommand (profile : Profile) (memory : Memory) (index : UInt8) (arg : UInt32) :
    Reply :=
  if index = 41 ∧ memory.phase = .idle ∧ profile.agrees arg then
    let ready := decide (profile.busy ≤ memory.polls)
    let conditions := profile.conditions ready
    let next := { memory with
      phase := if ready then .ready else .idle, app := false, polls := memory.polls + 1 }
    ⟨next, some [0x3F, argByte conditions 3, argByte conditions 2, argByte conditions 1,
      argByte conditions 0, 0xFF], none⟩
  else if index = 6 ∧ memory.phase = .tran then
    Memory.answer { memory with wide := arg = 2 } 6 (sdBitAppCmd ||| memory.status)
  else if index = 42 ∧ memory.phase = .tran then
    memory.answer 42 (sdBitAppCmd ||| memory.status)
  else memory.illegal

/-- The commands. -/
def Profile.command (profile : Profile) (memory : Memory) (index : UInt8) (arg : UInt32) : Reply :=
  if index = 0 then ⟨.reset, none, none⟩
  else if memory.app then profile.appCommand memory index arg
  else if index = 8 ∧ memory.phase = .idle ∧ profile.version2 then
    ⟨memory, some (checkedFrame [8, 0, 0, argByte arg 1 &&& 0x0F, argByte arg 0]), none⟩
  else if index = 55 ∧ (memory.phase = .idle ∨ profile.addressed arg) then
    ⟨{ memory with app := true }, some (statusFrame 55 (sdBitAppCmd ||| memory.status)), none⟩
  else if index = 2 ∧ memory.phase = .ready then
    ⟨{ memory with phase := .ident }, some (registerFrame profile.cid), none⟩
  else if index = 3 ∧ memory.phase = .ident then
    ⟨{ memory with phase := .stby }, some (checkedFrame [3, (profile.rca >>> 8).toUInt8,
      profile.rca.toUInt8, argByte memory.status 1, argByte memory.status 0]), none⟩
  else if index = 9 ∧ memory.phase = .stby ∧ profile.addressed arg then
    ⟨memory, some (registerFrame profile.csd), none⟩
  else if index = 10 ∧ memory.phase = .stby ∧ profile.addressed arg then
    ⟨memory, some (registerFrame profile.cid), none⟩
  else if index = 7 ∧ memory.phase = .stby ∧ profile.addressed arg then
    Memory.answer { memory with phase := .tran } 7 memory.status
  else if index = 16 ∧ memory.phase = .tran then memory.answer 16 memory.status
  else if index = 17 ∧ memory.phase = .tran ∧ memory.wide then
    ⟨memory, some (statusFrame 17 memory.status), some (profile.blockAt arg)⟩
  else memory.illegal

/-! ## The lines -/

/-- A card on the bus: what it remembers, the bits it has heard of the next command, and the
levels that it puts on its lines after the next falling edges, from the present ones on. -/
structure CardState where
  memory : Memory
  rx : List Bool
  cmdWave : Nat → Bool
  datWave : Nat → UInt8

/-- The levels of a line that shows some values after a delay and is idle otherwise. -/
def waveOf {α : Type} (idle : α) (delay : Nat) (levels : List α) (n : Nat) : α :=
  if n ≤ delay then idle else levels.getD (n - 1 - delay) idle

/-- The nibbles of a byte, the high one first. -/
def nibbles (byte : UInt8) : List UInt8 := [byte >>> 4, byte &&& 0x0F]

/-- The nibbles of a block, behind the start bits and before the checksums and the end bits. -/
def blockLevels (profile : Profile) (block : Bytes) : List UInt8 :=
  0 :: (slice block 0 512).flatMap nibbles ++ profile.checksums block ++ [0x0F]

/-- A complete frame is executed if it can be decoded. -/
def Profile.execute (profile : Profile) (k : CardState) (frame : List Bool) : CardState :=
  match decodeFrame frame with
  | none => { k with rx := [] }
  | some (index, arg) =>
    let reply := profile.command k.memory index arg
    let levels := bitsOf (reply.response.getD [])
    let delay := profile.delay index arg
    { memory := reply.memory
      rx := []
      cmdWave := waveOf true delay levels
      datWave := match reply.block with
        | none => k.datWave
        | some block => waveOf 0x0F (delay + levels.length + profile.access arg)
          (blockLevels profile block) }

/-- The card: its lines change at falling edges, and it listens at rising edges. -/
def Profile.card (profile : Profile) : Card CardState where
  fall k _ := { k with
    cmdWave := fun n => k.cmdWave (n + 1), datWave := fun n => k.datWave (n + 1) }
  rise k lines :=
    let heard := hear k.rx (lines.cmd.getD true)
    match heard.2 with
    | none => { k with rx := heard.1 }
    | some frame => profile.execute k frame
  cmd k := k.cmdWave 0
  dat k := k.datWave 0

/-! ## The line while a command is heard -/

variable {profile : Profile} {bus : Bus CardState}

/-- The levels move on by some falling edges. -/
def CardState.later (k : CardState) (n : Nat) : CardState :=
  { k with cmdWave := fun i => k.cmdWave (i + n), datWave := fun i => k.datWave (i + n) }

/-- A bit reaches the card at a rising edge. -/
def Profile.hearBit (profile : Profile) (k : CardState) (bit : Bool) : CardState :=
  match (hear k.rx bit).2 with
  | none => { k with rx := (hear k.rx bit).1 }
  | some frame => profile.execute k frame

/-- One clock moves the levels on, and the card hears the level of the command line. -/
theorem clock_card (profile : Profile) (high : bus.clk = true) :
    clock profile.card bus = { bus with
      card := profile.hearBit (bus.card.later 1) (bus.lines.cmd.getD true) } := by
  simp only [clock, clkLow, clkHigh, high, if_true]
  rfl

/-- So does a bit that is sent. -/
theorem sendBit_card (profile : Profile) (bit : Bool) (high : bus.clk = true)
    (driving : bus.cmdOut = true) :
    sendBit profile.card bit bus = { bus with
      cmd := bit, card := profile.hearBit (bus.card.later 1) bit } := by
  simp only [sendBit, clkLow, clkHigh, high, if_true, Bool.false_eq_true, if_false]
  simp only [Bus.lines, driving, if_true]
  rfl

/-- Inside a frame, bits are only collected. -/
theorem hearBit_inside (profile : Profile) (k : CardState) (bit : Bool) (begun : k.rx ≠ [])
    (room : k.rx.length + 1 < 48) :
    profile.hearBit k bit = { k with rx := k.rx ++ [bit] } := by
  have notIdle : ¬(k.rx = [] ∧ bit = true) := fun idle => begun idle.1
  have notFull : ¬(k.rx ++ [bit]).length = 48 := by
    rw [List.length_append, List.length_singleton]
    omega
  simp only [Profile.hearBit, hear, if_neg notIdle, if_neg notFull]

/-- The last bit of a frame has it executed. -/
theorem hearBit_last (profile : Profile) (k : CardState) (bit : Bool)
    (full : k.rx.length + 1 = 48) : profile.hearBit k bit = profile.execute k (k.rx ++ [bit]) := by
  have notIdle : ¬(k.rx = [] ∧ bit = true) := by
    rintro ⟨empty, -⟩
    rw [empty] at full
    contradiction
  have whole : (k.rx ++ [bit]).length = 48 := by
    rw [List.length_append, List.length_singleton, full]
  simp only [Profile.hearBit, hear, if_neg notIdle, if_pos whole]

/-- A start bit is collected. -/
theorem hearBit_start (profile : Profile) (k : CardState) (quiet : k.rx = []) :
    profile.hearBit k false = { k with rx := [false] } := by
  simp [Profile.hearBit, hear, quiet]

/-- An idle level is not. -/
theorem hearBit_idle (profile : Profile) (k : CardState) (quiet : k.rx = []) :
    profile.hearBit k true = k := by
  cases k
  simp only at quiet
  subst quiet
  rfl

/-- Bits that do not complete a frame. -/
theorem sendBits_inside (profile : Profile) (bits : List Bool) (bus : Bus CardState)
    (high : bus.clk = true) (driving : bus.cmdOut = true) (begun : bus.card.rx ≠ [])
    (room : bus.card.rx.length + bits.length < 48) :
    ∃ cmd, sendBits profile.card bits bus = { bus with
      cmd, card := { bus.card.later bits.length with rx := bus.card.rx ++ bits } } := by
  induction bits generalizing bus with
  | nil => exact ⟨bus.cmd, by simp [CardState.later]⟩
  | cons bit bits ih =>
    rw [List.length_cons] at room
    have step : sendBit profile.card bit bus = { bus with
        cmd := bit, card := { bus.card.later 1 with rx := bus.card.rx ++ [bit] } } := by
      rw [sendBit_card profile bit high driving,
        hearBit_inside profile (bus.card.later 1) bit begun (by
          have same : (bus.card.later 1).rx = bus.card.rx := rfl
          rw [same]
          omega)]
      rfl
    obtain ⟨cmd, rest⟩ := ih (sendBit profile.card bit bus) (by rw [step]; exact high)
      (by rw [step]; exact driving) (by rw [step]; simp) (by
        rw [step]
        simp only [List.length_append, List.length_singleton]
        omega)
    refine ⟨cmd, ?_⟩
    rw [sendBits_cons, rest, step]
    simp [CardState.later, Nat.add_assoc]

/-- What a card has heard of a frame does not matter once it is executed. -/
theorem execute_rx (profile : Profile) (k : CardState) (rx frame : List Bool) :
    profile.execute { k with rx } frame = profile.execute k frame := by
  unfold Profile.execute
  cases decodeFrame frame <;> rfl

/-- A whole frame is executed by a card that was quiet. -/
theorem sendBits_frame (profile : Profile) (middle : List Bool) (last : Bool) (bus : Bus CardState)
    (high : bus.clk = true) (driving : bus.cmdOut = true) (quiet : bus.card.rx = [])
    (length : middle.length = 46) :
    ∃ cmd, sendBits profile.card (false :: middle ++ [last]) bus = { bus with
      cmd, card := profile.execute (bus.card.later 48) (false :: middle ++ [last]) } := by
  have first : sendBit profile.card false bus = { bus with
      cmd := false, card := { bus.card.later 1 with rx := [false] } } := by
    rw [sendBit_card profile false high driving, hearBit_start profile (bus.card.later 1) quiet]
  obtain ⟨cmd, inside⟩ := sendBits_inside profile middle (sendBit profile.card false bus)
    (by rw [first]; exact high) (by rw [first]; exact driving) (by rw [first]; simp) (by
      rw [first, length]
      exact Nat.lt_add_one 47)
  rw [first] at inside
  refine ⟨last, ?_⟩
  rw [List.cons_append, sendBits_cons, sendBits_append, sendBits_cons, sendBits_nil, first, inside,
    sendBit_card, hearBit_last]
  · rw [← execute_rx profile (bus.card.later 48) (false :: middle)]
    simp [CardState.later, length, Nat.add_assoc]
  · simp [CardState.later, length]
  · exact high
  · exact driving

/-! ## Exchanges -/

/-- Between commands: the clock is high, nothing of a command has been heard, and the command
line is idle. -/
structure Quiet (bus : Bus CardState) : Prop where
  clk : bus.clk = true
  rx : bus.card.rx = []
  cmd : bus.card.cmdWave = fun _ => true

/-- A packet is executed. -/
theorem sdhalSendCmd_card (profile : Profile) {cmd : UInt8} (small : cmd < 64)
    (a1 a2 a3 a4 : UInt8) (quiet : Quiet bus) :
    ∃ level, sdhalSendCmd profile.card (packet cmd a1 a2 a3 a4) bus = { bus with
      cmdOut := true, cmd := level
      card := profile.execute (bus.card.later 48) (bitsOf (packet cmd a1 a2 a3 a4)) } := by
  obtain ⟨middle, length, bits⟩ := bitsOf_packet small a1 a2 a3 a4
  obtain ⟨level, sent⟩ := sendBits_frame profile middle true { bus with cmdOut := true }
    quiet.clk rfl quiet.rx length
  refine ⟨level, ?_⟩
  rw [sdhalSendCmd_eq, bits]
  exact sent

/-- What a card becomes when it executes a packet. -/
theorem execute_packet (profile : Profile) {cmd : UInt8} (small : cmd < 64) (a1 a2 a3 a4 : UInt8)
    (k : CardState) :
    let arg := wordOf a1 a2 a3 a4
    let reply := profile.command k.memory cmd arg
    let levels := bitsOf (reply.response.getD [])
    profile.execute k (bitsOf (packet cmd a1 a2 a3 a4)) =
      { memory := reply.memory
        rx := []
        cmdWave := waveOf true (profile.delay cmd arg) levels
        datWave := match reply.block with
          | none => k.datWave
          | some block => waveOf 0x0F (profile.delay cmd arg + levels.length + profile.access arg)
            (blockLevels profile block) } := by
  simp only [Profile.execute, decodeFrame_packet small]

/-- While the command line is idle or input, clocks only move the levels on. -/
theorem dummyClock_card (profile : Profile) (n : Nat) (bus : Bus CardState) (high : bus.clk = true)
    (quiet : bus.card.rx = []) (level : bus.lines.cmd.getD true = true) :
    sdhalDummyClock profile.card n bus = { bus with card := bus.card.later n } := by
  induction n generalizing bus with
  | zero => rfl
  | succ n ih =>
    have step : clock profile.card bus = { bus with card := bus.card.later 1 } := by
      rw [clock_card profile high, level, hearBit_idle profile (bus.card.later 1) quiet]
    rw [sdhalDummyClock, ih]
    · rw [step]
      simp [CardState.later, Nat.add_assoc]
    · rw [step]
      exact high
    · rw [step]
      exact quiet
    · rw [step]
      exact level

/-- What the host sees on the command line while it listens. -/
theorem seen_card (profile : Profile) (k : Nat) (high : bus.clk = true)
    (quiet : bus.card.rx = []) :
    seen profile.card bus.listening k = bus.card.cmdWave (k + 1) := by
  have moved := dummyClock_card profile (k + 1) bus.listening high quiet rfl
  rw [seen, moved]
  show bus.card.cmdWave (0 + (k + 1)) = _
  rw [Nat.zero_add]

/-- What it sees on the data lines. -/
theorem seenDat_card (profile : Profile) (k : Nat) (high : bus.clk = true)
    (quiet : bus.card.rx = []) (level : bus.lines.cmd.getD true = true) :
    seenDat profile.card bus.receiving k = bus.card.datWave (k + 1) &&& 0x0F := by
  have moved := dummyClock_card profile (k + 1) bus.receiving high quiet level
  rw [seenDat, moved]
  show bus.card.datWave (0 + (k + 1)) &&& 0x0F = _
  rw [Nat.zero_add]

/-- Before its delay is over, a wave is idle. -/
theorem waveOf_before {α : Type} (idle : α) {delay k : Nat} (levels : List α) (early : k < delay) :
    waveOf idle delay levels (k + 1) = idle := if_pos early

/-- Behind its delay, it shows its levels. -/
theorem waveOf_behind {α : Type} (idle : α) (delay k : Nat) (levels : List α) :
    waveOf idle delay levels (delay + k + 1) = levels.getD k idle := by
  have behind : ¬delay + k + 1 ≤ delay := by omega
  have place : delay + k + 1 - 1 - delay = k := by omega
  rw [waveOf, if_neg behind, place]

/-- Eight levels of the bits of some bytes are a byte. -/
theorem byteOf_levels (bytes : List UInt8) (j : Nat) (inside : j < bytes.length) :
    byteOf ((List.range 8).map fun i => (bitsOf bytes).getD (8 * j + i) true) = bytes[j] := by
  have window : (List.range 8).map (fun i => (bitsOf bytes).getD (8 * j + i) true) =
      ((bitsOf bytes).drop (8 * j)).take 8 := by
    apply List.ext_getElem
    · simp only [List.length_map, List.length_range, List.length_take, List.length_drop,
        bitsOf_length]
      omega
    · intro i low low'
      have here : 8 * j + i < (bitsOf bytes).length := by
        rw [bitsOf_length]
        simp only [List.length_map, List.length_range] at low
        omega
      simp only [List.getElem_map, List.getElem_range, List.getElem_take, List.getElem_drop]
      rw [List.getD_eq_getElem?_getD, List.getElem?_eq_getElem here, Option.getD_some]
  rw [window, bitsOf_window bytes j inside, byteOf_byteBits]

/-- A response that a card gives in time is what the host reads. -/
theorem exchange_card (profile : Profile) {cmd : UInt8} (small : cmd < 64) (a1 a2 a3 a4 : UInt8)
    (quiet : Quiet bus) {bytes : List UInt8} {rest : List Bool}
    (inTime : profile.delay cmd (wordOf a1 a2 a3 a4) < maxCnt + 2)
    (answered : (profile.command bus.card.memory cmd (wordOf a1 a2 a3 a4)).response = some bytes)
    (start : bitsOf bytes = false :: false :: rest) :
    ∃ szResponse level, exchange profile.card (packet cmd a1 a2 a3 a4) bytes.length bus =
        (some szResponse, { bus with
          cmdOut := false, cmd := level
          card := (profile.execute (bus.card.later 48) (bitsOf (packet cmd a1 a2 a3 a4))).later
            (profile.delay cmd (wordOf a1 a2 a3 a4) + 8 * bytes.length + 8) }) ∧
      slice szResponse 0 bytes.length = bytes := by
  obtain ⟨level, sent⟩ := sdhalSendCmd_card profile small a1 a2 a3 a4 quiet
  have executed := execute_packet profile small a1 a2 a3 a4 (bus.card.later 48)
  have memory : (bus.card.later 48).memory = bus.card.memory := rfl
  simp only [memory, answered, Option.getD_some] at executed
  generalize profile.delay cmd (wordOf a1 a2 a3 a4) = delay at inTime executed ⊢
  obtain ⟨bus1, bus1Eq⟩ : ∃ bus1, bus1 = sdhalSendCmd profile.card (packet cmd a1 a2 a3 a4) bus :=
    ⟨_, rfl⟩
  rw [← bus1Eq] at sent
  have card1 : bus1.card = profile.execute (bus.card.later 48) (bitsOf (packet cmd a1 a2 a3 a4)) :=
    congrArg Bus.card sent
  have high1 : bus1.clk = true := (congrArg Bus.clk sent).trans quiet.clk
  have quiet1 : bus1.card.rx = [] := by rw [card1, executed]
  have shows : ∀ k, seen profile.card bus1.listening k = waveOf true delay (bitsOf bytes) (k + 1) := by
    intro k
    rw [seen_card profile k high1 quiet1, card1, executed]
  have level0 : seen profile.card bus1.listening delay = false := by
    have first := waveOf_behind true delay 0 (bitsOf bytes)
    rw [shows, first, start]
    rfl
  have level1 : seen profile.card bus1.listening (delay + 1) = false := by
    rw [shows, waveOf_behind true delay 1 (bitsOf bytes), start]
    rfl
  have begins : BeginsAt profile.card bus1 delay :=
    ⟨fun k early => by rw [shows, waveOf_before true _ early], level0, level1⟩
  have some : 0 < bytes.length := by
    cases bytes with
    | nil => contradiction
    | cons _ _ => exact Nat.succ_pos _
  refine ⟨response profile.card bus1 delay bytes.length, level, ?_, ?_⟩
  · rw [exchange, ← bus1Eq, sdhalGetResponse_found some begins inTime,
      dummyClock_card profile _ bus1.listening high1 quiet1 rfl]
    have after : bus1.listening.card = bus1.card := rfl
    rw [after, card1]
    have pins : bus1.listening = { bus with
        cmdOut := false, cmd := level
        card := profile.execute (bus.card.later 48) (bitsOf (packet cmd a1 a2 a3 a4)) } := by
      rw [sent]
      rfl
    rw [pins]
  · apply List.ext_getElem
    · simp
    · intro j inside inside'
      have byte : ∀ i, seen profile.card bus1.listening (delay + 8 * j + i) =
          (bitsOf bytes).getD (8 * j + i) true := by
        intro i
        rw [shows, Nat.add_assoc delay, waveOf_behind]
      simp only [slice, List.getElem_map, List.getElem_range, Nat.zero_add, response]
      rw [copyAt_inside _ 0 _ _ _ (Nat.zero_le j) (by omega), Nat.sub_zero, seenByte]
      simp only [byte]
      exact byteOf_levels bytes j inside'

end SoundBoard.Sdcard
