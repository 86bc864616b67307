import SoundBoard.Sdcard.Wire

/-!
# The commands of an initialisation

A recorder on the command line keeps what the host drives there at the rising edges of the
clock. Whatever the card answers, `SDLIB_Init` puts an initial part of one session of commands
on the line, and it succeeds only when the session is complete. But for the number of its passes
the session depends on two of the card's answers: that to `CMD8`, which may be refused, and the
address in the response to `CMD3`.
-/

namespace SoundBoard.Sdcard

open SoundBoard.Lib

variable {κ α : Type} {card : Card κ} {bus : Bus (κ × List Bool)}

/-- A card with a recorder of what the host drives on the command line. -/
def Card.watched (card : Card κ) : Card (κ × List Bool) where
  fall k lines := (card.fall k.1 lines, k.2)
  rise k lines := (card.rise k.1 lines, k.2 ++ lines.cmd.toList)
  cmd k := card.cmd k.1
  dat k := card.dat k.1

/-- What the recorder has kept. -/
def Bus.wire (bus : Bus (κ × List Bool)) : List Bool := bus.card.2

/-! ## The recorder -/

@[simp] theorem clkLow_wire (card : Card κ) (bus : Bus (κ × List Bool)) :
    (clkLow card.watched bus).wire = bus.wire := by
  unfold clkLow
  split <;> rfl

/-- A rising edge records the level that is driven. -/
theorem clkHigh_wire (card : Card κ) (low : bus.clk = false) :
    (clkHigh card.watched bus).wire = bus.wire ++ (if bus.cmdOut then [bus.cmd] else []) := by
  unfold clkHigh
  rw [low]
  cases out : bus.cmdOut <;> simp [Bus.wire, Card.watched, Bus.lines, out]

/-- Nothing else of the bus depends on what has been recorded. -/
theorem clock_wire (card : Card κ) (bus : Bus (κ × List Bool)) :
    (clock card.watched bus).wire = bus.wire ++ (if bus.cmdOut then [bus.cmd] else []) := by
  rw [clock, clkHigh_wire card (clkLow_clk _ _), clkLow_wire, clkLow_cmdOut, clkLow_cmd]

@[simp] theorem clock_cmdOut (card : Card κ) (bus : Bus κ) :
    (clock card bus).cmdOut = bus.cmdOut := by
  rw [clock, clkHigh_cmdOut, clkLow_cmdOut]

@[simp] theorem clock_cmd (card : Card κ) (bus : Bus κ) : (clock card bus).cmd = bus.cmd := by
  rw [clock, clkHigh_cmd, clkLow_cmd]

/-- While the host listens, clocks record nothing. -/
theorem sdhalDummyClock_quiet (card : Card κ) (n : Nat) (listening : bus.cmdOut = false) :
    (sdhalDummyClock card.watched n bus).wire = bus.wire := by
  induction n generalizing bus with
  | zero => rfl
  | succ n ih =>
    rw [sdhalDummyClock, ih (by rw [clock_cmdOut, listening]), clock_wire, listening]
    simp

/-- While the host drives, they record its level. -/
theorem sdhalDummyClock_driven (card : Card κ) (n : Nat) (driving : bus.cmdOut = true) :
    (sdhalDummyClock card.watched n bus).wire = bus.wire ++ List.replicate n bus.cmd := by
  induction n generalizing bus with
  | zero => simp [sdhalDummyClock]
  | succ n ih =>
    rw [sdhalDummyClock, ih (by rw [clock_cmdOut, driving]), clock_wire, driving, clock_cmd]
    simp [List.replicate_succ]

/-- A bit that is sent is recorded. -/
theorem sendBit_wire (card : Card κ) (bit : Bool) (driving : bus.cmdOut = true) :
    (sendBit card.watched bit bus).wire = bus.wire ++ [bit] := by
  have low : ({ clkLow card.watched bus with cmd := bit } : Bus (κ × List Bool)).clk = false :=
    clkLow_clk _ _
  have direction : (clkLow card.watched bus).cmdOut = true := by rw [clkLow_cmdOut, driving]
  rw [sendBit, clkHigh_wire card low]
  simp only [direction, if_true]
  exact congrArg (· ++ [bit]) (clkLow_wire card bus)

@[simp] theorem sendBit_cmdOut (card : Card κ) (bit : Bool) (bus : Bus κ) :
    (sendBit card bit bus).cmdOut = bus.cmdOut := by
  rw [sendBit, clkHigh_cmdOut]
  exact clkLow_cmdOut card bus

@[simp] theorem sendBit_cmd (card : Card κ) (bit : Bool) (bus : Bus κ) :
    (sendBit card bit bus).cmd = bit := by
  rw [sendBit, clkHigh_cmd]

@[simp] theorem sendBits_cmdOut (card : Card κ) (bits : List Bool) (bus : Bus κ) :
    (sendBits card bits bus).cmdOut = bus.cmdOut := by
  induction bits generalizing bus with
  | nil => rfl
  | cons bit bits ih => rw [sendBits_cons, ih, sendBit_cmdOut]

/-- Bits that are sent are recorded in their order. -/
theorem sendBits_wire (card : Card κ) (bits : List Bool) (driving : bus.cmdOut = true) :
    (sendBits card.watched bits bus).wire = bus.wire ++ bits := by
  induction bits generalizing bus with
  | nil => simp
  | cons bit bits ih =>
    rw [sendBits_cons, ih (by rw [sendBit_cmdOut, driving]), sendBit_wire card bit driving,
      List.append_assoc]
    rfl

/-- A command records its bytes. -/
theorem sdhalSendCmd_wire (card : Card κ) (szCommand : List UInt8) (bus : Bus (κ × List Bool)) :
    (sdhalSendCmd card.watched szCommand bus).wire = bus.wire ++ bitsOf szCommand := by
  rw [sdhalSendCmd_eq, sendBits_wire card _ rfl]
  rfl

/-- A response records nothing. -/
theorem sdhalGetResponse_wire (card : Card κ) {nLen : Nat} (some : 0 < nLen)
    (bus : Bus (κ × List Bool)) :
    (sdhalGetResponse card.watched nLen bus).2.wire = bus.wire := by
  have quiet : ∀ n, (sdhalDummyClock card.watched n bus.listening).wire = bus.wire :=
    fun n => sdhalDummyClock_quiet card n rfl
  rcases first_low (seen card.watched bus.listening) (maxCnt + 2) with high | ⟨m, inTime, high, low⟩
  · rw [sdhalGetResponse_silent nLen high]
    exact quiet _
  · cases second : seen card.watched bus.listening (m + 1) with
    | true =>
      rw [sdhalGetResponse_refused nLen high low second inTime]
      exact quiet _
    | false =>
      rw [sdhalGetResponse_found some ⟨high, low, second⟩ inTime]
      exact quiet _

/-! ## Commands -/

/-- A command, and the number of clocks with the line high behind it. -/
structure Command where
  szCmd : List UInt8
  idle : Nat

/-- A command with a response. -/
def Command.of (szCmd : List UInt8) : Command := ⟨szCmd, 0⟩

/-- `CMD0`. -/
def Command.reset : Command := ⟨packet 0 0 0 0 0, 8⟩

/-- What a command puts on the line. -/
def Command.bits (command : Command) : List Bool :=
  bitsOf command.szCmd ++ List.replicate command.idle true

/-- The line carries some commands from one state of the bus to another. -/
def Carries (bus bus' : Bus (κ × List Bool)) (commands : List Command) : Prop :=
  bus'.wire = bus.wire ++ commands.flatMap Command.bits

/-- Commands follow one another. -/
theorem Carries.trans {bus' bus'' : Bus (κ × List Bool)} {first second : List Command}
    (before : Carries bus bus' first) (after : Carries bus' bus'' second) :
    Carries bus bus'' (first ++ second) := by
  rw [Carries, after, before, List.flatMap_append, List.append_assoc]

/-- An exchange carries its command. -/
theorem exchange_carries (card : Card κ) (szCmd : List UInt8) {nLen : Nat} (some : 0 < nLen)
    (bus : Bus (κ × List Bool)) :
    Carries bus (exchange card.watched szCmd nLen bus).2 [.of szCmd] := by
  rw [Carries, exchange, sdhalGetResponse_wire card some, sdhalSendCmd_wire]
  simp [Command.bits, Command.of]

/-- So does an exchange that is only checked. -/
theorem accept_carries (card : Card κ) (szCmd : List UInt8) (checks : Bytes → Bool)
    (bus : Bus (κ × List Bool)) :
    Carries bus (accept card.watched szCmd 6 checks bus).2 [.of szCmd] :=
  exchange_carries card szCmd (by decide) bus

/-- The level behind a packet is its end bit. -/
theorem sdhalSendCmd_cmd (card : Card κ) (cmd a1 a2 a3 a4 : UInt8) (bus : Bus κ) :
    (sdhalSendCmd card (packet cmd a1 a2 a3 a4) bus).cmd = true := by
  have last : ∀ crc : UInt8, bitsOf [crc <<< 1 ||| 0x01] =
      (byteBits (crc <<< 1 ||| 0x01)).take 7 ++ [true] := by
    have bytes : ∀ i : Fin 256, bitsOf [UInt8.ofNat i <<< 1 ||| 0x01] =
        (byteBits (UInt8.ofNat i <<< 1 ||| 0x01)).take 7 ++ [true] := by decide +kernel
    intro crc
    have value := bytes ⟨crc.toNat, crc.toNat_lt⟩
    rwa [UInt8.ofNat_toNat] at value
  rw [sdhalSendCmd_eq, packet, bitsOf_append, crcAndEnd, last, ← List.append_assoc,
    sendBits_append, sendBits_cons, sendBits_nil, sendBit_cmd]

/-- `SD_CMD0` carries its command and the clocks behind it. -/
theorem sdCmd0_carries (card : Card κ) (bus : Bus (κ × List Bool)) :
    Carries bus (sdCmd0 card.watched bus) [.reset] := by
  have driving : (sdhalSendCmd card.watched (packet 0 0 0 0 0) bus).cmdOut = true := by
    rw [sdhalSendCmd_eq, sendBits_cmdOut]
  rw [Carries, sdCmd0, sdhalDummyClock_driven card 8 driving, sdhalSendCmd_wire, sdhalSendCmd_cmd]
  simp [Command.bits, Command.reset]

/-- The level that `SDHAL_Init` drives while it takes the clock high, if that is an edge. -/
def Bus.leadIn (bus : Bus κ) : List Bool := if bus.clk then [] else [bus.cmd]

/-- `SDHAL_Init` records that level. -/
theorem sdInit_wire (card : Card κ) (bus : Bus (κ × List Bool)) :
    (sdInit card.watched bus).wire = bus.wire ++ bus.leadIn := by
  cases level : bus.clk <;>
    simp [sdInit, sdhalInit, clkHigh, Bus.wire, Bus.leadIn, level, Card.watched, Bus.lines]

/-! ## The session -/

/-- The argument of `SD_ACMD41`, after a `SD_CMD8` that was or was not answered. -/
def hostOCR32Of (version1 : Bool) : UInt32 := if version1 then 0x00040000 else 0x40FF8000

/-- Commands up to the loop. -/
def opening (version1 : Bool) : List Command :=
  [.reset, .of (packet 8 0 0 0x01 0xAA)] ++ if version1 then [.reset] else []

/-- The commands of the loop's passes. -/
def polling (version1 : Bool) (passes : Nat) : List Command :=
  (List.replicate passes
    [Command.of (rcaPacket 55 0), .of (packetAcmd41 (hostOCR32Of version1))]).flatten

/-- Commands behind the loop, to a card of a given address. -/
def closing (rca16 : UInt16) : List Command :=
  [.of (packet 2 0 0 0 0), .of (packet 3 0 0 0 0), .of (rcaPacket 9 rca16),
    .of (rcaPacket 10 rca16), .of (rcaPacket 7 rca16), .of (argPacket 16 512),
    .of (rcaPacket 55 rca16), .of (packet 6 0 0 0 2), .of (rcaPacket 55 rca16),
    .of (packet 42 0 0 0 1)]

/-- A card's answer to the `CMD8` of an initialisation passes its checks. -/
def Card.answersCmd8 (card : Card κ) (bus : Bus κ) : Bool :=
  (sdCmd8 card sdVhs2V73V6 cmd8DefaultTestPattern (sdCmd0 card (sdInit card bus))).1

/-- The address in a card's response to a `CMD3` behind `CMD2`. -/
def Card.address (card : Card κ) (d : Driver κ) : Option UInt16 :=
  (exchange card (packet 3 0 0 0 0) 6 (sdCmd2 card d.gSdInfo.szCID 17 d.bus).2).1.map
    fun szResponse => responseU16 szResponse 1

/-- The address that a card publishes in an initialisation, when its loop has ended. -/
def Card.published (card : Card κ) (env : Surroundings) (fuel : Nat) (bus : Bus κ) :
    Option UInt16 :=
  (acmd41Loop card env (env.nticks 0) fuel 1 (powerOn card bus)).bind fun ready =>
    card.address ready.2

/-- A complete session. -/
def session (version1 : Bool) (passes : Nat) (rca16 : UInt16) : List Command :=
  opening version1 ++ polling version1 passes ++ closing rca16

/-- What is sent from one state of the driver on, and what is known at its end: the commands are
an initial part of a given list, and all of it when the call succeeds. -/
structure Sends (d : Driver (κ × List Bool)) (result : Bool × Driver (κ × List Bool))
    (commands : List Command) (holds : SdInfo → Prop) : Prop where
  carries : ∃ sent, sent <+: commands ∧ Carries d.bus result.2.bus sent ∧
    (result.1 = true → sent = commands)
  info : result.1 = true → holds result.2.gSdInfo

/-- Nothing more to send. -/
theorem Sends.nil (d : Driver (κ × List Bool)) : Sends d (true, d) [] fun info => info = d.gSdInfo where
  carries := ⟨[], List.prefix_rfl, by simp [Carries], fun _ => rfl⟩
  info _ := rfl

/-- A weaker property of the end. -/
theorem Sends.mono {d : Driver (κ × List Bool)} {result : Bool × Driver (κ × List Bool)}
    {commands : List Command} {holds weaker : SdInfo → Prop} (sends : Sends d result commands holds)
    (implies : ∀ info, holds info → weaker info) : Sends d result commands weaker :=
  ⟨sends.carries, fun success => implies _ (sends.info success)⟩

/-- A call that fails behind its first command. -/
theorem Sends.failed {d d' : Driver (κ × List Bool)} {first : Command} (later : List Command)
    (holds : SdInfo → Prop) (sends : Carries d.bus d'.bus [first]) :
    Sends d (false, d') (first :: later) holds where
  carries := ⟨[first], ⟨later, rfl⟩, sends, fun success => absurd success Bool.false_ne_true⟩
  info success := absurd success Bool.false_ne_true

/-- A call that goes on behind its first command. -/
theorem Sends.cons {d d' : Driver (κ × List Bool)} {result : Bool × Driver (κ × List Bool)}
    {first : Command} {later : List Command} {holds : SdInfo → Prop}
    (sends : Carries d.bus d'.bus [first]) (after : Sends d' result later holds) :
    Sends d result (first :: later) holds := by
  obtain ⟨⟨sent, initial, carried, whole⟩, info⟩ := after
  have both : Carries d.bus result.2.bus (first :: sent) := sends.trans carried
  exact ⟨⟨first :: sent, List.cons_prefix_cons.mpr ⟨rfl, initial⟩, both,
    fun success => congrArg (first :: ·) (whole success)⟩, info⟩

section Calls

variable {command : Bus (κ × List Bool) → Bool × Bus (κ × List Bool)}
  {fetched : Bus (κ × List Bool) → Option α × Bus (κ × List Bool)} {store : α → SdInfo → SdInfo}
  {rest : Driver (κ × List Bool) → Bool × Driver (κ × List Bool)} {first : Command}
  {later : List Command} {holds : SdInfo → Prop} {d : Driver (κ × List Bool)}

/-- A command that is attempted comes first. -/
theorem Sends.attempt (sends : Carries d.bus (command d.bus).2 [first])
    (after : ∀ d', d'.gSdInfo = d.gSdInfo → Sends d' (rest d') later holds) :
    Sends d (d.attempt command rest) (first :: later) holds := by
  cases accepted : (command d.bus).1 with
  | true =>
    rw [Driver.attempt_true accepted]
    exact Sends.cons sends (after _ rfl)
  | false =>
    rw [Driver.attempt_false accepted]
    exact Sends.failed later holds sends

/-- So does a command whose result is stored. -/
theorem Sends.fetch_value (sends : Carries d.bus (fetched d.bus).2 [first])
    (after : ∀ value, (fetched d.bus).1 = some value →
      Sends ⟨store value d.gSdInfo, (fetched d.bus).2⟩
        (rest ⟨store value d.gSdInfo, (fetched d.bus).2⟩) later holds) :
    Sends d (d.fetch fetched store rest) (first :: later) holds := by
  cases accepted : (fetched d.bus).1 with
  | some value =>
    rw [Driver.fetch_some accepted]
    exact Sends.cons sends (after value accepted)
  | none =>
    rw [Driver.fetch_none accepted]
    exact Sends.failed later holds sends

/-- Where the later commands do not depend on the result, it need not be known. -/
theorem Sends.fetch (sends : Carries d.bus (fetched d.bus).2 [first])
    (after : ∀ value d', d'.gSdInfo = store value d.gSdInfo → Sends d' (rest d') later holds) :
    Sends d (d.fetch fetched store rest) (first :: later) holds :=
  Sends.fetch_value sends fun value _ => after value _ rfl

end Calls

/-- The commands with results carry their packets too. -/
theorem sdCmd2_carries (card : Card κ) (szCID : List UInt8) (nBufLen : Int)
    (bus : Bus (κ × List Bool)) :
    Carries bus (sdCmd2 card.watched szCID nBufLen bus).2 [.of (packet 2 0 0 0 0)] :=
  exchange_carries card _ (by decide) bus

theorem sdCmd3_carries (card : Card κ) (bus : Bus (κ × List Bool)) :
    Carries bus (sdCmd3 card.watched bus).2 [.of (packet 3 0 0 0 0)] :=
  exchange_carries card _ (by decide) bus

theorem sdCmd9_carries (card : Card κ) (nCopyLen : Int) (rca16 : UInt16) (szCSD : List UInt8)
    (bus : Bus (κ × List Bool)) :
    Carries bus (sdCmd9 card.watched nCopyLen rca16 szCSD bus).2 [.of (rcaPacket 9 rca16)] :=
  exchange_carries card _ (by decide) bus

theorem sdCmd10_carries (card : Card κ) (nCopyLen : Int) (rca16 : UInt16) (szCID : List UInt8)
    (bus : Bus (κ × List Bool)) :
    Carries bus (sdCmd10 card.watched nCopyLen rca16 szCID bus).2 [.of (rcaPacket 10 rca16)] :=
  exchange_carries card _ (by decide) bus

theorem sdAcmd41_carries (card : Card κ) (hostOCR32 : UInt32) (bus : Bus (κ × List Bool)) :
    Carries bus (sdAcmd41 card.watched hostOCR32 bus).2 [.of (packetAcmd41 hostOCR32)] :=
  exchange_carries card _ (by decide) bus

/-- `SDLIB_Init` while it widens the bus. -/
theorem widen_sends (card : Card κ) (d : Driver (κ × List Bool))
    (four : d.gSdInfo.bSupport4Bits = true) :
    Sends d (widen card.watched d) ((closing d.gSdInfo.rca16).drop 6)
      (fun info => info.rca16 = d.gSdInfo.rca16) := by
  unfold widen
  rw [if_pos four]
  apply Sends.attempt (accept_carries card _ _ _)
  intro d1 info1
  apply Sends.attempt (accept_carries card _ _ _)
  intro d2 info2
  rw [← info1, ← info2]
  apply Sends.attempt (accept_carries card _ _ _)
  intro d3 info3
  apply Sends.attempt (accept_carries card _ _ _)
  intro d4 info4
  rw [← info3, ← info4]
  exact (Sends.nil d4).mono fun info same => congrArg SdInfo.rca16 same

/-- `SDLIB_Init` from stand-by on. -/
theorem transfer_sends (card : Card κ) (env : Surroundings) (d : Driver (κ × List Bool))
    (four : d.gSdInfo.bSupport4Bits = true) :
    Sends d (transfer card.watched env d) ((closing d.gSdInfo.rca16).drop 2)
      (fun info => info.rca16 = d.gSdInfo.rca16) := by
  unfold transfer
  apply Sends.fetch (sdCmd9_carries card _ _ _ _)
  intro szCSD d1 info1
  have rca1 : d1.gSdInfo.rca16 = d.gSdInfo.rca16 := by rw [info1]
  have four1 : d1.gSdInfo.bSupport4Bits = true := by rw [info1, four]
  rw [← rca1]
  apply Sends.fetch (sdCmd10_carries card _ _ _ _)
  intro _ d2 info2
  rw [← info2]
  apply Sends.attempt (accept_carries card _ _ _)
  intro d3 info3
  apply Sends.attempt (accept_carries card _ _ _)
  intro d4 info4
  rw [← info3, ← info4]
  exact widen_sends card d4 (by rw [info4, info3, info2, four1])

/-- What `SD_CMD3` returns is the address in the card's response. -/
theorem sdCmd3_address {bus : Bus κ} {rca16 : UInt16} (named : (sdCmd3 card bus).1 = some rca16) :
    (exchange card (packet 3 0 0 0 0) 6 bus).1.map (fun szResponse => responseU16 szResponse 1) =
      some rca16 := by
  simp only [sdCmd3, Option.map_eq_some_iff, Option.filter_eq_some_iff] at named
  obtain ⟨szResponse, ⟨read, -⟩, word⟩ := named
  rw [read, Option.map_some, word]

/-- `SDLIB_Init` from the identification on: the later commands carry the address in the card's
response to `CMD3`. -/
theorem identify_sends (card : Card κ) (env : Surroundings) (d : Driver (κ × List Bool))
    (four : d.gSdInfo.bSupport4Bits = true) :
    Sends d (identify card.watched env d) (closing ((card.watched.address d).getD 0))
      (fun info => card.watched.address d = some info.rca16) := by
  unfold identify
  apply Sends.fetch_value (sdCmd2_carries card _ _ _)
  intro szCID identified
  apply Sends.fetch_value (sdCmd3_carries card _)
  intro rca16 named
  have answered : card.watched.address d = some rca16 := sdCmd3_address named
  have sends := transfer_sends card env ⟨{ d.gSdInfo with szCID, rca16 },
    (sdCmd3 card.watched (sdCmd2 card.watched d.gSdInfo.szCID 17 d.bus).2).2⟩ four
  rw [answered]
  exact sends.mono fun info same => congrArg some same.symm

/-- One pass more. -/
theorem polling_succ (version1 : Bool) (passes : Nat) :
    polling version1 (passes + 1) = [Command.of (rcaPacket 55 0),
      .of (packetAcmd41 (hostOCR32Of version1))] ++ polling version1 passes := by
  simp [polling, List.replicate_succ]

/-- The loop sends whole passes, the last of which may break off behind its first command; it
ends with success, without leaving the passes, or it fails. -/
structure Polls (version1 : Bool) (d : Driver (κ × List Bool))
    (result : Bool × Driver (κ × List Bool)) : Prop where
  carries : ∃ passes sent, sent <+: polling version1 passes ∧ Carries d.bus result.2.bus sent ∧
    (result.1 = true → 0 < passes ∧ sent = polling version1 passes)
  four : result.2.gSdInfo.bSupport4Bits = d.gSdInfo.bSupport4Bits

/-- A loop that goes on behind a pass. -/
theorem Polls.cons {version1 : Bool} {d d' : Driver (κ × List Bool)}
    {result : Bool × Driver (κ × List Bool)} (after : Polls version1 d' result)
    (sends : Carries d.bus d'.bus [.of (rcaPacket 55 0), .of (packetAcmd41 (hostOCR32Of version1))])
    (same : d'.gSdInfo = d.gSdInfo) : Polls version1 d result := by
  obtain ⟨⟨passes, sent, initial, carried, whole⟩, four⟩ := after
  refine ⟨⟨passes + 1, _, ?_, sends.trans carried, fun success => ?_⟩, by rw [four, same]⟩
  · rw [polling_succ]
    exact List.prefix_append_right_inj _ |>.mpr initial
  · rw [polling_succ, (whole success).2]
    exact ⟨Nat.succ_pos _, rfl⟩

/-- The loop, by induction on its fuel. -/
theorem acmd41Loop_polls (card : Card κ) (env : Surroundings) (timeStart : UInt32)
    (version1 : Bool) {fuel reading : Nat} {d : Driver (κ × List Bool)}
    {result : Bool × Driver (κ × List Bool)} (host : d.gSdInfo.hostOCR32 = hostOCR32Of version1)
    (address : d.gSdInfo.rca16 = 0)
    (run : acmd41Loop card.watched env timeStart fuel reading d = some result) :
    Polls version1 d result := by
  induction fuel generalizing reading d with
  | zero => contradiction
  | succ fuel ih =>
    have first := accept_carries card (rcaPacket 55 0) (statusChecks 55 (appStatus sdStateIdle)) d.bus
    have second := sdAcmd41_carries card (hostOCR32Of version1)
      (sdCmd55 card.watched 0 sdStateIdle d.bus).2
    have both := first.trans second
    simp only [acmd41Loop, host, address] at run
    split at run
    · rename_i app
      split at run
      · rename_i ocr32 ready
        obtain rfl := Option.some.inj run
        refine ⟨⟨1, _, ?_, both, fun _ => ⟨Nat.one_pos, ?_⟩⟩, rfl⟩
        · exact List.prefix_rfl
        · rfl
      · rename_i busy
        split at run
        · obtain rfl := Option.some.inj run
          refine ⟨⟨1, _, ?_, both, fun success => absurd success Bool.false_ne_true⟩, rfl⟩
          exact List.prefix_rfl
        · have after : Polls version1 { d with bus := (sdAcmd41 card.watched
              (hostOCR32Of version1) (sdCmd55 card.watched 0 sdStateIdle d.bus).2).2 } result :=
            ih host address run
          exact after.cons both rfl
    · obtain rfl := Option.some.inj run
      refine ⟨⟨1, _, ?_, first, fun success => absurd success Bool.false_ne_true⟩, rfl⟩
      exact ⟨_, rfl⟩

/-- The commands before the loop, and what is known then. -/
theorem powerOn_carries (card : Card κ) (bus : Bus (κ × List Bool)) :
    (powerOn card.watched bus).bus.wire = bus.wire ++ bus.leadIn ++
        (opening (!card.watched.answersCmd8 bus)).flatMap Command.bits ∧
      (powerOn card.watched bus).gSdInfo.hostOCR32 =
        hostOCR32Of (!card.watched.answersCmd8 bus) ∧
      (powerOn card.watched bus).gSdInfo.rca16 = 0 ∧
      (powerOn card.watched bus).gSdInfo.bSupport4Bits = true := by
  have lead := sdInit_wire card bus
  have reset := sdCmd0_carries card (sdInit card.watched bus)
  have version := accept_carries card (packet 8 0 0 0x01 0xAA)
    (checksCmd8 sdVhs2V73V6 cmd8DefaultTestPattern) (sdCmd0 card.watched (sdInit card.watched bus))
  have both := reset.trans version
  cases answered : card.watched.answersCmd8 bus with
  | true =>
    rw [Card.answersCmd8] at answered
    constructor
    · simp only [powerOn, answered, if_true]
      rw [← lead]
      exact both
    · simp only [powerOn, answered, if_true]
      exact ⟨rfl, rfl, rfl⟩
  | false =>
    rw [Card.answersCmd8] at answered
    have again := both.trans (sdCmd0_carries card (sdCmd8 card.watched sdVhs2V73V6
      cmd8DefaultTestPattern (sdCmd0 card.watched (sdInit card.watched bus))).2)
    constructor
    · simp only [powerOn, answered, if_false, Bool.false_eq_true]
      rw [← lead]
      exact again
    · simp only [powerOn, answered, if_false, Bool.false_eq_true]
      exact ⟨rfl, rfl, rfl⟩

/-- Whatever the card does, `SDLIB_Init` puts an initial part of a session on the command line,
with no other bit before, between or behind the commands than the lead-in. The session is the one
of the card's answer to `CMD8` and of the address that the card has published. When the call
succeeds the session is complete, and at least one pass was made. -/
theorem sdlibInit_session (card : Card κ) (env : Surroundings) {fuel : Nat}
    {bus : Bus (κ × List Bool)} {result : Bool × Driver (κ × List Bool)}
    (run : sdlibInit card.watched env fuel bus = some result) :
    ∃ passes sent, opening (!card.watched.answersCmd8 bus) <+: sent ∧
      sent <+: session (!card.watched.answersCmd8 bus) passes
        ((card.watched.published env fuel bus).getD 0) ∧
      result.2.bus.wire = bus.wire ++ bus.leadIn ++ sent.flatMap Command.bits ∧
      (result.1 = true → sent = session (!card.watched.answersCmd8 bus) passes
          ((card.watched.published env fuel bus).getD 0) ∧ 0 < passes ∧
        card.watched.published env fuel bus = some result.2.gSdInfo.rca16) := by
  obtain ⟨opened, host, address, four⟩ := powerOn_carries card bus
  obtain ⟨ready, loop, rest⟩ := Option.map_eq_some_iff.mp run
  have published : card.watched.published env fuel bus = card.watched.address ready.2 := by
    rw [Card.published, loop]
    rfl
  obtain ⟨⟨passes, polled, initial, carried, whole⟩, width⟩ :=
    acmd41Loop_polls card env _ _ host address loop
  rw [published]
  generalize card.watched.answersCmd8 bus = answered at opened whole initial ⊢
  by_cases success : ready.1 = true
  · rw [if_pos success] at rest
    obtain ⟨some, all⟩ := whole success
    obtain ⟨⟨sent, closes, closed, complete⟩, info⟩ :=
      identify_sends card env ready.2 (width.trans four)
    rw [rest] at closed complete info
    refine ⟨passes, opening (!answered) ++ polled ++ sent, ?_, ?_, ?_, fun success => ?_⟩
    · rw [List.append_assoc]
      exact List.prefix_append _ _
    · rw [all, session]
      exact List.prefix_append_right_inj _ |>.mpr closes
    · rw [closed, carried, opened]
      simp only [List.flatMap_append, List.append_assoc]
    · rw [all, complete success, session]
      exact ⟨rfl, some, info success⟩
  · rw [if_neg success] at rest
    subst rest
    refine ⟨passes, opening (!answered) ++ polled, List.prefix_append _ _, ?_, ?_,
      fun done => absurd done success⟩
    · rw [session, List.append_assoc]
      exact List.prefix_append_right_inj _ |>.mpr (initial.trans (List.prefix_append _ _))
    · rw [carried, opened]
      simp only [List.flatMap_append, List.append_assoc]

end SoundBoard.Sdcard
