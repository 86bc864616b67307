import SoundBoard.Fat.Types
import SoundBoard.Sdcard.Blocks
import SoundBoard.Sdcard.Conforming

/-!
# The card as a block device

A whole initialisation of a card that keeps to the protocol, and the reads behind it. For the
file system the driver is then a device that holds the card's sectors, whatever was read before.
-/

namespace SoundBoard.Sdcard

open SoundBoard.Lib

variable {κ : Type} {profile : Profile} {bus : Bus CardState} {memory : Memory}

/-! ## The loop -/

/-- What a card remembers after `ACMD41`. -/
def Profile.polled (profile : Profile) (polls : Nat) (wide : Bool) : Memory :=
  ⟨if profile.busy ≤ polls then .ready else .idle, false, polls + 1, wide⟩

/-- `ACMD41` is answered with the conditions of the card. -/
theorem command_41 (polls : Nat) (wide : Bool) {arg : UInt32}
    (agrees : profile.agrees arg = true) :
    profile.command ⟨.idle, true, polls, wide⟩ 41 arg =
      ⟨profile.polled polls wide,
        some [0x3F, argByte (profile.conditions (profile.busy ≤ polls)) 3,
          argByte (profile.conditions (profile.busy ≤ polls)) 2,
          argByte (profile.conditions (profile.busy ≤ polls)) 1,
          argByte (profile.conditions (profile.busy ≤ polls)) 0, 0xFF], none⟩ := by
  by_cases ready : profile.busy ≤ polls <;>
    simp [Profile.command, Profile.appCommand, Profile.polled, agrees, ready]

/-- `ACMD41` succeeds as soon as the card is no longer busy. -/
theorem sdAcmd41_idle (conforms : profile.Conforms) {polls : Nat} {wide : Bool}
    (here : At bus ⟨.idle, true, polls, wide⟩) :
    ∃ bus', sdAcmd41 profile.card (hostOCR32Of (!profile.version2)) bus =
        (if profile.busy ≤ polls then some (profile.conditions true) else none, bus') ∧
      At bus' (profile.polled polls wide) := by
  obtain ⟨conditions, conditionsEq⟩ :
    ∃ c, c = profile.conditions (profile.busy ≤ polls) := ⟨_, rfl⟩
  have agrees : profile.agrees (wordOf (argByte (hostOCR32Of (!profile.version2)) 3 &&& 0x40)
      (argByte (hostOCR32Of (!profile.version2)) 2) (argByte (hostOCR32Of (!profile.version2)) 1)
      (argByte (hostOCR32Of (!profile.version2)) 0)) = true := by
    rw [wordOf_hostOCR32]
    exact conforms.window
  have reply := command_41 polls wide agrees
  rw [← conditionsEq] at reply
  obtain ⟨rest, start⟩ := start_of_head (show (0x3F : UInt8) < 64 by decide)
    [argByte conditions 3, argByte conditions 2, argByte conditions 1, argByte conditions 0, 0xFF]
  obtain ⟨szResponse, bus', exchanged, read, after, -, -⟩ :=
    exchange_answered conforms (by decide) _ _ _ _ here (congrArg Reply.response reply) start
  rw [reply] at after
  refine ⟨bus', ?_, after⟩
  have parts : slice szResponse 0 6 =
      [szResponse 0] ++ (slice szResponse 1 4 ++ [szResponse 5]) := rfl
  have six : [0x3F, argByte conditions 3, argByte conditions 2, argByte conditions 1,
    argByte conditions 0, 0xFF].length = 6 := rfl
  rw [six] at exchanged read
  rw [parts, List.singleton_append, List.cons.injEq] at read
  obtain ⟨head, rest⟩ := read
  have halves : slice szResponse 1 4 ++ [szResponse 5] = [argByte conditions 3,
    argByte conditions 2, argByte conditions 1, argByte conditions 0] ++ [0xFF] := rest
  obtain ⟨word, last⟩ := List.append_inj halves rfl
  have ocr32 : arrayToU32 szResponse 1 = conditions := arrayToU32_iff.mpr word
  have checked : checksAcmd41 szResponse = decide (profile.busy ≤ polls) := by
    have ready := conditions_ready profile (profile.busy ≤ polls)
    rw [← conditionsEq, decide_eq_true_eq] at ready
    rw [checksAcmd41, ocr32, head, (List.cons.inj last).1]
    simp only [ready, true_and, and_true]
  have sent : exchange profile.card (packetAcmd41 (hostOCR32Of (!profile.version2))) 6 bus =
      (some szResponse, bus') := exchanged
  simp only [sdAcmd41, sent, Option.filter_some, checked]
  by_cases ready : profile.busy ≤ polls
  · have whole : conditions = profile.conditions true := by rw [conditionsEq, decide_eq_true ready]
    simp only [ready, decide_true, if_true, Option.map_some, ocr32, whole]
  · simp only [ready, decide_false, Bool.false_eq_true, if_false, Option.map_none]

/-- What the loop needs of `gSdInfo`. -/
structure Opened (profile : Profile) (info : SdInfo) : Prop where
  hostOCR32 : info.hostOCR32 = hostOCR32Of (!profile.version2)
  bSDHC : info.bSDHC = profile.version2
  rca16 : info.rca16 = 0
  bSupport4Bits : info.bSupport4Bits = true

/-- What is known behind it. -/
structure Polled (profile : Profile) (d : Driver CardState) : Prop where
  here : ∃ polls wide, At d.bus ⟨.ready, false, polls, wide⟩
  bSDHC : d.gSdInfo.bSDHC = profile.highCapacity
  bSupport4Bits : d.gSdInfo.bSupport4Bits = true

/-- The loop, by induction on its fuel: it ends with success when the card is no longer busy, if
the clock lets it go on until then. -/
theorem acmd41Loop_card (conforms : profile.Conforms) (env : Surroundings) (timeStart : UInt32)
    (fuel reading : Nat) {polls : Nat} {wide : Bool} {d : Driver CardState}
    (opened : Opened profile d.gSdInfo) (here : At d.bus ⟨.idle, false, polls, wide⟩)
    (enough : profile.busy < polls + fuel) (some : 0 < fuel)
    (patient : ∀ n, reading ≤ n → n < reading + (profile.busy - polls) →
      env.nticks n - timeStart ≤ env.ticksPerSecond) :
    ∃ d', acmd41Loop profile.card env timeStart fuel reading d = Option.some (true, d') ∧
      Polled profile d' := by
  induction fuel generalizing reading polls d with
  | zero => exact absurd some (Nat.lt_irrefl 0)
  | succ fuel ih =>
    obtain ⟨bus1, app, expecting⟩ := sdCmd55_idle conforms here
    obtain ⟨bus2, answered, after⟩ := sdAcmd41_idle conforms expecting
    simp only [acmd41Loop, opened.rca16, opened.hostOCR32, app, if_true, answered]
    by_cases ready : profile.busy ≤ polls
    · have capacity : (d.gSdInfo.bSDHC && profile.conditions true &&& 0x40000000 != 0) =
          profile.highCapacity := by
        rw [opened.bSDHC, conditions_capacity]
        cases high : profile.highCapacity with
        | false => rw [Bool.and_false]
        | true => rw [conforms.capacity high, Bool.and_true]
      have memory : profile.polled polls wide = ⟨.ready, false, polls + 1, wide⟩ := by
        rw [Profile.polled, if_pos ready]
      rw [memory] at after
      rw [if_pos ready]
      exact ⟨_, rfl, ⟨_, _, after⟩, capacity, opened.bSupport4Bits⟩
    · have memory : profile.polled polls wide = ⟨.idle, false, polls + 1, wide⟩ := by
        rw [Profile.polled, if_neg ready]
      rw [memory] at after
      have inTime : ¬env.nticks reading - timeStart > env.ticksPerSecond :=
        UInt32.not_lt.mpr (patient reading (Nat.le_refl _) (by omega))
      rw [if_neg ready]
      simp only [inTime, if_false]
      exact ih (reading + 1) (d := { d with bus := bus2 }) opened after (by omega) (by omega)
        fun n low high => patient n (by omega) (by omega)

/-! ## The initialisation -/

/-- A card that is in its transfer state, with the bus four bits wide on both sides, and a driver
that knows how it is addressed. -/
structure Attached (profile : Profile) (d : Driver CardState) : Prop where
  here : ∃ polls, At d.bus ⟨.tran, false, polls, true⟩
  bSDHC : d.gSdInfo.bSDHC = profile.highCapacity

/-- The bus becomes four bits wide. -/
theorem widen_card (conforms : profile.Conforms) {polls : Nat} {wide : Bool}
    {d : Driver CardState} (here : At d.bus ⟨.tran, false, polls, wide⟩)
    (four : d.gSdInfo.bSupport4Bits = true) (address : d.gSdInfo.rca16 = profile.rca)
    (bSDHC : d.gSdInfo.bSDHC = profile.highCapacity) :
    ∃ d', widen profile.card d = (true, d') ∧ Attached profile d' := by
  obtain ⟨bus1, first, here1⟩ := sdCmd55_tran conforms here
  obtain ⟨bus2, second, here2⟩ := sdAcmd6_tran conforms here1
  obtain ⟨bus3, third, here3⟩ := sdCmd55_tran conforms here2
  obtain ⟨bus4, fourth, here4⟩ := sdAcmd42_tran conforms here3
  refine ⟨{ d with bus := bus4 }, ?_, ⟨⟨polls, here4⟩, bSDHC⟩⟩
  simp only [widen, four, if_true, Driver.attempt, address, first, second, third, fourth]

/-- From stand-by to transfer. -/
theorem transfer_card (conforms : profile.Conforms) (env : Surroundings) {polls : Nat}
    {wide : Bool} {d : Driver CardState} (here : At d.bus ⟨.stby, false, polls, wide⟩)
    (four : d.gSdInfo.bSupport4Bits = true) (address : d.gSdInfo.rca16 = profile.rca)
    (bSDHC : d.gSdInfo.bSDHC = profile.highCapacity) :
    ∃ d', transfer profile.card env d = (true, d') ∧ Attached profile d' := by
  obtain ⟨csd, bus1, first, here1⟩ := sdCmd9_stby conforms env.csdCopyLen d.gSdInfo.szCSD here
  obtain ⟨cid, bus2, second, here2⟩ := sdCmd10_stby conforms env.cidCopyLen env.szThisCID here1
  obtain ⟨bus3, third, here3⟩ := sdCmd7_stby conforms here2
  obtain ⟨bus4, fourth, here4⟩ := sdCmd16_tran conforms here3
  obtain ⟨d', widened, attached⟩ := widen_card conforms
    (d := ⟨{ d.gSdInfo with szCSD := csd }, bus4⟩) here4 four address bSDHC
  refine ⟨d', ?_, attached⟩
  simp only [transfer, Driver.fetch, Driver.attempt, address, first, second, third, fourth, if_true]
  rw [← address]
  exact widened

/-- From ready to transfer. -/
theorem identify_card (conforms : profile.Conforms) (env : Surroundings) {d : Driver CardState}
    (polled : Polled profile d) :
    ∃ d', identify profile.card env d = (true, d') ∧ Attached profile d' := by
  obtain ⟨⟨polls, wide, here⟩, bSDHC, four⟩ := polled
  obtain ⟨cid, bus1, first, here1⟩ := sdCmd2_ready conforms d.gSdInfo.szCID 17 here
  obtain ⟨bus2, second, here2⟩ := sdCmd3_ident conforms here1
  obtain ⟨d', transferred, attached⟩ := transfer_card conforms env
    (d := ⟨{ d.gSdInfo with szCID := cid, rca16 := profile.rca }, bus2⟩) here2 four rfl bSDHC
  refine ⟨d', ?_, attached⟩
  simp only [identify, Driver.fetch, first, second]
  exact transferred

/-- `SDLIB_Init` brings a card that keeps to the protocol into its transfer state, if it is not
busy for longer than the driver waits. -/
theorem sdlibInit_card (conforms : profile.Conforms) (env : Surroundings)
    (attachable : Attachable bus) {fuel : Nat} (enough : profile.busy < fuel)
    (patient : ∀ n, 1 ≤ n → n ≤ profile.busy →
      env.nticks n - env.nticks 0 ≤ env.ticksPerSecond) :
    ∃ d, sdlibInit profile.card env fuel bus = some (true, d) ∧ Attached profile d := by
  obtain ⟨here, host, capacity, address, four⟩ := powerOn_card conforms attachable
  obtain ⟨ready, looped, polled⟩ := acmd41Loop_card conforms env (env.nticks 0) fuel 1
    ⟨host, capacity, address, four⟩ here (by omega) (by omega)
    fun n low high => patient n low (by omega)
  obtain ⟨d, identified, attached⟩ := identify_card conforms env polled
  refine ⟨d, ?_, attached⟩
  simp only [sdlibInit, looped, Option.map_some, if_true, identified]

/-! ## Reads -/

/-- A block that the card puts on the data lines is what the host reads. -/
theorem sdReadData_card (profile : Profile) (szBuf : Bytes) {delay : Nat} {bytes : Bytes}
    (here : At bus memory) (input : bus.cmdOut = false) (inTime : delay < maxTryData + 2)
    (wave : bus.card.datWave = waveOf 0x0F delay (blockLevels profile bytes)) :
    ∃ bus', sdReadData profile.card szBuf 512 bus = (true, copyAt szBuf 0 bytes 512, bus') ∧
      At bus' memory := by
  have level : bus.lines.cmd.getD true = true := by
    rw [Bus.lines, input]
    rfl
  have shows : ∀ k, seenDat profile.card bus.receiving k =
      waveOf 0x0F delay (blockLevels profile bytes) (k + 1) &&& 0x0F := by
    intro k
    rw [seenDat_card profile k here.clk here.rx level, wave]
  have levels : blockLevels profile bytes = 0 :: ((slice bytes 0 512).flatMap nibbles ++
      (profile.checksums bytes ++ [0x0F])) := by simp [blockLevels]
  have before : ∀ k, k < delay → seenDat profile.card bus.receiving k ≠ 0 := by
    intro k early
    rw [shows, waveOf_before _ _ early]
    decide
  have start : seenDat profile.card bus.receiving delay = 0 := by
    have first := waveOf_behind (0x0F : UInt8) delay 0 (blockLevels profile bytes)
    rw [shows, first, levels, List.getD_cons_zero]
    decide
  have moved := dummyClock_card profile (delay + 1 + 2 * 512) bus.receiving here.clk here.rx level
  refine ⟨sdhalDummyClock profile.card (delay + 1 + 2 * 512) bus.receiving, ?_, ?_⟩
  · rw [sdReadData, sdhalReadData_found szBuf 512 before start inTime]
    have same : copyAt szBuf 0 (block profile.card bus delay) 512 = copyAt szBuf 0 bytes 512 := by
      funext j
      by_cases inside : j < 512
      · rw [copyAt_inside _ 0 _ _ _ (Nat.zero_le j) (by omega),
          copyAt_inside _ 0 _ _ _ (Nat.zero_le j) (by omega), Nat.sub_zero]
        have length : j < (slice bytes 0 512).length := by rw [slice_length]; exact inside
        obtain ⟨high, low⟩ := nibbles_getD (slice bytes 0 512)
          (profile.checksums bytes ++ [0x0F]) j length
        have byte : (slice bytes 0 512)[j] = bytes j := by simp [slice]
        have first : waveOf 0x0F delay (blockLevels profile bytes) (delay + 1 + 2 * j + 1) =
            bytes j >>> 4 := by
          have place := waveOf_behind (0x0F : UInt8) delay (1 + 2 * j) (blockLevels profile bytes)
          rw [← Nat.add_assoc, levels, Nat.add_comm 1, List.getD_cons_succ, high, byte] at place
          rw [levels]
          exact place
        have second : waveOf 0x0F delay (blockLevels profile bytes) (delay + 1 + 2 * j + 1 + 1) =
            bytes j &&& 0x0F := by
          have place := waveOf_behind (0x0F : UInt8) delay (1 + (2 * j + 1))
            (blockLevels profile bytes)
          rw [← Nat.add_assoc, levels, Nat.add_comm 1, List.getD_cons_succ, low, byte] at place
          rw [levels]
          exact place
        rw [block, seenDatByte, shows, shows, first, second]
        exact nibbles_join (bytes j)
      · rw [copyAt_outside _ 0 _ _ _ (by omega), copyAt_outside _ 0 _ _ _ (by omega)]
    rw [same]
  · have high : (sdhalDummyClock profile.card (delay + 1 + 2 * 512) bus.receiving).clk = true := by
      rw [moved]
      exact here.clk
    exact here.later high (congrArg Bus.card moved)

/-- `CMD17`: the card accepts it and sends the block behind its response. -/
theorem sdCmd17_tran (conforms : profile.Conforms) {polls : Nat} (addr : UInt32)
    (here : At bus ⟨.tran, false, polls, true⟩) :
    ∃ bus', sdCmd17 profile.card addr bus = (true, bus') ∧ At bus' ⟨.tran, false, polls, true⟩ ∧
      bus'.cmdOut = false ∧ bus'.card.datWave =
        waveOf 0x0F (profile.access addr - 8) (blockLevels profile (profile.blockAt addr)) := by
  have reply : profile.command ⟨.tran, false, polls, true⟩ 17 (wordOf (argByte addr 3)
      (argByte addr 2) (argByte addr 1) (argByte addr 0)) = ⟨⟨.tran, false, polls, true⟩,
        some (statusFrame 17 tranStatus), some (profile.blockAt addr)⟩ := by
    simp [Profile.command, Memory.status, Phase.code, tranStatus, sdStateTran, wordOf_argBytes]
  obtain ⟨rest, start⟩ := start_of_head (show (17 : UInt8) < 64 by decide)
    ([argByte tranStatus 3, argByte tranStatus 2, argByte tranStatus 1, argByte tranStatus 0] ++
      [crcAndEnd [17, argByte tranStatus 3, argByte tranStatus 2, argByte tranStatus 1,
        argByte tranStatus 0]])
  obtain ⟨szResponse, bus', exchanged, read, after, input, sends⟩ :=
    exchange_answered conforms (by decide) _ _ _ _ here (congrArg Reply.response reply) start
  have six : (statusFrame 17 tranStatus).length = 6 := rfl
  have wave := sends _ (congrArg Reply.block reply)
  rw [six] at exchanged read
  rw [reply] at after
  rw [wordOf_argBytes] at wave
  have passes : statusChecks 17 tranStatus szResponse = true :=
    (statusChecks_iff 17 tranStatus).mpr read
  have sent : exchange profile.card (argPacket 17 addr) 6 bus = (some szResponse, bus') := exchanged
  refine ⟨bus', ?_, after, input, wave⟩
  simp only [sdCmd17, accept, sent, Option.any_some, passes]

/-- A sector of the card, as the driver names it. -/
def Profile.sector (profile : Profile) (n : Nat) : Bytes :=
  copyAt (fun _ => 0) 0
    (profile.image (if profile.highCapacity then n % 4294967296 else n % 8388608)) 512

/-- The address of a block names it. -/
theorem blockAt_addr (profile : Profile) {info : SdInfo}
    (bSDHC : info.bSDHC = profile.highCapacity) (blockNumber : UInt32) :
    profile.blockAt (info.addr blockNumber) = profile.image
      (if profile.highCapacity then blockNumber.toNat else blockNumber.toNat % 8388608) := by
  rw [Profile.blockAt, SdInfo.addr, bSDHC]
  cases profile.highCapacity with
  | true => rfl
  | false =>
    have scaled : (blockNumber * 512).toNat / 512 = blockNumber.toNat % 8388608 := by
      rw [UInt32.toNat_mul]
      show blockNumber.toNat * 512 % 4294967296 / 512 = _
      omega
    simp only [Bool.false_eq_true, if_false, scaled]

/-- `SDLIB_ReadBlock512` fills the buffer with the block, and the card stays as it is. -/
theorem sdlibReadBlock512_card (conforms : profile.Conforms) {d : Driver CardState}
    (attached : Attached profile d) (blockNumber : UInt32) (buff : Bytes) :
    ∃ d', sdlibReadBlock512 profile.card blockNumber buff d =
        (true, copyAt buff 0 (profile.blockAt (d.gSdInfo.addr blockNumber)) 512, d') ∧
      Attached profile d' := by
  obtain ⟨⟨polls, here⟩, bSDHC⟩ := attached
  obtain ⟨bus1, accepted, here1, input, wave⟩ :=
    sdCmd17_tran conforms (d.gSdInfo.addr blockNumber) here
  have access := conforms.access (d.gSdInfo.addr blockNumber)
  obtain ⟨bus2, read, here2⟩ := sdReadData_card profile buff here1 input (by omega) wave
  refine ⟨{ d with bus := bus2 }, ?_, ⟨⟨polls, here2⟩, bSDHC⟩⟩
  simp only [sdlibReadBlock512, accepted, if_true, read]

/-- The driver after some reads, each into a buffer of its own. -/
def Driver.after (card : Card κ) (reads : List (UInt32 × Bytes)) (d : Driver κ) : Driver κ :=
  reads.foldl (fun d read => (sdlibReadBlock512 card read.1 read.2 d).2.2) d

/-- Reads keep a card attached. -/
theorem after_attached (conforms : profile.Conforms) (reads : List (UInt32 × Bytes))
    {d : Driver CardState} (attached : Attached profile d) :
    Attached profile (d.after profile.card reads) := by
  induction reads generalizing d with
  | nil => exact attached
  | cons first reads ih =>
    obtain ⟨d', read, attached'⟩ := sdlibReadBlock512_card conforms attached first.1 first.2
    have next : (sdlibReadBlock512 profile.card first.1 first.2 d).2.2 = d' := by rw [read]
    rw [Driver.after, List.foldl_cons, next]
    exact ih attached'

/-- `SD_ReadBlock512` behind a volume: before each call some reads have been made, and the call
finds something in its buffer. -/
def sdReadBlock512 (card : Card κ) (d : Driver κ) (history : Nat → List (UInt32 × Bytes))
    (szBuf : Nat → Bytes) (stack : Nat → Nat) : Fat.Device where
  read call secter :=
    let answer := sdlibReadBlock512 card (UInt32.ofNat secter) (szBuf call)
      (d.after card (history call))
    (answer.1, copyAt (fun _ => 0) 0 answer.2.1 512)
  stack := stack

/-- For the file system, an attached card is a device that holds its sectors. -/
theorem sdReadBlock512_holds (conforms : profile.Conforms) {d : Driver CardState}
    (attached : Attached profile d) (history : Nat → List (UInt32 × Bytes)) (szBuf : Nat → Bytes)
    (stack : Nat → Nat) :
    (sdReadBlock512 profile.card d history szBuf stack).Holds profile.sector := by
  intro call secter
  have there := after_attached conforms (history call) attached
  obtain ⟨d', read, -⟩ :=
    sdlibReadBlock512_card conforms there (UInt32.ofNat secter) (szBuf call)
  have block := blockAt_addr profile there.bSDHC (UInt32.ofNat secter)
  have number : (UInt32.ofNat secter).toNat = secter % 4294967296 := UInt32.toNat_ofNat'
  have wrapped : secter % 4294967296 % 8388608 = secter % 8388608 := by omega
  rw [number, wrapped] at block
  simp only [sdReadBlock512, read, Profile.sector, block, copyAt_copyAt]

/-- From power-up or from any moment between two commands, `SDLIB_Init` succeeds with a card that
keeps to the protocol and is not busy for longer than the driver waits. Every `SD_ReadBlock512`
that follows returns the sector that was asked for, whatever was read before and whatever the
buffer held. -/
theorem sdlibInit_holds (conforms : profile.Conforms) (env : Surroundings)
    (attachable : Attachable bus) {fuel : Nat} (enough : profile.busy < fuel)
    (patient : ∀ n, 1 ≤ n → n ≤ profile.busy →
      env.nticks n - env.nticks 0 ≤ env.ticksPerSecond) :
    ∃ d, sdlibInit profile.card env fuel bus = some (true, d) ∧
      ∀ history szBuf stack,
        (sdReadBlock512 profile.card d history szBuf stack).Holds profile.sector := by
  obtain ⟨d, initialised, attached⟩ := sdlibInit_card conforms env attachable enough patient
  exact ⟨d, initialised, sdReadBlock512_holds conforms attached⟩

/-- A card of high capacity that is busy twice, answers after five clocks, and holds an image. -/
def sampleProfile (image : Nat → Bytes) : Profile where
  version2 := true
  highCapacity := true
  voltages := 0x00FF8000
  rca := 0xB368
  cid := List.replicate 15 0
  csd := List.replicate 15 0
  busy := 2
  delay := fun _ _ => 5
  access := fun _ => 100
  checksums := fun _ => List.replicate 16 0
  image := image

/-- It keeps to the protocol. -/
theorem sampleProfile_conforms (image : Nat → Bytes) : (sampleProfile image).Conforms where
  delay _ _ := show 5 < maxCnt + 2 by decide
  access _ := show 8 ≤ 100 ∧ 100 < 8 + (maxTryData + 2) by decide
  cid := rfl
  csd := rfl
  window := show Profile.agrees (sampleProfile image) (hostOCR32Of false) = true by
    simp only [Profile.agrees, sampleProfile]
    decide
  capacity _ := rfl

/-- The pins and the card after power-up. -/
def powerUp : Bus CardState :=
  ⟨⟨.reset, [], fun _ => true, fun _ => 0x0F⟩, false, false, false, false, 0⟩

/-- Nothing has been heard, and the card is reset. -/
theorem powerUp_attachable : Attachable powerUp := ⟨rfl, rfl, Or.inr (Or.inr rfl)⟩

/-- That card, from power-up, with a clock that stands still. -/
theorem sdlibInit_holds_powerUp : ∃ d, sdlibInit (sampleProfile fun _ _ => 0).card
      ⟨fun _ => 7, 100, 0, 0, []⟩ 3 powerUp = some (true, d) ∧
    ∀ history szBuf stack, (sdReadBlock512 (sampleProfile fun _ _ => 0).card d history szBuf
      stack).Holds (sampleProfile fun _ _ => 0).sector :=
  sdlibInit_holds (sampleProfile_conforms _) _ powerUp_attachable (by decide)
    fun _ _ _ => show (7 : UInt32) - 7 ≤ 100 by decide

end SoundBoard.Sdcard
