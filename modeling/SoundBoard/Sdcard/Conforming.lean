import SoundBoard.Sdcard.Reference

/-!
# The driver and a card that keeps to the protocol

Every command of an initialisation is answered, so the card goes from its idle state to its
transfer state, and every read of a block returns the card's block.
-/

namespace SoundBoard.Sdcard

open SoundBoard.Lib

variable {profile : Profile} {bus : Bus CardState} {memory : Memory}

/-- What the driver relies on: responses within the samples that the host takes, blocks neither
during the clocks behind a response nor after the host has given up, registers of their size, and
conditions of a host that the card accepts. -/
structure Profile.Conforms (profile : Profile) : Prop where
  delay : ∀ index arg, profile.delay index arg < maxCnt + 2
  access : ∀ arg, 8 ≤ profile.access arg ∧ profile.access arg < 8 + (maxTryData + 2)
  cid : profile.cid.length = 15
  csd : profile.csd.length = 15
  window : profile.agrees (hostOCR32Of (!profile.version2)) = true
  capacity : profile.highCapacity = true → profile.version2 = true

/-- Between commands, with what the card remembers. -/
structure At (bus : Bus CardState) (memory : Memory) : Prop extends Quiet bus where
  memory : bus.card.memory = memory

/-! ## Exchanges -/

/-- A wave and its delay move together. -/
theorem waveOf_later {α : Type} (idle : α) (delay clocks : Nat) (levels : List α) (i : Nat) :
    waveOf idle (delay + clocks) levels (i + clocks) = waveOf idle delay levels i := by
  unfold waveOf
  have place : i + clocks - 1 - (delay + clocks) = i - 1 - delay := by omega
  by_cases early : i ≤ delay
  · rw [if_pos early, if_pos (Nat.add_le_add_right early clocks)]
  · rw [if_neg early, if_neg (fun early' => early (Nat.le_of_add_le_add_right early')), place]

/-- Behind its levels, a wave is idle again. -/
theorem waveOf_over {α : Type} (idle : α) {delay n : Nat} (levels : List α)
    (behind : delay + levels.length < n) : waveOf idle delay levels n = idle := by
  have late : ¬n ≤ delay := by omega
  rw [waveOf, if_neg late, List.getD_eq_getElem?_getD, List.getElem?_eq_none (by omega),
    Option.getD_none]

/-- The exchange of a command that the card answers. -/
theorem exchange_answered (conforms : profile.Conforms) {cmd : UInt8} (small : cmd < 64)
    (a1 a2 a3 a4 : UInt8) (here : At bus memory) {bytes : List UInt8} {rest : List Bool}
    (answered : (profile.command memory cmd (wordOf a1 a2 a3 a4)).response = some bytes)
    (start : bitsOf bytes = false :: false :: rest) :
    ∃ szResponse bus', exchange profile.card (packet cmd a1 a2 a3 a4) bytes.length bus =
        (some szResponse, bus') ∧ slice szResponse 0 bytes.length = bytes ∧
      At bus' (profile.command memory cmd (wordOf a1 a2 a3 a4)).memory ∧ bus'.cmdOut = false ∧
      ∀ block, (profile.command memory cmd (wordOf a1 a2 a3 a4)).block = some block →
        bus'.card.datWave = waveOf 0x0F (profile.access (wordOf a1 a2 a3 a4) - 8)
          (blockLevels profile block) := by
  have inTime := conforms.delay cmd (wordOf a1 a2 a3 a4)
  obtain ⟨low, -⟩ := conforms.access (wordOf a1 a2 a3 a4)
  have executed := execute_packet profile small a1 a2 a3 a4 (bus.card.later 48)
  have same : (bus.card.later 48).memory = memory := here.memory
  obtain ⟨szResponse, level, exchanged, read⟩ := exchange_card profile small a1 a2 a3 a4
    here.toQuiet inTime (by rw [here.memory]; exact answered) start
  simp only [same, answered, Option.getD_some] at executed
  refine ⟨szResponse, _, exchanged, read, ⟨⟨here.clk, ?_, ?_⟩, ?_⟩, rfl, ?_⟩
  · rw [executed]
    rfl
  · rw [executed]
    funext i
    show waveOf true _ (bitsOf bytes) (i + _) = true
    apply waveOf_over
    rw [bitsOf_length]
    omega
  · rw [executed]
    rfl
  · intro block found
    simp only [found] at executed
    rw [executed]
    funext i
    have place : profile.delay cmd (wordOf a1 a2 a3 a4) + (bitsOf bytes).length +
        profile.access (wordOf a1 a2 a3 a4) = profile.access (wordOf a1 a2 a3 a4) - 8 +
          (profile.delay cmd (wordOf a1 a2 a3 a4) + 8 * bytes.length + 8) := by
      rw [bitsOf_length]
      omega
    have moved := waveOf_later (0x0F : UInt8) (profile.access (wordOf a1 a2 a3 a4) - 8)
      (profile.delay cmd (wordOf a1 a2 a3 a4) + 8 * bytes.length + 8) (blockLevels profile block) i
    rw [← place] at moved
    exact moved

/-- The exchange of a command that it does not answer. -/
theorem exchange_unanswered (profile : Profile) {cmd : UInt8} (small : cmd < 64)
    (a1 a2 a3 a4 : UInt8) (nLen : Nat) (here : At bus memory)
    (silent : (profile.command memory cmd (wordOf a1 a2 a3 a4)).response = none) :
    ∃ bus', exchange profile.card (packet cmd a1 a2 a3 a4) nLen bus = (none, bus') ∧
      At bus' (profile.command memory cmd (wordOf a1 a2 a3 a4)).memory := by
  have executed := execute_packet profile small a1 a2 a3 a4 (bus.card.later 48)
  have same : (bus.card.later 48).memory = memory := here.memory
  obtain ⟨level, sent⟩ := sdhalSendCmd_card profile small a1 a2 a3 a4 here.toQuiet
  simp only [same, silent, Option.getD_none, bitsOf_nil] at executed
  obtain ⟨bus1, bus1Eq⟩ : ∃ bus1, bus1 = sdhalSendCmd profile.card (packet cmd a1 a2 a3 a4) bus :=
    ⟨_, rfl⟩
  rw [← bus1Eq] at sent
  have card1 := (congrArg Bus.card sent).trans executed
  have high1 : bus1.clk = true := (congrArg Bus.clk sent).trans here.clk
  have quiet1 : bus1.card.rx = [] := by rw [card1]
  have idle : ∀ i, bus1.card.cmdWave i = true := by
    intro i
    rw [card1]
    show waveOf true _ [] i = true
    unfold waveOf
    split <;> rfl
  have listened := dummyClock_card profile (maxCnt + 2) bus1.listening high1 quiet1 rfl
  refine ⟨sdhalDummyClock profile.card (maxCnt + 2) bus1.listening, ?_, ?_⟩
  · rw [exchange, ← bus1Eq]
    apply sdhalGetResponse_silent
    intro k _
    rw [seen_card profile k high1 quiet1]
    exact idle _
  · rw [listened]
    refine ⟨⟨high1, quiet1, ?_⟩, ?_⟩
    · funext i
      exact idle _
    · show bus1.card.memory = _
      rw [card1]

/-- A command whose response passes its checks. -/
theorem accept_card (conforms : profile.Conforms) {cmd : UInt8} (small : cmd < 64)
    (a1 a2 a3 a4 : UInt8) (here : At bus memory) {bytes : List UInt8} {rest : List Bool}
    {checks : Bytes → Bool}
    (answered : (profile.command memory cmd (wordOf a1 a2 a3 a4)).response = some bytes)
    (six : bytes.length = 6) (start : bitsOf bytes = false :: false :: rest)
    (passes : ∀ r, slice r 0 6 = bytes → checks r = true) :
    ∃ bus', accept profile.card (packet cmd a1 a2 a3 a4) 6 checks bus = (true, bus') ∧
      At bus' (profile.command memory cmd (wordOf a1 a2 a3 a4)).memory := by
  obtain ⟨szResponse, bus', exchanged, read, after, -, -⟩ :=
    exchange_answered conforms small a1 a2 a3 a4 here answered start
  rw [six] at exchanged read
  refine ⟨bus', ?_, after⟩
  simp only [accept, exchanged, Option.any_some, passes szResponse read]

/-! ## Arguments and frames -/

/-- A command with the card's address addresses it. -/
theorem addressed_rca (profile : Profile) :
    profile.addressed (wordOf (profile.rca >>> 8).toUInt8 (profile.rca &&& 0xFF).toUInt8 0 0) =
      true := by
  rw [wordOf_rca, Profile.addressed, decide_eq_true_eq, ← UInt16.toNat_inj, UInt32.toNat_toUInt16,
    UInt32.toNat_shiftRight, rcaArgument_toNat, Nat.shiftRight_eq_div_pow]
  have bound := profile.rca.toNat_lt
  show profile.rca.toNat * 65536 / 65536 % 65536 = _
  omega

/-- A frame whose first byte is below 64 has the start bits of a response. -/
theorem start_of_head {byte : UInt8} (small : byte < 64) (bytes : List UInt8) :
    ∃ rest, bitsOf (byte :: bytes) = false :: false :: rest := by
  have heads : ∀ i : Fin 256, UInt8.ofNat i < 64 →
      byteBits (UInt8.ofNat i) = false :: false :: (byteBits (UInt8.ofNat i)).drop 2 := by
    decide +kernel
  have head := heads ⟨byte.toNat, byte.toNat_lt⟩
  rw [UInt8.ofNat_toNat] at head
  refine ⟨(byteBits byte).drop 2 ++ bitsOf bytes, ?_⟩
  rw [bitsOf_cons]
  exact congrArg (· ++ bitsOf bytes) (head small)

/-- A command that the card answers with the status that the driver expects. -/
theorem accept_statusFrame (conforms : profile.Conforms) {cmd : UInt8} (small : cmd < 64)
    {a1 a2 a3 a4 : UInt8} (here : At bus memory) {next : Memory} {status : UInt32}
    {block : Option Bytes}
    (reply : profile.command memory cmd (wordOf a1 a2 a3 a4) =
      ⟨next, some (statusFrame cmd status), block⟩) :
    ∃ bus', accept profile.card (packet cmd a1 a2 a3 a4) 6 (statusChecks cmd status) bus =
      (true, bus') ∧ At bus' next := by
  obtain ⟨rest, start⟩ := start_of_head small
    ([argByte status 3, argByte status 2, argByte status 1, argByte status 0] ++
      [crcAndEnd [cmd, argByte status 3, argByte status 2, argByte status 1, argByte status 0]])
  have answered := congrArg Reply.response reply
  obtain ⟨bus', accepted, after⟩ := accept_card conforms small a1 a2 a3 a4 here answered rfl start
    fun r same => (statusChecks_iff cmd status).mpr same
  rw [reply] at after
  exact ⟨bus', accepted, after⟩

/-! ## The commands of the initialisation -/

/-- A card that expects an application command, and reports its state. -/
theorem command_55 (profile : Profile) (memory : Memory) (arg : UInt32) (app : memory.app = false)
    (known : memory.phase = .idle ∨ profile.addressed arg = true) :
    profile.command memory 55 arg =
      ⟨{ memory with app := true }, some (statusFrame 55 (appStatus memory.phase.code)), none⟩ := by
  simp [Profile.command, app, known, Memory.status, appStatus, UInt32.or_assoc]

/-- `CMD55` to a card in its idle state. -/
theorem sdCmd55_idle (conforms : profile.Conforms) {polls : Nat} {wide : Bool}
    (here : At bus ⟨.idle, false, polls, wide⟩) :
    ∃ bus', sdCmd55 profile.card 0 sdStateIdle bus = (true, bus') ∧
      At bus' ⟨.idle, true, polls, wide⟩ :=
  accept_statusFrame conforms (by decide) here (command_55 profile _ _ rfl (Or.inl rfl))

/-- `CMD55` to a card in its transfer state. -/
theorem sdCmd55_tran (conforms : profile.Conforms) {polls : Nat} {wide : Bool}
    (here : At bus ⟨.tran, false, polls, wide⟩) :
    ∃ bus', sdCmd55 profile.card profile.rca sdStateTran bus = (true, bus') ∧
      At bus' ⟨.tran, true, polls, wide⟩ :=
  accept_statusFrame conforms (by decide) here
    (command_55 profile _ _ rfl (Or.inr (addressed_rca profile)))

/-- `ACMD6` widens the bus of a card. -/
theorem command_6 (profile : Profile) (polls : Nat) (wide : Bool) :
    profile.command ⟨.tran, true, polls, wide⟩ 6 (wordOf 0 0 0 2) =
      ⟨⟨.tran, false, polls, true⟩, some (statusFrame 6 (appStatus sdStateTran)), none⟩ := by
  have two : wordOf 0 0 0 2 = 2 := by decide
  simp [Profile.command, Profile.appCommand, Memory.answer, Memory.status, appStatus, two,
    Phase.code, sdStateTran, UInt32.or_assoc]

/-- `ACMD6`. -/
theorem sdAcmd6_tran (conforms : profile.Conforms) {polls : Nat} {wide : Bool}
    (here : At bus ⟨.tran, true, polls, wide⟩) :
    ∃ bus', sdAcmd6 profile.card true sdStateTran bus = (true, bus') ∧
      At bus' ⟨.tran, false, polls, true⟩ :=
  accept_statusFrame conforms (by decide) here (command_6 profile polls wide)

/-- `ACMD42` only changes a resistor. -/
theorem command_42 (profile : Profile) (polls : Nat) (wide : Bool) (arg : UInt32) :
    profile.command ⟨.tran, true, polls, wide⟩ 42 arg =
      ⟨⟨.tran, false, polls, wide⟩, some (statusFrame 42 (appStatus sdStateTran)), none⟩ := by
  simp [Profile.command, Profile.appCommand, Memory.answer, Memory.status, appStatus, Phase.code,
    sdStateTran, UInt32.or_assoc]

/-- `ACMD42`. -/
theorem sdAcmd42_tran (conforms : profile.Conforms) {polls : Nat} {wide : Bool}
    (here : At bus ⟨.tran, true, polls, wide⟩) :
    ∃ bus', sdAcmd42 profile.card true sdStateTran bus = (true, bus') ∧
      At bus' ⟨.tran, false, polls, wide⟩ :=
  accept_statusFrame conforms (by decide) here (command_42 profile polls wide _)

/-- `CMD7` selects a card. -/
theorem command_7 (profile : Profile) (polls : Nat) (wide : Bool) {arg : UInt32}
    (addressed : profile.addressed arg = true) :
    profile.command ⟨.stby, false, polls, wide⟩ 7 arg =
      ⟨⟨.tran, false, polls, wide⟩,
        some (statusFrame 7 (sdBitReadyForData ||| sdCurrentStateEncode sdStateStby)), none⟩ := by
  simp [Profile.command, Memory.answer, Memory.status, Phase.code, sdStateStby, addressed]

/-- `CMD7`. -/
theorem sdCmd7_stby (conforms : profile.Conforms) {polls : Nat} {wide : Bool}
    (here : At bus ⟨.stby, false, polls, wide⟩) :
    ∃ bus', sdCmd7 profile.card profile.rca bus = (true, bus') ∧
      At bus' ⟨.tran, false, polls, wide⟩ :=
  accept_statusFrame conforms (by decide) here
    (command_7 profile polls wide (addressed_rca profile))

/-- `CMD16` is answered with the status. -/
theorem command_16 (profile : Profile) (polls : Nat) (wide : Bool) (arg : UInt32) :
    profile.command ⟨.tran, false, polls, wide⟩ 16 arg =
      ⟨⟨.tran, false, polls, wide⟩, some (statusFrame 16 tranStatus), none⟩ := by
  simp [Profile.command, Memory.answer, Memory.status, Phase.code, tranStatus, sdStateTran]

/-- `CMD16`. -/
theorem sdCmd16_tran (conforms : profile.Conforms) {polls : Nat} {wide : Bool}
    (here : At bus ⟨.tran, false, polls, wide⟩) :
    ∃ bus', sdCmd16 profile.card 512 bus = (true, bus') ∧ At bus' ⟨.tran, false, polls, wide⟩ :=
  accept_statusFrame conforms (by decide) here (command_16 profile polls wide _)

/-- A response with a register begins as a response does. -/
theorem registerFrame_start (register : List UInt8) :
    ∃ rest, bitsOf (registerFrame register) = false :: false :: rest :=
  start_of_head (by decide) _

/-- A register of fifteen bytes is read with its checksum. -/
theorem checksRegister_frame {r : Bytes} {register : List UInt8} (fifteen : register.length = 15)
    (same : slice r 0 17 = registerFrame register) : checksRegister r = true := by
  have parts : slice r 0 17 = [r 0] ++ (slice r 1 15 ++ [r 16]) := rfl
  rw [parts, registerFrame, checkedFrame, List.singleton_append, List.cons.injEq] at same
  obtain ⟨head, rest⟩ := same
  obtain ⟨bytes, last⟩ := List.append_inj rest (by rw [slice_length, fifteen])
  have checked : crcChecks r 1 15 = true := by
    rw [crcChecks_iff, bytes]
    exact (List.cons.inj last).1
  exact decide_eq_true ⟨head, checked⟩

/-- The read of a register that the card sends. -/
theorem readRegister_card (conforms : profile.Conforms) {cmd : UInt8} (small : cmd < 64)
    {a1 a2 a3 a4 : UInt8} (here : At bus memory) {next : Memory} {register : List UInt8}
    (fifteen : register.length = 15)
    (reply : profile.command memory cmd (wordOf a1 a2 a3 a4) =
      ⟨next, some (registerFrame register), none⟩) :
    ∃ bytes bus', readRegister profile.card (packet cmd a1 a2 a3 a4) bus = (some bytes, bus') ∧
      At bus' next := by
  obtain ⟨rest, start⟩ := registerFrame_start register
  have answered := congrArg Reply.response reply
  have length : (registerFrame register).length = 17 := by
    simp [registerFrame, checkedFrame, fifteen]
  obtain ⟨szResponse, bus', exchanged, read, after, -, -⟩ :=
    exchange_answered conforms small a1 a2 a3 a4 here answered start
  rw [length] at exchanged read
  have passes := checksRegister_frame fifteen read
  rw [reply] at after
  refine ⟨slice szResponse 1 16, bus', ?_, after⟩
  simp only [readRegister, exchanged, Option.filter_some, passes, if_true, Option.map_some]

/-- `CMD2`. -/
theorem sdCmd2_ready (conforms : profile.Conforms) {polls : Nat} {wide : Bool}
    (szCID : List UInt8) (nBufLen : Int) (here : At bus ⟨.ready, false, polls, wide⟩) :
    ∃ bytes bus', sdCmd2 profile.card szCID nBufLen bus = (some bytes, bus') ∧
      At bus' ⟨.ident, false, polls, wide⟩ := by
  have reply : profile.command ⟨.ready, false, polls, wide⟩ 2 (wordOf 0 0 0 0) =
      ⟨⟨.ident, false, polls, wide⟩, some (registerFrame profile.cid), none⟩ := by
    simp [Profile.command]
  obtain ⟨bytes, bus', read, after⟩ :=
    readRegister_card conforms (by decide) here conforms.cid reply
  refine ⟨copyRegister bytes nBufLen szCID, bus', ?_, after⟩
  simp only [sdCmd2, read, Option.map_some]

/-- `CMD9`. -/
theorem sdCmd9_stby (conforms : profile.Conforms) {polls : Nat} {wide : Bool}
    (nCopyLen : Int) (szCSD : List UInt8) (here : At bus ⟨.stby, false, polls, wide⟩) :
    ∃ bytes bus', sdCmd9 profile.card nCopyLen profile.rca szCSD bus = (some bytes, bus') ∧
      At bus' ⟨.stby, false, polls, wide⟩ := by
  have reply : ∀ arg, profile.addressed arg = true →
      profile.command ⟨.stby, false, polls, wide⟩ 9 arg =
        ⟨⟨.stby, false, polls, wide⟩, some (registerFrame profile.csd), none⟩ := by
    intro arg addressed
    simp [Profile.command, addressed]
  obtain ⟨bytes, bus', read, after⟩ := readRegister_card conforms (by decide) here conforms.csd
    (reply _ (addressed_rca profile))
  refine ⟨copyRegister bytes nCopyLen szCSD, bus', ?_, after⟩
  have same : rcaPacket 9 profile.rca =
      packet 9 (profile.rca >>> 8).toUInt8 (profile.rca &&& 0xFF).toUInt8 0 0 := rfl
  simp only [sdCmd9, same, read, Option.map_some]

/-- `CMD10`. -/
theorem sdCmd10_stby (conforms : profile.Conforms) {polls : Nat} {wide : Bool}
    (nCopyLen : Int) (szCID : List UInt8) (here : At bus ⟨.stby, false, polls, wide⟩) :
    ∃ bytes bus', sdCmd10 profile.card nCopyLen profile.rca szCID bus = (some bytes, bus') ∧
      At bus' ⟨.stby, false, polls, wide⟩ := by
  have reply : ∀ arg, profile.addressed arg = true →
      profile.command ⟨.stby, false, polls, wide⟩ 10 arg =
        ⟨⟨.stby, false, polls, wide⟩, some (registerFrame profile.cid), none⟩ := by
    intro arg addressed
    simp [Profile.command, addressed]
  obtain ⟨bytes, bus', read, after⟩ := readRegister_card conforms (by decide) here conforms.cid
    (reply _ (addressed_rca profile))
  refine ⟨copyRegister bytes nCopyLen szCID, bus', ?_, after⟩
  have same : rcaPacket 10 profile.rca =
      packet 10 (profile.rca >>> 8).toUInt8 (profile.rca &&& 0xFF).toUInt8 0 0 := rfl
  simp only [sdCmd10, same, read, Option.map_some]

/-- The bytes of a response of six, and its last check. -/
theorem checkedFrame_six {r : Bytes} {b0 b1 b2 b3 b4 : UInt8}
    (same : slice r 0 6 = checkedFrame [b0, b1, b2, b3, b4]) :
    r 0 = b0 ∧ r 1 = b1 ∧ r 2 = b2 ∧ r 3 = b3 ∧ r 4 = b4 ∧ crcChecks r 0 5 = true := by
  have parts : slice r 0 6 = [r 0, r 1, r 2, r 3, r 4] ++ [r 5] := rfl
  have five : slice r 0 5 = [r 0, r 1, r 2, r 3, r 4] := rfl
  rw [parts, checkedFrame] at same
  obtain ⟨bytes, last⟩ := List.append_inj same rfl
  have checked : crcChecks r 0 5 = true := by
    rw [crcChecks_iff, five, bytes]
    exact (List.cons.inj last).1
  simp only [List.cons.injEq, and_true] at bytes
  exact ⟨bytes.1, bytes.2.1, bytes.2.2.1, bytes.2.2.2.1, bytes.2.2.2.2, checked⟩

/-- A 16-bit word of its two bytes. -/
theorem responseU16_bytes {r : Bytes} (word : UInt16) (high : r 1 = (word >>> 8).toUInt8)
    (low : r 2 = word.toUInt8) : responseU16 r 1 = word := by
  have lowByte : word.toUInt8.toNat < 2 ^ 8 := word.toUInt8.toNat_lt
  have shifted : ((word >>> 8).toUInt8.toUInt16 <<< 8).toNat = (word.toNat / 256) <<< 8 := by
    rw [UInt16.toNat_shiftLeft, UInt8.toNat_toUInt16, UInt16.toNat_toUInt8, UInt16.toNat_shiftRight,
      Nat.shiftRight_eq_div_pow, Nat.shiftLeft_eq, Nat.shiftLeft_eq]
    have bound := word.toNat_lt
    show word.toNat / 256 % 256 * 256 % 65536 = word.toNat / 256 * 256
    omega
  apply UInt16.toNat_inj.mp
  rw [responseU16, high, low, UInt16.toNat_or, shifted, UInt8.toNat_toUInt16,
    ← Nat.shiftLeft_add_eq_or_of_lt lowByte, UInt16.toNat_toUInt8, Nat.shiftLeft_eq]
  exact Nat.div_add_mod' word.toNat 256

/-- `CMD3`: the card publishes its address. -/
theorem sdCmd3_ident (conforms : profile.Conforms) {polls : Nat} {wide : Bool}
    (here : At bus ⟨.ident, false, polls, wide⟩) :
    ∃ bus', sdCmd3 profile.card bus = (some profile.rca, bus') ∧
      At bus' ⟨.stby, false, polls, wide⟩ := by
  have reply : profile.command ⟨.ident, false, polls, wide⟩ 3 (wordOf 0 0 0 0) =
      ⟨⟨.stby, false, polls, wide⟩, some (checkedFrame [3, (profile.rca >>> 8).toUInt8,
        profile.rca.toUInt8, 0x05, 0x00]), none⟩ := by
    have status : argByte (sdBitReadyForData ||| sdCurrentStateEncode 2) 1 = 0x05 ∧
        argByte (sdBitReadyForData ||| sdCurrentStateEncode 2) 0 = 0x00 := by decide
    simp [Profile.command, Memory.status, Phase.code, status]
  obtain ⟨rest, start⟩ := start_of_head (show (3 : UInt8) < 64 by decide)
    ([(profile.rca >>> 8).toUInt8, profile.rca.toUInt8, 0x05, 0x00] ++
      [crcAndEnd [3, (profile.rca >>> 8).toUInt8, profile.rca.toUInt8, 0x05, 0x00]])
  have answered := congrArg Reply.response reply
  obtain ⟨szResponse, bus', exchanged, read, after, -, -⟩ :=
    exchange_answered conforms (by decide) 0 0 0 0 here answered start
  have six : (checkedFrame [3, (profile.rca >>> 8).toUInt8, profile.rca.toUInt8, 0x05, 0x00]).length
      = 6 := rfl
  rw [six] at exchanged read
  rw [reply] at after
  obtain ⟨r0, r1, r2, r3, r4, checked⟩ := checkedFrame_six read
  have passes : checksCmd3 szResponse = true := by
    have state : responseU16 szResponse 3 = 0x0500 := by
      rw [responseU16, r3, r4]
      decide
    exact decide_eq_true ⟨r0, by rw [state]; decide, checked⟩
  refine ⟨bus', ?_, after⟩
  simp only [sdCmd3, exchanged, Option.filter_some, passes, if_true, Option.map_some,
    responseU16_bytes profile.rca r1 r2]

/-! ## The opening -/

/-- Before an initialisation: nothing of a command has been heard and the line is idle, and the
first edge of `SDHAL_Init` shows a high level unless the card has just been powered. -/
structure Attachable (bus : Bus CardState) : Prop where
  rx : bus.card.rx = []
  cmd : bus.card.cmdWave = fun _ => true
  edge : bus.clk = true ∨ bus.cmd = true ∨ bus.card.memory = .reset

/-- `CMD0` puts a card into its idle state. -/
theorem sdCmd0_card (profile : Profile) (here : At bus memory) :
    At (sdCmd0 profile.card bus) .reset := by
  obtain ⟨level, sent⟩ :=
    sdhalSendCmd_card profile (show (0 : UInt8) < 64 by decide) 0 0 0 0 here.toQuiet
  have executed := execute_packet profile (show (0 : UInt8) < 64 by decide) 0 0 0 0
    (bus.card.later 48)
  have reply : ∀ m, profile.command m 0 (wordOf 0 0 0 0) = ⟨.reset, none, none⟩ := fun _ => rfl
  simp only [reply, Option.getD_none, bitsOf_nil] at executed
  obtain ⟨bus1, bus1Eq⟩ : ∃ bus1, bus1 = sdhalSendCmd profile.card (packet 0 0 0 0 0) bus :=
    ⟨_, rfl⟩
  have high := sdhalSendCmd_cmd profile.card 0 0 0 0 0 bus
  rw [← bus1Eq] at sent high
  have card1 := (congrArg Bus.card sent).trans executed
  have high1 : bus1.clk = true := (congrArg Bus.clk sent).trans here.clk
  have quiet1 : bus1.card.rx = [] := by rw [card1]
  have level1 : bus1.lines.cmd.getD true = true := by
    rw [Bus.lines, high]
    cases bus1.cmdOut <;> rfl
  rw [sdCmd0, ← bus1Eq, dummyClock_card profile 8 bus1 high1 quiet1 level1]
  refine ⟨⟨high1, quiet1, ?_⟩, ?_⟩
  · funext i
    show bus1.card.cmdWave (i + 8) = true
    rw [card1]
    show waveOf true _ [] (i + 8) = true
    unfold waveOf
    split <;> rfl
  · show bus1.card.memory = _
    rw [card1]

/-- Idle levels leave a card as it was. -/
theorem At.later {n : Nat} {bus' : Bus CardState} (here : At bus memory) (high : bus'.clk = true)
    (moved : bus'.card = bus.card.later n) : At bus' memory := by
  refine ⟨⟨high, ?_, ?_⟩, ?_⟩
  · rw [moved]
    exact here.rx
  · rw [moved]
    funext i
    exact congrFun here.cmd (i + n)
  · rw [moved]
    exact here.memory

/-- A level that is low at the first edge costs the card the first `CMD0`, and nothing else. -/
theorem sdCmd0_lost (profile : Profile) (high : bus.clk = true)
    (begun : bus.card = { bus.card with memory := memory, rx := [false], cmdWave := fun _ => true }) :
    At (sdCmd0 profile.card bus) memory := by
  have bits : bitsOf (packet 0 0 0 0 0) =
      (bitsOf (packet 0 0 0 0 0)).take 46 ++ ([false] ++ [true]) := by decide +kernel
  have frame : [false] ++ (bitsOf (packet 0 0 0 0 0)).take 46 ++ [false] =
      false :: (bitsOf (packet 0 0 0 0 0)).take 47 := by decide +kernel
  have rx : bus.card.rx = [false] := by rw [begun]
  have length : ((bitsOf (packet 0 0 0 0 0)).take 46).length = 46 := by decide +kernel
  obtain ⟨bus0, bus0Eq⟩ : ∃ bus0, bus0 = ({ bus with cmdOut := true } : Bus CardState) := ⟨_, rfl⟩
  have card0 : bus0.card = bus.card := by rw [bus0Eq]
  have high0 : bus0.clk = true := by rw [bus0Eq]; exact high
  have driving0 : bus0.cmdOut = true := by rw [bus0Eq]
  obtain ⟨level, inside⟩ := sendBits_inside profile ((bitsOf (packet 0 0 0 0 0)).take 46) bus0
    high0 driving0 (by rw [card0, rx]; exact List.cons_ne_nil _ _) (by
      rw [card0, rx, length]
      decide)
  obtain ⟨bus1, bus1Eq⟩ : ∃ bus1, bus1 =
    sendBits profile.card ((bitsOf (packet 0 0 0 0 0)).take 46) bus0 := ⟨_, rfl⟩
  rw [← bus1Eq, length, card0, rx] at inside
  have high1 : bus1.clk = true := (congrArg Bus.clk inside).trans high0
  have driving1 : bus1.cmdOut = true := (congrArg Bus.cmdOut inside).trans driving0
  have card1 := congrArg Bus.card inside
  have second : sendBit profile.card false bus1 = { bus1 with
      cmd := false, card := { bus.card.later 47 with rx := [] } } := by
    rw [sendBit_card profile false high1 driving1, hearBit_last]
    · have heard : (bus1.card.later 1).rx ++ [false] =
          false :: (bitsOf (packet 0 0 0 0 0)).take 47 := by
        rw [← frame, card1]
        rfl
      rw [heard, Profile.execute, decodeFrame_leadIn, card1]
      simp [CardState.later, Nat.add_assoc]
    · rw [card1]
      show ([false] ++ (bitsOf (packet 0 0 0 0 0)).take 46).length + 1 = 48
      decide +kernel
  have third : sendBit profile.card true (sendBit profile.card false bus1) = { bus1 with
      cmd := true, card := { bus.card.later 48 with rx := [] } } := by
    rw [second, sendBit_card profile true, hearBit_idle]
    · simp [CardState.later, Nat.add_assoc]
    · rfl
    · exact high1
    · exact driving1
  have sent : sdhalSendCmd profile.card (packet 0 0 0 0 0) bus = { bus1 with
      cmd := true, card := { bus.card.later 48 with rx := [] } } := by
    rw [sdhalSendCmd_eq, ← bus0Eq, bits, sendBits_append, ← bus1Eq, sendBits_append]
    exact third
  have here : At ({ bus1 with cmd := true, card := { bus.card.later 48 with rx := [] } }) memory := by
    refine ⟨⟨high1, rfl, ?_⟩, ?_⟩
    · rw [begun]
      rfl
    · rw [begun]
      rfl
  obtain ⟨bus2, bus2Eq⟩ : ∃ bus2, bus2 = sdhalSendCmd profile.card (packet 0 0 0 0 0) bus :=
    ⟨_, rfl⟩
  rw [← sent, ← bus2Eq] at here
  have level2 : bus2.lines.cmd.getD true = true := by
    rw [bus2Eq, sent, Bus.lines]
    cases bus1.cmdOut <;> rfl
  rw [sdCmd0, ← bus2Eq, dummyClock_card profile 8 bus2 here.clk here.rx level2]
  exact here.later here.clk rfl

/-- `SDHAL_Init` and the first `CMD0`, from a card that is powered or has been used before. -/
theorem sdCmd0_first (profile : Profile) (attachable : Attachable bus) :
    At (sdCmd0 profile.card (sdInit profile.card bus)) .reset := by
  obtain ⟨rx, idle, edge⟩ := attachable
  cases high : bus.clk with
  | true =>
    have kept : sdInit profile.card bus =
        { bus with cmdOut := true, datOut := false, cmd := true, dat := 0 } := by
      simp [sdInit, sdhalInit, clkHigh, high]
    rw [kept]
    exact sdCmd0_card profile ⟨⟨high, rx, idle⟩, rfl⟩
  | false =>
    have rising : sdInit profile.card bus = { bus with
        cmdOut := true, datOut := false, clk := true, cmd := true, dat := 0
        card := profile.hearBit bus.card bus.cmd } := by
      simp only [sdInit, sdhalInit, clkHigh, high, Bool.false_eq_true, if_false]
      rfl
    rw [rising]
    cases level : bus.cmd with
    | true =>
      rw [hearBit_idle profile bus.card rx]
      exact sdCmd0_card profile ⟨⟨rfl, rx, idle⟩, rfl⟩
    | false =>
      have powered : bus.card.memory = .reset := by
        rcases edge with wasHigh | wasHigh | powered
        · rw [high] at wasHigh
          contradiction
        · rw [level] at wasHigh
          contradiction
        · exact powered
      rw [hearBit_start profile bus.card rx]
      apply sdCmd0_lost profile rfl
      simp only [powered, idle]

/-- `CMD8` to a card that knows it. -/
theorem sdCmd8_known (conforms : profile.Conforms) (version2 : profile.version2 = true)
    (here : At bus .reset) :
    ∃ bus', sdCmd8 profile.card sdVhs2V73V6 cmd8DefaultTestPattern bus = (true, bus') ∧
      At bus' .reset := by
  have reply : profile.command .reset 8 (wordOf 0 0 (sdVhs2V73V6 &&& 0x0F) cmd8DefaultTestPattern) =
      ⟨.reset, some (checkedFrame [8, 0, 0, 1, 0xAA]), none⟩ := by
    have bytes : argByte (wordOf 0 0 (sdVhs2V73V6 &&& 0x0F) cmd8DefaultTestPattern) 1 &&& 0x0F = 1 ∧
        argByte (wordOf 0 0 (sdVhs2V73V6 &&& 0x0F) cmd8DefaultTestPattern) 0 = 0xAA := by decide
    simp [Profile.command, Memory.reset, version2, bytes]
  obtain ⟨rest, start⟩ := start_of_head (show (8 : UInt8) < 64 by decide)
    ([0, 0, 1, 0xAA] ++ [crcAndEnd [8, 0, 0, 1, 0xAA]])
  have answered := congrArg Reply.response reply
  have passes : ∀ r, slice r 0 6 = checkedFrame [8, 0, 0, 1, 0xAA] →
      checksCmd8 sdVhs2V73V6 cmd8DefaultTestPattern r = true := by
    intro r same
    obtain ⟨r0, -, -, r3, r4, checked⟩ := checkedFrame_six same
    exact decide_eq_true ⟨r0, r3, r4, checked⟩
  obtain ⟨bus', accepted, after⟩ := accept_card conforms (by decide) 0 0 (sdVhs2V73V6 &&& 0x0F)
    cmd8DefaultTestPattern here answered rfl start passes
  rw [reply] at after
  exact ⟨bus', accepted, after⟩

/-- `CMD8` to a card that does not. -/
theorem sdCmd8_unknown (version1 : profile.version2 = false) (here : At bus .reset) :
    ∃ bus', sdCmd8 profile.card sdVhs2V73V6 cmd8DefaultTestPattern bus = (false, bus') ∧
      At bus' .reset := by
  have reply : ∀ arg, profile.command .reset 8 arg = ⟨.reset, none, none⟩ := by
    intro arg
    simp [Profile.command, Memory.reset, version1, Memory.illegal]
  obtain ⟨bus', exchanged, after⟩ := exchange_unanswered profile (show (8 : UInt8) < 64 by decide)
    0 0 (sdVhs2V73V6 &&& 0x0F) cmd8DefaultTestPattern 6 here (congrArg Reply.response (reply _))
  rw [reply] at after
  refine ⟨bus', ?_, after⟩
  simp only [sdCmd8, accept, exchanged, Option.any_none]

/-- The part of `SDLIB_Init` before its loop. -/
theorem powerOn_card (conforms : profile.Conforms) (attachable : Attachable bus) :
    At (powerOn profile.card bus).bus .reset ∧
      (powerOn profile.card bus).gSdInfo.hostOCR32 = hostOCR32Of (!profile.version2) ∧
      (powerOn profile.card bus).gSdInfo.bSDHC = profile.version2 ∧
      (powerOn profile.card bus).gSdInfo.rca16 = 0 ∧
      (powerOn profile.card bus).gSdInfo.bSupport4Bits = true := by
  have first := sdCmd0_first profile attachable
  cases version : profile.version2 with
  | true =>
    obtain ⟨bus', accepted, after⟩ := sdCmd8_known conforms version first
    have opened : powerOn profile.card bus =
        { gSdInfo := { SdInfo.cleared with hostOCR32 := 0x40FF8000, bVer2 := true, bSDHC := true }
          bus := bus' } := by simp only [powerOn, accepted, if_true]
    rw [opened]
    exact ⟨after, rfl, rfl, rfl, rfl⟩
  | false =>
    obtain ⟨bus', refused, after⟩ := sdCmd8_unknown version first
    simp only [powerOn, refused, if_false, Bool.false_eq_true]
    exact ⟨sdCmd0_card profile after, rfl, rfl, rfl, rfl⟩

/-! ## The loop -/

/-- A mask that misses some bits leaves only the others. -/
theorem masked_or (value mask other bits : UInt32) (apart : mask &&& bits = 0) :
    (value &&& mask ||| other) &&& bits = other &&& bits := by
  have apart' : mask.toBitVec &&& bits.toBitVec = 0 := congrArg UInt32.toBitVec apart
  apply UInt32.toBitVec_inj.mp
  apply BitVec.eq_of_getLsbD_eq
  intro i inside
  have bit := congrArg (BitVec.getLsbD · i) apart'
  simp only [UInt32.toBitVec_and, UInt32.toBitVec_or, BitVec.getLsbD_and, BitVec.getLsbD_or] at bit ⊢
  have zero : (0 : BitVec 32).getLsbD i = false := BitVec.getLsbD_zero
  rw [zero] at bit
  cases level : bits.toBitVec.getLsbD i with
  | false => simp
  | true =>
    rw [level, Bool.and_true] at bit
    simp [bit]

/-- The highest bit of a card's conditions says that it is ready. -/
theorem conditions_ready (profile : Profile) (ready : Bool) :
    (profile.conditions ready &&& 0x80000000 = 0x80000000) ↔ ready = true := by
  rw [Profile.conditions, UInt32.or_assoc, masked_or _ _ _ _ (by decide)]
  cases ready <;> cases profile.highCapacity <;> decide

/-- The next bit says that a card which is ready has a high capacity. -/
theorem conditions_capacity (profile : Profile) :
    (profile.conditions true &&& 0x40000000 != 0) = profile.highCapacity := by
  rw [Profile.conditions, UInt32.or_assoc, masked_or _ _ _ _ (by decide)]
  cases profile.highCapacity <;> decide

end SoundBoard.Sdcard
