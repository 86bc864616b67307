import SoundBoard.Sdcard.Reference

/-!
# Blocks on the data lines

What a read takes from the data lines and what a write puts there, for every card. The two agree
on the format of a block: four start bits, two nibbles for each byte, the high one first. Neither
has a checksum, and a write looks at one line only to learn its outcome.
-/

namespace SoundBoard.Sdcard

open SoundBoard.Lib

variable {κ : Type} {card : Card κ} {bus : Bus κ}

/-! ## Nibbles -/

/-- The nibbles of some bytes, one after the other. -/
theorem nibbles_getD (bytes : List UInt8) (rest : List UInt8) (j : Nat) (inside : j < bytes.length) :
    (bytes.flatMap nibbles ++ rest).getD (2 * j) 0x0F = bytes[j] >>> 4 ∧
      (bytes.flatMap nibbles ++ rest).getD (2 * j + 1) 0x0F = bytes[j] &&& 0x0F := by
  induction bytes generalizing j with
  | nil => exact absurd inside (Nat.not_lt_zero j)
  | cons byte bytes ih =>
    cases j with
    | zero => exact ⟨rfl, rfl⟩
    | succ j => exact ih j (Nat.lt_of_succ_lt_succ inside)

/-- The two nibbles make the byte again. -/
theorem nibbles_join (byte : UInt8) :
    ((byte >>> 4 &&& 0x0F) <<< 4 ||| (byte &&& 0x0F &&& 0x0F)) = byte := by
  have bytes : ∀ i : Fin 256, ((UInt8.ofNat i >>> 4 &&& 0x0F) <<< 4 |||
      (UInt8.ofNat i &&& 0x0F &&& 0x0F)) = UInt8.ofNat i := by decide +kernel
  have value := bytes ⟨byte.toNat, byte.toNat_lt⟩
  rwa [UInt8.ofNat_toNat] at value

/-! ## Reads -/

/-- The wait for data fails while no sample has all four lines low. -/
theorem waitData_none {left : Nat} (other : ∀ k, k < left → seenDat card bus k ≠ 0) :
    waitData card left bus = (false, sdhalDummyClock card left bus) := by
  induction left generalizing bus with
  | zero => rfl
  | succ left ih =>
    have sample : datNibble card (clock card bus) ≠ 0 := other 0 (Nat.succ_pos left)
    have rest : waitData card left (clock card bus) =
        (false, sdhalDummyClock card left (clock card bus)) :=
      ih fun k inside zero => other (k + 1) (Nat.succ_lt_succ inside)
        ((seenDat_clock card bus k).symm.trans zero)
    simp only [waitData, if_neg sample, rest]
    rfl

/-- A block begins at the `m`-th sample: the first with all four lines low. -/
structure BlockAt (card : Card κ) (bus : Bus κ) (m : Nat) : Prop where
  other : ∀ k, k < m → seenDat card bus.receiving k ≠ 0
  start : seenDat card bus.receiving m = 0

/-- `SDHAL_ReadData` without start bits. -/
theorem sdhalReadData_silent (szBuf : Bytes) (nBufLen : Nat)
    (other : ∀ k, k < maxTryData + 2 → seenDat card bus.receiving k ≠ 0) :
    sdhalReadData card szBuf nBufLen bus =
      (false, szBuf, sdhalDummyClock card (maxTryData + 2) bus.receiving) := by
  have wait : waitData card (maxTryData + 2) bus.receiving = (false, _) := waitData_none other
  have unfolded : sdhalReadData card szBuf nBufLen bus =
      if (waitData card (maxTryData + 2) bus.receiving).1 then
        (true, readBytes card nBufLen 0 szBuf (waitData card (maxTryData + 2) bus.receiving).2)
      else (false, szBuf, (waitData card (maxTryData + 2) bus.receiving).2) := rfl
  rw [unfolded, wait]
  simp

/-- The place at which a block begins is unique. -/
theorem BlockAt.unique {m n : Nat} (first : BlockAt card bus m) (second : BlockAt card bus n) :
    m = n := by
  rcases Nat.lt_trichotomy m n with before | same | after
  · exact absurd first.start (second.other m before)
  · exact same
  · exact absurd second.start (first.other n after)

/-- Exactly the blocks that begin among the first samples are read. -/
theorem sdhalReadData_iff (card : Card κ) (szBuf : Bytes) (nBufLen : Nat) (bus : Bus κ) :
    ((sdhalReadData card szBuf nBufLen bus).1 = true ↔
        ∃ k, k < maxTryData + 2 ∧ BlockAt card bus k) ∧
      (∀ k, k < maxTryData + 2 → BlockAt card bus k →
        (sdhalReadData card szBuf nBufLen bus).2.1 = copyAt szBuf 0 (block card bus k) nBufLen) ∧
      ((sdhalReadData card szBuf nBufLen bus).1 = false →
        (sdhalReadData card szBuf nBufLen bus).2.1 = szBuf) := by
  have found : ∀ k, k < maxTryData + 2 → BlockAt card bus k →
      sdhalReadData card szBuf nBufLen bus = (true, copyAt szBuf 0 (block card bus k) nBufLen,
        sdhalDummyClock card (k + 1 + 2 * nBufLen) bus.receiving) :=
    fun k inTime begins => sdhalReadData_found szBuf nBufLen begins.other begins.start inTime
  rcases first_low (fun k => decide (seenDat card bus.receiving k ≠ 0)) (maxTryData + 2)
    with high | ⟨k, inTime, high, low⟩
  · have silent := sdhalReadData_silent szBuf nBufLen fun k inside =>
      of_decide_eq_true (high k inside)
    have none : ∀ k, k < maxTryData + 2 → ¬BlockAt card bus k :=
      fun k inside begins => of_decide_eq_true (high k inside) begins.start
    rw [silent]
    refine ⟨⟨fun success => absurd success Bool.false_ne_true, ?_⟩, ?_, fun _ => rfl⟩
    · rintro ⟨k, inside, begins⟩
      exact absurd begins (none k inside)
    · intro k inside begins
      exact absurd begins (none k inside)
  · have begins : BlockAt card bus k :=
      ⟨fun i inside => of_decide_eq_true (high i inside), of_not_not (of_decide_eq_false low)⟩
    refine ⟨⟨fun _ => ⟨k, inTime, begins⟩, fun _ => ?_⟩, fun i inside other => ?_, fun failed => ?_⟩
    · rw [found k inTime begins]
    · rw [found i inside other]
    · rw [found k inTime begins] at failed
      contradiction

/-- The host and the card behind an answer at the `m`-th sample. -/
def answered (card : Card κ) (szCmd : List UInt8) (m : Nat) (bus : Bus κ) : Bus κ :=
  sdhalDummyClock card (m + 8 * 6 + 8) (sdhalSendCmd card szCmd bus).listening

/-- The card answers a command with a status at the `m`-th sample. -/
structure AnswersAt (card : Card κ) (szCmd : List UInt8) (cmd : UInt8) (status : UInt32)
    (bus : Bus κ) (m : Nat) : Prop where
  inTime : m < maxCnt + 2
  begins : BeginsAt card (sdhalSendCmd card szCmd bus) m
  shows : slice (response card (sdhalSendCmd card szCmd bus) m 6) 0 6 = statusFrame cmd status

/-- A command that is answered as the driver expects. -/
theorem AnswersAt.accept {szCmd : List UInt8} {cmd : UInt8} {status : UInt32} {m : Nat}
    (answers : AnswersAt card szCmd cmd status bus m) :
    accept card szCmd 6 (statusChecks cmd status) bus = (true, answered card szCmd m bus) := by
  have passes := (statusChecks_iff cmd status).mpr answers.shows
  have found := sdhalGetResponse_found (show 0 < 6 by decide) answers.begins answers.inTime
  simp only [Sdcard.accept, exchange, found, Option.any_some, passes]
  rfl

/-- A command that is not fails. -/
theorem accept_refused {szCmd : List UInt8} {cmd : UInt8} {status : UInt32}
    (unanswered : ¬∃ m, AnswersAt card szCmd cmd status bus m) :
    (accept card szCmd 6 (statusChecks cmd status) bus).1 = false := by
  rw [Bool.eq_false_iff]
  intro accepted
  obtain ⟨m, inTime, begins, shows⟩ := (accept_status_iff card szCmd cmd status bus).mp accepted
  exact unanswered ⟨m, inTime, begins, shows⟩

/-- Any other line: `SDLIB_ReadBlock512` succeeds exactly when the card answers `CMD17` with the
status that the driver expects and shows start bits in time. The buffer then holds what the lines
show behind the start bits, whatever comes after; otherwise it keeps what it had. -/
theorem sdlibReadBlock512_iff (card : Card κ) (blockNumber : UInt32) (buff : Bytes)
    (d : Driver κ) :
    let szCmd := argPacket 17 (d.gSdInfo.addr blockNumber)
    let result := sdlibReadBlock512 card blockNumber buff d
    (result.1 = true ↔ ∃ m k, AnswersAt card szCmd 17 tranStatus d.bus m ∧
        k < maxTryData + 2 ∧ BlockAt card (answered card szCmd m d.bus) k) ∧
      (∀ m k, AnswersAt card szCmd 17 tranStatus d.bus m → k < maxTryData + 2 →
        BlockAt card (answered card szCmd m d.bus) k →
          result.2.1 = copyAt buff 0 (block card (answered card szCmd m d.bus) k) 512) ∧
      (result.1 = false → result.2.1 = buff) := by
  intro szCmd result
  by_cases answer : ∃ m, AnswersAt card szCmd 17 tranStatus d.bus m
  · obtain ⟨m, answers⟩ := answer
    have same : ∀ n, AnswersAt card szCmd 17 tranStatus d.bus n → n = m :=
      fun n other => other.begins.unique answers.begins
    have command : sdCmd17 card (d.gSdInfo.addr blockNumber) d.bus =
        (true, answered card szCmd m d.bus) := answers.accept
    have success : result.1 = (sdhalReadData card buff 512 (answered card szCmd m d.bus)).1 := by
      simp only [result, sdlibReadBlock512, command, if_true, sdReadData]
    have buffer : result.2.1 = (sdhalReadData card buff 512 (answered card szCmd m d.bus)).2.1 := by
      simp only [result, sdlibReadBlock512, command, if_true, sdReadData]
    obtain ⟨reads, bytes, kept⟩ := sdhalReadData_iff card buff 512 (answered card szCmd m d.bus)
    rw [success, buffer]
    refine ⟨⟨fun done => ?_, ?_⟩, ?_, kept⟩
    · obtain ⟨k, inTime, begins⟩ := reads.mp done
      exact ⟨m, k, answers, inTime, begins⟩
    · rintro ⟨n, k, other, inTime, begins⟩
      rw [same n other] at begins
      exact reads.mpr ⟨k, inTime, begins⟩
    · intro n k other inTime begins
      rw [same n other] at begins ⊢
      exact bytes k inTime begins
  · have refused : (sdCmd17 card (d.gSdInfo.addr blockNumber) d.bus).1 = false :=
      accept_refused answer
    have success : result.1 = false := by
      simp only [result, sdlibReadBlock512, refused, Bool.false_eq_true, if_false]
    have buffer : result.2.1 = buff := by
      simp only [result, sdlibReadBlock512, refused, Bool.false_eq_true, if_false]
    rw [success, buffer]
    refine ⟨⟨fun done => absurd done Bool.false_ne_true, ?_⟩, ?_, fun _ => rfl⟩
    · rintro ⟨n, k, other, -, -⟩
      exact absurd ⟨n, other⟩ answer
    · intro n k other _ _
      exact absurd ⟨n, other⟩ answer

/-! ## Writes -/

/-- A card with a recorder of the levels that the host drives on the data lines. -/
def Card.tapped (card : Card κ) : Card (κ × List UInt8) where
  fall k lines := (card.fall k.1 lines, k.2)
  rise k lines := (card.rise k.1 lines, k.2 ++ lines.dat.toList)
  cmd k := card.cmd k.1
  dat k := card.dat k.1

/-- What the recorder has kept. -/
def Bus.tape (bus : Bus (κ × List UInt8)) : List UInt8 := bus.card.2

@[simp] theorem clkLow_datOut (card : Card κ) (bus : Bus κ) :
    (clkLow card bus).datOut = bus.datOut := by
  unfold clkLow
  split <;> rfl

@[simp] theorem clkHigh_datOut (card : Card κ) (bus : Bus κ) :
    (clkHigh card bus).datOut = bus.datOut := by
  unfold clkHigh
  split <;> rfl

@[simp] theorem clkLow_tape (card : Card κ) (bus : Bus (κ × List UInt8)) :
    (clkLow card.tapped bus).tape = bus.tape := by
  unfold clkLow
  split <;> rfl

/-- A rising edge records the levels that are driven. -/
theorem clkHigh_tape (card : Card κ) {bus : Bus (κ × List UInt8)} (low : bus.clk = false) :
    (clkHigh card.tapped bus).tape = bus.tape ++ (if bus.datOut then [bus.dat] else []) := by
  unfold clkHigh
  rw [low]
  cases out : bus.datOut <;> simp [Bus.tape, Card.tapped, Bus.lines, out]

/-- While the host reads, clocks record nothing. -/
theorem clock_tape (card : Card κ) {bus : Bus (κ × List UInt8)} (reading : bus.datOut = false) :
    (clock card.tapped bus).tape = bus.tape ∧ (clock card.tapped bus).datOut = false := by
  have kept : (clkLow card.tapped bus).datOut = false := by rw [clkLow_datOut, reading]
  refine ⟨?_, ?_⟩
  · rw [clock, clkHigh_tape card (clkLow_clk _ _), kept, clkLow_tape]
    simp
  · rw [clock, clkHigh_datOut, kept]

/-- Nor do several. -/
theorem sdhalDummyClock_tape (card : Card κ) (n : Nat) {bus : Bus (κ × List UInt8)}
    (reading : bus.datOut = false) : (sdhalDummyClock card.tapped n bus).tape = bus.tape := by
  induction n generalizing bus with
  | zero => rfl
  | succ n ih =>
    obtain ⟨tape, still⟩ := clock_tape card reading
    rw [sdhalDummyClock, ih still, tape]

/-- The wait for the card records nothing. -/
theorem waitReleased_tape (card : Card κ) (left : Nat) {bus : Bus (κ × List UInt8)}
    (reading : bus.datOut = false) :
    (waitReleased card.tapped left bus).2.tape = bus.tape ∧
      (waitReleased card.tapped left bus).2.datOut = false := by
  induction left generalizing bus with
  | zero => exact ⟨rfl, reading⟩
  | succ left ih =>
    obtain ⟨tape, still⟩ := clock_tape card reading
    simp only [waitReleased]
    split
    · exact ⟨tape, still⟩
    · rw [← tape]
      exact ih still

/-- A nibble that is sent is recorded. -/
theorem sendNibble_tape (card : Card κ) (data4 : UInt8) {bus : Bus (κ × List UInt8)}
    (driving : bus.datOut = true) :
    (sendNibble card.tapped data4 bus).tape = bus.tape ++ [data4] ∧
      (sendNibble card.tapped data4 bus).datOut = true := by
  have low : ({ clkLow card.tapped bus with dat := data4 } : Bus (κ × List UInt8)).clk = false :=
    clkLow_clk _ _
  have kept : (clkLow card.tapped bus).datOut = true := by rw [clkLow_datOut, driving]
  refine ⟨?_, ?_⟩
  · rw [sendNibble, clkHigh_tape card low]
    simp only [kept, if_true]
    exact congrArg (· ++ [data4]) (clkLow_tape card bus)
  · rw [sendNibble, clkHigh_datOut]
    exact kept

/-- The two nibbles of a byte are recorded. -/
theorem sendNibbles_tape (card : Card κ) (data8 : UInt8) {bus : Bus (κ × List UInt8)}
    (driving : bus.datOut = true) :
    (sendNibbles card.tapped bus data8).tape = bus.tape ++ nibbles data8 ∧
      (sendNibbles card.tapped bus data8).datOut = true := by
  have bytes : ∀ i : Fin 256, [(UInt8.ofNat i >>> 4) &&& 0x0F, ((UInt8.ofNat i <<< 4) >>> 4) &&& 0x0F] =
      nibbles (UInt8.ofNat i) := by decide +kernel
  have halves := bytes ⟨data8.toNat, data8.toNat_lt⟩
  rw [UInt8.ofNat_toNat] at halves
  obtain ⟨high, still⟩ := sendNibble_tape card ((data8 >>> 4) &&& 0x0F) driving
  obtain ⟨low, still'⟩ := sendNibble_tape card (((data8 <<< 4) >>> 4) &&& 0x0F) still
  refine ⟨?_, still'⟩
  rw [sendNibbles, low, high, ← halves, List.append_assoc]
  rfl

/-- The nibbles of some bytes are recorded in their order. -/
theorem foldl_sendNibbles_tape (card : Card κ) (szDataWrite : List UInt8)
    {bus : Bus (κ × List UInt8)} (driving : bus.datOut = true) :
    (szDataWrite.foldl (sendNibbles card.tapped) bus).tape =
        bus.tape ++ szDataWrite.flatMap nibbles ∧
      (szDataWrite.foldl (sendNibbles card.tapped) bus).datOut = true := by
  induction szDataWrite generalizing bus with
  | nil => exact ⟨(List.append_nil _).symm, driving⟩
  | cons data8 szDataWrite ih =>
    obtain ⟨first, still⟩ := sendNibbles_tape card data8 driving
    obtain ⟨rest, still'⟩ := ih still
    refine ⟨?_, still'⟩
    rw [List.foldl_cons, rest, first, List.flatMap_cons, List.append_assoc]

/-- The host and the card behind the end bits of a write. -/
def written (card : Card κ) (szDataWrite : List UInt8) (bus : Bus κ) : Bus κ :=
  { sendNibble card 0x0F (szDataWrite.foldl (sendNibbles card)
      (sendNibble card 0x00 { bus with datOut := true })) with datOut := false }

/-- A write puts start bits, the nibbles of its bytes and end bits on the data lines, whatever
the card does, and nothing else. -/
theorem sdhalWriteData_tape (card : Card κ) (szDataWrite : List UInt8)
    (bus : Bus (κ × List UInt8)) :
    (sdhalWriteData card.tapped szDataWrite bus).2.tape =
      bus.tape ++ ([0x00] ++ szDataWrite.flatMap nibbles ++ [0x0F]) := by
  obtain ⟨started, driving⟩ := sendNibble_tape card 0x00
    (show ({ bus with datOut := true } : Bus (κ × List UInt8)).datOut = true from rfl)
  obtain ⟨sent, driving'⟩ := foldl_sendNibbles_tape card szDataWrite driving
  obtain ⟨ended, -⟩ := sendNibble_tape card 0x0F driving'
  obtain ⟨waited, reading⟩ := waitReleased_tape card 32
    (show (written card.tapped szDataWrite bus).datOut = false from rfl)
  have wire : (sdhalWriteData card.tapped szDataWrite bus).2.tape =
      (waitReleased card.tapped 32 (written card.tapped szDataWrite bus)).2.tape :=
    sdhalDummyClock_tape card 8 reading
  rw [wire, waited]
  refine ended.trans ?_
  rw [sent, started, List.append_assoc, List.append_assoc]
  rfl

/-- The wait for the card, in samples. -/
theorem waitReleased_iff (card : Card κ) (left : Nat) (bus : Bus κ) :
    (waitReleased card left bus).1 = true ↔
      ∃ k, k < left ∧ card.dat (sdhalDummyClock card (k + 1) bus).card &&& 0x01 = 0x01 := by
  induction left generalizing bus with
  | zero =>
    refine ⟨fun success => absurd success Bool.false_ne_true, ?_⟩
    rintro ⟨k, inside, -⟩
    exact absurd inside (Nat.not_lt_zero k)
  | succ left ih =>
    simp only [waitReleased]
    by_cases released : card.dat (clock card bus).card &&& 0x01 = 0x01
    · rw [if_pos released]
      exact ⟨fun _ => ⟨0, Nat.succ_pos left, released⟩, fun _ => rfl⟩
    · rw [if_neg released, ih]
      constructor
      · rintro ⟨k, inside, level⟩
        exact ⟨k + 1, Nat.succ_lt_succ inside, level⟩
      · rintro ⟨k, inside, level⟩
        cases k with
        | zero => exact absurd level released
        | succ k => exact ⟨k, Nat.lt_of_succ_lt_succ inside, level⟩

/-- `SDLIB_WriteBlock512` succeeds exactly when the card answers `CMD24` with the status that the
driver expects and its first data line is high at one of the next 32 samples: the status that
the card sends for the block is not looked at. -/
theorem sdlibWriteBlock512_iff (card : Card κ) (blockNumber : UInt32) (szDataWrite : List UInt8)
    (d : Driver κ) :
    let szCmd := argPacket 24 (d.gSdInfo.addr blockNumber)
    (sdlibWriteBlock512 card blockNumber szDataWrite d).1 = true ↔
      ∃ m k, AnswersAt card szCmd 24 tranStatus d.bus m ∧ k < 32 ∧
        card.dat (sdhalDummyClock card (k + 1)
          (written card szDataWrite (answered card szCmd m d.bus))).card &&& 0x01 = 0x01 := by
  intro szCmd
  by_cases answer : ∃ m, AnswersAt card szCmd 24 tranStatus d.bus m
  · obtain ⟨m, answers⟩ := answer
    have command : sdCmd24 card (d.gSdInfo.addr blockNumber) d.bus =
        (true, answered card szCmd m d.bus) := answers.accept
    have waits : (sdlibWriteBlock512 card blockNumber szDataWrite d).1 =
        (waitReleased card 32 (written card szDataWrite (answered card szCmd m d.bus))).1 := by
      simp only [sdlibWriteBlock512, command, if_true]
      rfl
    rw [waits, waitReleased_iff]
    constructor
    · rintro ⟨k, inside, level⟩
      exact ⟨m, k, answers, inside, level⟩
    · rintro ⟨n, k, other, inside, level⟩
      rw [other.begins.unique answers.begins] at level
      exact ⟨k, inside, level⟩
  · have refused : (sdCmd24 card (d.gSdInfo.addr blockNumber) d.bus).1 = false :=
      accept_refused answer
    have failed : (sdlibWriteBlock512 card blockNumber szDataWrite d).1 = false := by
      simp only [sdlibWriteBlock512, refused, Bool.false_eq_true, if_false]
    rw [failed]
    refine ⟨fun done => absurd done Bool.false_ne_true, ?_⟩
    rintro ⟨n, k, other, -, -⟩
    exact absurd ⟨n, other⟩ answer

/-! ## Round trip -/

/-- A card that shows some levels on its data lines, one after each falling edge. -/
def replayer : Card (List UInt8) where
  fall k _ := k.tail
  rise k _ := k
  cmd _ := true
  dat k := k.headD 0x0F

/-- Its levels are seen one after the other. -/
theorem seenDat_replayer (levels : List UInt8) (k : Nat) {bus : Bus (List UInt8)}
    (high : bus.clk = true) (shows : bus.card = 0x0F :: levels) :
    seenDat replayer bus k = levels.getD k 0x0F &&& 0x0F := by
  have moved : ∀ n (bus : Bus (List UInt8)), bus.clk = true →
      (sdhalDummyClock replayer n bus).card = bus.card.drop n := by
    intro n
    induction n with
    | zero => intro bus _; rfl
    | succ n ih =>
      intro bus high
      have step : (clock replayer bus).card = bus.card.tail ∧ (clock replayer bus).clk = true := by
        refine ⟨?_, clkHigh_clk _ _⟩
        simp only [clock, clkLow, clkHigh, high, if_true]
        rfl
      rw [sdhalDummyClock, ih _ step.2, step.1, List.drop_tail]
  have later := moved (k + 1) bus high
  rw [shows, List.drop_succ_cons] at later
  rw [seenDat, datNibble]
  show (sdhalDummyClock replayer (k + 1) bus).card.headD 0x0F &&& 0x0F = _
  rw [later, List.headD_eq_head?_getD, List.head?_drop, List.getD_eq_getElem?_getD]

/-- What a write puts on the data lines, a read takes from them: a card that shows the levels
again gives back the bytes, however many they are and whatever the first card did. -/
theorem sdhalReadData_written (card : Card κ) (szDataWrite : List UInt8) (szBuf : Bytes)
    {bus : Bus (κ × List UInt8)} {bus' : Bus (List UInt8)} (blank : bus.tape = [])
    (high : bus'.clk = true)
    (shows : bus'.card = 0x0F :: (sdhalWriteData card.tapped szDataWrite bus).2.tape) :
    (sdhalReadData replayer szBuf szDataWrite.length bus').1 = true ∧
      (sdhalReadData replayer szBuf szDataWrite.length bus').2.1 =
        copyAt szBuf 0 (fun i => szDataWrite.getD i 0) szDataWrite.length := by
  rw [sdhalWriteData_tape, blank, List.nil_append] at shows
  have sample : ∀ k, seenDat replayer bus'.receiving k =
      (0x00 :: (szDataWrite.flatMap nibbles ++ [0x0F])).getD k 0x0F &&& 0x0F :=
    fun k => seenDat_replayer _ k high shows
  have start : seenDat replayer bus'.receiving 0 = 0 := by
    rw [sample, List.getD_cons_zero]
    decide
  have found := sdhalReadData_found szBuf szDataWrite.length
    (fun k before => absurd before (Nat.not_lt_zero k)) start (show 0 < maxTryData + 2 by decide)
  rw [found]
  refine ⟨rfl, copyAt_congr _ _ _ _ _ fun i inside => ?_⟩
  obtain ⟨upper, lower⟩ := nibbles_getD szDataWrite [0x0F] i inside
  have byte : szDataWrite.getD i 0 = szDataWrite[i] := by
    rw [List.getD_eq_getElem?_getD, List.getElem?_eq_getElem inside, Option.getD_some]
  have places : 0 + 1 + 2 * i = 2 * i + 1 ∧ 2 * i + 1 + 1 = (2 * i + 1) + 1 := by omega
  rw [block, seenDatByte, places.1, sample, sample, List.getD_cons_succ, List.getD_cons_succ, upper,
    lower, byte]
  exact nibbles_join szDataWrite[i]

/-- A socket without a card, whose lines are pulled up. -/
def emptySocket : Card Unit := ⟨fun k _ => k, fun k _ => k, fun _ => true, fun _ => 0x0F⟩

/-- Two bytes that were written into an empty socket are read again. -/
theorem sdhalReadData_written_two :
    let written := (sdhalWriteData emptySocket.tapped [0x12, 0xEF]
      ⟨((), []), true, true, true, false, 0⟩).2.tape
    (sdhalReadData replayer (fun _ => 0) 2 ⟨0x0F :: written, true, false, true, false, 0⟩).2.1 =
      copyAt (fun _ => 0) 0 (fun i => [0x12, 0xEF].getD i 0) 2 :=
  (@sdhalReadData_written Unit emptySocket [0x12, 0xEF] (fun _ => 0)
    ⟨((), []), true, true, true, false, 0⟩ _ rfl rfl rfl).2

end SoundBoard.Sdcard
