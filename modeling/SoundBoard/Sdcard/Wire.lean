import SoundBoard.Sdcard.SdLib

/-!
# What crosses the pins

The routines of `sd_hal.c` seen from the lines. A command is one bit for each rising edge; a
response or a block is what the card shows after the next rising edges, from the first one that
has its start bits on. These hold for every card.
-/

namespace SoundBoard.Sdcard

open SoundBoard.Lib

variable {κ : Type} {card : Card κ} {bus : Bus κ}

/-! ## The pins -/

@[simp] theorem clkLow_clk (card : Card κ) (bus : Bus κ) : (clkLow card bus).clk = false := by
  unfold clkLow
  split
  · rfl
  · rename_i low
    exact Bool.eq_false_iff.mpr low

@[simp] theorem clkHigh_clk (card : Card κ) (bus : Bus κ) : (clkHigh card bus).clk = true := by
  unfold clkHigh
  split
  · assumption
  · rfl

@[simp] theorem clkLow_cmdOut (card : Card κ) (bus : Bus κ) :
    (clkLow card bus).cmdOut = bus.cmdOut := by
  unfold clkLow
  split <;> rfl

@[simp] theorem clkHigh_cmdOut (card : Card κ) (bus : Bus κ) :
    (clkHigh card bus).cmdOut = bus.cmdOut := by
  unfold clkHigh
  split <;> rfl

@[simp] theorem clkLow_cmd (card : Card κ) (bus : Bus κ) : (clkLow card bus).cmd = bus.cmd := by
  unfold clkLow
  split <;> rfl

@[simp] theorem clkHigh_cmd (card : Card κ) (bus : Bus κ) : (clkHigh card bus).cmd = bus.cmd := by
  unfold clkHigh
  split <;> rfl

/-! ## Commands -/

/-- Bits one after the other. -/
def sendBits (card : Card κ) (bits : List Bool) (bus : Bus κ) : Bus κ :=
  bits.foldl (fun bus bit => sendBit card bit bus) bus

@[simp] theorem sendBits_nil (card : Card κ) (bus : Bus κ) : sendBits card [] bus = bus := rfl

@[simp] theorem sendBits_cons (card : Card κ) (bit : Bool) (bits : List Bool) (bus : Bus κ) :
    sendBits card (bit :: bits) bus = sendBits card bits (sendBit card bit bus) := rfl

theorem sendBits_append (card : Card κ) (first second : List Bool) (bus : Bus κ) :
    sendBits card (first ++ second) bus = sendBits card second (sendBits card first bus) :=
  List.foldl_append

/-- The loop of `SDHAL_SendCmd` over a byte sends the bits under the mask. -/
theorem sendByte_eq (card : Card κ) (data : UInt8) (left : Nat) (mask : UInt8) (bus : Bus κ) :
    sendByte card data left mask bus = sendBits card (maskBits data left mask) bus := by
  induction left generalizing mask bus with
  | zero => rfl
  | succ left ih => exact ih _ _

/-- `SDHAL_SendCmd` sends the bits of its bytes. -/
theorem sdhalSendCmd_eq (card : Card κ) (szCommand : List UInt8) (bus : Bus κ) :
    sdhalSendCmd card szCommand bus =
      sendBits card (bitsOf szCommand) { bus with cmdOut := true } := by
  suffices general : ∀ bus : Bus κ,
      szCommand.foldl (fun bus data => sendByte card data 8 0x80 bus) bus =
        sendBits card (bitsOf szCommand) bus from general _
  induction szCommand with
  | nil => intro bus; rfl
  | cons data szCommand ih =>
    intro bus
    rw [List.foldl_cons, ih, sendByte_eq, maskBits_eq, bitsOf_cons, sendBits_append]

/-! ## Samples -/

/-- Clocks follow one another. -/
theorem sdhalDummyClock_add (card : Card κ) (first second : Nat) (bus : Bus κ) :
    sdhalDummyClock card (first + second) bus =
      sdhalDummyClock card second (sdhalDummyClock card first bus) := by
  induction first generalizing bus with
  | zero => rw [Nat.zero_add]; rfl
  | succ first ih => rw [Nat.succ_add]; exact ih _

/-- One clock more. -/
theorem sdhalDummyClock_succ (card : Card κ) (n : Nat) (bus : Bus κ) :
    sdhalDummyClock card (n + 1) bus = clock card (sdhalDummyClock card n bus) :=
  sdhalDummyClock_add card n 1 bus

/-- The command line after the `k`-th rising edge from here. -/
def seen (card : Card κ) (bus : Bus κ) (k : Nat) : Bool :=
  card.cmd (sdhalDummyClock card (k + 1) bus).card

/-- The data lines after the `k`-th rising edge from here. -/
def seenDat (card : Card κ) (bus : Bus κ) (k : Nat) : UInt8 :=
  datNibble card (sdhalDummyClock card (k + 1) bus)

/-- Samples from a later moment. -/
theorem seen_later (card : Card κ) (n : Nat) (bus : Bus κ) (k : Nat) :
    seen card (sdhalDummyClock card n bus) k = seen card bus (n + k) := by
  rw [seen, seen, ← sdhalDummyClock_add, Nat.add_assoc]

/-- Data samples from a later moment. -/
theorem seenDat_later (card : Card κ) (n : Nat) (bus : Bus κ) (k : Nat) :
    seenDat card (sdhalDummyClock card n bus) k = seenDat card bus (n + k) := by
  rw [seenDat, seenDat, ← sdhalDummyClock_add, Nat.add_assoc]

/-- Samples from one clock later. -/
theorem seen_clock (card : Card κ) (bus : Bus κ) (k : Nat) :
    seen card (clock card bus) k = seen card bus (k + 1) := by
  rw [Nat.add_comm]
  exact seen_later card 1 bus k

/-- Data samples from one clock later. -/
theorem seenDat_clock (card : Card κ) (bus : Bus κ) (k : Nat) :
    seenDat card (clock card bus) k = seenDat card bus (k + 1) := by
  rw [Nat.add_comm]
  exact seenDat_later card 1 bus k

/-- The wait ends at the first sample with the line low, if that comes in time. -/
theorem waitStart_found {left m : Nat} (high : ∀ k, k < m → seen card bus k = true)
    (low : seen card bus m = false) (inTime : m < left) :
    waitStart card left bus = (true, sdhalDummyClock card (m + 1) bus) := by
  induction m generalizing left bus with
  | zero =>
    obtain ⟨left, rfl⟩ := Nat.exists_eq_succ_of_ne_zero (Nat.ne_of_gt inTime)
    have sample : card.cmd (clock card bus).card = false := low
    simp only [waitStart, sample, Bool.false_eq_true, if_false]
    rfl
  | succ m ih =>
    obtain ⟨left, rfl⟩ := Nat.exists_eq_succ_of_ne_zero (Nat.ne_of_gt (Nat.zero_lt_of_lt inTime))
    have sample : card.cmd (clock card bus).card = true := high 0 (Nat.succ_pos m)
    have rest : waitStart card left (clock card bus) =
        (true, sdhalDummyClock card (m + 1) (clock card bus)) :=
      ih (fun k inside => (seen_clock card bus k).trans (high (k + 1) (Nat.succ_lt_succ inside)))
        ((seen_clock card bus m).trans low) (Nat.lt_of_succ_lt_succ inTime)
    simp only [waitStart, sample, if_true, rest]
    rfl

/-- The wait fails while the line stays high. -/
theorem waitStart_none {left : Nat} (high : ∀ k, k < left → seen card bus k = true) :
    waitStart card left bus = (false, sdhalDummyClock card left bus) := by
  induction left generalizing bus with
  | zero => rfl
  | succ left ih =>
    have sample : card.cmd (clock card bus).card = true := high 0 (Nat.succ_pos left)
    have rest : waitStart card left (clock card bus) =
        (false, sdhalDummyClock card left (clock card bus)) :=
      ih fun k inside => (seen_clock card bus k).trans (high (k + 1) (Nat.succ_lt_succ inside))
    simp only [waitStart, sample, if_true, rest]
    rfl

/-! ## Responses -/

/-- A bit of a response in its place. -/
def place (r : Nat) (bit : Bool) (value : UInt8) : UInt8 :=
  if bit then value ||| (0x80 >>> UInt8.ofNat r) else value

/-- A pass inside a byte. -/
theorem readContent_inside (card : Card κ) {r : Nat} (inside : r < 7) (i left : Nat)
    (value : UInt8) (szResponse : Bytes) (bus : Bus κ) :
    readContent card (left + 1) (8 * i + r) value szResponse bus =
      readContent card left (8 * i + (r + 1)) (place r (seen card bus 0) value) szResponse
        (clock card bus) := by
  have position : (8 * i + r) % 8 = r := by omega
  have notLast : ¬(8 * i + r) % 8 = 7 := by omega
  rw [readContent, if_neg notLast, position]
  rfl

/-- The pass that completes a byte. -/
theorem readContent_last (card : Card κ) (i left : Nat) (value : UInt8) (szResponse : Bytes)
    (bus : Bus κ) :
    readContent card (left + 1) (8 * i + 7) value szResponse bus =
      readContent card left (8 * (i + 1)) 0
        (Function.update szResponse i (place 7 (seen card bus 0) value)) (clock card bus) := by
  have position : (8 * i + 7) % 8 = 7 := by omega
  have byte : (8 * i + 7) / 8 = i := by omega
  rw [readContent, if_pos position, position, byte]
  rfl

/-- Eight bits in their places make their byte. -/
theorem place_byte (b : Fin 8 → Bool) :
    place 7 (b 7) (place 6 (b 6) (place 5 (b 5) (place 4 (b 4) (place 3 (b 3) (place 2 (b 2)
      (place 1 (b 1) (place 0 (b 0) 0))))))) =
      byteOf [b 0, b 1, b 2, b 3, b 4, b 5, b 6, b 7] := by
  have bits : ∀ b0 b1 b2 b3 b4 b5 b6 b7 : Bool,
      place 7 b7 (place 6 b6 (place 5 b5 (place 4 b4 (place 3 b3 (place 2 b2
        (place 1 b1 (place 0 b0 0))))))) = byteOf [b0, b1, b2, b3, b4, b5, b6, b7] := by
    decide +kernel
  exact bits _ _ _ _ _ _ _ _

/-- The eight samples from a place on, as a byte. -/
def seenByte (card : Card κ) (bus : Bus κ) (start : Nat) : UInt8 :=
  byteOf ((List.range 8).map fun k => seen card bus (start + k))

/-- Eight passes read a byte. -/
theorem readContent_byte (card : Card κ) (i left : Nat) (szResponse : Bytes) (bus : Bus κ) :
    readContent card (left + 8) (8 * i) 0 szResponse bus =
      readContent card left (8 * (i + 1)) 0
        (Function.update szResponse i (seenByte card bus 0)) (sdhalDummyClock card 8 bus) := by
  have start : readContent card (left + 8) (8 * i) 0 szResponse bus =
      readContent card (left + 7) (8 * i + 1) (place 0 (seen card bus 0) 0) szResponse
        (clock card bus) := readContent_inside card (r := 0) (by decide) i (left + 7) 0 szResponse bus
  rw [start, readContent_inside card (by decide), readContent_inside card (by decide),
    readContent_inside card (by decide), readContent_inside card (by decide),
    readContent_inside card (by decide), readContent_inside card (by decide), readContent_last]
  have byte := place_byte fun k => seen card bus k
  have same : seenByte card bus 0 = byteOf [seen card bus 0, seen card bus 1, seen card bus 2,
      seen card bus 3, seen card bus 4, seen card bus 5, seen card bus 6, seen card bus 7] := by
    simp [seenByte, List.range_succ]
  rw [same]
  exact congrArg (fun value => readContent card left (8 * (i + 1)) 0
    (Function.update szResponse i value) (sdhalDummyClock card 8 bus)) byte

/-- A byte from a later moment. -/
theorem seenByte_later (card : Card κ) (n : Nat) (bus : Bus κ) (start : Nat) :
    seenByte card (sdhalDummyClock card n bus) start = seenByte card bus (n + start) := by
  simp only [seenByte, seen_later, Nat.add_assoc]

/-- Whole bytes are read one after the other. -/
theorem readContent_bytes (card : Card κ) (n i : Nat) (szResponse : Bytes) (bus : Bus κ) :
    readContent card (8 * n) (8 * i) 0 szResponse bus =
      (copyAt szResponse i (fun j => seenByte card bus (8 * j)) n,
        sdhalDummyClock card (8 * n) bus) := by
  induction n generalizing i szResponse bus with
  | zero =>
    have nothing : copyAt szResponse i (fun j => seenByte card bus (8 * j)) 0 = szResponse := by
      funext j
      exact copyAt_outside _ _ _ _ _ (by omega)
    rw [nothing]
    rfl
  | succ n ih =>
    rw [show 8 * (n + 1) = 8 * n + 8 from rfl, readContent_byte, ih, ← sdhalDummyClock_add,
      Nat.add_comm 8]
    congr 1
    funext j
    by_cases inside : i ≤ j ∧ j < i + (n + 1)
    · rw [copyAt_inside _ i _ _ _ inside.1 inside.2]
      by_cases first : j = i
      · subst first
        rw [copyAt_outside _ _ _ _ _ (by omega), Function.update_self, Nat.sub_self]
      · have place : 8 + 8 * (j - (i + 1)) = 8 * (j - i) := by omega
        rw [copyAt_inside _ _ _ _ _ (by omega) (by omega), seenByte_later, place]
    · rw [copyAt_outside _ i _ _ _ (by omega), copyAt_outside _ _ _ _ _ (by omega),
        Function.update_of_ne (by omega)]

/-- The first six passes complete the byte whose first two bits are the start bits. -/
theorem readContent_first (card : Card κ) (left : Nat) (szResponse : Bytes) (bus : Bus κ) :
    readContent card (left + 6) 2 0 szResponse bus =
      readContent card left 8 0
        (Function.update szResponse 0 (byteOf ([false, false] ++
          (List.range 6).map (seen card bus)))) (sdhalDummyClock card 6 bus) := by
  have start : readContent card (left + 6) 2 0 szResponse bus =
      readContent card (left + 5) (8 * 0 + 3) (place 2 (seen card bus 0) 0) szResponse
        (clock card bus) := readContent_inside card (r := 2) (by decide) 0 (left + 5) 0 szResponse bus
  rw [start, readContent_inside card (by decide), readContent_inside card (by decide),
    readContent_inside card (by decide), readContent_inside card (by decide), readContent_last]
  have byte := place_byte ![false, false, seen card bus 0, seen card bus 1, seen card bus 2,
    seen card bus 3, seen card bus 4, seen card bus 5]
  have same : byteOf ([false, false] ++ (List.range 6).map (seen card bus)) =
      byteOf [false, false, seen card bus 0, seen card bus 1, seen card bus 2, seen card bus 3,
        seen card bus 4, seen card bus 5] := by simp [List.range_succ]
  rw [same]
  exact congrArg (fun value => readContent card left 8 0
    (Function.update szResponse 0 value) (sdhalDummyClock card 6 bus)) byte

/-- The host stops driving the command line. -/
def Bus.listening (bus : Bus κ) : Bus κ := { bus with cmdOut := false }

/-- The bytes that the command line shows from the `m`-th sample on. -/
def response (card : Card κ) (bus : Bus κ) (m nLen : Nat) : Bytes :=
  copyAt (fun _ => 0) 0 (fun j => seenByte card bus.listening (m + 8 * j)) nLen

/-- A response begins at the `m`-th sample: the first at which the line is low, and it is low
at the next as well. -/
structure BeginsAt (card : Card κ) (bus : Bus κ) (m : Nat) : Prop where
  high : ∀ k, k < m → seen card bus.listening k = true
  start : seen card bus.listening m = false
  transmitter : seen card bus.listening (m + 1) = false

/-- `SDHAL_GetResponse`, with its waits named. -/
theorem sdhalGetResponse_unfold (card : Card κ) (nLen : Nat) (bus : Bus κ) :
    sdhalGetResponse card nLen bus =
      if (waitStart card (maxCnt + 2) bus.listening).1 then
        if card.cmd (clock card (waitStart card (maxCnt + 2) bus.listening).2).card then
          (none, clock card (waitStart card (maxCnt + 2) bus.listening).2)
        else
          (some (readContent card (nLen * 8 - 2) 2 0 (fun _ => 0)
            (clock card (waitStart card (maxCnt + 2) bus.listening).2)).1,
            sdhalDummyClock card 8 (readContent card (nLen * 8 - 2) 2 0 (fun _ => 0)
              (clock card (waitStart card (maxCnt + 2) bus.listening).2)).2)
      else (none, (waitStart card (maxCnt + 2) bus.listening).2) := rfl

/-- A response that begins in time is read as it is shown, with eight clocks behind it. -/
theorem sdhalGetResponse_found {nLen m : Nat} (some : 0 < nLen) (begins : BeginsAt card bus m)
    (inTime : m < maxCnt + 2) :
    sdhalGetResponse card nLen bus = (Option.some (response card bus m nLen),
      sdhalDummyClock card (m + 8 * nLen + 8) bus.listening) := by
  have wait : waitStart card (maxCnt + 2) bus.listening = (true, _) :=
    waitStart_found begins.high begins.start inTime
  have next : clock card (sdhalDummyClock card (m + 1) bus.listening) =
      sdhalDummyClock card (m + 2) bus.listening := (sdhalDummyClock_succ _ _ _).symm
  have second : card.cmd (sdhalDummyClock card (m + 2) bus.listening).card = false :=
    begins.transmitter
  obtain ⟨n, rfl⟩ := Nat.exists_eq_succ_of_ne_zero (Nat.ne_of_gt some)
  have content : readContent card ((n + 1) * 8 - 2) 2 0 (fun _ => 0)
      (sdhalDummyClock card (m + 2) bus.listening) =
      (response card bus m (n + 1), sdhalDummyClock card (m + 8 * (n + 1)) bus.listening) := by
    have rest := readContent_bytes card n 1 (Function.update (fun _ => 0) 0 (byteOf ([false, false] ++
      (List.range 6).map (seen card (sdhalDummyClock card (m + 2) bus.listening)))))
      (sdhalDummyClock card 6 (sdhalDummyClock card (m + 2) bus.listening))
    rw [show (n + 1) * 8 - 2 = 8 * n + 6 by omega, readContent_first]
    refine rest.trans (Prod.ext ?_ ?_)
    · funext j
      simp only [response]
      by_cases inside : j < n + 1
      · rw [copyAt_inside _ 0 _ _ _ (Nat.zero_le j) (by omega), Nat.sub_zero]
        cases j with
        | zero =>
          rw [copyAt_outside _ _ _ _ _ (by omega), Function.update_self]
          simp [seenByte, List.range_succ, seen_later, begins.start, begins.transmitter,
            Nat.add_assoc]
        | succ j =>
          have place : m + 2 + (6 + 8 * j) = m + 8 * (j + 1) := by omega
          rw [copyAt_inside _ _ _ _ _ (by omega) (by omega), Nat.add_sub_cancel, seenByte_later,
            seenByte_later, place]
      · rw [copyAt_outside _ 0 _ _ _ (by omega), copyAt_outside _ _ _ _ _ (by omega),
          Function.update_of_ne (by omega)]
    · simp only [← sdhalDummyClock_add]
      congr 1
      omega
  have behind := sdhalDummyClock_add card (m + 8 * (n + 1)) 8 bus.listening
  rw [sdhalGetResponse_unfold, wait, next, content, behind]
  simp only [if_true, second, Bool.false_eq_true, if_false]

/-- A response whose second bit is high is refused. -/
theorem sdhalGetResponse_refused (nLen : Nat) {m : Nat}
    (high : ∀ k, k < m → seen card bus.listening k = true)
    (start : seen card bus.listening m = false) (transmitter : seen card bus.listening (m + 1) = true)
    (inTime : m < maxCnt + 2) :
    sdhalGetResponse card nLen bus = (none, sdhalDummyClock card (m + 2) bus.listening) := by
  have wait : waitStart card (maxCnt + 2) bus.listening = (true, _) :=
    waitStart_found high start inTime
  have next : clock card (sdhalDummyClock card (m + 1) bus.listening) =
      sdhalDummyClock card (m + 2) bus.listening := (sdhalDummyClock_succ _ _ _).symm
  have second : card.cmd (sdhalDummyClock card (m + 2) bus.listening).card = true := transmitter
  rw [sdhalGetResponse_unfold, wait, next]
  simp [second]

/-- And so is one that does not begin in time. -/
theorem sdhalGetResponse_silent (nLen : Nat)
    (high : ∀ k, k < maxCnt + 2 → seen card bus.listening k = true) :
    sdhalGetResponse card nLen bus = (none, sdhalDummyClock card (maxCnt + 2) bus.listening) := by
  rw [sdhalGetResponse_unfold, waitStart_none high]
  simp

/-- Either the line is high at the first samples, or there is a first low one among them. -/
theorem first_low (sample : Nat → Bool) (n : Nat) :
    (∀ k, k < n → sample k = true) ∨
      ∃ m, m < n ∧ (∀ k, k < m → sample k = true) ∧ sample m = false := by
  induction n with
  | zero => exact Or.inl fun k inside => absurd inside (Nat.not_lt_zero k)
  | succ n ih =>
    rcases ih with high | ⟨m, inside, high, low⟩
    · cases last : sample n with
      | false => exact Or.inr ⟨n, Nat.lt_succ_self n, high, last⟩
      | true =>
        refine Or.inl fun k inside => ?_
        rcases Nat.lt_succ_iff_lt_or_eq.mp inside with before | rfl
        · exact high k before
        · exact last
    · exact Or.inr ⟨m, Nat.lt_succ_of_lt inside, high, low⟩

/-- The place at which a response begins is unique. -/
theorem BeginsAt.unique {m n : Nat} (first : BeginsAt card bus m) (second : BeginsAt card bus n) :
    m = n := by
  rcases Nat.lt_trichotomy m n with before | same | after
  · have high := second.high m before
    rw [first.start] at high
    contradiction
  · exact same
  · have high := first.high n after
    rw [second.start] at high
    contradiction

/-- Exactly the responses that begin among the first samples are read. -/
theorem sdhalGetResponse_iff (card : Card κ) (bus : Bus κ) {nLen : Nat} (some : 0 < nLen)
    {szResponse : Bytes} :
    (sdhalGetResponse card nLen bus).1 = Option.some szResponse ↔
      ∃ m, m < maxCnt + 2 ∧ BeginsAt card bus m ∧ szResponse = response card bus m nLen := by
  constructor
  · intro read
    rcases first_low (seen card bus.listening) (maxCnt + 2) with high | ⟨m, inTime, high, low⟩
    · rw [sdhalGetResponse_silent nLen high] at read
      contradiction
    · cases second : seen card bus.listening (m + 1) with
      | true =>
        rw [sdhalGetResponse_refused nLen high low second inTime] at read
        contradiction
      | false =>
        have begins : BeginsAt card bus m := ⟨high, low, second⟩
        rw [sdhalGetResponse_found some begins inTime] at read
        exact ⟨m, inTime, begins, (Option.some.inj read).symm⟩
  · rintro ⟨m, inTime, begins, rfl⟩
    rw [sdhalGetResponse_found some begins inTime]

/-! ## Blocks -/

/-- The host stops driving the data lines. -/
def Bus.receiving (bus : Bus κ) : Bus κ := { bus with datOut := false }

/-- The wait for data ends at the first sample with all four lines low, if that comes in time. -/
theorem waitData_found {left m : Nat} (other : ∀ k, k < m → seenDat card bus k ≠ 0)
    (low : seenDat card bus m = 0) (inTime : m < left) :
    waitData card left bus = (true, sdhalDummyClock card (m + 1) bus) := by
  induction m generalizing left bus with
  | zero =>
    obtain ⟨left, rfl⟩ := Nat.exists_eq_succ_of_ne_zero (Nat.ne_of_gt inTime)
    have sample : datNibble card (clock card bus) = 0 := low
    simp only [waitData, sample, if_true]
    rfl
  | succ m ih =>
    obtain ⟨left, rfl⟩ := Nat.exists_eq_succ_of_ne_zero (Nat.ne_of_gt (Nat.zero_lt_of_lt inTime))
    have sample : datNibble card (clock card bus) ≠ 0 := other 0 (Nat.succ_pos m)
    have rest : waitData card left (clock card bus) =
        (true, sdhalDummyClock card (m + 1) (clock card bus)) :=
      ih (fun k inside zero => other (k + 1) (Nat.succ_lt_succ inside)
          ((seenDat_clock card bus k).symm.trans zero))
        ((seenDat_clock card bus m).trans low) (Nat.lt_of_succ_lt_succ inTime)
    simp only [waitData, if_neg sample, rest]
    rfl

/-- The byte that the data lines show in two samples. -/
def seenDatByte (card : Card κ) (bus : Bus κ) (start : Nat) : UInt8 :=
  (seenDat card bus start <<< 4) ||| seenDat card bus (start + 1)

/-- The bytes of a block are read one after the other. -/
theorem readBytes_eq (card : Card κ) (n i : Nat) (szBuf : Bytes) (bus : Bus κ) :
    readBytes card n i szBuf bus =
      (copyAt szBuf i (fun j => seenDatByte card bus (2 * j)) n,
        sdhalDummyClock card (2 * n) bus) := by
  induction n generalizing i szBuf bus with
  | zero =>
    have nothing : copyAt szBuf i (fun j => seenDatByte card bus (2 * j)) 0 = szBuf := by
      funext j
      exact copyAt_outside _ _ _ _ _ (by omega)
    rw [nothing]
    rfl
  | succ n ih =>
    have pass : readBytes card (n + 1) i szBuf bus =
        readBytes card n (i + 1) (Function.update szBuf i (seenDatByte card bus 0))
          (sdhalDummyClock card 2 bus) := rfl
    rw [pass, ih, ← sdhalDummyClock_add, Nat.add_comm 2]
    congr 1
    funext j
    by_cases inside : i ≤ j ∧ j < i + (n + 1)
    · rw [copyAt_inside _ i _ _ _ inside.1 inside.2]
      by_cases first : j = i
      · subst first
        rw [copyAt_outside _ _ _ _ _ (by omega), Function.update_self, Nat.sub_self]
      · have place : 2 + 2 * (j - (i + 1)) = 2 * (j - i) := by omega
        rw [copyAt_inside _ _ _ _ _ (by omega) (by omega)]
        simp only [seenDatByte, seenDat_later, ← Nat.add_assoc, place]
    · rw [copyAt_outside _ i _ _ _ (by omega), copyAt_outside _ _ _ _ _ (by omega),
        Function.update_of_ne (by omega)]

/-- The bytes that the data lines show behind start bits at the `m`-th sample. -/
def block (card : Card κ) (bus : Bus κ) (m : Nat) : Bytes := fun j =>
  seenDatByte card bus.receiving (m + 1 + 2 * j)

/-- A block whose start bits come in time is read as it is shown. -/
theorem sdhalReadData_found (szBuf : Bytes) (nBufLen : Nat) {m : Nat}
    (other : ∀ k, k < m → seenDat card bus.receiving k ≠ 0)
    (low : seenDat card bus.receiving m = 0) (inTime : m < maxTryData + 2) :
    sdhalReadData card szBuf nBufLen bus = (true, copyAt szBuf 0 (block card bus m) nBufLen,
      sdhalDummyClock card (m + 1 + 2 * nBufLen) bus.receiving) := by
  have wait : waitData card (maxTryData + 2) bus.receiving = (true, _) :=
    waitData_found other low inTime
  have unfolded : sdhalReadData card szBuf nBufLen bus =
      if (waitData card (maxTryData + 2) bus.receiving).1 then
        (true, readBytes card nBufLen 0 szBuf (waitData card (maxTryData + 2) bus.receiving).2)
      else (false, szBuf, (waitData card (maxTryData + 2) bus.receiving).2) := rfl
  rw [unfolded, wait, readBytes_eq, ← sdhalDummyClock_add]
  simp only [if_true]
  have bytes : (fun j => seenDatByte card (sdhalDummyClock card (m + 1) bus.receiving) (2 * j)) =
      block card bus m := by
    funext j
    simp only [block, seenDatByte, seenDat_later, Nat.add_assoc]
  rw [bytes]

end SoundBoard.Sdcard
