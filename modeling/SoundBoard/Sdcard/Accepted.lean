import SoundBoard.Sdcard.Wire

/-!
# Accepted responses

Which responses pass the checks of `sd_protocol.c`. A response with the card's status has one
accepted form. Responses with a checksum that are accepted and differ, differ in three bits or
more: the longest of them, 127 bits with the checksum, is as long as the order of the generator
allows. The response to `ACMD41` has no checksum, and what `SD_ACMD41` keeps of it has no such
protection.
-/

namespace SoundBoard.Sdcard

open SoundBoard.Lib

variable {κ : Type} {card : Card κ} {bus : Bus κ} {r r' : Bytes}

/-! ## The checksum -/

/-- A checksum has seven bits. -/
theorem crc7_lt (buffer : List UInt8) : crc7 0 buffer < 128 := by
  have small : ∀ i : Fin 128, value7 ⟨i⟩ < 128 := by decide +kernel
  rw [crc7_eq]
  generalize Crc.remainder poly7 0#7 (bitsOf buffer) = register
  exact small register.toFin

/-- A byte is the checksum above a one when it passes the last two checks. -/
theorem end_iff {crc byte : UInt8} (small : crc < 128) :
    (crc = byte >>> 1 ∧ byte &&& 0x01 = 0x01) ↔ byte = (crc <<< 1) ||| 0x01 := by
  have odd : ∀ i : Fin 256, UInt8.ofNat i &&& 0x01 = 0x01 →
      UInt8.ofNat i = ((UInt8.ofNat i >>> 1) <<< 1) ||| 0x01 := by decide +kernel
  have low : ∀ i : Fin 256, UInt8.ofNat i < 128 →
      UInt8.ofNat i = ((UInt8.ofNat i <<< 1) ||| 0x01) >>> 1 ∧
        ((UInt8.ofNat i <<< 1) ||| 0x01) &&& 0x01 = 0x01 := by decide +kernel
  constructor
  · rintro ⟨rfl, one⟩
    have value := odd ⟨byte.toNat, byte.toNat_lt⟩
    rw [UInt8.ofNat_toNat] at value
    exact value one
  · rintro rfl
    have value := low ⟨crc.toNat, crc.toNat_lt⟩
    rw [UInt8.ofNat_toNat] at value
    exact value small

/-- The last two checks ask for one value of the last byte. -/
theorem crcChecks_iff (start count : Nat) :
    crcChecks r start count = true ↔ r (start + count) = crcAndEnd (slice r start count) := by
  rw [crcChecks, decide_eq_true_eq]
  exact end_iff (crc7_lt _)

/-- One byte more of a buffer. -/
theorem slice_succ (r : Bytes) (start count : Nat) :
    slice r start (count + 1) = slice r start count ++ [r (start + count)] := by
  simp [slice, List.range_succ]

@[simp] theorem slice_length (r : Bytes) (start count : Nat) : (slice r start count).length = count := by
  simp [slice]

/-! ## Status responses -/

/-- The accepted response of a command whose response carries a status. -/
def statusFrame (cmd : UInt8) (status : UInt32) : List UInt8 :=
  let bytes := [cmd, argByte status 3, argByte status 2, argByte status 1, argByte status 0]
  bytes ++ [crcAndEnd bytes]

/-- A byte pushed into a word from below. -/
theorem pushByte_toNat (value : UInt32) (byte : UInt8) :
    ((value <<< 8) ||| byte.toUInt32).toNat = value.toNat * 256 % 4294967296 + byte.toNat := by
  have low : byte.toNat < 2 ^ 8 := byte.toNat_lt
  have shifted : (value <<< 8).toNat = (value.toNat % 16777216) <<< 8 := by
    rw [UInt32.toNat_shiftLeft, Nat.shiftLeft_eq, Nat.shiftLeft_eq]
    change value.toNat * 256 % 4294967296 = _
    omega
  rw [UInt32.toNat_or, shifted, UInt8.toNat_toUInt32, ← Nat.shiftLeft_add_eq_or_of_lt low,
    Nat.shiftLeft_eq]
  omega

/-- A byte of a word. -/
theorem argByte_toNat (word : UInt32) (place : Fin 4) :
    (argByte word (UInt32.ofNat place)).toNat = word.toNat / 256 ^ place.val % 256 := by
  have shift : (8 * UInt32.ofNat place.val).toNat = 8 * place.val := by
    revert place; decide
  have inWord : 8 * place.val % 32 = 8 * place.val := by omega
  rw [argByte, UInt32.toNat_toUInt8, UInt32.toNat_shiftRight, shift, inWord,
    Nat.shiftRight_eq_div_pow, Nat.pow_mul]

/-- The word of four bytes. -/
theorem arrayToU32_toNat (r : Bytes) :
    (arrayToU32 r 1).toNat = (r 1).toNat * 16777216 + (r 2).toNat * 65536 + (r 3).toNat * 256 + (r 4).toNat := by
  have bytes : slice r 1 4 = [r 1, r 2, r 3, r 4] := rfl
  have b1 := (r 1).toNat_lt
  have b2 := (r 2).toNat_lt
  have b3 := (r 3).toNat_lt
  have b4 := (r 4).toNat_lt
  rw [arrayToU32, bytes]
  simp only [List.foldl, pushByte_toNat]
  simp
  omega

/-- Four bytes make a word exactly when they are its bytes. -/
theorem arrayToU32_iff {status : UInt32} :
    arrayToU32 r 1 = status ↔
      slice r 1 4 = [argByte status 3, argByte status 2, argByte status 1, argByte status 0] := by
  have bytes : slice r 1 4 = [r 1, r 2, r 3, r 4] := rfl
  have value := arrayToU32_toNat r
  have word := status.toNat_lt
  have b1 := (r 1).toNat_lt
  have b2 := (r 2).toNat_lt
  have b3 := (r 3).toNat_lt
  have b4 := (r 4).toNat_lt
  have a0 : (argByte status 0).toNat = status.toNat / 1 % 256 := argByte_toNat status 0
  have a1 : (argByte status 1).toNat = status.toNat / 256 % 256 := argByte_toNat status 1
  have a2 : (argByte status 2).toNat = status.toNat / 65536 % 256 := argByte_toNat status 2
  have a3 : (argByte status 3).toNat = status.toNat / 16777216 % 256 := argByte_toNat status 3
  rw [bytes, ← UInt32.toNat_inj, value]
  simp only [List.cons.injEq, and_true, ← UInt8.toNat_inj, a0, a1, a2, a3]
  omega

/-- The first bytes of a response, taken apart. -/
theorem slice_six (r : Bytes) : slice r 0 6 = [r 0] ++ slice r 1 4 ++ [r 5] := rfl

/-- A status response passes its checks exactly when it is the one frame of its status. -/
theorem statusChecks_iff (cmd : UInt8) (status : UInt32) :
    statusChecks cmd status r = true ↔ slice r 0 6 = statusFrame cmd status := by
  have five : slice r 0 5 = [r 0] ++ slice r 1 4 := rfl
  rw [statusChecks, decide_eq_true_eq, arrayToU32_iff, crcChecks_iff, five, slice_six]
  constructor
  · rintro ⟨rfl, bytes, last⟩
    rw [bytes] at last ⊢
    rw [show r 5 = r (0 + 5) from rfl, last]
    rfl
  · intro same
    simp only [slice, statusFrame, List.range_succ, List.range_zero] at same ⊢
    simp only [List.map_cons, List.map_nil, List.cons_append, List.nil_append, List.cons.injEq,
      and_true] at same ⊢
    obtain ⟨head, b1, b2, b3, b4, last⟩ := same
    refine ⟨head, ⟨b1, b2, b3, b4⟩, ?_⟩
    rw [head, b1, b2, b3, b4]
    exact last

/-- A command whose response carries a status is accepted exactly when the card's line shows
that status's one frame, from a sample among the first on. -/
theorem accept_status_iff (card : Card κ) (szCmd : List UInt8) (cmd : UInt8) (status : UInt32)
    (bus : Bus κ) :
    (accept card szCmd 6 (statusChecks cmd status) bus).1 = true ↔
      ∃ m, m < maxCnt + 2 ∧ BeginsAt card (sdhalSendCmd card szCmd bus) m ∧
        slice (response card (sdhalSendCmd card szCmd bus) m 6) 0 6 = statusFrame cmd status := by
  rw [accept, Option.any_eq_true]
  constructor
  · rintro ⟨szResponse, read, passes⟩
    obtain ⟨m, inTime, begins, rfl⟩ := (sdhalGetResponse_iff card _ (by decide)).mp read
    exact ⟨m, inTime, begins, (statusChecks_iff cmd status).mp passes⟩
  · rintro ⟨m, inTime, begins, same⟩
    exact ⟨_, (sdhalGetResponse_iff card _ (by decide)).mpr ⟨m, inTime, begins, rfl⟩,
      (statusChecks_iff cmd status).mpr same⟩

/-! ## Distance -/

/-- The generator x⁷ + x³ + 1 has order 127. -/
theorem poly7_separates : Crc.Separates poly7 127 := by
  have zero : ∀ j : Fin 127, Crc.power poly7 j ≠ 0#7 := by decide +kernel
  have equal : ∀ k : Fin 127, ∀ j : Fin 127, j < k → Crc.power poly7 k ≠ Crc.power poly7 j := by
    decide +kernel
  constructor
  · intro j inside
    exact zero ⟨j, inside⟩
  · intro j k order inside
    exact equal ⟨k, inside⟩ ⟨j, Nat.lt_trans order inside⟩ order

/-- The last byte of a checked message, in bits: the remainder, then the end bit. -/
theorem byteBits_crcAndEnd (bytes : List UInt8) :
    byteBits (crcAndEnd bytes) =
      Crc.leading (Crc.remainder poly7 0#7 (bitsOf bytes)) 7 ++ [true] := by
  have registers : ∀ i : Fin 128, byteBits ((value7 ⟨i⟩ <<< 1) ||| 0x01) =
      Crc.leading (⟨i⟩ : BitVec 7) 7 ++ [true] := by decide +kernel
  rw [crcAndEnd, crc7_eq]
  generalize Crc.remainder poly7 0#7 (bitsOf bytes) = register
  exact registers register.toFin

/-- A message that passes its checks leaves no remainder, up to its end bit. -/
theorem checked_bits {start count : Nat} (passes : crcChecks r start count = true) :
    ∃ word, bitsOf (slice r start (count + 1)) = word ++ [true] ∧ word.length = 8 * count + 7 ∧
      Crc.remainder poly7 0#7 word = 0#7 := by
  have last := (crcChecks_iff start count).mp passes
  refine ⟨bitsOf (slice r start count) ++
    Crc.leading (Crc.remainder poly7 0#7 (bitsOf (slice r start count))) 7, ?_, ?_, ?_⟩
  · rw [slice_succ, bitsOf_append, last, List.append_assoc, ← byteBits_crcAndEnd]
    exact congrArg _ (List.append_nil _)
  · simp
  · exact Crc.remainder_self poly7 0#7 _

/-- Equal last bits do not add to the distance. -/
theorem distance_append (left right : List Bool) (bit : Bool) (length : left.length = right.length) :
    Crc.distance (left ++ [bit]) (right ++ [bit]) = Crc.distance left right := by
  rw [Crc.distance, Crc.distance, List.zipWith_append length, List.count_append]
  cases bit <;> rfl

/-- Two messages of at most fifteen bytes that pass their checks and differ, differ in three
bits or more. -/
theorem crcChecks_distance {start count : Nat} (short : count ≤ 15)
    (passes : crcChecks r start count = true) (passes' : crcChecks r' start count = true)
    (differ : slice r start (count + 1) ≠ slice r' start (count + 1)) :
    3 ≤ Crc.distance (bitsOf (slice r start (count + 1)))
      (bitsOf (slice r' start (count + 1))) := by
  obtain ⟨word, bits, length, zero⟩ := checked_bits passes
  obtain ⟨word', bits', length', zero'⟩ := checked_bits passes'
  have same : word.length = word'.length := length.trans length'.symm
  rw [bits, bits', distance_append word word' true same]
  apply Crc.three_le_distance poly7_separates same
  · omega
  · exact zero.trans zero'.symm
  · rintro rfl
    exact differ (bitsOf_inj (bits.trans bits'.symm))

/-- Two responses with a register that are both accepted differ in three bits or more. -/
theorem checksRegister_distance (passes : checksRegister r = true)
    (passes' : checksRegister r' = true) (differ : slice r 0 17 ≠ slice r' 0 17) :
    3 ≤ Crc.distance (bitsOf (slice r 0 17)) (bitsOf (slice r' 0 17)) := by
  obtain ⟨head, checked⟩ := of_decide_eq_true passes
  obtain ⟨head', checked'⟩ := of_decide_eq_true passes'
  have parts : ∀ r : Bytes, slice r 0 17 = [r 0] ++ slice r 1 16 := fun _ => rfl
  have rest : slice r 1 16 ≠ slice r' 1 16 := by
    intro same
    rw [parts r, parts r', head, head', same] at differ
    exact differ rfl
  have apart := crcChecks_distance (by decide) checked checked' rest
  rw [parts r, parts r', head, head', bitsOf_append, bitsOf_append, Crc.distance,
    List.zipWith_append (by simp), List.count_append]
  exact Nat.le_trans apart (Nat.le_add_left _ _)

/-- The registers and the address that the driver keeps, and the answer to `CMD8`, are protected
by their checksums: two responses that are both accepted, by `SD_CMD2`, `SD_CMD9` and `SD_CMD10`,
by `SD_CMD3`, or by `SD_CMD8` for one request, are equal or differ in three bits or more. -/
theorem accepted_distance {checks : Bytes → Bool} {nLen : Nat} {volId testPattern : UInt8}
    (kept : (checks = checksRegister ∧ nLen = 17) ∨ (checks = checksCmd3 ∧ nLen = 6) ∨
      (checks = checksCmd8 volId testPattern ∧ nLen = 6))
    (passes : checks r = true) (passes' : checks r' = true) :
    slice r 0 nLen = slice r' 0 nLen ∨
      3 ≤ Crc.distance (bitsOf (slice r 0 nLen)) (bitsOf (slice r' 0 nLen)) := by
  refine or_iff_not_imp_left.mpr fun differ => ?_
  rcases kept with ⟨rfl, rfl⟩ | ⟨rfl, rfl⟩ | ⟨rfl, rfl⟩
  · exact checksRegister_distance passes passes' differ
  · have checked := (of_decide_eq_true passes).2.2
    have checked' := (of_decide_eq_true passes').2.2
    exact crcChecks_distance (by decide) checked checked' differ
  · have checked := (of_decide_eq_true passes).2.2.2
    have checked' := (of_decide_eq_true passes').2.2.2
    exact crcChecks_distance (by decide) checked checked' differ

/-- The registers of two cards that differ in one bit. -/
theorem accepted_distance_registers :
    let frame (last : UInt8) : List UInt8 :=
      [0x3F] ++ List.replicate 14 0 ++ [last] ++ [crcAndEnd (List.replicate 14 0 ++ [last])]
    3 ≤ Crc.distance (bitsOf (frame 0)) (bitsOf (frame 1)) := by
  intro frame
  let shown (last : UInt8) : Bytes := fun i => (frame last).getD i 0
  have differ : ¬slice (shown 0) 0 17 = slice (shown 1) 0 17 := by decide +kernel
  have apart : slice (shown 0) 0 17 = slice (shown 1) 0 17 ∨ _ :=
    @accepted_distance (shown 0) (shown 1) checksRegister 17 0 0 (Or.inl ⟨rfl, rfl⟩)
      (by decide +kernel) (by decide +kernel)
  exact apart.resolve_left differ

end SoundBoard.Sdcard
