import SoundBoard.Sdcard.Accepted
import SoundBoard.Sdcard.Session

/-!
# The receiver of commands

A receiver that knows only the format of a frame: it waits for a start bit, takes the next 47 bits
with it, and looks at the start bits, the checksum and the end bit. It recovers
the index and the argument of every packet that the driver makes.
-/

namespace SoundBoard.Sdcard

open SoundBoard.Lib

/-! ## The receiver -/

/-- One bit more: the bits heard so far, or a command that is complete. -/
def hear (rx : List Bool) (bit : Bool) : List Bool × Option (List Bool) :=
  let rx := if rx = [] ∧ bit = true then [] else rx ++ [bit]
  if rx.length = 48 then ([], some rx) else (rx, none)

/-- The bytes of a frame of six. -/
def frameBytes (frame : List Bool) : List UInt8 :=
  (List.range 6).map fun i => byteOf ((frame.drop (8 * i)).take 8)

/-- The word of four bytes. -/
def wordOf (b1 b2 b3 b4 : UInt8) : UInt32 :=
  [b1, b2, b3, b4].foldl (fun value32 byte => (value32 <<< 8) ||| byte.toUInt32) 0

/-- The index and the argument of a frame with a host's start bits, the right checksum and an
end bit. -/
def decodeFrame (frame : List Bool) : Option (UInt8 × UInt32) :=
  match frameBytes frame with
  | [b0, b1, b2, b3, b4, b5] =>
    if b0 &&& 0xC0 = 0x40 ∧ b5 = crcAndEnd [b0, b1, b2, b3, b4] then
      some (b0 &&& 0x3F, wordOf b1 b2 b3 b4)
    else none
  | _ => none

/-! ## Packets -/

/-- The window of a byte in the bits of some bytes. -/
theorem bitsOf_window (bytes : List UInt8) (i : Nat) (inside : i < bytes.length) :
    ((bitsOf bytes).drop (8 * i)).take 8 = byteBits bytes[i] := by
  induction bytes generalizing i with
  | nil => exact absurd inside (Nat.not_lt_zero i)
  | cons byte bytes ih =>
    cases i with
    | zero => exact List.take_left' rfl
    | succ i =>
      have rest : (bitsOf (byte :: bytes)).drop (8 * (i + 1)) = (bitsOf bytes).drop (8 * i) := by
        rw [bitsOf_cons, Nat.mul_succ, Nat.add_comm]
        exact @List.drop_length_add_append Bool (byteBits byte) (bitsOf bytes) (8 * i)
      rw [rest]
      exact ih i (Nat.lt_of_succ_lt_succ inside)

/-- The bytes of a frame are those it was made of. -/
theorem frameBytes_bitsOf {bytes : List UInt8} (six : bytes.length = 6) :
    frameBytes (bitsOf bytes) = bytes := by
  apply List.ext_getElem
  · simp [frameBytes, six]
  · intro i inside inside'
    simp only [frameBytes, List.getElem_map, List.getElem_range]
    rw [bitsOf_window bytes i inside', byteOf_byteBits]

/-- The first byte of a packet, and the command in it. -/
theorem packet_head {cmd : UInt8} (small : cmd < 64) :
    (0x40 ||| cmd) &&& 0xC0 = 0x40 ∧ (0x40 ||| cmd) &&& 0x3F = cmd ∧
      (byteBits (0x40 ||| cmd)).head? = some false := by
  have bytes : ∀ i : Fin 256, UInt8.ofNat i < 64 →
      (0x40 ||| UInt8.ofNat i) &&& 0xC0 = 0x40 ∧ (0x40 ||| UInt8.ofNat i) &&& 0x3F = UInt8.ofNat i ∧
        (byteBits (0x40 ||| UInt8.ofNat i)).head? = some false := by decide +kernel
  have value := bytes ⟨cmd.toNat, cmd.toNat_lt⟩
  rw [UInt8.ofNat_toNat] at value
  exact value small

/-- A packet is decoded to its command and its argument. -/
theorem decodeFrame_packet {cmd : UInt8} (small : cmd < 64) (a1 a2 a3 a4 : UInt8) :
    decodeFrame (bitsOf (packet cmd a1 a2 a3 a4)) = some (cmd, wordOf a1 a2 a3 a4) := by
  obtain ⟨start, index, -⟩ := packet_head small
  rw [decodeFrame, frameBytes_bitsOf rfl]
  simp [packet, start, index]

/-- A packet on the line: a start bit, and 47 bits behind it, the last of them high. -/
theorem bitsOf_packet {cmd : UInt8} (small : cmd < 64) (a1 a2 a3 a4 : UInt8) :
    ∃ middle : List Bool, middle.length = 46 ∧
      bitsOf (packet cmd a1 a2 a3 a4) = false :: middle ++ [true] := by
  obtain ⟨-, -, head⟩ := packet_head small
  have bits : bitsOf (packet cmd a1 a2 a3 a4) = byteBits (0x40 ||| cmd) ++
      (bitsOf [a1, a2, a3, a4] ++ byteBits (crcAndEnd [0x40 ||| cmd, a1, a2, a3, a4])) := by
    simp [packet]
  have first : byteBits (0x40 ||| cmd) = false :: (byteBits (0x40 ||| cmd)).tail :=
    (List.cons_head?_tail head).symm
  refine ⟨(byteBits (0x40 ||| cmd)).tail ++ (bitsOf [a1, a2, a3, a4] ++ Crc.leading
    (Crc.remainder poly7 0#7 (bitsOf [0x40 ||| cmd, a1, a2, a3, a4])) 7), ?_, ?_⟩
  · simp
  · rw [bits, first, byteBits_crcAndEnd]
    simp only [List.cons_append, List.append_assoc, List.tail_cons]

/-- A `CMD0` behind a level that is low at an edge is not decoded: its frame begins with that
level. -/
theorem decodeFrame_leadIn :
    decodeFrame (false :: (bitsOf (packet 0 0 0 0 0)).take 47) = none := by decide +kernel

/-! ## Arguments -/

/-- The word of four bytes, as a number. -/
theorem wordOf_toNat (b1 b2 b3 b4 : UInt8) :
    (wordOf b1 b2 b3 b4).toNat =
      b1.toNat * 16777216 + b2.toNat * 65536 + b3.toNat * 256 + b4.toNat :=
  arrayToU32_toNat fun i => [0, b1, b2, b3, b4].getD i 0

/-- The bytes of an argument make the argument. -/
theorem wordOf_argBytes (arg : UInt32) :
    wordOf (argByte arg 3) (argByte arg 2) (argByte arg 1) (argByte arg 0) = arg := by
  let r : Bytes := fun i =>
    [0, argByte arg 3, argByte arg 2, argByte arg 1, argByte arg 0].getD i 0
  exact (arrayToU32_iff (r := r)).mpr rfl

/-- The argument that `SD_ACMD41` sends. -/
theorem wordOf_hostOCR32 (version1 : Bool) :
    wordOf (argByte (hostOCR32Of version1) 3 &&& 0x40) (argByte (hostOCR32Of version1) 2)
      (argByte (hostOCR32Of version1) 1) (argByte (hostOCR32Of version1) 0) =
      hostOCR32Of version1 := by
  cases version1 <;> decide

/-- The argument of a command that addresses a card. -/
def rcaArgument (rca16 : UInt16) : UInt32 := rca16.toUInt32 <<< 16

/-- It is the address in the upper half of the word. -/
theorem rcaArgument_toNat (rca16 : UInt16) : (rcaArgument rca16).toNat = rca16.toNat * 65536 := by
  have bound := rca16.toNat_lt
  rw [rcaArgument, UInt32.toNat_shiftLeft, UInt16.toNat_toUInt32, Nat.shiftLeft_eq]
  show rca16.toNat * 65536 % 4294967296 = _
  omega

/-- The bytes that `SD_CMD3` and the commands behind it take from an address make its argument. -/
theorem wordOf_rca (rca16 : UInt16) :
    wordOf (rca16 >>> 8).toUInt8 (rca16 &&& 0xFF).toUInt8 0 0 = rcaArgument rca16 := by
  have high : (rca16 >>> 8).toUInt8.toNat = rca16.toNat / 256 % 256 := by
    rw [UInt16.toNat_toUInt8, UInt16.toNat_shiftRight, Nat.shiftRight_eq_div_pow]
    rfl
  have low : (rca16 &&& 0xFF).toUInt8.toNat = rca16.toNat % 256 := by
    rw [UInt16.toNat_toUInt8, UInt16.toNat_and]
    show (rca16.toNat &&& (2 ^ 8 - 1)) % 2 ^ 8 = _
    rw [Nat.and_two_pow_sub_one_eq_mod, Nat.mod_mod]
  have bound := rca16.toNat_lt
  rw [← UInt32.toNat_inj, wordOf_toNat, high, low, rcaArgument_toNat]
  show _ + 0 * 256 + 0 = _
  omega

end SoundBoard.Sdcard
