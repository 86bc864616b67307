import Mathlib.Data.List.Basic

/-!
# Bits on a line

Bytes as they are sent over a line, one bit after the other, the most significant first.
-/

namespace SoundBoard.Lib

/-- The bits of a byte, most significant first. -/
def byteBits (byte : UInt8) : List Bool :=
  (List.range 8).map fun k => byte.toBitVec.getMsbD k

/-- The bits of bytes, in the order in which they are sent. -/
def bitsOf (bytes : List UInt8) : List Bool := bytes.flatMap byteBits

@[simp] theorem byteBits_length (byte : UInt8) : (byteBits byte).length = 8 := rfl

@[simp] theorem bitsOf_nil : bitsOf [] = [] := rfl

@[simp] theorem bitsOf_cons (byte : UInt8) (bytes : List UInt8) :
    bitsOf (byte :: bytes) = byteBits byte ++ bitsOf bytes := rfl

@[simp] theorem bitsOf_length (bytes : List UInt8) : (bitsOf bytes).length = 8 * bytes.length := by
  induction bytes with
  | nil => rfl
  | cons byte bytes ih =>
    rw [bitsOf_cons, List.length_append, byteBits_length, ih, List.length_cons]
    omega

@[simp] theorem bitsOf_append (left right : List UInt8) :
    bitsOf (left ++ right) = bitsOf left ++ bitsOf right := List.flatMap_append

/-- Exclusive or of bytes is that of their bits. -/
theorem byteBits_xor (left right : UInt8) :
    byteBits (left ^^^ right) = List.zipWith xor (byteBits left) (byteBits right) := by
  simp only [byteBits, List.zipWith_map, List.zipWith_self, UInt8.toBitVec_xor, BitVec.getMsbD_xor]

/-- A byte is determined by its bits. -/
theorem byteBits_inj {left right : UInt8} (same : byteBits left = byteBits right) :
    left = right := by
  have bits := List.map_inj_left.mp same
  apply UInt8.toBitVec_inj.mp
  apply BitVec.eq_of_getMsbD_eq
  intro i inside
  exact bits i (List.mem_range.mpr inside)

/-- So bytes are determined by their bits. -/
theorem bitsOf_inj {left right : List UInt8} (same : bitsOf left = bitsOf right) :
    left = right := by
  induction left generalizing right with
  | nil =>
    have length := congrArg List.length same
    rw [bitsOf_length, bitsOf_length] at length
    exact (List.length_eq_zero_iff.mp (by simp only [List.length_nil] at length; omega)).symm
  | cons byte left ih =>
    cases right with
    | nil => simpa using congrArg List.length same
    | cons byte' right =>
      obtain ⟨first, rest⟩ := List.append_inj same rfl
      rw [byteBits_inj first, ih rest]

/-- The byte that some bits make, the first of them the most significant. -/
def byteOf (bits : List Bool) : UInt8 :=
  bits.foldl (fun value bit => (value <<< 1) ||| if bit then 1 else 0) 0

/-- A byte is made of its bits. -/
@[simp] theorem byteOf_byteBits (byte : UInt8) : byteOf (byteBits byte) = byte := by
  have bytes : ∀ i : Fin 256, byteOf (byteBits (UInt8.ofNat i)) = UInt8.ofNat i := by
    decide +kernel
  have value := bytes ⟨byte.toNat, byte.toNat_lt⟩
  rwa [UInt8.ofNat_toNat] at value

/-- Eight bits are those of the byte they make. -/
theorem byteBits_byteOf {bits : List Bool} (eight : bits.length = 8) :
    byteBits (byteOf bits) = bits := by
  have all : ∀ b7 b6 b5 b4 b3 b2 b1 b0 : Bool,
      byteBits (byteOf [b7, b6, b5, b4, b3, b2, b1, b0]) = [b7, b6, b5, b4, b3, b2, b1, b0] := by
    decide +kernel
  match bits, eight with
  | [b7, b6, b5, b4, b3, b2, b1, b0], _ => exact all b7 b6 b5 b4 b3 b2 b1 b0

/-- The bits that a mask takes from a byte on its way down. -/
def maskBits (data : UInt8) : Nat → UInt8 → List Bool
  | 0, _ => []
  | left + 1, mask => (data &&& mask != 0) :: maskBits data left (mask >>> 1)

/-- From the top, they are the bits of the byte. -/
theorem maskBits_eq (data : UInt8) : maskBits data 8 0x80 = byteBits data := by
  have bytes : ∀ i : Fin 256, maskBits (UInt8.ofNat i) 8 0x80 = byteBits (UInt8.ofNat i) := by
    decide +kernel
  have value := bytes ⟨data.toNat, data.toNat_lt⟩
  rwa [UInt8.ofNat_toNat] at value

end SoundBoard.Lib
