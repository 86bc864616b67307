import Mathlib.Data.Finset.Card
import Mathlib.Data.List.Induction
import Mathlib.Logic.Function.Basic
import Mathlib.Tactic.Ring

/-!
# Byte memory and fixed-width words

A buffer is a function from offsets to bytes, and a block copy is the only way to change
one. Reading after a copy is decided by two inequalities, so the proofs about loops that
fill a buffer piece by piece reduce to linear arithmetic. Words are little-endian; the
unsigned and signed 32-bit readings of a number are its residues, written out so that every
wrap is visible.
-/

namespace SoundBoard.Lib

/-- Bytes by offset from the start of a buffer. -/
abbrev Bytes := Nat → UInt8

/-- Copy `count` bytes of the source over a destination, from offset `start` on. -/
def copyAt (dst : Bytes) (start : Nat) (src : Bytes) (count : Nat) : Bytes := fun i =>
  if start ≤ i ∧ i < start + count then src (i - start) else dst i

/-- The bytes of a buffer from an offset on. -/
def drop (src : Bytes) (start : Nat) : Bytes := fun i => src (start + i)

@[simp] theorem drop_apply (src : Bytes) (start i : Nat) : drop src start i = src (start + i) :=
  rfl

/-- Reading inside the copied range returns the source byte. -/
theorem copyAt_inside (dst : Bytes) (start : Nat) (src : Bytes) (count i : Nat)
    (low : start ≤ i) (high : i < start + count) :
    copyAt dst start src count i = src (i - start) := by
  simp [copyAt, low, high]

/-- Reading outside the copied range returns the old byte. -/
theorem copyAt_outside (dst : Bytes) (start : Nat) (src : Bytes) (count i : Nat)
    (outside : i < start ∨ start + count ≤ i) :
    copyAt dst start src count i = dst i := by
  have apart : ¬(start ≤ i ∧ i < start + count) := by omega
  simp [copyAt, apart]

/-- A copy of a copy. -/
theorem copyAt_copyAt (first second source : Bytes) (n : Nat) :
    copyAt first 0 (copyAt second 0 source n) n = copyAt first 0 source n := by
  funext j
  by_cases inside : j < n
  · rw [copyAt_inside first 0 _ n j (Nat.zero_le j) (by omega),
      copyAt_inside first 0 _ n j (Nat.zero_le j) (by omega), Nat.sub_zero,
      copyAt_inside second 0 _ n j (Nat.zero_le j) (by omega), Nat.sub_zero]
  · rw [copyAt_outside _ 0 _ _ _ (by omega), copyAt_outside _ 0 _ _ _ (by omega)]

/-- A second copy over the same range hides the first. -/
theorem copyAt_over (dst : Bytes) (start : Nat) (first second : Bytes) (count : Nat) :
    copyAt (copyAt dst start first count) start second count = copyAt dst start second count := by
  funext i
  by_cases inside : start ≤ i ∧ i < start + count
  · rw [copyAt_inside _ _ _ _ _ inside.1 inside.2, copyAt_inside _ _ _ _ _ inside.1 inside.2]
  · rw [copyAt_outside _ _ _ _ _ (by omega), copyAt_outside _ _ _ _ _ (by omega),
      copyAt_outside _ _ _ _ _ (by omega)]

/-- A copy depends only on the source bytes in its range. -/
theorem copyAt_congr (dst : Bytes) (start : Nat) (left right : Bytes) (count : Nat)
    (same : ∀ i, i < count → left i = right i) :
    copyAt dst start left count = copyAt dst start right count := by
  funext i
  by_cases inside : start ≤ i ∧ i < start + count
  · rw [copyAt_inside _ _ _ _ _ inside.1 inside.2, copyAt_inside _ _ _ _ _ inside.1 inside.2]
    exact same _ (by omega)
  · rw [copyAt_outside _ _ _ _ _ (by omega), copyAt_outside _ _ _ _ _ (by omega)]

/-- The little-endian 16-bit word made of two bytes. -/
def word16 (low high : UInt8) : Nat := low.toNat + 256 * high.toNat

/-- The little-endian 32-bit word made of four bytes. -/
def word32 (b0 b1 b2 b3 : UInt8) : Nat := word16 b0 b1 + 65536 * word16 b2 b3

/-- A 16-bit word is below 2¹⁶. -/
theorem word16_lt (low high : UInt8) : word16 low high < 65536 := by
  have := low.toNat_lt
  have := high.toNat_lt
  simp only [word16]
  omega

/-- A 16-bit word determines its bytes. -/
theorem word16_inj {low high low' high' : UInt8} (same : word16 low high = word16 low' high') :
    low = low' ∧ high = high' := by
  have := low.toNat_lt
  have := low'.toNat_lt
  simp only [word16] at same
  exact ⟨UInt8.toNat_inj.mp (by omega), UInt8.toNat_inj.mp (by omega)⟩

/-- The 32-bit unsigned word that holds a number. -/
def toU32 (n : Int) : Nat := (n % 4294967296).toNat

/-- The 32-bit two's-complement reading of a number. -/
def toInt32 (n : Int) : Int := (n + 2147483648) % 4294967296 - 2147483648

/-- An unsigned word is below 2³². -/
theorem toU32_lt (n : Int) : toU32 n < 4294967296 := by
  simp only [toU32]
  omega

/-- A number that fits is its own unsigned word. -/
theorem toU32_of_fits (n : Int) (low : 0 ≤ n) (high : n < 4294967296) : toU32 n = n.toNat := by
  simp only [toU32]
  omega

/-- A number that fits is its own signed reading. -/
theorem toInt32_of_fits (n : Int) (low : -2147483648 ≤ n) (high : n < 2147483648) :
    toInt32 n = n := by
  simp only [toInt32]
  omega

/-- The word of a sum is the wrapped sum of the words. -/
theorem toU32_add (m n : Int) : toU32 (m + n) = (toU32 m + toU32 n) % 4294967296 := by
  simp only [toU32]
  omega

/-- A word is its own word. -/
theorem toU32_natCast (n : Nat) : toU32 n = n % 4294967296 := by
  simp only [toU32]
  omega

/-- The signed reading lies in the 32-bit range. -/
theorem toInt32_range (n : Int) : -2147483648 ≤ toInt32 n ∧ toInt32 n < 2147483648 := by
  simp only [toInt32]
  omega

/-- A signed reading and its number are the same unsigned word. -/
@[simp] theorem toU32_toInt32 (n : Int) : toU32 (toInt32 n) = toU32 n := by
  simp only [toU32, toInt32]
  omega

end SoundBoard.Lib
