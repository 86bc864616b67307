import SoundBoard.Lib.Bits

/-!
# Two-wire buses

Transfers on a clock and a data line. While the clock is high, a falling data line begins a transfer
and a rising one ends it; a bit is taken when the clock rises. Nine bits are a byte and the
acknowledgement of whoever receives it, and bits that do not make nine are not taken for a byte.
-/

namespace SoundBoard.Lib.TwoWire

/-- The levels of the two lines. -/
structure Levels where
  scl : Bool
  sda : Bool
  deriving DecidableEq, Repr

/-- A byte, and whether it was acknowledged. -/
abbrev Item := UInt8 × Bool

/-- The bytes in the bits of a transfer. -/
def itemsOf : List Bool → List Item
  | b7 :: b6 :: b5 :: b4 :: b3 :: b2 :: b1 :: b0 :: nack :: rest =>
    (byteOf [b7, b6, b5, b4, b3, b2, b1, b0], !nack) :: itemsOf rest
  | _ => []

/-- The bits of a byte with its acknowledgement. -/
def itemBits (item : Item) : List Bool := byteBits item.1 ++ [!item.2]

/-- A byte in the bits of a transfer. -/
theorem itemsOf_item (item : Item) (rest : List Bool) :
    itemsOf (itemBits item ++ rest) = item :: itemsOf rest := by
  cases item with
  | mk byte acked =>
    have read : itemsOf (itemBits (byte, acked) ++ rest) =
        (byteOf (byteBits byte), !!acked) :: itemsOf rest := rfl
    rw [read, byteOf_byteBits, Bool.not_not]

/-- The bytes in the bits of some bytes, and one bit more. -/
theorem itemsOf_items (items : List Item) (bit : Bool) :
    itemsOf (items.flatMap itemBits ++ [bit]) = items := by
  induction items with
  | nil => rfl
  | cons item items ih => rw [List.flatMap_cons, List.append_assoc, itemsOf_item, ih]

/-- A transfer carries bytes up to the first that is not acknowledged; whether all of them were. -/
inductive Carries : List UInt8 → List Item → Bool → Prop
  | whole : Carries [] [] true
  | acked {bytes : List UInt8} {frame : List Item} {whole : Bool} (byte : UInt8)
      (rest : Carries bytes frame whole) : Carries (byte :: bytes) ((byte, true) :: frame) whole
  | refused (byte : UInt8) (bytes : List UInt8) : Carries (byte :: bytes) [(byte, false)] false

/-- A transfer that is whole carries all of its bytes. -/
theorem Carries.frame_eq {bytes : List UInt8} {frame : List Item}
    (carries : Carries bytes frame true) : frame = bytes.map (·, true) := by
  induction bytes generalizing frame with
  | nil =>
    cases carries with
    | whole => rfl
  | cons first bytes ih =>
    cases carries with
    | acked _ rest => rw [ih rest, List.map_cons]

/-- One byte more, after bytes that were all acknowledged. -/
theorem Carries.snoc {bytes : List UInt8} {frame : List Item} (carries : Carries bytes frame true)
    (byte : UInt8) (acked : Bool) : Carries (bytes ++ [byte]) (frame ++ [(byte, acked)]) acked := by
  induction bytes generalizing frame with
  | nil =>
    cases carries with
    | whole =>
      cases acked with
      | true => exact .acked byte .whole
      | false => exact .refused byte []
  | cons first bytes ih =>
    cases carries with
    | acked _ rest => exact .acked first (ih rest)

/-- Bytes that are not sent after one was not acknowledged. -/
theorem Carries.unsent {bytes : List UInt8} {frame : List Item}
    (carries : Carries bytes frame false) (byte : UInt8) : Carries (bytes ++ [byte]) frame false := by
  generalize same : false = whole at carries
  induction carries with
  | whole => contradiction
  | acked first _ ih => exact .acked first (ih same)
  | refused first bytes => exact .refused first (bytes ++ [byte])

/-- Bytes of which all but the last are acknowledged. -/
def answered : List UInt8 → List Item
  | [] => []
  | byte :: bytes => (byte, bytes.length != 0) :: answered bytes

/-- Who listens to a bus: the levels heard last, the bits since the transfer began, and the
transfers that have ended. -/
structure Ear where
  last : Levels
  bits : Option (List Bool)
  frames : List (List Item)

/-- Nothing has been heard. -/
def Ear.silent : Ear := ⟨⟨false, false⟩, none, []⟩

/-- The transfers, with the one that has begun. -/
def Ear.closed (ear : Ear) : List (List Item) := ear.frames ++ (ear.bits.map itemsOf).toList

/-- The next levels. -/
def Ear.hear (ear : Ear) (now : Levels) : Ear :=
  if ear.last.scl ∧ now.scl then
    if ear.last.sda ∧ ¬now.sda then ⟨now, some [], ear.closed⟩
    else if ¬ear.last.sda ∧ now.sda then ⟨now, none, ear.closed⟩
    else { ear with last := now }
  else if now.scl then { ear with last := now, bits := ear.bits.map (· ++ [now.sda]) }
  else { ear with last := now }

variable (ear : Ear) {last now : Levels} {bits : Option (List Bool)} {frames : List (List Item)}

/-- While the clock is low, nothing is heard. -/
theorem Ear.hear_low (sda : Bool) : ear.hear ⟨false, sda⟩ = { ear with last := ⟨false, sda⟩ } := by
  simp [hear]

/-- A bit, when the clock rises. -/
theorem Ear.hear_rise (low : ear.last.scl = false) (sda : Bool) :
    ear.hear ⟨true, sda⟩ =
      { ear with last := ⟨true, sda⟩, bits := ear.bits.map (· ++ [sda]) } := by
  simp [hear, low]

/-- The data line stays as it is while the clock is high. -/
theorem Ear.hear_same (high : ear.last.scl = true) : ear.hear ear.last = ear := by
  simp only [hear, high, and_self, if_true, and_not_self, not_and_self, if_false]

/-- A transfer begins. -/
theorem Ear.hear_start (high : ear.last = ⟨true, true⟩) :
    ear.hear ⟨true, false⟩ = ⟨⟨true, false⟩, some [], ear.closed⟩ := by
  simp [hear, high]

/-- A transfer ends. -/
theorem Ear.hear_stop (high : ear.last = ⟨true, false⟩) :
    ear.hear ⟨true, true⟩ = ⟨⟨true, true⟩, none, ear.closed⟩ := by
  simp [hear, high]

end SoundBoard.Lib.TwoWire
