import Mathlib

/-!
# Cyclic redundancy codes

A register of `w` bits divides the bits that are shifted into it by a generator of degree `w`,
of which the register keeps the remainder. Shifting is linear in exclusive or, so a whole byte
can be shifted in with one table look-up, and the words that leave the remainder zero differ in
at least three bits as long as the powers of the indeterminate are distinct below their length.
-/

namespace SoundBoard.Lib.Crc

variable {w : Nat} {poly r s : BitVec w}

/-- Shift a bit into the register: the generator is subtracted when the bit and the one that
leaves the register differ. -/
def shiftIn (poly r : BitVec w) (bit : Bool) : BitVec w :=
  (r <<< 1) ^^^ (if xor r.msb bit then poly else 0#w)

/-- Shift a message into the register. -/
def remainder (poly r : BitVec w) (message : List Bool) : BitVec w := message.foldl (shiftIn poly) r

@[simp] theorem remainder_nil (poly r : BitVec w) : remainder poly r [] = r := rfl

@[simp] theorem remainder_cons (poly r : BitVec w) (bit : Bool) (message : List Bool) :
    remainder poly r (bit :: message) = remainder poly (shiftIn poly r bit) message := rfl

@[simp] theorem remainder_append (poly r : BitVec w) (first second : List Bool) :
    remainder poly r (first ++ second) = remainder poly (remainder poly r first) second :=
  List.foldl_append

/-! ## Linearity -/

/-- A shift is linear. -/
theorem shiftIn_xor (poly r s : BitVec w) (a b : Bool) :
    shiftIn poly (r ^^^ s) (xor a b) = shiftIn poly r a ^^^ shiftIn poly s b := by
  have rearrange : ∀ x y u v : BitVec w, x ^^^ y ^^^ (u ^^^ v) = x ^^^ u ^^^ (y ^^^ v) := by
    intro x y u v
    rw [BitVec.xor_assoc, ← BitVec.xor_assoc y u v, BitVec.xor_comm y u, BitVec.xor_assoc u y v,
      ← BitVec.xor_assoc]
  have feedback : (if xor (xor r.msb s.msb) (xor a b) then poly else 0#w) =
      (if xor r.msb a then poly else 0#w) ^^^ (if xor s.msb b then poly else 0#w) := by
    cases r.msb <;> cases s.msb <;> cases a <;> cases b <;> simp
  simp only [shiftIn, BitVec.msb_xor, BitVec.shiftLeft_xor_distrib, feedback]
  exact rearrange _ _ _ _

/-- So is the remainder of messages of one length. -/
theorem remainder_xor (poly r s : BitVec w) {left right : List Bool}
    (length : left.length = right.length) :
    remainder poly (r ^^^ s) (List.zipWith xor left right) =
      remainder poly r left ^^^ remainder poly s right := by
  induction left generalizing r s right with
  | nil =>
    rw [List.length_nil, eq_comm, List.length_eq_zero_iff] at length
    rw [length]
    rfl
  | cons a left ih =>
    cases right with
    | nil => contradiction
    | cons b right =>
      simp only [List.zipWith_cons_cons, remainder_cons, shiftIn_xor]
      exact ih _ _ (Nat.succ.inj length)

/-- The first bits of the register, most significant first; beyond it, zeros. -/
def leading (r : BitVec w) (n : Nat) : List Bool := (List.range n).map r.getMsbD

@[simp] theorem leading_length (r : BitVec w) (n : Nat) : (leading r n).length = n := by
  simp [leading]

/-- Shifting the register's own bits in only moves them out. -/
theorem remainder_leading (poly r : BitVec w) (n : Nat) :
    remainder poly r (leading r n) = r <<< n := by
  induction n with
  | zero => simp [leading]
  | succ n ih =>
    have last : leading r (n + 1) = leading r n ++ [r.getMsbD n] := by
      simp [leading, List.range_succ]
    rw [last, remainder_append, ih, remainder_cons, remainder_nil, shiftIn, BitVec.msb_shiftLeft]
    simp [BitVec.shiftLeft_add]

/-- The register can be emptied first: its leading bits are added to the message, and the rest
moves up. -/
theorem remainder_absorb (poly r : BitVec w) (message : List Bool) :
    remainder poly r message = (r <<< message.length) ^^^
      remainder poly 0#w (List.zipWith xor message (leading r message.length)) := by
  have both := remainder_xor poly r r
    (show message.length = (leading r message.length).length by rw [leading_length])
  rw [BitVec.xor_self, remainder_leading] at both
  rw [both, BitVec.xor_comm _ (r <<< _), ← BitVec.xor_assoc, BitVec.xor_self, BitVec.zero_xor]

/-- A message followed by its own remainder leaves the register zero. -/
theorem remainder_self (poly r : BitVec w) (message : List Bool) :
    remainder poly r (message ++ leading (remainder poly r message) w) = 0#w := by
  rw [remainder_append, remainder_leading]
  exact BitVec.shiftLeft_eq_zero (Nat.le_refl w)

/-! ## Distance -/

/-- The remainder of a lone one with `n` zeros behind it. -/
def power (poly : BitVec w) (n : Nat) : BitVec w :=
  remainder poly (shiftIn poly 0#w true) (List.replicate n false)

/-- Number of places in which two words differ. -/
def distance (left right : List Bool) : Nat := (List.zipWith xor left right).count true

/-- An empty register stays empty on zeros. -/
theorem shiftIn_zero (poly : BitVec w) : shiftIn poly 0#w false = 0#w := by simp [shiftIn]

/-- The remainder splits off the first bit. -/
theorem remainder_first (poly : BitVec w) (bit : Bool) (message : List Bool) :
    remainder poly 0#w (bit :: message) =
      (if bit then power poly message.length else 0#w) ^^^ remainder poly 0#w message := by
  cases bit with
  | false =>
    rw [remainder_cons, shiftIn_zero]
    simp
  | true =>
    have zeros : List.zipWith xor (List.replicate message.length false) message = message := by
      induction message with
      | nil => rfl
      | cons bit message ih => simp [List.replicate_succ, ih]
    have split := remainder_xor poly (shiftIn poly 0#w true) 0#w
      (show (List.replicate message.length false).length = message.length from
        List.length_replicate)
    rw [zeros, BitVec.xor_zero] at split
    rw [remainder_cons, split]
    rfl

/-- A word without ones has remainder zero. -/
theorem remainder_noOnes (poly : BitVec w) {word : List Bool} (none : word.count true = 0) :
    remainder poly 0#w word = 0#w := by
  induction word with
  | nil => rfl
  | cons bit word ih =>
    cases bit with
    | true => simp at none
    | false =>
      rw [List.count_cons_of_ne (by decide)] at none
      rw [remainder_cons, shiftIn_zero, ih none]

/-- A word with a single one has a power as its remainder. -/
theorem remainder_oneOne (poly : BitVec w) {word : List Bool} (single : word.count true = 1) :
    ∃ j, j < word.length ∧ remainder poly 0#w word = power poly j := by
  induction word with
  | nil => contradiction
  | cons bit word ih =>
    cases bit with
    | true =>
      rw [List.count_cons_self] at single
      refine ⟨word.length, Nat.lt_succ_self _, ?_⟩
      rw [remainder_first, remainder_noOnes poly (by omega), BitVec.xor_zero]
      rfl
    | false =>
      rw [List.count_cons_of_ne (by decide)] at single
      obtain ⟨j, inside, value⟩ := ih single
      refine ⟨j, Nat.lt_succ_of_lt inside, ?_⟩
      rw [remainder_cons, shiftIn_zero, value]

/-- A word with two ones has a sum of two powers as its remainder. -/
theorem remainder_twoOnes (poly : BitVec w) {word : List Bool} (pair : word.count true = 2) :
    ∃ j k, j < k ∧ k < word.length ∧
      remainder poly 0#w word = power poly k ^^^ power poly j := by
  induction word with
  | nil => contradiction
  | cons bit word ih =>
    cases bit with
    | true =>
      rw [List.count_cons_self] at pair
      obtain ⟨j, inside, value⟩ := remainder_oneOne poly (show word.count true = 1 by omega)
      refine ⟨j, word.length, inside, Nat.lt_succ_self _, ?_⟩
      rw [remainder_first, value]
      rfl
    | false =>
      rw [List.count_cons_of_ne (by decide)] at pair
      obtain ⟨j, k, order, inside, value⟩ := ih pair
      refine ⟨j, k, order, Nat.lt_succ_of_lt inside, ?_⟩
      rw [remainder_cons, shiftIn_zero, value]

/-- Below the length `n`, no power is zero and no two are equal. -/
structure Separates (poly : BitVec w) (n : Nat) : Prop where
  nonzero : ∀ j, j < n → power poly j ≠ 0#w
  apart : ∀ j k, j < k → k < n → power poly k ≠ power poly j

/-- No words of the same length at distance zero are different. -/
theorem eq_of_distance {left right : List Bool} (length : left.length = right.length)
    (none : distance left right = 0) : left = right := by
  induction left generalizing right with
  | nil => exact (List.length_eq_zero_iff.mp length.symm).symm
  | cons a left ih =>
    cases right with
    | nil => contradiction
    | cons b right =>
      have rest : distance left right = 0 → left = right := ih (Nat.succ.inj length)
      cases a <;> cases b <;> simp_all [distance]

/-- Two different words with the same remainder differ in three bits or more. -/
theorem three_le_distance {n : Nat} (separates : Separates poly n) {left right : List Bool}
    (length : left.length = right.length) (short : left.length ≤ n)
    (same : remainder poly r left = remainder poly r right) (differ : left ≠ right) :
    3 ≤ distance left right := by
  have both := remainder_xor poly r r length
  rw [same, BitVec.xor_self, BitVec.xor_self] at both
  have wordLength : (List.zipWith xor left right).length = left.length := by
    rw [List.length_zipWith, ← length, Nat.min_self]
  have some : distance left right ≠ 0 := fun none => differ (eq_of_distance length none)
  have single : distance left right ≠ 1 := by
    intro one
    obtain ⟨j, inside, value⟩ := remainder_oneOne poly one
    rw [both] at value
    exact separates.nonzero j (by omega) value.symm
  have pair : distance left right ≠ 2 := by
    intro two
    obtain ⟨j, k, order, inside, value⟩ := remainder_twoOnes poly two
    rw [both] at value
    exact separates.apart j k order (by omega) (BitVec.xor_eq_zero_iff.mp value.symm)
  omega

/-! ## Polynomials -/

open Polynomial in
/-- The register as a polynomial with bits as coefficients. -/
noncomputable def ofRegister (r : BitVec w) : (ZMod 2)[X] :=
  ∑ i ∈ Finset.range w, if r.getLsbD i then X ^ i else 0

open Polynomial in
/-- One more bit at the low end of a polynomial. -/
noncomputable def appendBit (p : (ZMod 2)[X]) (bit : Bool) : (ZMod 2)[X] :=
  X * p + if bit then 1 else 0

/-- A message as a polynomial, its first bit at the highest power. -/
noncomputable def ofMessage (message : List Bool) : Polynomial (ZMod 2) := message.foldl appendBit 0

open Polynomial in
/-- The generator: the register has no room for its leading term. -/
noncomputable def generator (poly : BitVec w) : (ZMod 2)[X] := X ^ w + ofRegister poly

/-- Exclusive or adds the polynomials. -/
theorem ofRegister_xor (r s : BitVec w) :
    ofRegister (r ^^^ s) = ofRegister r + ofRegister s := by
  simp only [ofRegister, ← Finset.sum_add_distrib, BitVec.getLsbD_xor]
  refine Finset.sum_congr rfl fun i _ => ?_
  cases r.getLsbD i <;> cases s.getLsbD i <;> simp [CharTwo.add_self_eq_zero]

/-- The empty register is the zero polynomial. -/
theorem ofRegister_zero : ofRegister 0#w = 0 := by simp [ofRegister]

open Polynomial in
/-- A shift multiplies by the indeterminate and loses the leading term. -/
theorem ofRegister_shift (r : BitVec w) :
    ofRegister (r <<< 1) + (if r.msb then X ^ w else 0) = X * ofRegister r := by
  cases w with
  | zero => simp [ofRegister, BitVec.msb_eq_getLsbD_last]
  | succ n =>
    have top : r.msb = r.getLsbD n := by simp [BitVec.msb_eq_getLsbD_last]
    have term : ∀ i ∈ Finset.range n, (if (r <<< 1).getLsbD (i + 1) then X ^ (i + 1) else 0) =
        (X : (ZMod 2)[X]) * if r.getLsbD i then X ^ i else 0 := by
      intro i inside
      have low := Finset.mem_range.mp inside
      simp only [BitVec.getLsbD_shiftLeft, Nat.add_sub_cancel]
      have bit : (decide (i + 1 < n + 1) && !decide (i + 1 < 1) && r.getLsbD i) = r.getLsbD i := by
        simp [low]
      rw [bit, mul_ite, mul_zero, pow_succ']
    rw [ofRegister, Finset.sum_range_succ', Finset.sum_congr rfl term, ← Finset.mul_sum]
    rw [ofRegister, Finset.sum_range_succ, mul_add, top]
    cases r.getLsbD n <;> simp [pow_succ']

/-- The register's polynomial has a degree below its width. -/
theorem degree_ofRegister (r : BitVec w) : (ofRegister r).degree < w := by
  refine Polynomial.mem_degreeLT.mp (Submodule.sum_mem _ fun i inside => ?_)
  split
  · refine Polynomial.mem_degreeLT.mpr ?_
    rw [Polynomial.degree_X_pow]
    exact_mod_cast Finset.mem_range.mp inside
  · exact Submodule.zero_mem _

/-- The generator is monic, of the register's width. -/
theorem generator_monic (poly : BitVec w) : (generator poly).Monic :=
  Polynomial.monic_X_pow_add (degree_ofRegister poly)

open Polynomial in
/-- What a shift does to the polynomials. -/
theorem ofRegister_shiftIn (poly r : BitVec w) (bit : Bool) :
    ofRegister (shiftIn poly r bit) = X * ofRegister r + (if bit then X ^ w else 0) +
      generator poly * (if xor r.msb bit then 1 else 0) := by
  have shifted := ofRegister_shift r
  have twice : (X : (ZMod 2)[X]) ^ w + X ^ w = 0 := CharTwo.add_self_eq_zero _
  rw [← shifted, shiftIn, ofRegister_xor, generator]
  cases r.msb <;> cases bit <;> simp only [Bool.xor_false, Bool.xor_true, Bool.not_true,
    Bool.not_false, Bool.false_eq_true, if_true, if_false, ofRegister_zero, mul_zero, mul_one,
    add_zero]
  · linear_combination -twice
  · linear_combination -twice
  · linear_combination -twice

open Polynomial in
/-- The register holds the message, moved up by its width, up to multiples of the generator.
The induction is on the message, from any register that does so already. -/
theorem exists_quotient (poly r : BitVec w) (p q : (ZMod 2)[X]) (message : List Bool)
    (before : ofRegister r + generator poly * q = p * X ^ w) :
    ∃ quotient, ofRegister (remainder poly r message) + generator poly * quotient =
      message.foldl appendBit p * X ^ w := by
  induction message generalizing r p q with
  | nil => exact ⟨q, before⟩
  | cons bit message ih =>
    refine ih (shiftIn poly r bit) (appendBit p bit)
      (X * q - if xor r.msb bit then 1 else 0) ?_
    rw [ofRegister_shiftIn, appendBit]
    cases bit <;> simp only [if_true, if_false, Bool.false_eq_true] <;>
      linear_combination X * before

open Polynomial in
/-- The register divides: it ends with the remainder of the message, moved up by the width of
the register, by the generator. -/
theorem remainder_eq_modByMonic (poly : BitVec w) (message : List Bool) :
    ofRegister (remainder poly 0#w message) =
      (ofMessage message * X ^ w) %ₘ generator poly := by
  have start : ofRegister 0#w + generator poly * 0 = (0 : (ZMod 2)[X]) * X ^ w := by
    simp [ofRegister_zero]
  obtain ⟨quotient, division⟩ := exists_quotient poly 0#w 0 0 message start
  have degree : (ofRegister (remainder poly 0#w message)).degree < (generator poly).degree := by
    rw [generator, Polynomial.degree_add_eq_left_of_degree_lt, Polynomial.degree_X_pow]
    · exact degree_ofRegister _
    · rw [Polynomial.degree_X_pow]
      exact degree_ofRegister _
  exact (Polynomial.div_modByMonic_unique _ _ (generator_monic poly) ⟨division, degree⟩).2.symm

end SoundBoard.Lib.Crc
