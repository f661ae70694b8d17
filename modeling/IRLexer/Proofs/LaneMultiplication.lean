import IRLexer.ValueType
import Mathlib.Algebra.BigOperators.Group.List.Basic
import Mathlib.Algebra.Order.GroupWithZero.Basic
import Mathlib.Algebra.Order.Ring.Int
import Mathlib.Data.Nat.Prime.Basic

/-!
# Lane multiplication

Multiplying the lanes of a type twice is multiplying them once by the product of the factors, in
either order.  A refusal on the way is never made good by later factors, so that a chain of factors
leads from a scalar to a type exactly when each of them is a power of two and their product is
within the limit.
-/

namespace IRLexer

theorem isPowerOfTwo_natCast_iff {number : Nat} :
    isPowerOfTwo number = true ↔ ∃ exponent, number = 2 ^ exponent := by
  have hbits := Nat.ne_zero_and_sub_one_eq_zero_iff_isPowerOfTwo (n := number)
  rw [Nat.isPowerOfTwo] at hbits
  rw [← hbits]
  simp only [isPowerOfTwo, Int.toNat_natCast, Bool.and_eq_true, decide_eq_true_eq, beq_iff_eq]
  refine and_congr_left fun _ => ?_
  omega

theorem pos_of_isPowerOfTwo {number : Int} (h : isPowerOfTwo number = true) : 0 < number := by
  simp only [isPowerOfTwo, Bool.and_eq_true, decide_eq_true_eq] at h
  exact h.1

theorem isPowerOfTwo_iff {number : Int} :
    isPowerOfTwo number = true ↔ ∃ exponent : Nat, number = 2 ^ exponent := by
  have hcast (exponent : Nat) : (2 ^ exponent : Int) = ((2 ^ exponent : Nat) : Int) := by simp
  constructor
  · intro h
    obtain ⟨magnitude, rfl⟩ := Int.eq_ofNat_of_zero_le (pos_of_isPowerOfTwo h).le
    obtain ⟨exponent, rfl⟩ := isPowerOfTwo_natCast_iff.mp h
    exact ⟨exponent, (hcast exponent).symm⟩
  · rintro ⟨exponent, rfl⟩
    rw [hcast]
    exact isPowerOfTwo_natCast_iff.mpr ⟨exponent, rfl⟩

theorem isPowerOfTwo_mul {first second : Int} (hfirst : isPowerOfTwo first = true)
    (hsecond : isPowerOfTwo second = true) : isPowerOfTwo (first * second) = true := by
  obtain ⟨exponent, rfl⟩ := isPowerOfTwo_iff.mp hfirst
  obtain ⟨further, rfl⟩ := isPowerOfTwo_iff.mp hsecond
  exact isPowerOfTwo_iff.mpr ⟨exponent + further, (pow_add 2 exponent further).symm⟩

theorem isPowerOfTwo_of_mul {first second : Int} (hfirst : 0 < first) (hsecond : 0 < second)
    (h : isPowerOfTwo (first * second) = true) :
    isPowerOfTwo first = true ∧ isPowerOfTwo second = true := by
  obtain ⟨one, rfl⟩ := Int.eq_ofNat_of_zero_le hfirst.le
  obtain ⟨other, rfl⟩ := Int.eq_ofNat_of_zero_le hsecond.le
  rw [← Int.natCast_mul] at h
  obtain ⟨exponent, hproduct⟩ := isPowerOfTwo_natCast_iff.mp h
  have hone : one ∣ 2 ^ exponent := ⟨other, hproduct.symm⟩
  have hother : other ∣ 2 ^ exponent := ⟨one, by rw [← hproduct, Nat.mul_comm]⟩
  obtain ⟨left, -, hleft⟩ := (Nat.dvd_prime_pow Nat.prime_two).mp hone
  obtain ⟨right, -, hright⟩ := (Nat.dvd_prime_pow Nat.prime_two).mp hother
  exact ⟨isPowerOfTwo_natCast_iff.mpr ⟨left, hleft⟩,
    isPowerOfTwo_natCast_iff.mpr ⟨right, hright⟩⟩

theorem isPowerOfTwo_prod {factors : List Int}
    (h : ∀ factor ∈ factors, isPowerOfTwo factor = true) : isPowerOfTwo factors.prod = true := by
  induction factors with
  | nil => rfl
  | cons factor later ih =>
      obtain ⟨hfactor, hlater⟩ := List.forall_mem_cons.mp h
      rw [List.prod_cons]
      exact isPowerOfTwo_mul hfactor (ih hlater)

namespace ValueType

theorem isPowerOfTwo_and_le_maxLanes_iff {lanes : Int} :
    isPowerOfTwo lanes = true ∧ lanes ≤ maxLanes ↔ ∃ exponent ≤ 8, lanes = 2 ^ exponent := by
  constructor
  · rintro ⟨hpower, hle⟩
    obtain ⟨exponent, rfl⟩ := isPowerOfTwo_iff.mp hpower
    have hbound : (2 : Int) ^ exponent ≤ 2 ^ 8 := hle
    exact ⟨exponent, (pow_le_pow_iff_right₀ (by decide)).mp hbound, rfl⟩
  · rintro ⟨exponent, hexponent, rfl⟩
    have hbound : (2 : Int) ^ exponent ≤ 2 ^ 8 := pow_le_pow_right₀ (by decide) hexponent
    exact ⟨isPowerOfTwo_iff.mpr ⟨exponent, rfl⟩, hbound⟩

theorem times?_eq_some_iff {type product : ValueType} {factor : Int} :
    type.times? factor = some product ↔
      isPowerOfTwo factor = true ∧ type.lanes * factor ≤ maxLanes ∧
        product = ⟨type.laneKind, type.laneBits, type.lanes * factor⟩ := by
  unfold times?
  split
  · next hadmitted =>
      simp only [Bool.and_eq_true, decide_eq_true_eq] at hadmitted
      simp [hadmitted, eq_comm]
  · next hrefused =>
      simp only [Bool.and_eq_true, decide_eq_true_eq] at hrefused
      simp only [reduceCtorEq, false_iff]
      rintro ⟨hpower, hle, -⟩
      exact hrefused ⟨hpower, hle⟩

theorem le_maxLanes_of_mul_le {lanes factor : Int} (hfactor : 0 < factor)
    (h : lanes * factor ≤ maxLanes) : lanes ≤ maxLanes := by
  rcases le_total lanes 0 with hneg | hpos
  · exact hneg.trans (by decide)
  · exact (le_mul_of_one_le_right hpos hfactor).trans h

theorem times?_bind_times?_eq_some_iff {type product : ValueType} {first second : Int} :
    ((type.times? first).bind fun middle => middle.times? second) = some product ↔
      isPowerOfTwo first = true ∧ isPowerOfTwo second = true ∧
        type.lanes * (first * second) ≤ maxLanes ∧
        product = ⟨type.laneKind, type.laneBits, type.lanes * (first * second)⟩ := by
  rw [Option.bind_eq_some_iff, ← mul_assoc]
  constructor
  · rintro ⟨middle, hmiddle, hproduct⟩
    obtain ⟨hfirst, -, rfl⟩ := times?_eq_some_iff.mp hmiddle
    obtain ⟨hsecond, hle, rfl⟩ := times?_eq_some_iff.mp hproduct
    exact ⟨hfirst, hsecond, hle, rfl⟩
  · rintro ⟨hfirst, hsecond, hle, rfl⟩
    have hmiddle := le_maxLanes_of_mul_le (pos_of_isPowerOfTwo hsecond) hle
    exact ⟨_, times?_eq_some_iff.mpr ⟨hfirst, hmiddle, rfl⟩,
      times?_eq_some_iff.mpr ⟨hsecond, hle, rfl⟩⟩

theorem times?_bind_times? (type : ValueType) {first second : Int} (hfirst : 1 ≤ first)
    (hsecond : 1 ≤ second) :
    ((type.times? first).bind fun middle => middle.times? second) =
      type.times? (first * second) := by
  apply Option.ext
  intro product
  rw [times?_bind_times?_eq_some_iff, times?_eq_some_iff]
  constructor
  · rintro ⟨hone, hother, hrest⟩
    exact ⟨isPowerOfTwo_mul hone hother, hrest⟩
  · rintro ⟨hproduct, hrest⟩
    obtain ⟨hone, hother⟩ := isPowerOfTwo_of_mul hfirst hsecond hproduct
    exact ⟨hone, hother, hrest⟩

theorem times?_bind_comm (type : ValueType) (first second : Int) :
    ((type.times? first).bind fun middle => middle.times? second) =
      (type.times? second).bind fun middle => middle.times? first := by
  apply Option.ext
  intro product
  rw [times?_bind_times?_eq_some_iff, times?_bind_times?_eq_some_iff, mul_comm second first,
    and_left_comm]

/-! ## Chains of factors -/

def timesAll? (type : ValueType) : List Int → Option ValueType
  | [] => some type
  | factor :: later => (type.times? factor).bind fun product => product.timesAll? later

theorem timesAll?_eq_some_iff {type product : ValueType} {factors : List Int}
    (htype : type.lanes ≤ maxLanes) :
    type.timesAll? factors = some product ↔
      (∀ factor ∈ factors, isPowerOfTwo factor = true) ∧
        type.lanes * factors.prod ≤ maxLanes ∧
        product = ⟨type.laneKind, type.laneBits, type.lanes * factors.prod⟩ := by
  induction factors generalizing type with
  | nil =>
      simp only [timesAll?, List.prod_nil, mul_one, Option.some.injEq]
      constructor
      · rintro rfl
        exact ⟨List.forall_mem_nil _, htype, rfl⟩
      · rintro ⟨-, -, rfl⟩
        rfl
  | cons factor later ih =>
      rw [timesAll?, Option.bind_eq_some_iff, List.forall_mem_cons, List.prod_cons, ← mul_assoc]
      constructor
      · rintro ⟨middle, hmiddle, hproduct⟩
        obtain ⟨hfactor, hle, rfl⟩ := times?_eq_some_iff.mp hmiddle
        obtain ⟨hlater, hrest⟩ := (ih hle).mp hproduct
        exact ⟨⟨hfactor, hlater⟩, hrest⟩
      · rintro ⟨⟨hfactor, hlater⟩, hle, rfl⟩
        have hpos := pos_of_isPowerOfTwo (isPowerOfTwo_prod hlater)
        have hmiddle := le_maxLanes_of_mul_le hpos hle
        exact ⟨_, times?_eq_some_iff.mpr ⟨hfactor, hmiddle, rfl⟩,
          (ih hmiddle).mpr ⟨hlater, hle, rfl⟩⟩

/--
Lanes are multiplied as numbers are, up to the limit.  Two positive factors act as their product and
any two factors act alike in both orders; from a scalar a chain of factors leads to the type with
their product as lanes if each is a power of two and the product is admitted, and nowhere otherwise.
-/
theorem lanes_multiply :
    (∀ (type : ValueType) (first second : Int), 1 ≤ first → 1 ≤ second →
      ((type.times? first).bind fun middle => middle.times? second) =
        type.times? (first * second)) ∧
    (∀ (type : ValueType) (first second : Int),
      ((type.times? first).bind fun middle => middle.times? second) =
        (type.times? second).bind fun middle => middle.times? first) ∧
    ∀ (scalar : ValueType) (factors : List Int), scalar.lanes = 1 →
      ((scalar.timesAll? factors).isSome ↔
        (∀ factor ∈ factors, ∃ exponent : Nat, factor = 2 ^ exponent) ∧
          factors.prod ≤ maxLanes) ∧
      ∀ product, scalar.timesAll? factors = some product →
        product.laneKind = scalar.laneKind ∧ product.laneBits = scalar.laneBits ∧
        product.lanes = factors.prod ∧ (∃ exponent ≤ 8, product.lanes = 2 ^ exponent) ∧
        product.laneType = scalar ∧ product.bits = scalar.laneBits * factors.prod ∧
        (product.isVector = true ↔ 1 < factors.prod) := by
  refine ⟨?_, times?_bind_comm, ?_⟩
  · intro type first second hfirst hsecond
    exact type.times?_bind_times? hfirst hsecond
  · intro scalar factors hscalar
    have hchain (product : ValueType) :
        scalar.timesAll? factors = some product ↔
          (∀ factor ∈ factors, isPowerOfTwo factor = true) ∧ factors.prod ≤ maxLanes ∧
            product = ⟨scalar.laneKind, scalar.laneBits, factors.prod⟩ := by
      rw [timesAll?_eq_some_iff (by rw [hscalar]; decide), hscalar, one_mul]
    constructor
    · simp only [Option.isSome_iff_exists, hchain, isPowerOfTwo_iff, exists_and_left, exists_eq,
        and_true]
    · intro product hproduct
      obtain ⟨hpowers, hle, rfl⟩ := (hchain product).mp hproduct
      refine ⟨rfl, rfl, rfl, ?_, ?_, rfl, ?_⟩
      · exact isPowerOfTwo_and_le_maxLanes_iff.mp ⟨isPowerOfTwo_prod hpowers, hle⟩
      · rw [laneType, ← hscalar]
      · simp [isVector]

theorem lanes_multiply_i8x256 :
    ((ValueType.mk "i" 8 (-3)).times? 2).bind (fun middle => middle.times? 512) =
      (ValueType.mk "i" 8 (-3)).times? 1024 ∧
    (ValueType.mk "i" 8 1).timesAll? [4, 1, 64] = some ⟨"i", 8, 256⟩ ∧
    (ValueType.mk "i" 8 256).bits = 8 * [4, 1, 64].prod :=
  have hproduct : (ValueType.mk "i" 8 1).timesAll? [4, 1, 64] = some ⟨"i", 8, 256⟩ := by decide
  ⟨lanes_multiply.1 _ 2 512 (by decide) (by decide), hproduct,
    ((lanes_multiply.2.2 _ _ rfl).2 _ hproduct).2.2.2.2.2.1⟩

end ValueType

end IRLexer
