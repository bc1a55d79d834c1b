import Docent.Number.Amount
import Mathlib.Algebra.GroupWithZero.Nat

/-!
# Delays that double

Doubling multiplies by a power of two that has to be a floating-point number itself. Main statement:
that is so up to `2 ^ 1023`, whatever the delay.
-/

namespace Docent

namespace Binary64

theorem inUnits_ofNat (num den k : Nat) : inUnits num den (k : Int) = (num, den * 2 ^ k) := rfl

theorem binaryExponent_two_pow (k : Nat) : binaryExponent (2 ^ k) 1 = k := by
  have hlog : (Nat.log2 (2 ^ k) : Int) - (Nat.log2 1 : Int) = (k : Int) := by
    have hone : Nat.log2 1 = 0 := by decide
    rw [Nat.log2_two_pow, hone]
    omega
  have hunits : ¬ (inUnits (2 ^ k) 1 (k : Int)).1 < (inUnits (2 ^ k) 1 (k : Int)).2 := by
    rw [inUnits_ofNat]
    simp
  simp only [binaryExponent, hlog, hunits, if_false]

theorem roundDiv_two_pow (k : Nat) :
    roundDiv (inUnits (2 ^ k) 1 ((k : Int) - 52)).1 (inUnits (2 ^ k) 1 ((k : Int) - 52)).2 =
      2 ^ 52 := by
  rcases Nat.lt_or_ge k 52 with hk | hk
  · have hscale : (k : Int) - 52 = Int.negSucc (51 - k) := by omega
    have hpower : 2 ^ k * 2 ^ (51 - k + 1) = 2 ^ 52 := by
      rw [← Nat.pow_add]
      congr 1
      omega
    rw [hscale]
    show roundDiv (2 ^ k * 2 ^ (51 - k + 1)) 1 = 2 ^ 52
    rw [hpower]
    exact roundDiv_mul (2 ^ 52) 1 Nat.one_pos
  · have hscale : (k : Int) - 52 = ((k - 52 : Nat) : Int) := by omega
    have hpower : 2 ^ k = 2 ^ 52 * 2 ^ (k - 52) := by
      rw [← Nat.pow_add]
      congr 1
      omega
    rw [hscale, inUnits_ofNat]
    show roundDiv (2 ^ k) (1 * 2 ^ (k - 52)) = 2 ^ 52
    rw [Nat.one_mul, hpower]
    exact roundDiv_mul (2 ^ 52) (2 ^ (k - 52)) (Nat.two_pow_pos _)

theorem nearest_two_pow (k : Nat) :
    nearest false (2 ^ k) 1 =
      if k < 1024 then .finite false (2 ^ 52) ((k : Int) - 52) else .infinite false := by
  have hpos : ¬ 2 ^ k = 0 := Nat.ne_of_gt (Nat.two_pow_pos k)
  have hpower : max leastPower ((k : Int) - 52) = (k : Int) - 52 := by
    rw [leastPower]
    omega
  have hdigits : ¬ (2 ^ 52 : Nat) = Nat.pow 2 53 := by decide
  simp only [nearest, hpos, if_false, binaryExponent_two_pow, hpower, roundDiv_two_pow, hdigits]
  rcases Nat.lt_or_ge k 1024 with hk | hk
  · have hfits : ¬ greatestPower < (k : Int) - 52 := by
      rw [greatestPower]
      omega
    simp only [hk, hfits, if_true, if_false]
  · have hbeyond : greatestPower < (k : Int) - 52 := by
      rw [greatestPower]
      omega
    simp only [Nat.not_lt.2 hk, hbeyond, if_true, if_false]

theorem ofInt?_two_pow (k : Nat) :
    ofInt? (Int.ofNat (Nat.pow 2 k)) =
      if k < 1024 then some (.finite false (2 ^ 52) ((k : Int) - 52)) else none := by
  have hsign : ¬ Int.ofNat (Nat.pow 2 k) < 0 := Int.not_lt.2 (Int.natCast_nonneg _)
  have hnear : nearest (decide (Int.ofNat (Nat.pow 2 k) < 0)) (Int.ofNat (Nat.pow 2 k)).natAbs 1 =
      if k < 1024 then .finite false (2 ^ 52) ((k : Int) - 52) else .infinite false := by
    rw [decide_eq_false hsign]
    exact nearest_two_pow k
  rw [ofInt?, hnear]
  by_cases hk : k < 1024 <;> simp [hk]

theorem isSome_ofInt?_two_pow (k : Nat) :
    (ofInt? (Int.ofNat (Nat.pow 2 k))).isSome = true ↔ k < 1024 := by
  rw [ofInt?_two_pow]
  split <;> simp [*]

theorem ofScaled_zero (negative : Bool) (power : Int) : ofScaled negative 0 power = zero negative := by
  cases power <;> simp [ofScaled, magnitude, nearest]

end Binary64

namespace Amount

theorem isSome_doubled?_real (x : Binary64) (k : Nat) :
    ((Amount.real x).doubled? k).isSome = true ↔ k < 1024 := by
  rw [doubled?, Option.isSome_map]
  exact Binary64.isSome_ofInt?_two_pow k

/-- A delay of zero stays zero, however often it is doubled. -/
theorem eq_zero_of_doubled? {k : Nat} {a : Amount}
    (h : (Amount.real (.zero false)).doubled? k = some a) : a = .real (.zero false) := by
  rw [doubled?, Binary64.ofInt?_two_pow] at h
  split at h
  · obtain rfl := Option.some.inj h
    simp only [Binary64.zero, Binary64.mul, Nat.zero_mul, Binary64.ofScaled_zero]
    rfl
  · cases h

end Amount

end Docent
