import Mathlib.Algebra.Order.Field.Basic
import Mathlib.Data.Rat.Cast.Order
import Mathlib.Tactic.Linarith
import Mathlib.Tactic.Ring
import Scaffold.Number.Binary64

/-!
# Rounding

The whole number that a quotient is rounded to is never more than a half away from it. Whole numbers below
`2 ^ 53` are floating-point numbers themselves, so that rounding to floating-point numbers keeps them.

* `two_mul_roundHalfEven`: how near the rounded number is, and that it is even if two numbers are as near;
* `exists_toRatio?_ofRatio`: a whole quotient is kept.
-/

namespace Scaffold.Binary64

/-! ## Rounding to whole numbers -/

section

variable (num : Nat) {den : Nat} (hden : 0 < den)

include hden

/-- In halves of `1 / den` the rounded number is at most `den` away, and if it is as far as that it is even. -/
theorem two_mul_roundHalfEven :
    2 * num ≤ 2 * (roundHalfEven num den * den) + den
      ∧ 2 * (roundHalfEven num den * den) ≤ 2 * num + den
      ∧ (2 * num = 2 * (roundHalfEven num den * den) + den
          ∨ 2 * (roundHalfEven num den * den) = 2 * num + den → roundHalfEven num den % 2 = 0) := by
  have hsum : num / den * den + num % den = num := Nat.div_add_mod' num den
  have hless : num % den < den := Nat.mod_lt num hden
  have hsucc : (num / den + 1) * den = num / den * den + den := Nat.succ_mul _ _
  unfold roundHalfEven
  dsimp only
  split
  next hup =>
    simp only [Bool.or_eq_true, decide_eq_true_eq, Bool.and_eq_true, beq_iff_eq] at hup
    rw [hsucc]
    generalize num / den * den = whole at *
    omega
  next hdown =>
    simp only [Bool.or_eq_true, decide_eq_true_eq, Bool.and_eq_true, beq_iff_eq] at hdown
    generalize num / den * den = whole at *
    omega

/-- The rounded number is the nearest one. -/
theorem abs_sub_roundHalfEven_le : |(num : ℚ) / den - roundHalfEven num den| ≤ 1 / 2 := by
  obtain ⟨hlow, hhigh, -⟩ := two_mul_roundHalfEven num hden
  have hpos : (0 : ℚ) < den := by exact_mod_cast hden
  have hlow' : 2 * (num : ℚ) ≤ 2 * (roundHalfEven num den * den) + den := by exact_mod_cast hlow
  have hhigh' : 2 * ((roundHalfEven num den : ℚ) * den) ≤ 2 * num + den := by exact_mod_cast hhigh
  rw [abs_le]
  constructor
  · rw [neg_le_sub_iff_le_add, ← sub_le_iff_le_add, le_div_iff₀ hpos]
    linarith
  · rw [sub_le_iff_le_add, div_le_iff₀ hpos]
    linarith

/-- Of two numbers that are as near the even one is taken. -/
theorem even_roundHalfEven_of_tie (h : |(num : ℚ) / den - roundHalfEven num den| = 1 / 2) :
    roundHalfEven num den % 2 = 0 := by
  obtain ⟨-, -, htie⟩ := two_mul_roundHalfEven num hden
  have hne : (den : ℚ) ≠ 0 := by exact_mod_cast hden.ne'
  have hquotient : (num : ℚ) / den * den = num := div_mul_cancel₀ _ hne
  apply htie
  rcases (abs_eq (by norm_num : (0 : ℚ) ≤ 1 / 2)).1 h with h | h
  · left
    have hhalf : (num : ℚ) = (roundHalfEven num den + 1 / 2) * den := by
      rw [← hquotient, ← h]
      ring
    have hdouble : 2 * (num : ℚ) = 2 * (roundHalfEven num den * den) + den := by
      rw [hhalf]
      ring
    exact_mod_cast hdouble
  · right
    have hhalf : (num : ℚ) = (roundHalfEven num den - 1 / 2) * den := by
      rw [← hquotient, sub_eq_iff_eq_add.1 h]
      ring
    have hdouble : 2 * ((roundHalfEven num den : ℚ) * den) = 2 * num + den := by
      rw [hhalf]
      ring
    exact_mod_cast hdouble

/-- A whole quotient is not changed. -/
theorem roundHalfEven_mul_self (q : Nat) : roundHalfEven (q * den) den = q := by
  have hdiv : q * den / den = q := Nat.mul_div_cancel q hden
  have hmod : q * den % den = 0 := Nat.mul_mod_left q den
  have hpos : (0 == den) = false := by simp [hden.ne]
  simp [roundHalfEven, hdiv, hmod, hpos]

end

/-! ## Powers of two -/

/-- The numerator takes the power of an exponent that is not positive. -/
theorem shift_neg (num den j : Nat) : shift num den (-(j : Int)) = (num * 2 ^ j, den) := by
  cases j with
  | zero => simp [shift]
  | succ j =>
    have hneg : ¬ 0 ≤ -((j + 1 : Nat) : Int) := by omega
    rw [shift, if_neg hneg, neg_neg, Int.toNat_natCast]
    rfl

theorem shift_natCast (num den j : Nat) : shift num den (j : Int) = (num, den * 2 ^ j) := by
  rw [shift, if_pos (Int.natCast_nonneg j), Int.toNat_natCast]
  rfl

/-- The denominator of a finite number is positive. -/
theorem ratio_snd_pos (m : Nat) (e : Int) : 0 < (ratio m e).2 := by
  unfold ratio shift
  split
  · exact Nat.mul_pos Nat.one_pos (Nat.pow_pos Nat.two_pos)
  · exact Nat.one_pos

theorem ratio_zero_fst (e : Int) : (ratio 0 e).1 = 0 := by
  unfold ratio shift
  split
  · rfl
  · exact Nat.zero_mul _

theorem log2_mul_bounds {q d : Nat} (hq : 0 < q) (hd : 0 < d) :
    q.log2 + d.log2 ≤ (q * d).log2 ∧ (q * d).log2 ≤ q.log2 + d.log2 + 1 := by
  have hne : q * d ≠ 0 := (Nat.mul_pos hq hd).ne'
  constructor
  · rw [Nat.le_log2 hne, Nat.pow_add]
    exact Nat.mul_le_mul (Nat.log2_self_le hq.ne') (Nat.log2_self_le hd.ne')
  · rw [← Nat.lt_succ_iff, Nat.log2_lt hne]
    calc q * d < 2 ^ (q.log2 + 1) * 2 ^ (d.log2 + 1) := Nat.mul_lt_mul'' Nat.lt_log2_self Nat.lt_log2_self
      _ = 2 ^ (q.log2 + d.log2 + 2) := by rw [← Nat.pow_add]; congr 1; omega

/-- The binary logarithm of a whole quotient is that of the number. -/
theorem floorLog2_mul_self {q d : Nat} (hq : 0 < q) (hd : 0 < d) : floorLog2 (q * d) d = (q.log2 : Int) := by
  obtain ⟨hlow, hhigh⟩ := log2_mul_bounds hq hd
  obtain ⟨g, hg⟩ : ∃ g : Nat, (q * d).log2 = d.log2 + g := ⟨_, (Nat.add_sub_cancel' (by omega)).symm⟩
  have hguess : ((q * d).log2 : Int) - (d.log2 : Int) = (g : Int) := by omega
  unfold floorLog2
  dsimp only
  rw [hguess, shift_natCast]
  by_cases hexact : g = q.log2
  · have hpower : d * 2 ^ g ≤ q * d := by
      rw [hexact, Nat.mul_comm q d]
      exact Nat.mul_le_mul_left d (Nat.log2_self_le hq.ne')
    rw [if_pos hpower, hexact]
  · -- The logarithms of the two parts were rounded down by one together.
    have hnext : g = q.log2 + 1 := by omega
    have hpower : ¬ d * 2 ^ g ≤ q * d := by
      rw [hnext, Nat.mul_comm q d, Nat.not_le]
      exact Nat.mul_lt_mul_of_pos_left Nat.lt_log2_self hd
    rw [if_neg hpower, hnext]
    omega

/-! ## Whole numbers -/

/-- A whole quotient below `2 ^ 53` is a floating-point number. -/
theorem ofRatio_mul_self {q d : Nat} (hq : 0 < q) (hlimit : q < 2 ^ 53) (hd : 0 < d) :
    ofRatio false (q * d) d = .finite false (q * 2 ^ (52 - q.log2)) (-((52 - q.log2 : Nat) : Int)) := by
  have hlog : q.log2 ≤ 52 := by
    rw [← Nat.lt_succ_iff, Nat.log2_lt hq.ne']
    exact hlimit
  -- The mantissa takes the power of two that fills it, and nothing is left to round.
  have hexponent : max ((q.log2 : Int) - 52) leastExponent = -((52 - q.log2 : Nat) : Int) := by
    unfold leastExponent
    omega
  have hmantissa : q * 2 ^ (52 - q.log2) < 2 * leastMantissa := by
    calc q * 2 ^ (52 - q.log2) < 2 ^ (q.log2 + 1) * 2 ^ (52 - q.log2) :=
          Nat.mul_lt_mul_of_pos_right Nat.lt_log2_self (Nat.pow_pos Nat.two_pos)
      _ = 2 ^ 53 := by rw [← Nat.pow_add]; congr 1; omega
      _ = 2 * leastMantissa := by rfl
  have hround : roundHalfEven (q * d * 2 ^ (52 - q.log2)) d = q * 2 ^ (52 - q.log2) := by
    rw [Nat.mul_right_comm]
    exact roundHalfEven_mul_self hd _
  have hzero : (q * d == 0) = false := by simp [hq.ne', hd.ne']
  have hfull : (q * 2 ^ (52 - q.log2) == 2 * leastMantissa) = false := beq_eq_false_iff_ne.2 hmantissa.ne
  have hfinite : ¬ greatestExponent < -((52 - q.log2 : Nat) : Int) := by
    unfold greatestExponent
    omega
  unfold ofRatio
  rw [hzero, if_neg Bool.false_ne_true, floorLog2_mul_self hq hd, hexponent]
  dsimp only
  rw [shift_neg, hround, hfull, if_neg Bool.false_ne_true]
  exact if_neg hfinite

/-- A whole quotient below `2 ^ 53` is kept, in lowest terms or not. -/
theorem exists_toRatio?_ofRatio {q d : Nat} (hlimit : q < 2 ^ 53) (hd : 0 < d) :
    ∃ c, 0 < c ∧ (ofRatio false (q * d) d).toRatio? = some (false, q * c, c) := by
  by_cases hq : q = 0
  · refine ⟨(ratio 0 leastExponent).2, ratio_snd_pos 0 leastExponent, ?_⟩
    rw [hq, Nat.zero_mul, Nat.zero_mul, ← ratio_zero_fst leastExponent]
    rfl
  · refine ⟨2 ^ (52 - q.log2), Nat.pow_pos Nat.two_pos, ?_⟩
    rw [ofRatio_mul_self (Nat.pos_of_ne_zero hq) hlimit hd, toRatio?, ratio, neg_neg, shift_natCast, Nat.one_mul]

end Scaffold.Binary64
