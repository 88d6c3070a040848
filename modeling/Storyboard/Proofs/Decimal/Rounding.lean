import Mathlib

/-!
# Rounding to doubles

A result is computed as a significand with two more bits, which stand for all the digits that
follow, and it is rounded once. Whether the double is finite depends on the exact value only: the
values from `Decimal.overflow` on are rounded to infinity, and no others.

Main results:

- Theorem `Decimal.Represents.le_roundedMantissa_iff`: which values are rounded up to
  an even number.
- Theorem `Decimal.isFinite_roundWithAccuracy_iff`: which values are rounded to finite doubles.
- Theorems `Decimal.isFinite_mul_iff` and `Decimal.isFinite_div_iff`: products and quotients.
-/

namespace Storyboard.Decimal

open Float.Model Float.Model.UnpackedFloat

/-! ## Significands with residual bits -/

/-- What a significand with its two residual bits stands for: the significand is the integral part,
and the bits tell the fraction from zero and from a half. -/
def Represents : ExtendedMantissa → ℚ → Prop
  | ⟨m, false, false⟩, x => x = m
  | ⟨m, false, true⟩, x => m < x ∧ x < m + 1 / 2
  | ⟨m, true, false⟩, x => x = m + 1 / 2
  | ⟨m, true, true⟩, x => m + 1 / 2 < x ∧ x < m + 1

namespace Represents

variable {em : ExtendedMantissa} {x : ℚ}

theorem floor (h : Represents em x) : (em.mantissa : ℚ) ≤ x ∧ x < em.mantissa + 1 := by
  rcases em with ⟨m, _ | _, _ | _⟩ <;> simp only [Represents] at h <;> constructor <;> linarith

/-- The quotient of a division, with what its remainder says of the fraction. -/
theorem ofFraction (m : Nat) {num den : Nat} (h : num < den) :
    Represents (.ofMantissaAndAccuracy m (accuracyOfFraction num den)) (m + num / den) := by
  have hden : (0 : ℚ) < den := by exact_mod_cast (by omega : 0 < den)
  unfold accuracyOfFraction
  split
  · next hnum => simp [ExtendedMantissa.ofMantissaAndAccuracy, Represents, hnum]
  · next hnum =>
    have hpos : (0 : ℚ) < num / den := div_pos (by exact_mod_cast Nat.pos_of_ne_zero hnum) hden
    have hone : (num : ℚ) / den < 1 := (div_lt_one hden).mpr (by exact_mod_cast h)
    cases hcompare : compare (2 * num) den with
    | lt =>
        have hlt : (num : ℚ) / den < 1 / 2 := by
          rw [div_lt_div_iff₀ hden (by norm_num), one_mul, mul_comm]
          exact_mod_cast Nat.compare_eq_lt.mp hcompare
        change (m : ℚ) < m + num / den ∧ (m : ℚ) + num / den < m + 1 / 2
        constructor <;> linarith
    | eq =>
        have heq : (num : ℚ) / den = 1 / 2 := by
          rw [div_eq_div_iff hden.ne' (by norm_num), one_mul, mul_comm]
          exact_mod_cast Nat.compare_eq_eq.mp hcompare
        exact congrArg ((m : ℚ) + ·) heq
    | gt =>
        have hgt : (1 : ℚ) / 2 < num / den := by
          rw [div_lt_div_iff₀ (by norm_num) hden, one_mul, mul_comm]
          exact_mod_cast Nat.compare_eq_gt.mp hcompare
        change (m : ℚ) + 1 / 2 < m + num / den ∧ (m : ℚ) + num / den < m + 1
        constructor <;> linarith

/-- The lowest digit of the significand becomes the first residual bit. -/
theorem shiftRightOne (h : Represents em x) : Represents em.shiftRightOne (x / 2) := by
  rcases em with ⟨m, round, sticky⟩
  obtain ⟨half, rfl | rfl⟩ := Nat.even_or_odd' m
  · have hhalf : 2 * half / 2 = half := by omega
    have hbit : (2 * half % 2 != 0) = false := by simp
    rw [ExtendedMantissa.shiftRightOne, hhalf, hbit]
    cases round <;> cases sticky <;>
      simp only [Represents, Bool.or_self, Bool.or_true, Bool.or_false] at h ⊢ <;> push_cast at h
    · linarith
    all_goals constructor <;> linarith
  · have hhalf : (2 * half + 1) / 2 = half := by omega
    have hbit : ((2 * half + 1) % 2 != 0) = true := by simp
    rw [ExtendedMantissa.shiftRightOne, hhalf, hbit]
    cases round <;> cases sticky <;>
      simp only [Represents, Bool.or_self, Bool.or_true, Bool.or_false] at h ⊢ <;> push_cast at h
    · linarith
    all_goals constructor <;> linarith

theorem shiftRight (h : Represents em x) (k : Nat) : Represents (em >>> k) (x / 2 ^ k) := by
  change Represents (k.repeat ExtendedMantissa.shiftRightOne em) _
  induction k with
  | zero => simpa [Nat.repeat] using h
  | succ k ih =>
      rw [Nat.repeat, pow_succ, ← div_div]
      exact ih.shiftRightOne

/-- Rounding to the nearest integer reaches an even number from half below it on. -/
theorem le_roundedMantissa_iff (h : Represents em x) {n : Nat} (hn : Even n) :
    n ≤ em.roundedMantissa ↔ (n : ℚ) - 1 / 2 ≤ x := by
  obtain ⟨half, rfl⟩ := hn
  generalize hdouble : half + half = n
  rcases em with ⟨m, round, sticky⟩
  have hfloor := h.floor
  simp only at hfloor
  rcases Nat.lt_trichotomy n (m + 1) with hlow | rfl | hhigh
  · have hle : (n : ℚ) ≤ m := by exact_mod_cast Nat.le_of_lt_succ hlow
    refine iff_of_true ?_ (by linarith)
    cases round <;> cases sticky <;>
      simp only [ExtendedMantissa.roundedMantissa, ExtendedMantissa.accuracy,
        Accuracy.roundToNearestEven] <;> omega
  · push_cast
    cases round <;> cases sticky <;>
      simp only [Represents, ExtendedMantissa.roundedMantissa, ExtendedMantissa.accuracy,
        Accuracy.roundToNearestEven] at h ⊢
    · exact iff_of_false (by omega) (by linarith)
    · exact iff_of_false (by omega) (by linarith)
    · exact iff_of_true (by omega) (by linarith)
    · exact iff_of_true (by omega) (by linarith)
  · have hle : (m : ℚ) + 2 ≤ n := by exact_mod_cast Nat.succ_le_of_lt hhigh
    refine iff_of_false ?_ (by linarith)
    cases round <;> cases sticky <;>
      simp only [ExtendedMantissa.roundedMantissa, ExtendedMantissa.accuracy,
        Accuracy.roundToNearestEven] <;> omega

end Represents

theorem isFinite_unpack {b : BitVec Format.binary64.numBits} :
    (UnpackedFloat.unpack Format.binary64 b).isFinite ↔ unpackExponent b ≠ -1#_ := by
  unfold UnpackedFloat.unpack
  simp only
  split_ifs with h1 h2 <;> simp_all [UnpackedFloat.isFinite]

/-- A number is written with an exponent unless that is too great. -/
theorem isFinite_pack_finite (s : Sign) (m : Nat) (e : Int) (hm : 0 < m) :
    (Float.Model.pack (.finite s m e hm)).isFinite ↔ e < 972 := by
  have hbits : (Float.Model.pack (.finite s m e hm)).isFinite =
    (UnpackedFloat.unpack Format.binary64
      (UnpackedFloat.pack Format.binary64 (.finite s m e hm))).isFinite := rfl
  have hbiased : (e + Format.binary64.exponentBias +
      Format.binary64.mantissaBitsWithoutImplicit).toNat = (e + 1075).toNat := by
    simp only [Format.exponentBias]
    omega
  rw [hbits, isFinite_unpack]
  simp only [UnpackedFloat.pack, hbiased]
  split_ifs with hgreat hnormal
  · rw [packedInfinity, unpackExponent_packComponents]
    simp
    omega
  · rw [unpackExponent_packComponents]
    refine iff_of_true ?_ (by omega)
    intro h
    have hnat := congrArg BitVec.toNat h
    rw [BitVec.toNat_ofNat, Nat.mod_eq_of_lt (by omega)] at hnat
    have : (-1#11).toNat = 2047 := by decide
    rw [this] at hnat
    omega
  · rw [unpackExponent_packComponents]
    refine iff_of_true (by decide) (by omega)

theorem targetExponent_eq (m : Nat) (e : Int) :
    Format.binary64.targetExponent (totalExponent m e) = max (m.log2 + e - 52) (-1074) := by
  have hleast : Format.binary64.minExponent = -1074 := by decide
  have hwidth : Format.binary64.mantissaBits = 53 := by decide
  rw [Format.targetExponent, totalExponent, hleast, hwidth]
  congr 1
  push_cast
  ring

/-- A significand that has been rounded has one digit too many at most. -/
theorem shiftToTargetExponent_rounded {r : Nat} {t : Int} (hr : r ≤ 2 ^ 53) (ht : -1074 ≤ t) :
    shiftToTargetExponent Format.binary64 r t .exact =
      if r < 2 ^ 53 then (⟨r, false, false⟩, t) else (⟨2 ^ 52, false, false⟩, t + 1) := by
  rw [shiftToTargetExponent, targetExponent_eq, shiftToExponent]
  split_ifs with hlt
  · have hlog : r.log2 < 53 := by
      by_cases hzero : r = 0
      · simp [hzero]
      · exact (Nat.log2_lt hzero).mpr hlt
    have hshift : (max ((r.log2 : Int) + t - 52) (-1074) - t).toNat = 0 := by omega
    rw [hshift, Nat.cast_zero, add_zero]
    rfl
  · obtain rfl : r = 2 ^ 53 := by omega
    have hshift : (max (((2 ^ 53 : Nat).log2 : Int) + t - 52) (-1074) - t).toNat = 1 := by
      rw [Nat.log2_two_pow]
      omega
    rw [hshift]
    rfl

theorem roundedMantissa_le (em : ExtendedMantissa) : em.roundedMantissa ≤ em.mantissa + 1 := by
  rcases em with ⟨m, _ | _, _ | _⟩ <;>
    simp only [ExtendedMantissa.roundedMantissa, ExtendedMantissa.accuracy,
      Accuracy.roundToNearestEven] <;> omega

theorem isFinite_pack_zero (s : Sign) : (Float.Model.pack (.zero s)).isFinite := by
  cases s <;> decide

/-- The rounded significand is kept with its exponent, unless it is a power of two more than the
digits can hold. -/
theorem isFinite_pack_round_iff (s : Sign) {m : Nat} {e t : Int} {a : Accuracy}
    {em : ExtendedMantissa} (hshift : shiftToTargetExponent Format.binary64 m e a = (em, t))
    (hr : em.roundedMantissa ≤ 2 ^ 53) (ht : -1074 ≤ t) :
    (Float.Model.pack (roundWithAccuracy Format.binary64 s m e a)).isFinite ↔
      em.roundedMantissa = 0 ∨ t < 971 ∨ t = 971 ∧ em.roundedMantissa < 2 ^ 53 := by
  rw [roundWithAccuracy, hshift]
  by_cases hlt : em.roundedMantissa < 2 ^ 53
  · simp only [shiftToTargetExponent_rounded hr ht, if_pos hlt]
    split
    · next hzero => exact iff_of_true (isFinite_pack_zero s) (.inl hzero)
    · next hzero =>
      rw [isFinite_pack_finite]
      omega
  · simp only [shiftToTargetExponent_rounded hr ht, if_neg hlt]
    rw [dif_neg (by decide), isFinite_pack_finite]
    omega

/-- The least magnitude that is rounded to infinity: it lies halfway between the greatest double and
the power of two after it. -/
def overflow : ℚ := 2 ^ 1024 - 2 ^ 970

theorem overflow_eq : overflow = (2 ^ 53 - 1 / 2) * 2 ^ (971 : ℤ) := by
  have hdigits : ∀ n : Nat, (2 : ℚ) ^ (n + 54) - 2 ^ n = (2 ^ 53 - 1 / 2) * 2 ^ (n + 1) := by
    intro n
    ring
  rw [zpow_ofNat]
  exact hdigits 970

/-- A number below the overflow has a smaller exponent than the greatest double, or the same one and
digits that are not rounded up to the next. -/
theorem lt_overflow_iff {y : ℚ} {t : Int} (hhigh : y < 2 ^ 53) (hlow : t ≠ -1074 → 2 ^ 52 ≤ y) :
    y * 2 ^ t < overflow ↔ t < 971 ∨ t = 971 ∧ y < 2 ^ 53 - 1 / 2 := by
  rw [overflow_eq]
  have hmono : ∀ {i j : Int}, i ≤ j → (2 : ℚ) ^ i ≤ 2 ^ j := zpow_le_zpow_right₀ (by norm_num)
  have hnext : ∀ i : Int, (2 : ℚ) ^ (i + 1) = 2 ^ i * 2 := zpow_add_one₀ (by norm_num)
  have hpos : ∀ i : Int, (0 : ℚ) < 2 ^ i := zpow_pos (by norm_num)
  -- The powers of two at the border are told apart by their exponents only.
  obtain ⟨p, hp, hbelow, hborder⟩ : ∃ p : ℚ, 0 < p ∧ (t < 971 → (2 : ℚ) ^ t ≤ p) ∧
      (2 : ℚ) ^ (971 : ℤ) = p * 2 :=
    ⟨2 ^ (970 : ℤ), hpos 970, fun h => hmono (by omega), hnext 970⟩
  rcases lt_trichotomy t 971 with hsmall | rfl | hgreat
  · refine iff_of_true ?_ (.inl hsmall)
    rw [hborder]
    calc
      y * 2 ^ t < 2 ^ 53 * 2 ^ t := mul_lt_mul_of_pos_right hhigh (hpos t)
      _ ≤ 2 ^ 53 * p := by gcongr; exact hbelow hsmall
      _ ≤ (2 ^ 53 - 1 / 2) * (p * 2) := by linarith only [hp]
  · rw [mul_lt_mul_iff_of_pos_right (hpos 971)]
    simp
  · refine iff_of_false (not_lt.mpr ?_) (by omega)
    have habove : p * 2 * 2 ≤ 2 ^ t := by
      rw [← hborder, ← hnext]
      exact hmono (by omega)
    rw [hborder]
    calc
      (2 ^ 53 - 1 / 2) * (p * 2) ≤ 2 ^ 52 * (p * 2 * 2) := by linarith only [hp]
      _ ≤ 2 ^ 52 * 2 ^ t := by gcongr
      _ ≤ y * 2 ^ t := by gcongr; exact hlow (by omega)

/-- A number of which enough digits are known is rounded to a double unless it overflows. -/
theorem isFinite_roundWithAccuracy_iff (s : Sign) {m : Nat} {e : Int} {a : Accuracy} {x : ℚ}
    (h : Represents (.ofMantissaAndAccuracy m a) x) (henough : 52 ≤ m.log2 ∨ e ≤ -1074) :
    (Float.Model.pack (roundWithAccuracy Format.binary64 s m e a)).isFinite ↔
      x * 2 ^ e < overflow := by
  set t : Int := max (m.log2 + e - 52) (-1074) with ht
  set k : Nat := (t - e).toNat with hk
  have hkt : e + k = t := by omega
  have hsignificand : (ExtendedMantissa.ofMantissaAndAccuracy m a).mantissa = m := by
    rcases a with _ | _ | _ | _ <;> rfl
  have hfloor := h.floor
  rw [hsignificand] at hfloor
  have hvalue : x * 2 ^ e = x / 2 ^ k * 2 ^ t := by
    rw [← hkt, zpow_add₀ (by norm_num), zpow_natCast]
    field_simp
  have hhigh : x / 2 ^ k < 2 ^ 53 := by
    have hm : m + 1 ≤ 2 ^ (53 + k) :=
      Nat.lt_log2_self.trans_le (Nat.pow_le_pow_right (by norm_num) (by omega))
    have hm : (m : ℚ) + 1 ≤ 2 ^ (53 + k) := by exact_mod_cast hm
    rw [div_lt_iff₀ (by positivity), ← pow_add]
    exact hfloor.2.trans_le hm
  have hlow : t ≠ -1074 → 2 ^ 52 ≤ x / 2 ^ k := by
    intro hne
    have hm : 2 ^ (52 + k) ≤ m := by
      have hlog : m.log2 = 52 + k := by omega
      have hzero : m ≠ 0 := by
        rintro rfl
        rw [Nat.log2_zero] at hlog
        omega
      rw [← hlog]
      exact Nat.log2_self_le hzero
    have hm : (2 : ℚ) ^ (52 + k) ≤ m := by exact_mod_cast hm
    rw [le_div_iff₀ (by positivity), ← pow_add]
    exact hm.trans hfloor.1
  have hshift : shiftToTargetExponent Format.binary64 m e a =
      (ExtendedMantissa.ofMantissaAndAccuracy m a >>> k, t) := by
    simp only [shiftToTargetExponent, targetExponent_eq, shiftToExponent, ← ht, ← hk, hkt]
  have hshifted := h.shiftRight k
  generalize ExtendedMantissa.ofMantissaAndAccuracy m a >>> k = em at hshift hshifted
  have hrounded : em.roundedMantissa ≤ 2 ^ 53 := by
    have hmantissa : em.mantissa < 2 ^ 53 := by
      exact_mod_cast hshifted.floor.1.trans_lt hhigh
    exact (roundedMantissa_le em).trans hmantissa
  have hfits : em.roundedMantissa < 2 ^ 53 ↔ x / 2 ^ k < 2 ^ 53 - 1 / 2 := by
    rw [← not_le, ← not_le, hshifted.le_roundedMantissa_iff ⟨2 ^ 52, by norm_num⟩]
    push_cast
    rfl
  have hzero : em.roundedMantissa = 0 → t = -1074 := by
    intro hzero
    by_contra hne
    have htwo := (hshifted.le_roundedMantissa_iff even_two).mpr (by
      push_cast
      linarith [hlow hne])
    omega
  rw [isFinite_pack_round_iff s hshift hrounded (by omega), hvalue, lt_overflow_iff hhigh hlow,
    ← hfits]
  omega

theorem overflow_pos : 0 < overflow := by
  rw [overflow_eq]
  have hpos : (0 : ℚ) < 2 ^ (971 : ℤ) := by positivity
  generalize (2 : ℚ) ^ (971 : ℤ) = p at hpos ⊢
  linarith

/-- What is rounded is a double, or it is infinite. -/
theorem isFinite_or_infinite (s : Sign) (m : Nat) (e : Int) (a : Accuracy) :
    (Float.Model.pack (roundWithAccuracy Format.binary64 s m e a)).isFinite ∨
      Float.Model.pack (roundWithAccuracy Format.binary64 s m e a) =
        Float.Model.pack (.infinity s) := by
  unfold roundWithAccuracy
  simp only
  split
  · exact .inl (isFinite_pack_zero s)
  · rw [isFinite_pack_finite, or_iff_not_imp_left]
    intro hgreat
    have hbias : Format.binary64.exponentBias = 1023 := by decide
    simp only [Float.Model.pack, UnpackedFloat.pack]
    congr 2
    rw [if_pos]
    rw [hbias]
    norm_num
    omega

/-! ## Products and quotients -/

/-- The product of two numbers is rounded to a double unless it overflows. -/
theorem isFinite_mul_iff {s s' : Sign} {m m' : Nat} {e e' : Int} (hm : 0 < m) (hm' : 0 < m')
    (henough : 52 ≤ (m * m').log2 ∨ e + e' ≤ -1074) :
    (Float.Model.pack (mul Format.binary64 (.finite s m e hm) (.finite s' m' e' hm'))).isFinite ↔
      (m * 2 ^ e) * (m' * 2 ^ e') < overflow := by
  have hvalue : (m : ℚ) * 2 ^ e * (m' * 2 ^ e') = (m * m' : Nat) * 2 ^ (e + e') := by
    rw [zpow_add₀ (by norm_num)]
    push_cast
    ring
  rw [hvalue]
  have hexact : Represents (.ofMantissaAndAccuracy (m * m') .exact) (m * m' : Nat) := rfl
  exact isFinite_roundWithAccuracy_iff _ hexact henough

/-- A quotient has as many digits as its dividend has more than its divisor, or one less. -/
theorem le_log2_div {m m' k n : Nat} (hm : 0 < m) (hm' : 0 < m')
    (h : n + (m'.log2 + 1) ≤ m.log2 + k) : n ≤ (m <<< k / m').log2 := by
  have hle : 2 ^ n ≤ m <<< k / m' := by
    rw [Nat.le_div_iff_mul_le hm', Nat.shiftLeft_eq]
    calc
      2 ^ n * m' ≤ 2 ^ n * 2 ^ (m'.log2 + 1) := Nat.mul_le_mul_left _ Nat.lt_log2_self.le
      _ = 2 ^ (n + (m'.log2 + 1)) := (pow_add ..).symm
      _ ≤ 2 ^ (m.log2 + k) := Nat.pow_le_pow_right (by norm_num) h
      _ = 2 ^ m.log2 * 2 ^ k := pow_add ..
      _ ≤ m * 2 ^ k := Nat.mul_le_mul_right _ (Nat.log2_self_le hm.ne')
  have hpos := Nat.two_pow_pos n
  exact (Nat.le_log2 (by omega)).mpr hle

/-- A quotient is a whole number and the remainder's share of the divisor. -/
theorem cast_div_add_mod (m k : Nat) {m' : Nat} (hm' : 0 < m') :
    ((m <<< k / m' : Nat) : ℚ) + (m <<< k % m' : Nat) / m' = m * 2 ^ k / m' := by
  have hne : (m' : ℚ) ≠ 0 := by exact_mod_cast hm'.ne'
  have hsplit : ((m' * (m <<< k / m') + m <<< k % m' : Nat) : ℚ) = (m * 2 ^ k : Nat) := by
    rw [Nat.div_add_mod, Nat.shiftLeft_eq]
  push_cast at hsplit
  rw [← hsplit]
  field_simp

/-- The quotient of two numbers is rounded to a double unless it overflows. -/
theorem isFinite_div_iff {s s' : Sign} {m m' : Nat} {e e' : Int} (hm : 0 < m) (hm' : 0 < m') :
    (Float.Model.pack (UnpackedFloat.div Format.binary64 (.finite s m e hm)
      (.finite s' m' e' hm'))).isFinite ↔ (m * 2 ^ e) / (m' * 2 ^ e') < overflow := by
  obtain ⟨t, ht⟩ : ∃ t, t = min (e - e') (max (m.log2 + e - (m'.log2 + e') - 53) (-1074)) :=
    ⟨_, rfl⟩
  obtain ⟨k, hk⟩ : ∃ k, k = (e - e' - t).toNat := ⟨_, rfl⟩
  have hcore : divCore Format.binary64 m e m' e' =
      (m <<< k / m', t, accuracyOfFraction (m <<< k % m') m') := by
    have htarget : min (e - e') (Format.binary64.targetExponent
        (totalExponent m e - totalExponent m' e')) = t := by
      have hleast : Format.binary64.minExponent = -1074 := by decide
      have hwidth : Format.binary64.mantissaBits = 53 := by decide
      rw [Format.targetExponent, totalExponent, totalExponent, hleast, hwidth, ht]
      push_cast
      congr 2
      ring
    simp only [divCore, htarget, ← hk]
  have hvalue : (m : ℚ) * 2 ^ e / (m' * 2 ^ e') = m * 2 ^ k / m' * 2 ^ t := by
    have hexponent : e = e' + k + t := by omega
    rw [hexponent, zpow_add₀ (by norm_num), zpow_add₀ (by norm_num), zpow_natCast]
    field_simp
  have henough : 52 ≤ (m <<< k / m').log2 ∨ t ≤ -1074 := by
    rw [or_iff_not_imp_right]
    intro hgreat
    exact le_log2_div hm hm' (by omega)
  have hround := isFinite_roundWithAccuracy_iff (s / s')
    (Represents.ofFraction (m <<< k / m') (Nat.mod_lt (m <<< k) hm')) henough
  rw [cast_div_add_mod m k hm', ← hvalue] at hround
  rw [UnpackedFloat.div, hcore]
  exact hround

end Storyboard.Decimal
