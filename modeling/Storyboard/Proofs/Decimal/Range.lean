import Storyboard.Decimal.Numeral
import Storyboard.Proofs.Decimal.Rounding

/-!
# The range of decimals

A decimal is read as the nearest double: with one operation on doubles if its digits and the power
of ten are exact, else from its exact value, and without any computation if its size alone tells
that it vanishes or overflows. All three ways agree on what overflows.

Main results:

- Theorem `Decimal.isFinite_nearest`: which decimals are read as finite doubles.
- Theorem `Decimal.nearest_of_overflow`: the others are read as infinite.
-/

namespace Storyboard.Decimal

open Float.Model Float.Model.UnpackedFloat

/-! ## Powers below and above the overflow -/

theorem two_pow_le_overflow {n : Nat} (hn : n ≤ 1023) : (2 : ℚ) ^ n ≤ overflow := by
  have hdouble : ∀ i j : Nat, j ≤ i → (2 : ℚ) ^ i ≤ 2 ^ (i + 1) - 2 ^ j := by
    intro i j h
    have hj : (2 : ℚ) ^ j ≤ 2 ^ i := pow_le_pow_right₀ (by norm_num) h
    rw [pow_succ]
    linarith
  calc
    (2 : ℚ) ^ n ≤ 2 ^ 1023 := pow_le_pow_right₀ (by norm_num) hn
    _ ≤ overflow := hdouble 1023 970 (by omega)

/-- Great powers of ten overflow. -/
theorem overflow_le_ten_pow {e : Int} (he : 342 ≤ e) : overflow ≤ 10 ^ e := by
  have hpower : ∀ i j : Nat, (2 : ℚ) ^ (3 * i) - 2 ^ j ≤ 10 ^ i := by
    intro i j
    have height : (2 : ℚ) ^ (3 * i) ≤ 10 ^ i := by
      rw [pow_mul]
      exact pow_le_pow_left₀ (by norm_num) (by norm_num) i
    have hj : (0 : ℚ) < 2 ^ j := by positivity
    linarith
  calc
    overflow ≤ 2 ^ (3 * 342) - 2 ^ 970 := by
      unfold overflow
      gcongr <;> norm_num
    _ ≤ 10 ^ 342 := hpower 342 970
    _ = 10 ^ (342 : ℤ) := (zpow_natCast 10 342).symm
    _ ≤ 10 ^ e := zpow_le_zpow_right₀ (by norm_num) he

/-- A decimal that is computed exactly before it is rounded is a double unless it overflows. -/
theorem isFinite_ofScientific_iff (m : Nat) (e : Int) :
    (Float.Model.ofScientific m e).isFinite ↔ (m : ℚ) * 10 ^ e < overflow := by
  rw [Float.Model.ofScientific, UnpackedFloat.ofScientific]
  have hbits : (2 : Int) ^ Format.binary64.exponentBits = 2048 := by norm_num
  have hdigits : Format.binary64.mantissaBits = 53 := by decide
  rw [hbits]
  split_ifs with hzero hgreat hsmall hwhole
  · refine iff_of_true (isFinite_pack_zero _) ?_
    rw [hzero, Nat.cast_zero, zero_mul]
    exact overflow_pos
  · refine iff_of_false (by decide) (not_lt.mpr ?_)
    have hone : (1 : ℚ) ≤ m := by exact_mod_cast Nat.one_le_iff_ne_zero.mpr hzero
    calc
      overflow ≤ 10 ^ e := overflow_le_ten_pow (by omega)
      _ = 1 * 10 ^ e := (one_mul _).symm
      _ ≤ m * 10 ^ e := by gcongr
  · refine iff_of_true (isFinite_pack_zero _) ?_
    obtain ⟨k, rfl⟩ : ∃ k : Nat, e = -k := ⟨(-e).toNat, by omega⟩
    have hm : m < 10 ^ k := by
      calc
        m < 2 ^ (m.log2 + 1) := Nat.lt_log2_self
        _ ≤ 2 ^ k := Nat.pow_le_pow_right (by norm_num) (by omega)
        _ ≤ 10 ^ k := Nat.pow_le_pow_left (by norm_num) k
    rw [zpow_neg, zpow_natCast, ← div_eq_mul_inv]
    calc
      (m : ℚ) / 10 ^ k < 1 := (div_lt_one (by positivity)).mpr (by exact_mod_cast hm)
      _ = 2 ^ 0 := (pow_zero 2).symm
      _ ≤ overflow := two_pow_le_overflow (by omega)
  · obtain ⟨k, rfl⟩ := Int.eq_ofNat_of_zero_le hwhole
    have henough : 52 ≤ (m <<< 53 * 10 ^ k).log2 := by
      have hlarge : 2 ^ 52 ≤ m <<< 53 * 10 ^ k := by
        rw [Nat.shiftLeft_eq, mul_assoc]
        have hten : 0 < 10 ^ k := Nat.pow_pos (by norm_num)
        calc
          2 ^ 52 ≤ 2 ^ 53 * 1 := by norm_num
          _ ≤ 2 ^ 53 * 10 ^ k := Nat.mul_le_mul_left _ hten
          _ ≤ m * (2 ^ 53 * 10 ^ k) := Nat.le_mul_of_pos_left _ (Nat.pos_of_ne_zero hzero)
      exact (Nat.le_log2 (by omega)).mpr hlarge
    simp only [hdigits, Int.toNat_natCast]
    have hvalue : ((m <<< 53 : Nat) : ℚ) * 2 ^ (-53 : ℤ) * ((10 ^ k : Nat) * 2 ^ (0 : ℤ)) =
        m * 10 ^ (k : ℤ) := by
      rw [Nat.shiftLeft_eq, zpow_natCast, zpow_zero, mul_one, Nat.cast_mul, Nat.cast_pow,
        mul_assoc (m : ℚ)]
      norm_num
    rw [isFinite_mul_iff _ _ (.inl henough)]
    exact iff_of_eq (congrArg (· < overflow) hvalue)
  · obtain ⟨k, rfl⟩ : ∃ k : Nat, e = -k := ⟨(-e).toNat, by omega⟩
    rw [isFinite_div_iff]
    simp only [neg_neg, Int.toNat_natCast, zpow_zero, mul_one, zpow_neg, zpow_natCast]
    push_cast
    rw [div_eq_mul_inv]

/-- A double with all its digits that stands for `x`. -/
def Carries (f : Float.Model) (x : ℚ) : Prop :=
  ∃ s m e hm, f.unpack = .finite s m e hm ∧ 2 ^ 52 ≤ m ∧ (m : ℚ) * 2 ^ e = x

/-- A significand of all digits is read back as it was written. -/
theorem unpack_pack_finite (s : Sign) {m : Nat} {e : Int} (hm : 0 < m) (hdigits : 2 ^ 52 ≤ m)
    (hbound : m < 2 ^ 53) (hlow : -1074 ≤ e) (hhigh : e < 972) :
    ∃ s', (Float.Model.pack (.finite s m e hm)).unpack = .finite s' m e hm := by
  have hlog : m.log2 = 52 := (Nat.log2_eq_iff (by omega)).mpr ⟨hdigits, hbound⟩
  have hwidth : Format.binary64.mantissaBits = 53 := by decide
  have hbias : Format.binary64.exponentBias = 1023 := by decide
  obtain ⟨b, rfl⟩ : ∃ b : Nat, e = b - 1075 := ⟨(e + 1075).toNat, by omega⟩
  have hbiased : ((b : Int) - 1075 + Format.binary64.exponentBias + (52 : Nat)).toNat = b := by
    rw [hbias]
    omega
  have hexponent : (BitVec.ofNat 11 b).toNat = b := Nat.mod_eq_of_lt (by omega)
  have hinfinite : BitVec.ofNat 11 b ≠ -1#11 := fun h => by
    have hgreatest : b = 2047 := by rw [← hexponent, h]; rfl
    omega
  have hsubnormal : BitVec.ofNat 11 b ≠ 0#11 := fun h => by
    have hleast : b = 0 := by rw [← hexponent, h]; rfl
    omega
  have hmantissa : (1#1 ++ BitVec.ofNat 52 m).toNat = m := by
    have hsum := Nat.two_pow_add_eq_or_of_lt (Nat.mod_lt m (Nat.two_pow_pos 52)) 1
    rw [BitVec.toNat_append]
    change 1 <<< 52 ||| m % 2 ^ 52 = m
    rw [Nat.shiftLeft_eq, mul_comm, ← hsum]
    omega
  change ∃ s', UnpackedFloat.unpack Format.binary64 (UnpackedFloat.pack Format.binary64 _) = _
  simp only [UnpackedFloat.pack, hlog, hwidth, hbiased]
  rw [if_neg (by omega), if_pos trivial]
  simp only [UnpackedFloat.unpack, unpackExponent_packComponents, unpackMantissa_packComponents]
  rw [if_neg hinfinite, if_neg hsubnormal]
  simp only [UnpackedFloat.finite.injEq, hexponent, hbias]
  exact ⟨_, rfl, hmantissa, by omega⟩

/-- A significand that fits is kept. -/
theorem roundWithAccuracy_exact (s : Sign) {m : Nat} {e : Int} (hm : 0 < m) (hbound : m < 2 ^ 53)
    (he : -1074 ≤ e) :
    roundWithAccuracy Format.binary64 s m e .exact = .finite s m e hm := by
  have hrounded : (ExtendedMantissa.mk m false false).roundedMantissa = m := rfl
  simp only [roundWithAccuracy, shiftToTargetExponent_rounded hbound.le he, if_pos hbound, hrounded]
  rw [dif_neg hm.ne']

/-- A natural number of no more digits than a double has is carried as it is. -/
theorem carries_ofNat {n : Nat} (hpos : 0 < n) (h : n < 2 ^ 53) :
    Carries (Float.Model.ofNat n) n := by
  have hlog : n.log2 < 53 := (Nat.log2_lt hpos.ne').mpr h
  obtain ⟨k, hk⟩ : ∃ k, k + n.log2 = 52 := ⟨52 - n.log2, by omega⟩
  have hlow : 2 ^ 52 ≤ n * 2 ^ k := by
    rw [← hk, add_comm, pow_add]
    exact Nat.mul_le_mul_right _ (Nat.log2_self_le hpos.ne')
  have hhigh : n * 2 ^ k < 2 ^ 53 := by
    have := Nat.lt_log2_self (n := n)
    calc
      n * 2 ^ k < 2 ^ (n.log2 + 1) * 2 ^ k := Nat.mul_lt_mul_of_pos_right this (by positivity)
      _ = 2 ^ 53 := by rw [← pow_add]; congr 1; omega
  have hround : UnpackedFloat.ofNat Format.binary64 n =
      .finite .positive (n * 2 ^ k) (-k) (by omega) := by
    have hsign : compare (n : Int) 0 = .gt := Int.compare_eq_gt.mpr (by omega)
    have htarget : max ((n.log2 : Int) + 0 - 52) (-1074) = -k := by omega
    have hamount : (0 - (-(k : Int))).toNat = k := by omega
    have hexponent : (0 : Int) - k = -k := by omega
    simp only [UnpackedFloat.ofNat, UnpackedFloat.ofInt, UnpackedFloat.normalize, hsign,
      Int.toNat_natCast, UnpackedFloat.round, targetExponent_eq, decreaseExponent, htarget, hamount,
      hexponent, Nat.shiftLeft_eq]
    exact roundWithAccuracy_exact .positive (by omega) hhigh (by omega)
  have hproduct : 0 < n * 2 ^ k := by omega
  obtain ⟨s, hs⟩ := unpack_pack_finite .positive hproduct hlow hhigh
    (by omega : -1074 ≤ -(k : Int)) (by omega)
  refine ⟨s, n * 2 ^ k, -k, hproduct, ?_, hlow, ?_⟩
  · rw [← hs, ← hround]
    rfl
  · rw [zpow_neg, zpow_natCast]
    push_cast
    field_simp

/-- Whether a double with all its digits stands for a natural number. -/
def carries (f : Float.Model) (n : Nat) : Bool :=
  match f.unpack with
  | .finite _ m e _ => 2 ^ 52 ≤ m && -52 ≤ e && m * 2 ^ (e + 52).toNat == n * 2 ^ 52
  | _ => false

theorem carries_of_carries {f : Float.Model} {n : Nat} (h : carries f n) : Carries f n := by
  unfold carries at h
  split at h
  · next s m e hm hunpack =>
    simp only [Bool.and_eq_true, decide_eq_true_eq, beq_iff_eq] at h
    refine ⟨s, m, e, hm, hunpack, h.1.1, ?_⟩
    obtain ⟨k, rfl⟩ : ∃ k : Nat, e = k - 52 := ⟨(e + 52).toNat, by omega⟩
    have hvalue := h.2
    rw [sub_add_cancel, Int.toNat_natCast] at hvalue
    have hvalue : (m : ℚ) * 2 ^ k = n * 2 ^ 52 := by exact_mod_cast hvalue
    rw [zpow_sub₀ (by norm_num), zpow_natCast, ← mul_div_assoc, hvalue]
    norm_num
  · cases h

/-- The powers of ten of the table are exact. -/
theorem carries_ten_pow (k : Fin 23) :
    Carries (Float.exactlyRepresentablePowersOfTen[k]).toModel (10 ^ k.val : Nat) := by
  have hall : ∀ k : Fin 23,
      carries (Float.exactlyRepresentablePowersOfTen[k]).toModel (10 ^ k.val) := by
    decide
  exact carries_of_carries (hall k)

theorem toModel_toFloat {n : Nat} (h : n < 2 ^ 53) :
    n.toUInt64.toFloat.toModel = Float.Model.ofNat n := by
  have hword : n.toUInt64.toNat = n := Nat.mod_eq_of_lt (h.trans (by norm_num))
  change Float.Model.ofNat n.toUInt64.toNat = _
  rw [hword]

theorem Carries.isFinite_mul_iff {f g : Float.Model} {x y : ℚ} (hf : Carries f x)
    (hg : Carries g y) : (f * g).isFinite ↔ x * y < overflow := by
  obtain ⟨s, m, e, hm, hf, hdigits, rfl⟩ := hf
  obtain ⟨s', m', e', hm', hg, -, rfl⟩ := hg
  have henough : 52 ≤ (m * m').log2 :=
    (Nat.le_log2 (by positivity)).mpr (hdigits.trans (Nat.le_mul_of_pos_right m hm'))
  rw [← Decimal.isFinite_mul_iff hm hm' (.inl henough), ← hf, ← hg]
  rfl

theorem Carries.isFinite_div_iff {f g : Float.Model} {x y : ℚ} (hf : Carries f x)
    (hg : Carries g y) : (f / g).isFinite ↔ x / y < overflow := by
  obtain ⟨s, m, e, hm, hf, -, rfl⟩ := hf
  obtain ⟨s', m', e', hm', hg, -, rfl⟩ := hg
  rw [← Decimal.isFinite_div_iff hm hm', ← hf, ← hg]
  rfl

/-- A decimal is read as a finite double unless it overflows. -/
theorem isFinite_ofScientific {n : Nat} (hpos : 0 < n) (negative : Bool) (k : Nat) :
    (Float.ofScientific n negative k).isFinite ↔
      (n : ℚ) * 10 ^ (if negative then -(k : Int) else k) < overflow := by
  unfold Float.ofScientific
  split_ifs with hfast hnegative hnegative
  · have hvalue : (n : ℚ) * 10 ^ (-(k : Int)) = n / (10 ^ k : Nat) := by
      rw [zpow_neg, zpow_natCast, div_eq_mul_inv]
      push_cast
      rfl
    rw [hvalue, ← (carries_ofNat hpos hfast.1).isFinite_div_iff (carries_ten_pow ⟨k, by omega⟩),
      ← toModel_toFloat hfast.1]
    rfl
  · have hvalue : (n : ℚ) * 10 ^ (k : Int) = n * (10 ^ k : Nat) := by
      rw [zpow_natCast]
      push_cast
      rfl
    rw [hvalue, ← (carries_ofNat hpos hfast.1).isFinite_mul_iff (carries_ten_pow ⟨k, by omega⟩),
      ← toModel_toFloat hfast.1]
    rfl
  · rw [← isFinite_ofScientific_iff, Int.negOfNat_eq]
    rfl
  · rw [← isFinite_ofScientific_iff]
    rfl

theorem lt_ten_pow_length_digits (n : Nat) : n < 10 ^ (digits n).length :=
  (Nat.length_toDigits_le_iff (by norm_num) Nat.length_toDigits_pos).mp le_rfl

theorem ten_pow_le_of_pos {n : Nat} (hpos : 0 < n) : 10 ^ ((digits n).length - 1) ≤ n := by
  by_cases hone : (digits n).length - 1 = 0
  · rw [hone, pow_zero]
    exact hpos
  · rw [← not_lt, ← Nat.length_toDigits_le_iff (by norm_num) (by omega)]
    change ¬ (digits n).length ≤ (digits n).length - 1
    omega

/-- The nearest double to a decimal is finite unless the decimal overflows. -/
theorem isFinite_nearest (n : Nat) (e : Int) :
    (nearest n e).isFinite ↔ (n : ℚ) * 10 ^ e < overflow := by
  unfold nearest
  simp only
  split_ifs with hsmall hgreat
  · refine iff_of_true (by decide) ?_
    rcases hsmall with rfl | hsmall
    · simpa using overflow_pos
    · have hn : (n : ℚ) < 10 ^ (digits n).length := by exact_mod_cast lt_ten_pow_length_digits n
      calc
        (n : ℚ) * 10 ^ e < 10 ^ (digits n).length * 10 ^ e := by gcongr
        _ = 10 ^ ((digits n).length + e) := by rw [zpow_add₀ (by norm_num), zpow_natCast]
        _ ≤ 10 ^ (0 : Int) := zpow_le_zpow_right₀ (by norm_num) (by omega)
        _ = 2 ^ 0 := by norm_num
        _ ≤ overflow := two_pow_le_overflow (by omega)
  · refine iff_of_false (by decide) (not_lt.mpr ?_)
    have hlength : 0 < (digits n).length := Nat.length_toDigits_pos
    have hn : (10 : ℚ) ^ ((digits n).length - 1) ≤ n := by
      exact_mod_cast ten_pow_le_of_pos (by omega)
    calc
      overflow ≤ 10 ^ (((digits n).length - 1 : Nat) + e : Int) := overflow_le_ten_pow (by omega)
      _ = 10 ^ ((digits n).length - 1) * 10 ^ e := by rw [zpow_add₀ (by norm_num), zpow_natCast]
      _ ≤ n * 10 ^ e := by gcongr
  · rw [isFinite_ofScientific (by omega)]
    have hexponent : (if decide (e < 0) = true then -(e.natAbs : Int) else e.natAbs) = e := by
      split_ifs with hsign <;> simp only [decide_eq_true_eq] at hsign <;> omega
    rw [hexponent]

theorem ofScientific_of_overflow {m : Nat} {e : Int} (h : overflow ≤ m * 10 ^ e) :
    Float.Model.ofScientific m e = Float.Model.pack (.infinity .positive) := by
  have hinfinite : ¬ (Float.Model.ofScientific m e).isFinite := by
    rw [isFinite_ofScientific_iff]
    exact not_lt.mpr h
  revert hinfinite
  unfold Float.Model.ofScientific UnpackedFloat.ofScientific
  split_ifs
  · exact fun hinfinite => absurd (isFinite_pack_zero _) hinfinite
  · exact fun _ => rfl
  · exact fun hinfinite => absurd (isFinite_pack_zero _) hinfinite
  · exact (isFinite_or_infinite _ _ _ _).resolve_left
  · exact (isFinite_or_infinite _ _ _ _).resolve_left

/-- A decimal that overflows is read as infinite. -/
theorem nearest_of_overflow {n : Nat} {e : Int} (h : overflow ≤ n * 10 ^ e) :
    nearest n e = Float.ofBits 0x7ff0000000000000 := by
  have hinfinite : ¬ (nearest n e).isFinite := by
    rw [isFinite_nearest]
    exact not_lt.mpr h
  revert hinfinite
  unfold nearest
  simp only
  split_ifs with hsmall hgreat
  · exact fun hinfinite => absurd (by decide) hinfinite
  · exact fun _ => rfl
  · intro _
    have hslow : ¬ (n < 2 ^ 53 ∧ e.natAbs ≤ 22) := fun hfast => by
      refine not_lt.mpr h ?_
      have hn : (n : ℚ) < 2 ^ 53 := by exact_mod_cast hfast.1
      calc
        (n : ℚ) * 10 ^ e ≤ n * 10 ^ (22 : ℤ) := by
          gcongr
          · norm_num
          · omega
        _ < 2 ^ 53 * 10 ^ (22 : ℤ) := by gcongr
        _ ≤ 2 ^ 200 := by norm_num
        _ ≤ overflow := two_pow_le_overflow (by norm_num)
    have hexponent : (if decide (e < 0) = true then Int.negOfNat e.natAbs
        else Int.ofNat e.natAbs) = e := by
      split_ifs with hsign <;>
        simp only [decide_eq_true_eq, Int.negOfNat_eq, Int.ofNat_eq_natCast] at hsign ⊢ <;> omega
    rw [Float.ofScientific, dif_neg hslow]
    simp only [hexponent, ofScientific_of_overflow h]
    decide

end Storyboard.Decimal
