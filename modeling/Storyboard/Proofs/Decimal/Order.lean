import Storyboard.Decimal.Binary64
import Storyboard.Proofs.Decimal.Rounding
import Storyboard.Scene.Placement

/-!
# The order of doubles

Finite doubles of one sign are ordered as their bits are: the exponent stands in front of the
significand, and the numbers that are too small for a hidden bit come below the others. The key
that priorities are sorted by agrees with the order of the values, but for the two zeros: they are
equal in value, and the key puts the negative one first.

Main results:

- Theorem `Decimal.compare_unpack`: finite doubles compare as their ranks do.
- Theorems `orderKey_lt_of_lt` and `orderKey_le_iff_of_beq`: the key against the order of values.
-/

namespace Storyboard

namespace Decimal

open Float.Model Float.Model.UnpackedFloat

/-! ## The parts of a double -/

/-- The bits of a double without its sign. -/
def unsignedBits (x : Float) : Nat := x.toBits.toNat % signBit

/-- The sign of a double. -/
def sign (x : Float) : Sign := if x.toBits.toNat < signBit then .positive else .negative

/-- The significand of a finite double with the given bits. -/
def significand (m : Nat) : Nat := if m < hiddenBit then m else hiddenBit + m % hiddenBit

/-- The exponent of a finite double with the given bits. -/
def exponent (m : Nat) : Int := (max (m / hiddenBit) 1 : Nat) - 1075

/-- Greater bits have a greater exponent, or the same and a greater significand. -/
theorem lex_of_lt {m n : Nat} (h : m < n) :
    exponent m < exponent n ∨ exponent m = exponent n ∧ significand m < significand n := by
  unfold exponent significand hiddenBit
  split_ifs <;> omega

/-- Exponents and significands compare lexicographically as the bits do. -/
theorem compare_lex (m n : Nat) :
    (compare (exponent m) (exponent n)).then (compare (significand m) (significand n)) =
      compare m n := by
  rcases Nat.lt_trichotomy m n with h | rfl | h
  · rw [compare_lt_iff_lt.mpr h]
    obtain hexponent | ⟨hexponent, hsignificand⟩ := lex_of_lt h
    · rw [compare_lt_iff_lt.mpr hexponent]
      rfl
    · rw [compare_eq_iff_eq.mpr hexponent, compare_lt_iff_lt.mpr hsignificand]
      rfl
  · simp
  · rw [compare_gt_iff_gt.mpr h]
    obtain hexponent | ⟨hexponent, hsignificand⟩ := lex_of_lt h
    · rw [compare_gt_iff_gt.mpr hexponent]
      rfl
    · rw [compare_eq_iff_eq.mpr hexponent.symm, compare_gt_iff_gt.mpr hsignificand]
      rfl

section Bits

variable (b : BitVec Format.binary64.numBits)

theorem toNat_unpackMantissa : (unpackMantissa b).toNat = b.toNat % hiddenBit := by
  simp [unpackMantissa, hiddenBit]

theorem toNat_unpackExponent : (unpackExponent b).toNat = b.toNat / hiddenBit % 2048 := by
  simp [unpackExponent, hiddenBit, Nat.shiftRight_eq_div_pow]

theorem ofBitVec_unpackSign :
    Sign.ofBitVec (unpackSign b) = if b.toNat < signBit then .positive else .negative := by
  have hbit : (unpackSign b).toNat = b.toNat / signBit % 2 := by
    simp [unpackSign, signBit, Nat.shiftRight_eq_div_pow]
  have hsize : b.toNat < 2 ^ 64 := b.isLt
  have hzero : unpackSign b = 0#1 ↔ b.toNat < signBit := by
    rw [← BitVec.toNat_inj, hbit]
    unfold signBit
    simp
    omega
  simp only [Sign.ofBitVec, hzero]

end Bits

theorem finite_congr (s : Sign) {m m' : Nat} {e e' : Int} {hm : 0 < m} (h : m = m')
    (he : e = e') : ∃ hm', UnpackedFloat.finite s m e hm = .finite s m' e' hm' := by
  subst h he
  exact ⟨hm, rfl⟩

/-- Without a hidden bit. -/
theorem parts_subnormal {f : Nat} (hf : f < hiddenBit) :
    significand f = f ∧ exponent f = -1074 := by
  unfold significand exponent
  rw [if_pos hf, Nat.div_eq_of_lt hf]
  exact ⟨rfl, rfl⟩

/-- With a hidden bit. -/
theorem parts_normal {k f : Nat} (hk : 0 < k) (hf : f < hiddenBit) :
    significand (k * hiddenBit + f) = hiddenBit + f ∧ exponent (k * hiddenBit + f) = k - 1075 := by
  unfold significand exponent hiddenBit at *
  rw [if_neg (by omega)]
  omega

/-- What the bits of a double say of its parts. -/
theorem exists_bits (x : Float) : ∃ b : BitVec Format.binary64.numBits,
    x.toModel.unpack = UnpackedFloat.unpack Format.binary64 b ∧
      Sign.ofBitVec (unpackSign b) = sign x ∧ (unpackMantissa b).toNat < hiddenBit ∧
      unsignedBits x = (unpackExponent b).toNat * hiddenBit + (unpackMantissa b).toNat := by
  obtain ⟨b, hb, hunpack⟩ : ∃ b : BitVec Format.binary64.numBits, b.toNat = x.toBits.toNat ∧
      x.toModel.unpack = UnpackedFloat.unpack Format.binary64 b := ⟨_, rfl, rfl⟩
  have hmantissa := toNat_unpackMantissa b
  refine ⟨b, hunpack, ?_, ?_, ?_⟩
  · rw [ofBitVec_unpackSign, hb, sign]
  · rw [hmantissa]
    exact Nat.mod_lt _ (by decide)
  · rw [unsignedBits, ← hb, toNat_unpackExponent, hmantissa, signBit, hiddenBit]
    omega

/-- A finite double is a zero, or it has the significand and the exponent of its bits. -/
theorem unpack_cases {x : Float} (h : x.isFinite) :
    (unsignedBits x = 0 ∧ x.toModel.unpack = .zero (sign x)) ∨
      0 < unsignedBits x ∧ ∃ hpos, x.toModel.unpack =
        .finite (sign x) (significand (unsignedBits x)) (exponent (unsignedBits x)) hpos := by
  obtain ⟨b, hunpack, hsign, hlow, hbits⟩ := exists_bits x
  have hfinite : unpackExponent b ≠ -1#_ := by
    apply isFinite_unpack.mp
    rw [← hunpack]
    exact h
  rw [hunpack, UnpackedFloat.unpack, hbits]
  simp only [hsign]
  rw [if_neg hfinite]
  by_cases hexponent : unpackExponent b = 0#_
  · have hnone : (unpackExponent b).toNat = 0 := congrArg BitVec.toNat hexponent
    rw [if_pos hexponent, hnone, Nat.zero_mul, Nat.zero_add]
    by_cases hzero : unpackMantissa b = 0#_
    · rw [dif_pos hzero]
      exact .inl ⟨congrArg BitVec.toNat hzero, rfl⟩
    · have hpos : 0 < (unpackMantissa b).toNat :=
        Nat.pos_of_ne_zero fun h => hzero (BitVec.eq_of_toNat_eq h)
      obtain ⟨hsignificand, hleast⟩ := parts_subnormal hlow
      rw [dif_neg hzero]
      exact .inr ⟨hpos, finite_congr _ hsignificand.symm hleast.symm⟩
  · have hpos : 0 < (unpackExponent b).toNat :=
      Nat.pos_of_ne_zero fun h => hexponent (BitVec.eq_of_toNat_eq h)
    obtain ⟨hsignificand, hgreater⟩ := parts_normal hpos hlow
    have hhidden : (1#1 ++ unpackMantissa b).toNat = hiddenBit + (unpackMantissa b).toNat := by
      rw [BitVec.toNat_append, ← Nat.shiftLeft_add_eq_or_of_lt (unpackMantissa b).isLt]
      rfl
    rw [if_neg hexponent]
    exact .inr ⟨Nat.add_pos_left (Nat.mul_pos hpos (by decide)) _,
      finite_congr _ (hhidden.trans hsignificand.symm) hgreater.symm⟩

/-- The exponent of a finite double leaves room for the infinite ones. -/
theorem exponent_lt {x : Float} (h : x.isFinite) : exponent (unsignedBits x) < 972 := by
  obtain ⟨b, hunpack, -, hlow, hbits⟩ := exists_bits x
  have hfinite : (unpackExponent b).toNat ≠ 2047 := by
    have hne : unpackExponent b ≠ -1#_ := by
      apply isFinite_unpack.mp
      rw [← hunpack]
      exact h
    exact fun heq => hne (BitVec.eq_of_toNat_eq heq)
  have hsize : (unpackExponent b).toNat < 2048 := (unpackExponent b).isLt
  rw [hbits, exponent]
  unfold hiddenBit at *
  omega

theorem isFinite_neg {x : Float} (h : x.isFinite) : (-x).isFinite := by
  change (Float.Model.pack x.toModel.unpack.neg).isFinite
  obtain ⟨-, hunpack⟩ | ⟨-, hpos, hunpack⟩ := unpack_cases h
  · rw [hunpack]
    exact isFinite_pack_zero _
  · rw [hunpack]
    exact (isFinite_pack_finite _ _ _ hpos).mpr (exponent_lt h)

/-! ## Ranks -/

/-- A number by which finite doubles are ordered: their bits, with their sign. -/
def rank (x : Float) : Int :=
  match sign x with
  | .positive => unsignedBits x
  | .negative => -unsignedBits x

theorem compare_natCast (m n : Nat) : compare (m : Int) n = compare m n := by
  rcases Nat.lt_trichotomy m n with h | rfl | h
  · rw [compare_lt_iff_lt.mpr h, compare_lt_iff_lt.mpr (Int.ofNat_lt.mpr h)]
  · rw [compare_eq_iff_eq.mpr rfl, compare_eq_iff_eq.mpr rfl]
  · rw [compare_gt_iff_gt.mpr h, compare_gt_iff_gt.mpr (Int.ofNat_lt.mpr h)]

theorem compare_neg_natCast (m n : Nat) : compare (-m : Int) (-n) = (compare m n).swap := by
  rcases Nat.lt_trichotomy m n with h | rfl | h
  · rw [compare_lt_iff_lt.mpr h, compare_gt_iff_gt.mpr (by omega)]
    rfl
  · rw [compare_eq_iff_eq.mpr rfl, compare_eq_iff_eq.mpr rfl]
    rfl
  · rw [compare_gt_iff_gt.mpr h, compare_lt_iff_lt.mpr (by omega)]
    rfl

/-- Finite doubles compare as their ranks do. -/
theorem compare_unpack {x y : Float} (hx : x.isFinite) (hy : y.isFinite) :
    x.toModel.unpack.compare y.toModel.unpack = some (compare (rank x) (rank y)) := by
  unfold rank
  obtain ⟨hzero, hunpack⟩ | ⟨hpos, hm, hunpack⟩ := unpack_cases hx
  · obtain ⟨hzero', hunpack'⟩ | ⟨hpos', hm', hunpack'⟩ := unpack_cases hy
    · rw [hunpack, hunpack', hzero, hzero']
      cases sign x <;> cases sign y <;> rfl
    · rw [hunpack, hunpack', hzero]
      have hgt : compare (0 : Int) (-unsignedBits y) = .gt := compare_gt_iff_gt.mpr (by omega)
      have hlt : compare (0 : Int) (unsignedBits y) = .lt := compare_lt_iff_lt.mpr (by omega)
      cases sign x <;> cases sign y <;> simp [UnpackedFloat.compare, hgt, hlt]
  · obtain ⟨hzero', hunpack'⟩ | ⟨hpos', hm', hunpack'⟩ := unpack_cases hy
    · rw [hunpack, hunpack', hzero']
      have hlt : compare (-unsignedBits x : Int) 0 = .lt := compare_lt_iff_lt.mpr (by omega)
      have hgt : compare (unsignedBits x : Int) 0 = .gt := compare_gt_iff_gt.mpr (by omega)
      cases sign x <;> cases sign y <;> simp [UnpackedFloat.compare, hgt, hlt]
    · rw [hunpack, hunpack']
      have hlt : compare (-unsignedBits x : Int) (unsignedBits y) = .lt :=
        compare_lt_iff_lt.mpr (by omega)
      have hgt : compare (unsignedBits x : Int) (-unsignedBits y) = .gt :=
        compare_gt_iff_gt.mpr (by omega)
      cases sign x <;> cases sign y <;>
        simp [UnpackedFloat.compare, hgt, hlt, compare_lex, compare_natCast, compare_neg_natCast]

theorem lt_iff_rank {x y : Float} (hx : x.isFinite) (hy : y.isFinite) :
    x < y ↔ rank x < rank y := by
  have hlt : x < y ↔ (x.toModel.unpack.compare y.toModel.unpack == some .lt) = true :=
    decide_eq_true_iff (p := x.toModel < y.toModel)
  rw [hlt, compare_unpack hx hy, beq_iff_eq, Option.some.injEq, compare_lt_iff_lt]

theorem beq_iff_rank {x y : Float} (hx : x.isFinite) (hy : y.isFinite) :
    x == y ↔ rank x = rank y := by
  have heq : x == y ↔ (x.toModel.unpack.compare y.toModel.unpack == some .eq) = true := Iff.rfl
  rw [heq, compare_unpack hx hy, beq_iff_eq, Option.some.injEq, compare_eq_iff_eq]

/-! ## Zeros -/

theorem eq_of_toBits {x y : Float} (h : x.toBits = y.toBits) : x = y := by
  obtain ⟨⟨bits, hbits⟩⟩ := x
  obtain ⟨⟨bits', hbits'⟩⟩ := y
  obtain rfl : bits = bits' := h
  rfl

theorem eq_zero_iff (x : Float) : x = 0.0 ↔ x.toBits.toNat = 0 := by
  have hbits : (0.0 : Float).toBits.toNat = 0 := rfl
  rw [← hbits, UInt64.toNat_inj]
  exact ⟨congrArg Float.toBits, eq_of_toBits⟩

theorem eq_neg_zero_iff (x : Float) : x = -0.0 ↔ x.toBits.toNat = signBit := by
  have hbits : (-0.0 : Float).toBits.toNat = signBit := rfl
  rw [← hbits, UInt64.toNat_inj]
  exact ⟨congrArg Float.toBits, eq_of_toBits⟩

/-- The rank of a double by its bits. -/
theorem rank_eq (x : Float) : rank x =
    if x.toBits.toNat < signBit then (x.toBits.toNat : Int) else signBit - x.toBits.toNat := by
  have hsize : x.toBits.toNat < 2 * signBit := x.toBits.toNat_lt
  unfold rank sign unsignedBits signBit at *
  split_ifs with h
  · simp only [Nat.mod_eq_of_lt h]
  · simp only
    omega

end Decimal

section Keys

variable {x y : Float} (hx : x.isFinite) (hy : y.isFinite)

include hx hy

/-- Of two finite doubles the lesser one has the lesser key. -/
theorem orderKey_lt_of_lt (h : x < y) : orderKey x < orderKey y := by
  rw [Decimal.lt_iff_rank hx hy, Decimal.rank_eq, Decimal.rank_eq] at h
  simp only [orderKey, signBit] at h ⊢
  split_ifs at h ⊢ <;> omega

/-- Of two finite doubles of equal value the first may stand before or beside the second, unless
they are the two zeros in the wrong order. -/
theorem orderKey_le_iff_of_beq (h : x == y) :
    orderKey x ≤ orderKey y ↔ ¬ (x = 0.0 ∧ y = -0.0) := by
  rw [Decimal.beq_iff_rank hx hy, Decimal.rank_eq, Decimal.rank_eq] at h
  rw [Decimal.eq_zero_iff, Decimal.eq_neg_zero_iff]
  simp only [orderKey, signBit] at h ⊢
  split_ifs at h ⊢ <;> omega

end Keys

end Storyboard
