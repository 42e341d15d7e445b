-- SUMMARY: Doubles that are numbers, and the operations that never leave them.

import Mathlib
import Appliance.Json

namespace Appliance

namespace Double

open Float.Model

theorem ne_nan_of_isFinite {x : Float} (h : x.isFinite = true) : x ≠ Float.nan := by
  rintro rfl
  revert h
  decide

/-! ## Packing

What is not a number comes out of an operation in one way only: it is packed
from `UnpackedFloat.notANumber`. So it suffices to look at unpacked results. -/

theorem ne_nan_iff {x : Float} : x ≠ Float.nan ↔ x.toModel.unpack ≠ .notANumber := by
  rw [Ne, ← decide_eq_true_iff (p := x = Float.nan), ← Float.isNaN_eq_decide_eq_nan]
  exact not_congr UnpackedFloat.isNaN_iff

private theorem unpack_eq_notANumber (b : BitVec Format.binary64.numBits) :
    UnpackedFloat.unpack Format.binary64 b = .notANumber ↔
      UnpackedFloat.unpackExponent b = (-1#_) ∧ UnpackedFloat.unpackMantissa b ≠ 0#_ := by
  unfold UnpackedFloat.unpack
  grind

theorem unpack_pack_ne {u : UnpackedFloat} (h : u ≠ .notANumber) :
    (pack u).unpack ≠ .notANumber := by
  change UnpackedFloat.unpack Format.binary64 (UnpackedFloat.pack Format.binary64 u) ≠ _
  rw [Ne, unpack_eq_notANumber]
  rintro ⟨hexp, hman⟩
  fun_cases UnpackedFloat.pack Format.binary64 u with
  | case1 => exact h rfl
  | case2 s => simp [UnpackedFloat.pack, UnpackedFloat.packedInfinity] at hman
  | case3 s => simp [UnpackedFloat.pack, UnpackedFloat.packedZero] at hman
  | case4 s m e hm b hb =>
    simp only [UnpackedFloat.pack] at hman
    rw [if_pos hb] at hman
    simp [UnpackedFloat.packedInfinity] at hman
  | case5 s m e hm a b h₁ h₂ =>
    -- a normal number: the exponent stays below the one that is kept for infinity
    simp only [UnpackedFloat.pack] at hexp
    rw [if_neg h₁, if_pos h₂, UnpackedFloat.unpackExponent_packComponents] at hexp
    have hbits := congrArg BitVec.toNat hexp
    replace h₁ : ¬2048 ≤ (e + Format.binary64.exponentBias + 52).toNat + 1 := h₁
    simp at hbits
    omega
  | case6 s m e hm a b h₁ h₂ =>
    simp only [UnpackedFloat.pack] at hexp
    rw [if_neg h₁, if_neg h₂, UnpackedFloat.unpackExponent_packComponents] at hexp
    revert hexp
    decide

private theorem ne_nan_of_pack {x : Float} {u : UnpackedFloat} (hx : x.toModel = pack u)
    (h : u ≠ .notANumber) : x ≠ Float.nan := by
  rw [ne_nan_iff, hx]
  exact unpack_pack_ne h

/-! ## Scales

Dividing or multiplying by what is finite and not zero never makes a number of
the one thing that is none, nor the other way round. -/

/-- A double that measures can be divided by. -/
def IsScale (y : Float) : Prop := y.isFinite = true ∧ (y == 0.0) = false

instance (y : Float) : Decidable (IsScale y) := inferInstanceAs (Decidable (_ ∧ _))

theorem IsScale.unpack {y : Float} (h : IsScale y) :
    ∃ s m e hm, y.toModel.unpack = .finite s m e hm := by
  have hz : (0.0 : Float).toModel.unpack = .zero .positive := rfl
  have hfin : y.toModel.unpack.isFinite = true := h.1
  have hne : y.toModel.unpack.beq (0.0 : Float).toModel.unpack = false := h.2
  rw [hz] at hne
  cases hy : y.toModel.unpack with
  | finite s m e hm => exact ⟨s, m, e, hm, rfl⟩
  | zero s => simp [hy, UnpackedFloat.beq, UnpackedFloat.compare] at hne
  | infinity s => simp [hy, UnpackedFloat.isFinite] at hfin
  | notANumber => simp [hy, UnpackedFloat.isFinite] at hfin

private theorem roundWithAccuracy_ne (s : UnpackedFloat.Sign) (m : Nat) (e : Int)
    (a : UnpackedFloat.Accuracy) :
    UnpackedFloat.roundWithAccuracy Format.binary64 s m e a ≠ .notANumber := by
  simp only [UnpackedFloat.roundWithAccuracy]
  split <;> simp

private theorem div_ne {a : UnpackedFloat} (ha : a ≠ .notANumber) (s : UnpackedFloat.Sign)
    (m : Nat) (e : Int) (h : 0 < m) :
    UnpackedFloat.div Format.binary64 a (.finite s m e h) ≠ .notANumber := by
  cases a with
  | notANumber => exact absurd rfl ha
  | infinity s' => simp [UnpackedFloat.div]
  | zero s' => simp [UnpackedFloat.div]
  | finite s' m' e' h' => exact roundWithAccuracy_ne _ _ _ _

private theorem mul_ne {a : UnpackedFloat} (ha : a ≠ .notANumber) (s : UnpackedFloat.Sign)
    (m : Nat) (e : Int) (h : 0 < m) :
    UnpackedFloat.mul Format.binary64 a (.finite s m e h) ≠ .notANumber := by
  cases a with
  | notANumber => exact absurd rfl ha
  | infinity s' => simp [UnpackedFloat.mul]
  | zero s' => simp [UnpackedFloat.mul]
  | finite s' m' e' h' => exact roundWithAccuracy_ne _ _ _ _

/-- A number divided by a scale is a number. -/
theorem div_ne_nan {x y : Float} (hx : x ≠ Float.nan) (hy : IsScale y) :
    x / y ≠ Float.nan := by
  obtain ⟨s, m, e, hm, hfin⟩ := hy.unpack
  refine ne_nan_of_pack (u := UnpackedFloat.div _ x.toModel.unpack y.toModel.unpack) rfl ?_
  rw [hfin]
  apply div_ne
  exact ne_nan_iff.1 hx

/-- A number multiplied by a scale is a number. -/
theorem mul_ne_nan {x y : Float} (hx : x ≠ Float.nan) (hy : IsScale y) :
    x * y ≠ Float.nan := by
  obtain ⟨s, m, e, hm, hfin⟩ := hy.unpack
  refine ne_nan_of_pack (u := UnpackedFloat.mul _ x.toModel.unpack y.toModel.unpack) rfl ?_
  rw [hfin]
  apply mul_ne
  exact ne_nan_iff.1 hx

private theorem unpack_zero_div {x y : Float} (s : UnpackedFloat.Sign)
    (hx : x.toModel.unpack = .zero s) (hy : IsScale y) :
    ∃ s', (x / y).toModel.unpack = .zero s' := by
  obtain ⟨t, m, e, hm, hfin⟩ := hy.unpack
  refine ⟨s / t, ?_⟩
  change (pack (UnpackedFloat.div _ x.toModel.unpack y.toModel.unpack)).unpack = _
  rw [hx, hfin]
  exact UnpackedFloat.unpack_packedZero

/-- The quotients of equal numbers are equal, also where the numbers are the two zeros. -/
theorem div_beq_div {x x' y : Float} (h : (x == x') = true) (hy : IsScale y) :
    (x / y == x' / y) = true := by
  obtain ⟨hx, -, heq⟩ := Float.beq_iff_ne_nan_and_eq.1 h
  have hpos : (0 : Float).toModel.unpack = .zero .positive := rfl
  have hneg : (-0 : Float).toModel.unpack = .zero .negative := rfl
  have hzeros : ∀ {a b : Float}, (∃ s, a.toModel.unpack = .zero s) →
      (∃ s, b.toModel.unpack = .zero s) → (a == b) = true := by
    rintro a b ⟨s, ha⟩ ⟨t, hb⟩
    change a.toModel.unpack.beq b.toModel.unpack = true
    rw [ha, hb]
    rfl
  rcases heq with rfl | ⟨rfl, rfl⟩ | ⟨rfl, rfl⟩
  · exact Float.beq_self_iff.2 (div_ne_nan hx hy)
  · exact hzeros (unpack_zero_div _ hpos hy) (unpack_zero_div _ hneg hy)
  · exact hzeros (unpack_zero_div _ hneg hy) (unpack_zero_div _ hpos hy)

/-! ## Integers -/

private theorem normalize_ne (i e : Int) (s : UnpackedFloat.Sign) :
    UnpackedFloat.normalize Format.binary64 i e s ≠ .notANumber := by
  unfold UnpackedFloat.normalize
  split
  · exact roundWithAccuracy_ne _ _ _ _
  · simp
  · exact roundWithAccuracy_ne _ _ _ _

private theorem ofScientific_ne (m : Nat) (e : Int) :
    UnpackedFloat.ofScientific Format.binary64 m e ≠ .notANumber := by
  unfold UnpackedFloat.ofScientific
  split
  · simp
  · split
    · simp
    · split
      · simp
      · split
        · exact mul_ne (by simp) _ _ _ _
        · exact div_ne (by simp) _ _ _ _

private theorem ofNat_ne_nan (n : Nat) : Float.ofNat n ≠ Float.nan := by
  change Float.ofScientific n false 0 ≠ Float.nan
  unfold Float.ofScientific
  split
  · have hone : ((1.0 : Float)).toModel.unpack = .finite .positive (2 ^ 52) (-52) (by decide) :=
      rfl
    refine ne_nan_of_pack
      (u := UnpackedFloat.mul _ (n.toUInt64.toFloat).toModel.unpack (1.0 : Float).toModel.unpack)
      rfl ?_
    rw [hone]
    apply mul_ne
    exact unpack_pack_ne (normalize_ne _ _ _)
  · exact ne_nan_of_pack rfl (ofScientific_ne _ _)

/-- The double nearest to an integer is a number. -/
theorem ofInt_ne_nan (i : Int) : Float.ofInt i ≠ Float.nan := by
  cases i with
  | ofNat n => exact ofNat_ne_nan n
  | negSucc n =>
    refine ne_nan_of_pack (u := (Float.ofNat n.succ).toModel.unpack.neg) rfl ?_
    have hn := ne_nan_iff.1 (ofNat_ne_nan n.succ)
    cases hu : (Float.ofNat n.succ).toModel.unpack <;> simp_all [UnpackedFloat.neg]

end Double

end Appliance
