import Pass3dBridge.Primitives.ChainPass3dt
import Pass3dBridge.Runtime.Parameters

/-!
# Conversion rates and bridged balances

`bridged_balance_to_this_balance` converts a bridged balance at the stored conversion rate (or
at a caller's override): `saturating_mul_int` multiplies in the bridged chain's balance type,
saturating there, and `try_from(..).unwrap_or(MAX)` narrows to this chain's type, saturating
again.

The two saturations compose into one at the smaller of the two maxima. They are a single
saturation at this chain's maximum exactly when the bridged type is at least as wide. The Pass3d
side's `Balance` is defined in the `bp_pass3d` crate and is a parameter here; the Pass3dt side's
is `u64`.

The `FixedU128` arithmetic is `sp_arithmetic`'s: a product rounds down and saturates at the
maximum, and `saturating_from_rational` panics on a zero denominator.

## Main results

* `val_bridgedBalanceToThisBalance`: the conversion is `min` of the product and both maxima.
* `saturatesAtThisMax_iff`: it saturates once at this chain's maximum, for every rate, exactly
  when this chain's balance type is no wider than the bridged one.
* `bridgedBalanceToThisBalance_monotone`: in both runtimes a larger balance at a higher rate
  never converts to less.
* `FixedU128.inner_saturatingMul`: a product of two fixed-point numbers is one saturation of the
  rounded-down product.
-/

namespace Pass3dBridge

/-! ### `FixedU128` -/

namespace FixedU128

variable {t : UintTy}

/-- `multiply_by_rational(a, b, c)`: `a * b / c` rounded down, or an error when it does not fit
`u128`; a zero factor gives zero, and a zero divisor counts as one. -/
def multiplyByRational (a b c : Nat) : Option Nat :=
  if a = 0 ∨ b = 0 then some 0 else (Uint.ofNat? (t := .u128) (a * b / max c 1)).map Uint.val

/-- `FixedPointNumber::checked_mul_int`: the integer part of `self * n` in `n`'s type, when it
fits. -/
def checkedMulInt (r : FixedU128) (n : Uint t) : Option (Uint t) :=
  (multiplyByRational r.inner.val n.val DIV).bind Uint.ofNat?

/-- `FixedPointNumber::saturating_mul_int`: `checked_mul_int`, or `to_bound`, which is `MAX`
since neither factor is negative. -/
def saturatingMulInt (r : FixedU128) (n : Uint t) : Uint t := (r.checkedMulInt n).getD (Uint.max t)

theorem two_pow_bits_le_u128 (t : UintTy) : 2 ^ t.bits ≤ 2 ^ 128 :=
  Nat.pow_le_pow_right (by decide) (by have := t.bytes_le; unfold UintTy.bits; omega)

/-- `saturating_mul_int` is one saturation of the product at `n`'s maximum: a product too large
for `u128` is too large for every unsigned type. -/
@[simp] theorem val_saturatingMulInt (r : FixedU128) (n : Uint t) :
    (r.saturatingMulInt n).val = min (r.inner.val * n.val / DIV) (2 ^ t.bits - 1) := by
  unfold saturatingMulInt checkedMulInt multiplyByRational
  have wide := two_pow_bits_le_u128 t
  by_cases zero : r.inner.val = 0 ∨ n.val = 0
  · rcases zero with zero | zero <;> simp [zero]
  · have positive : max DIV 1 = DIV := rfl
    rw [if_neg zero, positive]
    by_cases fits : r.inner.val * n.val / DIV < 2 ^ 128
    · rw [Uint.ofNat?_eq_some (t := .u128) fits]
      exact Uint.val_getD_ofNat? _
    · rw [Uint.ofNat?_eq_none (t := .u128) (by simpa using fits)]
      simp only [Option.map_none', Option.none_bind, Option.getD_none, Uint.val_max]
      omega

/-- `CheckedMul::checked_mul`: `self * rhs` rounded down, when it fits `u128`. -/
def checkedMul (r s : FixedU128) : Option FixedU128 :=
  (multiplyByRational r.inner.val s.inner.val DIV).bind fun value => (Uint.ofNat? value).map mk

/-- `Saturating::saturating_mul`: `checked_mul`, or `to_bound`, which is `MAX` since neither
factor is negative. -/
def saturatingMul (r s : FixedU128) : FixedU128 := (r.checkedMul s).getD ⟨Uint.max .u128⟩

/-- `saturating_mul` is `saturating_mul_int` on the inner values, so one saturation of the
rounded-down product at `u128::MAX`. -/
@[simp] theorem inner_saturatingMul (r s : FixedU128) :
    (r.saturatingMul s).inner.val = min (r.inner.val * s.inner.val / DIV) (2 ^ 128 - 1) := by
  have sameBody : (r.saturatingMul s).inner = r.saturatingMulInt s.inner := by
    unfold saturatingMul checkedMul saturatingMulInt checkedMulInt
    cases multiplyByRational r.inner.val s.inner.val DIV with
    | none => rfl
    | some value => exact congrArg inner (Option.getD_map mk _ (Uint.ofNat? value))
  rw [sameBody, val_saturatingMulInt, UintTy.bits_u128]

/-- `FixedPointNumber::checked_from_rational`: `n / d` rounded down, when `d` is not zero and the
quotient fits. -/
def checkedFromRational (n d : Nat) : Option FixedU128 :=
  if d = 0 then none
  else (multiplyByRational n DIV d).bind fun value => (Uint.ofNat? value).map mk

/-- `FixedPointNumber::saturating_from_rational`: it panics (`none`) when `d` is zero, and is
otherwise `checked_from_rational`, or `to_bound`, which is `MAX` for unsigned operands. -/
def saturatingFromRational (n d : Nat) : Option FixedU128 :=
  if d = 0 then none else some ((checkedFromRational n d).getD ⟨Uint.max .u128⟩)

/-- `saturating_from_rational(110, 100)` is `1.1`. -/
theorem saturatingFromRational_110_100 :
    saturatingFromRational 110 100 = some ⟨⟨11 * 10 ^ 17, by decide⟩⟩ := by
  decide

/-- Two. -/
def two : FixedU128 := ⟨⟨2 * DIV, by decide⟩⟩

end FixedU128

/-! ### Bridged balances -/

section Convert

variable {bridged this : UintTy}

/-- The body of `bridged_balance_to_this_balance`, shared by both runtimes: multiply at the
override or at the stored rate, then narrow to this chain's balance type. -/
def bridgedBalanceToThisBalance (this : UintTy) (storedRate : FixedU128)
    (bridgedBalance : Uint bridged) (conversionRateOverride : Option FixedU128) : Uint this :=
  let conversionRate := conversionRateOverride.getD storedRate
  ((conversionRate.saturatingMulInt bridgedBalance).tryFrom this).getD (Uint.max this)

/-- The conversion is the product saturated at the bridged chain's maximum, then at this
chain's. -/
theorem val_bridgedBalanceToThisBalance (storedRate : FixedU128) (bridgedBalance : Uint bridged)
    (conversionRateOverride : Option FixedU128) :
    (bridgedBalanceToThisBalance this storedRate bridgedBalance conversionRateOverride).val =
      min (min ((conversionRateOverride.getD storedRate).inner.val * bridgedBalance.val /
        FixedU128.DIV) (2 ^ bridged.bits - 1)) (2 ^ this.bits - 1) := by
  simp [bridgedBalanceToThisBalance]

/-- The shared body is monotone: a balance at least as large, at an effective rate at least as
high, never converts to less. -/
theorem bridgedBalanceToThisBalance_le {storedRate storedRate' : FixedU128}
    {bridgedBalance bridgedBalance' : Uint bridged}
    {conversionRateOverride conversionRateOverride' : Option FixedU128}
    (higher : (conversionRateOverride.getD storedRate).inner.val ≤
      (conversionRateOverride'.getD storedRate').inner.val)
    (larger : bridgedBalance.val ≤ bridgedBalance'.val) :
    (bridgedBalanceToThisBalance this storedRate bridgedBalance conversionRateOverride).val ≤
      (bridgedBalanceToThisBalance this storedRate' bridgedBalance' conversionRateOverride').val := by
  have product := Nat.div_le_div_right (c := FixedU128.DIV) (Nat.mul_le_mul higher larger)
  rw [val_bridgedBalanceToThisBalance, val_bridgedBalanceToThisBalance]
  omega

/-- A conversion that saturates once, at this chain's maximum: the product of the rate and the
balance, cut at `MAX` and nowhere else. -/
def SaturatesAtThisMax (convert : Uint bridged → Option FixedU128 → Uint this)
    (storedRate : FixedU128) : Prop :=
  ∀ bridgedBalance conversionRateOverride,
    (convert bridgedBalance conversionRateOverride).val =
      min ((conversionRateOverride.getD storedRate).inner.val * bridgedBalance.val /
        FixedU128.DIV) (2 ^ this.bits - 1)


/-- The two saturations are one at this chain's maximum, for every stored rate, exactly when
this chain's balance type is no wider than the bridged one. Otherwise the bridged maximum at
rate two already differs: it comes back unchanged instead of doubled. -/
theorem saturatesAtThisMax_iff :
    (∀ storedRate, SaturatesAtThisMax
      (bridgedBalanceToThisBalance this storedRate : Uint bridged → Option FixedU128 → Uint this)
      storedRate) ↔ this.bits ≤ bridged.bits := by
  constructor
  · intro once
    by_contra wider
    have bridgedPos : 1 ≤ bridged.bits := by
      have := bridged.bytes_pos
      unfold UintTy.bits
      omega
    have doubled : 2 * 2 ^ bridged.bits ≤ 2 ^ this.bits := by
      rw [← Nat.pow_succ']
      exact Nat.pow_le_pow_right (by decide) (by omega)
    have atLeastTwo : 2 ≤ 2 ^ bridged.bits := by
      calc 2 = 2 ^ 1 := rfl
        _ ≤ 2 ^ bridged.bits := Nat.pow_le_pow_right (by decide) bridgedPos
    have atMax := once FixedU128.two (Uint.max bridged) none
    rw [val_bridgedBalanceToThisBalance] at atMax
    simp only [Option.getD_none, FixedU128.two, Uint.val_max, FixedU128.DIV] at atMax
    omega
  · intro narrower storedRate bridgedBalance conversionRateOverride
    have maxima : 2 ^ this.bits ≤ 2 ^ bridged.bits := Nat.pow_le_pow_right (by decide) narrower
    rw [val_bridgedBalanceToThisBalance]
    omega

end Convert

/-! ### The runtimes' conversions -/

/-- `WithPass3dtMessageBridge::bridged_balance_to_this_balance` of the Pass3d runtime: from
Pass3dt's balance to `bp_pass3d::Balance`, at the `Pass3dtToPass3dConversionRate` storage
parameter. -/
def Pass3dRuntime.WithPass3dtMessageBridge.bridgedBalanceToThisBalance (pass3dBalance : UintTy)
    (storage : Storage) : Uint BpPass3dt.balance → Option FixedU128 → Uint pass3dBalance :=
  Pass3dBridge.bridgedBalanceToThisBalance pass3dBalance (Pass3dtToPass3dConversionRate.get storage)

/-- `WithPass3dMessageBridge::bridged_balance_to_this_balance` of the Pass3dt runtime: from
`bp_pass3d::Balance` to Pass3dt's balance, at the `Pass3dToPass3dtConversionRate` storage
parameter. -/
def Pass3dtRuntime.WithPass3dMessageBridge.bridgedBalanceToThisBalance (pass3dBalance : UintTy)
    (storage : Storage) : Uint pass3dBalance → Option FixedU128 → Uint BpPass3dt.balance :=
  Pass3dBridge.bridgedBalanceToThisBalance BpPass3dt.balance
    (Pass3dToPass3dtConversionRate.get storage)

/-- Every rate is stored in some state, so a fact about the stored rate in every state is a fact
about every rate. -/
private theorem forall_storage_iff {σ : Type} {P : FixedU128 → Prop} (get : σ → FixedU128)
    (stored : ∀ rate, ∃ storage, get storage = rate) :
    (∀ storage, P (get storage)) ↔ ∀ rate, P rate :=
  ⟨fun all rate => (stored rate).elim fun _ read => read ▸ all _, fun all _ => all _⟩

/-- **Two saturations, at the narrower maximum.** In both runtimes, for every stored rate,
balance and override, the conversion is the product cut at the smaller of the two balance
maxima. It is one saturation at this chain's maximum, for every input in both runtimes, exactly
when `bp_pass3d::Balance` is `u64`, as wide as Pass3dt's. -/
theorem bridgedBalanceToThisBalance_saturates_at_narrower_max (pass3dBalance : UintTy) :
    (∀ storage (bridgedBalance : Uint BpPass3dt.balance) conversionRateOverride,
      (Pass3dRuntime.WithPass3dtMessageBridge.bridgedBalanceToThisBalance pass3dBalance storage
          bridgedBalance conversionRateOverride).val =
        min (min ((conversionRateOverride.getD
            (Pass3dRuntime.Pass3dtToPass3dConversionRate.get storage)).inner.val *
              bridgedBalance.val / FixedU128.DIV) (2 ^ 64 - 1)) (2 ^ pass3dBalance.bits - 1)) ∧
    (∀ storage (bridgedBalance : Uint pass3dBalance) conversionRateOverride,
      (Pass3dtRuntime.WithPass3dMessageBridge.bridgedBalanceToThisBalance pass3dBalance storage
          bridgedBalance conversionRateOverride).val =
        min (min ((conversionRateOverride.getD
            (Pass3dtRuntime.Pass3dToPass3dtConversionRate.get storage)).inner.val *
              bridgedBalance.val / FixedU128.DIV) (2 ^ pass3dBalance.bits - 1)) (2 ^ 64 - 1)) ∧
    ((∀ storage, SaturatesAtThisMax
        (Pass3dRuntime.WithPass3dtMessageBridge.bridgedBalanceToThisBalance pass3dBalance storage)
        (Pass3dRuntime.Pass3dtToPass3dConversionRate.get storage)) ∧
      (∀ storage, SaturatesAtThisMax
        (Pass3dtRuntime.WithPass3dMessageBridge.bridgedBalanceToThisBalance pass3dBalance storage)
        (Pass3dtRuntime.Pass3dToPass3dtConversionRate.get storage)) ↔
      pass3dBalance = .u64) := by
  refine ⟨fun _ _ _ => val_bridgedBalanceToThisBalance _ _ _,
    fun _ _ _ => val_bridgedBalanceToThisBalance _ _ _, ?_⟩
  simp only [Pass3dRuntime.WithPass3dtMessageBridge.bridgedBalanceToThisBalance,
    Pass3dtRuntime.WithPass3dMessageBridge.bridgedBalanceToThisBalance]
  rw [forall_storage_iff (P := fun rate => SaturatesAtThisMax
      (bridgedBalanceToThisBalance pass3dBalance rate :
        Uint BpPass3dt.balance → Option FixedU128 → Uint pass3dBalance) rate)
      _ fun rate => ⟨Pass3dRuntime.Pass3dtToPass3dConversionRate.set rate .genesis, rfl⟩,
    forall_storage_iff (P := fun rate => SaturatesAtThisMax
      (bridgedBalanceToThisBalance BpPass3dt.balance rate :
        Uint pass3dBalance → Option FixedU128 → Uint BpPass3dt.balance) rate)
      _ fun rate => ⟨Pass3dtRuntime.Pass3dToPass3dtConversionRate.set rate .genesis, rfl⟩,
    saturatesAtThisMax_iff, saturatesAtThisMax_iff]
  cases pass3dBalance <;> decide

/-- **Conversions are monotone.** In both runtimes, across any two states and any two overrides:
a balance at least as large, at an effective rate (the override, or else the stored rate) at
least as high, never converts to less, whatever `bp_pass3d::Balance` is. -/
theorem bridgedBalanceToThisBalance_monotone (pass3dBalance : UintTy) :
    (∀ storage storage' (bridgedBalance bridgedBalance' : Uint BpPass3dt.balance)
        conversionRateOverride conversionRateOverride',
      (conversionRateOverride.getD (Pass3dRuntime.Pass3dtToPass3dConversionRate.get storage)).inner.val ≤
          (conversionRateOverride'.getD
            (Pass3dRuntime.Pass3dtToPass3dConversionRate.get storage')).inner.val →
        bridgedBalance.val ≤ bridgedBalance'.val →
        (Pass3dRuntime.WithPass3dtMessageBridge.bridgedBalanceToThisBalance pass3dBalance storage
            bridgedBalance conversionRateOverride).val ≤
          (Pass3dRuntime.WithPass3dtMessageBridge.bridgedBalanceToThisBalance pass3dBalance storage'
            bridgedBalance' conversionRateOverride').val) ∧
    (∀ storage storage' (bridgedBalance bridgedBalance' : Uint pass3dBalance)
        conversionRateOverride conversionRateOverride',
      (conversionRateOverride.getD (Pass3dtRuntime.Pass3dToPass3dtConversionRate.get storage)).inner.val ≤
          (conversionRateOverride'.getD
            (Pass3dtRuntime.Pass3dToPass3dtConversionRate.get storage')).inner.val →
        bridgedBalance.val ≤ bridgedBalance'.val →
        (Pass3dtRuntime.WithPass3dMessageBridge.bridgedBalanceToThisBalance pass3dBalance storage
            bridgedBalance conversionRateOverride).val ≤
          (Pass3dtRuntime.WithPass3dMessageBridge.bridgedBalanceToThisBalance pass3dBalance storage'
            bridgedBalance' conversionRateOverride').val) :=
  ⟨fun _ _ _ _ _ _ higher larger => bridgedBalanceToThisBalance_le higher larger,
    fun _ _ _ _ _ _ higher larger => bridgedBalanceToThisBalance_le higher larger⟩

/-- With a `u128` `bp_pass3d::Balance`, the Pass3d runtime converts `u64::MAX` Pass3dt units at
rate two to `u64::MAX`, where one saturation at `u128::MAX` gives `2^65 - 2`. -/
theorem pass3d_bridgedBalanceToThisBalance_u128_clips_at_u64 :
    (Pass3dRuntime.WithPass3dtMessageBridge.bridgedBalanceToThisBalance .u128 .genesis
        (Uint.max .u64) (some FixedU128.two)).val = 2 ^ 64 - 1 ∧
      min (FixedU128.two.inner.val * (Uint.max .u64).val / FixedU128.DIV) (2 ^ 128 - 1) =
        2 ^ 65 - 2 := by
  simp only [Pass3dRuntime.WithPass3dtMessageBridge.bridgedBalanceToThisBalance,
    val_bridgedBalanceToThisBalance, Option.getD_some, FixedU128.two, Uint.val_max,
    FixedU128.DIV, UintTy.bits_u64, UintTy.bits_u128]
  omega

end Pass3dBridge
