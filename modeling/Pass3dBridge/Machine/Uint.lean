import Mathlib.Data.Nat.Defs
import Mathlib.Algebra.Group.Nat.Basic

/-!
# Rust unsigned integers

The runtimes and the relay client compute with `u8`, `u32`, `u64` and `u128` values and with
the saturating operations of their `Saturating` implementations. A `Uint t` carries its bound,
so no model function can produce a value its Rust type cannot hold. Every operation is stated
once as `Nat` arithmetic by a `val_*` lemma; later modules reason through those lemmas only.
-/

namespace Pass3dBridge

/-- The unsigned primitive types a chain may pick for its `Balance`, `Index` or `Weight`. -/
inductive UintTy
  | u8 | u16 | u32 | u64 | u128
  deriving DecidableEq, Repr

namespace UintTy

/-- `core::mem::size_of`, in bytes. -/
def bytes : UintTy → Nat
  | u8 => 1
  | u16 => 2
  | u32 => 4
  | u64 => 8
  | u128 => 16

/-- `BITS`. -/
def bits (t : UintTy) : Nat := 8 * t.bytes

@[simp] theorem bits_u8 : u8.bits = 8 := rfl
@[simp] theorem bits_u16 : u16.bits = 16 := rfl
@[simp] theorem bits_u32 : u32.bits = 32 := rfl
@[simp] theorem bits_u64 : u64.bits = 64 := rfl
@[simp] theorem bits_u128 : u128.bits = 128 := rfl

theorem bytes_pos (t : UintTy) : 0 < t.bytes := by cases t <;> decide

theorem bytes_le (t : UintTy) : t.bytes ≤ 16 := by cases t <;> decide

end UintTy

/-- A value of the unsigned type `t`. -/
@[ext]
structure Uint (t : UintTy) where
  val : Nat
  lt : val < 2 ^ t.bits
  deriving DecidableEq, Repr

namespace Uint

variable {t t' : UintTy}

/-- `MAX`. -/
def max (t : UintTy) : Uint t := ⟨2 ^ t.bits - 1, Nat.sub_lt (Nat.two_pow_pos _) Nat.one_pos⟩

/-- The number `n` as a value of `t`, when it fits: the checked operations' `Some` arm. -/
def ofNat? (n : Nat) : Option (Uint t) :=
  if h : n < 2 ^ t.bits then some ⟨n, h⟩ else none

/-- `T::try_from(a)` between unsigned types. -/
def tryFrom (t' : UintTy) (a : Uint t) : Option (Uint t') := ofNat? a.val

/-- `T::from(a)`, the lossless widening conversion. -/
def cast (a : Uint t) (wider : t.bits ≤ t'.bits) : Uint t' :=
  ⟨a.val, Nat.lt_of_lt_of_le a.lt (Nat.pow_le_pow_right (by decide) wider)⟩

/-- `a as T` between unsigned types: the low bits of `a` that fit `T`. -/
def truncate (t' : UintTy) (a : Uint t) : Uint t' := ⟨a.val % 2 ^ t'.bits, Nat.mod_lt _ (Nat.two_pow_pos _)⟩

/-- One. -/
def one (t : UintTy) : Uint t := ⟨1, Nat.one_lt_two_pow (by have := t.bytes_pos; unfold UintTy.bits; omega)⟩

/-- `saturating_add`: `checked_add`, or `MAX` on overflow. -/
def saturatingAdd (a b : Uint t) : Uint t := (ofNat? (a.val + b.val)).getD (max t)

/-- `saturating_mul`: `checked_mul`, or `MAX` on overflow. -/
def saturatingMul (a b : Uint t) : Uint t := (ofNat? (a.val * b.val)).getD (max t)

/-- `saturating_sub`: `checked_sub`, or zero on underflow. -/
def saturatingSub (a b : Uint t) : Uint t :=
  if b.val ≤ a.val then ⟨a.val - b.val, Nat.lt_of_le_of_lt (Nat.sub_le _ _) a.lt⟩
  else ⟨0, Nat.two_pow_pos _⟩

@[simp] theorem val_max : (max t).val = 2 ^ t.bits - 1 := rfl

@[simp] theorem val_cast (a : Uint t) (wider : t.bits ≤ t'.bits) : (a.cast wider).val = a.val :=
  rfl

theorem ofNat?_eq_some {n : Nat} (fits : n < 2 ^ t.bits) : ofNat? n = some ⟨n, fits⟩ :=
  dif_pos fits

theorem ofNat?_eq_none {n : Nat} (overflows : 2 ^ t.bits ≤ n) : ofNat? (t := t) n = none :=
  dif_neg (Nat.not_lt.mpr overflows)

/-- A checked result with `MAX` as fallback is one saturation at `MAX`. -/
@[simp] theorem val_getD_ofNat? (n : Nat) :
    ((ofNat? n).getD (max t)).val = min n (2 ^ t.bits - 1) := by
  by_cases fits : n < 2 ^ t.bits
  · rw [ofNat?_eq_some fits]
    simp only [Option.getD_some]
    omega
  · rw [ofNat?_eq_none (Nat.not_lt.mp fits)]
    simp only [Option.getD_none, val_max]
    omega

@[simp] theorem val_saturatingAdd (a b : Uint t) :
    (a.saturatingAdd b).val = min (a.val + b.val) (2 ^ t.bits - 1) :=
  val_getD_ofNat? _

@[simp] theorem val_saturatingMul (a b : Uint t) :
    (a.saturatingMul b).val = min (a.val * b.val) (2 ^ t.bits - 1) :=
  val_getD_ofNat? _

@[simp] theorem val_saturatingSub (a b : Uint t) : (a.saturatingSub b).val = a.val - b.val := by
  unfold saturatingSub
  split
  · rfl
  · show 0 = _
    omega

@[simp] theorem val_tryFrom_getD (a : Uint t) :
    ((a.tryFrom t').getD (max t')).val = min a.val (2 ^ t'.bits - 1) :=
  val_getD_ofNat? _

end Uint

end Pass3dBridge
