import Pass3dBridge.Machine.Uint
import Mathlib.Data.Nat.Size

/-!
# SCALE integers

`parity-scale-codec` writes a fixed-width integer as its little-endian bytes and `Compact<T>`
in one of four modes picked by the value: one byte below `2^6`, two bytes below `2^14`, four
bytes below `2^30`, and otherwise a length byte followed by the value's significant bytes.
The two low bits of the first byte name the mode. The decoder of every unsigned type reads the
mode back and rejects a value that a shorter mode would have written, or that its type cannot
hold.

One encoder and one decoder, parametrised by the type, describe all five Rust
implementations: their per-type branches differ only in which modes can fit the type.

## Main results

* `decodeCompact_encodeCompact`: every value of every unsigned type reads back, whatever bytes
  follow it.
* `encodeCompact_of_decodeCompact`: the decoder accepts only canonical encodings, so whatever
  it reads is the encoding of the value it returns.
* `decodeCompact_eq_some_iff`: the two together, as one characterisation of the decoder.
-/

namespace Pass3dBridge.Scale

/-! ### Bytes -/

@[simp] theorem toNat_ofNat_byte (n : Nat) : (UInt8.ofNat n).toNat = n % 256 := by
  simp [UInt8.toNat, UInt8.ofNat]

theorem toNat_byte_lt (b : UInt8) : b.toNat < 256 := b.toNat_lt_size

/-- The `k` low bytes of `n`, least significant first: `to_le_bytes`. -/
def leBytes : Nat → Nat → List UInt8
  | 0, _ => []
  | k + 1, n => UInt8.ofNat n :: leBytes k (n / 256)

/-- The number whose little-endian bytes are `bs`: `from_le_bytes`. -/
def ofLeBytes : List UInt8 → Nat
  | [] => 0
  | b :: bs => b.toNat + 256 * ofLeBytes bs

@[simp] theorem length_leBytes (k n : Nat) : (leBytes k n).length = k := by
  induction k generalizing n with
  | zero => rfl
  | succ k ih => simp [leBytes, ih]

theorem ofLeBytes_leBytes (k n : Nat) : ofLeBytes (leBytes k n) = n % 2 ^ (8 * k) := by
  induction k generalizing n with
  | zero => simp [leBytes, ofLeBytes, Nat.mod_one]
  | succ k ih =>
    have split : 2 ^ (8 * (k + 1)) = 256 * 2 ^ (8 * k) := by
      rw [Nat.mul_succ, Nat.pow_add, Nat.mul_comm]
    rw [split, Nat.mod_mul]
    simp [leBytes, ofLeBytes, ih]

theorem ofLeBytes_lt (bs : List UInt8) : ofLeBytes bs < 2 ^ (8 * bs.length) := by
  induction bs with
  | nil => simp [ofLeBytes]
  | cons b bs ih =>
    have byte := toNat_byte_lt b
    have split : 2 ^ (8 * (bs.length + 1)) = 256 * 2 ^ (8 * bs.length) := by
      rw [Nat.mul_succ, Nat.pow_add, Nat.mul_comm]
    simp only [ofLeBytes, List.length_cons, split]
    omega

theorem leBytes_ofLeBytes (bs : List UInt8) : leBytes bs.length (ofLeBytes bs) = bs := by
  induction bs with
  | nil => rfl
  | cons b bs ih =>
    have byte := toNat_byte_lt b
    have low : (b.toNat + 256 * ofLeBytes bs) % 256 = b.toNat := by omega
    have high : (b.toNat + 256 * ofLeBytes bs) / 256 = ofLeBytes bs := by omega
    simp only [List.length_cons, leBytes, ofLeBytes, high, ih, List.cons.injEq, and_true]
    exact UInt8.toNat.inj (by simp [low])

theorem ofLeBytes_mod_four (b : UInt8) (bs : List UInt8) :
    ofLeBytes (b :: bs) % 4 = b.toNat % 4 := by
  simp only [ofLeBytes]
  omega

/-- `Input::read` into a buffer of `k` bytes: those bytes and the rest of the input, or an
error when fewer than `k` are left. -/
def read (k : Nat) (input : List UInt8) : Option (List UInt8 × List UInt8) :=
  if k ≤ input.length then some (input.take k, input.drop k) else none

theorem read_append {k : Nat} {bs : List UInt8} (rest : List UInt8) (length : bs.length = k) :
    read k (bs ++ rest) = some (bs, rest) := by
  simp [read, List.take_left' length, List.drop_left' length, ← length]

theorem read_eq_some {k : Nat} {input bs rest : List UInt8}
    (h : read k input = some (bs, rest)) : bs.length = k ∧ input = bs ++ rest := by
  unfold read at h
  split at h
  · next enough =>
    simp only [Option.some.injEq, Prod.mk.injEq] at h
    obtain ⟨rfl, rfl⟩ := h
    exact ⟨List.length_take_of_le enough, (List.take_append_drop k input).symm⟩
  · cases h

/-! ### `Compact<T>` -/

variable {t : UintTy}

/-- The length byte count of the big-integer mode: `size_of::<T>() - leading_zeros() / 8`. -/
def bytesNeeded (t : UintTy) (n : Nat) : Nat := t.bytes - (t.bits - Nat.size n) / 8

/-- `Compact<T>::encode`. The shifted forms `n << 2 | mode` of the source are `n * 4 + mode`. -/
def encodeCompact (a : Uint t) : List UInt8 :=
  if a.val < 2 ^ 6 then [UInt8.ofNat (a.val * 4)]
  else if a.val < 2 ^ 14 then leBytes 2 (a.val * 4 + 1)
  else if a.val < 2 ^ 30 then leBytes 4 (a.val * 4 + 2)
  else
    let k := bytesNeeded t a.val
    UInt8.ofNat ((k - 4) * 4 + 3) :: leBytes k a.val

/-- The range check every mode ends with: the value must be at least `least`, the smallest
value the mode is used for, and fit `t` (the `OUT_OF_RANGE` errors otherwise). -/
def accept (least x : Nat) (rest : List UInt8) : Option (Uint t × List UInt8) :=
  if least ≤ x then (Uint.ofNat? x).map (·, rest) else none

/-- `Compact<T>::decode`. A mode-0 value is below `2^6` and fits every type, so its check
never fails, as in the source where it has none. -/
def decodeCompact (t : UintTy) : List UInt8 → Option (Uint t × List UInt8)
  | [] => none
  | pre :: input =>
    match pre.toNat % 4 with
    | 0 => accept 0 (pre.toNat / 4) input
    | 1 => (read 1 input).bind fun (bs, rest) => accept (2 ^ 6) (ofLeBytes (pre :: bs) / 4) rest
    | 2 => (read 3 input).bind fun (bs, rest) => accept (2 ^ 14) (ofLeBytes (pre :: bs) / 4) rest
    | _ =>
      let k := pre.toNat / 4 + 4
      if k ≤ t.bytes then
        (read k input).bind fun (bs, rest) =>
          accept (max (2 ^ 30) (2 ^ (8 * (k - 1)))) (ofLeBytes bs) rest
      else none

theorem accept_eq_some_iff {least x : Nat} {rest rest' : List UInt8} {a : Uint t} :
    accept least x rest = some (a, rest') ↔ least ≤ x ∧ x = a.val ∧ rest = rest' := by
  unfold accept Uint.ofNat?
  by_cases fits : x < 2 ^ t.bits
  · by_cases large : least ≤ x <;> simp [large, fits, Uint.ext_iff, eq_comm]
  · have := a.lt
    simp only [fits, dif_neg, not_false_eq_true, Option.map_none', ite_self, reduceCtorEq,
      false_iff]
    omega

theorem accept_eq_some {least x : Nat} {rest : List UInt8} (a : Uint t)
    (value : x = a.val) (large : least ≤ x) : accept least x rest = some (a, rest) :=
  accept_eq_some_iff.mpr ⟨large, value, rfl⟩

/-- What a mode that reads `k` more bytes has consumed, when it succeeds. -/
theorem read_accept_eq_some {k least : Nat} {f : List UInt8 → Nat} {input rest : List UInt8}
    {a : Uint t}
    (decoded : ((read k input).bind fun p => accept least (f p.1) p.2) = some (a, rest)) :
    ∃ word, word.length = k ∧ input = word ++ rest ∧ least ≤ f word ∧ f word = a.val := by
  obtain ⟨⟨word, rest'⟩, readOk, accepted⟩ := Option.bind_eq_some.mp decoded
  obtain ⟨length, rfl⟩ := read_eq_some readOk
  obtain ⟨large, value, rfl⟩ := accept_eq_some_iff.mp accepted
  exact ⟨word, length, rfl, large, value⟩

theorem decodeCompact_mode0 {pre : UInt8} (input : List UInt8) (mode : pre.toNat % 4 = 0) :
    decodeCompact t (pre :: input) = accept 0 (pre.toNat / 4) input := by
  simp [decodeCompact, mode]

theorem decodeCompact_mode1 {pre : UInt8} (input : List UInt8) (mode : pre.toNat % 4 = 1) :
    decodeCompact t (pre :: input) = (read 1 input).bind fun (bs, rest) =>
      accept (2 ^ 6) (ofLeBytes (pre :: bs) / 4) rest := by
  simp [decodeCompact, mode]

theorem decodeCompact_mode2 {pre : UInt8} (input : List UInt8) (mode : pre.toNat % 4 = 2) :
    decodeCompact t (pre :: input) = (read 3 input).bind fun (bs, rest) =>
      accept (2 ^ 14) (ofLeBytes (pre :: bs) / 4) rest := by
  simp [decodeCompact, mode]

theorem decodeCompact_mode3 {pre : UInt8} (input : List UInt8) (mode : pre.toNat % 4 = 3) :
    decodeCompact t (pre :: input) =
      if pre.toNat / 4 + 4 ≤ t.bytes then
        (read (pre.toNat / 4 + 4) input).bind fun (bs, rest) =>
          accept (max (2 ^ 30) (2 ^ (8 * (pre.toNat / 4 + 4 - 1)))) (ofLeBytes bs) rest
      else none := by
  simp [decodeCompact, mode]

/-! ### Round trip -/

/-- The big-integer mode's byte count is the one that holds the value's highest set bit. -/
theorem bytesNeeded_bounds {n : Nat} (fits : n < 2 ^ t.bits) (big : 2 ^ 30 ≤ n) :
    4 ≤ bytesNeeded t n ∧ bytesNeeded t n ≤ t.bytes ∧
      2 ^ (8 * (bytesNeeded t n - 1)) ≤ n ∧ n < 2 ^ (8 * bytesNeeded t n) := by
  have upper := Nat.size_le.mpr fits
  have lower := Nat.lt_size.mpr big
  have width : t.bits = 8 * t.bytes := rfl
  refine ⟨?_, ?_, Nat.lt_size.mp ?_, Nat.size_le.mp ?_⟩ <;> unfold bytesNeeded <;> omega

theorem bytesNeeded_eq {n k : Nat} (within : k ≤ t.bytes) (big : 2 ^ 30 ≤ n)
    (low : 2 ^ (8 * (k - 1)) ≤ n) (high : n < 2 ^ (8 * k)) : bytesNeeded t n = k := by
  have upper := Nat.size_le.mpr high
  have lower := Nat.lt_size.mpr low
  have least := Nat.lt_size.mpr big
  have width : t.bits = 8 * t.bytes := rfl
  unfold bytesNeeded
  omega

theorem leBytes_succ_append (k n : Nat) (rest : List UInt8) :
    leBytes (k + 1) n ++ rest = UInt8.ofNat n :: (leBytes k (n / 256) ++ rest) := rfl

/-- Decoding the `k + 1` little-endian bytes of a value in a one- or two-register mode: the
first byte carries the mode, the decoder reads the other `k`. -/
private theorem ofLeBytes_cons_leBytes (k v : Nat) :
    ofLeBytes (UInt8.ofNat v :: leBytes k (v / 256)) = v % 2 ^ (8 * (k + 1)) :=
  ofLeBytes_leBytes (k + 1) v

/-- Every value of every unsigned type reads back from its compact encoding, and the decoder
stops right after it. -/
theorem decodeCompact_encodeCompact (a : Uint t) (rest : List UInt8) :
    decodeCompact t (encodeCompact a ++ rest) = some (a, rest) := by
  have fits := a.lt
  unfold encodeCompact
  split_ifs with single double quad
  · rw [List.singleton_append, decodeCompact_mode0 _ (by simp; omega)]
    exact accept_eq_some a (by simp; omega) (Nat.zero_le _)
  · rw [leBytes_succ_append, decodeCompact_mode1 _ (by simp; omega),
      read_append rest (length_leBytes 1 _), Option.some_bind]
    exact accept_eq_some a (by rw [ofLeBytes_cons_leBytes]; omega) (by rw [ofLeBytes_cons_leBytes]; omega)
  · rw [leBytes_succ_append, decodeCompact_mode2 _ (by simp; omega),
      read_append rest (length_leBytes 3 _), Option.some_bind]
    exact accept_eq_some a (by rw [ofLeBytes_cons_leBytes]; omega) (by rw [ofLeBytes_cons_leBytes]; omega)
  · obtain ⟨four, within, low, high⟩ := bytesNeeded_bounds fits (Nat.le_of_not_lt quad)
    have sixteen := t.bytes_le
    have pre : (UInt8.ofNat ((bytesNeeded t a.val - 4) * 4 + 3)).toNat =
        (bytesNeeded t a.val - 4) * 4 + 3 := by simp; omega
    dsimp only
    rw [List.cons_append, decodeCompact_mode3 _ (by rw [pre]; omega)]
    simp only [pre, show ((bytesNeeded t a.val - 4) * 4 + 3) / 4 + 4 = bytesNeeded t a.val by omega,
      within, if_true, read_append rest (length_leBytes _ _), Option.some_bind]
    exact accept_eq_some a (by rw [ofLeBytes_leBytes, Nat.mod_eq_of_lt high])
      (by rw [ofLeBytes_leBytes, Nat.mod_eq_of_lt high]; exact max_le (Nat.le_of_not_lt quad) low)

/-! ### Canonicity -/

/-- In the two- and four-byte modes the decoded value is the little-endian word without its
two mode bits, so writing it back with the same mode gives the same word. -/
private theorem leBytes_register {pre : UInt8} {bs : List UInt8} {mode k : Nat}
    (bits : pre.toNat % 4 = mode) (length : bs.length = k) :
    leBytes (k + 1) (ofLeBytes (pre :: bs) / 4 * 4 + mode) = pre :: bs := by
  have low := ofLeBytes_mod_four pre bs
  rw [show ofLeBytes (pre :: bs) / 4 * 4 + mode = ofLeBytes (pre :: bs) by omega, ← length]
  exact leBytes_ofLeBytes (pre :: bs)

/-- The value a register mode decodes is below the mode's upper end. -/
private theorem register_lt (pre : UInt8) {bs : List UInt8} {k : Nat} (length : bs.length = k) :
    ofLeBytes (pre :: bs) / 4 < 2 ^ (8 * (k + 1) - 2) := by
  have bound := ofLeBytes_lt (pre :: bs)
  rw [List.length_cons, length] at bound
  have split : 2 ^ (8 * (k + 1)) = 2 ^ (8 * (k + 1) - 2) * 4 := by
    rw [← Nat.pow_sub_mul_pow 2 (show 2 ≤ 8 * (k + 1) by omega)]
  omega

/-- The decoder accepts only canonical encodings: the bytes it consumes are exactly the
encoding of the value it returns, so no value has two encodings it reads. -/
theorem encodeCompact_of_decodeCompact {bs rest : List UInt8} {a : Uint t}
    (decoded : decodeCompact t bs = some (a, rest)) : bs = encodeCompact a ++ rest := by
  obtain _ | ⟨pre, input⟩ := bs
  · cases decoded
  have byte := toNat_byte_lt pre
  have modes : pre.toNat % 4 = 0 ∨ pre.toNat % 4 = 1 ∨ pre.toNat % 4 = 2 ∨ pre.toNat % 4 = 3 := by
    omega
  rcases modes with mode | mode | mode | mode
  · rw [decodeCompact_mode0 _ mode, accept_eq_some_iff] at decoded
    obtain ⟨-, value, rfl⟩ := decoded
    rw [encodeCompact, if_pos (by omega), List.singleton_append, ← value]
    congr
    exact UInt8.toNat.inj (by simp; omega)
  · rw [decodeCompact_mode1 _ mode] at decoded
    obtain ⟨word, length, rfl, large, value⟩ :=
      read_accept_eq_some (f := fun word => ofLeBytes (pre :: word) / 4) decoded
    have small := register_lt pre length
    have canonical : leBytes 2 _ = pre :: word := leBytes_register mode length
    rw [encodeCompact, if_neg (by omega), if_pos (by omega), ← value, canonical, List.cons_append]
  · rw [decodeCompact_mode2 _ mode] at decoded
    obtain ⟨word, length, rfl, large, value⟩ :=
      read_accept_eq_some (f := fun word => ofLeBytes (pre :: word) / 4) decoded
    have small := register_lt pre length
    have canonical : leBytes 4 _ = pre :: word := leBytes_register mode length
    rw [encodeCompact, if_neg (by omega), if_neg (by omega), if_pos (by omega), ← value,
      canonical, List.cons_append]
  · rw [decodeCompact_mode3 _ mode] at decoded
    split at decoded
    · next within =>
      obtain ⟨word, length, rfl, large, value⟩ := read_accept_eq_some (f := ofLeBytes) decoded
      have high := ofLeBytes_lt word
      rw [length] at high
      obtain ⟨big, low⟩ := Nat.max_le.mp large
      have needed := bytesNeeded_eq within big low high
      have lengthByte : UInt8.ofNat ((pre.toNat / 4 + 4 - 4) * 4 + 3) = pre :=
        UInt8.toNat.inj (by simp; omega)
      rw [encodeCompact, if_neg (by omega), if_neg (by omega), if_neg (by omega), ← value]
      dsimp only
      rw [needed, lengthByte, ← length, leBytes_ofLeBytes, List.cons_append]
    · cases decoded

/-- **The compact codec.** The decoder succeeds on a byte string exactly when the string starts
with the compact encoding of the value it returns, and it then leaves the rest untouched. -/
theorem decodeCompact_eq_some_iff {bs rest : List UInt8} {a : Uint t} :
    decodeCompact t bs = some (a, rest) ↔ bs = encodeCompact a ++ rest :=
  ⟨encodeCompact_of_decodeCompact, fun encoded => encoded ▸ decodeCompact_encodeCompact a rest⟩

/-! ### `Encode` -/

/-- `parity_scale_codec::Encode`, for the types a signed payload is built from. -/
class Encode (α : Type) where
  encode : α → List UInt8

export Encode (encode)

instance : Encode Unit := ⟨fun _ => []⟩

/-- A tuple encodes its components one after the other. -/
instance {α β : Type} [Encode α] [Encode β] : Encode (α × β) := ⟨fun p => encode p.1 ++ encode p.2⟩

/-- A fixed-width integer encodes as its little-endian bytes. -/
instance : Encode (Uint t) := ⟨fun a => leBytes t.bytes a.val⟩

/-- A byte array `[u8; n]`. -/
structure FixedBytes (n : Nat) where
  bytes : List UInt8
  length : bytes.length = n
  deriving DecidableEq, Repr

instance {n : Nat} : Encode (FixedBytes n) := ⟨FixedBytes.bytes⟩

@[simp] theorem encode_unit (u : Unit) : encode u = [] := rfl

@[simp] theorem encode_prod {α β : Type} [Encode α] [Encode β] (a : α) (b : β) :
    encode (a, b) = encode a ++ encode b := rfl

end Pass3dBridge.Scale
