import Pass3dBridge.Client.Pass3d

/-!
# The era codec

A transaction carries its era in one or two bytes: a zero byte when immortal, and otherwise a
little-endian `u16` with the period's logarithm less one in its low four bits and the quantised
phase above them (`Era::encode`). The chain reads it back with `Era::decode`, which refuses a
period below four and a phase outside the period. The era is defined in the `sp_runtime` crate;
its codec is embedded here because `sign_transaction` writes `frame_era()` into every
transaction the relay signs, and the Pass3d runtime decodes it from there.

The decoder reads every well-formed era (a period that is a power of two in `[4, 2^16]`, and a
phase below it on the quantisation grid) back from its encoding, whatever comes after.
`Era::mortal` builds only well-formed eras, so every era the relay frames reads back on chain as
itself.

## Main results

* `Era.decode_encode`: a well-formed era reads back from its encoding.
* `frameEra_decode`: every era the relay frames decodes back to itself.
-/

namespace Pass3dBridge.Client

open Scale

/-! ### Decoding -/

/-- `Era::decode`: one zero byte is the immortal era; otherwise two little-endian bytes hold
the period's logarithm less one in the low four bits and the phase, divided by the
quantisation factor, above them. -/
def Era.decode : List UInt8 → Option (Era × List UInt8)
  | [] => none
  | first :: input =>
    if first = 0 then some (.immortal, input)
    else match input with
      | [] => none
      | second :: rest =>
        let encoded := first.toNat + second.toNat * 2 ^ 8
        let period := 2 * 2 ^ (encoded % 2 ^ 4)
        let quantizeFactor := max (period / 2 ^ 12) 1
        let phase := encoded / 2 ^ 4 * quantizeFactor
        if 4 ≤ period ∧ phase < period then some (.mortal period phase, rest) else none

/-- The eras `Era::decode` accepts: a period that is a power of two in `[4, 2^16]`, and a phase
below it that is a multiple of the quantisation factor. -/
def Era.WellFormed : Era → Prop
  | .immortal => True
  | .mortal period phase => ∃ k < 17, 2 ≤ k ∧ period = 2 ^ k ∧ phase < period ∧
      phase % max (period / 2 ^ 12) 1 = 0

instance : DecidablePred Era.WellFormed
  | .immortal => inferInstanceAs (Decidable True)
  | .mortal period phase => inferInstanceAs (Decidable (∃ k < 17, 2 ≤ k ∧ period = 2 ^ k ∧
      phase < period ∧ phase % max (period / 2 ^ 12) 1 = 0))

/-! ### The two bytes of a mortal era -/

theorem trailingZeros_two_pow {k : Nat} (small : k < 64) : trailingZeros (2 ^ k) = k := by
  have split : List.range 64 = List.range k ++ k :: List.range' (k + 1) (63 - k) := by
    have joined := List.range'_append 0 k (64 - k) 1
    rw [Nat.zero_add, Nat.one_mul, Nat.sub_add_cancel (Nat.le_of_lt small), ← List.range_eq_range',
      ← List.range_eq_range'] at joined
    rw [← joined, show 64 - k = 63 - k + 1 by omega, List.range'_succ]
  unfold trailingZeros
  rw [split, List.takeWhile_append_of_pos fun i member => by
      have := List.mem_range.mp member
      simp only [Nat.testBit_two_pow, Bool.not_eq_true', decide_eq_false_iff_not]
      omega,
    List.takeWhile_cons_of_neg (by simp)]
  simp

/-- A phase below a period `2^k` is fewer than `2^12` quantisation steps. -/
theorem div_quantizeFactor_lt {k phase : Nat} (inside : phase < 2 ^ k) :
    phase / max (2 ^ k / 2 ^ 12) 1 < 2 ^ 12 := by
  rw [Nat.div_lt_iff_lt_mul (by omega)]
  rcases Nat.le_total k 12 with below | above
  · have := Nat.pow_le_pow_right (by decide : 0 < 2) below
    omega
  · obtain ⟨j, rfl⟩ := Nat.exists_eq_add_of_le above
    rw [Nat.pow_add, Nat.mul_div_cancel_left _ (by decide)] at *
    have := Nat.one_le_two_pow (n := j)
    rwa [max_eq_left this, Nat.mul_comm] at *

/-- The encoding of a mortal era of period `2^k` is the word with `k - 1` in its low four bits
and the phase's step index above them. -/
theorem encode_mortal {k phase : Nat} (low : 2 ≤ k) (high : k < 17) (inside : phase < 2 ^ k) :
    encode (Era.mortal (2 ^ k) phase) =
      leBytes 2 (k - 1 + phase / max (2 ^ k / 2 ^ 12) 1 * 2 ^ 4) := by
  have steps := div_quantizeFactor_lt inside
  show leBytes 2 (min (max ((trailingZeros (2 ^ k) + (2 ^ 32 - 1)) % 2 ^ 32) 1) 15 +
    phase / max (2 ^ k / 2 ^ 12) 1 * 16 % 2 ^ 16) = _
  rw [trailingZeros_two_pow (by omega)]
  exact congrArg (leBytes 2) (by omega)

/-- How `Era::decode` reads a two-byte word whose low byte is not zero. -/
theorem decode_leBytes_two {word : Nat} (fits : word < 2 ^ 16) (nonzero : word % 2 ^ 8 ≠ 0)
    (rest : List UInt8) :
    Era.decode (leBytes 2 word ++ rest) =
      if 4 ≤ 2 * 2 ^ (word % 2 ^ 4) ∧
          word / 2 ^ 4 * max (2 * 2 ^ (word % 2 ^ 4) / 2 ^ 12) 1 < 2 * 2 ^ (word % 2 ^ 4) then
        some (.mortal (2 * 2 ^ (word % 2 ^ 4))
          (word / 2 ^ 4 * max (2 * 2 ^ (word % 2 ^ 4) / 2 ^ 12) 1), rest)
      else none := by
  have first : UInt8.ofNat word ≠ 0 := fun zero => nonzero (by
    simpa using congrArg UInt8.toNat zero)
  have joined : word % 256 + word / 256 % 256 * 2 ^ 8 = word := by omega
  rw [leBytes_succ_append, leBytes_succ_append]
  simp only [leBytes, List.nil_append, Era.decode, first, if_false, toNat_ofNat_byte, joined]

/-! ### Round trip and canonicity -/

/-- Every well-formed era reads back from its encoding, and the decoder stops right after it. -/
theorem Era.decode_encode {era : Era} (wellFormed : era.WellFormed) (rest : List UInt8) :
    Era.decode (encode era ++ rest) = some (era, rest) := by
  cases era with
  | immortal => rfl
  | mortal period phase =>
    obtain ⟨k, high, low, rfl, inside, grid⟩ := wellFormed
    have steps := div_quantizeFactor_lt inside
    have four : 4 ≤ 2 ^ k := Nat.pow_le_pow_right (by decide : 0 < 2) low
    have doubled : 2 * 2 ^ (k - 1) = 2 ^ k := by
      rw [← Nat.pow_succ']
      congr 1
      omega
    have lowBits : (k - 1 + phase / max (2 ^ k / 2 ^ 12) 1 * 2 ^ 4) % 2 ^ 4 = k - 1 := by omega
    have highBits : (k - 1 + phase / max (2 ^ k / 2 ^ 12) 1 * 2 ^ 4) / 2 ^ 4 =
        phase / max (2 ^ k / 2 ^ 12) 1 := by omega
    rw [encode_mortal low high inside, decode_leBytes_two (by omega) (by omega)]
    simp only [lowBits, highBits, doubled, Nat.div_mul_cancel (Nat.dvd_of_mod_eq_zero grid)]
    exact if_pos ⟨four, inside⟩

/-! ### The relay's eras -/

/-- Clamping a power of two to `[4, 2^16]` clamps its exponent to `[2, 16]`. -/
theorem clamp_two_pow (j : Nat) : min (max (2 ^ j) 4) (2 ^ 16) = 2 ^ min (max j 2) 16 := by
  have mono {a b : Nat} (le : a ≤ b) : 2 ^ a ≤ 2 ^ b := Nat.pow_le_pow_right (by decide) le
  rcases Nat.le_total j 2 with small | large
  · have below : 2 ^ j ≤ 4 := mono small
    rw [max_eq_right small, max_eq_right below]
    rfl
  · have above : 4 ≤ 2 ^ j := mono large
    rw [max_eq_left large, max_eq_left above]
    rcases Nat.le_total j 16 with mid | big
    · rw [min_eq_left mid, min_eq_left (mono mid)]
    · rw [min_eq_right big, min_eq_right (mono big)]

/-- `Era::mortal` builds only well-formed eras: it rounds the period to a power of two in
`[4, 2^16]` and puts the phase on the quantisation grid below it. -/
theorem Era.ofMortal_wellFormed (period current : Nat) : (Era.ofMortal period current).WellFormed := by
  obtain ⟨j, power⟩ : ∃ j, (if period ≤ 2 ^ 63 then period.nextPowerOfTwo else 2 ^ 16) = 2 ^ j := by
    split
    · exact Nat.isPowerOfTwo_nextPowerOfTwo period
    · exact ⟨16, rfl⟩
  have positive : 0 < 2 ^ min (max j 2) 16 := Nat.two_pow_pos _
  refine ⟨min (max j 2) 16, by omega, by omega, by rw [power, clamp_two_pow], ?_⟩
  simp only [power, clamp_two_pow]
  exact ⟨Nat.lt_of_le_of_lt (Nat.div_mul_le_self _ _) (Nat.mod_lt _ positive),
    Nat.mul_mod_left _ _⟩

/-- **The relay's eras read back on chain.** Every era `sign_transaction` writes into a
transaction, immortal or mortal at any header and any period, decodes back to itself. -/
theorem frameEra_decode {Hash : Type} {bn : UintTy} (era : TransactionEra Hash bn)
    (rest : List UInt8) : Era.decode (encode era.frameEra ++ rest) = some (era.frameEra, rest) :=
  Era.decode_encode (by cases era <;> first | trivial | exact Era.ofMortal_wellFormed _ _) rest

end Pass3dBridge.Client
