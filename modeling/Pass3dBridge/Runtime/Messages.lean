import Pass3dBridge.Runtime.Conversion
import Mathlib.Tactic.GCongr

/-!
# The runtimes' message configuration

Both runtimes accept messages on the same two lanes, from any origin, and never cap the
messages pending on an outbound lane. Each prices a delivery at the other chain with the fee
multiplier it stores for that chain, and a transaction at its own chain with its transaction
payment pallet's next fee multiplier raised by a tenth, for a transaction that may be paid
later at a higher multiplier.

`BridgedChainWithMessages::estimate_delivery_transaction` prices the delivery of one message to
the bridged chain: the weight of a delivery of a message of the expected default length, plus a
per-byte weight for every byte beyond it, minus the dispatch-fee payment when that is not done
at the bridged chain, plus the message's own dispatch weight; and the payload's size plus a
storage proof and the transaction's own bytes. Every step saturates.

The two runtimes implement it with the same body over the other chain's constants:
`estimateDeliveryTransaction` is that body, and each runtime's function applies it to its
own constants.

## Main results

* `val_estimateDeliveryTransaction`: what each step computes, as `min` over exact arithmetic.
* `estimateDeliveryTransaction_mono`: both fields grow with the payload and the dispatch weight.
* `pass3dt_estimateDeliveryTransaction_exact`: with the `bp_pass3dt` constants no step before
  the last one clips, so the Pass3d runtime's estimate is one saturation of the exact formula.
* `pass3d_estimateDeliveryTransaction_exact`: the Pass3dt runtime's estimate is exact too,
  whenever `bp_pass3d`'s weights leave room for it.
* `estimateDeliveryTransaction_payDispatchFee`: counting the dispatch-fee payment in adds at most
  its weight.
* `thisChain_transactionPayment_margin`: both runtimes pay for a transaction at their own chain
  at the next fee multiplier plus a tenth of it, rounded down and saturated, and never panic.
-/

namespace Pass3dBridge

/-! ### Lanes and origins -/

/-- `ThisChainWithMessages::is_message_accepted` of both runtimes: lanes `[0, 0, 0, 0]` (the
Pass3dt runtime's `DEFAULT_XCM_LANE_TO_PASS3D`) and `[0, 0, 0, 1]`. The origin only picks the
trace line logged. -/
def isMessageAccepted {Origin : Type} (_sendOrigin : Origin) (lane : LaneId) : Bool :=
  lane == (0, 0, 0, 0) || lane == (0, 0, 0, 1)

/-- `maximal_pending_messages_at_outbound_lane`: `MessageNonce::MAX`, no limit. -/
def maximalPendingMessagesAtOutboundLane : Uint .u64 := Uint.max .u64

/-- `BridgedChainWithMessages::verify_dispatch_weight`: every payload's weight is accepted. -/
def verifyDispatchWeight (_messagePayload : List UInt8) : Bool := true

/-- `SenderOrigin::linked_account`: no origin is linked to an account; XCM deals with fees. -/
def linkedAccount {Origin AccountId : Type} (_origin : Origin) : Option AccountId := none

/-! ### Delivery transaction estimates -/

/-- `MessageTransaction<Weight>`: the estimated weight and size of a delivery transaction. -/
structure MessageTransaction where
  dispatchWeight : Uint .u64
  size : Uint .u32

/-- `u32::try_from(message_payload.len()).unwrap_or(u32::MAX)`. -/
def payloadLen (messagePayload : List UInt8) : Uint .u32 :=
  (Uint.ofNat? messagePayload.length).getD (Uint.max .u32)

/-- The body of `estimate_delivery_transaction`, over the constants of the chain `bridged` the
message goes to and the storage proof size of the chain `this` it comes from;
`expectedDefaultMessageLength` is `pallet_bridge_messages::EXPECTED_DEFAULT_MESSAGE_LENGTH`. -/
def estimateDeliveryTransaction (this bridged : ChainPrimitives)
    (expectedDefaultMessageLength : Uint .u32) (messagePayload : List UInt8)
    (includePayDispatchFeeCost : Bool) (messageDispatchWeight : Uint .u64) :
    MessageTransaction :=
  let messagePayloadLen := payloadLen messagePayload
  let extraBytesInPayload : Uint .u64 :=
    (messagePayloadLen.cast (by decide)).saturatingSub (expectedDefaultMessageLength.cast (by decide))
  { dispatchWeight :=
      (((extraBytesInPayload.saturatingMul bridged.additionalMessageByteDeliveryWeight).saturatingAdd
          bridged.defaultMessageDeliveryTxWeight).saturatingSub
          (if includePayDispatchFeeCost then ⟨0, by decide⟩
            else bridged.payInboundDispatchFeeWeight)).saturatingAdd messageDispatchWeight
    size :=
      (messagePayloadLen.saturatingAdd this.extraStorageProofSize).saturatingAdd
        bridged.txExtraBytes }

@[simp] theorem val_payloadLen (messagePayload : List UInt8) :
    (payloadLen messagePayload).val = min messagePayload.length (2 ^ 32 - 1) :=
  Uint.val_getD_ofNat? _

section Estimate

variable (this bridged : ChainPrimitives) (expectedDefaultMessageLength : Uint .u32)

/-- Each field of the estimate as `min` over exact arithmetic: one `min` per saturating step. -/
theorem val_estimateDeliveryTransaction (messagePayload : List UInt8)
    (includePayDispatchFeeCost : Bool) (messageDispatchWeight : Uint .u64) :
    let estimate := estimateDeliveryTransaction this bridged expectedDefaultMessageLength
      messagePayload includePayDispatchFeeCost messageDispatchWeight
    let extraBytes := min messagePayload.length (2 ^ 32 - 1) - expectedDefaultMessageLength.val
    estimate.dispatchWeight.val =
        min (min (min (extraBytes * bridged.additionalMessageByteDeliveryWeight.val) (2 ^ 64 - 1) +
              bridged.defaultMessageDeliveryTxWeight.val) (2 ^ 64 - 1) -
            (if includePayDispatchFeeCost then 0 else bridged.payInboundDispatchFeeWeight.val) +
          messageDispatchWeight.val) (2 ^ 64 - 1) ∧
      estimate.size.val =
        min (min (min messagePayload.length (2 ^ 32 - 1) + this.extraStorageProofSize.val)
          (2 ^ 32 - 1) + bridged.txExtraBytes.val) (2 ^ 32 - 1) := by
  refine ⟨?_, by
    simp only [estimateDeliveryTransaction, Uint.val_saturatingAdd, val_payloadLen, UintTy.bits_u32]⟩
  cases includePayDispatchFeeCost <;>
    simp only [estimateDeliveryTransaction, Uint.val_saturatingAdd, Uint.val_saturatingSub,
      Uint.val_saturatingMul, Uint.val_cast, val_payloadLen, UintTy.bits_u64, if_true, if_false,
      Bool.false_eq_true]

/-- Both fields of the estimate are monotone in the payload's length and in the dispatch
weight, whatever the constants: every saturating step is. -/
theorem estimateDeliveryTransaction_mono {messagePayload messagePayload' : List UInt8}
    {messageDispatchWeight messageDispatchWeight' : Uint .u64} (includePayDispatchFeeCost : Bool)
    (longer : messagePayload.length ≤ messagePayload'.length)
    (heavier : messageDispatchWeight.val ≤ messageDispatchWeight'.val) :
    let estimate := estimateDeliveryTransaction this bridged expectedDefaultMessageLength
    (estimate messagePayload includePayDispatchFeeCost messageDispatchWeight).dispatchWeight.val ≤
        (estimate messagePayload' includePayDispatchFeeCost messageDispatchWeight').dispatchWeight.val ∧
      (estimate messagePayload includePayDispatchFeeCost messageDispatchWeight).size.val ≤
        (estimate messagePayload' includePayDispatchFeeCost messageDispatchWeight').size.val := by
  obtain ⟨weight, size⟩ := val_estimateDeliveryTransaction this bridged
    expectedDefaultMessageLength messagePayload includePayDispatchFeeCost messageDispatchWeight
  obtain ⟨weight', size'⟩ := val_estimateDeliveryTransaction this bridged
    expectedDefaultMessageLength messagePayload' includePayDispatchFeeCost messageDispatchWeight'
  have extraBytes : min messagePayload.length (2 ^ 32 - 1) - expectedDefaultMessageLength.val ≤
      min messagePayload'.length (2 ^ 32 - 1) - expectedDefaultMessageLength.val := by omega
  dsimp only at weight size weight' size' ⊢
  rw [weight, size, weight', size']
  exact ⟨by gcongr, by gcongr⟩

/-- The subtraction step in isolation: taking `pay` off a saturated sum before adding `weight`
and saturating again moves the result by at most `pay`, and never up. -/
private theorem min_sub_add_bounds (base pay weight cap : Nat) :
    min (base - pay + weight) cap ≤ min (base - 0 + weight) cap ∧
      min (base - 0 + weight) cap ≤ min (base - pay + weight) cap + pay := by
  omega

/-- **Paying the dispatch fee at the target costs at most its weight.** For every constants,
payload and dispatch weight, counting the dispatch-fee payment in never lowers the estimated
weight, raises it by at most `PAY_INBOUND_DISPATCH_FEE_WEIGHT` despite the saturating steps
around the subtraction, and leaves the size as it is. -/
theorem estimateDeliveryTransaction_payDispatchFee (messagePayload : List UInt8)
    (messageDispatchWeight : Uint .u64) :
    let estimate := estimateDeliveryTransaction this bridged expectedDefaultMessageLength
      messagePayload
    (estimate false messageDispatchWeight).dispatchWeight.val ≤
        (estimate true messageDispatchWeight).dispatchWeight.val ∧
      (estimate true messageDispatchWeight).dispatchWeight.val ≤
        (estimate false messageDispatchWeight).dispatchWeight.val +
          bridged.payInboundDispatchFeeWeight.val ∧
      (estimate false messageDispatchWeight).size = (estimate true messageDispatchWeight).size := by
  obtain ⟨atTarget, -⟩ := val_estimateDeliveryTransaction this bridged
    expectedDefaultMessageLength messagePayload true messageDispatchWeight
  obtain ⟨atSource, -⟩ := val_estimateDeliveryTransaction this bridged
    expectedDefaultMessageLength messagePayload false messageDispatchWeight
  dsimp only at atTarget atSource ⊢
  rw [atTarget, atSource]
  simp only [if_true, if_false, Bool.false_eq_true]
  obtain ⟨lower, upper⟩ := min_sub_add_bounds _ bridged.payInboundDispatchFeeWeight.val
    messageDispatchWeight.val (2 ^ 64 - 1)
  exact ⟨lower, upper, rfl⟩

end Estimate

/-! ### The Pass3d runtime's estimate -/

/-- `Pass3dt::estimate_delivery_transaction` of the Pass3d runtime: delivery to Pass3dt of a
message proved at Pass3d. -/
def Pass3dRuntime.Pass3dt.estimateDeliveryTransaction (bpPass3d : ChainPrimitives)
    (expectedDefaultMessageLength : Uint .u32) : List UInt8 → Bool → Uint .u64 → MessageTransaction :=
  Pass3dBridge.estimateDeliveryTransaction bpPass3d BpPass3dt.primitives expectedDefaultMessageLength

/-- `Pass3d::estimate_delivery_transaction` of the Pass3dt runtime: delivery to Pass3d of a
message proved at Pass3dt. -/
def Pass3dtRuntime.Pass3d.estimateDeliveryTransaction (bpPass3d : ChainPrimitives)
    (expectedDefaultMessageLength : Uint .u32) : List UInt8 → Bool → Uint .u64 → MessageTransaction :=
  Pass3dBridge.estimateDeliveryTransaction BpPass3dt.primitives bpPass3d expectedDefaultMessageLength

/-- **The Pass3d runtime's estimate saturates once.** For every payload, flag and dispatch
weight, whatever `bp_pass3d`'s proof size and the expected default message length: the
per-byte product cannot leave `u64` for a `u32` length, the delivery weight exceeds the
dispatch-fee weight it may lose, and a sum of `u32` sizes is exact in `u64`; so only the final
additions saturate, and both fields grow with the payload and the dispatch weight. -/
theorem pass3dt_estimateDeliveryTransaction_exact (bpPass3d : ChainPrimitives)
    (expectedDefaultMessageLength : Uint .u32) :
    let estimate :=
      Pass3dRuntime.Pass3dt.estimateDeliveryTransaction bpPass3d expectedDefaultMessageLength
    (∀ messagePayload includePayDispatchFeeCost messageDispatchWeight,
      let len := min messagePayload.length (2 ^ 32 - 1)
      ((estimate messagePayload includePayDispatchFeeCost messageDispatchWeight).dispatchWeight.val
          : ℤ) =
        min (2 ^ 64 - 1)
          (((len - expectedDefaultMessageLength.val : ℕ) : ℤ) *
              BpPass3dt.primitives.additionalMessageByteDeliveryWeight.val +
            BpPass3dt.primitives.defaultMessageDeliveryTxWeight.val -
            (if includePayDispatchFeeCost then 0
              else (BpPass3dt.primitives.payInboundDispatchFeeWeight.val : ℤ)) +
            messageDispatchWeight.val) ∧
      (estimate messagePayload includePayDispatchFeeCost messageDispatchWeight).size.val =
        min (2 ^ 32 - 1)
          (len + bpPass3d.extraStorageProofSize.val + BpPass3dt.primitives.txExtraBytes.val)) ∧
    ∀ (messagePayload messagePayload' : List UInt8) includePayDispatchFeeCost
      (messageDispatchWeight messageDispatchWeight' : Uint .u64),
      messagePayload.length ≤ messagePayload'.length →
      messageDispatchWeight.val ≤ messageDispatchWeight'.val →
      (estimate messagePayload includePayDispatchFeeCost messageDispatchWeight).dispatchWeight.val ≤
          (estimate messagePayload' includePayDispatchFeeCost messageDispatchWeight').dispatchWeight.val ∧
        (estimate messagePayload includePayDispatchFeeCost messageDispatchWeight).size.val ≤
          (estimate messagePayload' includePayDispatchFeeCost messageDispatchWeight').size.val := by
  refine ⟨fun messagePayload includePayDispatchFeeCost messageDispatchWeight => ?_,
    fun _ _ includePayDispatchFeeCost _ _ longer heavier =>
      estimateDeliveryTransaction_mono _ _ _ includePayDispatchFeeCost longer heavier⟩
  obtain ⟨weight, size⟩ := val_estimateDeliveryTransaction bpPass3d BpPass3dt.primitives
    expectedDefaultMessageLength messagePayload includePayDispatchFeeCost messageDispatchWeight
  have lengthFits := expectedDefaultMessageLength.lt
  have weightFits := messageDispatchWeight.lt
  have proofFits := bpPass3d.extraStorageProofSize.lt
  dsimp only [Pass3dRuntime.Pass3dt.estimateDeliveryTransaction]
  rw [weight, size]
  clear weight size
  simp only [BpPass3dt.primitives, UintTy.bits_u32, UintTy.bits_u64] at *
  constructor
  · split_ifs <;> omega
  · omega

/-! ### The Pass3dt runtime's estimate -/

/-- The weight steps in isolation: when the per-byte product and the delivery weight fit `u64`
and the fee weight is within the delivery weight, only the last saturation can clip. -/
private theorem min_chain_exact {product bound default pay weight : Nat} (below : product ≤ bound)
    (fits : bound + default < 2 ^ 64) (within : pay ≤ default) :
    min (min (min product (2 ^ 64 - 1) + default) (2 ^ 64 - 1) - pay + weight) (2 ^ 64 - 1) =
      min (2 ^ 64 - 1) (product + default - pay + weight) := by
  omega

/-- **The Pass3dt runtime's estimate saturates once, when `bp_pass3d` allows it.** Whenever
`bp_pass3d`'s per-byte weight over a `u32` length plus its delivery weight fits `u64`, and its
dispatch-fee weight is at most its delivery weight, no step of the estimate for a delivery to
Pass3d clips before the last one, for every payload, flag and dispatch weight. -/
theorem pass3d_estimateDeliveryTransaction_exact (bpPass3d : ChainPrimitives)
    (expectedDefaultMessageLength : Uint .u32)
    (perByteFits : (2 ^ 32 - 1) * bpPass3d.additionalMessageByteDeliveryWeight.val +
      bpPass3d.defaultMessageDeliveryTxWeight.val < 2 ^ 64)
    (feeWithinDelivery : bpPass3d.payInboundDispatchFeeWeight.val ≤
      bpPass3d.defaultMessageDeliveryTxWeight.val)
    (messagePayload : List UInt8) (includePayDispatchFeeCost : Bool)
    (messageDispatchWeight : Uint .u64) :
    let estimate := Pass3dtRuntime.Pass3d.estimateDeliveryTransaction bpPass3d
      expectedDefaultMessageLength messagePayload includePayDispatchFeeCost messageDispatchWeight
    let len := min messagePayload.length (2 ^ 32 - 1)
    estimate.dispatchWeight.val =
        min (2 ^ 64 - 1)
          ((len - expectedDefaultMessageLength.val) *
              bpPass3d.additionalMessageByteDeliveryWeight.val +
            bpPass3d.defaultMessageDeliveryTxWeight.val -
            (if includePayDispatchFeeCost then 0 else bpPass3d.payInboundDispatchFeeWeight.val) +
            messageDispatchWeight.val) ∧
      estimate.size.val =
        min (2 ^ 32 - 1)
          (len + BpPass3dt.primitives.extraStorageProofSize.val + bpPass3d.txExtraBytes.val) := by
  obtain ⟨weight, size⟩ := val_estimateDeliveryTransaction BpPass3dt.primitives bpPass3d
    expectedDefaultMessageLength messagePayload includePayDispatchFeeCost messageDispatchWeight
  have perByte : (min messagePayload.length (2 ^ 32 - 1) - expectedDefaultMessageLength.val) *
      bpPass3d.additionalMessageByteDeliveryWeight.val ≤
        (2 ^ 32 - 1) * bpPass3d.additionalMessageByteDeliveryWeight.val :=
    Nat.mul_le_mul_right _ (by omega)
  dsimp only [Pass3dtRuntime.Pass3d.estimateDeliveryTransaction]
  rw [weight, size]
  clear weight size
  constructor
  · split_ifs
    · exact min_chain_exact perByte perByteFits (Nat.zero_le _)
    · exact min_chain_exact perByte perByteFits feeWithinDelivery
  · clear perByte perByteFits feeWithinDelivery
    omega

/-- The Pass3dt constants meet the condition, so an estimate over them is exact. -/
theorem pass3d_estimateDeliveryTransaction_exact_at_pass3dt_constants :
    ((2 ^ 32 - 1) * BpPass3dt.primitives.additionalMessageByteDeliveryWeight.val +
        BpPass3dt.primitives.defaultMessageDeliveryTxWeight.val < 2 ^ 64 ∧
      BpPass3dt.primitives.payInboundDispatchFeeWeight.val ≤
        BpPass3dt.primitives.defaultMessageDeliveryTxWeight.val) ∧
    (Pass3dtRuntime.Pass3d.estimateDeliveryTransaction BpPass3dt.primitives ⟨0, by decide⟩ []
        false ⟨0, by decide⟩).dispatchWeight.val =
      min (2 ^ 64 - 1) ((min ([] : List UInt8).length (2 ^ 32 - 1) - 0) *
          BpPass3dt.primitives.additionalMessageByteDeliveryWeight.val +
        BpPass3dt.primitives.defaultMessageDeliveryTxWeight.val -
        (if false = true then 0 else BpPass3dt.primitives.payInboundDispatchFeeWeight.val) + 0) :=
  ⟨⟨by decide, by decide⟩,
    (pass3d_estimateDeliveryTransaction_exact BpPass3dt.primitives ⟨0, by decide⟩ (by decide)
      (by decide) [] false ⟨0, by decide⟩).1⟩

/-! ### Delivery transaction payment

`BridgedChainWithMessages::transaction_payment` prices a delivery transaction at the bridged chain
through `messages::transaction_payment`, defined in the `bridge_runtime_common` crate and a
parameter here, as is the bridged chain's normal-class base extrinsic weight (its
`BlockWeights`, built by `frame_system::limits`). The per-byte fee is one, the weight-to-fee is
`weight as _`, and the fee multiplier is this runtime's storage parameter for the bridged
chain. -/

/-- `Pass3dt::transaction_payment` of the Pass3d runtime, at the `Pass3dtFeeMultiplier` storage
parameter. -/
def Pass3dRuntime.Pass3dt.transactionPayment
    (transactionPayment : Uint .u64 → Uint BpPass3dt.balance → FixedU128 →
      (Uint .u64 → Uint BpPass3dt.balance) → MessageTransaction → Uint BpPass3dt.balance)
    (baseExtrinsic : Uint .u64) (storage : Storage) (transaction : MessageTransaction) :
    Uint BpPass3dt.balance :=
  transactionPayment baseExtrinsic (Uint.one _) (Pass3dtFeeMultiplier.get storage)
    (Uint.truncate BpPass3dt.balance) transaction

/-- `Pass3d::transaction_payment` of the Pass3dt runtime, at the `Pass3dFeeMultiplier` storage
parameter, in `bp_pass3d::Balance`. -/
def Pass3dtRuntime.Pass3d.transactionPayment (pass3dBalance : UintTy)
    (transactionPayment : Uint .u64 → Uint pass3dBalance → FixedU128 →
      (Uint .u64 → Uint pass3dBalance) → MessageTransaction → Uint pass3dBalance)
    (baseExtrinsic : Uint .u64) (storage : Storage) (transaction : MessageTransaction) :
    Uint pass3dBalance :=
  transactionPayment baseExtrinsic (Uint.one _) (Pass3dFeeMultiplier.get storage)
    (Uint.truncate pass3dBalance) transaction

/-! ### Transaction payment at this chain

`ThisChainWithMessages::transaction_payment` prices a transaction at this chain through the same
`messages::transaction_payment`, with this chain's base extrinsic weight, at the next fee
multiplier of the `pallet_transaction_payment` crate's pallet (a parameter here) raised by
`saturating_from_rational(110, 100)`. -/

/-- The body of `ThisChainWithMessages::transaction_payment`, shared by both runtimes: per-byte
fee one, weight-to-fee `weight as _`, and the next fee multiplier times `1.1`. -/
def thisChainTransactionPayment {balance : UintTy}
    (transactionPayment : Uint .u64 → Uint balance → FixedU128 →
      (Uint .u64 → Uint balance) → MessageTransaction → Uint balance)
    (baseExtrinsic : Uint .u64) (nextFeeMultiplier : FixedU128) (transaction : MessageTransaction) :
    Option (Uint balance) := do
  let multiplier := (← FixedU128.saturatingFromRational 110 100).saturatingMul nextFeeMultiplier
  return transactionPayment baseExtrinsic (Uint.one _) multiplier (Uint.truncate balance)
    transaction

/-- The shared body never panics, and pays at the next fee multiplier plus a tenth of it: the
product with `1.1` rounds down to exactly that, saturated at `u128::MAX`, so never below the
next fee multiplier. -/
theorem thisChainTransactionPayment_eq {balance : UintTy}
    (transactionPayment : Uint .u64 → Uint balance → FixedU128 →
      (Uint .u64 → Uint balance) → MessageTransaction → Uint balance)
    (baseExtrinsic : Uint .u64) (nextFeeMultiplier : FixedU128) (transaction : MessageTransaction) :
    ∃ multiplier : FixedU128,
      thisChainTransactionPayment transactionPayment baseExtrinsic nextFeeMultiplier transaction =
          some (transactionPayment baseExtrinsic (Uint.one _) multiplier (Uint.truncate balance)
            transaction) ∧
        multiplier.inner.val =
          min (nextFeeMultiplier.inner.val + nextFeeMultiplier.inner.val / 10) (2 ^ 128 - 1) ∧
        nextFeeMultiplier.inner.val ≤ multiplier.inner.val := by
  have tenth : 11 * 10 ^ 17 * nextFeeMultiplier.inner.val / FixedU128.DIV =
      nextFeeMultiplier.inner.val + nextFeeMultiplier.inner.val / 10 := by
    unfold FixedU128.DIV
    omega
  have fits : nextFeeMultiplier.inner.val < 2 ^ 128 := nextFeeMultiplier.inner.lt
  refine ⟨FixedU128.saturatingMul ⟨⟨11 * 10 ^ 17, by decide⟩⟩ nextFeeMultiplier, ?_, ?_, ?_⟩
  · simp only [thisChainTransactionPayment, FixedU128.saturatingFromRational_110_100]
    rfl
  · rw [FixedU128.inner_saturatingMul, tenth]
  · rw [FixedU128.inner_saturatingMul, tenth]
    omega

/-- `Pass3d::transaction_payment` of the Pass3d runtime: a transaction at Pass3d, in
`bp_pass3d::Balance`, with `bp_pass3d`'s base extrinsic weight. -/
def Pass3dRuntime.Pass3d.transactionPayment (pass3dBalance : UintTy)
    (transactionPayment : Uint .u64 → Uint pass3dBalance → FixedU128 →
      (Uint .u64 → Uint pass3dBalance) → MessageTransaction → Uint pass3dBalance)
    (baseExtrinsic : Uint .u64) (nextFeeMultiplier : FixedU128) :
    MessageTransaction → Option (Uint pass3dBalance) :=
  thisChainTransactionPayment transactionPayment baseExtrinsic nextFeeMultiplier

/-- `Pass3dt::transaction_payment` of the Pass3dt runtime: a transaction at Pass3dt, in
`bp_pass3dt::Balance`, with `bp_pass3dt`'s base extrinsic weight. -/
def Pass3dtRuntime.Pass3dt.transactionPayment
    (transactionPayment : Uint .u64 → Uint BpPass3dt.balance → FixedU128 →
      (Uint .u64 → Uint BpPass3dt.balance) → MessageTransaction → Uint BpPass3dt.balance)
    (baseExtrinsic : Uint .u64) (nextFeeMultiplier : FixedU128) :
    MessageTransaction → Option (Uint BpPass3dt.balance) :=
  thisChainTransactionPayment transactionPayment baseExtrinsic nextFeeMultiplier

/-- **Transactions at this chain are paid with a tenth of margin.** In both runtimes, for every
next fee multiplier, base extrinsic weight, `messages::transaction_payment` and transaction,
`transaction_payment` never panics and pays at a multiplier that is the next fee multiplier plus
a tenth of it, rounded down and saturated at `u128::MAX`; so never below the next fee
multiplier. -/
theorem thisChain_transactionPayment_margin (pass3dBalance : UintTy)
    (transactionPayment : Uint .u64 → Uint pass3dBalance → FixedU128 →
      (Uint .u64 → Uint pass3dBalance) → MessageTransaction → Uint pass3dBalance)
    (transactionPayment' : Uint .u64 → Uint BpPass3dt.balance → FixedU128 →
      (Uint .u64 → Uint BpPass3dt.balance) → MessageTransaction → Uint BpPass3dt.balance)
    (baseExtrinsic baseExtrinsic' : Uint .u64) :
    (∀ nextFeeMultiplier transaction, ∃ multiplier : FixedU128,
      Pass3dRuntime.Pass3d.transactionPayment pass3dBalance transactionPayment baseExtrinsic
          nextFeeMultiplier transaction =
        some (transactionPayment baseExtrinsic (Uint.one _) multiplier (Uint.truncate _)
          transaction) ∧
      multiplier.inner.val =
        min (nextFeeMultiplier.inner.val + nextFeeMultiplier.inner.val / 10) (2 ^ 128 - 1) ∧
      nextFeeMultiplier.inner.val ≤ multiplier.inner.val) ∧
    (∀ nextFeeMultiplier transaction, ∃ multiplier : FixedU128,
      Pass3dtRuntime.Pass3dt.transactionPayment transactionPayment' baseExtrinsic'
          nextFeeMultiplier transaction =
        some (transactionPayment' baseExtrinsic' (Uint.one _) multiplier (Uint.truncate _)
          transaction) ∧
      multiplier.inner.val =
        min (nextFeeMultiplier.inner.val + nextFeeMultiplier.inner.val / 10) (2 ^ 128 - 1) ∧
      nextFeeMultiplier.inner.val ≤ multiplier.inner.val) :=
  ⟨thisChainTransactionPayment_eq transactionPayment baseExtrinsic,
    thisChainTransactionPayment_eq transactionPayment' baseExtrinsic'⟩

end Pass3dBridge
