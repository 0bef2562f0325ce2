import Pass3dBridge.Codec.Scale

/-!
# `bp_pass3dt`: the Pass3dt chain primitives

The constants one chain publishes for the other chain's runtime and for the relay: the overhead
of a storage proof built at the chain, the extra bytes of its signed transactions and the
weights of delivering a message to it. `bp_pass3dt` is embedded here with its values; its twin,
the `bp_pass3d` crate, is a dependency of the runtimes, so the Pass3d side of every result takes
a `ChainPrimitives` (and a `Balance` type) as a parameter.
-/

namespace Pass3dBridge

open Scale

/-- The constants of a `bp_*` primitives crate that the message configuration reads. -/
structure ChainPrimitives where
  /-- `EXTRA_STORAGE_PROOF_SIZE`: the bytes of a storage proof built at the chain, apart from
  the value itself. -/
  extraStorageProofSize : Uint .u32
  /-- `TX_EXTRA_BYTES`: the bytes of a signed transaction apart from its call. -/
  txExtraBytes : Uint .u32
  /-- `DEFAULT_MESSAGE_DELIVERY_TX_WEIGHT`: the weight of delivering one message of the
  expected default length with zero dispatch weight. -/
  defaultMessageDeliveryTxWeight : Uint .u64
  /-- `ADDITIONAL_MESSAGE_BYTE_DELIVERY_WEIGHT`: the weight of every further message byte. -/
  additionalMessageByteDeliveryWeight : Uint .u64
  /-- `PAY_INBOUND_DISPATCH_FEE_WEIGHT`: the weight of paying the dispatch fee at the chain. -/
  payInboundDispatchFeeWeight : Uint .u64

/-- `bp_messages::LaneId`: four bytes. -/
abbrev LaneId : Type := UInt8 × UInt8 × UInt8 × UInt8

namespace BpPass3dt

/-- `Balance`. -/
abbrev balance : UintTy := .u64

/-- `Index`. -/
abbrev index : UintTy := .u32

/-- `BlockNumber`. -/
abbrev blockNumber : UintTy := .u64

/-- The delivery constants of `bp_pass3dt`. -/
def primitives : ChainPrimitives where
  extraStorageProofSize := ⟨1024, by decide⟩
  txExtraBytes := ⟨103, by decide⟩
  defaultMessageDeliveryTxWeight := ⟨1500000000, by decide⟩
  additionalMessageByteDeliveryWeight := ⟨25000, by decide⟩
  payInboundDispatchFeeWeight := ⟨700000000, by decide⟩

/-- `BlakeTwoAndKeccak256::hash`: the Blake2-256 digest followed by the Keccak-256 digest,
the 64 bytes of a `Pass3dtHash`. -/
def BlakeTwoAndKeccak256.hash (blake2_256 keccak_256 : List UInt8 → FixedBytes 32)
    (s : List UInt8) : FixedBytes 64 :=
  ⟨(blake2_256 s).bytes ++ (keccak_256 s).bytes, by
    rw [List.length_append, (blake2_256 s).length, (keccak_256 s).length]⟩

end BpPass3dt

end Pass3dBridge
