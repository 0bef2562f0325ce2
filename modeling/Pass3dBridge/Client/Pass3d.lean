import Pass3dBridge.Codec.Scale

/-!
# The Pass3d relay client: signing and parsing transactions

`relays/client-pass3d` tells the relay how to sign a Pass3d transaction (`sign_transaction`),
how to tell who signed one (`is_signed`, `is_signed_by`), and how to read the unsigned
transaction back out of a signed one (`parse_transaction`), which the relay uses to recover the
nonce and tip of its own pending transactions. It also names the storage key an account's
balance is read from (`account_info_storage_key`).

The runtime's types (`Index`, `Balance`, `BlockNumber`, `Hash`, `Call`) are defined in the
`pass3d_runtime` crate: the unsigned types are parameters of every definition here, and the hash
and the call are types with their encoders. The sr25519 key operations (`sp_core`) and the
hashers (`sp_io`) are parameters as well.

## Main results

* `signTransaction_parseTransaction`: signing succeeds for every decoded call; the result is
  signed by exactly the key pairs that share the signer's public key; and parsing it gives back
  the call, the nonce and the tip, with the era reset to immortal.
* `parseTransaction_eq_none_iff`: parsing fails exactly on unsigned extrinsics.
-/

namespace Pass3dBridge.Client

open Scale

/-! ### Keys, accounts and signatures -/

/-- `sr25519::Public`. -/
structure Public where
  bytes : FixedBytes 32
  deriving DecidableEq, Repr

/-- `AccountId32`. -/
structure AccountId32 where
  bytes : FixedBytes 32
  deriving DecidableEq, Repr

/-- `From<sr25519::Public> for AccountId32`: the same 32 bytes. -/
def AccountId32.ofPublic (key : Public) : AccountId32 := ⟨key.bytes⟩

theorem AccountId32.ofPublic_injective {k k' : Public} (same : ofPublic k = ofPublic k') :
    k = k' := by
  cases k
  cases k'
  cases same
  rfl

/-- `MultiSigner`. -/
inductive MultiSigner
  | ed25519 (key : FixedBytes 32)
  | sr25519 (key : Public)
  | ecdsa (key : FixedBytes 33)

/-- `MultiSigner::into_account`; an ECDSA key is hashed down to 32 bytes. -/
def MultiSigner.intoAccount (blake2_256 : List UInt8 → FixedBytes 32) : MultiSigner → AccountId32
  | .ed25519 key => ⟨key⟩
  | .sr25519 key => AccountId32.ofPublic key
  | .ecdsa key => ⟨blake2_256 key.bytes⟩

/-- `MultiAddress<AccountId32, ()>`, the runtime's `Address`. -/
inductive MultiAddress
  | id (account : AccountId32)
  | index (index : Unit)
  | raw (bytes : List UInt8)
  | address32 (bytes : FixedBytes 32)
  | address20 (bytes : FixedBytes 20)
  deriving DecidableEq

/-- `MultiSignature`. -/
inductive MultiSignature
  | ed25519 (signature : FixedBytes 64)
  | sr25519 (signature : FixedBytes 64)
  | ecdsa (signature : FixedBytes 65)
  deriving DecidableEq

/-- The sr25519 operations of `sp_core::sr25519::Pair` the client uses. Signing is randomised
in sr25519; a theorem over every `Sr25519` covers whichever signature a run produces. -/
structure Sr25519 (Pair : Type) where
  public : Pair → Public
  sign : Pair → List UInt8 → FixedBytes 64

/-! ### Eras -/

/-- `relay_utils::HeaderId`: a block's number and hash. -/
structure HeaderId (Hash : Type) (bn : UintTy) where
  number : Uint bn
  hash : Hash

/-- `relay_substrate_client::TransactionEra`. -/
inductive TransactionEra (Hash : Type) (bn : UintTy)
  | immortal
  | mortal (header : HeaderId Hash bn) (period : Uint .u32)

/-- `sp_runtime::generic::Era`; the period and the phase are `u64`. -/
inductive Era
  | immortal
  | mortal (period phase : Nat)
  deriving DecidableEq

/-- `Era::mortal(period, current)`: the period rounded up to a power of two within
`[4, 2^16]`, and the phase of `current` in it, quantised to at most 4096 steps. -/
def Era.ofMortal (period current : Nat) : Era :=
  let period := min (max (if period ≤ 2 ^ 63 then period.nextPowerOfTwo else 2 ^ 16) 4) (2 ^ 16)
  let quantizeFactor := max (period / 2 ^ 12) 1
  .mortal period (current % period / quantizeFactor * quantizeFactor)

/-- `u64::trailing_zeros`. -/
def trailingZeros (n : Nat) : Nat := ((List.range 64).takeWhile fun i => !n.testBit i).length

/-- An era encodes as one zero byte when immortal, and otherwise as a `u16` holding the
period's logarithm less one, clamped to `[1, 15]`, in its low four bits and the quantised phase
above them (the `|` of the source joins disjoint bits, so it is a sum). `trailing_zeros() - 1`
is `u32` arithmetic: for an odd period a release build wraps it to `u32::MAX`, which clamps to
15, where a debug build panics; the model follows the release build. -/
instance : Encode Era where
  encode
    | .immortal => [0]
    | .mortal period phase =>
      let quantizeFactor := max (period / 2 ^ 12) 1
      leBytes 2 (min (max ((trailingZeros period + (2 ^ 32 - 1)) % 2 ^ 32) 1) 15 +
        phase / quantizeFactor * 16 % 2 ^ 16)

variable {Hash : Type} {bn : UintTy}

/-- `TransactionEra::frame_era`. -/
def TransactionEra.frameEra : TransactionEra Hash bn → Era
  | .immortal => .immortal
  | .mortal header period => Era.ofMortal period.val header.number.val

/-- `TransactionEra::signed_payload`: the hash the era is checked against. -/
def TransactionEra.signedPayload (genesisHash : Hash) : TransactionEra Hash bn → Hash
  | .immortal => genesisHash
  | .mortal header _ => header.hash

/-! ### Transactions -/

/-- `frame_system::CheckNonZeroSender`; it encodes to nothing. -/
structure CheckNonZeroSender
/-- `frame_system::CheckSpecVersion`; it encodes to nothing. -/
structure CheckSpecVersion
/-- `frame_system::CheckTxVersion`; it encodes to nothing. -/
structure CheckTxVersion
/-- `frame_system::CheckGenesis`; it encodes to nothing. -/
structure CheckGenesis
/-- `frame_system::CheckWeight`; it encodes to nothing. -/
structure CheckWeight

/-- `frame_system::CheckEra`. -/
structure CheckEra where
  era : Era

/-- `frame_system::CheckNonce(#[codec(compact)] T::Index)`. -/
structure CheckNonce (index : UintTy) where
  nonce : Uint index

/-- `pallet_transaction_payment::ChargeTransactionPayment(#[codec(compact)] BalanceOf<T>)`. -/
structure ChargeTransactionPayment (balance : UintTy) where
  tip : Uint balance

instance : Encode CheckNonZeroSender := ⟨fun _ => []⟩
instance : Encode CheckSpecVersion := ⟨fun _ => []⟩
instance : Encode CheckTxVersion := ⟨fun _ => []⟩
instance : Encode CheckGenesis := ⟨fun _ => []⟩
instance : Encode CheckWeight := ⟨fun _ => []⟩
instance : Encode CheckEra := ⟨fun e => encode e.era⟩
instance {index : UintTy} : Encode (CheckNonce index) := ⟨fun e => encodeCompact e.nonce⟩
instance {balance : UintTy} : Encode (ChargeTransactionPayment balance) :=
  ⟨fun e => encodeCompact e.tip⟩

/-- The runtime's `SignedExtra` tuple, in its order: `extra.5` is the nonce check and `extra.7`
the payment. -/
abbrev SignedExtra (index balance : UintTy) : Type :=
  CheckNonZeroSender × CheckSpecVersion × CheckTxVersion × CheckGenesis × CheckEra ×
    CheckNonce index × CheckWeight × ChargeTransactionPayment balance

/-- The data each signed extension adds to the signed payload without sending it. -/
abbrev AdditionalSigned (Hash : Type) : Type :=
  Unit × Uint .u32 × Uint .u32 × Hash × Hash × Unit × Unit × Unit

/-- `bp_runtime::EncodedOrDecodedCall`. -/
inductive EncodedOrDecodedCall (Call : Type)
  | encoded (bytes : List UInt8)
  | decoded (call : Call)

instance {Call : Type} [Encode Call] : Encode (EncodedOrDecodedCall Call) where
  encode
    | .encoded bytes => bytes
    | .decoded call => encode call

/-- `relay_substrate_client::Error`, as far as signing can fail. -/
inductive SubstrateError
  | responseParseFailed
  deriving DecidableEq

/-- `EncodedOrDecodedCall::into_decoded`. -/
def EncodedOrDecodedCall.intoDecoded {Call : Type} (decodeCall : List UInt8 → Option Call) :
    EncodedOrDecodedCall Call → Except SubstrateError Call
  | .encoded bytes => (decodeCall bytes).elim (.error .responseParseFailed) .ok
  | .decoded call => .ok call

/-- `relay_substrate_client::SignParam`. -/
structure SignParam (Hash Pair : Type) where
  specVersion : Uint .u32
  transactionVersion : Uint .u32
  genesisHash : Hash
  signer : Pair

/-- `relay_substrate_client::UnsignedTransaction`. -/
structure UnsignedTransaction (Hash Call : Type) (index balance bn : UintTy) where
  call : EncodedOrDecodedCall Call
  nonce : Uint index
  tip : Uint balance
  era : TransactionEra Hash bn

/-- `UnsignedTransaction::new`: an immortal transaction without tip. -/
def UnsignedTransaction.new {Call : Type} {index balance : UintTy} (call : EncodedOrDecodedCall Call)
    (nonce : Uint index) : UnsignedTransaction Hash Call index balance bn :=
  ⟨call, nonce, ⟨0, Nat.two_pow_pos _⟩, .immortal⟩

/-- `UnsignedTransaction::tip`. -/
def UnsignedTransaction.withTip {Call : Type} {index balance : UintTy}
    (u : UnsignedTransaction Hash Call index balance bn) (tip : Uint balance) :
    UnsignedTransaction Hash Call index balance bn :=
  { u with tip }

/-- `generic::UncheckedExtrinsic`: the call and, when signed, the signer's address, the
signature and the signed extensions. -/
structure UncheckedExtrinsic (Call Extra : Type) where
  signature : Option (MultiAddress × MultiSignature × Extra)
  function : Call

/-- `UncheckedExtrinsic::new_signed`. -/
def UncheckedExtrinsic.newSigned {Call Extra : Type} (function : Call) (signed : MultiAddress)
    (signature : MultiSignature) (extra : Extra) : UncheckedExtrinsic Call Extra :=
  ⟨some (signed, signature, extra), function⟩

/-- `SignedPayload::using_encoded`: a payload longer than 256 bytes is signed through its
`blake2_256` hash. -/
def usingEncoded {P α : Type} [Encode P] (blake2_256 : List UInt8 → FixedBytes 32) (payload : P)
    (f : List UInt8 → α) : α :=
  if 256 < (encode payload).length then f (blake2_256 (encode payload)).bytes
  else f (encode payload)

/-! ### `TransactionSignScheme for Pass3d` -/

section SignScheme

variable {Call Pair : Type} {index balance : UintTy} (keys : Sr25519 Pair)

/-- `Pass3d::is_signed`. -/
def isSigned {Extra : Type} (tx : UncheckedExtrinsic Call Extra) : Bool := tx.signature.isSome

/-- `Pass3d::is_signed_by`: the extrinsic's address is the signer's account. -/
def isSignedBy {Extra : Type} (signer : Pair) (tx : UncheckedExtrinsic Call Extra) : Bool :=
  (tx.signature.map fun s => s.1 == .id (AccountId32.ofPublic (keys.public signer))).getD false

/-- `Pass3d::parse_transaction`: the call, and the nonce and tip read back from the encodings of
`extra.5` and `extra.7`. -/
def parseTransaction (tx : UncheckedExtrinsic Call (SignedExtra index balance)) :
    Option (UnsignedTransaction Hash Call index balance bn) := do
  let (_, _, extra) ← tx.signature
  let (nonce, _) ← decodeCompact index (encode extra.2.2.2.2.2.1)
  let (tip, _) ← decodeCompact balance (encode extra.2.2.2.2.2.2.2)
  return (UnsignedTransaction.new (.decoded tx.function) nonce).withTip tip

/-- The signed extensions `sign_transaction` builds for `unsigned`. -/
def signedExtra (unsigned : UnsignedTransaction Hash Call index balance bn) :
    SignedExtra index balance :=
  (⟨⟩, ⟨⟩, ⟨⟩, ⟨⟩, ⟨unsigned.era.frameEra⟩, ⟨unsigned.nonce⟩, ⟨⟩, ⟨unsigned.tip⟩)

/-- The additional signed data `sign_transaction` builds for `unsigned`. -/
def additionalSigned (param : SignParam Hash Pair)
    (unsigned : UnsignedTransaction Hash Call index balance bn) : AdditionalSigned Hash :=
  ((), param.specVersion, param.transactionVersion, param.genesisHash,
    unsigned.era.signedPayload param.genesisHash, (), (), ())

/-- An extrinsic signed for an account is signed by exactly the key pairs of that account. -/
theorem isSignedBy_newSigned {Extra : Type} (signer : Pair) (call : Call) (key : Public)
    (signature : MultiSignature) (extra : Extra) :
    isSignedBy keys signer (.newSigned call (.id (AccountId32.ofPublic key)) signature extra) =
      true ↔ keys.public signer = key := by
  simp only [isSignedBy, UncheckedExtrinsic.newSigned, Option.map_some', Option.getD_some,
    beq_iff_eq, MultiAddress.id.injEq]
  exact ⟨fun same => (AccountId32.ofPublic_injective same).symm, fun same => same ▸ rfl⟩

/-- `parse_transaction` succeeds exactly on signed extrinsics, and then reads back the values
their nonce and payment extensions hold: each compact encoding decodes to the value encoded. -/
theorem parseTransaction_eq (tx : UncheckedExtrinsic Call (SignedExtra index balance)) :
    (parseTransaction tx : Option (UnsignedTransaction Hash Call index balance bn)) =
      tx.signature.map fun signed =>
        ⟨.decoded tx.function, signed.2.2.2.2.2.2.2.1.nonce, signed.2.2.2.2.2.2.2.2.2.tip,
          .immortal⟩ := by
  obtain ⟨_ | ⟨address, signature, extra⟩, function⟩ := tx
  · rfl
  · have nonce := decodeCompact_encodeCompact extra.2.2.2.2.2.1.nonce []
    have tip := decodeCompact_encodeCompact extra.2.2.2.2.2.2.2.tip []
    rw [List.append_nil] at nonce tip
    simp [parseTransaction, encode, nonce, tip, UnsignedTransaction.new,
      UnsignedTransaction.withTip, bind, Option.bind]

/-- Parsing what `sign_transaction` built: the positions parsing reads are those of the nonce
and the tip in the tuple it built. -/
theorem parseTransaction_newSigned (call : Call) (address : MultiAddress)
    (signature : MultiSignature) (unsigned : UnsignedTransaction Hash Call index balance bn) :
    (parseTransaction (.newSigned call address signature (signedExtra unsigned)) :
        Option (UnsignedTransaction Hash Call index balance bn)) =
      some ⟨.decoded call, unsigned.nonce, unsigned.tip, .immortal⟩ := by
  rw [parseTransaction_eq]
  rfl

/-- **Parsing fails only on unsigned extrinsics.** `parse_transaction` returns `None` exactly
when the extrinsic carries no signature: the nonce and the tip it re-decodes always decode,
whatever their values. -/
theorem parseTransaction_eq_none_iff (tx : UncheckedExtrinsic Call (SignedExtra index balance)) :
    (parseTransaction tx : Option (UnsignedTransaction Hash Call index balance bn)) = none ↔
      isSigned tx = false := by
  rw [parseTransaction_eq]
  cases signature : tx.signature <;> simp [isSigned, signature]

variable [Encode Hash] [Encode Call] (blake2_256 : List UInt8 → FixedBytes 32)

/-- `Pass3d::sign_transaction`: sign the encoded `(call, extra, additional)` payload, then
decode the call into the extrinsic. -/
def signTransaction (decodeCall : List UInt8 → Option Call) (param : SignParam Hash Pair)
    (unsigned : UnsignedTransaction Hash Call index balance bn) :
    Except SubstrateError (UncheckedExtrinsic Call (SignedExtra index balance)) := do
  let rawPayload := (unsigned.call, signedExtra unsigned, additionalSigned param unsigned)
  let signature := usingEncoded blake2_256 rawPayload (keys.sign param.signer)
  let signer := MultiSigner.sr25519 (keys.public param.signer)
  let call ← rawPayload.1.intoDecoded decodeCall
  return .newSigned call (.id (signer.intoAccount blake2_256)) (.sr25519 signature) rawPayload.2.1

/-- Signing a decoded call cannot fail: the extrinsic carries the call, the signer's account,
the signature over the payload and the extensions built from the transaction. -/
theorem signTransaction_decoded (decodeCall : List UInt8 → Option Call)
    (param : SignParam Hash Pair) (unsigned : UnsignedTransaction Hash Call index balance bn)
    {call : Call} (decoded : unsigned.call = .decoded call) :
    signTransaction keys blake2_256 decodeCall param unsigned =
      .ok (.newSigned call (.id (AccountId32.ofPublic (keys.public param.signer)))
        (.sr25519 (usingEncoded blake2_256
          (unsigned.call, signedExtra unsigned, additionalSigned param unsigned)
          (keys.sign param.signer)))
        (signedExtra unsigned)) := by
  simp [signTransaction, decoded, EncodedOrDecodedCall.intoDecoded, MultiSigner.intoAccount]

/-- **Sign, then parse.** For every signing parameter and every transaction with a decoded
call, `sign_transaction` succeeds; the extrinsic is signed, and signed by a key pair exactly
when that pair's public key is the signer's; and `parse_transaction` returns the same call,
nonce and tip. The era is not read back, so the parsed transaction is the original one
exactly when that was immortal. -/
theorem signTransaction_parseTransaction (decodeCall : List UInt8 → Option Call)
    (param : SignParam Hash Pair) (call : Call) (nonce : Uint index) (tip : Uint balance)
    (era : TransactionEra Hash bn) :
    ∃ tx, signTransaction keys blake2_256 decodeCall param ⟨.decoded call, nonce, tip, era⟩ =
        .ok tx ∧
      isSigned tx = true ∧
      (∀ s : Pair, isSignedBy keys s tx = true ↔ keys.public s = keys.public param.signer) ∧
      (parseTransaction tx : Option (UnsignedTransaction Hash Call index balance bn)) =
        some ⟨.decoded call, nonce, tip, .immortal⟩ :=
  ⟨_, signTransaction_decoded keys blake2_256 decodeCall param _ rfl, rfl,
    fun s => isSignedBy_newSigned keys s _ _ _ _, parseTransaction_newSigned _ _ _ _⟩

end SignScheme

/-! ### Account storage -/

/-- An `AccountId32` encodes as its 32 bytes. -/
instance : Encode AccountId32 := ⟨fun account => account.bytes.bytes⟩

/-- `ChainWithBalances::account_info_storage_key`: the final key of `frame_system::Account`, a
`Blake2_128Concat` map, at `account_id`: the hashed pallet and storage prefixes, then the
Blake2-128 digest of the encoded account, then the encoded account itself. -/
def accountInfoStorageKey (twox_128 blake2_128 : List UInt8 → FixedBytes 16)
    (accountId : AccountId32) : List UInt8 :=
  (twox_128 ("System".toUTF8.data.toList)).bytes ++
    (twox_128 ("Account".toUTF8.data.toList)).bytes ++
      ((blake2_128 (encode accountId)).bytes ++ encode accountId)

end Pass3dBridge.Client
