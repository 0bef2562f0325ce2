import Pass3dBridge.Runtime.Conversion

/-!
# The relay's command line: bridges, lanes and calls

`bin-substrate` describes, for each direction, the message lane the relay serves (which
runtime parameters hold the conversion rates it reads), encodes the calls a user sends through
a bridge (`encode_send_xcm`, `encode_send_message_call`), and initialises a bridge's GRANDPA
pallet (`init-bridge`).

Each chain has one bridge messages pallet, registered under one instance index; any other index
is refused with an error that names it. The indices are defined in the relay's `cli::bridge`
module, the XCM network ids in the runtimes' `xcm_config`, and the Pass3d-side parameter name in
the `bp_pass3d` crate; all three are parameters here.

## Main results

* `encodeSendXcm_eq_error`, `encodeSendMessageCall_eq_error`: each encoder fails exactly on a
  foreign index, with the error that names it.
-/

namespace Pass3dBridge.Relay

/-! ### Calls sent through a bridge -/

/-- The two chains of the bridge. -/
inductive Chain
  | pass3d | pass3dt
  deriving DecidableEq, Repr

/-- The calls the relay encodes for a user, in the chain's `Call` enum: an XCM `send` to the
bridged network's consensus `(Parent, X1(GlobalConsensus(network)))`, or a `send_message` of
the bridge messages pallet. -/
inductive CliCall (NetworkId Xcm : Type) (balance : UintTy)
  | xcmPalletSend (network : NetworkId) (message : Xcm)
  | bridgeMessagesSendMessage (laneId : LaneId) (payload : List UInt8)
      (deliveryAndDispatchFee : Uint balance)

/-- The error `bail!` raises for an instance index the chain has no bridge pallet under. -/
def unsupportedIndex (bridgeInstanceIndex : Uint .u8) : String :=
  "Unsupported target bridge pallet with instance index: " ++ toString bridgeInstanceIndex.val

/-- The `match bridge_instance_index` both encoders of a chain share: the chain's own index
gets the call, any other index the error. -/
def encodeForBridge {α : Type} (ownIndex bridgeInstanceIndex : Uint .u8) (call : α) :
    Except String α :=
  if bridgeInstanceIndex = ownIndex then .ok call else .error (unsupportedIndex bridgeInstanceIndex)

/-- Every refusal of the shared match names the index it refused, and only a foreign index is
refused. -/
theorem encodeForBridge_eq_error {α : Type} (ownIndex bridgeInstanceIndex : Uint .u8) (call : α)
    (message : String) :
    encodeForBridge ownIndex bridgeInstanceIndex call = .error message ↔
      bridgeInstanceIndex ≠ ownIndex ∧ message = unsupportedIndex bridgeInstanceIndex := by
  unfold encodeForBridge
  split
  · next same => simp [same]
  · next other =>
    simp only [Except.error.injEq, ne_eq, other, not_false_eq_true, true_and]
    exact eq_comm

section Encoders

variable {NetworkId Xcm : Type} {balance : UintTy}

/-- `CliEncodeMessage::encode_send_xcm` of the chain whose own bridge index is `ownIndex` and
whose bridged network is `bridgedNetwork`. -/
def encodeSendXcm (ownIndex : Uint .u8) (bridgedNetwork : NetworkId) (message : Xcm)
    (bridgeInstanceIndex : Uint .u8) : Except String (CliCall NetworkId Xcm balance) :=
  encodeForBridge ownIndex bridgeInstanceIndex (.xcmPalletSend bridgedNetwork message)

/-- `CliEncodeMessage::encode_send_message_call` of the chain whose own bridge index is
`ownIndex`. -/
def encodeSendMessageCall (ownIndex : Uint .u8) (lane : LaneId) (payload : List UInt8)
    (fee : Uint balance) (bridgeInstanceIndex : Uint .u8) :
    Except String (CliCall NetworkId Xcm balance) :=
  encodeForBridge ownIndex bridgeInstanceIndex (.bridgeMessagesSendMessage lane payload fee)

/-- `encode_send_xcm` refuses exactly an index other than the chain's own, with the error that
names it. -/
theorem encodeSendXcm_eq_error (ownIndex : Uint .u8) (bridgedNetwork : NetworkId) (message : Xcm)
    (bridgeInstanceIndex : Uint .u8) (error : String) :
    (encodeSendXcm ownIndex bridgedNetwork message bridgeInstanceIndex :
        Except String (CliCall NetworkId Xcm balance)) = .error error ↔
      bridgeInstanceIndex ≠ ownIndex ∧ error = unsupportedIndex bridgeInstanceIndex :=
  encodeForBridge_eq_error _ _ _ _

/-- `encode_send_message_call` refuses exactly an index other than the chain's own, with the
error that names it. -/
theorem encodeSendMessageCall_eq_error (ownIndex : Uint .u8) (lane : LaneId)
    (payload : List UInt8) (fee : Uint balance) (bridgeInstanceIndex : Uint .u8) (error : String) :
    (encodeSendMessageCall ownIndex lane payload fee bridgeInstanceIndex :
        Except String (CliCall NetworkId Xcm balance)) = .error error ↔
      bridgeInstanceIndex ≠ ownIndex ∧ error = unsupportedIndex bridgeInstanceIndex :=
  encodeForBridge_eq_error _ _ _ _

end Encoders

/-! ### Message lanes -/

/-- `SubstrateMessageLane`: one direction of the message bridge as the relay runs it; the names
of the runtime parameters it reads conversion rates and fee multipliers from, and the pallets it
reads transaction payment from. -/
structure SubstrateMessageLane where
  sourceChain : Chain
  targetChain : Chain
  sourceToTargetConversionRateParameterName : Option String
  targetToSourceConversionRateParameterName : Option String
  sourceFeeMultiplierParameterName : Option String
  targetFeeMultiplierParameterName : Option String
  atSourceTransactionPaymentPalletName : Option String
  atTargetTransactionPaymentPalletName : Option String
  deriving DecidableEq, Repr

/-- `bp_pass3dt::PASS3D_TO_PASS3DT_CONVERSION_RATE_PARAMETER_NAME`. -/
def pass3dToPass3dtConversionRateParameterName : String := "Pass3dToPass3dtConversionRate"

section Lanes

-- `bp_pass3d::PASS3DT_TO_PASS3D_CONVERSION_RATE_PARAMETER_NAME`
variable (pass3dtToPass3dConversionRateParameterName : String)

/-- `Pass3dMessagesToPass3dt`. -/
def pass3dMessagesToPass3dt : SubstrateMessageLane where
  sourceChain := .pass3d
  targetChain := .pass3dt
  sourceToTargetConversionRateParameterName := some pass3dToPass3dtConversionRateParameterName
  targetToSourceConversionRateParameterName := some pass3dtToPass3dConversionRateParameterName
  sourceFeeMultiplierParameterName := none
  targetFeeMultiplierParameterName := none
  atSourceTransactionPaymentPalletName := none
  atTargetTransactionPaymentPalletName := none

/-- `Pass3dtMessagesToPass3d`. -/
def pass3dtMessagesToPass3d : SubstrateMessageLane where
  sourceChain := .pass3dt
  targetChain := .pass3d
  sourceToTargetConversionRateParameterName := some pass3dtToPass3dConversionRateParameterName
  targetToSourceConversionRateParameterName := some pass3dToPass3dtConversionRateParameterName
  sourceFeeMultiplierParameterName := none
  targetFeeMultiplierParameterName := none
  atSourceTransactionPaymentPalletName := none
  atTargetTransactionPaymentPalletName := none

end Lanes

/-! ### Conversion rate updates

Each lane's `TargetToSourceChainConversionRateUpdateBuilder` builds, at the lane's source, the
messages pallet's `update_pallet_parameter` call with the target-to-source rate; the pallet
dispatches it by saving the parameter. The relay's `f64` rate becomes a `FixedU128` through
`from_float` before the call is built; the model starts from that `FixedU128`. -/

/-- `Pass3dMessagesToPass3dtUpdateConversionRateCallBuilder::build_update_conversion_rate_call`:
the Pass3d runtime's `Pass3dtToPass3dConversionRate` parameter. -/
def Pass3dMessagesToPass3dtUpdateConversionRateCallBuilder.buildUpdateConversionRateCall
    (conversionRate : FixedU128) : Pass3dRuntime.Pass3dToPass3dtMessagesParameter :=
  .pass3dtToPass3dConversionRate conversionRate

/-- `Pass3dtMessagesToPass3dUpdateConversionRateCallBuilder::build_update_conversion_rate_call`:
the Pass3dt runtime's `Pass3dToPass3dtConversionRate` parameter. -/
def Pass3dtMessagesToPass3dUpdateConversionRateCallBuilder.buildUpdateConversionRateCall
    (conversionRate : FixedU128) : Pass3dtRuntime.Pass3dtToPass3dMessagesParameter :=
  .pass3dToPass3dtConversionRate conversionRate

/-! ### `init-bridge` -/

/-- `InitBridgeName`: the bridges `init-bridge` initialises. -/
inductive InitBridgeName
  | millauToRialto | rialtoToMillau | westendToMillau | millauToRialtoParachain
  | pass3dtToPass3d | pass3dToPass3dt
  deriving DecidableEq, Repr

/-- The call `encode_init_bridge` submits at the target chain: the bridge GRANDPA pallet's
`initialize`, possibly wrapped in `sudo`. -/
inductive InitCall (InitData : Type)
  | grandpaInit (initData : InitData)
  | sudo (call : InitCall InitData)

/-- `BridgeInitializer::encode_init_bridge` of each bridge. Westend to Millau goes without
`sudo`: Rialto to Millau is initialised through Millau's single sudo account too, and the two
transactions could clash on its nonce. -/
def encodeInitBridge {InitData : Type} : InitBridgeName → InitData → InitCall InitData
  | .millauToRialto, initData => .sudo (.grandpaInit initData)
  | .millauToRialtoParachain, initData => .sudo (.grandpaInit initData)
  | .rialtoToMillau, initData => .sudo (.grandpaInit initData)
  | .westendToMillau, initData => .grandpaInit initData
  | .pass3dtToPass3d, initData => .sudo (.grandpaInit initData)
  | .pass3dToPass3dt, initData => .sudo (.grandpaInit initData)

end Pass3dBridge.Relay
