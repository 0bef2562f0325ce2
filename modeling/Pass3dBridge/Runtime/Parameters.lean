import Pass3dBridge.Machine.Uint

/-!
# The runtimes' bridge parameters

Each runtime keeps two `parameter_types!` storage items about the other chain: the rate at which
the other chain's tokens convert to its own, and the other chain's fee multiplier. Both are
`FixedU128` and read as their initial value, one, until first set. The messages pallet updates
them through `MessagesParameter::save`, whose parameter enum has a single variant: the
conversion rate. The fee multiplier has a getter and no setter.
-/

namespace Pass3dBridge

/-- `sp_arithmetic::FixedU128`: an unsigned fixed-point number, stored as its multiple of
`DIV`. -/
structure FixedU128 where
  inner : Uint .u128
  deriving DecidableEq, Repr

/-- `FixedU128::DIV`, the inner value of one: eighteen decimals. -/
def FixedU128.DIV : Nat := 10 ^ 18

/-! ### The Pass3d runtime -/

namespace Pass3dRuntime

/-- `INITIAL_PASS3DT_TO_PASS3D_CONVERSION_RATE`: one. -/
def initialPass3dtToPass3dConversionRate : FixedU128 := ⟨⟨FixedU128.DIV, by decide⟩⟩

/-- `INITIAL_PASS3DT_FEE_MULTIPLIER`: one. -/
def initialPass3dtFeeMultiplier : FixedU128 := ⟨⟨FixedU128.DIV, by decide⟩⟩

/-- The runtime's `parameter_types!` storage of its Pass3dt bridge; an item is `none` until
first set. -/
structure Storage where
  pass3dtToPass3dConversionRate : Option FixedU128
  pass3dtFeeMultiplier : Option FixedU128
  deriving DecidableEq, Repr

/-- The storage at genesis: nothing set. -/
def Storage.genesis : Storage := ⟨none, none⟩

/-- `Pass3dtToPass3dConversionRate::get`. -/
def Pass3dtToPass3dConversionRate.get (storage : Storage) : FixedU128 :=
  storage.pass3dtToPass3dConversionRate.getD initialPass3dtToPass3dConversionRate

/-- `Pass3dtToPass3dConversionRate::set`. -/
def Pass3dtToPass3dConversionRate.set (conversionRate : FixedU128) (storage : Storage) :
    Storage :=
  { storage with pass3dtToPass3dConversionRate := some conversionRate }

/-- `Pass3dtFeeMultiplier::get`. -/
def Pass3dtFeeMultiplier.get (storage : Storage) : FixedU128 :=
  storage.pass3dtFeeMultiplier.getD initialPass3dtFeeMultiplier

/-- `Pass3dToPass3dtMessagesParameter`, the runtime's messages pallet parameter. The conversion
formula is `Pass3dTokens = Pass3dtTokens * conversion_rate`. -/
inductive Pass3dToPass3dtMessagesParameter
  | pass3dtToPass3dConversionRate (conversionRate : FixedU128)

/-- `MessagesParameter::save`. -/
def Pass3dToPass3dtMessagesParameter.save : Pass3dToPass3dtMessagesParameter → Storage → Storage
  | .pass3dtToPass3dConversionRate conversionRate => Pass3dtToPass3dConversionRate.set conversionRate

end Pass3dRuntime

/-! ### The Pass3dt runtime -/

namespace Pass3dtRuntime

/-- `INITIAL_PASS3D_TO_PASS3DT_CONVERSION_RATE`: one. -/
def initialPass3dToPass3dtConversionRate : FixedU128 := ⟨⟨FixedU128.DIV, by decide⟩⟩

/-- `INITIAL_PASS3D_FEE_MULTIPLIER`: one. -/
def initialPass3dFeeMultiplier : FixedU128 := ⟨⟨FixedU128.DIV, by decide⟩⟩

/-- The runtime's `parameter_types!` storage of its Pass3d bridge; an item is `none` until
first set. -/
structure Storage where
  pass3dToPass3dtConversionRate : Option FixedU128
  pass3dFeeMultiplier : Option FixedU128
  deriving DecidableEq, Repr

/-- The storage at genesis: nothing set. -/
def Storage.genesis : Storage := ⟨none, none⟩

/-- `Pass3dToPass3dtConversionRate::get`. -/
def Pass3dToPass3dtConversionRate.get (storage : Storage) : FixedU128 :=
  storage.pass3dToPass3dtConversionRate.getD initialPass3dToPass3dtConversionRate

/-- `Pass3dToPass3dtConversionRate::set`. -/
def Pass3dToPass3dtConversionRate.set (conversionRate : FixedU128) (storage : Storage) :
    Storage :=
  { storage with pass3dToPass3dtConversionRate := some conversionRate }

/-- `Pass3dFeeMultiplier::get`. -/
def Pass3dFeeMultiplier.get (storage : Storage) : FixedU128 :=
  storage.pass3dFeeMultiplier.getD initialPass3dFeeMultiplier

/-- `Pass3dtToPass3dMessagesParameter`, the runtime's messages pallet parameter. The conversion
formula is `Pass3dtTokens = Pass3dTokens * conversion_rate`. -/
inductive Pass3dtToPass3dMessagesParameter
  | pass3dToPass3dtConversionRate (conversionRate : FixedU128)

/-- `MessagesParameter::save`. -/
def Pass3dtToPass3dMessagesParameter.save : Pass3dtToPass3dMessagesParameter → Storage → Storage
  | .pass3dToPass3dtConversionRate conversionRate => Pass3dToPass3dtConversionRate.set conversionRate

end Pass3dtRuntime

end Pass3dBridge
