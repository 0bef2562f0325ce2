import Pass3dBridge.Machine.Uint
import Pass3dBridge.Codec.Scale
import Pass3dBridge.Client.Pass3d
import Pass3dBridge.Client.EraCodec
import Pass3dBridge.Primitives.ChainPass3dt
import Pass3dBridge.Runtime.Parameters
import Pass3dBridge.Runtime.Conversion
import Pass3dBridge.Runtime.Messages
import Pass3dBridge.Relay.Cli
