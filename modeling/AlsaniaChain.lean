import AlsaniaChain.Library.FiniteMap
import AlsaniaChain.Library.BigEndian
import AlsaniaChain.Library.Text
import AlsaniaChain.Library.Serde
import AlsaniaChain.Library.Reach
import AlsaniaChain.Library.BinarySearch
import AlsaniaChain.Library.PerThing
import AlsaniaChain.Primitives
import AlsaniaChain.Token.AlscToken
import AlsaniaChain.Runtime.AssetConversion
import AlsaniaChain.Runtime.Precompiles
import AlsaniaChain.Runtime.Governance
import AlsaniaChain.Runtime.Fees
import AlsaniaChain.Pallets.Template
import AlsaniaChain.Xcm.Location
import AlsaniaChain.Xcm.Reserves
import AlsaniaChain.Xcm.Currency
import AlsaniaChain.Xcm.OriginConversion
import AlsaniaChain.Node.Abi
import AlsaniaChain.Node.Contracts
import AlsaniaChain.Node.Genesis
import AlsaniaChain.Node.Command
import AlsaniaChain.Fuzzer.CallFilter
import AlsaniaChain.Fuzzer.Driver
