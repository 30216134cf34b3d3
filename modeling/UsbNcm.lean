import UsbNcm.Adapter.Link
import UsbNcm.Adapter.ReceiveFilter
import UsbNcm.Adapter.RxBuffers
import UsbNcm.Adapter.RxConcurrent
import UsbNcm.Adapter.RxContents
import UsbNcm.Adapter.RxDelivery
import UsbNcm.Adapter.RxFill
import UsbNcm.Adapter.RxFrames
import UsbNcm.Adapter.RxIsolation
import UsbNcm.Adapter.RxLastFrame
import UsbNcm.Adapter.RxNotification
import UsbNcm.Adapter.RxReceived
import UsbNcm.Adapter.RxSettled
import UsbNcm.Adapter.RxTermination
import UsbNcm.Adapter.TxFewest
import UsbNcm.Adapter.TxNullEntry
import UsbNcm.Adapter.TxProgress
import UsbNcm.Adapter.TxQueue
import UsbNcm.Adapter.TxRuns
import UsbNcm.Adapter.TxSent
import UsbNcm.Adapter.TxSequence
import UsbNcm.Bus.Addresses
import UsbNcm.Bus.Agreement
import UsbNcm.Bus.Connected
import UsbNcm.Bus.Conservation
import UsbNcm.Bus.DataPath
import UsbNcm.Bus.Delivery
import UsbNcm.Bus.EndToEnd
import UsbNcm.Bus.InterruptPipe
import UsbNcm.Bus.LinkState
import UsbNcm.Bus.StartUp
import UsbNcm.Bus.Transfers
import UsbNcm.Function.AdapterCalls
import UsbNcm.Function.AdapterState
import UsbNcm.Function.Atomicity
import UsbNcm.Function.CdcMacAddress
import UsbNcm.Function.CreatedAdapter
import UsbNcm.Function.Device
import UsbNcm.Function.DeviceSpec
import UsbNcm.Function.InputSize
import UsbNcm.Function.LinkChanges
import UsbNcm.Function.Negotiation
import UsbNcm.Function.PnpCycles
import UsbNcm.Function.ReceiveBuffers
import UsbNcm.Function.ReportedParameters
import UsbNcm.Function.Reset
import UsbNcm.Function.Transmit
import UsbNcm.Function.TransmitRequests
import UsbNcm.Host.Completion
import UsbNcm.Host.Configuration
import UsbNcm.Host.Descriptors
import UsbNcm.Host.Lifecycle
import UsbNcm.Host.MacAddress
import UsbNcm.Host.PipeHandles
import UsbNcm.Host.PipeRuns
import UsbNcm.Host.Pipes
import UsbNcm.Host.ReceiveMemories
import UsbNcm.Host.Transmit
import UsbNcm.Host.TransmitRequests
import UsbNcm.Lib.Greedy
import UsbNcm.Lib.Ledger
import UsbNcm.Lib.Packets
import UsbNcm.Lib.Run
import UsbNcm.MacNumber
import UsbNcm.MacString
import UsbNcm.Ntb.Carries
import UsbNcm.Ntb.Construct
import UsbNcm.Ntb.Disclosure
import UsbNcm.Ntb.Layout
import UsbNcm.Ntb.LayoutInvariant
import UsbNcm.Ntb.Length
import UsbNcm.Ntb.OmittedLength
import UsbNcm.Ntb.Packing
import UsbNcm.Ntb.Parse
import UsbNcm.Ntb.ParserReads
import UsbNcm.Ntb.ParserWidths
import UsbNcm.Ntb.Reserve
import UsbNcm.Ntb.RoundTrip
import UsbNcm.Ntb.WellFormed
import UsbNcm.PacketData
import UsbNcm.Parameters
import UsbNcm.RingCollection
