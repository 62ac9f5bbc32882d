import Mabinogion.Bacnet.SegmentInterleaving
import Mabinogion.Bacnet.ApduLimit
import Mabinogion.Bacnet.PropertyLists
import Mabinogion.Bacnet.DecoderSafety
import Mabinogion.Bacnet.LogRanges
import Mabinogion.Bacnet.PropertyWrites
import Mabinogion.Bacnet.ObjectNames
import Mabinogion.Bacnet.WriteService
import Mabinogion.Bacnet.CovInvariant
import Mabinogion.Bacnet.Npdu
import Mabinogion.Bacnet.BbmdInvariant
import Mabinogion.Knx.ReceiveSafety
import Mabinogion.Knx.SequenceRaces
import Mabinogion.Knx.Backpressure
import Mabinogion.Knx.CacheCoherence
import Mabinogion.Modbus.RtuReceive
import Mabinogion.Modbus.DenseSafety
import Mabinogion.Modbus.ExceptionFrame
import Mabinogion.Modbus.PathAgreement
import Mabinogion.Modbus.BatchProcessor
import Mabinogion.Opcua.DecoderSafety
import Mabinogion.Opcua.SecureChannel
import Mabinogion.Opcua.ClientHandles
import Mabinogion.Opcua.PublishDelivery
import Mabinogion.Knx.CircuitBreaker
import Mabinogion.Knx.BusTiming
import Mabinogion.Modbus.MaskWrites
import Mabinogion.Bacnet.CovFlags
import Mabinogion.Modbus.WordOrder
import Mabinogion.Modbus.StreamingRtu
import Mabinogion.Modbus.TcpServer
import Mabinogion.Chaos.Bandwidth
import Mabinogion.Opcua.TypeHierarchy
import Mabinogion.Opcua.NodeStore
