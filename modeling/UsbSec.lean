import UsbSec.Library.Program
import UsbSec.Library.Machine
import UsbSec.Library.Fifo
import UsbSec.Library.Buffer
import UsbSec.Library.Channel
import UsbSec.Library.Region
import UsbSec.Library.Progress
import UsbSec.Library.Log
import UsbSec.Debug
import UsbSec.Messages.Message
import UsbSec.Usb.Types
import UsbSec.Usb.Configuration
import UsbSec.Rp2040.Endpoint
import UsbSec.Rp2040.Dcd
import UsbSec.Device.State
import UsbSec.Device.Drivers
import UsbSec.Device.Events
import UsbSec.Device.Irq
import UsbSec.Device.Branches
import UsbSec.Device.SetAddress
import UsbSec.Device.EndpointPolicy
import UsbSec.Device.Wired
import UsbSec.Device.Payloads
import UsbSec.Device.ControlStages
import UsbSec.Device.StorageInterfaces
import UsbSec.Device.MassStorage
import UsbSec.Device.StorageHandlers
import UsbSec.Device.StorageIrq
import UsbSec.Device.StorageTraffic
import UsbSec.Rp2040.Frame
import UsbSec.Rp2040.Allocator
import UsbSec.Rp2040.Registers
import UsbSec.Rp2040.Arming
import UsbSec.Rp2040.Exchange
import UsbSec.Rp2040.Hcd
import UsbSec.Host.Events
import UsbSec.Host.Irq
import UsbSec.Host.Epx
import UsbSec.Host.Pool
import UsbSec.Host.Known
import UsbSec.Device.Frame
import UsbSec.Device.Logs
import UsbSec.Device.Tables
import UsbSec.Device.KeyboardBan
import UsbSec.Rp2040.Unarmed
import UsbSec.Device.Silence
import UsbSec.Device.TableCoherence
import UsbSec.Device.Responses
import UsbSec.Device.SetupExchange
import UsbSec.Device.Interpretation
import UsbSec.Device.StaleBytes
import UsbSec.Device.ResponseSize
import UsbSec.Device.Outbox
import UsbSec.Device.Announced
import UsbSec.Device.BufferPass
import UsbSec.Host.Frame
import UsbSec.Host.Logs
import UsbSec.Host.Messages
import UsbSec.Host.ControlRead
import UsbSec.Host.Stages
import UsbSec.Host.ControlTransfer
import UsbSec.Host.DataRead
import UsbSec.Host.BulkService
import UsbSec.Host.BulkTransfer
import UsbSec.Host.BulkTask
import UsbSec.Host.ReadToggle
import UsbSec.Link.SpiData
import UsbSec.Link.Sync
import UsbSec.Link.Delivery
import UsbSec.Link.ReadyPin
import UsbSec.Link.Progress
import UsbSec.Link.SharedBuffer
import UsbSec.System.TwoCores
import UsbSec.System.Refinement
import UsbSec.System.Projection
import UsbSec.System.QueueRoom
import UsbSec.System.WellFormed
import UsbSec.System.OpenedEndpoints
import UsbSec.System.Requests
import UsbSec.System.Replies
import UsbSec.System.Silence
import UsbSec.Device.Allocation
import UsbSec.Device.ReadConfiguration
import UsbSec.Device.Reread
import UsbSec.Device.ConfigurationWalk
import UsbSec.Device.DescriptorWalk
import UsbSec.Host.Reread
import UsbSec.Host.TransferAddress
import UsbSec.Host.DeviceAddress
import UsbSec.Host.FreeSlot
import UsbSec.Host.Charge
import UsbSec.Host.Accounting
import UsbSec.Host.CompletionLength
import UsbSec.Host.Packets
import UsbSec.Host.TransferToggle
import UsbSec.Host.WriteTransfer
import UsbSec.System.Reread
import UsbSec.Rp2040.NextBuffer
import UsbSec.Rp2040.Delivery
import UsbSec.Rp2040.Transfers
import UsbSec.System.BufferWord
import UsbSec.System.BulkTraffic
import UsbSec.System.BulkPhases
import UsbSec.System.StorageLoop
import UsbSec.System.StorageErrand
import UsbSec.System.StoragePhases
import UsbSec.System.StorageCommands
import UsbSec.Device.Housing
import UsbSec.Library.Observation
import UsbSec.Device.Handover
import UsbSec.Library.Mailbox
import UsbSec.System.Reads
