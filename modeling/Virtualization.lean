import Virtualization.Address.Allocation
import Virtualization.Address.Bound
import Virtualization.Address.LabelRun
import Virtualization.Attachment.Conflict
import Virtualization.Class.Exclusive
import Virtualization.Dvcr.Cleaner
import Virtualization.Dvcr.CollectionRun
import Virtualization.Dvcr.Cycle
import Virtualization.Dvcr.Labels
import Virtualization.Dvcr.Publish
import Virtualization.Machine.InterfaceIDs
import Virtualization.Machine.Isolation
import Virtualization.Machine.LiveResize
import Virtualization.Machine.MetadataRun
import Virtualization.Machine.NodeAffinity
import Virtualization.Machine.Provision
import Virtualization.Migration.Round
import Virtualization.Migration.SlotLeak
import Virtualization.Operation.Evacuation
import Virtualization.Operation.GC
import Virtualization.Operation.InFlight
import Virtualization.Operation.ProgressRun
import Virtualization.Operation.Signal
import Virtualization.Operation.SyncPowerState
import Virtualization.Operation.Takeover
import Virtualization.Pool.BootRun
import Virtualization.Pool.Incarnation
import Virtualization.Pool.Leftover
import Virtualization.Pool.Pruning
import Virtualization.Pool.Revision
import Virtualization.Pool.ScaleDown
import Virtualization.Pool.ScaleDownWith
import Virtualization.Pool.ScaleUp
import Virtualization.Reservation.Exclusion
import Virtualization.Restore.Networks
import Virtualization.Route.Routes
import Virtualization.Usb.Gateway
import Virtualization.Usb.StoreLeak
import Virtualization.Usb.Uevent
import Virtualization.Usb.Vhci
import Virtualization.Usb.Capacity
import Virtualization.Volume.Import
import Virtualization.Volume.RebindComplete
