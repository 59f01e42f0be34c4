import OpenNebulaCSI.Controller.LockRequests
import OpenNebulaCSI.Controller.ConfirmedDetach
import OpenNebulaCSI.Controller.PublishResponse
import OpenNebulaCSI.Reconciler.StaleAttachments
import OpenNebulaCSI.Reconciler.GraceTimes
import OpenNebulaCSI.Node.PublishedTargets
import OpenNebulaCSI.Node.RecordedTargets
import OpenNebulaCSI.Node.ReportedAbsence
import OpenNebulaCSI.Node.TargetOwnership
import OpenNebulaCSI.Node.DeviceSerials
import OpenNebulaCSI.Sticky.Replicas
import OpenNebulaCSI.Quarantine.MetadataDrift
import OpenNebulaCSI.Quarantine.PausedNodes
import OpenNebulaCSI.Queue.Coalescing
import OpenNebulaCSI.Queue.Snapshots
import OpenNebulaCSI.Provider.SharedPaths
import OpenNebulaCSI.Provider.Deletion
import OpenNebulaCSI.Provider.HotplugDiagnosis
import OpenNebulaCSI.Provider.DiskTargets
import OpenNebulaCSI.Inventory.ResourceNames
import OpenNebulaCSI.Controller.CreateVolume
import OpenNebulaCSI.Maintenance.Mode
import OpenNebulaCSI.Webhook.Patches
import OpenNebulaCSI.Provider.SnapshotPages
