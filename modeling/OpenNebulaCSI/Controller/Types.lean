import OpenNebulaCSI.Go.Strings

/-!
# Data of the controller service

Requests, responses, errors and the records the controller keeps about volumes. Durations and
points in time are integers in nanoseconds.
-/

namespace OpenNebulaCSI.Controller

open Go

def defaultDriverName : String :=
  "csi.opennebula.io"

def annotationPreferredLastNode : String :=
  "storage-provider.opennebula.io/preferred-last-node"

/-- The gRPC status codes the controller answers with. -/
inductive Code where
  | unknown | invalidArgument | notFound | failedPrecondition | resourceExhausted | unimplemented
  | internal | unavailable | deadlineExceeded | aborted | alreadyExists
  deriving DecidableEq

/-- The operation names of the hotplug queue. -/
inductive Operation where
  | attach | detach | reattach
  deriving DecidableEq

def Operation.text : Operation → String
  | .attach => "attach"
  | .detach => "detach"
  | .reattach => "reattach"

/-- The errors the controller code distinguishes by type. -/
inductive GoError where
  | status (code : Code) (message : String)
  | plain (message : String)
  /-- An error that wraps `context.DeadlineExceeded`. -/
  | contextDeadline (message : String)
  | queueTimeout (node : String) (operation : Operation) (volume : String) (timeout : Int)
  | queueActiveTimeout (node : String) (operation : Operation) (volume : String) (timeout : Int)
  | queueStale (node : String) (operation : Operation) (volume reason message : String)
  | queuePaused (node : String) (operation : Operation) (volume reason message : String)
  deriving DecidableEq

/-- The `Error` method. -/
def GoError.message : GoError → String
  | .status _ message | .plain message | .contextDeadline message => message
  | .queueTimeout node operation volume timeout =>
    "timed out after " ++ toString timeout ++ " waiting for hotplug queue on node " ++ node ++
      " for " ++ operation.text ++ " of volume " ++ volume
  | .queueActiveTimeout node operation volume timeout =>
    "timed out after " ++ toString timeout ++ " executing hotplug queue request on node " ++ node ++
      " for " ++ operation.text ++ " of volume " ++ volume
  | .queueStale node operation volume reason message =>
    if message ≠ "" then message
    else
      let text := "stale hotplug queue request for " ++ operation.text ++ " of volume " ++ volume ++
        " on node " ++ node
      if reason ≠ "" then text ++ ": " ++ reason else text
  | .queuePaused node operation volume reason message =>
    if message ≠ "" then message
    else
      let text := "hotplug queue request for " ++ operation.text ++ " of volume " ++ volume ++
        " on node " ++ node ++ " is paused"
      if reason ≠ "" then text ++ ": " ++ reason else text

/-- How a write to the API server ends: with success, with an error and no effect, or with an error
although the server has done it. -/
inductive WriteOutcome where
  | ok
  | lost (err : GoError)
  | unconfirmed (err : GoError)

def WriteOutcome.applied : WriteOutcome → Bool
  | .ok | .unconfirmed _ => true
  | .lost _ => false

def WriteOutcome.err : WriteOutcome → Option GoError
  | .ok => none
  | .lost err | .unconfirmed err => some err

/-- `status.Code`. -/
def GoError.code : GoError → Code
  | .status code _ => code
  | _ => .unknown

/-- `fmt.Errorf` with a text in front of a wrapped error. -/
def GoError.wrap (text : String) : GoError → GoError
  | .contextDeadline message => .contextDeadline (text ++ message)
  | err => .plain (text ++ err.message)

/-- Why a query of OpenNebula or Kubernetes has no answer: the object was looked up and is not
there, the query itself failed, or the object carries metadata the driver rejects. -/
inductive LookupError where
  | notFound (err : GoError)
  | queryFailed (err : GoError)
  | invalidMetadata (err : GoError)
  deriving DecidableEq

def LookupError.err : LookupError → GoError
  | .notFound err | .queryFailed err | .invalidMetadata err => err

/-- The errors of the volume providers that are told apart by type. -/
inductive ProviderError where
  | hostArtifactConflict (err : GoError)
  | datastoreConfig (err : GoError)
  | datastoreCapacity (err : GoError)
  | other (err : GoError)
  deriving DecidableEq

def ProviderError.err : ProviderError → GoError
  | .hostArtifactConflict err | .datastoreConfig err | .datastoreCapacity err | .other err => err

inductive AccessMode where
  | singleNodeWriter | singleNodeReaderOnly | multiNodeReaderOnly | multiNodeSingleWriter
  | multiNodeMultiWriter
  deriving DecidableEq

/-- The access modes of a Kubernetes PersistentVolume. -/
inductive VolumeAccessMode where
  | readWriteOnce | readOnlyMany | readWriteMany | readWriteOncePod
  deriving DecidableEq

/-- `csi.ControllerPublishVolumeRequest`; the capability and its access mode may be missing. -/
structure PublishRequest where
  volumeId : String
  nodeId : String
  volumeCapability : Option (Option AccessMode)
  readonly : Bool
  volumeContext : StringMap
  deriving DecidableEq

structure PublishResponse where
  publishContext : StringMap
  deriving DecidableEq

/-- `csi.ControllerUnpublishVolumeRequest`. -/
structure UnpublishRequest where
  volumeId : String
  nodeId : String
  deriving DecidableEq

/-- `csi.ControllerExpandVolumeRequest`; `requiredBytes` is absent without a capacity range. -/
structure ExpandRequest where
  volumeId : String
  requiredBytes : Option Int
  block : Bool
  deriving DecidableEq

/-- The fields of `VolumeRuntimeContext` the controller reads. -/
structure RuntimeContext where
  pvName : String
  pvcNamespace : String
  pvcName : String
  pvAnnotations : StringMap
  accessModes : List VolumeAccessMode
  backend : String
  datastoreID : Int
  restartMode : String
  detachGraceHint : Int
  deriving DecidableEq

structure StickyAttachmentState where
  volumeID : String
  nodeID : String
  backend : String
  datastoreID : Int
  pvcNamespace : String
  pvcName : String
  startedAt : Int
  expiresAt : Int
  graceSeconds : Int
  reason : String
  lastKnownNodeReady : Bool
  deriving DecidableEq

/-- `opennebula.ObservedAttachment`: a VM disk made from a persistent image. -/
structure ObservedAttachment where
  volumeHandle : String
  imageID : Int
  nodeName : String
  nodeID : Int
  diskID : Int
  backend : String
  deriving DecidableEq

/-- What `hotplugCooldownState` reports about a paused node, with its formatted message. -/
structure Cooldown where
  reason : String
  message : String
  deriving DecidableEq

/-- The fields of a Kubernetes VolumeAttachment the controller reads. -/
structure VolumeAttachment where
  name : String
  pvName : Option String
  nodeName : String
  attached : Bool
  deleting : Bool
  deriving DecidableEq

/-- A node's report of a local volume it could not stage. Times are absent where Go has the zero
time, and the defaults are those of an empty Go value. -/
structure LocalDeviceMissingReport where
  node : String := ""
  volumeID : String := ""
  volumeName : String := ""
  failureClass : String := ""
  devicePath : String := ""
  deviceSerial : String := ""
  openNebulaImageID : String := ""
  fsType : String := ""
  resolvedBy : String := ""
  pvcNamespace : String := ""
  pvcName : String := ""
  pvName : String := ""
  stagingTargetPath : String := ""
  firstObservedAt : Option Int := none
  lastObservedAt : Option Int := none
  attempts : Int := 0
  lastError : String := ""
  recoveryAttempts : Int := 0
  lastRecoveryAt : Option Int := none
  lastRecoveryError : String := ""
  lastRecoveryOutcome : String := ""
  lastRecoverySignature : String := ""
  deriving DecidableEq

inductive VolumePhase where
  | pending | available | bound | released | failed
  deriving DecidableEq

/-- The driver configuration the controller reads. -/
structure Config where
  hotplugQueueEnabled : Bool
  dedupe : Bool
  validatorInstalled : Bool
  maxWait : Int
  ageBoost : Int
  perItemWait : Int
  maxWaitCap : Int
  maxActive : Int
  kubeRuntimeEnabled : Bool
  maintenanceMode : Bool
  sharedFilesystemProvider : Bool
  localRestartOptimization : Bool
  localRestartRequireNodeReady : Bool
  localRestartDetachGraceSeconds : Int
  localRestartDetachGraceMaxSeconds : Int
  maintenanceStickyGraceSeconds : Int
  cephFSExpansion : Bool
  detachedDiskExpansion : Bool
  deriving DecidableEq

/-- The settings of a driver that runs inside a cluster and overrides no default. -/
def defaultConfig : Config where
  hotplugQueueEnabled := true
  dedupe := true
  validatorInstalled := true
  maxWait := 180 * 1000000000
  ageBoost := 30 * 1000000000
  perItemWait := 60 * 1000000000
  maxWaitCap := 900 * 1000000000
  maxActive := 900 * 1000000000
  kubeRuntimeEnabled := true
  maintenanceMode := true
  sharedFilesystemProvider := true
  localRestartOptimization := true
  localRestartRequireNodeReady := true
  localRestartDetachGraceSeconds := 90
  localRestartDetachGraceMaxSeconds := 300
  maintenanceStickyGraceSeconds := 1800
  cephFSExpansion := true
  detachedDiskExpansion := true

def paramPVCName : String :=
  "csi.storage.k8s.io/pvc/name"

def paramPVCNamespace : String :=
  "csi.storage.k8s.io/pvc/namespace"

def paramPVName : String :=
  "csi.storage.k8s.io/pv/name"

def annotationBackend : String :=
  "storage-provider.opennebula.io/backend"

def annotationLastAttachedNode : String :=
  "storage-provider.opennebula.io/last-attached-node"

/-- `restartOptimizationAnnotationValue`. -/
def restartOptimizationValue : String :=
  "sticky-local-restart-v1"

/-- `sharedVolumeIDPrefix`. -/
def sharedVolumeIDStart : String :=
  "cephfs:"

/-- `opennebula.IsSharedFilesystemVolumeID`. -/
def isSharedFilesystemVolumeID (volumeID : String) : Bool :=
  hasPrefix (trimSpace volumeID) sharedVolumeIDStart

def hasSingleWriterAccessMode (modes : List VolumeAccessMode) : Bool :=
  !modes.isEmpty && !modes.any (fun mode => mode = .readWriteMany || mode = .readOnlyMany) &&
    modes.any (fun mode => mode = .readWriteOnce || mode = .readWriteOncePod)

def runtimeContextEligibleForMaintenance (ctx : RuntimeContext) (volumeID : String) : Bool :=
  equalFold (trimSpace ctx.backend) "local" && !isSharedFilesystemVolumeID volumeID &&
    hasSingleWriterAccessMode ctx.accessModes

def effectiveDetachGraceSeconds (cfg : Config) (ctx : RuntimeContext) : Int :=
  let defaultGrace :=
    if cfg.localRestartDetachGraceSeconds ≤ 0 then 90 else cfg.localRestartDetachGraceSeconds
  let maxGrace :=
    if cfg.localRestartDetachGraceMaxSeconds ≤ 0 then 300
    else cfg.localRestartDetachGraceMaxSeconds
  let grace := if 0 < ctx.detachGraceHint then ctx.detachGraceHint else defaultGrace
  let grace := if grace < 30 then 30 else grace
  if maxGrace < grace then maxGrace else grace

end OpenNebulaCSI.Controller
