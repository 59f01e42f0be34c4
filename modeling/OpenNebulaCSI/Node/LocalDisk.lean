import OpenNebulaCSI.Concurrency.Pool
import OpenNebulaCSI.Node.Sessions

/-!
# The node service for local disks

Staging and publishing of disk volumes, their inverses, and the recovery of a stale mount, which a
request for the statistics of a volume sets off. Each of them keeps the session file of the volume
up to date by loading it, changing it and saving it, and none of them takes a lock for that.

The session files are the state of the machine `localDiskService`. The mount table, the devices,
the Kubernetes API and the outcome of mount commands are decided by the outside world at every call.
Metrics, events, the reports about missing devices, the time a device is waited for and the sizes in
an answer are left out.
-/

namespace OpenNebulaCSI.Node.LocalDisk

open Go Concurrency Controller

/-! ## Sessions -/

structure LocalDiskPublishedTarget where
  targetPath : String
  mountOptions : List String
  deriving DecidableEq

structure LocalDiskSession where
  volumeID : String
  volumeName : String
  stagingTargetPath : String
  devicePath : String
  deviceSerial : String
  openNebulaImageID : String
  fsType : String
  stageMountOptions : List String
  pvcNamespace : String
  pvcName : String
  pvName : String
  publishedTargets : List LocalDiskPublishedTarget
  lastRecoveredAt : Option Int
  lastRecoveryError : String
  recoveryAttempts : Int
  deriving DecidableEq

/-- Replace the target of the same path, or add it at the end. -/
def upsertTarget (targets : List LocalDiskPublishedTarget) (target : LocalDiskPublishedTarget) :
    List LocalDiskPublishedTarget :=
  let replaced := targets.map fun existing =>
    if existing.targetPath = target.targetPath then target else existing
  if targets.any fun existing => existing.targetPath = target.targetPath then replaced
  else replaced ++ [target]

/-- The body of the loop of `normalizeLocalDiskPublishedTargets`: a path keeps its first place and
takes the options that were listed last. -/
def normalizeStep (normalized : List LocalDiskPublishedTarget) (target : LocalDiskPublishedTarget) :
    List LocalDiskPublishedTarget :=
  let targetPath := trimSpace target.targetPath
  if targetPath = "" then normalized
  else upsertTarget normalized { targetPath, mountOptions := uniqueStrings target.mountOptions }

def normalizeLocalDiskPublishedTargets (targets : List LocalDiskPublishedTarget) :
    List LocalDiskPublishedTarget :=
  targets.foldl normalizeStep []

namespace LocalDiskSession

variable (session : LocalDiskSession)

/-- The session with its lists in the form in which it is stored and read. -/
def normalize : LocalDiskSession :=
  { session with
    stageMountOptions := uniqueStrings session.stageMountOptions
    publishedTargets := normalizeLocalDiskPublishedTargets session.publishedTargets }

/-- What `updateLocalDiskPublishedTarget` makes of a session. -/
def withTarget (targetPath : String) (options : List String) : LocalDiskSession :=
  { session with
    publishedTargets :=
      upsertTarget session.publishedTargets { targetPath, mountOptions := options } }

/-- What `removeLocalDiskPublishedTarget` makes of a session. -/
def withoutTarget (targetPath : String) : LocalDiskSession :=
  { session with
    publishedTargets := session.publishedTargets.filter fun target =>
      target.targetPath ≠ targetPath }

end LocalDiskSession

/-- The session files by the trimmed id of their volume; two volumes with one file name would need a
collision of SHA-256. -/
abbrev SessionStore :=
  List (String × LocalDiskSession)

namespace SessionStore

variable (store : SessionStore)

def load (volumeID : String) : Option LocalDiskSession :=
  (store.lookup (trimSpace volumeID)).map LocalDiskSession.normalize

def delete (volumeID : String) : SessionStore :=
  store.filter fun entry => entry.1 ≠ trimSpace volumeID

def save (session : LocalDiskSession) : SessionStore :=
  (trimSpace session.volumeID, session.normalize) :: SessionStore.delete store session.volumeID

/-- The target paths that the session of a volume lists. -/
def targets (volumeID : String) : List String :=
  ((load store volumeID).map fun session =>
    session.publishedTargets.map (·.targetPath)).getD []

end SessionStore

/-! ## Requests -/

/-- The access type of a volume capability, with what a mount asks for. -/
inductive AccessType where
  | unset | block
  | mount (flags : List String) (fsType : String)
  deriving DecidableEq

/-- The access mode is absent if it is missing or `UNKNOWN`. -/
structure VolumeCapability where
  accessType : AccessType
  accessMode : Option AccessMode
  deriving DecidableEq

/-- `csi.NodeStageVolumeRequest`. -/
structure NodeStageRequest where
  volumeId : String
  stagingTargetPath : String
  volumeCapability : Option VolumeCapability
  publishContext : StringMap
  deriving DecidableEq

/-- `csi.NodeUnstageVolumeRequest`. -/
structure NodeUnstageRequest where
  volumeId : String
  stagingTargetPath : String
  deriving DecidableEq

/-- `csi.NodePublishVolumeRequest`. -/
structure NodePublishRequest where
  volumeId : String
  stagingTargetPath : String
  targetPath : String
  volumeCapability : Option VolumeCapability
  readonly : Bool
  publishContext : StringMap
  deriving DecidableEq

/-- `csi.NodeUnpublishVolumeRequest`. -/
structure NodeUnpublishRequest where
  volumeId : String
  targetPath : String
  deriving DecidableEq

/-- `csi.NodeGetVolumeStatsRequest`. -/
structure NodeGetVolumeStatsRequest where
  volumeId : String
  volumePath : String
  deriving DecidableEq

def isSharedFilesystemRequest (volumeID : String) (publishContext : StringMap) : Bool :=
  isSharedFilesystemVolumeID volumeID || trimSpace (publishContext.get "shareBackend") ≠ ""

/-- The errors of a file system call that the code tells apart. -/
inductive Errno where
  | enoent | eio | enodev | enxio
  | other
  deriving DecidableEq

structure PathError where
  errno : Errno
  message : String
  deriving DecidableEq

def PathError.isNotExist (err : PathError) : Bool :=
  err.errno = .enoent

def isStaleLocalDiskPathError (err : PathError) : Bool :=
  err.errno ∈ [.eio, .enodev, .enxio] ||
    let lower := String.ofList (err.message.toList.map Char.toLower)
    contains lower "input/output error" || contains lower "no such device" ||
      contains lower "transport endpoint is not connected"

structure LocalDiskMountHealth where
  stale : Bool
  mountSource : String
  message : String
  deriving DecidableEq

/-- The settings of the node service. -/
structure Config where
  kubeRuntime : Bool
  localRWOStaleMountRecovery : Bool
  localRWOActivePodRecovery : Bool
  /-- The configured number of attempts and seconds of back-off, if there are any. -/
  maxAttempts : Option Int
  backoffSeconds : Option Int
  deriving DecidableEq

def localRWORecoveryMaxAttempts (cfg : Config) : Int :=
  match cfg.maxAttempts with
  | some attempts => if attempts ≤ 0 then 3 else attempts
  | none => 3

def second : Int :=
  1000000000

def localRWORecoveryBackoff (cfg : Config) : Int :=
  match cfg.backoffSeconds with
  | some seconds => if seconds ≤ 0 then 10 * second else seconds * second
  | none => 10 * second

/-- `Duration.Round` of a positive duration to whole seconds. -/
def roundToSecond (duration : Int) : Int :=
  let rest := duration % second
  if rest + rest < second then duration - rest else duration + (second - rest)

/-! ## Calls -/

inductive Op where
  /-- `os.Stat`; the answer says whether the path is a directory. -/
  | stat (path : String)
  | statfs (path : String)
  | getBlockVolumeSize (path : String)
  | listMounts
  | mkdirAll (path : String)
  | createFile (path : String)
  /-- `mount.CleanupMountPoint`: unmount the path and remove its directory. -/
  | cleanupMountPoint (path : String)
  | formatAndMount (device path fsType : String) (options : List String)
  | mount (source target fsType : String) (options : List String)
  | resolveDevice (volume name : String) (publishContext : StringMap)
  /-- `Invalidate` of the device resolver. -/
  | invalidateDevice (volume : String)
  | deviceMatchesSerial (device serial : String)
  | podUIDExists (uid : String)
  | now
  | loadSession (volume : String)
  | saveSession (session : LocalDiskSession)
  | deleteSession (volume : String)
  /-- The request is answered. -/
  | respond (result : Option GoError)
  deriving DecidableEq

@[reducible]
def Op.Answer : Op → Type
  | .stat _ => Except PathError Bool
  | .statfs _ => Option PathError
  | .listMounts => Except GoError (List MountPoint)
  | .resolveDevice _ _ _ => Except GoError String
  | .deviceMatchesSerial _ _ => Bool
  | .podUIDExists _ => Except GoError Bool
  | .now => Int
  | .loadSession _ => Except GoError (Option LocalDiskSession)
  | .getBlockVolumeSize _ | .mkdirAll _ | .createFile _ | .cleanupMountPoint _
  | .formatAndMount _ _ _ _ | .mount _ _ _ _ | .saveSession _ | .deleteSession _ => Option GoError
  | .invalidateDevice _ | .respond _ => Unit

abbrev Prog :=
  Program Op Op.Answer

abbrev History :=
  List (Event Op Op.Answer)

abbrev perform (op : Op) : Prog op.Answer :=
  Program.perform op

/-! ## Session files -/

/-- Save a session; an error is only logged. -/
def recordLocalDiskSession (session : LocalDiskSession) : Prog Unit := do
  let _ ← perform (.saveSession session)
  return ()

/-- The session of a stage request, before the targets of an earlier session are taken over. -/
def stageSession (req : NodeStageRequest) (devicePath fsType : String)
    (mountOptions : List String) : LocalDiskSession where
  volumeID := req.volumeId
  volumeName := trimSpace (req.publishContext.get "volumeName")
  stagingTargetPath := req.stagingTargetPath
  devicePath
  deviceSerial := trimSpace (req.publishContext.get "deviceSerial")
  openNebulaImageID := trimSpace (req.publishContext.get "opennebulaImageID")
  fsType
  stageMountOptions := mountOptions
  pvcNamespace := trimSpace (req.publishContext.get paramPVCNamespace)
  pvcName := trimSpace (req.publishContext.get paramPVCName)
  pvName := trimSpace (req.publishContext.get paramPVName)
  publishedTargets := []
  lastRecoveredAt := none
  lastRecoveryError := ""
  recoveryAttempts := 0

def recordLocalDiskStageSession (req : NodeStageRequest) (devicePath fsType : String)
    (mountOptions : List String) : Prog Unit := do
  let session := stageSession req devicePath fsType mountOptions
  match ← perform (.loadSession session.volumeID) with
  | .ok (some existing) =>
    recordLocalDiskSession { session with publishedTargets := existing.publishedTargets }
  | _ => recordLocalDiskSession session

def updateLocalDiskPublishedTarget (volumeID targetPath : String) (options : List String) :
    Prog Unit := do
  if trimSpace volumeID = "" then return ()
  else
    match ← perform (.loadSession volumeID) with
    | .ok (some session) => recordLocalDiskSession (session.withTarget targetPath options)
    | _ => return ()

def removeLocalDiskPublishedTarget (volumeID targetPath : String) : Prog Unit := do
  if trimSpace volumeID = "" then return ()
  else
    match ← perform (.loadSession volumeID) with
    | .ok (some session) => recordLocalDiskSession (session.withoutTarget targetPath)
    | _ => return ()

/-! ## The state of a mount -/

/-- The first mount at a path. -/
def mountPointForPath (mountPoints : List MountPoint) (path : String) : Option MountPoint :=
  mountPoints.find? fun mountPoint => mountPoint.path = path

/-- Whether the device of a mount has the serial that the session of the volume names. -/
def evaluateSerial (volumeID : String) (mountPoint : MountPoint) :
    Prog LocalDiskMountHealth := do
  let healthy : LocalDiskMountHealth :=
    { stale := false, mountSource := mountPoint.device, message := "" }
  match ← perform (.loadSession volumeID) with
  | .ok (some session) => do
      if session.deviceSerial = "" then return healthy
      else if ← perform (.deviceMatchesSerial mountPoint.device session.deviceSerial) then
        return healthy
      else
        return { stale := true, mountSource := mountPoint.device
                 message := "mount source serial does not match expected volume serial" }
  | _ => return healthy

/-- The part of `evaluateLocalDiskPath` about a mount. -/
def evaluateMount (volumeID : String) (mountPoint : MountPoint) :
    Prog (Except GoError LocalDiskMountHealth) := do
  if mountPoint.device = "" then
    return .ok { stale := true, mountSource := "", message := "mount point has no source device" }
  else if hasPrefix mountPoint.device "/dev/" then do
    match ← perform (.stat mountPoint.device) with
    | .error err =>
      if err.isNotExist || isStaleLocalDiskPathError err then
        return .ok { stale := true, mountSource := mountPoint.device, message := err.message }
      else return .error (.plain err.message)
    | .ok _ => do
        let health ← evaluateSerial volumeID mountPoint
        return .ok health
  else return .ok { stale := false, mountSource := mountPoint.device, message := "" }

def evaluateLocalDiskPath (volumeID path : String) :
    Prog (Except GoError LocalDiskMountHealth) := do
  if trimSpace path = "" then return .error (.plain "path is required")
  else
    match ← perform (.stat path) with
    | .error err =>
      if isStaleLocalDiskPathError err then
        return .ok { stale := true, mountSource := "", message := err.message }
      else return .error (.plain err.message)
    | .ok _ => do
        match ← perform .listMounts with
        | .error err => return .error err
        | .ok mountPoints =>
          match mountPointForPath mountPoints path with
          | none => return .ok { stale := false, mountSource := "", message := "" }
          | some mountPoint => evaluateMount volumeID mountPoint

/-! ## Staging -/

def defaultFSType : String :=
  "ext4"

def VolumeCapability.fsType (capability : VolumeCapability) : String :=
  match capability.accessType with
  | .mount _ fsType => if fsType = "" then defaultFSType else fsType
  | _ => defaultFSType

def VolumeCapability.stageFlags (capability : VolumeCapability) : List String :=
  let flags := match capability.accessType with
    | .mount flags _ => flags
    | _ => []
  if capability.accessMode = some .multiNodeReaderOnly then flags ++ ["ro"] else flags

/-- `checkMountPoint` supports mounts and block devices. -/
def VolumeCapability.supported (capability : VolumeCapability) : Bool :=
  capability.accessType ≠ .unset

def unsupportedCapability : GoError :=
  .status .failedPrecondition "volume capability is not supported by the volume"

/-- Format the device and mount it at the staging path. -/
def mountStage (req : NodeStageRequest) (capability : VolumeCapability) (devicePath : String) :
    Prog (Option GoError) := do
  match ← perform (.formatAndMount devicePath req.stagingTargetPath capability.fsType
      capability.stageFlags) with
  | some err => do
      perform (.invalidateDevice req.volumeId)
      return some (.status .internal ("failed to format and mount volume: " ++ err.message))
  | none => do
      recordLocalDiskStageSession req devicePath capability.fsType capability.stageFlags
      return none

/-- The part of `NodeStageVolume` for a staging path at which nothing is mounted. -/
def stageUnmounted (req : NodeStageRequest) (capability : VolumeCapability) (devicePath : String) :
    Prog (Option GoError) := do
  if !capability.supported then return some unsupportedCapability
  else
    match ← perform (.stat req.stagingTargetPath) with
    | .error err =>
      if err.isNotExist then do
        match ← perform (.mkdirAll req.stagingTargetPath) with
        | some err =>
          return some (.status .internal ("failed to create staging target path " ++
            req.stagingTargetPath ++ ": " ++ err.message))
        | none => mountStage req capability devicePath
      else mountStage req capability devicePath
    | .ok _ => mountStage req capability devicePath

/-- The part of `NodeStageVolume` for a staging path at which something is mounted. -/
def stageOverMount (cfg : Config) (req : NodeStageRequest) (capability : VolumeCapability)
    (devicePath : String) (mounted : MountPoint) : Prog (Option GoError) := do
  match ← evaluateLocalDiskPath req.volumeId req.stagingTargetPath with
  | .error _ =>
    return some (.status .internal "failed to evaluate local disk stage mount health")
  | .ok health => do
      if health.stale ∨ mounted.device ≠ devicePath then do
        let message :=
          if health.message = "" then
            "stage is mounted from unexpected source \"" ++ health.mountSource ++ "\""
          else health.message
        if !cfg.localRWOStaleMountRecovery then
          return some (.status .failedPrecondition ("stale local disk stage detected at " ++
            req.stagingTargetPath ++ ": " ++ message))
        else
          match ← perform (.cleanupMountPoint req.stagingTargetPath) with
          | some err =>
            return some (.status .failedPrecondition
              ("failed to cleanup stale local disk stage " ++ req.stagingTargetPath ++ ": " ++
                err.message))
          | none => stageUnmounted req capability devicePath
      else if !capability.supported then return some unsupportedCapability
      else do
        recordLocalDiskStageSession req devicePath capability.fsType capability.stageFlags
        return none

/-- The part of `NodeStageVolume` after the device has been found. -/
def stageDevice (cfg : Config) (req : NodeStageRequest) (capability : VolumeCapability)
    (devicePath : String) : Prog (Option GoError) := do
  if capability.accessMode = none then
    return some (.status .invalidArgument "access mode is required")
  else
    match ← perform .listMounts with
    | .error _ => return some (.status .internal "failed to check mount point")
    | .ok mountPoints =>
      match mountPointForPath mountPoints req.stagingTargetPath with
      | some mounted => stageOverMount cfg req capability devicePath mounted
      | none => stageUnmounted req capability devicePath

def nodeStageVolume (cfg : Config) (req : NodeStageRequest) : Prog (Option GoError) := do
  if req.volumeId = "" then return some (.status .invalidArgument "volume ID is required")
  else if req.stagingTargetPath = "" then
    return some (.status .invalidArgument "staging target path is required")
  else
    match req.volumeCapability with
    | none => return some (.status .invalidArgument "volume capability is required")
    | some capability => do
        -- A block device is not mounted here, and it gets no session.
        if capability.accessType = .block then return none
        else if req.publishContext.get "volumeName" = "" then
          return some (.status .invalidArgument "[volumeName] entry is required in volume context")
        else
          match ← perform (.resolveDevice req.volumeId (req.publishContext.get "volumeName")
              req.publishContext) with
          | .error err => return some (.status .deadlineExceeded err.message)
          | .ok devicePath => stageDevice cfg req capability devicePath

def nodeUnstageVolume (req : NodeUnstageRequest) : Prog (Option GoError) := do
  if req.volumeId = "" then return some (.status .invalidArgument "volume ID is required")
  else if req.stagingTargetPath = "" then
    return some (.status .invalidArgument "staging target path is required")
  else do
    perform (.invalidateDevice req.volumeId)
    let _ ← perform (.deleteSession req.volumeId)
    match ← perform (.cleanupMountPoint req.stagingTargetPath) with
    | some _ =>
      return some (.status .internal "failed to cleanup mount point of staging target path")
    | none => return none

/-! ## Publishing -/

/-- The error a failed publish is answered with. -/
def publishFailure : GoError → GoError
  | .status code message => .status code message
  | _ => .status .internal "failed to publish volume"

def handleBlockVolumePublish (devicePath targetPath : String) (options : List String) :
    Prog (Option GoError) := do
  match ← perform .listMounts with
  | .error err =>
    return some (err.wrap "failed to check mount point: failed to list mount points: ")
  | .ok mountPoints => do
      let mounted := mountPointForPath mountPoints targetPath
      if mounted.any fun mountPoint => mountPoint.device = devicePath then return none
      else do
        let mountDevice : Prog (Option GoError) := do
          match ← perform (.mount devicePath targetPath "" options) with
          | some err => return some (err.wrap "failed to mount device at target path: ")
          | none => return none
        match ← perform (.stat targetPath) with
        | .error err =>
          if err.isNotExist then do
            match ← perform (.createFile targetPath) with
            | some err => return some (err.wrap "failed to create target path file: ")
            | none => mountDevice
          else mountDevice
        | .ok _ => mountDevice

def handleMountVolumePublish (stagingPath targetPath : String) (flags : List String)
    (fsType : String) (options : List String) : Prog (Option GoError) := do
  match ← perform .listMounts with
  | .error err =>
    return some (err.wrap "failed to check mount point: failed to list mount points: ")
  | .ok mountPoints => do
      if (mountPointForPath mountPoints targetPath).isSome then do
        match ← evaluateLocalDiskPath "" targetPath with
        | .ok health =>
          if health.stale then
            return some (.status .failedPrecondition ("stale local disk target detected at " ++
              targetPath ++ ": " ++ health.message))
          else return none
        | .error _ => return none
      else do
        match ← perform (.mount stagingPath targetPath fsType (options ++ flags)) with
        | some _ =>
          return some (.status .internal "failed to mount file system volume at target path")
        | none => return none

def bindOptions (readonly : Bool) : List String :=
  if readonly then ["bind", "ro"] else ["bind"]

/-- The part of `NodePublishVolume` after the directory of the target exists. -/
def publishTarget (req : NodePublishRequest) (capability : VolumeCapability) :
    Prog (Option GoError) := do
  match capability.accessType with
  | .block =>
    match ← perform (.resolveDevice req.volumeId (req.publishContext.get "volumeName")
        req.publishContext) with
    | .error err => return some (.status .deadlineExceeded err.message)
    | .ok devicePath => do
        match ← handleBlockVolumePublish devicePath req.targetPath (bindOptions req.readonly) with
        | some err => return some (publishFailure err)
        | none => return none
  | .mount flags _ =>
    match ← handleMountVolumePublish req.stagingTargetPath req.targetPath flags capability.fsType
        (bindOptions req.readonly) with
    | some err => return some (publishFailure err)
    | none => do
        updateLocalDiskPublishedTarget req.volumeId req.targetPath (bindOptions req.readonly)
        return none
  | .unset =>
    return some (.status .invalidArgument "unsupported access type for volume capability")

def nodePublishVolume (req : NodePublishRequest) : Prog (Option GoError) := do
  if req.volumeId = "" then return some (.status .invalidArgument "volume ID is required")
  else if req.stagingTargetPath = "" then
    return some (.status .invalidArgument "staging target path is required")
  else if req.targetPath = "" then return some (.status .invalidArgument "target path is required")
  else
    match req.volumeCapability with
    | none => return some (.status .invalidArgument "volume capability is required")
    | some capability => do
        if req.publishContext.get "volumeName" = "" then
          return some (.status .invalidArgument "volueName is required in volume context")
        else do
          let targetDir :=
            if capability.accessType = .block then Path.dir req.targetPath else req.targetPath
          match ← perform (.stat targetDir) with
          | .error err =>
            if err.isNotExist then do
              match ← perform (.mkdirAll targetDir) with
              | some err =>
                return some (.status .internal ("failed to create target path " ++ targetDir ++
                  ": " ++ err.message))
              | none => publishTarget req capability
            else publishTarget req capability
          | .ok _ => publishTarget req capability

/-- `NodeUnpublishVolume` for a local disk. -/
def nodeUnpublishVolume (req : NodeUnpublishRequest) : Prog (Option GoError) := do
  if req.volumeId = "" then return some (.status .invalidArgument "volume ID is required")
  else if req.targetPath = "" then return some (.status .invalidArgument "target path is required")
  else
    match ← perform (.cleanupMountPoint req.targetPath) with
    | some err =>
      return some (.status .internal ("failed to unmount volume at target path " ++
        req.targetPath ++ ": " ++ err.message))
    | none => do
        removeLocalDiskPublishedTarget req.volumeId req.targetPath
        return none

/-! ## Recovery -/

/-- `podUIDExists`: an error of the Kubernetes API counts as absence. -/
def podUIDExists (cfg : Config) (uid : String) : Prog Bool := do
  if !cfg.kubeRuntime then return false
  else
    match ← perform (.podUIDExists uid) with
    | .error _ => return false
    | .ok found => return found

/-- The first target whose pod still exists. -/
def activeTarget? (cfg : Config) : List LocalDiskPublishedTarget → Prog (Option String)
  | [] => return none
  | target :: rest => do
      let podUID := podUIDFromKubeletPath target.targetPath
      if podUID = "" then activeTarget? cfg rest
      else if ← podUIDExists cfg podUID then return some target.targetPath
      else activeTarget? cfg rest

def recordLocalDiskRecoveryFailure (session : LocalDiskSession) (err : GoError) :
    Prog (Option GoError) := do
  let now ← perform .now
  recordLocalDiskSession { session with
    recoveryAttempts := session.recoveryAttempts + 1
    lastRecoveryError := err.message
    lastRecoveredAt := some now }
  return some err

def resolveLocalDiskRecoveryDevice (session : LocalDiskSession) : Prog (Except GoError String) := do
  let publishContext : StringMap :=
    (if session.deviceSerial = "" then [] else [("deviceSerial", session.deviceSerial)]) ++
      if session.openNebulaImageID = "" then []
      else [("opennebulaImageID", session.openNebulaImageID)]
  let volumeName := if session.volumeName = "" then session.devicePath else session.volumeName
  match ← perform (.resolveDevice session.volumeID volumeName publishContext) with
  | .error err => return .error err
  | .ok devicePath => do
      if session.deviceSerial = "" then return .ok devicePath
      else if ← perform (.deviceMatchesSerial devicePath session.deviceSerial) then
        return .ok devicePath
      else
        return .error (.plain ("resolved device " ++ devicePath ++
          " does not match expected serial " ++ session.deviceSerial))

/-- Unmount the stale targets. -/
def cleanupTargets : List LocalDiskPublishedTarget → Prog (Option GoError)
  | [] => return none
  | target :: rest => do
      match ← perform (.cleanupMountPoint target.targetPath) with
      | some err =>
        return some (err.wrap ("failed to cleanup stale target " ++ target.targetPath ++ ": "))
      | none => cleanupTargets rest

/-- Bind the targets to the stage that has been mounted again. -/
def rebindTargets (stagingTargetPath : String) :
    List LocalDiskPublishedTarget → Prog (Option GoError)
  | [] => return none
  | target :: rest => do
      match ← perform (.mkdirAll target.targetPath) with
      | some err =>
        return some (err.wrap ("failed to recreate target " ++ target.targetPath ++ ": "))
      | none => do
          match ← perform (.mount stagingTargetPath target.targetPath ""
              (uniqueStrings ("bind" :: target.mountOptions))) with
          | some err =>
            return some (err.wrap ("failed to rebind recovered stage to " ++ target.targetPath ++
              ": "))
          | none => rebindTargets stagingTargetPath rest

/-- Mount the stage from the device and bind the targets. -/
def remountStage (session : LocalDiskSession) (devicePath : String) : Prog (Option GoError) := do
  match ← cleanupTargets session.publishedTargets with
  | some err => return some err
  | none => do
      match ← perform (.cleanupMountPoint session.stagingTargetPath) with
      | some err =>
        return some (err.wrap ("failed to cleanup stale stage " ++ session.stagingTargetPath ++
          ": "))
      | none => do
          match ← perform (.mkdirAll session.stagingTargetPath) with
          | some err => return some err
          | none => do
              let fsType :=
                if trimSpace session.fsType = "" then defaultFSType else trimSpace session.fsType
              match ← perform (.formatAndMount devicePath session.stagingTargetPath fsType
                  session.stageMountOptions) with
              | some err =>
                return some (err.wrap ("failed to remount recovered device " ++ devicePath ++
                  " at " ++ session.stagingTargetPath ++ ": "))
              | none => rebindTargets session.stagingTargetPath session.publishedTargets

/-- The part of `recoverLocalDiskSession` that acts. -/
def attemptRecovery (session : LocalDiskSession) : Prog (Option GoError) := do
  match ← resolveLocalDiskRecoveryDevice session with
  | .error err => recordLocalDiskRecoveryFailure session err
  | .ok devicePath => do
      match ← remountStage session devicePath with
      | some err => recordLocalDiskRecoveryFailure session err
      | none => do
          let now ← perform .now
          recordLocalDiskSession { session with
            devicePath
            lastRecoveredAt := some now
            lastRecoveryError := ""
            recoveryAttempts := session.recoveryAttempts + 1 }
          return none

/-- The part of `recoverLocalDiskSession` after the check for active pods. -/
def recoverWithinLimits (cfg : Config) (session : LocalDiskSession) : Prog (Option GoError) := do
  if localRWORecoveryMaxAttempts cfg ≤ session.recoveryAttempts then
    return some (.plain ("local RWO recovery attempts exhausted for volume " ++ session.volumeID))
  else
    match session.lastRecoveredAt with
    | some last => do
        if session.lastRecoveryError = "" then attemptRecovery session
        else do
          let now ← perform .now
          let wait := localRWORecoveryBackoff cfg - (now - last)
          if 0 < wait then
            return some (.plain ("local RWO recovery for volume " ++ session.volumeID ++
              " is backing off for " ++ toString (roundToSecond wait) ++ " after prior failure"))
          else attemptRecovery session
    | none => attemptRecovery session

def recoverLocalDiskSession (cfg : Config) (session : LocalDiskSession) :
    Prog (Option GoError) := do
  if !cfg.localRWOStaleMountRecovery then
    return some (.plain "local RWO stale mount recovery is disabled")
  else if cfg.localRWOActivePodRecovery then recoverWithinLimits cfg session
  else
    match ← activeTarget? cfg session.publishedTargets with
    | some targetPath =>
      return some (.plain ("active-pod local RWO recovery is disabled for target " ++ targetPath))
    | none => recoverWithinLimits cfg session

def handleStaleLocalDiskPath (cfg : Config) (volumeID volumePath : String) (cause : PathError) :
    Prog (Option GoError) := do
  let detected := "stale local disk mount detected at " ++ volumePath
  match ← perform (.loadSession volumeID) with
  | .ok (some session) => do
      if !cfg.localRWOStaleMountRecovery then
        return some (.status .failedPrecondition (detected ++ ": " ++ cause.message ++
          "; local RWO stale mount recovery is disabled"))
      else
        match ← recoverLocalDiskSession cfg session with
        | some err =>
          return some (.status .failedPrecondition (detected ++ " and recovery failed: " ++
            err.message))
        | none =>
          return some (.status .failedPrecondition (detected ++
            "; recovery completed and kubelet should retry stats"))
  | _ =>
    return some (.status .failedPrecondition (detected ++ ": " ++ cause.message ++
      "; restage the volume to recover"))

/-- `NodeGetVolumeStats` for a local disk. -/
def nodeGetVolumeStats (cfg : Config) (req : NodeGetVolumeStatsRequest) :
    Prog (Option GoError) := do
  if req.volumeId = "" then return some (.status .invalidArgument "volume ID is required")
  else if req.volumePath = "" then return some (.status .invalidArgument "volume path is required")
  else
    match ← perform (.stat req.volumePath) with
    | .error err => do
        if err.isNotExist then
          return some (.status .notFound ("volume path " ++ req.volumePath ++ " was not found"))
        else if isStaleLocalDiskPathError err then
          handleStaleLocalDiskPath cfg req.volumeId req.volumePath err
        else
          return some (.status .internal ("failed to stat volume path " ++ req.volumePath ++ ": " ++
            err.message))
    | .ok true => do
        match ← perform (.statfs req.volumePath) with
        | some err => do
            if isStaleLocalDiskPathError err then
              handleStaleLocalDiskPath cfg req.volumeId req.volumePath err
            else
              return some (.status .internal ("failed to collect filesystem stats for " ++
                req.volumePath ++ ": " ++ err.message))
        | none => return none
    | .ok false => do
        match ← perform (.getBlockVolumeSize req.volumePath) with
        | some err =>
          return some (.status .internal ("failed to collect block volume stats for " ++
            req.volumePath ++ ": " ++ err.message))
        | none => return none

/-! ## The machine -/

/-- What goroutines of the node service run. -/
inductive Kind where
  | stage (req : NodeStageRequest)
  | unstage (req : NodeUnstageRequest)
  | publish (req : NodePublishRequest)
  | unpublish (req : NodeUnpublishRequest)
  | volumeStats (req : NodeGetVolumeStatsRequest)
  deriving DecidableEq

/-- Requests of shared filesystem volumes are handled elsewhere. -/
def Kind.isLocalDisk : Kind → Bool
  | .stage req => !isSharedFilesystemRequest req.volumeId req.publishContext
  | .publish req => !isSharedFilesystemRequest req.volumeId req.publishContext
  | .unstage req => !isSharedFilesystemVolumeID req.volumeId
  | .unpublish req => !isSharedFilesystemVolumeID req.volumeId
  | .volumeStats req => !isSharedFilesystemVolumeID req.volumeId

def Kind.handler (cfg : Config) : Kind → Prog (Option GoError)
  | .stage req => nodeStageVolume cfg req
  | .unstage req => nodeUnstageVolume req
  | .publish req => nodePublishVolume req
  | .unpublish req => nodeUnpublishVolume req
  | .volumeStats req => nodeGetVolumeStats cfg req

def Kind.program (cfg : Config) (kind : Kind) : Prog (Option GoError) := do
  let result ← kind.handler cfg
  perform (.respond result)
  return result

/-- What the outside world decides about one call. -/
structure Oracle where
  /-- An error of a call that may fail without effect. -/
  error : Option GoError
  pathError : Option PathError
  mounts : List MountPoint
  device : String
  yes : Bool
  now : Int

/-- An answer that is an error if the outside world says so. -/
def Oracle.answer {α : Type} (oracle : Oracle) (value : α) : Except GoError α :=
  match oracle.error with
  | some err => .error err
  | none => .ok value

/-- How a call is answered, over the session files. -/
def act (oracle : Oracle) (sessions : SessionStore) : (op : Op) → op.Answer × SessionStore
  | .stat _ =>
    (match oracle.pathError with
      | some err => .error err
      | none => .ok oracle.yes, sessions)
  | .statfs _ => (oracle.pathError, sessions)
  | .listMounts => (oracle.answer oracle.mounts, sessions)
  | .resolveDevice _ _ _ => (oracle.answer oracle.device, sessions)
  | .deviceMatchesSerial _ _ => (oracle.yes, sessions)
  | .podUIDExists _ => (oracle.answer oracle.yes, sessions)
  | .now => (oracle.now, sessions)
  | .loadSession volume => (oracle.answer (sessions.load volume), sessions)
  | .saveSession session =>
    if trimSpace session.volumeID = "" then
      (some (.plain "local disk session is missing volume ID"), sessions)
    else
      match oracle.error with
      | some err => (some err, sessions)
      | none => (none, sessions.save session)
  | .deleteSession volume =>
    match oracle.error with
    | some err => (some err, sessions)
    | none => (none, sessions.delete volume)
  | .getBlockVolumeSize _ | .mkdirAll _ | .createFile _ | .cleanupMountPoint _
  | .formatAndMount _ _ _ _ | .mount _ _ _ _ => (oracle.error, sessions)
  | .invalidateDevice _ | .respond _ => ((), sessions)

/-- The node service of local disks. Nothing but its own calls changes the session files. -/
def localDiskService (cfg : Config) :
    Machine Op Op.Answer Kind (Option GoError) SessionStore Oracle Empty where
  start sessions kind :=
    if kind.isLocalDisk then some (kind.program cfg, sessions) else none
  act oracle sessions _ op := some (act oracle sessions op)
  change c _ := nomatch c

abbrev LocalDiskPool :=
  Pool Op Op.Answer Kind (Option GoError) SessionStore

abbrev LocalDiskStep :=
  Label Kind Oracle Empty

/-- A node without session files. -/
def Fresh (sessions : SessionStore) : Prop :=
  sessions = []

abbrev Reachable (cfg : Config) (ok : LocalDiskPool → LocalDiskStep → Prop) :
    LocalDiskPool → Prop :=
  (localDiskService cfg).Reachable Fresh ok

end OpenNebulaCSI.Node.LocalDisk
