import OpenNebulaCSI.Concurrency.Pool
import OpenNebulaCSI.Node.Sessions

/-!
# The node service for shared filesystem volumes

Staging, publishing and their inverses for CephFS volumes, and the recovery manager, which keeps the
session store in step with the mount table and mounts broken stages anew. All of them are programs
over the calls they make; `nodeService` is the machine in which they run concurrently.

The manager is one goroutine, so it is busy while it makes a pass or recovers a volume. The mount
table, the session files, the locks and the manager's queue are the state. Everything else (the
Kubernetes API, the file system, the outcome of mount commands) is decided by the outside world, and
the mount table may also change by itself. Metrics, log lines and the time of the last logged
failure are left out, and so is the bookkeeping of test mounts.
-/

namespace OpenNebulaCSI.Node

open Go Concurrency Controller

/-- Which code lists the mounts: the seeding of sessions, or a check of one path. -/
inductive MountReader where
  | seed
  | check
  deriving DecidableEq

/-- The fields of `SharedVolumeMetadata` a session is made from. -/
structure SharedVolumeMetadata where
  datastoreID : Int
  fsName : String
  subpath : String
  deriving DecidableEq

/-- The fields of a CephFS datastore a session is made from. -/
structure CephFSDatastore where
  monitors : List String
  mountOptions : List String
  deriving DecidableEq

inductive Op where
  | acquire (key : String)
  | release (key : String)
  | listMounts (reader : MountReader)
  /-- `mount.CleanupMountPoint`: unmount the path and remove its directory. -/
  | cleanupMountPoint (path : String)
  | bindMount (source target : String) (options : List String)
  /-- The command that mounts a stage, with its arguments. -/
  | mountStage (command : String) (args : List String) (path : String)
  | isLikelyNotMountPoint (path : String)
  /-- `os.Stat`; the answer is its error. -/
  | stat (path : String)
  /-- Whether `os.Stat` says that there is no such file. -/
  | isNotExist (path : String)
  | readDir (path : String)
  | mkdirAll (path : String)
  | removeAll (path : String)
  | ensureCredentials (path userID userKey : String)
  | ensureCephConf (path : String)
  | kernelSupported
  | lookPath (command : String)
  | userIDFromKeyring (path : String)
  | decodeSharedVolumeID (volume : String)
  | resolveDatastore (id : Int)
  | loadSession (volume : String)
  | saveSession (session : SharedFilesystemSession)
  | deleteSession (volume : String)
  | listSessions
  | podUIDExists (uid : String)
  | resolveVolumeRuntimeContext (volume : String)
  | enqueue (volume : String)
  /-- The end of a pass of the manager, or of the recovery of a volume. -/
  | idle (recovered : Option String)

@[reducible]
def Op.Answer : Op → Type
  | .listMounts _ => Except GoError (List MountPoint)
  | .isLikelyNotMountPoint _ | .podUIDExists _ => Except GoError Bool
  | .isNotExist _ => Bool
  | .userIDFromKeyring _ => String
  | .decodeSharedVolumeID _ => Except GoError SharedVolumeMetadata
  | .resolveDatastore _ => Except GoError CephFSDatastore
  | .loadSession _ => Except GoError (Option SharedFilesystemSession)
  | .listSessions => Except GoError (List SharedFilesystemSession)
  | .resolveVolumeRuntimeContext _ => Except GoError Unit
  | .ensureCephConf _ => Except GoError String
  | .cleanupMountPoint _ | .bindMount _ _ _ | .mountStage _ _ _ | .stat _ | .readDir _ | .mkdirAll _
  | .ensureCredentials _ _ _ | .kernelSupported | .lookPath _ | .saveSession _
  | .deleteSession _ => Option GoError
  | .acquire _ | .release _ | .removeAll _ | .enqueue _ | .idle _ => Unit

abbrev Prog :=
  Program Op Op.Answer

abbrev History :=
  List (Event Op Op.Answer)

abbrev perform (op : Op) : Prog op.Answer :=
  Program.perform op

/-- The settings of the node service. -/
structure Config where
  kubeRuntime : Bool
  cephFSKernelMounts : Bool
  cephFSSelfHealing : Bool
  deriving DecidableEq

/-- `acquireSharedFilesystemOperationLock`, around the rest of the function. -/
def withVolumeLock {α : Type} (volumeID : String) (body : Prog α) : Prog α := do
  let key := "sharedfs:" ++ trimSpace volumeID
  perform (.acquire key)
  let result ← body
  perform (.release key)
  return result

/-! ## Mounting -/

/-- `mountCleanup`. -/
def mountCleanup (stagingTargetPath : String) : Prog (Option GoError) := do
  match ← perform (.cleanupMountPoint stagingTargetPath) with
  | some _ =>
    return some (.status .internal "failed to cleanup mount point of staging target path")
  | none => return none

def mountSharedFilesystemFuse (session : SharedFilesystemSession) : Prog (Option GoError) := do
  match ← perform (.ensureCephConf session.stagingTargetPath) with
  | .error err => return some err
  | .ok confPath => do
      let args := [session.stagingTargetPath, "-c", confPath, "-m", joinWith "," session.monitors,
        "--id", session.userID, "-k", session.keyringPath, "--client_mountpoint", session.subpath,
        "--client_fs", session.fsName]
      let args :=
        if session.stageMountOptions = [] then args
        else args ++ ["-o", joinWith "," (uniqueStrings session.stageMountOptions)]
      match ← perform (.mountStage "ceph-fuse" args session.stagingTargetPath) with
      | some err =>
        return some (.status .internal ("failed to mount CephFS volume: " ++ trimSpace err.message))
      | none => return none

def mountSharedFilesystemKernel (cfg : Config) (session : SharedFilesystemSession) :
    Prog (Option GoError) := do
  if !cfg.cephFSKernelMounts then
    return some (.status .failedPrecondition
      "CephFS kernel mounts require feature gate cephfsKernelMounts=true")
  else
    match ← perform .kernelSupported with
    | some err =>
      return some (.status .failedPrecondition
        ("CephFS kernel mount prerequisites failed: " ++ err.message))
    | none => do
        match ← perform (.lookPath "mount.ceph") with
        | some err =>
          return some (.status .failedPrecondition
            ("mount.ceph helper is not available in PATH: " ++ err.message))
        | none => do
            if trimSpace session.secretFilePath = "" then
              return some (.status .failedPrecondition
                "CephFS kernel mounts require a secretfile path")
            else do
              let device := session.userID ++ "@." ++ session.fsName ++ "=" ++ session.subpath
              let options := ["mon_addr=" ++ joinWith "/" (uniqueStrings session.monitors),
                "secretfile=" ++ session.secretFilePath] ++ uniqueStrings session.stageMountOptions
              let args := ["-t", "ceph", device, session.stagingTargetPath, "-o",
                joinWith "," options]
              match ← perform (.mountStage "mount" args session.stagingTargetPath) with
              | some err =>
                return some (.status .internal
                  ("failed to mount CephFS volume with kernel client: " ++ trimSpace err.message))
              | none => return none

def mountSharedFilesystemSession (cfg : Config) (session : SharedFilesystemSession) :
    Prog (Option GoError) := do
  -- `ensureSharedFilesystemStagePath`
  if trimSpace session.stagingTargetPath = "" then
    return some (.status .invalidArgument "staging target path is required")
  else
    match ← perform (.mkdirAll (trimSpace session.stagingTargetPath)) with
    | some err =>
      return some (.status .internal ("failed to create staging target path " ++
        trimSpace session.stagingTargetPath ++ ": " ++ err.message))
    | none =>
      match session.mounter with
      | .kernel => mountSharedFilesystemKernel cfg session
      | .fuse => mountSharedFilesystemFuse session
      | .other name =>
        return some (.status .invalidArgument ("unsupported CephFS mounter \"" ++ name ++ "\""))

/-- The part of `publishSharedFilesystemTarget` after the target path exists. -/
def bindSharedFilesystemTarget (stagingTargetPath targetPath : String)
    (mountOptions : List String) :
    Prog (Option GoError) := do
  match ← perform (.listMounts .check) with
  | .error err => return some (err.wrap "failed to list mount points: ")
  | .ok mountPoints => do
      if targetIsMountPoint mountPoints targetPath then do
        match ← perform (.stat targetPath) with
        | some err =>
          if isDisconnectedSharedFilesystemError err then
            return some (.status .failedPrecondition
              ("stale CephFS target detected at " ++ targetPath ++ ": " ++ err.message))
          else return none
        | none => return none
      else do
        match ← perform (.bindMount stagingTargetPath targetPath
            ("bind" :: uniqueStrings mountOptions)) with
        | some err =>
          return some (err.wrap ("failed to bind shared filesystem target " ++ targetPath ++ ": "))
        | none => return none

def publishSharedFilesystemTarget (stagingTargetPath : String)
    (target : SharedFilesystemPublishedTarget) : Prog (Option GoError) := do
  let targetPath := trimSpace target.targetPath
  if stagingTargetPath = "" ∨ targetPath = "" then
    return some (.status .invalidArgument "staging target path and target path are required")
  else if ← perform (.isNotExist targetPath) then do
    match ← perform (.mkdirAll targetPath) with
    | some err =>
      return some (.status .internal
        ("failed to create target path " ++ targetPath ++ ": " ++ err.message))
    | none => bindSharedFilesystemTarget stagingTargetPath targetPath target.mountOptions
  else bindSharedFilesystemTarget stagingTargetPath targetPath target.mountOptions

/-! ## The state of a session -/

/-- The loop of `evaluateSharedFilesystemSession` over the published targets. -/
def targetsToRebind : List SharedFilesystemPublishedTarget →
    List SharedFilesystemPublishedTarget →
      Prog (Except GoError (List SharedFilesystemPublishedTarget))
  | [], found => return .ok found
  | target :: rest, found => do
      match ← perform (.listMounts .check) with
      | .error err => return .error (err.wrap "failed to list mount points: ")
      | .ok mountPoints => do
          if !targetIsMountPoint mountPoints target.targetPath then
            targetsToRebind rest (found ++ [target])
          else do
            match ← perform (.stat target.targetPath) with
            | some err =>
              if isDisconnectedSharedFilesystemError err then
                targetsToRebind rest (found ++ [target])
              else targetsToRebind rest found
            | none => targetsToRebind rest found

def evaluateSharedFilesystemSession (session : SharedFilesystemSession) :
    Prog (Except GoError SharedFilesystemSessionHealth) := do
  if trimSpace session.stagingTargetPath = "" then
    return .ok { recoverStage := false, targetsToRebind := [] }
  else
    match ← perform (.listMounts .check) with
    | .error err => return .error (err.wrap "failed to list mount points: ")
    | .ok mountPoints => do
        if !targetIsMountPoint mountPoints session.stagingTargetPath then
          return .ok { recoverStage := true, targetsToRebind := [] }
        else
          -- `detectStaleSharedFilesystemMount`
          match ← perform (.readDir session.stagingTargetPath) with
          | some _ => return .ok { recoverStage := true, targetsToRebind := [] }
          | none => do
              match ← targetsToRebind session.publishedTargets [] with
              | .error err => return .error err
              | .ok targets =>
                return .ok { recoverStage := false
                             targetsToRebind := normalizeSharedFilesystemPublishedTargets targets }

/-- `podUIDExists`: an error of the Kubernetes API counts as absence. -/
def podUIDExists (cfg : Config) (uid : String) : Prog Bool := do
  if !cfg.kubeRuntime then return false
  else
    match ← perform (.podUIDExists uid) with
    | .error _ => return false
    | .ok found => return found

def allPodsGone (cfg : Config) : List SharedFilesystemPublishedTarget → Prog Bool
  | [] => return true
  | target :: rest => do
      let podUID := podUIDFromKubeletPath target.targetPath
      if podUID = "" then return false
      else if ← podUIDExists cfg podUID then return false
      else allPodsGone cfg rest

/-- `mountPointForPath` and the `stat` after it: the path is mounted and can be used. -/
def stillUsable (targetPath : String) : Prog Bool := do
  match ← perform (.listMounts .check) with
  | .error _ => return false
  | .ok mountPoints => do
      if targetIsMountPoint mountPoints targetPath then do
        match ← perform (.stat targetPath) with
        | some _ => return false
        | none => return true
      else return false

/-- The loop of `garbageCollectOrphanedSession` that removes the targets; false when it meets one
that is still in use. -/
def removeTargets : List SharedFilesystemPublishedTarget → Prog Bool
  | [] => return true
  | target :: rest => do
      if ← stillUsable target.targetPath then return false
      else do
        -- The results of the unmount and of the removal are ignored.
        let _ ← perform (.cleanupMountPoint target.targetPath)
        perform (.removeAll target.targetPath)
        removeTargets rest

/-- The part of `garbageCollectOrphanedSession` after all pods are found to be gone. -/
def removeOrphanedSession (session : SharedFilesystemSession) : Prog Bool := do
  if ← removeTargets session.publishedTargets then do
    match ← perform (.deleteSession session.volumeID) with
    | some _ => return false
    | none => return true
  else return false

def garbageCollectOrphanedSession (cfg : Config) (session : SharedFilesystemSession) :
    Prog Bool := do
  if trimSpace session.volumeID = "" ∨ session.publishedTargets = [] then return false
  else if ← allPodsGone cfg session.publishedTargets then do
    if cfg.kubeRuntime then do
      match ← perform (.resolveVolumeRuntimeContext session.volumeID) with
      | .ok _ => return false
      | .error _ => removeOrphanedSession session
    else removeOrphanedSession session
  else return false

/-! ## Recovery of a volume -/

/-- Unmount the targets before the stage is mounted again. -/
def cleanupTargets : List SharedFilesystemPublishedTarget → Prog (Option GoError)
  | [] => return none
  | target :: rest => do
      match ← perform (.cleanupMountPoint target.targetPath) with
      | some err =>
        return some (err.wrap ("failed to cleanup stale target " ++ target.targetPath ++
          " before stage recovery: "))
      | none => cleanupTargets rest

/-- Bind the targets to the stage that has been mounted again. -/
def publishTargets (stagingTargetPath : String) :
    List SharedFilesystemPublishedTarget → Prog (Option GoError)
  | [] => return none
  | target :: rest => do
      match ← publishSharedFilesystemTarget stagingTargetPath target with
      | some err => return some err
      | none => publishTargets stagingTargetPath rest

/-- Bind targets to a stage that is still good. -/
def rebindTargets (stagingTargetPath : String) :
    List SharedFilesystemPublishedTarget → Prog (Option GoError)
  | [] => return none
  | target :: rest => do
      match ← perform (.cleanupMountPoint target.targetPath) with
      | some err =>
        return some (err.wrap ("failed to cleanup shared filesystem target " ++ target.targetPath ++
          " before rebinding: "))
      | none => do
          match ← publishSharedFilesystemTarget stagingTargetPath target with
          | some err => return some err
          | none => rebindTargets stagingTargetPath rest

def recoverStage (cfg : Config) (session : SharedFilesystemSession) : Prog (Option GoError) := do
  match ← cleanupTargets session.publishedTargets with
  | some err => return some err
  | none => do
      match ← mountCleanup session.stagingTargetPath with
      | some err =>
        return some (.status .internal ("failed to cleanup stale shared filesystem stage " ++
          session.stagingTargetPath ++ ": " ++ err.message))
      | none => do
          match ← mountSharedFilesystemSession cfg session with
          | some err => return some err
          | none => publishTargets session.stagingTargetPath session.publishedTargets

/-- The part of `recoverVolume` under the lock, with the session it has loaded there. -/
def recoverSession (cfg : Config) (session : SharedFilesystemSession) : Prog (Option GoError) := do
  if ← garbageCollectOrphanedSession cfg session then return none
  else
    match ← evaluateSharedFilesystemSession session with
    | .error err => return some err
    | .ok health => do
        if health.recoverStage then recoverStage cfg session
        else rebindTargets session.stagingTargetPath health.targetsToRebind

def recoverVolume (cfg : Config) (volumeID : String) : Prog (Option GoError) := do
  match ← perform (.loadSession volumeID) with
  | .error err => return some err
  | .ok none => return none
  | .ok (some _) =>
    withVolumeLock volumeID do
      match ← perform (.loadSession volumeID) with
      | .error err => return some err
      | .ok none => return none
      | .ok (some session) => recoverSession cfg session

def recoverQueuedVolume (cfg : Config) (volumeID : String) : Prog (Option GoError) := do
  -- The error is only logged.
  let _ ← recoverVolume cfg volumeID
  perform (.idle (some volumeID))
  return none

/-! ## Seeding the session store -/

/-- Save a session; an error is only logged. -/
def recordSharedFilesystemSession (session : SharedFilesystemSession) : Prog Unit := do
  let _ ← perform (.saveSession session)
  return ()

/-- The datastores `seedSessionsFromMounts` has resolved. -/
abbrev DatastoreCache :=
  List (Int × CephFSDatastore)

/-- The datastore and the cache that has it. -/
def cachedDatastore (id : Int) (cache : DatastoreCache) :
    Prog (Except GoError CephFSDatastore × DatastoreCache) := do
  match cache.lookup id with
  | some datastore => return (.ok datastore, cache)
  | none => do
      match ← perform (.resolveDatastore id) with
      | .error err => return (.error err, cache)
      | .ok datastore => return (.ok datastore, (id, datastore) :: cache)

def reconstructSharedFilesystemSessionFromMount (stageMount : MountPoint)
    (mountPoints : List MountPoint) (cache : DatastoreCache) :
    Prog (Except GoError SharedFilesystemSession × DatastoreCache) := do
  let volumeID := sharedFilesystemVolumeIDFromStagingPath stageMount.path
  match ← perform (.decodeSharedVolumeID volumeID) with
  | .error err => return (.error err, cache)
  | .ok metadata => do
      match ← cachedDatastore metadata.datastoreID cache with
      | (.error err, cache) => return (.error err, cache)
      | (.ok datastore, cache) => do
          let userID ← perform (.userIDFromKeyring (sharedCephFSKeyringPath stageMount.path))
          return (.ok
            { volumeID
              mounter := sharedFilesystemMounterFromMountType stageMount.fsType
              userID
              stagingTargetPath := stageMount.path
              monitors := datastore.monitors
              fsName := metadata.fsName
              subpath := metadata.subpath
              stageMountOptions := uniqueStrings (datastore.mountOptions ++
                sharedFilesystemMountOptionsFromMountPoint stageMount)
              keyringPath := sharedCephFSKeyringPath stageMount.path
              secretFilePath := sharedCephFSSecretPath stageMount.path
              publishedTargets :=
                sharedFilesystemPublishedTargetsFromMounts mountPoints stageMount }, cache)

/-- The session of a stage as it stands in the mount table. -/
def seededSession (session : SharedFilesystemSession) (mountPoint : MountPoint)
    (mountPoints : List MountPoint) : SharedFilesystemSession :=
  { session with
    stagingTargetPath := mountPoint.path
    mounter := sharedFilesystemMounterFromMountType mountPoint.fsType
    keyringPath :=
      if session.keyringPath = "" then sharedCephFSKeyringPath mountPoint.path
      else session.keyringPath
    secretFilePath :=
      if session.secretFilePath = "" then sharedCephFSSecretPath mountPoint.path
      else session.secretFilePath
    stageMountOptions := uniqueStrings (session.stageMountOptions ++
      sharedFilesystemMountOptionsFromMountPoint mountPoint)
    publishedTargets := sharedFilesystemPublishedTargetsFromMounts mountPoints mountPoint }

section

variable (session : SharedFilesystemSession) (mountPoint : MountPoint)
  (mountPoints : List MountPoint)

-- Not by `rfl`: it would compare the other fields first.
@[simp]
theorem seededSession_volumeID :
    (seededSession session mountPoint mountPoints).volumeID = session.volumeID := by
  simp only [seededSession]

@[simp]
theorem seededSession_stagingTargetPath :
    (seededSession session mountPoint mountPoints).stagingTargetPath = mountPoint.path := by
  simp only [seededSession]

@[simp]
theorem seededSession_publishedTargets :
    (seededSession session mountPoint mountPoints).publishedTargets =
      sharedFilesystemPublishedTargetsFromMounts mountPoints mountPoint := by
  simp only [seededSession]

end

/-- What `seedSessionsFromMounts` writes for a stage, from the session it has found or made. -/
def seedSession (session : SharedFilesystemSession) (mountPoint : MountPoint)
    (mountPoints : List MountPoint) : Prog Unit := do
  let seeded := seededSession session mountPoint mountPoints
  if seeded.userID = "" then do
    let userID ← perform (.userIDFromKeyring seeded.keyringPath)
    recordSharedFilesystemSession { seeded with userID }
  else recordSharedFilesystemSession seeded

/-- The body of the loop of `seedSessionsFromMounts`. -/
def seedMount (mountPoints : List MountPoint) (mountPoint : MountPoint) (cache : DatastoreCache) :
    Prog DatastoreCache := do
  let volumeID := sharedFilesystemVolumeIDFromStagingPath mountPoint.path
  if volumeID = "" then return cache
  else
    match ← perform (.loadSession volumeID) with
    | .error _ => return cache
    | .ok (some session) => do
        seedSession session mountPoint mountPoints
        return cache
    | .ok none => do
        match ← reconstructSharedFilesystemSessionFromMount mountPoint mountPoints cache with
        | (.error _, cache) => return cache
        | (.ok session, cache) => do
            seedSession session mountPoint mountPoints
            return cache

def seedMounts (mountPoints : List MountPoint) : List MountPoint → DatastoreCache → Prog Unit
  | [], _ => return ()
  | mountPoint :: rest, cache => do
      let cache ← seedMount mountPoints mountPoint cache
      seedMounts mountPoints rest cache

def seedSessionsFromMounts : Prog Unit := do
  match ← perform (.listMounts .seed) with
  | .error _ => return ()
  | .ok mountPoints => seedMounts mountPoints mountPoints []

/-- The body of the loop of `enqueueUnhealthySessions`. -/
def enqueueUnhealthySession (cfg : Config) (session : SharedFilesystemSession) : Prog Unit := do
  if ← garbageCollectOrphanedSession cfg session then return ()
  else
    match ← evaluateSharedFilesystemSession session with
    | .error _ => return ()
    | .ok health => do
        if health.recoverStage ∨ health.targetsToRebind ≠ [] then
          -- `enqueue` ignores a blank id.
          if trimSpace session.volumeID = "" then return ()
          else perform (.enqueue session.volumeID)
        else return ()

def enqueueEach (cfg : Config) : List SharedFilesystemSession → Prog Unit
  | [] => return ()
  | session :: rest => do
      enqueueUnhealthySession cfg session
      enqueueEach cfg rest

def enqueueUnhealthySessions (cfg : Config) : Prog Unit := do
  match ← perform .listSessions with
  | .error _ => return ()
  | .ok sessions => do
      enqueueEach cfg sessions
      seedSessionsFromMounts

/-- What the manager does at its start and at every tick. -/
def periodicPass (cfg : Config) : Prog (Option GoError) := do
  seedSessionsFromMounts
  enqueueUnhealthySessions cfg
  perform (.idle none)
  return none

/-! ## Requests -/

/-- Mount the stage of a request and remember its session. -/
def stageSession (cfg : Config) (session : SharedFilesystemSession) : Prog (Option GoError) := do
  match ← mountSharedFilesystemSession cfg session with
  | some err => return some err
  | none => do
      recordSharedFilesystemSession session
      return none

/-- The part of `handleSharedFilesystemStage` after the credentials have been written. -/
def stageOverMount (cfg : Config) (session : SharedFilesystemSession) : Prog (Option GoError) := do
  match ← perform (.isLikelyNotMountPoint session.stagingTargetPath) with
  | .ok false => do
      match ← perform (.readDir session.stagingTargetPath) with
      | none => do
          recordSharedFilesystemSession session
          return none
      | some err => do
          if !cfg.cephFSSelfHealing then
            return some (.status .failedPrecondition ("stale CephFS mount detected at " ++
              session.stagingTargetPath ++ ": " ++ err.message))
          else
            match ← mountCleanup session.stagingTargetPath with
            | some err => return some err
            | none => stageSession cfg session
  | _ => stageSession cfg session

def stageUnderLock (cfg : Config) (req : NodeStageRequest) : Prog (Option GoError) := do
  match req.volumeCapability with
  | none => return some (.status .invalidArgument "volume capability is required")
  | some .block =>
    return some (.status .invalidArgument
      "shared filesystem volumes require a filesystem volume capability")
  | some _ => do
      if trimSpace (req.publishContext.get "shareBackend") ≠ "cephfs" then
        return some (.status .invalidArgument ("unsupported shared filesystem backend \"" ++
          req.publishContext.get "shareBackend" ++ "\""))
      else if req.stagingTargetPath = "" then
        return some (.status .invalidArgument "staging target path is required")
      else
        match ← perform (.mkdirAll req.stagingTargetPath) with
        | some err =>
          return some (.status .internal ("failed to create staging target path " ++
            req.stagingTargetPath ++ ": " ++ err.message))
        | none =>
          match sharedFilesystemSessionFromStageRequest req with
          | .error err => return some err
          | .ok session => do
              let userID := trimSpace (req.secrets.get "userID")
              let userKey := trimSpace (req.secrets.get "userKey")
              if userID = "" ∨ userKey = "" then
                return some (.status .invalidArgument
                  "CephFS node staging requires secret keys \"userID\" and \"userKey\"")
              else
                match ← perform (.ensureCredentials req.stagingTargetPath userID userKey) with
                | some err => return some err
                | none => stageOverMount cfg session

def handleSharedFilesystemStage (cfg : Config) (req : NodeStageRequest) : Prog (Option GoError) :=
  withVolumeLock req.volumeId (stageUnderLock cfg req)

def unstageUnderLock (req : NodeUnstageRequest) : Prog (Option GoError) := do
  if req.stagingTargetPath = "" then
    return some (.status .invalidArgument "staging target path is required")
  else
    match ← mountCleanup req.stagingTargetPath with
    | some err => return some err
    | none => do
        perform (.removeAll (sharedCephFSKeyringDir req.stagingTargetPath))
        let _ ← perform (.deleteSession req.volumeId)
        return none

def handleSharedFilesystemUnstage (req : NodeUnstageRequest) : Prog (Option GoError) :=
  withVolumeLock req.volumeId (unstageUnderLock req)

def updateSharedFilesystemPublishedTarget (volumeID : String)
    (target : SharedFilesystemPublishedTarget) : Prog Unit := do
  if trimSpace volumeID = "" then return ()
  else
    match ← perform (.loadSession volumeID) with
    | .ok (some session) => recordSharedFilesystemSession (session.withTarget target)
    | _ => return ()

def removeSharedFilesystemPublishedTarget (volumeID targetPath : String) : Prog Unit := do
  if trimSpace volumeID = "" then return ()
  else
    match ← perform (.loadSession volumeID) with
    | .ok (some session) => do
        let session := session.withoutTarget targetPath
        if session.publishedTargets = [] ∧ trimSpace session.stagingTargetPath = "" then do
          let _ ← perform (.deleteSession volumeID)
          return ()
        else recordSharedFilesystemSession session
    | _ => return ()

/-- The error a failed publish is answered with. -/
def publishFailure : GoError → GoError
  | .status code message => .status code message
  | _ => .status .internal "failed to publish volume"

def publishUnderLock (req : NodePublishRequest) : Prog (Option GoError) := do
  match req.volumeCapability with
  | none => return some (.status .invalidArgument "volume capability is required")
  | some .block =>
    return some (.status .invalidArgument
      "shared filesystem volumes require a filesystem volume capability")
  | some _ => do
      if req.stagingTargetPath = "" ∨ req.targetPath = "" then
        return some (.status .invalidArgument "staging target path and target path are required")
      else do
        let target := sharedFilesystemTargetFromPublishRequest req
        match ← publishSharedFilesystemTarget req.stagingTargetPath target with
        | some err => return some (publishFailure err)
        | none => do
            updateSharedFilesystemPublishedTarget req.volumeId target
            return none

def handleSharedFilesystemPublish (req : NodePublishRequest) : Prog (Option GoError) :=
  withVolumeLock req.volumeId (publishUnderLock req)

def cleanupOrphanedSharedFilesystemTargetOnUnpublish (cfg : Config)
    (volumeID targetPath : String) : Prog Bool := do
  let podUID := podUIDFromKubeletPath targetPath
  if podUID = "" then return false
  else if ← podUIDExists cfg podUID then return false
  else if ← stillUsable targetPath then return false
  else do
    removeSharedFilesystemPublishedTarget volumeID targetPath
    perform (.removeAll targetPath)
    return true

/-- `NodeUnpublishVolume`. The sessions of local disks are not part of this model. -/
def nodeUnpublishVolume (cfg : Config) (req : NodeUnpublishRequest) : Prog (Option GoError) := do
  if req.volumeId = "" then return some (.status .invalidArgument "volume ID is required")
  else if req.targetPath = "" then return some (.status .invalidArgument "target path is required")
  else
    match ← perform (.cleanupMountPoint req.targetPath) with
    | some err => do
        let failed := GoError.status .internal ("failed to unmount volume at target path " ++
          req.targetPath ++ ": " ++ err.message)
        if isSharedFilesystemVolumeID req.volumeId then do
          if ← cleanupOrphanedSharedFilesystemTargetOnUnpublish cfg req.volumeId req.targetPath then
            return none
          else return some failed
        else return some failed
    | none => do
        if isSharedFilesystemVolumeID req.volumeId then do
          removeSharedFilesystemPublishedTarget req.volumeId req.targetPath
          return none
        else return none

/-- `handleDisconnectedSharedFilesystemPath`, when a stat of a volume finds it disconnected. -/
def reportDisconnected (volumeID : String) : Prog (Option GoError) := do
  if trimSpace volumeID = "" then return none
  else do
    perform (.enqueue volumeID)
    return none

/-- What goroutines of the node service run. -/
inductive Kind where
  | stage (req : NodeStageRequest)
  | unstage (req : NodeUnstageRequest)
  | publish (req : NodePublishRequest)
  | unpublish (req : NodeUnpublishRequest)
  | disconnected (volumeID : String)
  | periodicPass
  | recoverQueuedVolume (volumeID : String)
  deriving DecidableEq

def Kind.program (cfg : Config) : Kind → Prog (Option GoError)
  | .stage req => handleSharedFilesystemStage cfg req
  | .unstage req => handleSharedFilesystemUnstage req
  | .publish req => handleSharedFilesystemPublish req
  | .unpublish req => nodeUnpublishVolume cfg req
  | .disconnected volumeID => reportDisconnected volumeID
  | .periodicPass => Node.periodicPass cfg
  | .recoverQueuedVolume volumeID => Node.recoverQueuedVolume cfg volumeID

/-! ## The shared state -/

/-- The session files by the trimmed id of their volume; two volumes with one file name would need a
collision of SHA-256. -/
abbrev SessionStore :=
  List (String × SharedFilesystemSession)

namespace SessionStore

variable (store : SessionStore)

/-- A session as it is read from its file. -/
def read (session : SharedFilesystemSession) : SharedFilesystemSession :=
  { session.normalize with
    mounter := if session.mounter = .other "" then .fuse else session.mounter }

def load (volumeID : String) : Option SharedFilesystemSession :=
  (store.lookup (trimSpace volumeID)).map read

def delete (volumeID : String) : SessionStore :=
  store.filter fun entry => entry.1 ≠ trimSpace volumeID

def save (session : SharedFilesystemSession) : SessionStore :=
  (trimSpace session.volumeID, session.normalize) :: SessionStore.delete store session.volumeID

/-- All sessions in the order of their volume ids. -/
def list : List SharedFilesystemSession :=
  ((List.map Prod.snd store).map read).insertionSort fun session other =>
    session.volumeID ≤ other.volumeID

end SessionStore

structure World where
  mounts : List MountPoint
  sessions : SessionStore
  /-- The held operation locks. -/
  locks : List String
  /-- The manager's channel. -/
  queue : List String
  queued : List String
  busy : Bool

/-- What the outside world decides about one operation. -/
structure Oracle where
  /-- An error of a call that may fail without effect. -/
  error : Option GoError
  /-- The mount table that an unmount leaves. -/
  mounts : List MountPoint
  /-- The device and the type that a new mount shows in the mount table. -/
  device : String
  fsType : String
  found : Bool
  text : String
  metadata : SharedVolumeMetadata
  datastore : CephFSDatastore

/-- An answer that is an error if the outside world says so. -/
def Oracle.answer {α : Type} (oracle : Oracle) (value : α) : Except GoError α :=
  match oracle.error with
  | some err => .error err
  | none => .ok value

theorem Oracle.answer_eq_ok {α : Type} {oracle : Oracle} {value result : α}
    (h : oracle.answer value = .ok result) : value = result := by
  unfold Oracle.answer at h
  split at h <;> cases h
  rfl

/-- What `mount.CleanupMountPoint` may do: it unmounts nothing but what is mounted at the path, and
nothing is mounted there when it succeeds. -/
def cleanupAllowed (path : String) (before after : List MountPoint) (err : Option GoError) : Bool :=
  after.isSublist before &&
    (after.filter fun mountPoint => mountPoint.path ≠ path) =
      (before.filter fun mountPoint => mountPoint.path ≠ path) &&
    (err.isSome || !targetIsMountPoint after path)

/-- A call that mounts something at a path when it succeeds. -/
def mountAt (oracle : Oracle) (w : World) (path : String) (opts : List String) :
    Option GoError × World :=
  match oracle.error with
  | some err => (some err, w)
  | none =>
    (none, { w with
      mounts := w.mounts ++ [{ device := oracle.device, path, fsType := oracle.fsType, opts }] })

/-- How the shared state answers an operation. -/
def act (oracle : Oracle) (w : World) : (op : Op) → Option (op.Answer × World)
  | .acquire key => if key ∈ w.locks then none else some ((), { w with locks := key :: w.locks })
  | .release key => some ((), { w with locks := w.locks.erase key })
  | .listMounts _ => some (oracle.answer w.mounts, w)
  | .cleanupMountPoint path =>
    if cleanupAllowed path w.mounts oracle.mounts oracle.error then
      some (oracle.error, { w with mounts := oracle.mounts })
    else none
  | .bindMount _ target options => some (mountAt oracle w target options)
  | .mountStage _ _ path => some (mountAt oracle w path [])
  | .isLikelyNotMountPoint _ => some (oracle.answer oracle.found, w)
  | .stat _ | .readDir _ | .mkdirAll _ | .ensureCredentials _ _ _ | .kernelSupported
  | .lookPath _ =>
    some (oracle.error, w)
  | .isNotExist _ => some (oracle.found, w)
  | .removeAll _ => some ((), w)
  | .ensureCephConf path => some (oracle.answer (sharedCephFSConfPath path), w)
  | .userIDFromKeyring _ => some (oracle.text, w)
  | .decodeSharedVolumeID _ => some (oracle.answer oracle.metadata, w)
  | .resolveDatastore _ => some (oracle.answer oracle.datastore, w)
  | .loadSession volume => some (oracle.answer (w.sessions.load volume), w)
  | .saveSession session =>
    if trimSpace session.volumeID = "" then
      some (some (.plain "shared filesystem session is missing volume ID"), w)
    else
      match oracle.error with
      | some err => some (some err, w)
      | none => some (none, { w with sessions := w.sessions.save session })
  | .deleteSession volume =>
    match oracle.error with
    | some err => some (some err, w)
    | none => some (none, { w with sessions := w.sessions.delete volume })
  | .listSessions => some (oracle.answer w.sessions.list, w)
  | .podUIDExists _ => some (oracle.answer oracle.found, w)
  | .resolveVolumeRuntimeContext _ => some (oracle.answer (), w)
  | .enqueue volume =>
    if volume ∈ w.queued ∨ 128 ≤ w.queue.length then some ((), w)
    else some ((), { w with queue := w.queue ++ [volume], queued := volume :: w.queued })
  | .idle recovered =>
    some ((), { w with
      busy := false
      queued := w.queued.filter fun volume => recovered ≠ some volume })

/-- Requests may arrive at any time; the manager starts something new only when it is not busy, and
it recovers the volume at the head of its queue. -/
def start (cfg : Config) (w : World) (kind : Kind) : Option (Prog (Option GoError) × World) :=
  match kind with
  | .periodicPass => if w.busy then none else some (kind.program cfg, { w with busy := true })
  | .recoverQueuedVolume volumeID =>
    match w.queue with
    | volume :: rest =>
      if w.busy ∨ volume ≠ volumeID then none
      else some (kind.program cfg, { w with busy := true, queue := rest })
    | [] => none
  | _ => some (kind.program cfg, w)

/-- The node service of shared filesystem volumes. The mount table may become any other one. -/
def nodeService (cfg : Config) :
    Machine Op Op.Answer Kind (Option GoError) World Oracle (List MountPoint) where
  start := start cfg
  act oracle w _ op := act oracle w op
  change mounts w := some { w with mounts }

abbrev NodePool :=
  Pool Op Op.Answer Kind (Option GoError) World

abbrev NodeStep :=
  Label Kind Oracle (List MountPoint)

/-- A new process on a node without session files, over any mount table. -/
def Fresh (w : World) : Prop :=
  ∃ mounts, w = { mounts, sessions := [], locks := [], queue := [], queued := [], busy := false }

abbrev Reachable (cfg : Config) (ok : NodePool → NodeStep → Prop) : NodePool → Prop :=
  (nodeService cfg).Reachable Fresh ok

theorem start_program {cfg : Config} {w w' : World} {kind : Kind} {prog : Prog (Option GoError)}
    (h : (nodeService cfg).start w kind = some (prog, w')) :
    prog = kind.program cfg ∧ w'.sessions = w.sessions ∧ w'.mounts = w.mounts := by
  cases kind with
  | periodicPass =>
    simp only [nodeService, start] at h
    split at h <;> cases h
    exact ⟨rfl, rfl, rfl⟩
  | recoverQueuedVolume volumeID =>
    simp only [nodeService, start] at h
    split at h
    · split at h <;> cases h
      exact ⟨rfl, rfl, rfl⟩
    · cases h
  | _ =>
    cases h
    exact ⟨rfl, rfl, rfl⟩

/-- Only saving and deleting change the session files. -/
theorem act_sessions {oracle : Oracle} {w w' : World} {op : Op} {ans : op.Answer}
    (h : act oracle w op = some (ans, w')) :
    w'.sessions = w.sessions ∨
      (∃ session, op = .saveSession session ∧ w'.sessions = w.sessions.save session) ∨
      ∃ volume, op = .deleteSession volume ∧ w'.sessions = w.sessions.delete volume := by
  cases op with
  | saveSession session =>
    simp only [act] at h
    split at h
    · cases h
      exact .inl rfl
    split at h <;> cases h
    · exact .inl rfl
    · exact .inr (.inl ⟨session, rfl, rfl⟩)
  | deleteSession volume =>
    simp only [act] at h
    split at h <;> cases h
    · exact .inl rfl
    · exact .inr (.inr ⟨volume, rfl, rfl⟩)
  | acquire key =>
    simp only [act] at h
    split at h <;> cases h
    exact .inl rfl
  | cleanupMountPoint path =>
    simp only [act] at h
    split at h <;> cases h
    exact .inl rfl
  | enqueue volume =>
    simp only [act] at h
    split at h <;> cases h <;> exact .inl rfl
  | bindMount source target options =>
    simp only [act, mountAt, Option.some.injEq] at h
    split at h <;> cases h <;> exact .inl rfl
  | mountStage command args path =>
    simp only [act, mountAt, Option.some.injEq] at h
    split at h <;> cases h <;> exact .inl rfl
  | _ =>
    cases h
    exact .inl rfl

/-! ## Runs in a healthy world -/

/-- The gates as they are by default. -/
def defaultConfig : Config where
  kubeRuntime := true
  cephFSKernelMounts := false
  cephFSSelfHealing := true

/-- Calls succeed; an unmount leaves the given mounts. -/
def calm (mounts : List MountPoint) : Oracle where
  error := none
  mounts
  device := "ceph-fuse"
  fsType := "fuse.ceph-fuse"
  found := false
  text := "csi"
  metadata := { datastoreID := 100, fsName := "cephfs", subpath := "/volumes/csi" }
  datastore := { monitors := ["mon-1"], mountOptions := [] }

/-- Calls fail with the given text; an unmount leaves the given mounts. -/
def failing (text : String) (mounts : List MountPoint) : Oracle :=
  { calm mounts with error := some (.plain text) }

/-- The staging path of a volume. -/
def stagePath (volume : String) : String :=
  "/plugins/" ++ volume ++ "/globalmount"

def stageRequestOf (volume : String) : NodeStageRequest where
  volumeId := volume
  volumeCapability := some (.mount [])
  publishContext := [("shareBackend", "cephfs"), ("cephfsMonitors", "mon-1"),
    ("cephfsFSName", "cephfs"), ("cephfsSubpath", "/volumes/" ++ volume)]
  volumeContext := []
  stagingTargetPath := stagePath volume
  secrets := [("userID", "csi"), ("userKey", "key")]

def publishRequestOf (volume : String) : NodePublishRequest where
  volumeId := volume
  volumeCapability := some (.mount [])
  stagingTargetPath := stagePath volume
  targetPath := "/pods/u/mount"
  readonly := false

/-- A mount as ceph-fuse makes it, and every bind mount of it. -/
def fuseMount (path : String) (opts : List String) : MountPoint :=
  { device := "ceph-fuse", path, fsType := "fuse.ceph-fuse", opts }

/-- `count` operations of one goroutine. -/
def acts (oracle : Oracle) (t count : ℕ) : List NodeStep :=
  List.replicate count (.act t oracle)

/-- A process that finds the given mounts. -/
def mountedWorld (mounts : List MountPoint) : World where
  mounts
  sessions := []
  locks := []
  queue := []
  queued := []
  busy := false

theorem fresh_mountedWorld (mounts : List MountPoint) : Fresh (mountedWorld mounts) :=
  ⟨mounts, rfl⟩

end OpenNebulaCSI.Node
