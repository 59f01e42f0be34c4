import OpenNebulaCSI.Controller.Effects

/-!
# What the hotplug queue runs

The functions the controller hands to the hotplug queue, and the code they share: operation locks,
sticky attachment entries and the publish context. Each definition follows its Go function line by
line; an early `return` of the source is a branch that ends the program.
-/

namespace OpenNebulaCSI.Controller

open Go Concurrency

/-! ## Operation locks -/

def lockAll : List LockRef → Prog Unit
  | [] => return ()
  | ref :: refs => do
      perform (.lock ref)
      lockAll refs

def unlockAll : List LockRef → Prog Unit
  | [] => return ()
  | ref :: refs => do
      perform (.unlock ref)
      unlockAll refs

/-- `Acquire` the keys, run the body and release the keys, as the deferred call does. -/
def locked {α : Type} (keys : List String) (body : Prog α) : Prog α := do
  let refs ← perform (.registerLocks keys)
  lockAll refs
  let result ← body
  unlockAll refs.reverse
  perform (.unregisterLocks refs)
  return result

/-! ## Sticky attachment entries -/

/-- `StickyAttachmentManager.StartGrace`. -/
def startGrace (state : StickyAttachmentState) : Prog (Option GoError) :=
  if trimSpace state.volumeID = "" then return some (.plain "volumeID is required")
  else do
    let _ ← perform (.stickySwap state.volumeID state)
    match ← query (.persistSticky state) with
    | none => return none
    | some err => do
        perform (.stickyDelete state.volumeID)
        return some err

/-- `StickyAttachmentManager.Clear`. -/
def stickyClear (volume : String) : Prog (Option GoError) :=
  if trimSpace volume = "" then return none
  else do
    perform (.stickyDelete volume)
    query (.deleteSticky volume)

/-- `StickyAttachmentManager.Update`. -/
def stickyUpdate (state : StickyAttachmentState) : Prog (Option GoError) :=
  if trimSpace state.volumeID = "" then return some (.plain "volumeID is required")
  else do
    let previous ← perform (.stickySwap state.volumeID state)
    match ← query (.persistSticky state) with
    | none => return none
    | some err => do
        match previous with
        | some entry => do
            let _ ← perform (.stickySwap state.volumeID entry)
            return some err
        | none => do
            perform (.stickyDelete state.volumeID)
            return some err

/-- `deferStickyDetach` with a delay of a minute. -/
def deferStickyDetach (state : StickyAttachmentState) : Prog Unit := do
  let now ← query .now
  let _ ← stickyUpdate { state with expiresAt := now + 60 * 1000000000 }
  return ()

def clearStickyReuseState (volumeID nodeID : String) : Prog Unit := do
  match ← perform (.stickyGet .other volumeID) with
  | none => return ()
  | some state =>
    if trimSpace state.nodeID ≠ trimSpace nodeID then return ()
    else do
      let _ ← stickyClear volumeID
      return ()

/-! ## Publish context -/

/-- Copy the claim and volume names of the request's volume context. -/
def copyNames (source : StringMap) (ctx : StringMap) : StringMap :=
  [paramPVCName, paramPVCNamespace, paramPVName].foldl
    (fun ctx key =>
      if trimSpace (source.get key) ≠ "" then ctx.set key (trimSpace (source.get key)) else ctx) ctx

/-- Fill in a name the request did not carry. -/
def fillName (ctx : StringMap) (key value : String) : StringMap :=
  if ctx.get key = "" ∧ value ≠ "" then ctx.set key value else ctx

/-- What the runtime context adds to a publish context. -/
def addRuntimeNames (ctx : StringMap) (runtimeCtx : RuntimeContext) : StringMap :=
  let ctx := fillName ctx paramPVCNamespace runtimeCtx.pvcNamespace
  let ctx := fillName ctx paramPVCName runtimeCtx.pvcName
  let ctx := fillName ctx paramPVName runtimeCtx.pvName
  if trimSpace runtimeCtx.backend ≠ "" then ctx.set annotationBackend (trimSpace runtimeCtx.backend)
  else ctx

/-- What the image id adds to a publish context. -/
def addImageID (ctx : StringMap) : Except LookupError Int → StringMap
  | .ok id =>
    if 0 < id then
      (ctx.set "opennebulaImageID" (toString id)).set "deviceSerial" ("onecsi-" ++ toString id)
    else ctx
  | .error _ => ctx

/-- Whole seconds of a duration. -/
def seconds (duration : Int) : String :=
  toString (duration.tdiv 1000000000)

/-- The part of `publishContextForVolume` that asks Kubernetes. -/
def resolveNames (cfg : Config) (volumeID : String) (ctx : StringMap) : Prog StringMap :=
  if cfg.kubeRuntimeEnabled then do
    match ← query (.resolveVolumeRuntimeContext volumeID) with
    | .ok runtimeCtx => return addRuntimeNames ctx runtimeCtx
    | .error _ => return ctx
  else return ctx

/-- The part of `publishContextForVolume` that adds the timeouts for the node. -/
def addTimeouts (volumeID : String) (deviceDiscoveryTimeout : Int) (ctx : StringMap) :
    Prog StringMap := do
  match ← query (.resolveVolumeSizeBytes volumeID) with
  | .error _ => return ctx
  | .ok sizeBytes => do
      let hotplugTimeout ← query (.computeHotplugTimeout sizeBytes)
      let ctx := ctx.set "hotplugTimeoutSeconds" (seconds hotplugTimeout)
      if deviceDiscoveryTimeout ≤ 0 then do
        let timeout ← query (.nodeDeviceDiscoveryTimeout sizeBytes hotplugTimeout)
        return ctx.set "deviceDiscoveryTimeoutSeconds" (seconds timeout)
      else return ctx.set "deviceDiscoveryTimeoutSeconds" (seconds deviceDiscoveryTimeout)

def publishContextForVolume (cfg : Config) (volumeID target : String)
    (deviceDiscoveryTimeout : Int) (source : StringMap) : Prog StringMap := do
  let image ← query (.volumeExists volumeID)
  let ctx ← resolveNames cfg volumeID (addImageID (copyNames source [("volumeName", target)]) image)
  addTimeouts volumeID deviceDiscoveryTimeout ctx

/-! ## Publishing -/

/-- The three outcomes of `reuseStickyAttachment`. -/
inductive Reuse where
  | notReused
  | reused (response : PublishResponse)
  | failed (err : GoError)

/-- Clear the entry of a volume; the publish fails if the entry cannot be removed. -/
def clearForPublish (volume : String) : Prog (Option GoError) := do
  match ← stickyClear volume with
  | some err =>
    return some (.status .internal ("failed to clear sticky attachment state: " ++ err.message))
  | none => return none

/-- Whether the volume is known not to be attached to an existing node. -/
def absentFromNode (volumeID : Int) (node : String) : Prog Bool := do
  match ← query (.nodeExists node) with
  | .error _ => return false
  | .ok nodeID =>
    if nodeID = -1 then return false
    else do
      match ← query (.getVolumeInNode volumeID nodeID) with
      | .ok _ => return false
      | .error _ => return true

/-- The branch of `reuseStickyAttachment` for an entry on another node, which moves the volume
away from there; the old node's lock is held. -/
def leaveOldNode (req : PublishRequest) (volumeID : Int) (state : StickyAttachmentState) :
    Prog (Option GoError) := do
  match ← query (.hotplugCooldownState state.nodeID) with
  | some cooldown =>
    return some (.status .unavailable
      ("refusing to move local RWO volume " ++ req.volumeId ++ " from node " ++ state.nodeID ++
        " to node " ++ req.nodeId ++ " while old node hotplug is paused: " ++ cooldown.message))
  | none => do
      match ← query (.volumeDesiredOnNode req.volumeId state.nodeID) with
      | .ok (true, reason) =>
        return some (.status .unavailable
          ("refusing to move local RWO volume " ++ req.volumeId ++ " from node " ++
            state.nodeID ++ " to node " ++ req.nodeId ++
            " because Kubernetes still desires it on the old node (" ++ reason ++ ")"))
      | _ => do
          if ← absentFromNode volumeID state.nodeID then clearForPublish req.volumeId
          else do
            match ← query (.detachVolume req.volumeId state.nodeID) with
            | some err => do
                match ← query (.detachMetadataDriftError req.volumeId state.nodeID) with
                | some driftErr => return some driftErr
                | none =>
                  return some (.status .internal
                    ("failed to detach stale attachment for local RWO volume " ++ req.volumeId ++
                      " from old node " ++ state.nodeID ++
                      " before publishing to requested node " ++ req.nodeId ++ ": " ++
                      err.message))
            | none => clearForPublish req.volumeId

def reuseStickyAttachment (cfg : Config) (req : PublishRequest) (volumeID nodeID : Int) :
    Prog Reuse := do
  match ← perform (.stickyGet (.reuse req.nodeId) req.volumeId) with
  | none => return .notReused
  | some state =>
    if trimSpace state.nodeID = trimSpace req.nodeId then do
      match ← query (.getVolumeInNode volumeID nodeID) with
      | .error _ => do
          let _ ← stickyClear req.volumeId
          return .notReused
      | .ok target => do
          match ← clearForPublish req.volumeId with
          | some err => return .failed err
          | none => do
              let ctx ← publishContextForVolume cfg req.volumeId target 0 req.volumeContext
              return .reused ⟨ctx⟩
    else do
      match ← locked [controllerNodeLockKey state.nodeID] (leaveOldNode req volumeID state) with
      | some err => return .failed err
      | none => return .notReused

/-- `status.Error` for a failed provider call with the given fallback message. -/
def providerStatus (fallback : String) : ProviderError → GoError
  | .datastoreConfig err => .status .failedPrecondition err.message
  | .datastoreCapacity err => .status .resourceExhausted err.message
  | .hostArtifactConflict _ | .other _ => .status .internal fallback

/-- The access mode that makes a volume immutable. -/
def PublishRequest.immutable (req : PublishRequest) : Bool :=
  req.volumeCapability.join = some .multiNodeReaderOnly

/-- Attach the volume and confirm the attachment, as the queued attach does once all guards have
passed. -/
def attachAndConfirm (cfg : Config) (req : PublishRequest) (volumeID nodeID : Int) (response : ℕ)
    (sizeBytes : Int) : Prog (Option GoError) := do
  let floor ← query (.computeHotplugTimeout sizeBytes)
  let hotplugTimeout ← query (.effectiveHotplugTimeout sizeBytes floor)
  let deviceDiscoveryTimeout ← query (.nodeDeviceDiscoveryTimeout sizeBytes hotplugTimeout)
  match ← query (.attachVolume req.volumeId req.nodeId req.immutable req.volumeContext) with
  | some (.hostArtifactConflict conflict) => do
      let err ← query (.handleHostArtifactConflict req conflict)
      return some err
  | some err => return some (providerStatus "failed to attach volume" err)
  | none => do
      match ← query (.getVolumeInNode volumeID nodeID) with
      | .error _ => return some (.status .internal "failed to get volume in node")
      | .ok target => do
          let ctx ← publishContextForVolume cfg req.volumeId target deviceDiscoveryTimeout
            req.volumeContext
          perform (.setResponse response ⟨ctx⟩)
          return none

/-- The queued attach once no sticky attachment could be reused. -/
def attachUnderLocks (cfg : Config) (req : PublishRequest) (volumeID nodeID : Int)
    (response : ℕ) : Prog (Option GoError) := do
  match ← query (.getVolumeInNode volumeID nodeID) with
  | .ok target => do
      clearStickyReuseState req.volumeId req.nodeId
      let ctx ← publishContextForVolume cfg req.volumeId target 0 req.volumeContext
      perform (.setResponse response ⟨ctx⟩)
      return none
  | .error _ => do
      match ← query (.rejectIfOpenNebulaMetadataDrift req) with
      | some err => return some err
      | none => do
          match ← query (.rejectIfHostArtifactQuarantineActive req) with
          | some err => return some err
          | none => do
              match ← query (.resolveVolumeSizeBytes req.volumeId) with
              | .error _ => return some (.status .internal "failed to resolve volume size")
              | .ok sizeBytes => attachAndConfirm cfg req volumeID nodeID response sizeBytes

/-- The closure of `ControllerPublishVolume` below its two locks. -/
def publishUnderLocks (cfg : Config) (req : PublishRequest) (volumeID nodeID : Int)
    (response : ℕ) : Prog (Option GoError) := do
  match ← reuseStickyAttachment cfg req volumeID nodeID with
  | .failed err => return some err
  | .reused reusedResponse => do
      perform (.setResponse response reusedResponse)
      return none
  | .notReused => attachUnderLocks cfg req volumeID nodeID response

/-! ## Unpublishing -/

/-- Why a volume is not one whose detach may be delayed, if it is not. -/
def detachGraceRefusal (runtimeCtx : RuntimeContext) (volumeID : String) : Option String :=
  if runtimeCtx.restartMode ≠ restartOptimizationValue then some "not_opted_in"
  else if !equalFold (trimSpace runtimeCtx.backend) "local" then some "backend_not_local"
  else if isSharedFilesystemVolumeID volumeID then some "shared_filesystem"
  else if !hasSingleWriterAccessMode runtimeCtx.accessModes then some "access_mode_not_rwo"
  else none

/-- The readiness gates of the node, if they are configured. -/
def nodeReadyForHold (cfg : Config) (node : String) : Prog (Option String) :=
  if cfg.localRestartRequireNodeReady then do
    match ← query (.isNodeReady node) with
    | .ok true => do
        match ← query (.nodeReady node) with
        | .ok true => return none
        | _ => return some "vm_not_ready"
    | _ => return some "kubernetes_node_not_ready"
  else return none

/-- The sticky entry to record instead of a detach, or why there is none. -/
def shouldDelayDetach (cfg : Config) (req : UnpublishRequest) :
    Prog (Except String StickyAttachmentState) :=
  if !cfg.localRestartOptimization then return .error "feature_disabled"
  else if !cfg.kubeRuntimeEnabled then return .error "kubernetes_runtime_disabled"
  else do
    match ← query (.resolveVolumeRuntimeContext req.volumeId) with
    | .error _ => return .error "volume_runtime_context_unavailable"
    | .ok runtimeCtx =>
      match detachGraceRefusal runtimeCtx req.volumeId with
      | some reason => return .error reason
      | none => do
          match ← query (.hotplugCooldownState req.nodeId) with
          | some _ => return .error "hotplug_cooldown"
          | none => do
              match ← nodeReadyForHold cfg req.nodeId with
              | some reason => return .error reason
              | none => do
                  let startedAt ← query .now
                  let now ← query .now
                  let graceSeconds := effectiveDetachGraceSeconds cfg runtimeCtx
                  return .ok
                    { volumeID := req.volumeId
                      nodeID := req.nodeId
                      backend := "local"
                      datastoreID := runtimeCtx.datastoreID
                      pvcNamespace := runtimeCtx.pvcNamespace
                      pvcName := runtimeCtx.pvcName
                      startedAt
                      expiresAt := now + graceSeconds * 1000000000
                      graceSeconds
                      reason := "stateful_restart"
                      lastKnownNodeReady := true }

/-- The physical detach of `ControllerUnpublishVolume`. -/
def detachForUnpublish (req : UnpublishRequest) : Prog (Option GoError) := do
  match ← query (.detachVolume req.volumeId req.nodeId) with
  | some _ => do
      match ← query (.detachMetadataDriftError req.volumeId req.nodeId) with
      | some driftErr => return some driftErr
      | none => return some (.status .internal "failed to detach volume")
  | none => return none

/-- The closure of `ControllerUnpublishVolume` below its two locks. -/
def unpublishUnderLocks (cfg : Config) (req : UnpublishRequest) (volumeID nodeID : Int) :
    Prog (Option GoError) := do
  match ← query (.getVolumeInNode volumeID nodeID) with
  | .error _ => return none
  | .ok _ => do
      match ← shouldDelayDetach cfg req with
      | .ok state => do
          match ← startGrace state with
          | none => return none
          | some _ => detachForUnpublish req
      | .error _ => detachForUnpublish req

/-! ## The sticky reaper -/

/-- The lookup `expireStickyDetach` makes of a volume on a node: attached, absent, or unknown
because the volume or the node was not found. -/
def lookupAttachment (volume node : String) : Prog (Option Bool) := do
  let volumeID ← query (.volumeExists volume)
  let nodeID ← query (.nodeExists node)
  match volumeID, nodeID with
  | .ok volumeID, .ok nodeID =>
    if volumeID ≠ -1 ∧ nodeID ≠ -1 then do
      match ← query (.getVolumeInNode volumeID nodeID) with
      | .ok _ => return some true
      | .error _ => return some false
    else return none
  | _, _ => return none

/-- The detach of an expired entry, unless the volume is already absent from its node. -/
def detachExpired (confirmed : StickyAttachmentState) : Prog (Option GoError) := do
  match ← lookupAttachment confirmed.volumeID confirmed.nodeID with
  | some false => stickyClear confirmed.volumeID
  | _ => do
      match ← query (.detachVolume confirmed.volumeID confirmed.nodeID) with
      | some err => do
          match ← query (.detachMetadataDriftError confirmed.volumeID confirmed.nodeID) with
          | some driftErr => return some driftErr
          | none => return some err
      | none => stickyClear confirmed.volumeID

/-- The closure of `expireStickyDetach` below its two locks, once it has read the entry again. -/
def expireConfirmed (confirmed : StickyAttachmentState) : Prog (Option GoError) := do
  let now ← query .now
  if now < confirmed.expiresAt then return none
  else do
    match ← query (.hotplugCooldownState confirmed.nodeID) with
    | some _ => do
        deferStickyDetach confirmed
        return none
    | none => do
        match ← query (.volumeDesiredOnNode confirmed.volumeID confirmed.nodeID) with
        | .ok (true, _) => do
            match ← lookupAttachment confirmed.volumeID confirmed.nodeID with
            | some true => stickyClear confirmed.volumeID
            | _ => detachExpired confirmed
        | _ => detachExpired confirmed

/-- The closure of `expireStickyDetach` below its two locks. -/
def expireUnderLocks (current : StickyAttachmentState) : Prog (Option GoError) := do
  match ← perform (.stickyGet .other current.volumeID) with
  | none => return none
  | some confirmed => expireConfirmed confirmed

/-! ## The attachment reconciler -/

/-- The closure of `detachObservedAttachment` below its two locks. -/
def detachObservedUnderLocks (attachment : ObservedAttachment) : Prog (Option GoError) := do
  match ← perform (.stickyGet .other attachment.volumeHandle) with
  | some _ => return none
  | none => do
      match ← query (.hotplugCooldownState attachment.nodeName) with
      | some _ => return none
      | none => do
          match ← query (.getVolumeInNode attachment.imageID attachment.nodeID) with
          | .error _ => return none
          | .ok _ => query (.detachVolume attachment.volumeHandle attachment.nodeName)

/-! ## Local device recovery -/

/-- A non-blank value of the report, or else one of the runtime context. -/
def reportOr (ctx : StringMap) (key value fallback : String) : StringMap :=
  if trimSpace value ≠ "" then ctx.set key (trimSpace value)
  else if fallback ≠ "" then ctx.set key fallback
  else ctx

def localDeviceRecoveryParams (report : LocalDeviceMissingReport) (runtimeCtx : RuntimeContext) :
    StringMap :=
  let params : StringMap := [(annotationBackend, "local")]
  let params := reportOr params paramPVCNamespace report.pvcNamespace runtimeCtx.pvcNamespace
  let params := reportOr params paramPVCName report.pvcName runtimeCtx.pvcName
  let params := reportOr params paramPVName report.pvName runtimeCtx.pvName
  let params := reportOr params "deviceSerial" report.deviceSerial ""
  reportOr params "opennebulaImageID" report.openNebulaImageID ""

/-- The attach that ends a recovery, and its confirmation. -/
def reattach (report : LocalDeviceMissingReport) (runtimeCtx : RuntimeContext)
    (volumeID nodeID : Int) : Prog (Option GoError) := do
  let params := localDeviceRecoveryParams report runtimeCtx
  match ← query
      (.attachVolume (trimSpace report.volumeID) (trimSpace report.node) false params) with
  | some err => return some (err.err.wrap "failed to attach volume back to same node: ")
  | none => do
      match ← query (.getVolumeInNode volumeID nodeID) with
      | .error err =>
        return some (err.err.wrap "failed to confirm recovered same-node attachment: ")
      | .ok _ => do
          clearStickyReuseState (trimSpace report.volumeID) (trimSpace report.node)
          return none

/-- The closure of `executeLocalDeviceRecovery` below its two locks. -/
def recoverUnderLocks (report : LocalDeviceMissingReport) (runtimeCtx : RuntimeContext)
    (volumeID nodeID : Int) : Prog (Option GoError) := do
  let node := trimSpace report.node
  let volume := trimSpace report.volumeID
  match ← query (.volumeDesiredOnNode volume node) with
  | .error err => return some (err.wrap "failed to confirm same-node desired state: ")
  | .ok (false, _) => return some (.plain ("volume is no longer desired on node " ++ node))
  | .ok (true, _) => do
      match ← query (.getVolumeInNode volumeID nodeID) with
      | .ok target => do
          match ← query (.detachVolume volume node) with
          | some err =>
            return some (err.wrap
              ("failed to detach existing same-node attachment target " ++ target ++ ": "))
          | none => reattach report runtimeCtx volumeID nodeID
      | .error _ => reattach report runtimeCtx volumeID nodeID

/-! ## Queued functions -/

/-- The node whose lock a queued function takes first. -/
def Closure.node : Closure → String
  | .publish req _ _ _ => req.nodeId
  | .unpublish req _ _ => req.nodeId
  | .expireStickyDetach current => current.nodeID
  | .detachObservedAttachment attachment => attachment.nodeName
  | .localDeviceRecovery report _ _ _ => trimSpace report.node

/-- The volume whose lock a queued function takes second. -/
def Closure.volume : Closure → String
  | .publish req _ _ _ => req.volumeId
  | .unpublish req _ _ => req.volumeId
  | .expireStickyDetach current => current.volumeID
  | .detachObservedAttachment attachment => attachment.volumeHandle
  | .localDeviceRecovery report _ _ _ => trimSpace report.volumeID

def Closure.underLocks (cfg : Config) : Closure → Prog (Option GoError)
  | .publish req volumeID nodeID response => publishUnderLocks cfg req volumeID nodeID response
  | .unpublish req volumeID nodeID => unpublishUnderLocks cfg req volumeID nodeID
  | .expireStickyDetach current => expireUnderLocks current
  | .detachObservedAttachment attachment => detachObservedUnderLocks attachment
  | .localDeviceRecovery report runtimeCtx volumeID nodeID =>
    recoverUnderLocks report runtimeCtx volumeID nodeID

/-- What a queued function does: all of them take the lock of their node, then the lock of their
volume, in two separate calls of `Acquire`. -/
def Closure.body (cfg : Config) (fn : Closure) : Prog (Option GoError) :=
  locked [controllerNodeLockKey fn.node] <|
    locked [controllerVolumeLockKey fn.volume] (fn.underLocks cfg)

end OpenNebulaCSI.Controller
