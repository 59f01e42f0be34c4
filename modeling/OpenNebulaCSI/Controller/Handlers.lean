import OpenNebulaCSI.Controller.Closures

/-!
# The requests of the controller

`HotplugQueueManager.Run` and the worker of a node's queue, with the validator the driver installs,
and on top of them the requests: publish, unpublish and expand, the sticky reaper's
`expireStickyDetach`, the reconciler's `detachObservedAttachment` and the local device recovery's
`executeLocalDeviceRecovery`. `controller` is the machine whose threads are these requests and the
workers.
-/

namespace OpenNebulaCSI.Controller

open Go Concurrency

/-! ## The queue as its callers see it -/

/-- `HotplugQueueManager.Run`. -/
def hotplugQueueRun (cfg : Config) (node : String) (operation : Operation) (volume : String)
    (priority : Priority) (fn : Closure) : Prog (Option GoError) :=
  if node = "" then fn.body cfg
  else do
    let id ← perform .nextRequestID
    let enqueuedAt ← query .now
    -- The queue fills in the wait limit and the caller.
    let (req, coalesced) ← perform (.enqueue
      { id, node, operation, volume, priority, enqueuedAt, waitLimit := 0, caller := 0, fn })
    if coalesced then do
      match ← perform (.selectDone req.id) with
      | .done err => return err
      | _ => return some (.queueTimeout node operation volume req.waitLimit)
    else do
      match ← perform (.selectStarted req.id) with
      | .started => perform (.awaitDone req.id)
      | .done err => return err
      | .expired => do
          if ← perform (.cancel req.id node) then
            return some (.queueTimeout node operation volume req.waitLimit)
          else perform (.awaitDone req.id)

def withQueuedHotplug (cfg : Config) (node : String) (operation : Operation) (volume : String)
    (priority : Priority) (fn : Closure) : Prog (Option GoError) :=
  if cfg.hotplugQueueEnabled then hotplugQueueRun cfg node operation volume priority fn
  else fn.body cfg

/-! ## The worker of a node's queue -/

inductive HotplugQueueValidation where
  | valid
  | completed (reason message : String)
  | stale (reason message : String)
  | paused (reason message : String)
  deriving DecidableEq

/-- `attachRequestStale`: why an attach is no longer wanted, if it is not. -/
def attachRequestStale (cfg : Config) (node volume : String) : Prog (Option String) :=
  if !cfg.kubeRuntimeEnabled then return none
  else do
    match ← query (.resolveVolumeRuntimeContext volume) with
    | .error err =>
      if contains err.message "persistent volume for handle" then
        return some "persistent_volume_not_found"
      else return none
    | .ok runtimeCtx => do
        match ← query (.getPersistentVolume runtimeCtx.pvName) with
        | .error (.notFound _) => return some "persistent_volume_not_found"
        | .error _ => return none
        | .ok (deleting, phase) =>
          if deleting then return some "persistent_volume_deleting"
          else if phase = .released then return some "persistent_volume_released"
          else if phase = .failed then return some "persistent_volume_failed"
          else do
            match ← query .listVolumeAttachments with
            | .error _ => return none
            | .ok vas =>
              if vas.any fun va =>
                  va.pvName = some runtimeCtx.pvName && va.nodeName = node && !va.deleting then
                return none
              else return some "volume_attachment_not_found"

/-- The verdict of `validateHotplugQueueRequest` once the volume and the node have been found and
the node is not paused. -/
def validateAttachment (cfg : Config) (node : String) (operation : Operation) (volume : String)
    (attached : Bool) : Prog HotplugQueueValidation :=
  match operation with
  | .attach =>
    if attached then
      return .completed "already_attached"
        ("volume " ++ volume ++ " is already attached to node " ++ node)
    else do
      match ← attachRequestStale cfg node volume with
      | some reason =>
        return .stale reason ("queued attach for volume " ++ volume ++ " on node " ++ node ++
          " is stale: " ++ reason)
      | none => return .valid
  | .detach =>
    if attached then return .valid
    else
      return .completed "already_detached"
        ("volume " ++ volume ++ " is already detached from node " ++ node)
  | .reattach => return .valid

def validateHotplugQueueRequest (cfg : Config) (node : String) (operation : Operation)
    (volume : String) : Prog HotplugQueueValidation :=
  if trimSpace node = "" ∨ trimSpace volume = "" then return .valid
  else do
    match ← query (.volumeExists volume) with
    | .error _ => return .valid
    | .ok volumeID =>
      if volumeID = -1 then
        return .stale "volume_not_found" ("volume " ++ volume ++
          " no longer exists; dropping queued " ++ operation.text ++ " for node " ++ node)
      else do
        match ← query (.nodeExists node) with
        | .error _ => return .valid
        | .ok nodeID =>
          if nodeID = -1 then
            return .stale "node_not_found" ("node " ++ node ++
              " no longer exists; dropping queued " ++ operation.text ++ " for volume " ++ volume)
          else do
            match ← query (.hotplugCooldownState node) with
            | some cooldown => return .paused cooldown.reason cooldown.message
            | none => do
                match ← query (.getVolumeInNode volumeID nodeID) with
                | .ok _ => validateAttachment cfg node operation volume true
                | .error _ => validateAttachment cfg node operation volume false

/-- The part of `runRequest` that runs the request's function under the active timeout. -/
def runFunction (cfg : Config) (req : Request Closure) : Prog (Option GoError) := do
  match ← req.fn.body cfg with
  | some (.contextDeadline message) =>
    if 0 < cfg.maxActive then
      return some (.queueActiveTimeout req.node req.operation req.volume cfg.maxActive)
    else return some (.contextDeadline message)
  | some err => return some err
  | none => do
      if ← query .contextExpired then
        return some (.queueActiveTimeout req.node req.operation req.volume cfg.maxActive)
      else return none

def runRequest (cfg : Config) (req : Request Closure) : Prog (Option GoError) :=
  if cfg.validatorInstalled then do
    match ← validateHotplugQueueRequest cfg req.node req.operation req.volume with
    | .completed _ _ => return none
    | .stale reason message =>
      return some (.queueStale req.node req.operation req.volume reason message)
    | .paused reason message =>
      return some (.queuePaused req.node req.operation req.volume reason message)
    | .valid => runFunction cfg req
  else runFunction cfg req

/-- One iteration of `runNodeQueue`; `finish` lets the next one start. -/
def runNodeQueue (cfg : Config) (node : String) : Prog Unit := do
  match ← perform (.nextRequest node) with
  | none => return ()
  | some req => do
      perform (.closeStarted req.id)
      let err ← runRequest cfg req
      perform (.complete req.id err)
      perform (.finish node req.id)

/-! ## Requests -/

/-- The status a handler answers with when the queue reports an error. -/
def queueStatus (err : GoError) : GoError :=
  match err with
  | .queuePaused .. => .status .unavailable err.message
  | .queueTimeout .. | .queueActiveTimeout .. => .status .deadlineExceeded err.message
  | .queueStale .. => .status .aborted err.message
  | _ => if err.code = .unknown then .status .aborted err.message else err

/-- A response together with an error, either of which may be nil. -/
structure PublishResult where
  response : Option PublishResponse
  err : Option GoError

def PublishResult.fail (code : Code) (message : String) : PublishResult :=
  { response := none, err := some (.status code message) }

/-- `ControllerPublishVolume` for a shared filesystem volume. -/
def publishShared (cfg : Config) (req : PublishRequest) : Prog PublishResult :=
  if !cfg.sharedFilesystemProvider then
    return .fail .failedPrecondition "shared filesystem provider is not configured"
  else do
    match ← query (.nodeExists req.nodeId) with
    | .error _ => return .fail .notFound "node not found"
    | .ok nodeID =>
      if nodeID = -1 then return .fail .notFound "node not found"
      else do
        match ← query (.publishSharedVolume req.volumeId (req.readonly || req.immutable)) with
        | .error err =>
          return { response := none, err := some (providerStatus "failed to publish volume" err) }
        | .ok ctx =>
          let mounter := trimSpace (req.volumeContext.get "cephfsMounter")
          let ctx := if mounter ≠ "" then ctx.set "cephfsMounter" mounter else ctx
          return { response := some ⟨ctx⟩, err := none }

/-- The node a volume was last attached to, as far as the controller knows. -/
def maintenanceLastNodeForVolume (runtimeCtx : RuntimeContext) (volumeID : String) :
    Prog String := do
  match ← perform (.stickyGet .other volumeID) with
  | some state =>
    if trimSpace state.nodeID ≠ "" then return trimSpace state.nodeID
    else return trimSpace (runtimeCtx.pvAnnotations.get annotationLastAttachedNode)
  | none => return trimSpace (runtimeCtx.pvAnnotations.get annotationLastAttachedNode)

/-- The runtime context of a local single-writer volume while maintenance mode is active. -/
def maintenanceContext (cfg : Config) (volumeID : String) : Prog (Option RuntimeContext) :=
  if !cfg.maintenanceMode then return none
  else do
    if ← query .maintenanceActive then
      if !cfg.kubeRuntimeEnabled then return none
      else do
        match ← query (.resolveVolumeRuntimeContext volumeID) with
        | .error _ => return none
        | .ok runtimeCtx =>
          if runtimeContextEligibleForMaintenance runtimeCtx volumeID then return some runtimeCtx
          else return none
    else return none

/-- `maintenanceBlocksPublish`: the message of a blocked publish. -/
def maintenanceBlocksPublish (cfg : Config) (req : PublishRequest) : Prog (Option String) := do
  match ← maintenanceContext cfg req.volumeId with
  | none => return none
  | some runtimeCtx => do
      let lastNode ← maintenanceLastNodeForVolume runtimeCtx req.volumeId
      if trimSpace lastNode = "" ∨ trimSpace lastNode = trimSpace req.nodeId then return none
      else
        return some ("maintenance mode is active for local RWO volume " ++ req.volumeId ++
          ": refusing cross-node attach to " ++ req.nodeId ++
          " while last attached node is " ++ lastNode)

/-- `ControllerPublishVolume` for a disk that is not attached to the node yet. -/
def publishQueued (cfg : Config) (req : PublishRequest) (volumeID nodeID : Int) :
    Prog PublishResult := do
  match ← maintenanceBlocksPublish cfg req with
  | some message => return .fail .unavailable message
  | none => do
      match ← query (.hotplugCooldownState req.nodeId) with
      | some cooldown => return .fail .unavailable cooldown.message
      | none => do
          let sticky ← perform (.stickyGet .other req.volumeId)
          let slot ← perform .newResponse
          match ← withQueuedHotplug cfg req.nodeId .attach req.volumeId
              (if sticky.isSome then .critical else .normal)
              (.publish req volumeID nodeID slot) with
          | some err => return { response := none, err := some (queueStatus err) }
          | none => do
              let response ← perform (.getResponse slot)
              return { response, err := none }

/-- `ControllerPublishVolume` for a disk volume. -/
def publishDisk (cfg : Config) (req : PublishRequest) : Prog PublishResult := do
  match ← query (.volumeExists req.volumeId) with
  | .error _ => return .fail .notFound "volume not found"
  | .ok volumeID =>
    if volumeID = -1 then return .fail .notFound "volume not found"
    else do
      match ← query (.nodeExists req.nodeId) with
      | .error _ => return .fail .notFound "node not found"
      | .ok nodeID =>
        if nodeID = -1 then return .fail .notFound "node not found"
        else do
          match ← query (.getVolumeInNode volumeID nodeID) with
          | .ok target => do
              clearStickyReuseState req.volumeId req.nodeId
              let ctx ← publishContextForVolume cfg req.volumeId target 0 req.volumeContext
              return { response := some ⟨ctx⟩, err := none }
          | .error _ => publishQueued cfg req volumeID nodeID

def controllerPublishVolume (cfg : Config) (req : PublishRequest) : Prog PublishResult :=
  if req.volumeId = "" then return .fail .invalidArgument "missing volume ID"
  else if req.nodeId = "" then return .fail .invalidArgument "missing node ID"
  else
    match req.volumeCapability with
    | none => return .fail .invalidArgument "missing volume capability"
    | some none => return .fail .invalidArgument "missing access mode"
    | some (some _) =>
      if isSharedFilesystemVolumeID req.volumeId then publishShared cfg req
      else publishDisk cfg req

/-- `rescueSameNodeUnpublish`: the answer of an unpublish whose volume Kubernetes still wants on
the node. -/
def rescueSameNodeUnpublish (cfg : Config) (req : UnpublishRequest) (volumeID nodeID : Int) :
    Prog (Option (Option GoError)) :=
  if !cfg.kubeRuntimeEnabled then return none
  else do
    match ← query (.resolveVolumeRuntimeContext req.volumeId) with
    | .error _ => return none
    | .ok runtimeCtx =>
      if !runtimeContextEligibleForMaintenance runtimeCtx req.volumeId then return none
      else do
        match ← query (.volumeDesiredOnNode req.volumeId req.nodeId) with
        | .ok (true, _) => do
            match ← query (.getVolumeInNode volumeID nodeID) with
            | .error _ => return none
            | .ok _ => do
                match ← perform (.stickyGet .other req.volumeId) with
                | none => return some none
                | some state =>
                  if trimSpace state.nodeID = trimSpace req.nodeId then do
                    match ← stickyClear req.volumeId with
                    | some err =>
                      return some (some (.status .internal
                        ("failed to clear sticky attachment state after same-node detach rescue: "
                          ++ err.message)))
                    | none => return some none
                  else return some none
        | _ => return none

/-- `startMaintenanceDetachHold`: the answer of an unpublish that maintenance mode turns into a
hold. -/
def startMaintenanceDetachHold (cfg : Config) (req : UnpublishRequest) :
    Prog (Option (Option GoError)) := do
  match ← maintenanceContext cfg req.volumeId with
  | none => return none
  | some runtimeCtx => do
      let graceSeconds :=
        if cfg.maintenanceStickyGraceSeconds ≤ 0 then 1800 else cfg.maintenanceStickyGraceSeconds
      let now ← query .now
      match ← startGrace
          { volumeID := req.volumeId
            nodeID := req.nodeId
            backend := "local"
            datastoreID := runtimeCtx.datastoreID
            pvcNamespace := runtimeCtx.pvcNamespace
            pvcName := runtimeCtx.pvcName
            startedAt := now
            expiresAt := now + graceSeconds * 1000000000
            graceSeconds
            reason := "maintenance_mode"
            lastKnownNodeReady := true } with
      | some err =>
        return some (some (.status .internal
          ("failed to persist maintenance hold: " ++ err.message)))
      | none => return some none

/-- `ControllerUnpublishVolume` for a volume that is attached to the node. -/
def unpublishAttached (cfg : Config) (req : UnpublishRequest) (volumeID nodeID : Int) :
    Prog (Option GoError) := do
  match ← rescueSameNodeUnpublish cfg req volumeID nodeID with
  | some answer => return answer
  | none => do
      match ← startMaintenanceDetachHold cfg req with
      | some answer => return answer
      | none => do
          match ← query (.hotplugCooldownState req.nodeId) with
          | some cooldown => return some (.status .unavailable cooldown.message)
          | none => do
              match ← withQueuedHotplug cfg req.nodeId .detach req.volumeId .normal
                  (.unpublish req volumeID nodeID) with
              | some err => return some (queueStatus err)
              | none => return none

/-- `ControllerUnpublishVolume` when the node is not found. -/
def unpublishWithoutNode (volumeID : Int) : Prog (Option GoError) := do
  match ← query (.volumeReadyWithTimeout volumeID) with
  | .error _ => return some (.status .internal "failed to check if volume is used")
  | .ok ready =>
    if ready then return none
    else return some (.status .notFound "node not found and volume is still in use")

/-- The error of `ControllerUnpublishVolume`; its response carries no data. -/
def controllerUnpublishVolume (cfg : Config) (req : UnpublishRequest) : Prog (Option GoError) :=
  if req.volumeId = "" then return some (.status .invalidArgument "missing volume ID")
  else if req.nodeId = "" then return some (.status .invalidArgument "missing node ID")
  else if isSharedFilesystemVolumeID req.volumeId then return none
  else do
    match ← query (.volumeExists req.volumeId) with
    | .error _ => return none
    | .ok volumeID =>
      if volumeID = -1 then return none
      else do
        match ← query (.nodeExists req.nodeId) with
        | .error _ => unpublishWithoutNode volumeID
        | .ok nodeID =>
          if nodeID = -1 then unpublishWithoutNode volumeID
          else do
            match ← query (.getVolumeInNode volumeID nodeID) with
            | .error _ => return none
            | .ok _ => unpublishAttached cfg req volumeID nodeID

structure ExpandResponse where
  capacityBytes : Int
  nodeExpansionRequired : Bool

def controllerExpandVolume (cfg : Config) (req : ExpandRequest) :
    Prog (Except GoError ExpandResponse) :=
  if req.volumeId = "" then return .error (.status .invalidArgument "missing volume ID")
  else if req.requiredBytes.getD 0 ≤ 0 then
    return .error (.status .invalidArgument "missing required capacity range")
  else if isSharedFilesystemVolumeID req.volumeId then
    if !cfg.sharedFilesystemProvider then
      return .error (.status .failedPrecondition "shared filesystem provider is not configured")
    else if !cfg.cephFSExpansion then
      return .error (.status .unimplemented
        "CephFS shared filesystem expansion is disabled by feature gate")
    else do
      match ← query (.expandSharedVolume req.volumeId (req.requiredBytes.getD 0)) with
      | .error err => return .error (providerStatus "failed to expand CephFS volume" err)
      | .ok newSize => return .ok { capacityBytes := newSize, nodeExpansionRequired := false }
  else
    locked [controllerVolumeLockKey req.volumeId] do
      match ← query (.expandVolume req.volumeId (req.requiredBytes.getD 0)
          cfg.detachedDiskExpansion) with
      | .error err => return .error (providerStatus "failed to expand volume" err)
      | .ok newSize =>
        return .ok { capacityBytes := newSize, nodeExpansionRequired := !req.block }

def expireStickyDetach (cfg : Config) (state : StickyAttachmentState) : Prog Unit := do
  match ← perform (.stickyGet .other state.volumeID) with
  | none => return ()
  | some current => do
      let now ← query .now
      if now < current.expiresAt then return ()
      else do
        match ← query (.hotplugCooldownState current.nodeID) with
        | some _ => deferStickyDetach current
        | none => do
            let _ ← withQueuedHotplug cfg current.nodeID .detach current.volumeID .background
              (.expireStickyDetach current)
            return ()

def detachObservedAttachment (cfg : Config) (attachment : ObservedAttachment)
    (priority : Priority) : Prog (Option GoError) :=
  withQueuedHotplug cfg attachment.nodeName .detach attachment.volumeHandle priority
    (.detachObservedAttachment attachment)

def executeLocalDeviceRecovery (cfg : Config) (report : LocalDeviceMissingReport)
    (runtimeCtx : RuntimeContext) (volumeID nodeID : Int) : Prog (Option GoError) :=
  withQueuedHotplug cfg (trimSpace report.node) .reattach (trimSpace report.volumeID) .critical
    (.localDeviceRecovery report runtimeCtx volumeID nodeID)

/-! ## The controller process -/

/-- What a goroutine of the controller was started for. -/
inductive Kind where
  | publish (req : PublishRequest)
  | unpublish (req : UnpublishRequest)
  | expand (req : ExpandRequest)
  | expireStickyDetach (state : StickyAttachmentState)
  | detachObservedAttachment (attachment : ObservedAttachment) (priority : Priority)
  | executeLocalDeviceRecovery (report : LocalDeviceMissingReport) (runtimeCtx : RuntimeContext)
      (volumeID nodeID : Int)
  | worker (node : String)

/-- What a goroutine has returned. -/
inductive Outcome where
  | publish (result : PublishResult)
  | unpublish (err : Option GoError)
  | expand (result : Except GoError ExpandResponse)
  | finished

def Kind.program (cfg : Config) : Kind → Prog Outcome
  | .publish req => do return .publish (← controllerPublishVolume cfg req)
  | .unpublish req => do return .unpublish (← controllerUnpublishVolume cfg req)
  | .expand req => do return .expand (← controllerExpandVolume cfg req)
  | .expireStickyDetach state => do
      Controller.expireStickyDetach cfg state
      return .finished
  | .detachObservedAttachment attachment priority => do
      let _ ← Controller.detachObservedAttachment cfg attachment priority
      return .finished
  | .executeLocalDeviceRecovery report runtimeCtx volumeID nodeID => do
      let _ ← Controller.executeLocalDeviceRecovery cfg report runtimeCtx volumeID nodeID
      return .finished
  | .worker node => do
      runNodeQueue cfg node
      return .finished

/-- Requests may arrive at any time; a worker iteration runs when the queue has asked for it. -/
def start (cfg : Config) (w : World) : Kind → Option (Prog Outcome × World)
  | .worker node =>
    if node ∈ w.queue.starting then
      some (Kind.program cfg (.worker node),
        { w with queue := { w.queue with starting := w.queue.starting.erase node } })
    else none
  | kind => some (kind.program cfg, w)

/-- Changes from outside: the sticky entries are replaced by the ones of the ConfigMap. -/
inductive Resync where
  | loadFromConfigMap (entries : String → Option StickyAttachmentState)

/-- The controller process: any number of requests and workers over the shared state, with answers
and resyncs chosen by the outside world. -/
def controller (cfg : Config) : Machine Op Op.Answer Kind Outcome World Oracle Resync where
  start := start cfg
  act := act cfg
  change
    | .loadFromConfigMap entries, w => some { w with sticky := entries }

theorem start_frame {cfg : Config} {w w' : World} {kind : Kind} {prog : Prog Outcome}
    (h : (controller cfg).start w kind = some (prog, w')) :
    prog = kind.program cfg ∧
      ∃ starting, w' = { w with queue := { w.queue with starting } } := by
  cases kind with
  | worker node =>
    simp only [controller, start] at h
    split at h <;> cases h
    exact ⟨rfl, _, rfl⟩
  | _ =>
    cases h
    exact ⟨rfl, _, rfl⟩

abbrev ControllerPool :=
  Pool Op Op.Answer Kind Outcome World

abbrev ControllerStep :=
  Label Kind Oracle Resync

/-- A freshly started process: no locks, an empty queue, and whatever entries were loaded. -/
def Fresh (w : World) : Prop :=
  ∃ entries, w = { locks := .new, sticky := entries, queue := .new, responses := [] }

/-- The states of the controller that runs lead to, when each step satisfies `ok`. -/
abbrev Reachable (cfg : Config) (ok : ControllerPool → ControllerStep → Prop) :
    ControllerPool → Prop :=
  (controller cfg).Reachable Fresh ok

/-! ## Runs in a healthy world -/

/-- A process started with the given sticky entry of the volume "v". -/
def loadedWorld (entry : Option StickyAttachmentState) : World where
  locks := .new
  sticky volume := if volume = "v" then entry else none
  queue := .new
  responses := []

theorem fresh_loadedWorld (entry : Option StickyAttachmentState) : Fresh (loadedWorld entry) :=
  ⟨_, rfl⟩

/-- `count` operations of one thread in a healthy world, where `attached` is the target of the disk
on the node with the given id; a `select` waits for the result. -/
def acts (attached : Int → Option String) (t count : ℕ) : List ControllerStep :=
  List.replicate count (.act t
    { answer := healthy attached, now := 1000000000, signal := .done none })

/-- A publish of the volume "v". -/
def publishOf (node : String) : PublishRequest where
  volumeId := "v"
  nodeId := node
  volumeCapability := some (some .singleNodeWriter)
  readonly := false
  volumeContext := []

end OpenNebulaCSI.Controller
