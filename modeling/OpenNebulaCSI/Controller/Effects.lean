import OpenNebulaCSI.Concurrency.Pool
import OpenNebulaCSI.Controller.HotplugQueue
import OpenNebulaCSI.Controller.OperationLocks

/-!
# Effects of the controller service

The controller's requests run as goroutines that share, inside the process, the operation locks,
the sticky attachment entries, the hotplug queue and the response variables their closures write
to. Everything else they touch (OpenNebula, the Kubernetes API, clocks and contexts) is outside the
process: a `Query` is answered by whatever the outside world says at that moment.

The queue is given functions. They are named by `Closure`, so that a request is a plain value; what
a closure does is defined with the handler it belongs to.

Left out are calls whose result the code ignores and which change nothing modelled here: metrics,
log lines, events, annotations, the hotplug guard and quarantine bookkeeping and the adaptive
timeouts. Where such a component decides something, it is a query.
-/

namespace OpenNebulaCSI.Controller

open Go Concurrency

/-- The functions the controller hands to the hotplug queue, with what they capture. -/
inductive Closure where
  /-- The attach of `ControllerPublishVolume`, writing its response to a variable. -/
  | publish (req : PublishRequest) (volumeID nodeID : Int) (response : ℕ)
  /-- The detach of `ControllerUnpublishVolume`. -/
  | unpublish (req : UnpublishRequest) (volumeID nodeID : Int)
  /-- The detach of `expireStickyDetach`. -/
  | expireStickyDetach (current : StickyAttachmentState)
  /-- The detach of `detachObservedAttachment`. -/
  | detachObservedAttachment (attachment : ObservedAttachment)
  /-- The reattach of `executeLocalDeviceRecovery`. -/
  | localDeviceRecovery (report : LocalDeviceMissingReport) (runtimeCtx : RuntimeContext)
      (volumeID nodeID : Int)
  deriving DecidableEq

/-- Questions to the world outside the process. -/
inductive Query where
  | volumeExists (volume : String)
  | nodeExists (node : String)
  | getVolumeInNode (volumeID nodeID : Int)
  | volumeReadyWithTimeout (volumeID : Int)
  | resolveVolumeSizeBytes (volume : String)
  | computeHotplugTimeout (sizeBytes : Int)
  | effectiveHotplugTimeout (sizeBytes floor : Int)
  | nodeDeviceDiscoveryTimeout (sizeBytes hotplugTimeout : Int)
  | attachVolume (volume node : String) (immutable : Bool) (params : StringMap)
  | detachVolume (volume node : String)
  | expandVolume (volume : String) (bytes : Int) (allowDetached : Bool)
  | expandSharedVolume (volume : String) (bytes : Int)
  | publishSharedVolume (volume : String) (readonly : Bool)
  | nodeReady (node : String)
  | isNodeReady (node : String)
  | resolveVolumeRuntimeContext (volume : String)
  | volumeDesiredOnNode (volume node : String)
  | getPersistentVolume (name : String)
  | listVolumeAttachments
  | hotplugCooldownState (node : String)
  | maintenanceActive
  | rejectIfOpenNebulaMetadataDrift (req : PublishRequest)
  | rejectIfHostArtifactQuarantineActive (req : PublishRequest)
  | handleHostArtifactConflict (req : PublishRequest) (conflict : GoError)
  | detachMetadataDriftError (volume node : String)
  | persistSticky (state : StickyAttachmentState)
  | deleteSticky (volume : String)
  | contextExpired
  | now

/-- The answers. A missing error is `none`; a missing object may also be the id `-1`. -/
@[reducible]
def Query.Answer : Query → Type
  | .volumeExists _ | .nodeExists _ => Except LookupError Int
  | .getVolumeInNode _ _ => Except LookupError String
  | .volumeReadyWithTimeout _ => Except LookupError Bool
  | .resolveVolumeSizeBytes _ => Except LookupError Int
  | .computeHotplugTimeout _ | .effectiveHotplugTimeout _ _ | .nodeDeviceDiscoveryTimeout _ _ => Int
  | .attachVolume _ _ _ _ => Option ProviderError
  | .detachVolume _ _ => Option GoError
  | .expandVolume _ _ _ | .expandSharedVolume _ _ => Except ProviderError Int
  | .publishSharedVolume _ _ => Except ProviderError StringMap
  | .nodeReady _ | .isNodeReady _ => Except LookupError Bool
  | .resolveVolumeRuntimeContext _ => Except GoError RuntimeContext
  | .volumeDesiredOnNode _ _ => Except GoError (Bool × String)
  | .getPersistentVolume _ => Except LookupError (Bool × VolumePhase)
  | .listVolumeAttachments => Except LookupError (List VolumeAttachment)
  | .hotplugCooldownState _ => Option Cooldown
  | .maintenanceActive | .contextExpired => Bool
  | .rejectIfOpenNebulaMetadataDrift _ | .rejectIfHostArtifactQuarantineActive _ => Option GoError
  | .handleHostArtifactConflict _ _ => GoError
  | .detachMetadataDriftError _ _ => Option GoError
  | .persistSticky _ | .deleteSticky _ => Option GoError
  | .now => Int

/-- Which code reads a sticky entry: the reuse of an attachment by a publish to a node, or
anything else. -/
inductive StickyReader where
  | reuse (node : String)
  | other
  deriving DecidableEq

/-- What a `select` on a request's channels and a context has seen. -/
inductive Signal where
  | started
  | done (err : Option GoError)
  | expired
  deriving DecidableEq

inductive Op where
  | query (q : Query)
  | registerLocks (keys : List String)
  | lock (ref : LockRef)
  | unlock (ref : LockRef)
  | unregisterLocks (refs : List LockRef)
  | stickyGet (reader : StickyReader) (volume : String)
  /-- Store an entry under a key and return the one it replaces. -/
  | stickySwap (volume : String) (state : StickyAttachmentState)
  | stickyDelete (volume : String)
  | newResponse
  | setResponse (slot : ℕ) (response : PublishResponse)
  | getResponse (slot : ℕ)
  | nextRequestID
  | enqueue (req : Request Closure)
  /-- The originator's `select` on `started`, `done` and its context. -/
  | selectStarted (id : ℕ)
  /-- A coalesced caller's `select` on `done` and its context. -/
  | selectDone (id : ℕ)
  | awaitDone (id : ℕ)
  | cancel (id : ℕ) (node : String)
  | nextRequest (node : String)
  | closeStarted (id : ℕ)
  | complete (id : ℕ) (err : Option GoError)
  | finish (node : String) (id : ℕ)

@[reducible]
def Op.Answer : Op → Type
  | .query q => q.Answer
  | .registerLocks _ => List LockRef
  | .stickyGet _ _ | .stickySwap _ _ => Option StickyAttachmentState
  | .newResponse | .nextRequestID => ℕ
  | .getResponse _ => Option PublishResponse
  | .enqueue _ => Request Closure × Bool
  | .selectStarted _ | .selectDone _ => Signal
  | .awaitDone _ => Option GoError
  | .cancel _ _ => Bool
  | .nextRequest _ => Option (Request Closure)
  | .lock _ | .unlock _ | .unregisterLocks _ | .stickyDelete _ | .setResponse _ _
  | .closeStarted _ | .complete _ _ | .finish _ _ => Unit

abbrev Prog :=
  Program Op Op.Answer

abbrev History :=
  List (Event Op Op.Answer)

/-- The state the goroutines of one controller process share. -/
structure World where
  locks : OperationLocks
  sticky : String → Option StickyAttachmentState
  queue : HotplugQueue Closure
  responses : List (Option PublishResponse)

/-- What the outside world decides about one operation: the answer to a query, the time, and which
ready channel of a `select` is taken. -/
structure Oracle where
  answer : (q : Query) → q.Answer
  now : Int
  signal : Signal

/-- How the shared state answers an operation of thread `t`. -/
def act (cfg : Config) (oracle : Oracle) (w : World) (t : ℕ) :
    (op : Op) → Option (op.Answer × World)
  | .query q => some (oracle.answer q, w)
  | .registerLocks keys =>
    let (refs, locks) := w.locks.register (OperationLocks.normalizeLockKeys keys)
    some (refs, { w with locks })
  | .lock ref => (w.locks.lock t ref).map fun locks => ((), { w with locks })
  | .unlock ref => some ((), { w with locks := w.locks.unlock ref })
  | .unregisterLocks refs => some ((), { w with locks := w.locks.unregister refs })
  | .stickyGet _ volume => some (w.sticky volume, w)
  | .stickySwap volume state =>
    some (w.sticky volume, { w with sticky := Function.update w.sticky volume (some state) })
  | .stickyDelete volume => some ((), { w with sticky := Function.update w.sticky volume none })
  | .newResponse => some (w.responses.length, { w with responses := w.responses ++ [none] })
  | .setResponse slot response =>
    some ((), { w with responses := w.responses.set slot (some response) })
  | .getResponse slot => some ((w.responses[slot]?).join, w)
  | .nextRequestID =>
    some (w.queue.seq + 1, { w with queue := { w.queue with seq := w.queue.seq + 1 } })
  | .enqueue req =>
    let (result, queue) := w.queue.enqueue cfg { req with caller := t }
    some (result, { w with queue })
  | .selectStarted id =>
    match oracle.signal with
    | .expired => some (.expired, w)
    | .started => if w.queue.started id then some (.started, w) else none
    | .done _ => (w.queue.done id).map fun err => (.done err, w)
  | .selectDone id =>
    match oracle.signal with
    | .expired => some (.expired, w)
    | _ => (w.queue.done id).map fun err => (.done err, w)
  | .awaitDone id => (w.queue.done id).map fun err => (err, w)
  | .cancel id node =>
    let (cancelled, queue) := w.queue.cancel id node
    some (cancelled, { w with queue })
  | .nextRequest node =>
    let (req, queue) := w.queue.next cfg node oracle.now
    some (req, { w with queue })
  | .closeStarted id => some ((), { w with queue := w.queue.closeStarted id })
  | .complete id err => some ((), { w with queue := w.queue.complete id err })
  | .finish node id => some ((), { w with queue := w.queue.finish node id })

/-- The parts of the shared state. -/
inductive Part where
  | locks | sticky | queue | responses
  deriving DecidableEq

/-- The part of the shared state an operation may change. -/
def Op.changes : Op → Option Part
  | .registerLocks _ | .lock _ | .unlock _ | .unregisterLocks _ => some .locks
  | .stickySwap _ _ | .stickyDelete _ => some .sticky
  | .nextRequestID | .enqueue _ | .cancel _ _ | .nextRequest _ | .closeStarted _ | .complete _ _
  | .finish _ _ => some .queue
  | .newResponse | .setResponse _ _ => some .responses
  | .query _ | .stickyGet _ _ | .getResponse _ | .selectStarted _ | .selectDone _ | .awaitDone _ =>
    none

section Frame

variable {cfg : Config} {oracle : Oracle} {w w' : World} {t : ℕ} {op : Op} {ans : op.Answer}

/-- An operation leaves everything but its own part of the shared state alone. -/
theorem act_frame (hact : act cfg oracle w t op = some (ans, w')) :
    (op.changes ≠ some .locks → w'.locks = w.locks) ∧
    (op.changes ≠ some .queue → w'.queue = w.queue) ∧
    (op.changes ≠ some .responses → w'.responses = w.responses) := by
  cases op with
  | lock ref =>
    obtain ⟨locks, -, h⟩ := Option.map_eq_some_iff.1 hact
    cases h
    exact ⟨fun h => (h rfl).elim, fun _ => rfl, fun _ => rfl⟩
  | selectStarted id =>
    simp only [act] at hact
    split at hact
    · cases hact
      exact ⟨fun _ => rfl, fun _ => rfl, fun _ => rfl⟩
    · split at hact <;> cases hact
      exact ⟨fun _ => rfl, fun _ => rfl, fun _ => rfl⟩
    obtain ⟨_, _, h⟩ := Option.map_eq_some_iff.1 hact
    cases h
    exact ⟨fun _ => rfl, fun _ => rfl, fun _ => rfl⟩
  | selectDone id =>
    simp only [act] at hact
    split at hact
    · cases hact
      exact ⟨fun _ => rfl, fun _ => rfl, fun _ => rfl⟩
    obtain ⟨_, _, h⟩ := Option.map_eq_some_iff.1 hact
    cases h
    exact ⟨fun _ => rfl, fun _ => rfl, fun _ => rfl⟩
  | awaitDone id =>
    obtain ⟨_, _, h⟩ := Option.map_eq_some_iff.1 hact
    cases h
    exact ⟨fun _ => rfl, fun _ => rfl, fun _ => rfl⟩
  | registerLocks _ | unlock _ | unregisterLocks _ =>
    cases hact
    exact ⟨fun h => (h rfl).elim, fun _ => rfl, fun _ => rfl⟩
  | newResponse | setResponse _ _ =>
    cases hact
    exact ⟨fun _ => rfl, fun _ => rfl, fun h => (h rfl).elim⟩
  | query _ | stickyGet _ _ | getResponse _ | stickySwap _ _ | stickyDelete _ =>
    cases hact
    exact ⟨fun _ => rfl, fun _ => rfl, fun _ => rfl⟩
  | _ =>
    cases hact
    exact ⟨fun _ => rfl, fun h => (h rfl).elim, fun _ => rfl⟩

theorem act_locks (hact : act cfg oracle w t op = some (ans, w'))
    (hop : op.changes ≠ some .locks) : w'.locks = w.locks :=
  (act_frame hact).1 hop

theorem act_queue (hact : act cfg oracle w t op = some (ans, w'))
    (hop : op.changes ≠ some .queue) : w'.queue = w.queue :=
  (act_frame hact).2.1 hop

theorem act_responses (hact : act cfg oracle w t op = some (ans, w'))
    (hop : op.changes ≠ some .responses) : w'.responses = w.responses :=
  (act_frame hact).2.2 hop

end Frame

/-! ## Calls -/

abbrev perform (op : Op) : Prog op.Answer :=
  Program.perform op

abbrev query (q : Query) : Prog q.Answer :=
  perform (Op.query q)

/-! ## A healthy outside world -/

/-- The disk is attached nowhere. -/
def detached : Int → Option String :=
  fun _ => none

/-- The disk is attached to the node with the given id. -/
def attachedTo (id : Int) : Int → Option String :=
  fun nodeID => if nodeID = id then some "sdb" else none

/-- The answers of a cluster in which everything works: one volume, image 7, of the nodes "n1" and
"n2", with ids 1 and 2; `attached` is the target of its disk on the node with the given id. -/
def healthy (attached : Int → Option String) : (q : Query) → q.Answer
  | .volumeExists _ => .ok 7
  | .nodeExists node => .ok (if node = "n1" then 1 else 2)
  | .getVolumeInNode _ nodeID =>
    match attached nodeID with
    | some target => .ok target
    | none => .error (.notFound (.plain "disk not found"))
  | .volumeReadyWithTimeout _ => .ok (attached 1).isNone
  | .resolveVolumeSizeBytes _ => .ok 1073741824
  | .computeHotplugTimeout _ => 120000000000
  | .effectiveHotplugTimeout _ floor => floor
  | .nodeDeviceDiscoveryTimeout _ _ => 30000000000
  | .attachVolume _ _ _ _ => none
  | .detachVolume _ _ => none
  | .expandVolume _ bytes _ => .ok bytes
  | .expandSharedVolume _ bytes => .ok bytes
  | .publishSharedVolume _ _ => .ok []
  | .nodeReady _ => .ok true
  | .isNodeReady _ => .ok true
  | .resolveVolumeRuntimeContext volume =>
    .ok { pvName := "pv-" ++ volume, pvcNamespace := "default", pvcName := "claim",
          pvAnnotations := [], accessModes := [.readWriteOnce], backend := "local",
          datastoreID := 100, restartMode := restartOptimizationValue, detachGraceHint := 0 }
  | .volumeDesiredOnNode _ _ => .ok (false, "")
  | .getPersistentVolume _ => .ok (false, .bound)
  | .listVolumeAttachments =>
    .ok [{ name := "va-1", pvName := some "pv-v", nodeName := "n1", attached := false,
           deleting := false },
         { name := "va-2", pvName := some "pv-v", nodeName := "n2", attached := true,
           deleting := true }]
  | .hotplugCooldownState _ => none
  | .maintenanceActive => false
  | .rejectIfOpenNebulaMetadataDrift _ => none
  | .rejectIfHostArtifactQuarantineActive _ => none
  | .handleHostArtifactConflict _ conflict => conflict
  | .detachMetadataDriftError _ _ => none
  | .persistSticky _ => none
  | .deleteSticky _ => none
  | .contextExpired => false
  | .now => 1000000000

end OpenNebulaCSI.Controller
