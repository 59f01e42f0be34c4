import OpenNebulaCSI.Controller.Closures
import OpenNebulaCSI.Reconciler.Lists

/-!
# A pass of the attachment reconciler

`ReconcileOnce` as a program. It lists the OpenNebula attachments and the Kubernetes objects in four
calls, detaches attachments without a matching VolumeAttachment or an active pod, and deletes
VolumeAttachments without an attachment, each after a grace time since the first sighting.

`reconciler` is the machine of such passes. The Kubernetes objects are part of its state and may
change between any two operations; what OpenNebula, the controller process and the clock say is
decided by the outside world. A detach is a queued function of the controller. Its caller waits for
it, so it is run here in the pass itself, after a `runQueued` whose answer tells whether the queue
runs it at all.
-/

namespace OpenNebulaCSI.Reconciler

open Go Concurrency Controller

/-- The maps of first sightings. -/
inductive Store where
  | orphan | staleVA | divergent
  deriving DecidableEq

/-- What becomes of a function handed to the hotplug queue: it is run, or the queue answers without
running it. -/
inductive QueueAnswer where
  | execute
  | answered (err : Option GoError)

inductive Op where
  | listCurrentAttachments
  | listVolumeAttachments
  | listPersistentVolumes
  | listPods
  | now
  /-- The order in which Go ranges over a map with these keys. -/
  | rangeKeys (keys : List String)
  | hasVolume (volume : String)
  | due (store : Store) (key : String) (now : Int)
  | prune (store : Store) (current : List String)
  | runQueued (attachment : ObservedAttachment) (priority : Priority)
  | deleteVolumeAttachment (name : String)
  /-- An operation of the controller process. -/
  | controller (op : Controller.Op)

@[reducible]
def Op.Answer : Op → Type
  | .listCurrentAttachments => Except GoError (List ObservedAttachment)
  | .listVolumeAttachments => Except GoError (List VolumeAttachment)
  | .listPersistentVolumes => Except GoError (List PersistentVolume)
  | .listPods => Except GoError (List Pod)
  | .now => Int
  | .rangeKeys keys => { order : List String // order.Perm keys }
  | .hasVolume _ | .due _ _ _ => Bool
  | .prune _ _ => Unit
  | .runQueued _ _ => QueueAnswer
  | .deleteVolumeAttachment _ => Option LookupError
  | .controller op => op.Answer

abbrev Prog :=
  Program Op Op.Answer

abbrev History :=
  List (Event Op Op.Answer)

abbrev perform (op : Op) : Prog op.Answer :=
  Program.perform op

/-- Code of the controller process, run by the reconciler. -/
def inController {α : Type} (p : Controller.Prog α) : Prog α :=
  p.lift Op.controller fun _ ans => ans

/-! ## The pass -/

def skipVolume (volumeHandle : String) : Prog Bool := do
  match ← inController (Controller.perform (.stickyGet .other volumeHandle)) with
  | some _ => return true
  | none => perform (.hasVolume volumeHandle)

def detachObservedAttachment (cfg : Config) (attachment : ObservedAttachment)
    (priority : Priority) : Prog (Option GoError) := do
  match ← perform (.runQueued attachment priority) with
  | .answered err => return err
  | .execute => inController ((Closure.detachObservedAttachment attachment).body cfg)

/-- The keys of the orphans and of the divergent attachments the pass has seen. -/
structure Current where
  orphans : List String
  divergent : List String

/-- Detach an attachment that has been in the map of its kind for the grace time of the map. -/
def detachWhenDue (cfg : Config) (attachment : ObservedAttachment) (store : Store)
    (priority : Priority) (now : Int) (current : Current) : Prog Current := do
  if ← perform (.due store (volumeNodeKey attachment.volumeHandle attachment.nodeName) now) then do
    let _ ← detachObservedAttachment cfg attachment priority
    return current
  else return current

/-- The body of the loop over the attachments of a volume. -/
def reconcileAttachment (cfg : Config) (lists : Lists) (pv : PersistentVolume) (now : Int)
    (attachment : ObservedAttachment) (current : Current) : Prog Current :=
  let key := volumeNodeKey attachment.volumeHandle attachment.nodeName
  match lists.finding pv attachment with
  | .matched | .inUse => return current
  | .divergent =>
    detachWhenDue cfg attachment .divergent .critical now
      { current with divergent := key :: current.divergent }
  | .orphan =>
    detachWhenDue cfg attachment .orphan .background now
      { current with orphans := key :: current.orphans }

def reconcileAttachments (cfg : Config) (lists : Lists) (pv : PersistentVolume) (now : Int) :
    List ObservedAttachment → Current → Prog Current
  | [], current => return current
  | attachment :: rest, current => do
      let current ← reconcileAttachment cfg lists pv now attachment current
      reconcileAttachments cfg lists pv now rest current

/-- The body of the loop over the volumes with attachments. -/
def reconcileVolume (cfg : Config) (lists : Lists) (now : Int) (volumeHandle : String)
    (current : Current) : Prog Current :=
  match lists.pvByHandle volumeHandle with
  | none => return current
  | some pv => do
      if ← skipVolume volumeHandle then return current
      else reconcileAttachments cfg lists pv now (lists.attachmentsByVolume volumeHandle) current

def reconcileVolumes (cfg : Config) (lists : Lists) (now : Int) :
    List String → Current → Prog Current
  | [], current => return current
  | volumeHandle :: rest, current => do
      let current ← reconcileVolume cfg lists now volumeHandle current
      reconcileVolumes cfg lists now rest current

/-- The body of the loop over the VolumeAttachments; `stale` are the names the pass has seen. -/
def reconcileVolumeAttachment (lists : Lists) (now : Int) (va : VolumeAttachment)
    (stale : List String) : Prog (List String) :=
  if !va.attached then return stale
  else
    match va.pvName.bind (csiByName lists.pvs) with
    | none => return stale
    | some source => do
        if ← skipVolume source.volumeHandle then return stale
        else if attachmentByVolumeNode lists.attachments
            (volumeNodeKey source.volumeHandle va.nodeName) then
          return stale
        else do
          let stale := va.name :: stale
          if ← perform (.due .staleVA va.name now) then do
            -- The error is only logged.
            let _ ← perform (.deleteVolumeAttachment va.name)
            return stale
          else return stale

def reconcileVolumeAttachments (lists : Lists) (now : Int) :
    List VolumeAttachment → List String → Prog (List String)
  | [], stale => return stale
  | va :: rest, stale => do
      let stale ← reconcileVolumeAttachment lists now va stale
      reconcileVolumeAttachments lists now rest stale

/-- The end of a pass forgets what it has not seen. -/
def pruneStores (current : Current) (stale : List String) : Prog (Option GoError) := do
  perform (.prune .orphan current.orphans)
  perform (.prune .staleVA stale)
  perform (.prune .divergent current.divergent)
  return none

/-- The pass after its list calls. -/
def reconcileLists (cfg : Config) (lists : Lists) : Prog (Option GoError) := do
  let now ← perform .now
  let order ← perform (.rangeKeys lists.volumeHandles)
  let current ← reconcileVolumes cfg lists now order.val { orphans := [], divergent := [] }
  let stale ← reconcileVolumeAttachments lists now lists.vas []
  pruneStores current stale

def reconcileOnce (cfg : Config) : Prog (Option GoError) := do
  match ← perform .listCurrentAttachments with
  | .error err => return some err
  | .ok attachments => do
      match ← perform .listVolumeAttachments with
      | .error err => return some err
      | .ok vas => do
          match ← perform .listPersistentVolumes with
          | .error err => return some err
          | .ok pvs => do
              match ← perform .listPods with
              | .error err => return some err
              | .ok pods => reconcileLists cfg { attachments, vas, pvs, pods }

/-! ## Passes over a changing cluster -/

/-- The Kubernetes objects. -/
structure Cluster where
  vas : List VolumeAttachment
  pvs : List PersistentVolume
  pods : List Pod
  deriving DecidableEq

structure World where
  cluster : Cluster
  seen : Store → String → Option Int

structure Graces where
  orphanGrace : Int
  staleVAGrace : Int

/-- The grace times of `NewAttachmentReconciler` when nothing is configured. -/
def defaultGraces : Graces where
  orphanGrace := 120000000000
  staleVAGrace := 90000000000

def Graces.grace (graces : Graces) : Store → Int
  | .orphan | .divergent => graces.orphanGrace
  | .staleVA => graces.staleVAGrace

/-- What the outside world decides about one operation. -/
structure Oracle where
  attachments : Except GoError (List ObservedAttachment)
  listError : Option GoError
  now : Int
  order : (keys : List String) → { order : List String // order.Perm keys }
  hasVolume : Bool
  queue : QueueAnswer
  deleteError : Option LookupError
  controller : (op : Controller.Op) → op.Answer

/-- The answer to a list call of the Kubernetes API. -/
def Oracle.list {α : Type} (oracle : Oracle) (objects : List α) : Except GoError (List α) :=
  match oracle.listError with
  | some err => .error err
  | none => .ok objects

/-- How an operation of a pass is answered. A deletion takes effect as a change of the cluster. -/
def act (graces : Graces) (oracle : Oracle) (w : World) : (op : Op) → op.Answer × World
  | .listCurrentAttachments => (oracle.attachments, w)
  | .listVolumeAttachments => (oracle.list w.cluster.vas, w)
  | .listPersistentVolumes => (oracle.list w.cluster.pvs, w)
  | .listPods => (oracle.list w.cluster.pods, w)
  | .now => (oracle.now, w)
  | .rangeKeys keys => (oracle.order keys, w)
  | .hasVolume _ => (oracle.hasVolume, w)
  | .due store key now =>
    let (answer, seen) := due (graces.grace store) (w.seen store) key now
    (answer, { w with seen := Function.update w.seen store seen })
  | .prune store current =>
    ((), { w with seen := Function.update w.seen store (prune (w.seen store) current) })
  | .runQueued _ _ => (oracle.queue, w)
  | .deleteVolumeAttachment _ => (oracle.deleteError, w)
  | .controller op => (oracle.controller op, w)

/-- Passes of the reconciler, over objects that may change at any time. -/
def reconciler (cfg : Config) (graces : Graces) :
    Machine Op Op.Answer Unit (Option GoError) World Oracle Cluster where
  start w _ := some (reconcileOnce cfg, w)
  act oracle w _ op := some (act graces oracle w op)
  change cluster w := some { w with cluster }

abbrev ReconcilerPool :=
  Pool Op Op.Answer Unit (Option GoError) World

abbrev ReconcilerStep :=
  Label Unit Oracle Cluster

/-- A new reconciler has seen nothing. -/
def Fresh (w : World) : Prop :=
  w.seen = fun _ _ => none

abbrev Reachable (cfg : Config) (graces : Graces)
    (ok : ReconcilerPool → ReconcilerStep → Prop) : ReconcilerPool → Prop :=
  (reconciler cfg graces).Reachable Fresh ok

/-! ## What a pass has listed -/

/-- The attachments and the VolumeAttachments a pass has listed. -/
def listed? : History → Option (List ObservedAttachment × List VolumeAttachment)
  | ⟨.listCurrentAttachments, .ok attachments⟩ :: ⟨.listVolumeAttachments, .ok vas⟩ :: _ =>
    some (attachments, vas)
  | _ => none

/-- The four lists of a pass, once it has them. -/
def lists? : History → Option Lists
  | ⟨.listCurrentAttachments, .ok attachments⟩ :: ⟨.listVolumeAttachments, .ok vas⟩ ::
      ⟨.listPersistentVolumes, .ok pvs⟩ :: ⟨.listPods, .ok pods⟩ :: _ =>
      some { attachments, vas, pvs, pods }
  | _ => none

/-! ## Runs in a healthy world -/

/-- A PersistentVolume that is bound to a claim. -/
def boundVolume (name : String) (csi : CSISource) : PersistentVolume :=
  { name, csi := some csi, claimRef := some { ns := "default", name := "claim-" ++ name } }

def attachedOn (node name : String) : VolumeAttachment :=
  { name := "va-" ++ name, pvName := some name, nodeName := node, attached := true,
    deleting := false }

/-- The answers of a controller process in which nothing is held or queued. -/
def idle (attached : Int → Option String) : (op : Controller.Op) → op.Answer
  | .query q => healthy attached q
  | .registerLocks _ => []
  | .stickyGet _ _ | .stickySwap _ _ => none
  | .newResponse | .nextRequestID => 0
  | .getResponse _ => none
  | .enqueue req => (req, true)
  | .selectStarted _ | .selectDone _ => .done none
  | .awaitDone _ => none
  | .cancel _ _ => false
  | .nextRequest _ => none
  | .lock _ | .unlock _ | .unregisterLocks _ | .stickyDelete _ | .setResponse _ _
  | .closeStarted _ | .complete _ _ | .finish _ _ => ()

/-- All calls succeed, and the queue runs what it is given. -/
def calm (attachments : List ObservedAttachment) (attached : Int → Option String) (now : Int) :
    Oracle where
  attachments := .ok attachments
  listError := none
  now
  order keys := ⟨keys, .refl keys⟩
  hasVolume := false
  queue := .execute
  deleteError := none
  controller := idle attached

end OpenNebulaCSI.Reconciler
