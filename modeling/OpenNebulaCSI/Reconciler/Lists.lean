import OpenNebulaCSI.Controller.Types

/-!
# What the attachment reconciler lists

The Kubernetes objects and the OpenNebula attachments one pass of `AttachmentReconciler` works on,
and the lookups it makes in the indexes it builds from them. Where Go builds a map, in which later
entries replace earlier ones, the lookup searches the list from its end.

Left out are the fields of the objects the reconciler does not read, and the count of attachments of
a single-writer volume, which leads to a metric and an event only.
-/

namespace OpenNebulaCSI.Reconciler

open Go Controller

/-- `spec.csi` of a PersistentVolume. -/
structure CSISource where
  driver : String
  volumeHandle : String
  deriving DecidableEq

/-- `spec.claimRef` of a PersistentVolume. -/
structure ClaimRef where
  ns : String
  name : String
  deriving DecidableEq

structure PersistentVolume where
  name : String
  csi : Option CSISource
  claimRef : Option ClaimRef
  deriving DecidableEq

inductive PodPhase where
  | pending | running | succeeded | failed | unknown
  deriving DecidableEq

/-- A pod, with the claims its volumes name. -/
structure Pod where
  ns : String
  nodeName : String
  deleting : Bool
  phase : PodPhase
  claims : List String
  deriving DecidableEq

/-- A pod that is neither being deleted nor finished. -/
def Pod.active (pod : Pod) : Bool :=
  !pod.deleting && pod.phase ≠ .succeeded && pod.phase ≠ .failed

/-- The answers to the four list calls of a pass. -/
structure Lists where
  attachments : List ObservedAttachment
  vas : List VolumeAttachment
  pvs : List PersistentVolume
  pods : List Pod

def volumeNodeKey (volumeHandle nodeName : String) : String :=
  volumeHandle ++ "@" ++ nodeName

def pvcKeyForPV (pv : PersistentVolume) : String :=
  match pv.claimRef with
  | none => ""
  | some ref =>
    if trimSpace ref.ns = "" ∨ trimSpace ref.name = "" then "" else ref.ns ++ "/" ++ ref.name

/-- `pvByName`. -/
def pvByName (pvs : List PersistentVolume) (name : String) : Option PersistentVolume :=
  pvs.reverse.find? fun pv => pv.name = name

/-- The CSI source of the volume with the given name. -/
def csiByName (pvs : List PersistentVolume) (name : String) : Option CSISource :=
  (pvByName pvs name).bind PersistentVolume.csi

/-- Whether `attachmentByVolumeNode` has an entry for the key. -/
def attachmentByVolumeNode (attachments : List ObservedAttachment) (key : String) : Bool :=
  attachments.any fun attachment =>
    volumeNodeKey attachment.volumeHandle attachment.nodeName = key

namespace Lists

variable (lists : Lists)

def pvByHandle (volumeHandle : String) : Option PersistentVolume :=
  lists.pvs.reverse.find? fun pv => pv.csi.any fun source => source.volumeHandle = volumeHandle

def activePVCUsers (pvcKey : String) : Bool :=
  lists.pods.any fun pod =>
    pod.active && pod.claims.any fun claim => pod.ns ++ "/" ++ claim = pvcKey

def attachmentsByVolume (volumeHandle : String) : List ObservedAttachment :=
  lists.attachments.filter fun attachment => attachment.volumeHandle = volumeHandle

/-- The keys of `attachmentsByVolume`. -/
def volumeHandles : List String :=
  (lists.attachments.map ObservedAttachment.volumeHandle).eraseDups

def vaByVolume (volumeHandle : String) : List VolumeAttachment :=
  lists.vas.filter fun va =>
    (va.pvName.bind (csiByName lists.pvs)).any fun source => source.volumeHandle = volumeHandle

/-- Whether there is a `matchingVA` for the attachment. -/
def hasMatchingVA (attachment : ObservedAttachment) : Bool :=
  (lists.vaByVolume attachment.volumeHandle).any fun va =>
    trimSpace va.nodeName = trimSpace attachment.nodeName && va.attached

def activePodUsingPVC (pv : PersistentVolume) : Bool :=
  pvcKeyForPV pv ≠ "" && lists.activePVCUsers (pvcKeyForPV pv)

end Lists

/-- What a pass makes of an attachment of a volume it may touch. -/
inductive Finding where
  | matched | inUse | divergent | orphan
  deriving DecidableEq

def Lists.finding (lists : Lists) (pv : PersistentVolume) (attachment : ObservedAttachment) :
    Finding :=
  if lists.hasMatchingVA attachment then .matched
  else if lists.activePodUsingPVC pv then .inUse
  else if lists.vaByVolume attachment.volumeHandle ≠ [] then .divergent
  else .orphan

theorem csiByName_eq_some {pvs : List PersistentVolume} {name : String} {source : CSISource}
    (h : csiByName pvs name = some source) :
    ∃ pv ∈ pvs, pv.name = name ∧ pv.csi = some source := by
  obtain ⟨pv, hpv, hcsi⟩ := Option.bind_eq_some_iff.1 h
  have hname : pv.name = name := by simpa using List.find?_some hpv
  exact ⟨pv, List.mem_reverse.1 (List.mem_of_find?_eq_some hpv), hname, hcsi⟩

/-! ## First sightings -/

/-- `due`: remember the first sighting of a key, and tell whether the grace time has passed. -/
def due (grace : Int) (seen : String → Option Int) (key : String) (now : Int) :
    Bool × (String → Option Int) :=
  match seen key with
  | none => (false, Function.update seen key (some now))
  | some firstSeen => (grace ≤ now - firstSeen, seen)

/-- `prune`: forget the keys the pass has not seen. -/
def prune (seen : String → Option Int) (current : List String) : String → Option Int :=
  fun key => if key ∈ current then seen key else none

end OpenNebulaCSI.Reconciler
