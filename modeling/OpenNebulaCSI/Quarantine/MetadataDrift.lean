import OpenNebulaCSI.Node.Sessions
import OpenNebulaCSI.Provider.Datastores
import OpenNebulaCSI.Quarantine.HostArtifacts

/-!
# Metadata drift

Before a local single-writer volume is attached, `rejectIfOpenNebulaMetadataDrift` looks for other
**owners**: VMs that the image or a disk names and that are not the VM of the requested node. The
owners are collected with a test for positive ids, but OpenNebula counts VMs from 0. An owner with
the id 0 is overlooked, unless another condition gives the drift away.
-/

namespace OpenNebulaCSI.Quarantine

open Go Controller Provider
open Node (firstNonEmpty)

structure VolumeDiskRecord where
  nodeName : String
  nodeID : Int
  diskID : Int
  target : String
  serial : String
  deriving DecidableEq

/-- `VolumeAttachmentMetadata`. The id of a requested node that has not been resolved is negative.
-/
structure VolumeAttachmentMetadata where
  volumeHandle : String
  imageID : Int
  imageState : String
  imageRunningVMs : Int
  imageVMIDs : List Int
  requestedNode : String
  requestedNodeID : Int
  attachedToRequestedNode : Bool
  diskRecords : List VolumeDiskRecord
  deriving DecidableEq

namespace VolumeAttachmentMetadata

/-- The entries of both lists. -/
def ownerVMIDs (m : VolumeAttachmentMetadata) : List Int :=
  m.imageVMIDs ++ m.diskRecords.map VolumeDiskRecord.nodeID

/-- The test both loops of `ConflictingOwnerVMIDs` skip an entry by. -/
def skips (m : VolumeAttachmentMetadata) (vmID : Int) : Bool :=
  vmID ≤ 0 || (0 < m.requestedNodeID && vmID = m.requestedNodeID)

def conflictingOwnerVMIDs (m : VolumeAttachmentMetadata) : List Int :=
  (m.ownerVMIDs.filter fun vmID => !m.skips vmID).dedup.insertionSort (· ≤ ·)

end VolumeAttachmentMetadata

def intList (values : List Int) : String :=
  joinWith "," (values.map itoa)

def diskRecordSummary (records : List VolumeDiskRecord) : String :=
  joinWith "," (records.map fun record => joinWith "/"
    ((if 0 < record.nodeID then ["vm=" ++ itoa record.nodeID] else []) ++
      (if trimSpace record.nodeName ≠ "" then ["node=" ++ record.nodeName] else []) ++
      (if 0 < record.diskID then ["disk=" ++ itoa record.diskID] else []) ++
      (if trimSpace record.target ≠ "" then ["target=" ++ record.target] else []) ++
      (if trimSpace record.serial ≠ "" then ["serial=" ++ record.serial] else [])))

def metadataDriftMessage (m : VolumeAttachmentMetadata) (volumeID requestedNode : String) :
    String :=
  let owners := intList m.conflictingOwnerVMIDs
  let owners :=
    if owners = "" ∧ 0 < m.imageRunningVMs then
      "unknown image owner count " ++ itoa m.imageRunningVMs
    else owners
  let records := diskRecordSummary m.diskRecords
  let records := if records = "" then "no matching VM disk records found" else records
  "OpenNebula metadata drift detected for local RWO volume " ++
    firstNonEmpty [m.volumeHandle, volumeID] ++ "/image " ++ itoa m.imageID ++
    " while publishing to node " ++ firstNonEmpty [m.requestedNode, requestedNode] ++
    ": image state=" ++ firstNonEmpty [m.imageState, "unknown"] ++ " runningVMs=" ++
    itoa m.imageRunningVMs ++ " ownerVMs=" ++ firstNonEmpty [owners, "none"] ++ " diskRecords=" ++
    records ++ "; external OpenNebula repair is required before the driver will attempt another " ++
    "cross-node attach"

def volumeQuarantineMessage (formatTime : Option Int → String) (state : VolumeQuarantineState) :
    String :=
  let period := " until " ++ formatTime state.expiresAt ++ " after " ++ itoa state.failureCount ++
    " matching failure(s)"
  if trimSpace state.message ≠ "" then state.message ++ "; volume quarantine active" ++ period
  else "volume " ++ state.volumeID ++ " is quarantined for " ++ state.reason ++ period

section Guard

variable (tables : LetterTables)

def imageStateInUse (state : String) : Bool :=
  tables.toUpper (trimSpace state) ∈ ["USED", "USED_PERS", "LOCKED_USED", "LOCKED_USED_PERS"]

def attachmentMetadataDriftDetected (metadata : Option VolumeAttachmentMetadata) : Bool :=
  match metadata with
  | none => false
  | some m =>
    if m.conflictingOwnerVMIDs ≠ [] then true
    else if m.attachedToRequestedNode then false
    else 0 < m.imageRunningVMs && imageStateInUse tables m.imageState

/-- The settings of the guard, and Go's formatting of a time. -/
structure DriftConfig where
  enabled : Bool
  failureThreshold : Int
  ttl : Int
  formatTime : Option Int → String

/-- What the guard is answered: the context of the volume, if Kubernetes is enabled and answers, and
the record of `InspectVolumeAttachment`, if the provider is an inspector. -/
structure DriftAnswers where
  runtimeContext : Option RuntimeContext
  inspection : Option (Except GoError VolumeAttachmentMetadata)
  checkedAt : Int
  markedAt : Int

/-- `metadataDriftGuardEligible`. -/
def DriftAnswers.eligible (ans : DriftAnswers) (volumeId : String) : Bool :=
  ans.runtimeContext.any fun ctx => runtimeContextEligibleForMaintenance ctx volumeId

def metadataDriftState (m : VolumeAttachmentMetadata) (volumeId nodeId : String) :
    VolumeQuarantineState where
  volumeID := volumeId
  reason := "external_repair_required"
  classification := "opennebula_metadata_drift"
  message := metadataDriftMessage m volumeId nodeId
  requestedNode := nodeId
  ownerVMIDs := m.conflictingOwnerVMIDs

def rejectIfOpenNebulaMetadataDrift (cfg : DriftConfig) (ans : DriftAnswers)
    (volumeId nodeId : String) (entries : Entries VolumeQuarantineState) :
    Option GoError × Entries VolumeQuarantineState :=
  if !cfg.enabled then (none, entries)
  else if !ans.eligible volumeId then (none, entries)
  else
    let quarantined := VolumeQuarantineManager.getActive entries volumeId ans.checkedAt
    match ans.inspection with
    | none => (none, entries)
    | some (.error _) =>
      (quarantined.map fun state =>
        .status .failedPrecondition (volumeQuarantineMessage cfg.formatTime state), entries)
    | some (.ok m) =>
      if !attachmentMetadataDriftDetected tables (some m) then
        (none,
          if quarantined.isSome then VolumeQuarantineManager.clear entries volumeId else entries)
      else
        (some (.status .failedPrecondition (metadataDriftMessage m volumeId nodeId)),
          (VolumeQuarantineManager.markFailure entries (metadataDriftState m volumeId nodeId)
            cfg.failureThreshold cfg.ttl ans.markedAt).2)

end Guard

/-! ## Owners -/

namespace VolumeAttachmentMetadata

variable {m : VolumeAttachmentMetadata}

/-- Some entry names a VM that is not the VM of the requested node. VMs are numbered from 0. -/
def OwnedByOther (m : VolumeAttachmentMetadata) : Prop :=
  ∃ vmID ∈ m.ownerVMIDs, 0 ≤ vmID ∧ vmID ≠ m.requestedNodeID

/-- If VM 0 is an owner and not the requested VM, then another owner has a positive id, or the image
is in use by running VMs and not attached where it is requested. -/
def ZeroCovered (tables : LetterTables) (m : VolumeAttachmentMetadata) : Prop :=
  0 ∈ m.ownerVMIDs → m.requestedNodeID ≠ 0 →
    (∃ vmID ∈ m.ownerVMIDs, 0 < vmID ∧ vmID ≠ m.requestedNodeID) ∨
      m.attachedToRequestedNode = false ∧ 0 < m.imageRunningVMs ∧
        imageStateInUse tables m.imageState = true

theorem mem_conflictingOwnerVMIDs {vmID : Int} :
    vmID ∈ m.conflictingOwnerVMIDs ↔
      vmID ∈ m.ownerVMIDs ∧ 0 < vmID ∧ vmID ≠ m.requestedNodeID := by
  rw [conflictingOwnerVMIDs, List.mem_insertionSort, List.mem_dedup, List.mem_filter]
  refine and_congr_right fun _ => ?_
  simp only [skips, Bool.not_eq_true', Bool.or_eq_false_iff, decide_eq_false_iff_not,
    Bool.and_eq_false_iff]
  omega

theorem conflictingOwnerVMIDs_ne_nil :
    m.conflictingOwnerVMIDs ≠ [] ↔ ∃ vmID ∈ m.ownerVMIDs, 0 < vmID ∧ vmID ≠ m.requestedNodeID := by
  constructor
  · intro hne
    obtain ⟨vmID, hmem⟩ := List.exists_mem_of_ne_nil _ hne
    obtain ⟨howner, hother⟩ := mem_conflictingOwnerVMIDs.1 hmem
    exact ⟨vmID, howner, hother⟩
  · rintro ⟨vmID, howner, hother⟩ hnil
    have hmem := mem_conflictingOwnerVMIDs.2 ⟨howner, hother⟩
    rw [hnil] at hmem
    cases hmem

theorem detected_iff {tables : LetterTables} :
    attachmentMetadataDriftDetected tables (some m) = true ↔
      (∃ vmID ∈ m.ownerVMIDs, 0 < vmID ∧ vmID ≠ m.requestedNodeID) ∨
        m.attachedToRequestedNode = false ∧ 0 < m.imageRunningVMs ∧
          imageStateInUse tables m.imageState = true := by
  unfold attachmentMetadataDriftDetected
  rw [← conflictingOwnerVMIDs_ne_nil]
  by_cases hconflict : m.conflictingOwnerVMIDs ≠ []
  · simp [hconflict]
  cases hattached : m.attachedToRequestedNode with
  | true => simp [hconflict, hattached]
  | false => simp [hconflict, hattached]

/-- Drift is detected whenever there is another owner. -/
def Detects (tables : LetterTables) (m : VolumeAttachmentMetadata) : Prop :=
  m.OwnedByOther → attachmentMetadataDriftDetected tables (some m) = true

/-- No drift is detected if all entries name the requested VM and the volume is attached there. -/
def Accepts (tables : LetterTables) (m : VolumeAttachmentMetadata) : Prop :=
  (∀ vmID ∈ m.ownerVMIDs, vmID = m.requestedNodeID) → m.attachedToRequestedNode = true →
    attachmentMetadataDriftDetected tables (some m) = false

/-- A publish of a local single-writer volume for which the enabled guard is answered with the
record does not attach it if there is another owner. -/
def GuardsPublish (tables : LetterTables) (m : VolumeAttachmentMetadata) : Prop :=
  ∀ (cfg : DriftConfig) (ans : DriftAnswers) (entries : Entries VolumeQuarantineState)
    (nodeId : String) (hostArtifacts : HostArtifactConfig) (call : PublishCall)
    (artifacts : HostArtifacts),
    cfg.enabled = true → ans.eligible call.volumeId = true → ans.inspection = some (.ok m) →
    call.answers.drift =
        (rejectIfOpenNebulaMetadataDrift tables cfg ans call.volumeId nodeId entries).1 →
    m.OwnedByOther → call.attaches hostArtifacts artifacts = false

theorem detects_iff {tables : LetterTables} : m.Detects tables ↔ m.ZeroCovered tables := by
  unfold Detects ZeroCovered
  rw [detected_iff]
  constructor
  · intro hdetects hzero hrequested
    exact hdetects ⟨0, hzero, le_rfl, fun h => hrequested h.symm⟩
  · rintro hcovered ⟨vmID, howner, hnonneg, hother⟩
    by_cases hpos : 0 < vmID
    · exact .inl ⟨vmID, howner, hpos, hother⟩
    · obtain rfl : vmID = 0 := by omega
      exact hcovered howner (fun h => hother h.symm)

theorem accepts (tables : LetterTables) (m : VolumeAttachmentMetadata) : m.Accepts tables := by
  intro hentries hattached
  rw [← Bool.not_eq_true, detected_iff]
  rintro (⟨vmID, howner, -, hother⟩ | ⟨hdetached, -⟩)
  · exact hother (hentries vmID howner)
  · rw [hattached] at hdetached
    cases hdetached

theorem guardsPublish_of_detects {tables : LetterTables} (h : m.Detects tables) :
    m.GuardsPublish tables := by
  intro cfg ans entries nodeId hostArtifacts call artifacts henabled heligible hinspection hdrift
    howned
  have hrejected : call.answers.drift ≠ none := by
    rw [hdrift, rejectIfOpenNebulaMetadataDrift]
    simp [henabled, heligible, hinspection, h howned]
  have hisNone : call.answers.drift.isNone = false := by
    cases hanswer : call.answers.drift with
    | none => exact absurd hanswer hrejected
    | some err => rfl
  simp [PublishCall.attaches, hisNone]

/-- The guard finds every other owner, accepts a volume that only its own VM has, and keeps every
publish of a volume with another owner from attaching it, if and only if VM 0 is not the only sign
of drift. -/
theorem guard_complete_iff (tables : LetterTables) (m : VolumeAttachmentMetadata) :
    m.Detects tables ∧ m.Accepts tables ∧ m.GuardsPublish tables ↔ m.ZeroCovered tables := by
  rw [← detects_iff]
  constructor
  · intro h
    exact h.1
  · intro hdetects
    exact ⟨hdetects, m.accepts tables, guardsPublish_of_detects hdetects⟩

end VolumeAttachmentMetadata

/-- A volume that VM 0 has and that VM 5, where it is published, has without a target so far. -/
def ownedByZero : VolumeAttachmentMetadata where
  volumeHandle := "pvc-a"
  imageID := 4
  imageState := "USED_PERS"
  imageRunningVMs := 2
  imageVMIDs := [0, 5]
  requestedNode := "n5"
  requestedNodeID := 5
  attachedToRequestedNode := true
  diskRecords := [⟨"n0", 0, 1, "sdb", "onecsi-4"⟩, ⟨"n5", 5, 2, "", "onecsi-4"⟩]

/-- The guard is enabled, and asked about a local single-writer volume. -/
def zeroGuard : DriftConfig :=
  ⟨true, 2, 1800 * 1000000000, fun _ => ""⟩

def zeroAnswers : DriftAnswers where
  runtimeContext := some ⟨"pv-a", "default", "pvc-a", [], [.readWriteOnce], "local", 7, "", 0⟩
  inspection := some (.ok ownedByZero)
  checkedAt := 0
  markedAt := 0

/-- A publish that nothing but the guard could refuse. -/
def zeroPublish : PublishCall where
  volumeId := "pvc-a"
  answers :=
    { volumeExists := .ok 4
      nodeExists := .ok 5
      attached := false
      blocked := none
      queue := .executed
      reused := none
      attachedUnderLocks := false
      drift := (rejectIfOpenNebulaMetadataDrift .ascii zeroGuard zeroAnswers "pvc-a" "n5" ∅).1
      target := .ok none
      checkedAt := 0
      sizeBytes := .ok 1073741824
      attach := .attached 2
      markedAt := 0
      confirmed := true
      finishedAt := 0 }

/-- The owner is overlooked, and the volume is attached to a second VM. -/
theorem zeroOwner_overlooked :
    (0 ∈ ownedByZero.ownerVMIDs ∧ ownedByZero.requestedNodeID = 5) ∧
      attachmentMetadataDriftDetected .ascii (some ownedByZero) = false ∧
      zeroAnswers.eligible "pvc-a" = true ∧
      zeroPublish.attaches ⟨true, 1, 0, fun _ => ""⟩ ∅ = true := by
  decide +kernel

end OpenNebulaCSI.Quarantine
