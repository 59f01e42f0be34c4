import Mathlib.Data.List.Nodup
import OpenNebulaCSI.KubeRuntime.ConfigMaps
import OpenNebulaCSI.Reconciler.Lists

/-!
# Maintenance mode

While maintenance mode is active, a pass of the manager writes to each local volume the node it
should stay on, and then publishes that the cluster is ready for maintenance. The first part counts
its failures in a report that only the metrics and the log read. So the readiness is public with
volumes that carry another node, or none, unless nothing that mattered has failed.
-/

namespace OpenNebulaCSI.Maintenance

open Go Controller KubeRuntime Reconciler List

def maintenanceModeKey : String :=
  "maintainenceMode"

def maintenanceModeAliasKey : String :=
  "maintenanceMode"

def maintenanceReadyKey : String :=
  "maintainenceReady"

def maintenanceReadyAliasKey : String :=
  "maintenanceReady"

/-- The fields of a PersistentVolume the manager reads. -/
structure LocalVolume where
  name : String
  annotations : StringMap
  csi : Option CSISource
  accessModes : List VolumeAccessMode
  deriving DecidableEq

/-- The objects of the API server: volumes with distinct names, attachments, and the data of the
ConfigMap for the state of the driver. -/
structure ClusterState where
  pvs : List LocalVolume
  names_nodup : (pvs.map LocalVolume.name).Nodup
  attachments : List VolumeAttachment
  data : Option Data

/-- How the calls of a pass end. -/
structure PassCalls where
  getConfigMap : Option GoError
  listPVs : Option GoError
  listAttachments : Option GoError
  patch : String → WriteOutcome
  getReady : Option GoError
  writeReady : WriteOutcome
  clearReady : WriteOutcome
  clearReadyAlias : WriteOutcome

/-- The fields of the manager. -/
structure ManagerState where
  active : Bool
  ready : Bool
  aliasReady : Bool
  deriving DecidableEq

/-! ## The nodes of the volumes -/

def parseMaintenanceBool (raw : String) : Bool :=
  CaseTables.ascii.toLower (trimSpace raw) ∈ ["true", "1", "yes", "y", "on"]

/-- Whether the mode is active, and whether the alias is there. -/
def maintenanceModeActive (data : Data) : Bool × Bool :=
  ((data maintenanceModeKey).any parseMaintenanceBool ||
    (data maintenanceModeAliasKey).any parseMaintenanceBool, (data maintenanceModeAliasKey).isSome)

def eligibleForLastNodePreference (pv : LocalVolume) : Bool :=
  match pv.csi with
  | none => false
  | some csi =>
    trimSpace csi.driver = defaultDriverName &&
      equalFold (trimSpace (pv.annotations.get annotationBackend)) "local" &&
      hasSingleWriterAccessMode pv.accessModes && !isSharedFilesystemVolumeID csi.volumeHandle

/-- A step of the loop over the attachments: the node of each volume, and the volumes with two. -/
def attachedNodesStep (found : StringMap × List String) (va : VolumeAttachment) :
    StringMap × List String :=
  let pvName := trimSpace (va.pvName.getD "")
  let node := trimSpace va.nodeName
  if pvName = "" ∨ va.attached = false ∨ va.deleting ∨ node = "" then found
  else if found.1.get pvName ≠ "" ∧ found.1.get pvName ≠ node then (found.1, pvName :: found.2)
  else (found.1.set pvName node, found.2)

def maintenanceAttachedNodesByPV (attachments : List VolumeAttachment) : StringMap × List String :=
  attachments.foldl attachedNodesStep ([], [])

/-- The node a volume should stay on, and whether its attachments conflict. The node of its sticky
attachment is given by `sticky`. -/
def preferredMaintenanceNode (sticky : String → Option String) (attachedByPV : StringMap)
    (conflicts : List String) (pv : LocalVolume) : String × Bool :=
  if pv.name ∈ conflicts then ("", true)
  else
    let preferred := trimSpace (pv.annotations.get annotationPreferredLastNode)
    let held := trimSpace ((pv.csi.bind fun csi => sticky csi.volumeHandle).getD "")
    let attached := trimSpace (attachedByPV.get pv.name)
    if preferred ≠ "" then (preferred, false)
    else if held ≠ "" then (held, false)
    else if attached ≠ "" then (attached, false)
    else (trimSpace (pv.annotations.get annotationLastAttachedNode), false)

def LocalVolume.lastAttachedNode (pv : LocalVolume) : String :=
  trimSpace (pv.annotations.get annotationLastAttachedNode)

/-- The volume once its node has been patched. -/
def LocalVolume.withNode (pv : LocalVolume) (node : String) : LocalVolume :=
  { pv with annotations := pv.annotations.set annotationLastAttachedNode node }

/-! ## A pass -/

structure PrepareReport where
  protectedVolumes : ℕ
  patched : ℕ
  skipped : ℕ
  conflicts : ℕ
  deriving DecidableEq

section Pass

variable (calls : PassCalls) (sticky : String → Option String)

/-- The node the manager wants a volume to carry, if it is eligible, has no conflicting attachments,
and has a node. -/
def wantedNode (attachments : List VolumeAttachment) (pv : LocalVolume) : Option String :=
  let found := maintenanceAttachedNodesByPV attachments
  let answer := preferredMaintenanceNode sticky found.1 found.2 pv
  if eligibleForLastNodePreference pv = false ∨ answer.2 ∨ trimSpace answer.1 = "" then none
  else some answer.1

/-- The volumes once the API server has seen a patch of the node of one. -/
def patchNode (pvs : List LocalVolume) (name node : String) : List LocalVolume :=
  pvs.map fun pv => if pv.name = name then pv.withNode node else pv

/-- A step of the loop of `prepare` over the volumes it has listed. -/
def prepareStep (attachments : List VolumeAttachment)
    (state : PrepareReport × List LocalVolume) (pv : LocalVolume) :
    PrepareReport × List LocalVolume :=
  let found := maintenanceAttachedNodesByPV attachments
  let answer := preferredMaintenanceNode sticky found.1 found.2 pv
  let report := state.1
  if eligibleForLastNodePreference pv = false then state
  else if answer.2 then ({ report with conflicts := report.conflicts + 1 }, state.2)
  else if trimSpace answer.1 = "" then ({ report with skipped := report.skipped + 1 }, state.2)
  else
    let report := { report with protectedVolumes := report.protectedVolumes + 1 }
    if pv.lastAttachedNode ≠ answer.1 then
      let pvs :=
        if (calls.patch pv.name).applied then patchNode state.2 pv.name answer.1 else state.2
      match (calls.patch pv.name).err with
      | some _ => ({ report with skipped := report.skipped + 1 }, pvs)
      | none => ({ report with patched := report.patched + 1 }, pvs)
    else (report, state.2)

/-- `prepare`; it returns an empty report when a list cannot be read. -/
def prepare (cluster : ClusterState) : PrepareReport × List LocalVolume :=
  if calls.listPVs.isSome ∨ calls.listAttachments.isSome then (⟨0, 0, 0, 0⟩, cluster.pvs)
  else cluster.pvs.foldl (prepareStep calls sticky cluster.attachments) (⟨0, 0, 0, 0⟩, cluster.pvs)

/-- `m[key] = value` in the data of the ConfigMap, which is made if it is missing. -/
def setKey (data : Option Data) (key value : String) : Option Data :=
  some fun other => if other = key then some value else (data.getD fun _ => none) other

/-- `delete(m, key)`. -/
def deleteKey (data : Option Data) (key : String) : Option Data :=
  data.map fun entries other => if other = key then none else entries other

/-- What `publishReady` leaves: its error, the data, and whether it has written the key. -/
structure ReadyResult where
  err : Option GoError
  data : Option Data
  written : Bool

def publishReady (data : Option Data) (aliasReady : Bool) : ReadyResult :=
  let current := if calls.getReady.isSome then none else data
  let isTrue (key : String) : Bool := current.any fun entries => entries key = some "true"
  if isTrue maintenanceReadyKey && (!aliasReady || isTrue maintenanceReadyAliasKey) then
    if aliasReady then ⟨none, data, false⟩
    else
      ⟨calls.writeReady.err,
        if calls.writeReady.applied then deleteKey data maintenanceReadyAliasKey else data, false⟩
  else
    let written := setKey data maintenanceReadyKey "true"
    ⟨calls.writeReady.err, if calls.writeReady.applied then
        (if aliasReady then setKey written maintenanceReadyAliasKey "true" else written)
      else data, calls.writeReady.applied⟩

/-- `clearReadyKeys`. -/
def clearReadyKeys (data : Option Data) : Option GoError × Option Data :=
  let cleared := if calls.clearReady.applied then deleteKey data maintenanceReadyKey else data
  match calls.clearReady.err with
  | some err => (some err, cleared)
  | none =>
    (calls.clearReadyAlias.err,
      if calls.clearReadyAlias.applied then deleteKey cleared maintenanceReadyAliasKey
      else cleared)

/-- What a pass leaves. -/
structure PassResult where
  err : Option GoError
  manager : ManagerState
  pvs : List LocalVolume
  data : Option Data
  /-- The pass has made the readiness public: it has written the key, or has found it written and
  returned without an error. -/
  published : Bool

/-- `Reconcile`; the release of holds at the end of the mode is left out. -/
def reconcile (manager : ManagerState) (cluster : ClusterState) : PassResult :=
  match calls.getConfigMap with
  | some err => ⟨some err, manager, cluster.pvs, cluster.data, false⟩
  | none =>
    match cluster.data with
    | none => ⟨none, ⟨false, false, false⟩, cluster.pvs, cluster.data, false⟩
    | some data =>
      let mode := maintenanceModeActive data
      if !mode.1 then
        let cleared := clearReadyKeys calls cluster.data
        ⟨cleared.1, ⟨false, false, mode.2⟩, cluster.pvs, cleared.2, false⟩
      else
        let prepared := prepare calls sticky cluster
        let ready := publishReady calls cluster.data mode.2
        ⟨ready.err, ⟨true, ready.err.isNone, mode.2⟩, prepared.2, ready.data,
          ready.err.isNone || ready.written⟩

/-! ## Prepared volumes -/

/-- The lists have been read, and each volume with a wanted node carries it after the pass. -/
def Prepared (cluster : ClusterState) (after : List LocalVolume) : Prop :=
  calls.listPVs = none ∧ calls.listAttachments = none ∧
    ∀ pv ∈ cluster.pvs, ∀ node ∈ wantedNode sticky cluster.attachments pv,
      ∀ pv' ∈ after, pv'.name = pv.name → pv'.lastAttachedNode = node

/-- The lists can be read, and the patch of each volume that does not carry its wanted node yet has
an effect. -/
def Unhindered (cluster : ClusterState) : Prop :=
  calls.listPVs = none ∧ calls.listAttachments = none ∧
    ∀ pv ∈ cluster.pvs, ∀ node ∈ wantedNode sticky cluster.attachments pv,
      pv.lastAttachedNode ≠ node → (calls.patch pv.name).applied = true

/-- What the step for a volume makes of a volume with its name. -/
def patchedBy (attachments : List VolumeAttachment) (pv other : LocalVolume) : LocalVolume :=
  match wantedNode sticky attachments pv with
  | none => other
  | some node =>
    if pv.lastAttachedNode ≠ node ∧ (calls.patch pv.name).applied = true then other.withNode node
    else other

end Pass

variable {calls : PassCalls} {sticky : String → Option String} {attachments : List VolumeAttachment}

theorem LocalVolume.lastAttachedNode_withNode (pv : LocalVolume) (node : String) :
    (pv.withNode node).lastAttachedNode = trimSpace node := by
  simp [LocalVolume.lastAttachedNode, LocalVolume.withNode, StringMap.get, StringMap.lookup_set]

theorem trimSpace_of_wantedNode {pv : LocalVolume} {node : String}
    (h : wantedNode sticky attachments pv = some node) : trimSpace node = node := by
  simp only [wantedNode] at h
  split at h
  · cases h
  obtain rfl := Option.some.inj h
  simp only [preferredMaintenanceNode]
  split
  · rfl
  split
  · exact trimSpace_trimSpace _
  split
  · exact trimSpace_trimSpace _
  split
  · exact trimSpace_trimSpace _
  · exact trimSpace_trimSpace _

theorem patchedBy_of_none {pv other : LocalVolume}
    (h : wantedNode sticky attachments pv = none) :
    patchedBy calls sticky attachments pv other = other := by
  rw [patchedBy, h]

theorem patchedBy_of_some {pv other : LocalVolume} {node : String}
    (h : wantedNode sticky attachments pv = some node) :
    patchedBy calls sticky attachments pv other =
      if pv.lastAttachedNode ≠ node ∧ (calls.patch pv.name).applied = true then other.withNode node
      else other := by
  rw [patchedBy, h]

theorem name_patchedBy (pv other : LocalVolume) :
    (patchedBy calls sticky attachments pv other).name = other.name := by
  cases hwanted : wantedNode sticky attachments pv with
  | none => rw [patchedBy_of_none hwanted]
  | some node =>
    rw [patchedBy_of_some hwanted]
    split <;> rfl

theorem prepareStep_pvs (state : PrepareReport × List LocalVolume) (pv : LocalVolume) :
    (prepareStep calls sticky attachments state pv).2 = state.2.map fun other =>
      if other.name = pv.name then patchedBy calls sticky attachments pv other else other := by
  have hsame (f : LocalVolume → LocalVolume) (hf : ∀ other, f other = other) :
      state.2 = state.2.map f := by
    rw [funext hf]
    exact (map_id' _).symm
  cases hwanted : wantedNode sticky attachments pv with
  | none =>
    have hunchanged : (prepareStep calls sticky attachments state pv).2 = state.2 := by
      simp only [wantedNode] at hwanted
      simp only [prepareStep]
      split at hwanted
      · rename_i hreason
        split
        · rfl
        split
        · rfl
        split
        · rfl
        · rcases hreason with h | h | h <;> contradiction
      · cases hwanted
    rw [hunchanged]
    refine hsame _ fun other => ?_
    rw [patchedBy_of_none hwanted, ite_self]
  | some node =>
    have hpatch := fun other => @patchedBy_of_some calls sticky attachments pv other node hwanted
    simp only [wantedNode] at hwanted
    split at hwanted
    · cases hwanted
    rename_i hreason
    rw [not_or, not_or] at hreason
    obtain ⟨heligible, hconflict, hnode⟩ := hreason
    have hanswer := Option.some.inj hwanted
    rw [hanswer] at hnode
    simp only [prepareStep, if_neg heligible, if_neg hconflict, if_neg hnode, hanswer, hpatch]
    by_cases hlast : pv.lastAttachedNode = node
    · simp only [ne_eq, hlast, not_true_eq_false, if_false, false_and]
      exact hsame _ fun other => ite_self _
    -- A patch with an effect changes the volume, whether or not its answer arrives.
    cases hwrite : calls.patch pv.name with
    | ok => simp [hlast, WriteOutcome.applied, WriteOutcome.err, patchNode]
    | lost err =>
      simp only [ne_eq, hlast, not_false_eq_true, if_true, WriteOutcome.applied,
        WriteOutcome.err, Bool.false_eq_true, and_false, if_false]
      exact hsame _ fun other => ite_self _
    | unconfirmed err => simp [hlast, WriteOutcome.applied, WriteOutcome.err, patchNode]

/-- What the loop makes of one volume. -/
def patchedByAll (calls : PassCalls) (sticky : String → Option String)
    (attachments : List VolumeAttachment) (pvs : List LocalVolume) (other : LocalVolume) :
    LocalVolume :=
  pvs.foldl (fun other pv =>
    if other.name = pv.name then patchedBy calls sticky attachments pv other else other) other

theorem foldl_prepareStep_pvs (pvs : List LocalVolume) (state : PrepareReport × List LocalVolume) :
    (pvs.foldl (prepareStep calls sticky attachments) state).2 =
      state.2.map (patchedByAll calls sticky attachments pvs) := by
  induction pvs generalizing state with
  | nil => exact (map_id' _).symm
  | cons pv rest ih =>
    rw [foldl_cons, ih, prepareStep_pvs, map_map]
    rfl

theorem patchedByAll_of_notMem {pvs : List LocalVolume} {other : LocalVolume}
    (h : other.name ∉ pvs.map LocalVolume.name) :
    patchedByAll calls sticky attachments pvs other = other := by
  induction pvs with
  | nil => rfl
  | cons pv rest ih =>
    rw [map_cons, mem_cons, not_or] at h
    rw [patchedByAll, foldl_cons, if_neg h.1]
    exact ih h.2

theorem patchedByAll_of_mem {pvs : List LocalVolume} (hnodup : (pvs.map LocalVolume.name).Nodup)
    {pv : LocalVolume} (h : pv ∈ pvs) :
    patchedByAll calls sticky attachments pvs pv = patchedBy calls sticky attachments pv pv := by
  induction pvs with
  | nil => cases h
  | cons first rest ih =>
    rw [map_cons, nodup_cons] at hnodup
    rw [patchedByAll, foldl_cons]
    rcases mem_cons.1 h with rfl | hrest
    · rw [if_pos rfl]
      apply patchedByAll_of_notMem
      rw [name_patchedBy]
      exact hnodup.1
    · have hne : ¬ pv.name = first.name := by
        intro hsame
        exact hnodup.1 (hsame ▸ mem_map_of_mem hrest)
      rw [if_neg hne]
      exact ih hnodup.2 hrest

theorem prepare_pvs {cluster : ClusterState} (hpvs : calls.listPVs = none)
    (hattachments : calls.listAttachments = none) :
    (prepare calls sticky cluster).2 =
      cluster.pvs.map fun pv => patchedBy calls sticky cluster.attachments pv pv := by
  have hread : ¬ (calls.listPVs.isSome ∨ calls.listAttachments.isSome) := by
    simp [hpvs, hattachments]
  rw [prepare, if_neg hread, foldl_prepareStep_pvs]
  apply map_congr_left
  intro pv hpv
  exact patchedByAll_of_mem cluster.names_nodup hpv

theorem lastAttachedNode_patchedBy_iff {pv : LocalVolume} {node : String}
    (hwanted : wantedNode sticky attachments pv = some node) :
    (patchedBy calls sticky attachments pv pv).lastAttachedNode = node ↔
      (pv.lastAttachedNode ≠ node → (calls.patch pv.name).applied = true) := by
  rw [patchedBy_of_some hwanted]
  by_cases hlast : pv.lastAttachedNode = node
  · simp [hlast]
  cases happlied : (calls.patch pv.name).applied with
  | true =>
    rw [if_pos ⟨hlast, rfl⟩, LocalVolume.lastAttachedNode_withNode, trimSpace_of_wantedNode hwanted]
    simp
  | false => simp [hlast]

/-- The volumes are prepared if and only if nothing hinders it. -/
theorem prepared_iff_unhindered {cluster : ClusterState} :
    Prepared calls sticky cluster (prepare calls sticky cluster).2 ↔
      Unhindered calls sticky cluster := by
  unfold Prepared Unhindered
  refine and_congr_right fun hpvs => and_congr_right fun hattachments => ?_
  rw [prepare_pvs hpvs hattachments]
  refine forall₂_congr fun pv hpv => forall₂_congr fun node hwanted => ?_
  rw [← lastAttachedNode_patchedBy_iff hwanted]
  constructor
  · intro hall
    exact hall _ (mem_map_of_mem hpv) (name_patchedBy pv pv)
  · intro hcarries pv' hpv' hname
    obtain ⟨other, hother, rfl⟩ := mem_map.1 hpv'
    rw [name_patchedBy] at hname
    obtain rfl := inj_on_of_nodup_map cluster.names_nodup hother hpv hname
    exact hcarries

/-! ## Published readiness -/

/-- The pass reads that the readiness is public already, under the alias too if that is there. -/
def AlreadyPublished (calls : PassCalls) (data : Data) : Prop :=
  calls.getReady = none ∧ data maintenanceReadyKey = some "true" ∧
    ((maintenanceModeActive data).2 = true → data maintenanceReadyAliasKey = some "true")

/-- The mode is active and the calls let a pass make the readiness public. -/
def Publishes (calls : PassCalls) (cluster : ClusterState) : Prop :=
  calls.getConfigMap = none ∧ ∃ data, cluster.data = some data ∧
    (maintenanceModeActive data).1 = true ∧
    (AlreadyPublished calls data →
      (maintenanceModeActive data).2 = true ∨ calls.writeReady.err = none) ∧
    (¬ AlreadyPublished calls data → calls.writeReady.applied = true)

theorem publishReady_published_iff (data : Data) :
    ((publishReady calls (some data) (maintenanceModeActive data).2).err.isNone ||
        (publishReady calls (some data) (maintenanceModeActive data).2).written) = true ↔
      (AlreadyPublished calls data →
        (maintenanceModeActive data).2 = true ∨ calls.writeReady.err = none) ∧
      (¬ AlreadyPublished calls data → calls.writeReady.applied = true) := by
  have halready : (((if calls.getReady.isSome then none else some data).any fun entries : Data =>
        entries maintenanceReadyKey = some "true") &&
      (!(maintenanceModeActive data).2 ||
        (if calls.getReady.isSome then none else some data).any fun entries : Data =>
          entries maintenanceReadyAliasKey = some "true")) = true ↔
            AlreadyPublished calls data := by
    cases hready : calls.getReady <;> simp [AlreadyPublished, hready, imp_iff_not_or]
  simp only [publishReady]
  by_cases hdone : AlreadyPublished calls data
  · rw [if_pos (halready.2 hdone)]
    cases halias : (maintenanceModeActive data).2 <;> simp [hdone]
  · rw [if_neg (mt halready.1 hdone)]
    cases hwrite : calls.writeReady <;> simp [hdone, WriteOutcome.err, WriteOutcome.applied]

theorem reconcile_published_iff {manager : ManagerState} {cluster : ClusterState} :
    (reconcile calls sticky manager cluster).published = true ↔ Publishes calls cluster := by
  simp only [reconcile, Publishes]
  cases hget : calls.getConfigMap with
  | some err => simp
  | none => ?_
  cases hdata : cluster.data with
  | none => simp
  | some data => ?_
  cases hactive : (maintenanceModeActive data).1 with
  | false => simp [hactive]
  | true => ?_
  simp only [hactive, Bool.not_true, Bool.false_eq_true, if_false, publishReady_published_iff data]
  simp [hactive]

theorem reconcile_pvs {manager : ManagerState} {cluster : ClusterState}
    (h : Publishes calls cluster) :
    (reconcile calls sticky manager cluster).pvs = (prepare calls sticky cluster).2 := by
  obtain ⟨hget, data, hdata, hactive, -⟩ := h
  simp [reconcile, hget, hdata, hactive]

/-- A pass publishes the readiness only with prepared volumes if and only if nothing hinders the
preparation when the calls let it publish. -/
theorem maintenance_prepared_iff (calls : PassCalls) (sticky : String → Option String)
    (manager : ManagerState) (cluster : ClusterState) :
    ((reconcile calls sticky manager cluster).published = true →
        Prepared calls sticky cluster (reconcile calls sticky manager cluster).pvs) ↔
      (Publishes calls cluster → Unhindered calls sticky cluster) := by
  rw [reconcile_published_iff]
  refine forall_congr' fun hpublishes => ?_
  rw [reconcile_pvs hpublishes]
  exact prepared_iff_unhindered

/-- A volume that is to stay on the node `node-1`. -/
def preferringVolume : LocalVolume :=
  { name := "pv-1"
    annotations := [(annotationBackend, "local"), (annotationPreferredLastNode, "node-1")]
    csi := some ⟨defaultDriverName, "volume-1"⟩
    accessModes := [.readWriteOnce] }

/-- A cluster with that volume whose maintenance mode has just become active. -/
def startingCluster : ClusterState :=
  { pvs := [preferringVolume]
    names_nodup := nodup_singleton _
    attachments := []
    data := some fun key => if key = maintenanceModeKey then some "true" else none }

/-- The patches fail, and all else succeeds. -/
def patchesFail : PassCalls :=
  { getConfigMap := none
    listPVs := none
    listAttachments := none
    patch := fun _ => .lost (.plain "the server is currently unable to handle the request")
    getReady := none
    writeReady := .ok
    clearReady := .ok
    clearReadyAlias := .ok }

/-- The pass is ready although the volume does not carry its node. -/
theorem failed_patch_published :
    (reconcile patchesFail (fun _ => none) ⟨false, false, false⟩ startingCluster).published = true ∧
      (reconcile patchesFail (fun _ => none) ⟨false, false, false⟩ startingCluster).manager.ready =
        true ∧
      ¬ Prepared patchesFail (fun _ => none) startingCluster
        (reconcile patchesFail (fun _ => none) ⟨false, false, false⟩ startingCluster).pvs := by
  refine ⟨by decide +kernel, by decide +kernel, ?_⟩
  rintro ⟨-, -, hcarries⟩
  have hwanted : wantedNode (fun _ => none) [] preferringVolume = some "node-1" := by decide +kernel
  have hlast := hcarries preferringVolume mem_cons_self "node-1" hwanted preferringVolume
    (by decide +kernel) rfl
  revert hlast
  decide +kernel

end OpenNebulaCSI.Maintenance
