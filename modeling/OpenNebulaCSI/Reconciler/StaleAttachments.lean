import OpenNebulaCSI.Reconciler.PassCalls

/-!
# Which VolumeAttachments the reconciler deletes

The reconciler deletes an attached VolumeAttachment when the OpenNebula attachments have no entry
for its volume and node. It looks at every PersistentVolume with a CSI source: volumes of other
drivers, and shared filesystem volumes of this one, have no OpenNebula disk, so all their
VolumeAttachments are taken for stale (`foreign_volumeAttachment_deleted`).
-/

namespace OpenNebulaCSI.Reconciler

open Go Concurrency Controller Program List

/-- A volume of this driver that is backed by an OpenNebula disk. -/
def CSISource.ownDisk (source : CSISource) : Bool :=
  source.driver = defaultDriverName && !isSharedFilesystemVolumeID source.volumeHandle

/-- The VolumeAttachments a pass has listed. -/
def listedVAs (past : History) : List VolumeAttachment :=
  past.flatMap fun event =>
    match event with
    | ⟨.listVolumeAttachments, .ok vas⟩ => vas
    | _ => []

/-- The PersistentVolumes a pass has listed. -/
def listedPVs (past : History) : List PersistentVolume :=
  past.flatMap fun event =>
    match event with
    | ⟨.listPersistentVolumes, .ok pvs⟩ => pvs
    | _ => []

/-- The pass has listed a VolumeAttachment of this name, and the volume it belongs to is a disk of
this driver. -/
def OwnDisk (past : History) (name : String) : Prop :=
  ∃ va ∈ listedVAs past, va.name = name ∧
    ∃ pv ∈ listedPVs past, va.pvName = some pv.name ∧ pv.csi.any CSISource.ownDisk = true

instance (past : History) (name : String) : Decidable (OwnDisk past name) :=
  inferInstanceAs (Decidable (∃ va ∈ listedVAs past, va.name = name ∧
    ∃ pv ∈ listedPVs past, va.pvName = some pv.name ∧ pv.csi.any CSISource.ownDisk = true))

/-- The deletions of a run, with the pass that made them. -/
def deletions (s : ReconcilerPool) : List (ℕ × String) :=
  s.log.filterMap fun entry =>
    match entry with
    | (t, ⟨.deleteVolumeAttachment name, _⟩) => some (t, name)
    | _ => none

theorem mem_deletions {s : ReconcilerPool} {t : ℕ} {name : String} (h : (t, name) ∈ deletions s) :
    ∃ err, (t, ⟨.deleteVolumeAttachment name, err⟩) ∈ s.log := by
  obtain ⟨⟨t', op, ans⟩, hmem, hentry⟩ := mem_filterMap.1 h
  cases op with
  | deleteVolumeAttachment name' =>
    obtain ⟨rfl, rfl⟩ : t' = t ∧ name' = name := by simpa using hentry
    exact ⟨ans, hmem⟩
  | _ => cases hentry

/-- Every attached VolumeAttachment of a listed volume belongs to a disk of this driver, or has an
OpenNebula attachment under the key of its volume and node. -/
def foreignCovered (attachments : List ObservedAttachment) (vas : List VolumeAttachment)
    (pvs : List PersistentVolume) : Bool :=
  vas.all fun va =>
    !va.attached || (va.pvName.bind (csiByName pvs)).all fun source =>
      source.ownDisk ||
        attachmentByVolumeNode attachments (volumeNodeKey source.volumeHandle va.nodeName)

/-- If the listed foreign volumes are covered, only VolumeAttachments of own disks are deleted. -/
def deleteContract : Contract Op Op.Answer where
  rely past op ans :=
    match op, ans with
    | .listPersistentVolumes, .ok pvs => ∀ attachments vas,
        listed? past = some (attachments, vas) → foreignCovered attachments vas pvs = true
    | _, _ => True
  guar past op :=
    match op with
    | .deleteVolumeAttachment name => OwnDisk past name
    | _ => True

variable {past later : History} {op : Op}

theorem mem_listedVAs {vas : List VolumeAttachment} {va : VolumeAttachment}
    (hvas : ⟨.listVolumeAttachments, .ok vas⟩ ∈ past) (hva : va ∈ vas) : va ∈ listedVAs past :=
  mem_flatMap.2 ⟨_, hvas, hva⟩

theorem mem_listedPVs {pvs : List PersistentVolume} {pv : PersistentVolume}
    (hpvs : ⟨.listPersistentVolumes, .ok pvs⟩ ∈ past) (hpv : pv ∈ pvs) : pv ∈ listedPVs past :=
  mem_flatMap.2 ⟨_, hpvs, hpv⟩

theorem OwnDisk.mono {name : String} (h : OwnDisk past name) (hsub : past ⊆ later) :
    OwnDisk later name := by
  obtain ⟨va, hva, hname, pv, hpv, hpvName, hown⟩ := h
  obtain ⟨event, hevent, hva⟩ := mem_flatMap.1 hva
  obtain ⟨event', hevent', hpv⟩ := mem_flatMap.1 hpv
  exact ⟨va, mem_flatMap.2 ⟨event, hsub hevent, hva⟩, hname, pv,
    mem_flatMap.2 ⟨event', hsub hevent', hpv⟩, hpvName, hown⟩

/-! ## The pass -/

/-- The deletion of a `VolumeAttachment`. -/
def Op.Deletes : Op → Prop
  | .deleteVolumeAttachment _ => True
  | _ => False

theorem guar_of_not_deletes (hop : ¬ op.Deletes) : deleteContract.guar past op := by
  cases op with
  | deleteVolumeAttachment name => exact absurd trivial hop
  | _ => trivial

/-- What is known along a pass: listed foreign volumes are covered, and a VolumeAttachment that is
due belongs to one of this driver's disks. -/
structure ForeignSpared (past : History) : Prop where
  covered : ∀ attachments vas pvs, listed? past = some (attachments, vas) →
    ⟨.listPersistentVolumes, .ok pvs⟩ ∈ past → foreignCovered attachments vas pvs = true
  due : ∀ name now, ⟨.due .staleVA name now, true⟩ ∈ past → OwnDisk past name

/-- A suspect VolumeAttachment is attached, its volume is listed and has no entry for the node. -/
theorem ForeignSpared.ownDisk (h : ForeignSpared past) {name : String} {now : Int}
    (hconsidered : Considered past .staleVA name now) : OwnDisk past name := by
  obtain ⟨lists, volume, hpass, ⟨va, hva, rfl, hattached, source, hsource, rfl, hindex⟩, -⟩ :=
    hconsidered
  obtain ⟨rest, rfl⟩ := lists?_eq_some.1 hpass.lists
  have hcovered := all_eq_true.1
    (h.covered lists.attachments lists.vas lists.pvs rfl (by simp)) va hva
  obtain ⟨pvName, hpvName, hcsi⟩ := Option.bind_eq_some_iff.1 hsource
  obtain ⟨pv, hpv, hname, hpvcsi⟩ := csiByName_eq_some hcsi
  refine ⟨va, mem_listedVAs (by simp) hva, rfl, pv, mem_listedPVs (by simp) hpv, ?_, ?_⟩
  · rw [hpvName, hname]
  · rw [hpvcsi]
    simpa [hattached, hsource, hindex] using hcovered

theorem ForeignSpared.concat {ans : op.Answer} (h : ForeignSpared past)
    (hguar : graceContract.guar past op) (hrely : deleteContract.rely past op ans) :
    ForeignSpared (past ++ [⟨op, ans⟩]) := by
  constructor
  · intro attachments vas pvs hlisted hpvs
    rcases listed?_concat hlisted with hold | ⟨rfl, hevent⟩
    · rcases mem_append.1 hpvs with hpvs | hnew
      · exact h.covered attachments vas pvs hold hpvs
      · cases mem_singleton.1 hnew
        exact hrely attachments vas hold
    · simp [hevent] at hpvs
  · intro name now hdue
    rcases mem_append.1 hdue with hold | hnew
    · exact (h.due name now hold).mono (subset_append_left _ _)
    · cases mem_singleton.1 hnew
      exact (h.ownDisk hguar).mono (subset_append_left _ _)

theorem reconcileOnce_meets (cfg : Config) :
    (reconcileOnce cfg).Meets deleteContract (fun _ _ => True) [] := by
  refine ((reconcileOnce_meets_graceContract cfg).refine ForeignSpared ⟨nofun, nofun⟩
    (fun _ _ _ _ _ => trivial) (fun past op h hguar => ?_)
    fun _ _ _ h hguar hrely => h.concat hguar hrely).mono fun _ _ _ => trivial
  cases op with
  | deleteVolumeAttachment name =>
    obtain ⟨now, -, hdue⟩ := hguar
    exact h.due name now hdue
  | _ => exact guar_of_not_deletes fun h => h

/-! ## Runs -/

/-- When a pass lists the PersistentVolumes, the VolumeAttachments it has listed for volumes that
are not disks of this driver have an OpenNebula attachment in the list it has. -/
def foreignVolumesCovered (s : ReconcilerPool) : ReconcilerStep → Bool
  | .act t oracle =>
    match s.nextOp? t, listed? (s.history t), oracle.list s.world.cluster.pvs with
    | some .listPersistentVolumes, some (attachments, vas), .ok pvs =>
      foreignCovered attachments vas pvs
    | _, _, _ => true
  | _ => true

theorem reachable_kept_deleteContract {cfg : Config} {graces : Graces} {s : ReconcilerPool}
    (hs : Reachable cfg graces (fun s l => foreignVolumesCovered s l) s) :
    s.Kept fun _ => deleteContract := by
  have hstart : ∀ world kind prog world',
      (reconciler cfg graces).start world kind = some (prog, world') →
      prog.Meets deleteContract (fun _ _ => True) [] := by
    intro world kind prog world' hstart
    obtain ⟨rfl, -⟩ := by simpa only [reconciler, Option.some.injEq, Prod.mk.injEq] using hstart
    exact reconcileOnce_meets cfg
  refine (hs.conforms_and_kept hstart ?_).2
  · intro s t oracle thread op next ans world _ hok hthread hprog hact
    cases op with
    | listPersistentVolumes =>
      cases ans with
      | error err => trivial
      | ok pvs => ?_
      intro attachments vas hlisted
      obtain ⟨hpvs, -⟩ : oracle.list s.world.cluster.pvs = .ok pvs ∧ s.world = world := by
        simpa only [reconciler, act, Option.some.injEq, Prod.mk.injEq] using hact
      have hnext : s.nextOp? t = some .listPersistentVolumes := Pool.nextOp?_of_call hthread hprog
      simpa [foreignVolumesCovered, hnext, hlisted, hpvs] using hok
    | _ => trivial

/-- In every run of passes in which the volumes that are not disks of this driver are covered by the
OpenNebula attachments, every deleted VolumeAttachment belongs to a disk of this driver. -/
theorem deleted_ownDisk_of_foreignVolumesCovered {cfg : Config} {graces : Graces}
    {s : ReconcilerPool} (hs : Reachable cfg graces (fun s l => foreignVolumesCovered s l) s)
    {t : ℕ} {name : String} (hdeleted : (t, name) ∈ deletions s) : OwnDisk (s.history t) name := by
  obtain ⟨err, hmem⟩ := mem_deletions hdeleted
  obtain ⟨thread, past, rest, -, hsplit, hguar, -⟩ :=
    (reachable_kept_deleteContract hs).of_mem hs.wellFormed hmem
  have hown : OwnDisk past name := hguar
  rw [hsplit]
  exact hown.mono (subset_append_left _ _)

/-! ## Deleting what belongs to others -/

/-- The volumes of a cluster, all attached to "n1". -/
def attachedCluster (volumes : List (String × CSISource)) : World where
  cluster :=
    { vas := volumes.map fun volume => attachedOn "n1" volume.1
      pvs := volumes.map fun volume => boundVolume volume.1 volume.2
      pods := [] }
  seen _ _ := none

theorem fresh_attachedCluster (volumes : List (String × CSISource)) :
    Fresh (attachedCluster volumes) :=
  rfl

/-- Two passes, two minutes apart, over the same objects; OpenNebula has no attachment. -/
def twoPasses (volumes : ℕ) : List ReconcilerStep :=
  [.start ()] ++ List.replicate (9 + 3 * volumes) (.act 0 (calm [] detached 0)) ++
    [.start ()] ++ List.replicate (9 + 4 * volumes) (.act 1 (calm [] detached 120000000000))

/-- The second pass deletes the VolumeAttachment of an NFS volume of another driver, and the one of
a CephFS volume of this driver. -/
theorem foreign_volumeAttachment_deleted :
    ∃ s, Reachable defaultConfig defaultGraces (fun _ _ => True) s ∧
      (1, "va-nfs") ∈ deletions s ∧ ¬ OwnDisk (s.history 1) "va-nfs" ∧
      (1, "va-fs") ∈ deletions s ∧ ¬ OwnDisk (s.history 1) "va-fs" := by
  refine Machine.Reachable.of_run (fun _ _ _ => trivial) (fresh_attachedCluster _) (?_ : ∃ s ∈
    (reconciler defaultConfig defaultGraces).run (fun _ _ => true) (twoPasses 2)
      (Pool.initial (attachedCluster
        [("nfs", { driver := "nfs.csi.k8s.io", volumeHandle := "share" }),
          ("fs", { driver := defaultDriverName, volumeHandle := "cephfs:1" })])), _)
  decide +kernel

/-- The second pass deletes the VolumeAttachment of a disk that OpenNebula does not have on the
node. -/
theorem stale_disk_volumeAttachment_deleted :
    ∃ s, Reachable defaultConfig defaultGraces (fun s l => foreignVolumesCovered s l) s ∧
      (1, "va-disk") ∈ deletions s ∧ OwnDisk (s.history 1) "va-disk" := by
  have hrun : ∃ s ∈ (reconciler defaultConfig defaultGraces).run foreignVolumesCovered (twoPasses 1)
      (Pool.initial (attachedCluster [("disk",
        { driver := defaultDriverName, volumeHandle := "disk" })])),
        (1, "va-disk") ∈ deletions s := by
    decide +kernel
  obtain ⟨s, hs, hdeleted⟩ := Machine.Reachable.of_run (fun _ _ h => h)
    (fresh_attachedCluster _) hrun
  exact ⟨s, hs, hdeleted, deleted_ownDisk_of_foreignVolumesCovered hs hdeleted⟩

end OpenNebulaCSI.Reconciler
