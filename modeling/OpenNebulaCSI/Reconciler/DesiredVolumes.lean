import Mathlib.Data.List.Pairwise
import OpenNebulaCSI.Reconciler.PassCalls

/-!
# Detaching volumes that are wanted on their node

The reconciler decides about an attachment by the VolumeAttachments and pods it has listed, and its
queued function does not ask again. `VolumeDesiredOnNode` counts any VolumeAttachment that is not
being deleted, but the reconciler spares only those that are attached already, so a volume is
detached while Kubernetes waits for its attach (`wanted_volume_detached`).

What a running pass may still detach, by what it has listed, is `mayDetach`. The invariant
`Unwanted` says that none of it is wanted. It is established by the list calls and kept by every
change that brings no new VolumeAttachment or pod for such an attachment after the call that would
have listed it.
-/

namespace OpenNebulaCSI.Reconciler

open Go Concurrency Controller Program List

/-! ## Volumes that are wanted on a node -/

/-- The PersistentVolume `ResolveVolumeRuntimeContext` finds for a handle: the first one. -/
def runtimePV (pvs : List PersistentVolume) (volumeHandle : String) : Option PersistentVolume :=
  pvs.find? fun pv => pv.csi.any fun source => source.volumeHandle = volumeHandle

namespace Cluster

variable (cluster : Cluster)

/-- The VolumeAttachment is one of the volume on the node and is not being deleted. -/
def wantedBy (volumeHandle nodeName : String) (va : VolumeAttachment) : Bool :=
  ((runtimePV cluster.pvs volumeHandle).any fun pv =>
    pv.name ≠ "" && va.pvName.any fun name => trimSpace name = pv.name) &&
  trimSpace va.nodeName = trimSpace nodeName && !va.deleting

/-- The first reason of `VolumeDesiredOnNode`. -/
def desiredByAttachment (volumeHandle nodeName : String) : Bool :=
  cluster.vas.any (cluster.wantedBy volumeHandle nodeName)

/-- The second reason of `VolumeDesiredOnNode`: an active pod on the node uses the claim. -/
def desiredByPod (volumeHandle nodeName : String) : Bool :=
  (runtimePV cluster.pvs volumeHandle).any fun pv => pv.claimRef.any fun ref =>
    ref.ns ≠ "" && ref.name ≠ "" && cluster.pods.any fun pod =>
      pod.ns = ref.ns && pod.active && trimSpace pod.nodeName = trimSpace nodeName &&
        pod.claims.any fun claim => trimSpace claim = ref.name

/-- `VolumeDesiredOnNode`, when all its calls succeed. -/
def volumeDesiredOnNode (volumeHandle nodeName : String) : Bool :=
  trimSpace volumeHandle ≠ "" && trimSpace nodeName ≠ "" &&
    (cluster.desiredByAttachment volumeHandle nodeName ||
      cluster.desiredByPod volumeHandle nodeName)

/-- Names have no blanks around them, and no two PersistentVolumes have the same name or the same
handle. -/
def wellNamed : Bool :=
  (cluster.pvs.map PersistentVolume.name).Nodup &&
  ((cluster.pvs.filterMap PersistentVolume.csi).map CSISource.volumeHandle).Nodup &&
  (cluster.pvs.all fun pv => pv.claimRef.all fun ref =>
    trimSpace ref.ns = ref.ns && trimSpace ref.name = ref.name) &&
  (cluster.vas.all fun va => va.pvName.all fun name => trimSpace name = name) &&
  (cluster.pods.all fun pod => pod.claims.all fun claim => trimSpace claim = claim)

end Cluster

/-! ## What a pass may detach -/

/-- By what it has listed so far, a pass may still detach the attachment. -/
def mayDetach (pvs : List PersistentVolume) (past : History) (attachment : ObservedAttachment) :
    Bool :=
  match lists? past, listed? past with
  | some lists, _ => lists.detaches attachment
  | none, some (attachments, vas) =>
    !({ attachments, vas, pvs, pods := [] } : Lists).hasMatchingVA attachment
  | none, none => true

variable {past : History} {lists : Lists} {event : Event Op Op.Answer} {pvs : List PersistentVolume}
  {attachment : ObservedAttachment}

/-- Listing more can only spare an attachment. -/
theorem mayDetach_of_concat
    (hpvs : ∀ listed, ⟨.listPersistentVolumes, .ok listed⟩ ∈ past → listed = pvs)
    (h : mayDetach pvs (past ++ [event]) attachment = true) :
    mayDetach pvs past attachment = true := by
  cases hold : lists? past with
  | some lists =>
    rw [mayDetach, lists?_append hold] at h
    rw [mayDetach, hold]
    exact h
  | none =>
    cases hnew : lists? (past ++ [event]) with
    | some lists =>
      obtain ⟨hpast, -⟩ := (lists?_concat hnew).resolve_left (by simp [hold])
      have hlisted : listed? past = some (lists.attachments, lists.vas) := by
        rw [hpast]
        rfl
      obtain rfl : lists.pvs = pvs := hpvs lists.pvs (by simp [hpast])
      simp only [mayDetach, hnew, Lists.detaches, Option.any_eq_true, Bool.and_eq_true] at h
      obtain ⟨-, -, hmatch, -⟩ := h
      simp only [mayDetach, hold, hlisted]
      exact hmatch
    | none =>
      cases hlisted : listed? past with
      | none => simp only [mayDetach, hold, hlisted]
      | some listed => ?_
      have hsame : listed? (past ++ [event]) = some listed := by
        obtain ⟨rest, rfl⟩ := listed?_eq_some.1 hlisted
        exact listed?_eq_some.2 ⟨rest ++ [event], rfl⟩
      simp only [mayDetach, hold, hnew, hlisted, hsame] at h ⊢
      exact h

/-! ## What the lists say about a well-named cluster -/

variable {pv : PersistentVolume}

section WellNamed

variable {cluster : Cluster} {volumeHandle nodeName : String}

theorem runtimePV_eq_some (h : runtimePV pvs volumeHandle = some pv) :
    pv ∈ pvs ∧ ∃ source, pv.csi = some source ∧ source.volumeHandle = volumeHandle := by
  have hhandle := find?_some h
  obtain ⟨source, hsource, heq⟩ := (Option.any_eq_true _ _).1 hhandle
  exact ⟨mem_of_find?_eq_some h, source, hsource, of_decide_eq_true heq⟩

theorem find?_reverse_of_unique {α : Type} {property : α → Bool} {objects : List α} {object : α}
    (hmem : object ∈ objects) (hobject : property object = true)
    (hunique : ∀ other ∈ objects, property other = true → other = object) :
    objects.reverse.find? property = some object := by
  cases hfind : objects.reverse.find? property with
  | none =>
    exact absurd hobject (find?_eq_none.1 hfind object (mem_reverse.2 hmem))
  | some other =>
    have hother := mem_reverse.1 (mem_of_find?_eq_some hfind)
    rw [hunique other hother (find?_some hfind)]

theorem pvByName_of_wellNamed (hnamed : cluster.wellNamed = true) (hpv : pv ∈ cluster.pvs) :
    pvByName cluster.pvs pv.name = some pv := by
  have hnodup : (cluster.pvs.map PersistentVolume.name).Nodup := by
    simp only [Cluster.wellNamed, Bool.and_eq_true, decide_eq_true_eq] at hnamed
    exact hnamed.1.1.1.1
  refine find?_reverse_of_unique hpv (by simp) fun other hother hname => ?_
  exact inj_on_of_nodup_map hnodup hother hpv (by simpa using hname)

theorem eq_of_sameHandle {other : PersistentVolume} {source : CSISource}
    (hnodup : ((pvs.filterMap PersistentVolume.csi).map CSISource.volumeHandle).Nodup)
    (hpv : pv ∈ pvs) (hother : other ∈ pvs) (hsource : pv.csi = some source)
    (hhandle : other.csi.any (fun source' => source'.volumeHandle = source.volumeHandle) = true) :
    other = pv := by
  obtain ⟨source', hsource', heq⟩ := (Option.any_eq_true _ _).1 hhandle
  rw [List.Nodup, pairwise_map, pairwise_filterMap] at hnodup
  by_contra hne
  have hsymm : Std.Symm fun a b : PersistentVolume => ∀ x, a.csi = some x → ∀ y, b.csi = some y →
      x.volumeHandle ≠ y.volumeHandle :=
    ⟨fun _ _ h x hx y hy heq => h y hy x hx heq.symm⟩
  have hdiffer := hnodup.forall hother hpv hne
  exact hdiffer source' hsource' source hsource (of_decide_eq_true heq)

/-- A listed VolumeAttachment that is wanted and attached spares its attachment. -/
theorem hasMatchingVA_of_wantedBy (hnamed : cluster.wellNamed = true)
    (hvas : lists.vas = cluster.vas) (hpvs : lists.pvs = cluster.pvs) {va : VolumeAttachment}
    (hva : va ∈ cluster.vas)
    (hwanted : cluster.wantedBy attachment.volumeHandle attachment.nodeName va = true)
    (hattached : va.attached = true) : lists.hasMatchingVA attachment = true := by
  simp only [Cluster.wantedBy, Bool.and_eq_true, decide_eq_true_eq, Option.any_eq_true] at hwanted
  obtain ⟨⟨⟨pv, hpv, -, name, hname, htrim⟩, hnode⟩, -⟩ := hwanted
  obtain ⟨hmem, source, hsource, hhandle⟩ := runtimePV_eq_some hpv
  have hblank : trimSpace name = name := by
    simp only [Cluster.wellNamed, Bool.and_eq_true, all_eq_true] at hnamed
    simpa [hname] using hnamed.1.2 va hva
  have hcsi : va.pvName.bind (csiByName lists.pvs) = some source := by
    rw [hname, Option.bind_some, csiByName, hpvs, ← hblank, htrim,
      pvByName_of_wellNamed hnamed hmem]
    exact hsource
  simp only [Lists.hasMatchingVA, any_eq_true, Lists.vaByVolume, mem_filter]
  refine ⟨va, ⟨hvas ▸ hva, ?_⟩, ?_⟩
  · simp [hcsi, hhandle]
  · simp [hnode, hattached]

/-- A listed pod that makes the volume wanted uses its claim. -/
theorem activePodUsingPVC_of_desiredByPod (hnamed : cluster.wellNamed = true)
    (hpods : lists.pods = cluster.pods) (hpvs : lists.pvs = cluster.pvs)
    (hdesired : cluster.desiredByPod volumeHandle nodeName = true)
    (hpv : lists.pvByHandle volumeHandle = some pv) : lists.activePodUsingPVC pv = true := by
  simp only [Cluster.desiredByPod, Bool.and_eq_true, decide_eq_true_eq, Option.any_eq_true,
    any_eq_true] at hdesired
  obtain ⟨first, hfirst, ref, href, ⟨hns, hname⟩, pod, hpod, ⟨⟨hpodNs, hactive⟩, -⟩, claim, hclaim,
    htrim⟩ := hdesired
  obtain ⟨hmem, source, hsource, hhandle⟩ := runtimePV_eq_some hfirst
  simp only [Cluster.wellNamed, Bool.and_eq_true, all_eq_true, decide_eq_true_eq] at hnamed
  obtain ⟨⟨⟨⟨-, hnodup⟩, hrefs⟩, -⟩, hclaims⟩ := hnamed
  -- The last PersistentVolume with the handle is the first one.
  obtain rfl : pv = first := by
    have hlast := mem_reverse.1 (mem_of_find?_eq_some hpv)
    have hsame := find?_some hpv
    rw [hpvs] at hlast
    exact eq_of_sameHandle hnodup hmem hlast hsource (by rw [hhandle]; exact hsame)
  obtain ⟨hrefNs, hrefName⟩ : trimSpace ref.ns = ref.ns ∧ trimSpace ref.name = ref.name := by
    simpa [href] using hrefs pv hmem
  have hclaim' : claim = ref.name := by
    rw [← htrim]
    exact (hclaims pod hpod claim hclaim).symm
  have hkey : pvcKeyForPV pv = ref.ns ++ "/" ++ ref.name := by
    simp only [pvcKeyForPV, href, hrefNs, hrefName]
    rw [if_neg (not_or.2 ⟨hns, hname⟩)]
  have hne : ref.ns ++ "/" ++ ref.name ≠ "" := by
    intro hempty
    have := congrArg String.toList hempty
    simp at this
  simp only [Lists.activePodUsingPVC, hkey, Lists.activePVCUsers, Bool.and_eq_true,
    decide_eq_true_eq, any_eq_true]
  refine ⟨hne, pod, hpods ▸ hpod, hactive, claim, hclaim, ?_⟩
  rw [hpodNs, hclaim']

end WellNamed

/-! ## The invariant -/

/-- Of what a pass may still detach, nothing is wanted for a reason it has looked for already. -/
structure Unwanted (cluster : Cluster) (past : History) : Prop where
  pvs : ∀ listed, ⟨.listPersistentVolumes, .ok listed⟩ ∈ past → listed = cluster.pvs
  byAttachment : ∀ attachments vas, listed? past = some (attachments, vas) →
    ∀ attachment ∈ attachments, mayDetach cluster.pvs past attachment = true →
      cluster.desiredByAttachment attachment.volumeHandle attachment.nodeName = false
  byPod : ∀ lists, lists? past = some lists →
    ∀ attachment ∈ lists.attachments, mayDetach cluster.pvs past attachment = true →
      cluster.desiredByPod attachment.volumeHandle attachment.nodeName = false

theorem unwanted_nil (cluster : Cluster) : Unwanted cluster [] :=
  ⟨fun _ h => (by cases h), fun _ _ h => (by cases h), fun _ h => (by cases h)⟩

/-- The lists are those of the cluster. -/
def Truthful (cluster : Cluster) : (op : Op) → op.Answer → Prop
  | .listVolumeAttachments, .ok vas => vas = cluster.vas
  | .listPersistentVolumes, .ok pvs => pvs = cluster.pvs
  | .listPods, .ok pods => pods = cluster.pods
  | _, _ => True

/-- Every VolumeAttachment that makes one of the attached volumes wanted is attached itself. -/
def Cluster.settled (cluster : Cluster) (attachments : List ObservedAttachment) : Bool :=
  attachments.all fun attachment => cluster.vas.all fun va =>
    !cluster.wantedBy attachment.volumeHandle attachment.nodeName va || va.attached

/-- One more answer keeps the invariant, if the VolumeAttachments are settled when they are
listed. -/
theorem Unwanted.concat {cluster : Cluster} {past : History} {op : Op} {ans : op.Answer}
    (h : Unwanted cluster past) (hnamed : cluster.wellNamed = true)
    (htruthful : Truthful cluster op ans)
    (hsettled : ∀ attachments, past = [⟨.listCurrentAttachments, .ok attachments⟩] →
      op = .listVolumeAttachments → cluster.settled attachments = true) :
    Unwanted cluster (past ++ [⟨op, ans⟩]) := by
  refine ⟨fun listed hmem => ?_, fun attachments vas hlisted attachment hattachment hmay => ?_,
    fun lists hlists attachment hattachment hmay => ?_⟩
  · rcases mem_append.1 hmem with hold | hnew
    · exact h.pvs listed hold
    obtain ⟨rfl, hans⟩ := Event.mk.inj (mem_singleton.1 hnew)
    obtain rfl := eq_of_heq hans
    exact htruthful
  · rcases listed?_concat hlisted with hold | ⟨rfl, hevent⟩
    · exact h.byAttachment _ _ hold attachment hattachment (mayDetach_of_concat h.pvs hmay)
    obtain ⟨rfl, hans⟩ := Event.mk.inj hevent
    obtain rfl := eq_of_heq hans
    obtain rfl : vas = cluster.vas := htruthful
    have hunmatched : ({ attachments, vas := cluster.vas, pvs := cluster.pvs, pods := [] } :
        Lists).hasMatchingVA attachment = false := by
      simpa [mayDetach, lists?, listed?] using hmay
    have hall := all_eq_true.1 (hsettled attachments rfl rfl) attachment hattachment
    by_contra hdesired
    rw [Bool.not_eq_false] at hdesired
    obtain ⟨va, hva, hwanted⟩ := any_eq_true.1 hdesired
    have hattached : va.attached = true := by
      simpa [hwanted] using all_eq_true.1 hall va hva
    rw [hasMatchingVA_of_wantedBy hnamed rfl rfl hva hwanted hattached] at hunmatched
    cases hunmatched
  · rcases lists?_concat hlists with hold | ⟨rfl, hevent⟩
    · exact h.byPod _ hold attachment hattachment (mayDetach_of_concat h.pvs hmay)
    obtain ⟨rfl, hans⟩ := Event.mk.inj hevent
    obtain rfl := eq_of_heq hans
    have hpods : lists.pods = cluster.pods := htruthful
    have hpvs : lists.pvs = cluster.pvs := h.pvs _ (by simp)
    simp only [mayDetach, hlists, Lists.detaches, Option.any_eq_true, Bool.and_eq_true] at hmay
    obtain ⟨pv, hpv, -, hunused⟩ := hmay
    by_contra hdesired
    rw [Bool.not_eq_false] at hdesired
    rw [activePodUsingPVC_of_desiredByPod hnamed hpods hpvs hdesired hpv] at hunused
    cases hunused

/-- The change brings no VolumeAttachment for what a pass may still detach after it has listed
them, and no pod after it has listed those. -/
def Cluster.sparesPass (old new : Cluster) (past : History) : Bool :=
  ((listed? past).all fun listed => listed.1.all fun attachment =>
    !mayDetach old.pvs past attachment ||
      !new.desiredByAttachment attachment.volumeHandle attachment.nodeName ||
      old.desiredByAttachment attachment.volumeHandle attachment.nodeName) &&
  ((lists? past).all fun lists => lists.attachments.all fun attachment =>
    !mayDetach old.pvs past attachment ||
      !new.desiredByPod attachment.volumeHandle attachment.nodeName ||
      old.desiredByPod attachment.volumeHandle attachment.nodeName)

theorem Unwanted.change {old new : Cluster} (h : Unwanted old past) (hpvs : new.pvs = old.pvs)
    (hspares : old.sparesPass new past = true) :
    Unwanted new past := by
  simp only [Cluster.sparesPass, Bool.and_eq_true] at hspares
  refine ⟨fun listed hmem => (h.pvs listed hmem).trans hpvs.symm,
    fun attachments vas hlisted attachment hattachment hmay => ?_,
    fun lists hlists attachment hattachment hmay => ?_⟩
  · rw [hpvs] at hmay
    have hold := h.byAttachment _ _ hlisted attachment hattachment hmay
    have hall := hspares.1
    rw [hlisted] at hall
    simpa [hmay, hold] using all_eq_true.1 hall attachment hattachment
  · rw [hpvs] at hmay
    have hold := h.byPod _ hlists attachment hattachment hmay
    have hall := hspares.2
    rw [hlists] at hall
    simpa [hmay, hold] using all_eq_true.1 hall attachment hattachment

/-! ## Runs -/

/-- Names are well formed. When a pass lists the VolumeAttachments, they are settled for the
attachments it has listed. PersistentVolumes do not change, and no other change makes a volume
wanted where a running pass may detach it without looking again. -/
def undisturbed (s : ReconcilerPool) (l : ReconcilerStep) : Bool :=
  s.world.cluster.wellNamed &&
  match l with
  | .start _ => true
  | .act t _ =>
    match s.nextOp? t, s.history t with
    | some .listVolumeAttachments, [⟨.listCurrentAttachments, .ok attachments⟩] =>
      s.world.cluster.settled attachments
    | _, _ => true
  | .change cluster =>
    cluster.pvs = s.world.cluster.pvs &&
    (List.range s.threads.length).all fun t =>
      (s.result? t).isSome || s.world.cluster.sparesPass cluster (s.history t)

theorem act_cluster {graces : Graces} {oracle : Oracle} {w world : World} {op : Op}
    {ans : op.Answer} (h : act graces oracle w op = (ans, world)) :
    world.cluster = w.cluster ∧ Truthful w.cluster op ans := by
  have hlist : ∀ {α : Type} {objects listed : List α}, oracle.list objects = .ok listed →
      listed = objects := by
    intro α objects listed hlist
    unfold Oracle.list at hlist
    split at hlist
    · cases hlist
    · exact (Except.ok.inj hlist).symm
  cases op with
  | listVolumeAttachments =>
    obtain ⟨hans, rfl⟩ := Prod.mk.inj h
    cases ans with
    | error err => exact ⟨rfl, trivial⟩
    | ok vas => exact ⟨rfl, hlist hans⟩
  | listPersistentVolumes =>
    obtain ⟨hans, rfl⟩ := Prod.mk.inj h
    cases ans with
    | error err => exact ⟨rfl, trivial⟩
    | ok pvs => exact ⟨rfl, hlist hans⟩
  | listPods =>
    obtain ⟨hans, rfl⟩ := Prod.mk.inj h
    cases ans with
    | error err => exact ⟨rfl, trivial⟩
    | ok pods => exact ⟨rfl, hlist hans⟩
  | _ =>
    obtain ⟨-, rfl⟩ := Prod.mk.inj h
    exact ⟨rfl, trivial⟩

variable {cfg : Config} {graces : Graces} {s : ReconcilerPool}

/-- The invariant for all passes that have not returned. -/
def RunningUnwanted (s : ReconcilerPool) : Prop :=
  ∀ (t : ℕ) thread, s.threads[t]? = some thread → thread.prog.result? = none →
    Unwanted s.world.cluster (s.history t)

theorem reachable_runningUnwanted (hs : Reachable cfg graces (fun s l => undisturbed s l) s) :
    RunningUnwanted s := by
  have hinit : ∀ world, Fresh world → RunningUnwanted (Pool.initial world) := by
    intro world _ t thread hthread
    cases hthread
  refine hs.invariant hinit fun s l s' hs ih hok h => ?_
  simp only [undisturbed, Bool.and_eq_true] at hok
  obtain ⟨hnamed, hok⟩ := hok
  rcases Machine.step_cases h with ⟨hstart⟩ |
    @⟨t, oracle, thread, op, next, ans, world, hthread, hprog, hact⟩ | ⟨hchange⟩
  · obtain ⟨-, rfl⟩ := by simpa only [reconciler, Option.some.injEq, Prod.mk.injEq] using hstart
    intro t thread hthread hrunning
    rcases Pool.spawn_getElem?_cases hthread with hold | ⟨rfl, -⟩
    · exact ih t thread hold hrunning
    · rw [Pool.history_spawn, hs.wellFormed.history_eq_nil (Nat.le_refl _)]
      exact unwanted_nil _
  · obtain ⟨hcluster, htruthful⟩ := act_cluster (Option.some.inj hact)
    intro t' other hother hrunning
    show Unwanted world.cluster _
    rw [hcluster]
    rcases Pool.advance_getElem?_cases hother with ⟨hne, hold⟩ | ⟨rfl, rfl⟩
    · rw [Pool.history_advance_of_ne (Ne.symm hne)]
      exact ih t' other hold hrunning
    rw [Pool.history_advance_self]
    have hrunning' : thread.prog.result? = none := by
      rw [hprog]
      rfl
    refine (ih _ thread hthread hrunning').concat hnamed htruthful ?_
    rintro attachments hpast rfl
    have hnext : s.nextOp? t' = some .listVolumeAttachments := Pool.nextOp?_of_call hthread hprog
    simpa [hnext, hpast] using hok
  · obtain rfl := Option.some.inj hchange
    simp only [Bool.and_eq_true, decide_eq_true_eq, all_eq_true, mem_range, Bool.or_eq_true] at hok
    intro t thread hthread hrunning
    refine (ih t thread hthread hrunning).change hok.1 ?_
    refine (hok.2 t (List.getElem?_eq_some_iff.1 hthread).1).resolve_left ?_
    simp [Pool.result?, hthread, hrunning]

theorem reachable_conforms_detachContract
    {ok : ReconcilerPool → ReconcilerStep → Prop} (hs : Reachable cfg graces ok s) :
    s.Conforms (fun _ => detachContract) fun _ _ _ => True := by
  have hstart : ∀ world kind prog world', (reconciler cfg graces).start world kind =
      some (prog, world') → prog.Meets detachContract (fun _ _ => True) [] := by
    intro world kind prog world' hstart
    obtain ⟨rfl, -⟩ := by simpa only [reconciler, Option.some.injEq, Prod.mk.injEq] using hstart
    exact reconcileOnce_meets_detachContract cfg
  exact (hs.conforms_and_kept hstart fun _ _ _ _ _ _ _ _ _ _ _ _ _ => trivial).1

/-- The volume and the node of the detach a pass is about to issue. -/
def detaching? (s : ReconcilerPool) (t : ℕ) : Option (String × String) :=
  match s.nextOp? t with
  | some (.controller (.query (.detachVolume volume node))) => some (volume, node)
  | _ => none

theorem nextOp?_of_detaching? {s : ReconcilerPool} {t : ℕ} {volume node : String}
    (hdetach : detaching? s t = some (volume, node)) :
    s.nextOp? t = some (.controller (.query (.detachVolume volume node))) := by
  unfold detaching? at hdetach
  split at hdetach
  · rename_i hnext
    obtain ⟨rfl, rfl⟩ := answer_inj hdetach
    exact hnext
  · cases hdetach

/-- In every undisturbed run of passes, a volume is not wanted on the node the reconciler is about
to detach it from. -/
theorem detached_unwanted_of_undisturbed
    (hs : Reachable cfg graces (fun s l => undisturbed s l) s) {t : ℕ} {volume node : String}
    (hdetach : detaching? s t = some (volume, node)) :
    s.world.cluster.volumeDesiredOnNode volume node = false := by
  have hnext := nextOp?_of_detaching? hdetach
  obtain ⟨thread, hthread, hop⟩ := Option.bind_eq_some_iff.1 hnext
  obtain ⟨next, hprog⟩ := nextOp?_eq_some.1 hop
  have hguar : ∃ lists, lists? (s.history t) = some lists ∧
      lists.Allows (.controller (.query (.detachVolume volume node))) :=
    (reachable_conforms_detachContract hs).guar hthread hprog
  obtain ⟨lists, hlists, attachment, hmem, rfl, rfl, hdetaches⟩ := hguar
  have hunwanted := reachable_runningUnwanted hs t thread hthread (by rw [hprog]; rfl)
  have hmay : mayDetach s.world.cluster.pvs (s.history t) attachment = true := by
    rw [mayDetach, hlists]
    exact hdetaches
  have hlisted : listed? (s.history t) = some (lists.attachments, lists.vas) := by
    obtain ⟨rest, hrest⟩ := lists?_eq_some.1 hlists
    exact listed?_eq_some.2 ⟨_, hrest⟩
  have hva := hunwanted.byAttachment _ _ hlisted attachment hmem hmay
  have hpod := hunwanted.byPod _ hlists attachment hmem hmay
  simp [Cluster.volumeDesiredOnNode, hva, hpod]

/-! ## Detaching a volume that waits for its attach -/

/-- The volume "disk" is bound to a claim and has the given VolumeAttachments. -/
def diskWorld (vas : List VolumeAttachment) : World where
  cluster :=
    { vas, pvs := [boundVolume "disk" { driver := defaultDriverName, volumeHandle := "disk" }],
      pods := [] }
  seen _ _ := none

theorem fresh_diskWorld (vas : List VolumeAttachment) : Fresh (diskWorld vas) :=
  rfl

/-- OpenNebula has the disk attached to "n1". -/
def diskOnNode (now : Int) : Oracle :=
  calm [{ volumeHandle := "disk", imageID := 7, nodeName := "n1", nodeID := 1, diskID := 3,
          backend := "" }] (fun nodeID => if nodeID = 1 then some "sda" else none) now

/-- Two passes, two minutes apart, of which the second has come to its detach. -/
def untilDetach : List ReconcilerStep :=
  [.start ()] ++ List.replicate 12 (.act 0 (diskOnNode 0)) ++
    [.start ()] ++ List.replicate 15 (.act 1 (diskOnNode 120000000000))

/-- The VolumeAttachment of the disk on "n1" exists all the time, but is not attached yet. The
second pass is about to detach the disk. -/
theorem wanted_volume_detached :
    ∃ s, Reachable defaultConfig defaultGraces (fun _ _ => True) s ∧
      detaching? s 1 = some ("disk", "n1") ∧
      s.world.cluster.volumeDesiredOnNode "disk" "n1" = true := by
  refine Machine.Reachable.of_run (fun _ _ _ => trivial) (fresh_diskWorld _) (?_ : ∃ s ∈
    (reconciler defaultConfig defaultGraces).run (fun _ _ => true) untilDetach
      (Pool.initial (diskWorld [{ attachedOn "n1" "disk" with attached := false }])), _)
  decide +kernel

/-- The VolumeAttachment of the disk on "n1" is deleted, and one on "n2" is made while the second
pass runs. The pass is about to detach the disk from "n1", where it is not wanted. -/
theorem unwanted_volume_detached :
    ∃ s, Reachable defaultConfig defaultGraces (fun s l => undisturbed s l) s ∧
      detaching? s 1 = some ("disk", "n1") ∧
      s.world.cluster.volumeDesiredOnNode "disk" "n1" = false := by
  have hrun : ∃ s ∈ (reconciler defaultConfig defaultGraces).run undisturbed
      ([.change (diskWorld []).cluster] ++ untilDetach ++
        [.change (diskWorld [attachedOn "n2" "disk"]).cluster])
      (Pool.initial (diskWorld [attachedOn "n1" "disk"])),
        detaching? s 1 = some ("disk", "n1") := by
    decide +kernel
  obtain ⟨s, hs, hdetach⟩ := Machine.Reachable.of_run (fun _ _ h => h) (fresh_diskWorld _) hrun
  exact ⟨s, hs, hdetach, detached_unwanted_of_undisturbed hs hdetach⟩

end OpenNebulaCSI.Reconciler
