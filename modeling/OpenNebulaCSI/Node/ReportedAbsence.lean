import OpenNebulaCSI.Node.LocalDisk
import OpenNebulaCSI.Node.SharedFilesystem

/-!
# When a pod or a volume is taken for gone

Three pieces of the recovery throw something away because a pod, or a PersistentVolume, no longer
exists: the collection of orphaned sessions, the cleanup of a target whose unmount has failed, and
the recovery of a local disk, which must not touch running pods. They ask the Kubernetes API, and
they should believe in an absence only if a list has arrived in which the object is missing.

`PodUIDExists` and `ResolveVolumeRuntimeContext` keep apart what they know, but their callers do
not: `podUIDExists` makes a failed query the same as a negative answer, and the collection of
sessions takes every error of `ResolveVolumeRuntimeContext` for a missing volume. So one failure of
the API server is enough to delete the session of a running pod (`session_collected_on_apiFailure`).
-/

namespace OpenNebulaCSI.Node

open Go Concurrency Controller Program List

/-! ## What the Kubernetes runtime answers -/

/-- The fields of a PersistentVolume that `ResolveVolumeRuntimeContext` looks for, with the handle
of its CSI source. -/
structure PersistentVolume where
  name : String
  volumeHandle : Option String
  deriving DecidableEq

/-- What the API server answers during a call: to each list of pods, with their UIDs, and to the
list of PersistentVolumes. -/
structure ClusterAnswers where
  /-- The runtime may be there without being enabled. -/
  enabled : Bool
  pods : ℕ → Except GoError (List String)
  pvs : Except GoError (List PersistentVolume)

variable {queries : List (String × ℕ)}

namespace ClusterAnswers

variable (answers : ClusterAnswers)

/-- `PodUIDExists`, as the query with the given number. -/
def podUIDExists (query : String × ℕ) : Except GoError Bool :=
  if !answers.enabled then .error (.plain "kubernetes runtime is not enabled")
  else if trimSpace query.1 = "" then .error (.plain "pod UID is required")
  else (answers.pods query.2).map fun uids => uids.contains (trimSpace query.1)

/-- `ResolveVolumeRuntimeContext`; what it reads about the volume it has found is left out. -/
def resolveVolumeRuntimeContext (volumeHandle : String) : Except GoError PersistentVolume :=
  if !answers.enabled then .error (.plain "kubernetes runtime is not enabled")
  else if trimSpace volumeHandle = "" then .error (.plain "volume handle is required")
  else
    match answers.pvs with
    | .error err => .error err
    | .ok pvs =>
      match pvs.find? fun pv => pv.volumeHandle = some volumeHandle with
      | some pv => .ok pv
      | none =>
        .error (.plain ("persistent volume for handle " ++ volumeHandle ++ " not found"))

/-- A list of PersistentVolumes has arrived, and none has the handle. -/
def VolumeAbsent (volumeHandle : String) : Prop :=
  answers.enabled = true ∧
    ∃ pvs, answers.pvs = .ok pvs ∧ ∀ pv ∈ pvs, pv.volumeHandle ≠ some volumeHandle

/-- Some successful answer shows one of the pods. -/
def PodSeen (queries : List (String × ℕ)) : Prop :=
  ∃ query ∈ queries, answers.podUIDExists query = .ok true

theorem podSeen_cons {query : String × ℕ} : answers.PodSeen (query :: queries) ↔
    answers.podUIDExists query = .ok true ∨ answers.PodSeen queries := by
  simp only [PodSeen, exists_mem_cons_iff]

/-- Every pod is the subject of a query that succeeds. -/
def PodsAnswered (queries : List (String × ℕ)) : Prop :=
  ∀ query ∈ queries, ∃ other ∈ queries, other.1 = query.1 ∧
    ∃ found, answers.podUIDExists other = .ok found

theorem podsAnswered_iff (hseen : ¬ answers.PodSeen queries) :
    answers.PodsAnswered queries ↔ ∀ query ∈ queries, ∃ other ∈ queries, other.1 = query.1 ∧
      answers.podUIDExists other = .ok false := by
  constructor
  · intro h query hquery
    obtain ⟨other, hother, huid, found, hfound⟩ := h query hquery
    cases found with
    | false => exact ⟨other, hother, huid, hfound⟩
    | true => exact absurd ⟨other, hother, hfound⟩ hseen
  · intro h query hquery
    obtain ⟨other, hother, huid, hno⟩ := h query hquery
    exact ⟨other, hother, huid, false, hno⟩

/-- Of the errors of `ResolveVolumeRuntimeContext`, only one reports an absence. -/
theorem volumeAbsent_of_error {volumeHandle : String} {err : GoError}
    (hhandle : trimSpace volumeHandle ≠ "") (henabled : answers.enabled = true)
    {pvs : List PersistentVolume} (hpvs : answers.pvs = .ok pvs)
    (h : answers.resolveVolumeRuntimeContext volumeHandle = .error err) :
    answers.VolumeAbsent volumeHandle := by
  refine ⟨henabled, pvs, hpvs, ?_⟩
  unfold resolveVolumeRuntimeContext at h
  rw [henabled, hpvs, if_neg (by simp), if_neg hhandle] at h
  dsimp only at h
  split at h
  · cases h
  rename_i hnone
  intro pv hpv
  simpa using find?_eq_none.1 hnone pv hpv

end ClusterAnswers

/-! ## Asking for pods -/

/-- Operations one of which asks whether a pod exists. -/
class AsksForPods (Op : Type) (Ans : outParam (Op → Type)) where
  asks : Op → Bool
  /-- The query about a pod with its answer. -/
  ask : String → Except GoError Bool → Event Op Ans
  asks_ask : ∀ uid ans, asks (ask uid ans).op = true
  ask_inj : ∀ {uid uid' ans ans'}, ask uid ans = ask uid' ans' → uid = uid' ∧ ans = ans'

instance : AsksForPods Op Op.Answer where
  asks op := match op with
    | .podUIDExists _ => true
    | _ => false
  ask uid ans := ⟨.podUIDExists uid, ans⟩
  asks_ask _ _ := rfl
  ask_inj h := by
    cases h
    exact ⟨rfl, rfl⟩

instance : AsksForPods LocalDisk.Op LocalDisk.Op.Answer where
  asks op := match op with
    | .podUIDExists _ => true
    | _ => false
  ask uid ans := ⟨.podUIDExists uid, ans⟩
  asks_ask _ _ := rfl
  ask_inj h := by
    cases h
    exact ⟨rfl, rfl⟩

/-- What `podUIDExists` makes of an answer. -/
def saysYes : Except GoError Bool → Bool
  | .ok found => found
  | .error _ => false

theorem saysYes_eq_true {enabled : Bool} {answer : Except GoError Bool} :
    (enabled && saysYes answer) = true ↔ enabled = true ∧ answer = .ok true := by
  cases answer with
  | error err => simp [saysYes]
  | ok found => simp [saysYes]

section Asking

variable {O : Type} {A : O → Type} [AsksForPods O A] {answers : ClusterAnswers}
  {past : List (Event O A)} {uid : String} {first : ℕ}

open AsksForPods

/-- The number of queries about pods so far. -/
def podQueries (past : List (Event O A)) : ℕ :=
  past.countP fun event => AsksForPods.asks event.op

theorem podQueries_nil : podQueries ([] : List (Event O A)) = 0 :=
  rfl

/-- The history that queries about pods leave. -/
def asked (answers : ClusterAnswers) (queries : List (String × ℕ)) : List (Event O A) :=
  queries.map fun query => ask query.1 (answers.podUIDExists query)

theorem mem_asked : (ask uid (.ok false) : Event O A) ∈ asked answers queries ↔
    ∃ query ∈ queries, query.1 = uid ∧ answers.podUIDExists query = .ok false := by
  unfold asked
  rw [mem_map]
  constructor
  · rintro ⟨query, hquery, hevent⟩
    exact ⟨query, hquery, ask_inj hevent⟩
  · rintro ⟨query, hquery, rfl, hno⟩
    exact ⟨query, hquery, by rw [hno]⟩

/-- After a query the next one has the next number; without a runtime there is none. -/
theorem podQueries_append_asked {enabled : Bool}
    (hpast : enabled = true → podQueries past = first) (h : enabled = true) :
    podQueries (past ++ if enabled then asked answers [(uid, first)] else []) = first + 1 := by
  rw [if_pos h, ← hpast h, podQueries, countP_append]
  simp [podQueries, asked, asks_ask]

/-- The query of `podUIDExists`, which is only made if there is a runtime. -/
theorem podUIDExists_yields {C : Contract O A} (query : Program O A (Except GoError Bool))
    {p : Program O A Bool} {enabled : Bool}
    (hp : p = if !enabled then pure false else query >>= fun answer => pure (saysYes answer))
    (hquery : enabled = true →
      query.Yields C past (asked answers [(uid, first)]) (answers.podUIDExists (uid, first))) :
    p.Yields C past (if enabled then asked answers [(uid, first)] else [])
      (enabled && saysYes (answers.podUIDExists (uid, first))) := by
  subst hp
  cases enabled with
  | false => exact yields_pure
  | true => exact (hquery rfl).bind yields_pure

end Asking

/-! ## Discarding sessions and targets -/

/-- The operations by which the recovery gives up a session or a target. -/
def Op.discards : Op → Bool
  | .cleanupMountPoint _ | .removeAll _ | .saveSession _ | .deleteSession _ => true
  | _ => false

/-- The API server answers as given, and all other calls have any outcome. Then something is
discarded only when the absence has been reported. -/
def absenceContract (answers : ClusterAnswers) (reported : History → Prop) :
    Contract Op Op.Answer where
  rely past op ans :=
    match op, ans with
    | .podUIDExists uid, ans => ans = answers.podUIDExists (uid, podQueries past)
    | .resolveVolumeRuntimeContext volume, ans =>
      ans = (answers.resolveVolumeRuntimeContext volume).map fun _ => ()
    | _, _ => True
  guar past op := op.discards = true → reported past

/-- The queries about the pods of targets, in the order in which they are made. -/
def podQueriesOf (targets : List SharedFilesystemPublishedTarget) (first : ℕ) : List (String × ℕ) :=
  (targets.map fun target => podUIDFromKubeletPath target.targetPath).zipIdx first

theorem podQueriesOf_cons (target : SharedFilesystemPublishedTarget)
    (rest : List SharedFilesystemPublishedTarget) (first : ℕ) :
    podQueriesOf (target :: rest) first =
      (podUIDFromKubeletPath target.targetPath, first) :: podQueriesOf rest (first + 1) := by
  rw [podQueriesOf, map_cons, zipIdx_cons, podQueriesOf]

variable {uid : String}

section Shared

variable {answers : ClusterAnswers} {reported : History → Prop} {past : History} {cfg : Config}
  {α : Type} {first : ℕ}

theorem podUIDExists_asks (hpast : cfg.kubeRuntime = true → podQueries past = first) :
    (podUIDExists cfg uid).Yields (absenceContract answers reported) past
      (if cfg.kubeRuntime then asked answers [(uid, first)] else [])
      (cfg.kubeRuntime && saysYes (answers.podUIDExists (uid, first))) := by
  refine podUIDExists_yields (perform (.podUIDExists uid)) ?_ fun hkube =>
    yields_perform ?_ fun _ => ?_
  · unfold podUIDExists
    congr
    funext answer
    cases answer <;> rfl
  · rintro ⟨⟩
  · rw [← hpast hkube]
    rfl

section Loop

variable {targets : List SharedFilesystemPublishedTarget}

/-- The loop over the pods ends with the belief that all are gone, unless a target has no pod or an
answer shows one. -/
theorem allPodsGone_asks (hpast : cfg.kubeRuntime = true → podQueries past = first) : ∃ later gone,
    (allPodsGone cfg targets).Yields (absenceContract answers reported) past later gone ∧
    (gone = true ↔ (∀ target ∈ targets, podUIDFromKubeletPath target.targetPath ≠ "") ∧
      ¬ (cfg.kubeRuntime = true ∧ answers.PodSeen (podQueriesOf targets first))) ∧
    (gone = true →
      later = if cfg.kubeRuntime then asked answers (podQueriesOf targets first) else []) := by
  induction targets generalizing past first with
  | nil =>
    exact ⟨[], true, yields_pure, by simp [ClusterAnswers.PodSeen, podQueriesOf],
      by simp [asked, podQueriesOf]⟩
  | cons target rest ih =>
    unfold allPodsGone
    dsimp only
    by_cases huid : podUIDFromKubeletPath target.targetPath = ""
    · rw [if_pos huid]
      exact ⟨[], false, yields_pure, by simp [huid], by simp⟩
    rw [if_neg huid, podQueriesOf_cons]
    have hask : (podUIDExists cfg (podUIDFromKubeletPath target.targetPath)).Yields
      (absenceContract answers reported) past _ _ := podUIDExists_asks hpast
    cases hfound : cfg.kubeRuntime &&
      saysYes (answers.podUIDExists (podUIDFromKubeletPath target.targetPath, first)) with
    | true =>
      rw [hfound] at hask
      refine ⟨_, false, hask.bind yields_pure, ?_, by simp⟩
      simp [answers.podSeen_cons, saysYes_eq_true.1 hfound]
    | false =>
      rw [hfound] at hask
      have hno := mt saysYes_eq_true.2 (Bool.eq_false_iff.1 hfound)
      obtain ⟨later, gone, hrest, hgone, hlater⟩ := ih (podQueries_append_asked hpast)
      refine ⟨_, gone, hask.bind hrest, ?_, fun h => ?_⟩
      · simpa [answers.podSeen_cons, and_or_left, hno, huid] using hgone
      · rw [hlater h]
        cases cfg.kubeRuntime <;> rfl

end Loop

/-! ### Collecting a session -/

/-- Every pod of the session and its volume have been reported absent. -/
def SessionReported (answers : ClusterAnswers) (session : SharedFilesystemSession)
    (past : History) : Prop :=
  (∀ target ∈ session.publishedTargets,
    (⟨.podUIDExists (podUIDFromKubeletPath target.targetPath), .ok false⟩ :
      Event Op Op.Answer) ∈ past) ∧
  (∃ ans, (⟨.resolveVolumeRuntimeContext session.volumeID, ans⟩ : Event Op Op.Answer) ∈ past) ∧
  answers.VolumeAbsent session.volumeID

theorem SessionReported.append {session : SharedFilesystemSession}
    (h : SessionReported answers session past)
    (later : History) : SessionReported answers session (past ++ later) := by
  obtain ⟨hpods, ⟨ans, hvolume⟩, habsent⟩ := h
  exact ⟨fun target htarget => mem_append_left _ (hpods target htarget),
    ⟨ans, mem_append_left _ hvolume⟩, habsent⟩

/-- The answers are enough to collect the session, or not to: a pod or the volume is seen, or each
of them is the subject of a successful answer. Nothing has to be known about a session that is never
collected. -/
def collectionAnswered (cfg : Config) (answers : ClusterAnswers)
    (session : SharedFilesystemSession) : Prop :=
  trimSpace session.volumeID = "" ∨ session.publishedTargets = [] ∨
  (∃ target ∈ session.publishedTargets, podUIDFromKubeletPath target.targetPath = "") ∨
  cfg.kubeRuntime = true ∧
    (answers.PodSeen (podQueriesOf session.publishedTargets 0) ∨
      (∃ pv, answers.resolveVolumeRuntimeContext session.volumeID = .ok pv) ∨
      answers.PodsAnswered (podQueriesOf session.publishedTargets 0) ∧
        answers.enabled = true ∧ ∃ pvs, answers.pvs = .ok pvs)

section Collect

variable {session : SharedFilesystemSession}

theorem guar_of_not_discards {op : Op} (hop : op.discards = false) :
    (absenceContract answers reported).guar past op := by
  intro hdiscards
  rw [hop] at hdiscards
  cases hdiscards

theorem meets_of_reported (hstable : ∀ past event, reported past → reported (past ++ [event]))
    (h : reported past) (p : Prog α) :
    p.Meets (absenceContract answers reported) (fun _ _ => True) past :=
  ((only_of_forall (fun _ => trivial) p).meets h (fun _ _ _ hpast _ => hpast)
    fun _ _ _ _ => hstable _ _).mono fun _ _ _ => trivial

theorem reported_of_removeOrphanedSession {post : History → Bool → Prop}
    (htargets : session.publishedTargets ≠ [])
    (h : (removeOrphanedSession session).Meets (absenceContract answers reported) post past) :
    reported (past ++ [⟨.listMounts .check, .error (.plain "")⟩]) := by
  unfold removeOrphanedSession at h
  cases hlist : session.publishedTargets with
  | nil => exact absurd hlist htargets
  | cons target rest => ?_
  rw [hlist, meets_bind] at h
  unfold removeTargets at h
  rw [meets_bind] at h
  unfold stillUsable at h
  simp only [meets_bind, meets_perform] at h
  have hunknown := h.2 (.error (.plain "")) trivial
  simp only [meets_pure, Bool.false_eq_true, if_false, meets_bind, meets_perform] at hunknown
  exact hunknown.1 rfl

theorem mem_podQueriesOf {targets : List SharedFilesystemPublishedTarget} :
    (∃ query ∈ podQueriesOf targets first, query.1 = uid) ↔
      ∃ target ∈ targets, podUIDFromKubeletPath target.targetPath = uid := by
  have hmap : (podQueriesOf targets first).map Prod.fst =
      targets.map fun target => podUIDFromKubeletPath target.targetPath :=
    zipIdx_map_fst _ _
  rw [← mem_map, hmap, mem_map]

/-- After all pods have been asked for and none was seen, what has been reported is what was
answered. -/
theorem targets_reported_iff {targets : List SharedFilesystemPublishedTarget}
    (hseen : ¬ answers.PodSeen (podQueriesOf targets 0)) :
    (∀ target ∈ targets, (⟨.podUIDExists (podUIDFromKubeletPath target.targetPath), .ok false⟩ :
        Event Op Op.Answer) ∈ asked answers (podQueriesOf targets 0)) ↔
      answers.PodsAnswered (podQueriesOf targets 0) := by
  rw [answers.podsAnswered_iff hseen]
  constructor
  · intro h query hquery
    obtain ⟨target, htarget, huid⟩ := mem_podQueriesOf.1 ⟨query, hquery, rfl⟩
    rw [← huid]
    exact mem_asked.1 (h target htarget)
  · intro h target htarget
    obtain ⟨query, hquery, huid⟩ := mem_podQueriesOf.2 ⟨target, htarget, rfl⟩
    obtain ⟨other, hother, hsame, hno⟩ := h query hquery
    exact mem_asked.2 ⟨other, hother, hsame.trans huid, hno⟩

/-- After the queries about the pods and the volume, the session is removed only with the absences
reported, if and only if they have been answered. -/
theorem removeOrphanedSession_reported_iff {err : GoError} (hid : trimSpace session.volumeID ≠ "")
    (htargets : session.publishedTargets ≠ [])
    (hseen : ¬ answers.PodSeen (podQueriesOf session.publishedTargets 0))
    (herr : answers.resolveVolumeRuntimeContext session.volumeID = .error err) :
    (removeOrphanedSession session).Meets
        (absenceContract answers (SessionReported answers session)) (fun _ _ => True)
        (asked answers (podQueriesOf session.publishedTargets 0) ++
          [⟨.resolveVolumeRuntimeContext session.volumeID, .error err⟩]) ↔
      answers.PodsAnswered (podQueriesOf session.publishedTargets 0) ∧
        answers.enabled = true ∧ ∃ pvs, answers.pvs = .ok pvs := by
  constructor
  · intro h
    obtain ⟨hpods, -, henabled, pvs, hpvs, -⟩ := reported_of_removeOrphanedSession htargets h
    refine ⟨(targets_reported_iff hseen).1 fun target htarget => ?_, henabled, pvs, hpvs⟩
    -- Neither of the two later events is about a pod.
    simpa using hpods target htarget
  · rintro ⟨hpods, henabled, pvs, hpvs⟩
    refine meets_of_reported (fun _ _ h => h.append _)
      ⟨fun target htarget => ?_, ⟨.error err, ?_⟩, ?_⟩ _
    · exact mem_append_left _ ((targets_reported_iff hseen).2 hpods target htarget)
    · exact mem_append_right _ (mem_singleton.2 rfl)
    · exact answers.volumeAbsent_of_error hid henabled hpvs herr

/-- Whatever else is answered, sessions are collected only after all absences have been reported, if
and only if the answers of the API server are enough. -/
theorem collection_reported_iff :
    (garbageCollectOrphanedSession cfg session).Meets
        (absenceContract answers (SessionReported answers session)) (fun _ _ => True) [] ↔
      collectionAnswered cfg answers session := by
  unfold collectionAnswered garbageCollectOrphanedSession
  by_cases hid : trimSpace session.volumeID = ""
  · rw [if_pos (.inl hid)]
    exact iff_of_true (meets_pure.2 trivial) (.inl hid)
  by_cases htargets : session.publishedTargets = []
  · rw [if_pos (.inr htargets)]
    exact iff_of_true (meets_pure.2 trivial) (.inr (.inl htargets))
  obtain ⟨later, gone, hmeets, hgone, hlater⟩ := @allPodsGone_asks answers
    (SessionReported answers session) [] cfg 0 session.publishedTargets fun _ => podQueries_nil
  rw [if_neg (by simp [hid, htargets]), meets_bind, hmeets, nil_append, or_iff_right hid,
    or_iff_right htargets]
  cases gone with
  | false =>
    refine iff_of_true (meets_pure.2 trivial) ?_
    by_contra hnone
    cases hgone.2 ⟨fun target htarget huid => hnone (.inl ⟨target, htarget, huid⟩),
      fun h => hnone (.inr ⟨h.1, .inl h.2⟩)⟩
  | true => ?_
  obtain ⟨huids, hseen⟩ := hgone.1 rfl
  obtain rfl := hlater rfl
  rw [if_pos rfl, or_iff_right fun ⟨target, htarget, huid⟩ => huids target htarget huid]
  cases hkube : cfg.kubeRuntime with
  | false =>
    -- Nothing is asked, so nothing has been reported when the first target is unmounted.
    refine iff_of_false (fun h => ?_) (by simp)
    obtain ⟨-, ⟨ans, hasked⟩, -⟩ := reported_of_removeOrphanedSession htargets h
    simp at hasked
  | true =>
    have hseen : ¬ answers.PodSeen (podQueriesOf session.publishedTargets 0) :=
      fun h => hseen ⟨hkube, h⟩
    rw [if_pos rfl, if_pos rfl, meets_bind, meets_perform, and_iff_right rfl, or_iff_right hseen,
      and_iff_right (guar_of_not_discards rfl)]
    show (∀ ans, ans = (answers.resolveVolumeRuntimeContext session.volumeID).map _ → _) ↔ _
    rw [forall_eq]
    cases hanswer : answers.resolveVolumeRuntimeContext session.volumeID with
    | ok pv => exact iff_of_true (meets_pure.2 trivial) (.inl ⟨pv, rfl⟩)
    | error err =>
      rw [or_iff_right (by simp)]
      exact removeOrphanedSession_reported_iff hid htargets hseen hanswer

end Collect

/-! ### Cleaning a target on unpublish -/

/-- The pod of the target has been reported absent. -/
def TargetReported (targetPath : String) (past : History) : Prop :=
  (⟨.podUIDExists (podUIDFromKubeletPath targetPath), .ok false⟩ : Event Op Op.Answer) ∈ past

/-- The target belongs to no pod, or the query about its pod succeeds. -/
def cleanupAnswered (cfg : Config) (answers : ClusterAnswers) (targetPath : String) : Prop :=
  podUIDFromKubeletPath targetPath = "" ∨
    cfg.kubeRuntime = true ∧
      ∃ found, answers.podUIDExists (podUIDFromKubeletPath targetPath, 0) = .ok found

section Cleanup

variable {volumeID targetPath : String}

/-- The part of the cleanup after the pod. -/
def discardTarget (volumeID targetPath : String) : Prog Bool := do
  if ← stillUsable targetPath then return false
  else do
    removeSharedFilesystemPublishedTarget volumeID targetPath
    perform (.removeAll targetPath)
    return true

theorem cleanupOrphaned_eq (huid : podUIDFromKubeletPath targetPath ≠ "") :
    cleanupOrphanedSharedFilesystemTargetOnUnpublish cfg volumeID targetPath = (do
      if ← podUIDExists cfg (podUIDFromKubeletPath targetPath) then return false
      else discardTarget volumeID targetPath) := by
  unfold cleanupOrphanedSharedFilesystemTargetOnUnpublish
  dsimp only
  rw [if_neg huid]
  rfl

theorem reported_of_discardTarget {post : History → Bool → Prop}
    (h : (discardTarget volumeID targetPath).Meets (absenceContract answers reported) post past) :
    ∃ later, (∀ event ∈ later, AsksForPods.asks event.op = false) ∧ reported (past ++ later) := by
  unfold discardTarget stillUsable at h
  simp only [meets_bind, meets_perform] at h
  have hunknown := h.2 (.error (.plain "")) trivial
  simp only [meets_pure, Bool.false_eq_true, if_false, meets_bind] at hunknown
  unfold removeSharedFilesystemPublishedTarget at hunknown
  split at hunknown
  · simp only [meets_pure, meets_perform] at hunknown
    exact ⟨[⟨.listMounts .check, .error (.plain "")⟩], by simp [AsksForPods.asks], hunknown.1 rfl⟩
  simp only [meets_bind, meets_perform] at hunknown
  have hunread := hunknown.2 (.error (.plain "")) trivial
  simp only [meets_pure, append_assoc] at hunread
  refine ⟨_, ?_, hunread.1 rfl⟩
  simp [AsksForPods.asks]

/-- Whatever else is answered, a target is cleaned only after its pod has been reported absent, if
and only if the query about the pod succeeds. -/
theorem cleanup_reported_iff :
    (cleanupOrphanedSharedFilesystemTargetOnUnpublish cfg volumeID targetPath).Meets
        (absenceContract answers (TargetReported targetPath)) (fun _ _ => True) [] ↔
      cleanupAnswered cfg answers targetPath := by
  unfold cleanupAnswered
  by_cases huid : podUIDFromKubeletPath targetPath = ""
  · refine iff_of_true ?_ (.inl huid)
    unfold cleanupOrphanedSharedFilesystemTargetOnUnpublish
    dsimp only
    rw [if_pos huid]
    exact meets_pure.2 trivial
  rw [cleanupOrphaned_eq huid, meets_bind, or_iff_right huid]
  cases hkube : cfg.kubeRuntime with
  | false =>
    refine iff_of_false (fun h => ?_) (by simp)
    rw [podUIDExists_asks fun _ => podQueries_nil, hkube] at h
    obtain ⟨later, hquiet, hreported⟩ := reported_of_discardTarget h
    have hasks := hquiet _ hreported
    cases hasks
  | true =>
    rw [podUIDExists_asks fun _ => podQueries_nil, hkube, nil_append, and_iff_right rfl]
    cases hanswer : answers.podUIDExists (podUIDFromKubeletPath targetPath, 0) with
    | error err =>
      refine iff_of_false (fun h => ?_) (by simp)
      obtain ⟨later, hquiet, hreported⟩ := reported_of_discardTarget h
      rcases mem_append.1 hreported with hasked | hlater
      · obtain ⟨query, hquery, -, hno⟩ := mem_asked.1 hasked
        obtain rfl := mem_singleton.1 hquery
        rw [hanswer] at hno
        cases hno
      · have hasks := hquiet _ hlater
        cases hasks
    | ok found =>
      refine iff_of_true ?_ ⟨found, rfl⟩
      cases found with
      | true => exact meets_pure.2 trivial
      | false =>
        refine meets_of_reported (fun _ _ => mem_append_left _) ?_ _
        exact mem_asked.2 ⟨_, mem_singleton.2 rfl, rfl, hanswer⟩

end Cleanup

end Shared

/-! ## Local disks -/

namespace LocalDisk

/-- The pods of the targets that belong to one. -/
def podsOf (targets : List LocalDiskPublishedTarget) : List String :=
  (targets.map fun target => podUIDFromKubeletPath target.targetPath).filter fun uid => uid ≠ ""

/-- The pods of all targets at the path have been reported absent. -/
def PathReported (session : LocalDiskSession) (path : String) (past : History) : Prop :=
  ∀ target ∈ session.publishedTargets, target.targetPath = path →
    podUIDFromKubeletPath path ≠ "" →
      (⟨.podUIDExists (podUIDFromKubeletPath path), .ok false⟩ : Event Op Op.Answer) ∈ past

/-- The API server answers as given, and all other calls have any outcome. Then a target is
unmounted only when its pod has been reported absent. -/
def absenceContract (answers : ClusterAnswers) (session : LocalDiskSession) :
    Contract Op Op.Answer where
  rely past op ans :=
    match op, ans with
    | .podUIDExists uid, ans => ans = answers.podUIDExists (uid, podQueries past)
    | _, _ => True
  guar past op :=
    match op with
    | .cleanupMountPoint path => PathReported session path past
    | _ => True

/-- The answers are enough to recover the session, or not to: a pod is seen, or each of them is the
subject of a successful answer. -/
def recoveryAnswered (cfg : Config) (answers : ClusterAnswers) (session : LocalDiskSession) :
    Prop :=
  cfg.localRWOStaleMountRecovery = false ∨
  localRWORecoveryMaxAttempts cfg ≤ session.recoveryAttempts ∨
  podsOf session.publishedTargets = [] ∨
  cfg.kubeRuntime = true ∧
    (answers.PodSeen ((podsOf session.publishedTargets).zipIdx) ∨
      answers.PodsAnswered ((podsOf session.publishedTargets).zipIdx))

section Recovery

variable {answers : ClusterAnswers} {session : LocalDiskSession} {past : History} {cfg : Config}
  {targets : List LocalDiskPublishedTarget} {first : ℕ} {target : LocalDiskPublishedTarget}

theorem podsOf_cons_of_ne (h : podUIDFromKubeletPath target.targetPath ≠ "") :
    podsOf (target :: targets) = podUIDFromKubeletPath target.targetPath :: podsOf targets := by
  rw [podsOf, map_cons, filter_cons_of_pos (by simpa using h), podsOf]

theorem podsOf_cons_of_eq (h : podUIDFromKubeletPath target.targetPath = "") :
    podsOf (target :: targets) = podsOf targets := by
  rw [podsOf, map_cons, filter_cons_of_neg (by simpa using h), podsOf]

theorem mem_podsOf (htarget : target ∈ targets) (h : podUIDFromKubeletPath target.targetPath ≠ "") :
    podUIDFromKubeletPath target.targetPath ∈ podsOf targets :=
  mem_filter.2 ⟨mem_map.2 ⟨target, htarget, rfl⟩, by simpa using h⟩

theorem podUIDExists_asks (hpast : cfg.kubeRuntime = true → podQueries past = first) :
    (podUIDExists cfg uid).Yields (absenceContract answers session) past
      (if cfg.kubeRuntime then asked answers [(uid, first)] else [])
      (cfg.kubeRuntime && saysYes (answers.podUIDExists (uid, first))) := by
  refine podUIDExists_yields (perform (.podUIDExists uid)) ?_ fun hkube =>
    yields_perform trivial fun _ => ?_
  · unfold podUIDExists
    congr
    funext answer
    cases answer <;> rfl
  · rw [← hpast hkube]
    rfl

/-- The loop over the pods finds none alive, unless an answer shows one. -/
theorem activeTarget?_asks (hpast : cfg.kubeRuntime = true → podQueries past = first) :
    ∃ later active,
    (activeTarget? cfg targets).Yields (absenceContract answers session) past later active ∧
    (active = none ↔
      ¬ (cfg.kubeRuntime = true ∧ answers.PodSeen ((podsOf targets).zipIdx first))) ∧
    (active = none →
      later = if cfg.kubeRuntime then asked answers ((podsOf targets).zipIdx first) else []) := by
  induction targets generalizing past first with
  | nil =>
    exact ⟨[], none, yields_pure, by simp [ClusterAnswers.PodSeen, podsOf],
      by simp [asked, podsOf]⟩
  | cons target rest ih =>
    unfold activeTarget?
    dsimp only
    by_cases huid : podUIDFromKubeletPath target.targetPath = ""
    · rw [if_pos huid, podsOf_cons_of_eq huid]
      exact ih hpast
    rw [if_neg huid, podsOf_cons_of_ne huid, zipIdx_cons]
    have hask : (podUIDExists cfg (podUIDFromKubeletPath target.targetPath)).Yields
      (absenceContract answers session) past _ _ := podUIDExists_asks hpast
    cases hfound : cfg.kubeRuntime &&
      saysYes (answers.podUIDExists (podUIDFromKubeletPath target.targetPath, first)) with
    | true =>
      rw [hfound] at hask
      refine ⟨_, some target.targetPath, hask.bind yields_pure, ?_, by simp⟩
      simp [answers.podSeen_cons, saysYes_eq_true.1 hfound]
    | false =>
      rw [hfound] at hask
      have hno := mt saysYes_eq_true.2 (Bool.eq_false_iff.1 hfound)
      obtain ⟨later, active, hrest, hactive, hlater⟩ := ih (podQueries_append_asked hpast)
      refine ⟨_, active, hask.bind hrest, ?_, fun h => ?_⟩
      · simpa [answers.podSeen_cons, and_or_left, hno] using hactive
      · rw [hlater h]
        cases cfg.kubeRuntime <;> rfl

/-! ### Reaching the targets -/

/-- Some calls, none of them about a pod, lead to a history with the property. -/
def Leads (past : History) (property : History → Prop) : Prop :=
  ∃ later, (∀ event ∈ later, AsksForPods.asks event.op = false) ∧ property (past ++ later)

variable {property : History → Prop}

theorem Leads.call {event : Event Op Op.Answer} (hevent : AsksForPods.asks event.op = false)
    (h : Leads (past ++ [event]) property) : Leads past property := by
  obtain ⟨later, hquiet, hproperty⟩ := h
  refine ⟨event :: later, ?_, by simpa using hproperty⟩
  intro other hother
  rcases mem_cons.1 hother with rfl | hother
  · exact hevent
  · exact hquiet other hother

theorem Leads.here (h : property past) : Leads past property :=
  ⟨[], (fun _ h => by cases h), by simpa using h⟩

theorem Leads.trans {further : History → Prop} (h : Leads past property)
    (hfurther : ∀ later, property later → Leads later further) : Leads past further := by
  obtain ⟨later, hquiet, hproperty⟩ := h
  obtain ⟨last, hlast, hfinal⟩ := hfurther _ hproperty
  refine ⟨later ++ last, ?_, by rwa [← append_assoc]⟩
  intro event hevent
  rcases mem_append.1 hevent with hlater | hend
  · exact hquiet event hlater
  · exact hlast event hend

variable {post : History → Option GoError → Prop}

theorem cleanupTargets_leads (htarget : target ∈ targets)
    (h : (cleanupTargets targets).Meets (absenceContract answers session) post past) :
    Leads past (PathReported session target.targetPath) := by
  induction targets generalizing past with
  | nil => cases htarget
  | cons other rest ih =>
    unfold cleanupTargets at h
    simp only [meets_bind, meets_perform] at h
    rcases mem_cons.1 htarget with rfl | hrest
    · exact .here h.1
    · exact .call rfl (ih hrest (h.2 none trivial))

theorem resolveLocalDiskRecoveryDevice_leads {post : History → Except GoError String → Prop}
    (h : (resolveLocalDiskRecoveryDevice session).Meets (absenceContract answers session)
      post past) :
    Leads past fun later => post later (.ok "") := by
  unfold resolveLocalDiskRecoveryDevice at h
  simp only [meets_bind, meets_perform] at h
  have hfound := h.2 (.ok "") trivial
  dsimp only at hfound
  split at hfound
  · exact .call (by rfl) (.here (meets_pure.1 hfound))
  simp only [meets_bind, meets_perform] at hfound
  have hserial := hfound.2 true trivial
  exact .call (by rfl) (.call (by rfl) (.here (meets_pure.1 hserial)))

theorem attemptRecovery_leads (htarget : target ∈ session.publishedTargets)
    (h : (attemptRecovery session).Meets (absenceContract answers session) post past) :
    Leads past (PathReported session target.targetPath) := by
  unfold attemptRecovery at h
  rw [meets_bind] at h
  refine (resolveLocalDiskRecoveryDevice_leads h).trans fun later hlater => ?_
  unfold remountStage at hlater
  simp only [meets_bind] at hlater
  exact cleanupTargets_leads htarget hlater

theorem recoverWithinLimits_leads (htarget : target ∈ session.publishedTargets)
    (hattempts : ¬ localRWORecoveryMaxAttempts cfg ≤ session.recoveryAttempts)
    (h : (recoverWithinLimits cfg session).Meets (absenceContract answers session) post past) :
    Leads past (PathReported session target.targetPath) := by
  unfold recoverWithinLimits at h
  rw [if_neg hattempts] at h
  split at h
  · rename_i last _
    split at h
    · exact attemptRecovery_leads htarget h
    simp only [meets_bind, meets_perform] at h
    -- Enough time has passed since the last failure.
    have hlate := h.2 (last + localRWORecoveryBackoff cfg) trivial
    rw [if_neg (by omega)] at hlate
    exact .call rfl (attemptRecovery_leads htarget hlate)
  · exact attemptRecovery_leads htarget h

/-- The pods have been reported absent. -/
def AllReported (session : LocalDiskSession) (past : History) : Prop :=
  ∀ uid ∈ podsOf session.publishedTargets,
    (⟨.podUIDExists uid, .ok false⟩ : Event Op Op.Answer) ∈ past

theorem AllReported.pathReported (h : AllReported session past) (path : String) :
    PathReported session path past := by
  intro target htarget hpath huid
  subst hpath
  exact h _ (mem_podsOf htarget huid)

/-- The recovery goes as far as the targets, unless its attempts are exhausted. So it waits for the
answers if and only if they are there before it starts. -/
theorem recoverWithinLimits_meets_iff
    (hattempts : ¬ localRWORecoveryMaxAttempts cfg ≤ session.recoveryAttempts) :
    (recoverWithinLimits cfg session).Meets (absenceContract answers session)
        (fun _ _ => True) past ↔ AllReported session past := by
  constructor
  · intro h uid huid
    obtain ⟨hmem, hne⟩ := mem_filter.1 huid
    obtain ⟨target, htarget, rfl⟩ := mem_map.1 hmem
    obtain ⟨later, hquiet, hreported⟩ := recoverWithinLimits_leads htarget hattempts h
    rcases mem_append.1 (hreported target htarget rfl (by simpa using hne)) with hpast | hlater
    · exact hpast
    · have hasks := hquiet _ hlater
      cases hasks
  · intro h
    have hany : (recoverWithinLimits cfg session).Only fun _ => True :=
      only_of_forall (fun _ => trivial) _
    have hframe : (recoverWithinLimits cfg session).Meets (absenceContract answers session)
        (fun later _ => AllReported session later) past := by
      refine hany.meets h ?_ ?_
      · intro past op _ hpast
        cases op with
        | cleanupMountPoint path => exact hpast.pathReported path
        | _ => trivial
      · intro past op ans _ hpast uid huid
        exact mem_append_left _ (hpast uid huid)
    exact hframe.mono fun _ _ _ => trivial

theorem recoverWithinLimits_meets_of_exhausted
    (hattempts : localRWORecoveryMaxAttempts cfg ≤ session.recoveryAttempts) :
    (recoverWithinLimits cfg session).Meets (absenceContract answers session)
      (fun _ _ => True) past := by
  unfold recoverWithinLimits
  rw [if_pos hattempts]
  exact meets_pure.2 trivial

theorem allReported_nil : AllReported session [] ↔ podsOf session.publishedTargets = [] := by
  refine ⟨fun h => eq_nil_iff_forall_not_mem.2 fun uid huid => ?_, ?_⟩
  · have hmem := h uid huid
    cases hmem
  · intro h uid huid
    rw [h] at huid
    cases huid

theorem allReported_asked
    (hseen : ¬ answers.PodSeen ((podsOf session.publishedTargets).zipIdx)) :
    AllReported session (asked answers ((podsOf session.publishedTargets).zipIdx)) ↔
      answers.PodsAnswered ((podsOf session.publishedTargets).zipIdx) := by
  rw [answers.podsAnswered_iff hseen]
  constructor
  · intro h query hquery
    exact mem_asked.1 (h query.1 (fst_mem_of_mem_zipIdx hquery))
  · intro h uid huid
    obtain ⟨i, hi, rfl⟩ := mem_iff_getElem.1 huid
    exact mem_asked.2 (h (_, i) (mk_mem_zipIdx_iff_getElem?.2 (getElem?_eq_getElem hi)))

/-- With the recovery of active pods disabled, and whatever else is answered, a target is unmounted
only after its pod has been reported absent, if and only if the answers of the API server are
enough. -/
theorem recovery_reported_iff (hactive : cfg.localRWOActivePodRecovery = false) :
    (recoverLocalDiskSession cfg session).Meets (absenceContract answers session)
        (fun _ _ => True) [] ↔
      recoveryAnswered cfg answers session := by
  unfold recoveryAnswered recoverLocalDiskSession
  rw [hactive]
  cases hgate : cfg.localRWOStaleMountRecovery with
  | false => exact iff_of_true (meets_pure.2 trivial) (.inl rfl)
  | true => ?_
  obtain ⟨later, active, hmeets, hnone, hlater⟩ :=
    @activeTarget?_asks answers session [] cfg session.publishedTargets 0 fun _ => podQueries_nil
  simp only [Bool.not_true, Bool.false_eq_true, if_false, meets_bind, reduceCtorEq, false_or,
    hmeets _, nil_append]
  by_cases hattempts : localRWORecoveryMaxAttempts cfg ≤ session.recoveryAttempts
  · -- Nothing is unmounted any more, whatever the loop over the pods finds.
    refine iff_of_true ?_ (.inl hattempts)
    cases active with
    | some targetPath => exact meets_pure.2 trivial
    | none => exact recoverWithinLimits_meets_of_exhausted hattempts
  rw [or_iff_right hattempts]
  cases active with
  | some targetPath =>
    refine iff_of_true (meets_pure.2 trivial) (.inr ?_)
    by_contra hseen
    cases hnone.2 fun h => hseen ⟨h.1, .inl h.2⟩
  | none => ?_
  obtain rfl := hlater rfl
  refine (recoverWithinLimits_meets_iff hattempts).trans ?_
  cases hkube : cfg.kubeRuntime with
  | false => simpa using allReported_nil
  | true =>
    have hseen : ¬ answers.PodSeen ((podsOf session.publishedTargets).zipIdx) :=
      fun h => hnone.1 rfl ⟨hkube, h⟩
    rw [if_pos rfl, and_iff_right rfl, allReported_asked hseen, or_iff_right hseen]
    -- Without pods there is nothing to be answered.
    refine ⟨.inr, fun h => h.elim (fun hnone => ?_) id⟩
    rw [hnone]
    exact fun query hquery => by cases hquery

end Recovery

end LocalDisk

/-! ## The three together -/

/-- For every configuration, session and target, and for every pattern of answers and errors of the
API server: an absence is believed only when it has been reported, whatever the other calls return,
if and only if the answers are enough. -/
theorem absence_believed_iff_reported (cfg : Config) (answers : ClusterAnswers)
    (session : SharedFilesystemSession) (volumeID targetPath : String)
    (localCfg : LocalDisk.Config) (localSession : LocalDisk.LocalDiskSession)
    (hactive : localCfg.localRWOActivePodRecovery = false) :
    ((garbageCollectOrphanedSession cfg session).Meets
        (absenceContract answers (SessionReported answers session)) (fun _ _ => True) [] ↔
      collectionAnswered cfg answers session) ∧
    ((cleanupOrphanedSharedFilesystemTargetOnUnpublish cfg volumeID targetPath).Meets
        (absenceContract answers (TargetReported targetPath)) (fun _ _ => True) [] ↔
      cleanupAnswered cfg answers targetPath) ∧
    ((LocalDisk.recoverLocalDiskSession localCfg localSession).Meets
        (LocalDisk.absenceContract answers localSession) (fun _ _ => True) [] ↔
      LocalDisk.recoveryAnswered localCfg answers localSession) :=
  ⟨collection_reported_iff, cleanup_reported_iff, LocalDisk.recovery_reported_iff hactive⟩

/-- The target of the pod "a1". -/
def podTarget : String :=
  "/var/lib/kubelet/pods/a1/volumes/kubernetes.io~csi/pv/mount"

def podSession : SharedFilesystemSession where
  volumeID := "cephfs-static:aGVsbG8"
  mounter := .kernel
  userID := "csi"
  stagingTargetPath := "/var/lib/kubelet/plugins/stage"
  monitors := ["10.0.0.1:6789"]
  fsName := "cephfs"
  subpath := "/volumes/pv"
  stageMountOptions := []
  keyringPath := ""
  secretFilePath := ""
  publishedTargets := [⟨podTarget, []⟩]

def podDisk : LocalDisk.LocalDiskSession where
  volumeID := "42"
  volumeName := "pv"
  stagingTargetPath := "/var/lib/kubelet/plugins/stage"
  devicePath := "/dev/vdb"
  deviceSerial := ""
  openNebulaImageID := "42"
  fsType := "ext4"
  stageMountOptions := []
  pvcNamespace := "default"
  pvcName := "data"
  pvName := "pv"
  publishedTargets := [⟨podTarget, []⟩]
  lastRecoveredAt := none
  lastRecoveryError := ""
  recoveryAttempts := 0

/-- The API server answers, and the pod and its volume are gone. -/
def emptyCluster : ClusterAnswers where
  enabled := true
  pods _ := .ok []
  pvs := .ok []

theorem podUIDFromKubeletPath_podTarget : podUIDFromKubeletPath podTarget = "a1" := by
  decide +kernel

theorem absence_reported_emptyCluster :
    (garbageCollectOrphanedSession ⟨true, true, true⟩ podSession).Meets
        (absenceContract emptyCluster (SessionReported emptyCluster podSession))
        (fun _ _ => True) [] ∧
      (cleanupOrphanedSharedFilesystemTargetOnUnpublish ⟨true, true, true⟩ podSession.volumeID
        podTarget).Meets (absenceContract emptyCluster (TargetReported podTarget))
        (fun _ _ => True) [] ∧
      (LocalDisk.recoverLocalDiskSession ⟨true, true, false, none, none⟩ podDisk).Meets
        (LocalDisk.absenceContract emptyCluster podDisk) (fun _ _ => True) [] := by
  obtain ⟨hcollect, hcleanup, hrecover⟩ := absence_believed_iff_reported ⟨true, true, true⟩
    emptyCluster podSession podSession.volumeID podTarget
      ⟨true, true, false, none, none⟩ podDisk rfl
  have hpod : emptyCluster.podUIDExists ("a1", 0) = .ok false := by decide +kernel
  have hanswered : emptyCluster.PodsAnswered [("a1", 0)] := by
    intro query hquery
    obtain rfl := mem_singleton.1 hquery
    exact ⟨_, hquery, rfl, false, hpod⟩
  have hqueries : podQueriesOf podSession.publishedTargets 0 = [("a1", 0)] := by
    show [(podUIDFromKubeletPath podTarget, 0)] = _
    rw [podUIDFromKubeletPath_podTarget]
  have hpods : (LocalDisk.podsOf podDisk.publishedTargets).zipIdx = [("a1", 0)] := by
    decide +kernel
  refine ⟨hcollect.2 ?_, hcleanup.2 ?_, hrecover.2 ?_⟩
  · refine .inr (.inr (.inr ⟨rfl, .inr (.inr ⟨?_, rfl, [], rfl⟩)⟩))
    rw [hqueries]
    exact hanswered
  · refine .inr ⟨rfl, false, ?_⟩
    rw [podUIDFromKubeletPath_podTarget]
    exact hpod
  · refine .inr (.inr (.inr ⟨rfl, .inr ?_⟩))
    rw [hpods]
    exact hanswered

/-- The API server is there, but its answers time out. -/
def apiDown : ClusterAnswers where
  enabled := true
  pods _ := .error (.plain "etcdserver: request timed out")
  pvs := .error (.plain "etcdserver: request timed out")

/-- The calls of a collection while the API server does not answer and the mount is stale. -/
def blindCollection : History :=
  [⟨.podUIDExists "a1", apiDown.podUIDExists ("a1", 0)⟩,
    ⟨.resolveVolumeRuntimeContext podSession.volumeID,
      (apiDown.resolveVolumeRuntimeContext podSession.volumeID).map fun _ => ()⟩,
    ⟨.listMounts .check, .ok []⟩,
    ⟨.cleanupMountPoint podTarget, none⟩,
    ⟨.removeAll podTarget, ()⟩,
    ⟨.deleteSession podSession.volumeID, none⟩]

/-- Both queries fail, nothing is reported absent, and yet the target is removed and the session is
deleted. -/
theorem session_collected_on_apiFailure :
    (garbageCollectOrphanedSession ⟨true, true, true⟩ podSession).Returns blindCollection true ∧
      apiDown.podUIDExists ("a1", 0) = .error (.plain "etcdserver: request timed out") ∧
      apiDown.resolveVolumeRuntimeContext podSession.volumeID =
        .error (.plain "etcdserver: request timed out") ∧
      ¬ SessionReported apiDown podSession blindCollection := by
  have hpods : apiDown.podUIDExists ("a1", 0) =
      .error (.plain "etcdserver: request timed out") := by decide +kernel
  have hpv : apiDown.resolveVolumeRuntimeContext podSession.volumeID =
      .error (.plain "etcdserver: request timed out") := by decide +kernel
  refine ⟨?_, hpods, hpv, fun h => ?_⟩
  · have hvolume : ¬ (trimSpace podSession.volumeID = "" ∨ podSession.publishedTargets = []) := by
      decide +kernel
    unfold garbageCollectOrphanedSession blindCollection
    rw [if_neg hvolume, hpods, hpv]
    show Program.Returns (do
      if ← allPodsGone ⟨true, true, true⟩ [⟨podTarget, []⟩] then _ else _) _ _
    unfold allPodsGone
    dsimp only
    rw [podUIDFromKubeletPath_podTarget]
    exact .cons (.cons (.cons (.cons (.cons (.cons (.nil _))))))
  · obtain ⟨-, -, henabled, pvs, hpvs, -⟩ := h
    cases hpvs

end OpenNebulaCSI.Node
