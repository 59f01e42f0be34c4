import OpenNebulaCSI.Node.SessionCalls

/-!
# The published targets of a CephFS volume

A target that has been published should stay in the stored session of its volume, with its mount
options, until it is unpublished: the recovery binds only what the session lists. The requests of
this file come one after the other, over mount tables that may be different at every call.

The list is lost whenever somebody writes it from another source. A seeding that does not find the
target in the mount table takes it out of the session, just when it should be recovered
(`published_target_unlisted`); so does a second stage request, which writes an empty list, and the
collection of a session. `published_targets_listed` says that nothing else loses a target: all other
requests (`keepsTargets`) keep the invariant `Recorded`.
-/

namespace OpenNebulaCSI.Node

open Go Concurrency Controller Program List

/-! ## The session store of shared filesystem volumes

Sessions are stored with their targets in a normal form: each path once, without surrounding blanks,
and with the options it was first listed with. What is in normal form survives storing
(`mem_normalize_normalize`), so that a target which is listed in a session is listed in what is
loaded after the session has been saved (`lists_save`).
-/

theorem eraseDups_eraseDups (values : List String) :
    values.eraseDups.eraseDups = values.eraseDups := by
  induction hlength : values.length using Nat.strong_induction_on generalizing values with
  | _ length ih =>
    cases values with
    | nil => rfl
    | cons first rest => ?_
    rw [eraseDups_cons, eraseDups_cons]
    -- What is left after the first value does not have it any more.
    have hfilter : ((rest.filter fun value => !value == first).eraseDups.filter
        fun value => !value == first) = (rest.filter fun value => !value == first).eraseDups := by
      rw [filter_eq_self]
      intro value hvalue
      exact (mem_filter.1 (mem_eraseDups.1 hvalue)).2
    have hle := length_filter_le (fun value => !value == first) rest
    rw [length_cons] at hlength
    rw [hfilter, ih _ (by omega) _ rfl]

theorem mem_uniqueStrings {values : List String} {value : String}
    (h : value ∈ uniqueStrings values) :
    trimSpace value = value ∧ value ≠ "" := by
  obtain ⟨hmem, hne⟩ := mem_filter.1 (mem_eraseDups.1 h)
  obtain ⟨original, -, rfl⟩ := mem_map.1 hmem
  exact ⟨trimSpace_trimSpace original, by simpa using hne⟩

theorem uniqueStrings_uniqueStrings (values : List String) :
    uniqueStrings (uniqueStrings values) = uniqueStrings values := by
  have hmap : (uniqueStrings values).map trimSpace = uniqueStrings values := by
    conv_rhs => rw [← map_id (uniqueStrings values)]
    exact map_congr_left fun value hvalue => (mem_uniqueStrings hvalue).1
  have hfilter : ((uniqueStrings values).filter fun value => value ≠ "") =
      uniqueStrings values := by
    rw [filter_eq_self]
    intro value hvalue
    exact decide_eq_true (mem_uniqueStrings hvalue).2
  conv_lhs => rw [uniqueStrings, hmap, hfilter]
  exact eraseDups_eraseDups _

namespace SharedFilesystemPublishedTarget

/-- The target as it is stored. -/
def normalize (target : SharedFilesystemPublishedTarget) : SharedFilesystemPublishedTarget where
  targetPath := trimSpace target.targetPath
  mountOptions := uniqueStrings target.mountOptions

/-- The target is stored as it is. -/
structure Normal (target : SharedFilesystemPublishedTarget) : Prop where
  path_ne : target.targetPath ≠ ""
  normalize_eq : target.normalize = target

theorem normal_normalize {target : SharedFilesystemPublishedTarget}
    (h : trimSpace target.targetPath ≠ "") : target.normalize.Normal := by
  refine ⟨h, ?_⟩
  simp only [normalize, trimSpace_trimSpace, uniqueStrings_uniqueStrings]

theorem Normal.trim {target : SharedFilesystemPublishedTarget} (h : target.Normal) :
    trimSpace target.targetPath = target.targetPath :=
  congrArg targetPath h.normalize_eq

end SharedFilesystemPublishedTarget

section Targets

variable {targets : List SharedFilesystemPublishedTarget}
  {target other : SharedFilesystemPublishedTarget} {seen : List String}

theorem normal_of_mem_distinctTargets (h : target ∈ distinctTargets seen targets) :
    target.Normal ∧ target.targetPath ∉ seen := by
  induction targets generalizing seen with
  | nil => cases h
  | cons first rest ih =>
    simp only [distinctTargets] at h
    split at h
    · exact ih h
    rename_i hnew
    rw [not_or] at hnew
    rcases mem_cons.1 h with rfl | hrest
    · exact ⟨SharedFilesystemPublishedTarget.normal_normalize hnew.1, hnew.2⟩
    · obtain ⟨hnormal, hseen⟩ := ih hrest
      exact ⟨hnormal, fun hmem => hseen (mem_cons_of_mem _ hmem)⟩

theorem distinctTargets_eq_of_path_eq (h : target ∈ distinctTargets seen targets)
    (hother : other ∈ distinctTargets seen targets) (hpath : target.targetPath = other.targetPath) :
    target = other := by
  induction targets generalizing seen with
  | nil => cases h
  | cons first rest ih =>
    simp only [distinctTargets] at h hother
    split at h
    · rename_i hskip
      rw [if_pos hskip] at hother
      exact ih h hother
    rename_i hnew
    rw [if_neg hnew] at hother
    -- The rest has not got the path of the first target.
    have hlater : ∀ later ∈ distinctTargets (trimSpace first.targetPath :: seen) rest,
        later.targetPath ≠ trimSpace first.targetPath := by
      intro later hmem heq
      exact (normal_of_mem_distinctTargets hmem).2 (heq ▸ mem_cons_self ..)
    rcases mem_cons.1 h with rfl | hrest
    · rcases mem_cons.1 hother with rfl | hrest'
      · rfl
      · exact absurd hpath.symm (hlater other hrest')
    rcases mem_cons.1 hother with rfl | hrest'
    · exact absurd hpath (hlater target hrest)
    · exact ih hrest hrest'

theorem mem_distinctTargets_of (hmem : ∃ original ∈ targets, original.normalize = target)
    (hne : target.targetPath ≠ "") (hseen : target.targetPath ∉ seen)
    (hsame : ∀ other ∈ targets, trimSpace other.targetPath = target.targetPath →
      other.normalize = target) : target ∈ distinctTargets seen targets := by
  induction targets generalizing seen with
  | nil =>
    obtain ⟨original, horiginal, -⟩ := hmem
    cases horiginal
  | cons first rest ih =>
    simp only [distinctTargets]
    by_cases hpath : trimSpace first.targetPath = target.targetPath
    · rw [if_neg (by rw [hpath]; exact not_or.2 ⟨hne, hseen⟩)]
      exact mem_cons.2 (.inl (hsame first (mem_cons_self ..) hpath).symm)
    have hrest : ∃ original ∈ rest, original.normalize = target := by
      obtain ⟨original, horiginal, rfl⟩ := hmem
      rcases mem_cons.1 horiginal with rfl | hrest
      · exact absurd rfl hpath
      · exact ⟨original, hrest, rfl⟩
    have hsame' : ∀ other ∈ rest, trimSpace other.targetPath = target.targetPath →
        other.normalize = target :=
      fun other hother => hsame other (mem_cons_of_mem _ hother)
    split
    · exact ih hrest hseen hsame'
    refine mem_cons_of_mem _ (ih hrest ?_ hsame')
    rw [mem_cons, not_or]
    exact ⟨fun h => hpath h.symm, hseen⟩

theorem normal_of_mem_normalize (h : target ∈ normalizeSharedFilesystemPublishedTargets targets) :
    target.Normal :=
  (normal_of_mem_distinctTargets ((mem_insertionSort _).1 h)).1

theorem normalize_eq_of_path_eq (h : target ∈ normalizeSharedFilesystemPublishedTargets targets)
    (hother : other ∈ normalizeSharedFilesystemPublishedTargets targets)
    (hpath : target.targetPath = other.targetPath) : target = other :=
  distinctTargets_eq_of_path_eq ((mem_insertionSort _).1 h) ((mem_insertionSort _).1 hother)
    hpath

theorem mem_normalize_of (hmem : ∃ original ∈ targets, original.normalize = target)
    (hne : target.targetPath ≠ "")
    (hsame : ∀ other ∈ targets, trimSpace other.targetPath = target.targetPath →
      other.normalize = target) : target ∈ normalizeSharedFilesystemPublishedTargets targets :=
  (mem_insertionSort _).2 (mem_distinctTargets_of hmem hne (by simp) hsame)

theorem mem_normalize_normalize (h : target ∈ normalizeSharedFilesystemPublishedTargets targets) :
    target ∈ normalizeSharedFilesystemPublishedTargets
      (normalizeSharedFilesystemPublishedTargets targets) := by
  have hnormal := normal_of_mem_normalize h
  refine mem_normalize_of ⟨target, h, hnormal.normalize_eq⟩ hnormal.path_ne
    fun other hother hpath => ?_
  have hother' := normal_of_mem_normalize hother
  rw [hother'.trim] at hpath
  rw [hother'.normalize_eq, normalize_eq_of_path_eq hother h hpath]

section WithTarget

variable {session : SharedFilesystemSession} {added : SharedFilesystemPublishedTarget}

theorem mem_withTarget_of_ne (h : target ∈ session.publishedTargets)
    (hne : target.targetPath ≠ added.targetPath) :
    target ∈ (session.withTarget added).publishedTargets := by
  have hreplaced : target ∈ session.publishedTargets.map (fun existing =>
      if existing.targetPath = added.targetPath then added else existing) :=
    mem_map.2 ⟨target, h, if_neg hne⟩
  simp only [SharedFilesystemSession.withTarget]
  split
  · exact hreplaced
  · exact mem_append_left _ hreplaced

theorem mem_withTarget_self : added ∈ (session.withTarget added).publishedTargets := by
  simp only [SharedFilesystemSession.withTarget]
  split
  · rename_i hany
    obtain ⟨existing, hexisting, hpath⟩ := any_eq_true.1 hany
    exact mem_map.2 ⟨existing, hexisting, if_pos (of_decide_eq_true hpath)⟩
  · exact mem_append_right _ (mem_singleton.2 rfl)

theorem eq_of_mem_withTarget (h : target ∈ (session.withTarget added).publishedTargets)
    (hpath : target.targetPath = added.targetPath) : target = added := by
  have hreplaced : target ∈ session.publishedTargets.map (fun existing =>
      if existing.targetPath = added.targetPath then added else existing) → target = added := by
    intro hmem
    obtain ⟨existing, -, rfl⟩ := mem_map.1 hmem
    split
    · rfl
    rename_i hne
    rw [if_neg hne] at hpath
    exact absurd hpath hne
  simp only [SharedFilesystemSession.withTarget] at h
  split at h
  · exact hreplaced h
  rcases mem_append.1 h with hold | hnew
  · exact hreplaced hold
  · exact mem_singleton.1 hnew

end WithTarget

end Targets

/-! ## Loading and saving -/

namespace SessionStore

variable {store : SessionStore} {session : SharedFilesystemSession} {volumeID : String}
  {target : SharedFilesystemPublishedTarget}

theorem load_eq_of_trimSpace_eq {other : String} (h : trimSpace volumeID = trimSpace other) :
    store.load volumeID = store.load other := by
  unfold load
  rw [h]

theorem lookup_delete {key : String} :
    (store.delete volumeID).lookup key =
      if key = trimSpace volumeID then none else store.lookup key := by
  unfold delete
  induction store with
  | nil => split <;> rfl
  | cons entry rest ih =>
    obtain ⟨key', value⟩ := entry
    rw [filter_cons, lookup_cons]
    by_cases hentry : key' = trimSpace volumeID
    · rw [if_neg (by simp [hentry]), ih]
      by_cases hkey : key = trimSpace volumeID
      · rw [if_pos hkey, if_pos hkey]
      · rw [if_neg hkey, if_neg hkey, hentry, beq_false_of_ne hkey]
    · rw [if_pos (by simp [hentry]), lookup_cons, ih]
      by_cases hkey : key = key'
      · subst hkey
        simp [hentry]
      · rw [beq_false_of_ne hkey]

theorem load_delete {other : String} :
    (store.delete volumeID).load other =
      if trimSpace other = trimSpace volumeID then none else store.load other := by
  unfold load
  rw [lookup_delete]
  split <;> rfl

theorem load_save {other : String} :
    (store.save session).load other =
      if trimSpace other = trimSpace session.volumeID then some (read session.normalize)
      else store.load other := by
  unfold load save
  rw [lookup_cons, lookup_delete]
  by_cases h : trimSpace other = trimSpace session.volumeID
  · simp [h]
  · rw [beq_false_of_ne h, if_neg h, if_neg h]

/-- The stored session of the volume lists the target. -/
def Lists (store : SessionStore) (volumeID : String) (target : SharedFilesystemPublishedTarget) :
    Prop :=
  ∃ session, store.load volumeID = some session ∧ target ∈ session.publishedTargets

theorem lists_save (h : trimSpace volumeID = trimSpace session.volumeID)
    (htarget : target ∈ normalizeSharedFilesystemPublishedTargets session.publishedTargets) :
    (store.save session).Lists volumeID target :=
  ⟨_, by rw [load_save, if_pos h], mem_normalize_normalize htarget⟩

theorem lists_save_of_ne (h : trimSpace volumeID ≠ trimSpace session.volumeID)
    (hlists : store.Lists volumeID target) : (store.save session).Lists volumeID target := by
  obtain ⟨found, hload, htarget⟩ := hlists
  exact ⟨found, by rw [load_save, if_neg h, hload], htarget⟩

theorem lists_delete_of_ne {other : String} (h : trimSpace volumeID ≠ trimSpace other)
    (hlists : store.Lists volumeID target) : (store.delete other).Lists volumeID target := by
  obtain ⟨found, hload, htarget⟩ := hlists
  exact ⟨found, by rw [load_delete, if_neg h, hload], htarget⟩

theorem normal_of_load (h : store.load volumeID = some session)
    (htarget : target ∈ session.publishedTargets) : target.Normal := by
  obtain ⟨stored, -, rfl⟩ := Option.map_eq_some_iff.1 h
  exact normal_of_mem_normalize htarget

theorem eq_of_load_of_path_eq {other : SharedFilesystemPublishedTarget}
    (h : store.load volumeID = some session) (htarget : target ∈ session.publishedTargets)
    (hother : other ∈ session.publishedTargets) (hpath : target.targetPath = other.targetPath) :
    target = other := by
  obtain ⟨stored, -, rfl⟩ := Option.map_eq_some_iff.1 h
  exact normalize_eq_of_path_eq htarget hother hpath

/-- Every session is stored once, under its own id. -/
structure Keyed (store : SessionStore) : Prop where
  key : ∀ entry ∈ store, trimSpace entry.2.volumeID = entry.1
  nodup : (store.map Prod.fst).Nodup

theorem keyed_nil : Keyed [] :=
  ⟨(fun _ h => by cases h), nodup_nil⟩

theorem Keyed.delete (h : Keyed store) (volumeID : String) : Keyed (store.delete volumeID) :=
  ⟨fun entry hentry => h.key entry (mem_filter.1 hentry).1,
    h.nodup.sublist (List.Sublist.map _ filter_sublist)⟩

theorem Keyed.save (h : Keyed store) (session : SharedFilesystemSession) :
    Keyed (store.save session) := by
  have hdelete := h.delete session.volumeID
  constructor
  · intro entry hentry
    rcases mem_cons.1 hentry with rfl | hold
    · rfl
    · exact hdelete.key entry hold
  · refine nodup_cons.2 ⟨fun hmem => ?_, hdelete.nodup⟩
    obtain ⟨entry, hentry, hkey⟩ := mem_map.1 hmem
    have hne := (mem_filter.1 hentry).2
    exact absurd hkey (by simpa using hne)

theorem Keyed.load (h : Keyed store) (hload : store.load volumeID = some session) :
    trimSpace session.volumeID = trimSpace volumeID := by
  obtain ⟨stored, hstored, rfl⟩ := Option.map_eq_some_iff.1 hload
  obtain ⟨before, after, hsplit, -⟩ := lookup_eq_some_iff.1 hstored
  exact h.key (trimSpace volumeID, stored) (by simp [hsplit])

theorem Keyed.load_of_mem_list (h : Keyed store) (hmem : session ∈ store.list) :
    store.load session.volumeID = some session := by
  obtain ⟨stored, hstored, rfl⟩ := mem_map.1 ((mem_insertionSort _).1 hmem)
  obtain ⟨entry, hentry, rfl⟩ := mem_map.1 hstored
  have hkey : trimSpace (read entry.2).volumeID = entry.1 := h.key entry hentry
  have hlookup : store.lookup entry.1 = some entry.2 := by
    obtain ⟨before, after, rfl⟩ := append_of_mem hentry
    refine lookup_eq_some_iff.2 ⟨before, after, rfl, fun other hother => ?_⟩
    have hnodup := h.nodup
    rw [map_append, map_cons, nodup_append] at hnodup
    have hne := hnodup.2.2 other.1 (mem_map.2 ⟨other, hother, rfl⟩) entry.1 (mem_cons_self ..)
    exact bne_iff_ne.2 hne.symm
  rw [SessionStore.load, hkey, hlookup]
  rfl

end SessionStore

/-! ## Requests and mount tables -/

/-- What the node service does for CephFS volumes, apart from taking a stage away. -/
inductive Request where
  | stage (req : NodeStageRequest)
  | publish (req : NodePublishRequest)
  | unpublish (req : NodeUnpublishRequest)
  | seedSessionsFromMounts
  | enqueueUnhealthySessions
  | recoverVolume (volumeID : String)

def Request.program (cfg : Config) : Request → Prog (Option GoError)
  | .stage req => handleSharedFilesystemStage cfg req
  | .publish req => handleSharedFilesystemPublish req
  | .unpublish req => nodeUnpublishVolume cfg req
  | .seedSessionsFromMounts => do
      Node.seedSessionsFromMounts
      return none
  | .enqueueUnhealthySessions => do
      Node.enqueueUnhealthySessions cfg
      return none
  | .recoverVolume volumeID => Node.recoverVolume cfg volumeID

/-- What a call finds: the mount table, and the decisions of the outside world. -/
structure CallInput where
  mounts : List MountPoint
  oracle : Oracle

/-- Requests one after the other, over any mount tables. -/
def targetService (cfg : Config) :
    Service Op Op.Answer Request (Option GoError) World CallInput where
  program := Request.program cfg
  step input w op := act input.oracle { w with mounts := input.mounts } op

/-- A target at which a volume is published, as it should be stored. -/
structure Publication where
  volume : String
  target : SharedFilesystemPublishedTarget
  deriving DecidableEq

def Publication.isAt (publication : Publication) (volumeID targetPath : String) : Bool :=
  publication.volume = trimSpace volumeID && publication.target.targetPath = trimSpace targetPath

/-- The publications after a request with the given result. -/
def published (before : List Publication) : Request × Option GoError → List Publication
  | (.publish req, none) =>
    ⟨trimSpace req.volumeId, (sharedFilesystemTargetFromPublishRequest req).normalize⟩ ::
      before.filter fun publication => !publication.isAt req.volumeId req.targetPath
  | (.unpublish req, none) =>
    before.filter fun publication => !publication.isAt req.volumeId req.targetPath
  | _ => before

/-- What has been published successfully and not since unpublished. -/
def publications (done : List (Request × Option GoError)) : List Publication :=
  done.foldl published []

theorem publications_append (done : List (Request × Option GoError))
    (last : Request × Option GoError) :
    publications (done ++ [last]) = published (publications done) last := by
  rw [publications, foldl_append]
  rfl

/-! ## The condition -/

/-- The mount table has the target among the mounts made from the stage, with its options. -/
def showsTarget (mountPoints : List MountPoint) (stage : MountPoint)
    (target : SharedFilesystemPublishedTarget) : Bool :=
  let mine := mountPoints.filter fun mountPoint =>
    madeFromStage stage mountPoint && trimSpace mountPoint.path = target.targetPath
  !mine.isEmpty && mine.all fun mountPoint =>
    sharedFilesystemMountOptionsFromMountPoint mountPoint = target.mountOptions

/-- The mount table shows the targets of all volumes whose stages it shows. -/
def showsPublications (mountPoints : List MountPoint) (current : List Publication) : Bool :=
  mountPoints.all fun stage => current.all fun publication =>
    publication.volume ≠ trimSpace (sharedFilesystemVolumeIDFromStagingPath stage.path) ||
      showsTarget mountPoints stage publication.target

def Request.byManager : Request → Bool
  | .enqueueUnhealthySessions | .recoverVolume _ => true
  | _ => false

def Request.isPublish : Request → Bool
  | .publish _ => true
  | _ => false

/-- A publish has a session to write to, and it can read and write it. Volumes with published
targets are not staged again, seedings see the published targets in the mount table, and the manager
hears from the API server that their pods exist. -/
def keepsTargets (cfg : Config) :
    Service.Condition Op Request (Option GoError) World CallInput where
  starts done w request :=
    match request with
    | .stage req => (publications done).all fun publication =>
      publication.volume ≠ trimSpace req.volumeId
    | .publish req =>
      trimSpace req.volumeId ≠ "" && trimSpace req.targetPath = req.targetPath &&
        (podUIDFromKubeletPath req.targetPath = "" || cfg.kubeRuntime) &&
        (w.sessions.load req.volumeId).isSome
    | _ => true
  admits done request input _ op :=
    match op with
    | .loadSession _ | .saveSession _ => !request.isPublish || input.oracle.error = none
    | .listMounts .seed =>
      input.oracle.error.isSome || showsPublications input.mounts (publications done)
    | .podUIDExists uid => !request.byManager ||
        !((publications done).any fun publication =>
          podUIDFromKubeletPath publication.target.targetPath = uid) ||
        (input.oracle.error = none && input.oracle.found)
    | _ => true

/-! ## The invariant -/

/-- The publications are stored, and the collection of sessions asks for their pods. -/
structure Recorded (cfg : Config) (current : List Publication) (store : SessionStore) : Prop where
  keyed : store.Keyed
  volume : ∀ publication ∈ current, trimSpace publication.volume = publication.volume
  pod : ∀ publication ∈ current,
    podUIDFromKubeletPath publication.target.targetPath = "" ∨ cfg.kubeRuntime = true
  listed : ∀ publication ∈ current, store.Lists publication.volume publication.target

section Requests

variable {cfg : Config} {done : List (Request × Option GoError)} {request : Request} {w w' : World}
  {store : SessionStore} {current : List Publication} {α : Type}

/-- The answers to the calls of a request under the condition. -/
abbrev keptAnswers (cfg : Config) (done : List (Request × Option GoError)) (request : Request) :
    Answers Op Op.Answer World :=
  (targetService cfg).answers (keepsTargets cfg) done request

theorem Recorded.subset {fewer : List Publication} (h : Recorded cfg current store)
    (hsubset : ∀ publication ∈ fewer, publication ∈ current) : Recorded cfg fewer store :=
  ⟨h.keyed, fun publication hmem => h.volume publication (hsubset publication hmem),
    fun publication hmem => h.pod publication (hsubset publication hmem),
    fun publication hmem => h.listed publication (hsubset publication hmem)⟩

variable {session : SharedFilesystemSession}

theorem Recorded.save (h : Recorded cfg current store)
    (hown : ∀ publication ∈ current, publication.volume = trimSpace session.volumeID →
      publication.target ∈ normalizeSharedFilesystemPublishedTargets session.publishedTargets) :
    Recorded cfg current (store.save session) := by
  refine ⟨h.keyed.save session, h.volume, h.pod, fun publication hmem => ?_⟩
  by_cases hvolume : publication.volume = trimSpace session.volumeID
  · exact SessionStore.lists_save (by rw [hvolume, trimSpace_trimSpace])
      (hown publication hmem hvolume)
  · refine SessionStore.lists_save_of_ne ?_ (h.listed publication hmem)
    rwa [h.volume publication hmem]

variable {mountPoints : List MountPoint} {volumeID : String}

theorem Recorded.delete (h : Recorded cfg current store)
    (hnone : ∀ publication ∈ current, publication.volume ≠ trimSpace volumeID) :
    Recorded cfg current (store.delete volumeID) := by
  refine ⟨h.keyed.delete volumeID, h.volume, h.pod, fun publication hmem => ?_⟩
  refine SessionStore.lists_delete_of_ne ?_ (h.listed publication hmem)
  rw [h.volume publication hmem]
  exact hnone publication hmem

theorem Recorded.mem_of_load (h : Recorded cfg current store)
    (hload : store.load volumeID = some session) {publication : Publication}
    (hmem : publication ∈ current) (hvolume : publication.volume = trimSpace volumeID) :
    publication.target ∈ session.publishedTargets := by
  obtain ⟨found, hfound, htarget⟩ := h.listed publication hmem
  have hsame : store.load publication.volume = store.load volumeID :=
    SessionStore.load_eq_of_trimSpace_eq (by rw [hvolume, trimSpace_trimSpace])
  rw [hsame, hload] at hfound
  cases hfound
  exact htarget

/-! ### Calls -/

/-- The operations that leave the session files alone. -/
def Op.KeepsSessions : Op → Prop
  | .saveSession _ | .deleteSession _ => False
  | _ => True

variable {op : Op}

theorem answers_act {ans : op.Answer} (h : keptAnswers cfg done request w op ans w') :
    ∃ input : CallInput, (keepsTargets cfg).admits done request input w op = true ∧
      act input.oracle { w with mounts := input.mounts } op = some (ans, w') :=
  h

theorem sessions_of_keeps {ans : op.Answer} (hop : op.KeepsSessions)
    (h : keptAnswers cfg done request w op ans w') : w'.sessions = w.sessions := by
  obtain ⟨input, -, hact⟩ := answers_act h
  rcases act_sessions hact with hsame | ⟨session, rfl, -⟩ | ⟨volume, rfl, -⟩
  · exact hsame
  · exact hop.elim
  · exact hop.elim

theorem Op.SessionFree.keepsSessions {may : String → Prop} (h : op.SessionFree may) :
    op.KeepsSessions := by
  cases op with
  | saveSession session => exact h
  | deleteSession volume => exact h
  | _ => trivial

theorem secures_of_free {p : Prog α} (hp : p.Only (Op.SessionFree fun _ => True)) :
    p.Secures (keptAnswers cfg done request) (fun _ later => later.sessions = w.sessions) w := by
  refine hp.secures ?_ rfl
  intro w₁ op ans w₂ hop hsame hans
  rw [sessions_of_keeps hop.keepsSessions hans, hsame]

theorem load_answer {ans : Except GoError (Option SharedFilesystemSession)}
    (h : keptAnswers cfg done request w (.loadSession volumeID) ans w') :
    w'.sessions = w.sessions ∧ (ans = .ok (w.sessions.load volumeID) ∨
      request.isPublish = false ∧ ∃ err, ans = .error err) := by
  refine ⟨sessions_of_keeps (by trivial) h, ?_⟩
  obtain ⟨input, hadmits, hact⟩ := answers_act h
  simp only [act, Oracle.answer, Option.some.injEq, Prod.mk.injEq] at hact
  obtain ⟨rfl, -⟩ := hact
  cases herror : input.oracle.error with
  | none => exact .inl rfl
  | some err =>
    refine .inr ⟨?_, err, rfl⟩
    simpa [keepsTargets, herror] using hadmits

theorem save_answer {ans : Option GoError}
    (h : keptAnswers cfg done request w (.saveSession session) ans w') :
    w'.sessions = w.sessions.save session ∨
      w'.sessions = w.sessions ∧
        (request.isPublish = true → trimSpace session.volumeID = "") := by
  obtain ⟨input, hadmits, hact⟩ := answers_act h
  simp only [act] at hact
  split at hact
  · rename_i hblank
    cases hact
    exact .inr ⟨rfl, fun _ => hblank⟩
  split at hact
  · rename_i err herror
    cases hact
    refine .inr ⟨rfl, fun hpublish => ?_⟩
    simp [keepsTargets, herror, hpublish] at hadmits
  · cases hact
    exact .inl rfl

theorem delete_answer {ans : Option GoError}
    (h : keptAnswers cfg done request w (.deleteSession volumeID) ans w') :
    w'.sessions = w.sessions ∨ w'.sessions = w.sessions.delete volumeID := by
  obtain ⟨input, -, hact⟩ := answers_act h
  simp only [act] at hact
  split at hact <;> cases hact
  · exact .inl rfl
  · exact .inr rfl

theorem list_answer {ans : Except GoError (List SharedFilesystemSession)}
    (h : keptAnswers cfg done request w .listSessions ans w') :
    w'.sessions = w.sessions ∧ ∀ sessions, ans = .ok sessions → sessions = w.sessions.list := by
  refine ⟨sessions_of_keeps (by trivial) h, fun sessions hsessions => ?_⟩
  obtain ⟨input, -, hact⟩ := answers_act h
  simp only [act, Oracle.answer, Option.some.injEq, Prod.mk.injEq] at hact
  obtain ⟨rfl, -⟩ := hact
  split at hsessions <;> cases hsessions
  rfl

theorem seed_answer {ans : Except GoError (List MountPoint)}
    (h : keptAnswers cfg done request w (.listMounts .seed) ans w') :
    w'.sessions = w.sessions ∧
      ∀ mountPoints, ans = .ok mountPoints →
        showsPublications mountPoints (publications done) = true := by
  refine ⟨sessions_of_keeps (by trivial) h, fun mountPoints hmountPoints => ?_⟩
  obtain ⟨input, hadmits, hact⟩ := answers_act h
  simp only [act, Oracle.answer, Option.some.injEq, Prod.mk.injEq] at hact
  obtain ⟨rfl, -⟩ := hact
  split at hmountPoints <;> cases hmountPoints
  rename_i herror
  simpa [keepsTargets, herror] using hadmits

theorem pod_answer {uid : String} {ans : Except GoError Bool} (hmanager : request.byManager = true)
    (hpod : ∃ publication ∈ publications done,
      podUIDFromKubeletPath publication.target.targetPath = uid)
    (h : keptAnswers cfg done request w (.podUIDExists uid) ans w') : ans = .ok true := by
  obtain ⟨publication, hmem, huid⟩ := hpod
  obtain ⟨input, hadmits, hact⟩ := answers_act h
  have hany : ((publications done).any fun publication =>
      podUIDFromKubeletPath publication.target.targetPath = uid) = true :=
    any_eq_true.2 ⟨publication, hmem, decide_eq_true huid⟩
  simp only [keepsTargets, hmanager, hany, Bool.not_true, Bool.false_or, Bool.and_eq_true,
    decide_eq_true_eq] at hadmits
  simp only [act, Oracle.answer, Option.some.injEq, Prod.mk.injEq] at hact
  obtain ⟨rfl, -⟩ := hact
  rw [hadmits.1, hadmits.2]

/-! ### Requests -/

/-- A property of the session files after a request, in all worlds with these files. -/
abbrev SecuresStore (cfg : Config) (done : List (Request × Option GoError)) (request : Request)
    (p : Prog α) (post : α → SessionStore → Prop) (w : World) : Prop :=
  p.Secures (keptAnswers cfg done request) (fun value later => post value later.sessions) w

theorem free_secures {p : Prog α} {post : α → SessionStore → Prop}
    (hp : p.Only (Op.SessionFree fun _ => True)) (h : ∀ value, post value w.sessions) :
    SecuresStore cfg done request p post w :=
  (secures_of_free hp).mono fun value later hlater => by
    rw [hlater]
    exact h value

theorem withVolumeLock_secures {volumeID : String} {body : Prog α} {post : α → SessionStore → Prop}
    (h : ∀ later : World, later.sessions = w.sessions →
      SecuresStore cfg done request body post later) :
    SecuresStore cfg done request (withVolumeLock volumeID body) post w := by
  unfold SecuresStore withVolumeLock
  dsimp only
  refine .perform fun _ locked hlocked => ?_
  refine (h locked (sessions_of_keeps (by trivial) hlocked)).bind fun value later hlater => ?_
  refine .perform fun _ released hreleased => secures_pure.2 ?_
  rw [sessions_of_keeps (by trivial) hreleased]
  exact hlater

/-- What has to be known about a call that writes. -/
theorem Recorded.answered {ans : op.Answer} (h : Recorded cfg current w.sessions)
    (hans : keptAnswers cfg done request w op ans w')
    (hsave : ∀ session, op = .saveSession session → ∀ publication ∈ current,
      publication.volume = trimSpace session.volumeID →
        publication.target ∈ normalizeSharedFilesystemPublishedTargets session.publishedTargets)
    (hdelete : ∀ volumeID, op = .deleteSession volumeID → ∀ publication ∈ current,
      publication.volume ≠ trimSpace volumeID) : Recorded cfg current w'.sessions := by
  cases op with
  | saveSession session =>
    rcases save_answer hans with hsaved | ⟨hsame, -⟩
    · rw [hsaved]
      exact h.save (hsave session rfl)
    · rw [hsame]
      exact h
  | deleteSession volumeID =>
    rcases delete_answer hans with hsame | hdeleted
    · rw [hsame]
      exact h
    · rw [hdeleted]
      exact h.delete (hdelete volumeID rfl)
  | _ =>
    rw [sessions_of_keeps (by trivial) hans]
    exact h

theorem stage_secures {req : NodeStageRequest} (h : Recorded cfg current w.sessions)
    (hnone : ∀ publication ∈ current, publication.volume ≠ trimSpace req.volumeId) :
    SecuresStore cfg done request (handleSharedFilesystemStage cfg req)
      (fun _ store => Recorded cfg current store) w := by
  refine (stage_only req).secures ?_ h
  intro w op ans w' hguar h hans
  refine h.answered hans ?_ ?_
  · rintro session rfl publication hmem hvolume
    rw [(sharedFilesystemSessionFromStageRequest_ok hguar).1] at hvolume
    exact absurd hvolume (hnone publication hmem)
  · rintro volumeID rfl
    exact hguar.elim

/-! #### Publish -/

/-- Whoever adds a target keeps the other ones, and the new one replaces what was at its path. -/
theorem Recorded.saveTarget {target : SharedFilesystemPublishedTarget}
    (h : Recorded cfg current store) (hload : store.load volumeID = some session)
    (htrim : trimSpace target.targetPath = target.targetPath) (hne : target.targetPath ≠ "")
    (hpod : podUIDFromKubeletPath target.targetPath = "" ∨ cfg.kubeRuntime = true) :
    Recorded cfg (⟨trimSpace volumeID, target.normalize⟩ ::
        current.filter fun publication => !publication.isAt volumeID target.targetPath)
      (store.save (session.withTarget target)) := by
  have hkey : trimSpace (session.withTarget target).volumeID = trimSpace volumeID := by
    rw [← h.keyed.load hload]
    rfl
  have hpath : target.normalize.targetPath = target.targetPath := htrim
  -- Both are stored because nothing else in the new list has their path.
  have hnew : target.normalize ∈
      normalizeSharedFilesystemPublishedTargets (session.withTarget target).publishedTargets := by
    refine mem_normalize_of ⟨target, mem_withTarget_self, rfl⟩ (by rwa [hpath]) ?_
    intro other hother hsame
    rcases mem_withTarget hother with hold | rfl
    · rw [(SessionStore.normal_of_load hload hold).trim, hpath] at hsame
      rw [eq_of_mem_withTarget hother hsame]
    · rfl
  have hkept : ∀ kept ∈ session.publishedTargets, kept.targetPath ≠ target.targetPath →
      kept ∈ normalizeSharedFilesystemPublishedTargets
        (session.withTarget target).publishedTargets := by
    intro kept hmem hdiffers
    have hnormal := SessionStore.normal_of_load hload hmem
    refine mem_normalize_of ⟨kept, mem_withTarget_of_ne hmem hdiffers, hnormal.normalize_eq⟩
      hnormal.path_ne fun other hother hsame => ?_
    rcases mem_withTarget hother with hold | rfl
    · have hother' := SessionStore.normal_of_load hload hold
      rw [hother'.trim] at hsame
      rw [hother'.normalize_eq, SessionStore.eq_of_load_of_path_eq hload hold hmem hsame]
    · rw [htrim] at hsame
      exact absurd hsame.symm hdiffers
  refine ⟨h.keyed.save _, fun publication hmem => ?_, fun publication hmem => ?_,
    fun publication hmem => ?_⟩
  · rcases mem_cons.1 hmem with rfl | hold
    · exact trimSpace_trimSpace volumeID
    · exact h.volume publication (mem_filter.1 hold).1
  · rcases mem_cons.1 hmem with rfl | hold
    · rw [hpath]
      exact hpod
    · exact h.pod publication (mem_filter.1 hold).1
  · rcases mem_cons.1 hmem with rfl | hold
    · exact SessionStore.lists_save (by rw [hkey, trimSpace_trimSpace]) hnew
    obtain ⟨hmem, hat⟩ := mem_filter.1 hold
    by_cases hvolume : publication.volume = trimSpace volumeID
    · have hdiffers : publication.target.targetPath ≠ target.targetPath := by
        intro heq
        simp [Publication.isAt, hvolume, heq, htrim] at hat
      exact SessionStore.lists_save (by rw [hkey, hvolume, trimSpace_trimSpace])
        (hkept _ (h.mem_of_load hload hmem hvolume) hdiffers)
    · refine SessionStore.lists_save_of_ne ?_ (h.listed publication hmem)
      rw [hkey, h.volume publication hmem]
      exact hvolume

theorem update_secures {req : NodePublishRequest} (h : Recorded cfg current w.sessions)
    (hstart : (keepsTargets cfg).starts done w (.publish req) = true) (hne : req.targetPath ≠ "") :
    SecuresStore cfg done (.publish req)
      (updateSharedFilesystemPublishedTarget req.volumeId
        (sharedFilesystemTargetFromPublishRequest req))
      (fun _ store => Recorded cfg (published current (.publish req, none)) store) w := by
  simp only [keepsTargets, Bool.and_eq_true, Bool.or_eq_true, decide_eq_true_eq] at hstart
  obtain ⟨⟨⟨hid, htrim⟩, hpod⟩, hsome⟩ := hstart
  obtain ⟨session, hload⟩ := Option.isSome_iff_exists.1 hsome
  have hkey := h.keyed.load hload
  unfold SecuresStore updateSharedFilesystemPublishedTarget
  rw [if_neg hid]
  refine .perform fun answer later hlater => ?_
  obtain ⟨hsame, hanswer⟩ := load_answer hlater
  rcases hanswer with rfl | ⟨hpublish, -⟩
  · rw [hload]
    unfold recordSharedFilesystemSession
    refine .perform fun _ last hlast => ?_
    refine secures_pure.2 ?_
    rcases save_answer hlast with hsaved | ⟨-, hblank⟩
    · rw [hsaved, hsame]
      exact h.saveTarget hload htrim hne hpod
    · exact absurd ((hkey.symm.trans (hblank rfl))) hid
  · cases hpublish

theorem publish_secures {req : NodePublishRequest} (h : Recorded cfg current w.sessions)
    (hstart : (keepsTargets cfg).starts done w (.publish req) = true) :
    SecuresStore cfg done (.publish req) (handleSharedFilesystemPublish req)
      (fun result store => Recorded cfg (published current (.publish req, result)) store) w := by
  refine withVolumeLock_secures fun locked hlocked => ?_
  rw [← hlocked] at h
  have hstart' : (keepsTargets cfg).starts done locked (.publish req) = true := by
    simpa only [keepsTargets, hlocked] using hstart
  unfold SecuresStore publishUnderLock
  split
  · exact secures_pure.2 h
  · exact secures_pure.2 h
  split
  · exact secures_pure.2 h
  rename_i hpaths
  refine (secures_of_free (publishSharedFilesystemTarget_free trivial)).bind
    fun err later hlater => ?_
  rw [← hlater] at h
  cases err with
  | some err => exact secures_pure.2 h
  | none => ?_
  have hstart'' : (keepsTargets cfg).starts done later (.publish req) = true := by
    simpa only [keepsTargets, hlater] using hstart'
  exact (update_secures h hstart'' fun hblank => hpaths (.inr hblank)).bind
    fun _ last hlast => secures_pure.2 hlast

/-! #### Unpublish -/

theorem Recorded.listed_withoutTarget {targetPath : String} (h : Recorded cfg current store)
    (hload : store.load volumeID = some session) {publication : Publication}
    (hmem : publication ∈ current) (hvolume : publication.volume = trimSpace volumeID)
    (hat : publication.isAt volumeID targetPath = false) :
    publication.target ∈ (session.withoutTarget targetPath).publishedTargets ∧
      publication.target ∈ normalizeSharedFilesystemPublishedTargets
        (session.withoutTarget targetPath).publishedTargets := by
  have hlisted := h.mem_of_load hload hmem hvolume
  have hnormal := SessionStore.normal_of_load hload hlisted
  have hdiffers : publication.target.targetPath ≠ targetPath := by
    intro heq
    have htrim : trimSpace targetPath = targetPath := heq ▸ hnormal.trim
    simp [Publication.isAt, hvolume, heq, htrim] at hat
  have hkept : publication.target ∈ (session.withoutTarget targetPath).publishedTargets :=
    mem_filter.2 ⟨hlisted, decide_eq_true hdiffers⟩
  refine ⟨hkept, mem_normalize_of ⟨_, hkept, hnormal.normalize_eq⟩ hnormal.path_ne ?_⟩
  intro other hother hsame
  have hold := (mem_filter.1 hother).1
  have hother' := SessionStore.normal_of_load hload hold
  rw [hother'.trim] at hsame
  rw [hother'.normalize_eq, SessionStore.eq_of_load_of_path_eq hload hold hlisted hsame]

theorem remove_secures (volumeID targetPath : String) (h : Recorded cfg current w.sessions) :
    SecuresStore cfg done request (removeSharedFilesystemPublishedTarget volumeID targetPath)
      (fun _ store => Recorded cfg
        (current.filter fun publication => !publication.isAt volumeID targetPath) store) w := by
  have hfewer : Recorded cfg
      (current.filter fun publication => !publication.isAt volumeID targetPath) w.sessions :=
    h.subset fun publication hmem => (mem_filter.1 hmem).1
  have hnot : ∀ publication ∈ current.filter (fun publication =>
      !publication.isAt volumeID targetPath),
      publication ∈ current ∧ publication.isAt volumeID targetPath = false := by
    intro publication hmem
    simpa using hmem
  unfold SecuresStore removeSharedFilesystemPublishedTarget
  split
  · exact secures_pure.2 hfewer
  refine .perform fun answer later hlater => ?_
  obtain ⟨hsame, hanswer⟩ := load_answer hlater
  rw [← hsame] at hfewer
  rcases hanswer with rfl | ⟨-, err, rfl⟩
  · cases hload : w.sessions.load volumeID with
    | none => exact secures_pure.2 hfewer
    | some session => ?_
    have hkey := h.keyed.load hload
    dsimp only
    split
    · -- No target is left, so the volume has no publication.
      rename_i hempty
      refine .perform fun _ last hlast => secures_pure.2 (hfewer.answered hlast nofun ?_)
      rintro _ ⟨⟩ publication hmem hvolume
      obtain ⟨hmem, hat⟩ := hnot publication hmem
      have hlisted := (h.listed_withoutTarget hload hmem hvolume hat).1
      rw [hempty.1] at hlisted
      cases hlisted
    · refine .perform fun _ last hlast => secures_pure.2 (hfewer.answered hlast ?_ nofun)
      rintro _ ⟨⟩ publication hmem hvolume
      obtain ⟨hmem, hat⟩ := hnot publication hmem
      exact (h.listed_withoutTarget hload hmem (hvolume.trans hkey) hat).2
  · exact secures_pure.2 hfewer

theorem cleanupOrphaned_secures (volumeID targetPath : String)
    (h : Recorded cfg current w.sessions) :
    SecuresStore cfg done request
      (cleanupOrphanedSharedFilesystemTargetOnUnpublish cfg volumeID targetPath)
      (fun cleaned store => Recorded cfg (if cleaned then
        current.filter fun publication => !publication.isAt volumeID targetPath else current) store)
      w := by
  unfold SecuresStore cleanupOrphanedSharedFilesystemTargetOnUnpublish
  dsimp only
  split
  · exact secures_pure.2 h
  refine (secures_of_free (free_of_looks (podUIDExists_looks _))).bind fun found asked hasked => ?_
  rw [← hasked] at h
  split
  · exact secures_pure.2 h
  refine (secures_of_free (free_of_looks (stillUsable_looks _))).bind
    fun usable checked hchecked => ?_
  rw [← hchecked] at h
  split
  · exact secures_pure.2 h
  refine (remove_secures _ _ h).bind fun _ removed hremoved => ?_
  refine .perform fun _ last hlast => ?_
  refine secures_pure.2 ?_
  rw [sessions_of_keeps (by trivial) hlast]
  exact hremoved

theorem unpublish_secures {req : NodeUnpublishRequest} (h : Recorded cfg current w.sessions) :
    SecuresStore cfg done request (nodeUnpublishVolume cfg req)
      (fun result store => Recorded cfg (published current (.unpublish req, result)) store) w := by
  unfold SecuresStore nodeUnpublishVolume
  split
  · exact secures_pure.2 h
  split
  · exact secures_pure.2 h
  refine .perform fun err later hlater => ?_
  rw [← sessions_of_keeps (by trivial) hlater] at h
  cases err with
  | none =>
    dsimp only
    split
    · exact (remove_secures _ _ h).bind fun _ _ hlast => secures_pure.2 hlast
    · exact secures_pure.2 (h.subset fun publication hmem => (mem_filter.1 hmem).1)
  | some err =>
    dsimp only
    split
    · refine (cleanupOrphaned_secures _ _ h).bind fun cleaned last hlast => ?_
      cases cleaned with
      | true => exact secures_pure.2 hlast
      | false => exact secures_pure.2 hlast
    · exact secures_pure.2 h

/-! #### Seeding -/

/-- What the mount table shows is what a seeding finds. -/
theorem mem_targetsFromMounts_of_shows {stage : MountPoint}
    {target : SharedFilesystemPublishedTarget} (hnormal : target.Normal)
    (h : showsTarget mountPoints stage target = true) :
    target ∈ sharedFilesystemPublishedTargetsFromMounts mountPoints stage := by
  simp only [showsTarget, Bool.and_eq_true, Bool.not_eq_true', isEmpty_eq_false_iff,
    all_eq_true, decide_eq_true_eq] at h
  obtain ⟨hsome, hoptions⟩ := h
  have hsame : ∀ mountPoint ∈ mountPoints, madeFromStage stage mountPoint = true →
      trimSpace mountPoint.path = target.targetPath →
        (⟨mountPoint.path, sharedFilesystemMountOptionsFromMountPoint mountPoint⟩ :
          SharedFilesystemPublishedTarget).normalize = target := by
    intro mountPoint hmem hmade hpath
    have hmine := hoptions mountPoint (mem_filter.2 ⟨hmem, by simp [hmade, hpath]⟩)
    rw [← hnormal.normalize_eq]
    simp only [SharedFilesystemPublishedTarget.normalize, hmine, hpath, hnormal.trim]
  obtain ⟨mountPoint, hmine⟩ := exists_mem_of_ne_nil _ hsome
  obtain ⟨hmem, hshows⟩ := mem_filter.1 hmine
  simp only [Bool.and_eq_true, decide_eq_true_eq] at hshows
  refine mem_normalize_of ⟨_, mem_map.2 ⟨mountPoint, mem_filter.2 ⟨hmem, hshows.1⟩, rfl⟩,
    hsame mountPoint hmem hshows.1 hshows.2⟩ hnormal.path_ne fun other hother hpath => ?_
  obtain ⟨mountPoint', hmem', rfl⟩ := mem_map.1 hother
  obtain ⟨hmount', hmade'⟩ := mem_filter.1 hmem'
  exact hsame mountPoint' hmount' hmade' hpath

/-- What is known during a seeding. -/
structure Seeding (cfg : Config) (done : List (Request × Option GoError)) (past : History)
    (w : World) : Prop where
  recorded : Recorded cfg (publications done) w.sessions
  shows : ∀ mountPoints, (⟨.listMounts .seed, .ok mountPoints⟩ : Event Op Op.Answer) ∈ past →
    showsPublications mountPoints (publications done) = true
  loaded : ∀ volumeID session, Loaded past volumeID session →
    trimSpace session.volumeID = trimSpace volumeID

theorem Seeding.saved {past : History} (h : Seeding cfg done past w)
    (hsession : SeededFrom past session)
    {publication : Publication} (hmem : publication ∈ publications done)
    (hvolume : publication.volume = trimSpace session.volumeID) :
    publication.target ∈ normalizeSharedFilesystemPublishedTargets session.publishedTargets := by
  obtain ⟨mountPoints, stage, base, userID, hread, hstage, -, hbase, rfl⟩ := hsession
  have hid : trimSpace base.volumeID =
      trimSpace (sharedFilesystemVolumeIDFromStagingPath stage.path) := by
    rcases hbase with hloaded | hmade
    · exact h.loaded _ _ hloaded
    · rw [hmade]
  have hshows := all_eq_true.1 (all_eq_true.1 (h.shows mountPoints hread) stage hstage)
    publication hmem
  simp only [seededSession_volumeID] at hvolume
  obtain ⟨found, hload, hlisted⟩ := h.recorded.listed publication hmem
  simp only [seededSession_publishedTargets]
  refine mem_normalize_normalize (mem_targetsFromMounts_of_shows
    (SessionStore.normal_of_load hload hlisted) ?_)
  simpa [hvolume, hid] using hshows

theorem Seeding.answered {past : History} {ans : op.Answer} (h : Seeding cfg done past w)
    (hguar : seedContract.guar past op) (hans : keptAnswers cfg done request w op ans w') :
    Seeding cfg done (past ++ [⟨op, ans⟩]) w' := by
  constructor
  · refine h.recorded.answered hans ?_ ?_
    · rintro session rfl publication hmem hvolume
      exact h.saved hguar hmem hvolume
    · rintro volumeID rfl
      exact hguar.elim
  · intro mountPoints hread
    rcases mem_append.1 hread with hold | hnew
    · exact h.shows mountPoints hold
    · cases mem_singleton.1 hnew
      exact (seed_answer hans).2 mountPoints rfl
  · intro volumeID session hloaded
    rcases mem_append.1 hloaded with hold | hnew
    · exact h.loaded volumeID session hold
    · cases mem_singleton.1 hnew
      rcases (load_answer hans).2 with hload | ⟨-, err, herr⟩
      · exact h.recorded.keyed.load (Except.ok.inj hload).symm
      · cases herr

/-- The publications stay recorded. -/
abbrev KeepsRecorded (cfg : Config) (done : List (Request × Option GoError)) (request : Request)
    (p : Prog α) (w : World) : Prop :=
  SecuresStore cfg done request p (fun _ store => Recorded cfg (publications done) store) w

theorem seed_secures (h : Recorded cfg (publications done) w.sessions) :
    KeepsRecorded cfg done request seedSessionsFromMounts w := by
  have hstart : Seeding cfg done [] w := ⟨h, nofun, nofun⟩
  exact (seed_meets_seedContract.secures (fun _ _ _ => trivial)
    (fun past w op ans w' hguar h hans => Seeding.answered h hguar hans) hstart).mono
      fun _ _ ⟨_, hlast⟩ => hlast.recorded

/-! #### The manager -/

section Manager

variable (hmanager : request.byManager = true)
include hmanager

theorem podUIDExists_secures (uid : String) :
    (podUIDExists cfg uid).Secures (keptAnswers cfg done request) (fun found later =>
      later.sessions = w.sessions ∧ (found = false → cfg.kubeRuntime = true →
        ∀ publication ∈ publications done,
          podUIDFromKubeletPath publication.target.targetPath ≠ uid)) w := by
  unfold podUIDExists
  split
  · rename_i hkube
    refine secures_pure.2 ⟨rfl, fun _ htrue => ?_⟩
    rw [htrue] at hkube
    cases hkube
  · refine .perform fun answer later hlater => ?_
    have hsame := sessions_of_keeps (by trivial) hlater
    have hyes : ∀ publication ∈ publications done,
        podUIDFromKubeletPath publication.target.targetPath = uid → answer = .ok true :=
      fun publication hmem huid => pod_answer hmanager ⟨publication, hmem, huid⟩ hlater
    cases answer with
    | error err =>
      refine secures_pure.2 ⟨hsame, fun _ _ publication hmem huid => ?_⟩
      cases hyes publication hmem huid
    | ok found => ?_
    refine secures_pure.2 ⟨hsame, fun hno _ publication hmem huid => ?_⟩
    cases hyes publication hmem huid
    cases hno

/-- The pods of a session are found to be gone only if it lists no publication. -/
theorem allPodsGone_secures {targets : List SharedFilesystemPublishedTarget}
    (h : Recorded cfg (publications done) store) :
    (allPodsGone cfg targets).Secures (keptAnswers cfg done request) (fun gone later =>
      later.sessions = w.sessions ∧ (gone = true →
        ∀ publication ∈ publications done, publication.target ∉ targets)) w := by
  induction targets generalizing w with
  | nil => exact secures_pure.2 ⟨rfl, fun _ publication _ => by simp⟩
  | cons target rest ih =>
    unfold allPodsGone
    dsimp only
    split
    · exact secures_pure.2 ⟨rfl, by rintro ⟨⟩⟩
    rename_i huid
    refine (podUIDExists_secures hmanager _).bind fun found later hlater => ?_
    obtain ⟨hsame, hmissed⟩ := hlater
    split
    · exact secures_pure.2 ⟨hsame, by rintro ⟨⟩⟩
    rename_i hfound
    refine ih.mono fun gone last hlast => ⟨hlast.1.trans hsame, fun hgone publication hmem => ?_⟩
    rw [mem_cons, not_or]
    refine ⟨?_, hlast.2 hgone publication hmem⟩
    rintro rfl
    rcases h.pod publication hmem with hnone | hkube
    · exact huid hnone
    · exact hmissed (by simpa using hfound) hkube publication hmem rfl

/-- The session lists the publications of its volume. -/
def ListsAll (done : List (Request × Option GoError)) (session : SharedFilesystemSession) : Prop :=
  ∀ publication ∈ publications done, publication.volume = trimSpace session.volumeID →
    publication.target ∈ session.publishedTargets

variable (h : Recorded cfg (publications done) w.sessions)
include h

theorem collect_secures (hlisted : ListsAll done session) :
    KeepsRecorded cfg done request (garbageCollectOrphanedSession cfg session) w := by
  -- What is removed lists no publication.
  have hremove : ∀ w : World, Recorded cfg (publications done) w.sessions →
      (∀ publication ∈ publications done, publication.target ∉ session.publishedTargets) →
        KeepsRecorded cfg done request (removeOrphanedSession session) w := by
    intro w h hgone
    refine (secures_of_free (removeTargets_free mayTouch_true)).bind fun removed later hlater => ?_
    rw [← hlater] at h
    split
    · refine .perform fun err last hlast => ?_
      have hlast' : Recorded cfg (publications done) last.sessions := by
        refine h.answered hlast nofun ?_
        rintro _ ⟨⟩ publication hmem hvolume
        exact hgone publication hmem (hlisted publication hmem hvolume)
      cases err <;> exact secures_pure.2 hlast'
    · exact secures_pure.2 h
  unfold KeepsRecorded SecuresStore garbageCollectOrphanedSession
  split
  · exact secures_pure.2 h
  refine (allPodsGone_secures hmanager h).bind fun gone later hlater => ?_
  obtain ⟨hsame, hgone⟩ := hlater
  rw [← hsame] at h
  split
  · rename_i hall
    split
    · refine .perform fun answer last hlast => ?_
      rw [← sessions_of_keeps (by trivial) hlast] at h
      cases answer with
      | ok _ => exact secures_pure.2 h
      | error err => exact hremove last h (hgone hall)
    · exact hremove later h (hgone hall)
  · exact secures_pure.2 h

theorem enqueueEach_secures {sessions : List SharedFilesystemSession}
    (hlisted : ∀ session ∈ sessions, ListsAll done session) :
    KeepsRecorded cfg done request (enqueueEach cfg sessions) w := by
  induction sessions generalizing w with
  | nil => exact secures_pure.2 h
  | cons session rest ih =>
    unfold KeepsRecorded SecuresStore enqueueEach enqueueUnhealthySession
    refine secures_bind.2 (secures_bind.2 ((collect_secures hmanager h
      (hlisted session (mem_cons_self ..))).mono fun collected later hlater => ?_))
    have hnext : ∀ last : World, Recorded cfg (publications done) last.sessions →
        KeepsRecorded cfg done request (enqueueEach cfg rest) last :=
      fun last hlast => ih hlast fun other hother =>
        hlisted other (mem_cons_of_mem _ hother)
    split
    · exact secures_pure.2 (hnext later hlater)
    refine (secures_of_free (free_of_looks (evaluateSharedFilesystemSession_looks _))).bind
      fun health checked hchecked => ?_
    rw [← hchecked] at hlater
    cases health with
    | error err => exact secures_pure.2 (hnext checked hlater)
    | ok health => ?_
    dsimp only
    split
    · split
      · exact secures_pure.2 (hnext checked hlater)
      refine secures_perform.2 fun _ last hlast => hnext last ?_
      rw [sessions_of_keeps (by trivial) hlast]
      exact hlater
    · exact secures_pure.2 (hnext checked hlater)

theorem enqueue_secures : KeepsRecorded cfg done request (enqueueUnhealthySessions cfg) w := by
  unfold KeepsRecorded SecuresStore enqueueUnhealthySessions
  refine .perform fun answer later hlater => ?_
  obtain ⟨hsame, hsessions⟩ := list_answer hlater
  cases answer with
  | error err =>
    rw [← hsame] at h
    exact secures_pure.2 h
  | ok sessions => ?_
  obtain rfl := hsessions sessions rfl
  have hlisted : ∀ session ∈ w.sessions.list, ListsAll done session :=
    fun session hmem publication hpublication hvolume =>
      h.mem_of_load (h.keyed.load_of_mem_list hmem) hpublication hvolume
  rw [← hsame] at h
  exact (enqueueEach_secures hmanager h hlisted).bind fun _ last hlast => seed_secures hlast

theorem recover_secures (volumeID : String) :
    KeepsRecorded cfg done request (recoverVolume cfg volumeID) w := by
  unfold KeepsRecorded SecuresStore recoverVolume
  refine .perform fun answer later hlater => ?_
  rw [← (load_answer hlater).1] at h
  split
  · exact secures_pure.2 h
  · exact secures_pure.2 h
  refine withVolumeLock_secures fun locked hlocked => ?_
  rw [← hlocked] at h
  simp only [SecuresStore, secures_bind, secures_perform]
  intro answer loaded hloaded
  obtain ⟨hsame, hanswer⟩ := load_answer hloaded
  rcases hanswer with rfl | ⟨-, err, rfl⟩
  · cases hload : locked.sessions.load volumeID with
    | none =>
      rw [← hsame] at h
      exact secures_pure.2 h
    | some session => ?_
    have hlisted : ListsAll done session := fun publication hmem hvolume =>
      h.mem_of_load hload hmem (hvolume.trans (h.keyed.load hload))
    rw [← hsame] at h
    refine (collect_secures hmanager h hlisted).bind fun collected last hlast => ?_
    split
    · exact secures_pure.2 hlast
    refine (secures_of_free (free_of_looks (evaluateSharedFilesystemSession_looks _))).bind
      fun health checked hchecked => ?_
    rw [← hchecked] at hlast
    cases health with
    | error err => exact secures_pure.2 hlast
    | ok health => ?_
    dsimp only
    split
    · exact free_secures (recoverStage_free trivial mayTouch_true) fun _ => hlast
    · exact free_secures (rebindTargets_free mayTouch_true) fun _ => hlast
  · rw [← hsame] at h
    exact secures_pure.2 h

end Manager

end Requests

/-! ## All sequences of requests -/

/-- In every sequence of requests that meets the condition, and over any mount tables, a target that
has been published and not since unpublished is listed with its options in the stored session of its
volume. -/
theorem published_targets_listed (cfg : Config) {done : List (Request × Option GoError)} {w : World}
    (h : (targetService cfg).Served (keepsTargets cfg) Fresh done w) {publication : Publication}
    (hpublication : publication ∈ publications done) :
    w.sessions.Lists publication.volume publication.target := by
  have hinv : Recorded cfg (publications done) w.sessions := by
    refine h.invariant (fun done w => Recorded cfg (publications done) w.sessions) ?_ ?_
    · rintro w ⟨mounts, rfl⟩
      exact ⟨SessionStore.keyed_nil, (fun _ h => by cases h), (fun _ h => by cases h),
        (fun _ h => by cases h)⟩
    · intro done w request h hstart
      simp only [publications_append]
      cases request with
      | stage req =>
        refine stage_secures h fun publication hmem => ?_
        simpa using all_eq_true.1 hstart publication hmem
      | publish req => exact publish_secures h hstart
      | unpublish req => exact unpublish_secures h
      | seedSessionsFromMounts =>
        exact (seed_secures h).bind fun _ _ hlast => secures_pure.2 hlast
      | enqueueUnhealthySessions =>
        exact (enqueue_secures rfl h).bind fun _ _ hlast => secures_pure.2 hlast
      | recoverVolume volumeID => exact recover_secures rfl h volumeID
  exact hinv.listed publication hpublication

/-! ## A volume that is staged and published -/

/-- A call that succeeds over the mount table. -/
def calmInput (mounts : List MountPoint) : CallInput where
  mounts
  oracle := calm mounts

/-- A call that succeeds and finds what it asks for. -/
def foundInput (mounts : List MountPoint) : CallInput where
  mounts
  oracle := { calm mounts with found := true }

/-- The stage of volume "cephfs:a". -/
def stageMount : MountPoint :=
  fuseMount (stagePath "cephfs:a") []

/-- The volume is staged, and published at "/pods/u/mount". -/
def stagedAndPublished : List (Request × List CallInput) :=
  [(.stage (stageRequestOf "cephfs:a"), List.replicate 3 (calmInput []) ++
      [foundInput []] ++ List.replicate 5 (calmInput [])),
    (.publish (publishRequestOf "cephfs:a"), List.replicate 7 (calmInput [stageMount]))]

/-- The publication of the volume. -/
def podPublication : Publication where
  volume := "cephfs:a"
  target := { targetPath := "/pods/u/mount", mountOptions := [] }

/-- The manager finds the target missing, but seeds the sessions when it is back. -/
def healthyPass : List (Request × List CallInput) :=
  [(.enqueueUnhealthySessions, [calmInput [stageMount], foundInput [stageMount]] ++
    List.replicate 4 (calmInput [stageMount]) ++
    List.replicate 3 (calmInput [stageMount, fuseMount "/pods/u/mount" ["bind"]]))]

theorem published_target_kept :
    ∃ done w, (targetService defaultConfig).Served (keepsTargets defaultConfig) Fresh done w ∧
      podPublication ∈ publications done ∧
      w.sessions.Lists podPublication.volume podPublication.target := by
  have hrun : (((targetService defaultConfig).run (keepsTargets defaultConfig) []
      (mountedWorld []) (stagedAndPublished ++ healthyPass)).any fun result =>
        podPublication ∈ publications result.1) = true := by
    decide +kernel
  obtain ⟨⟨done, w⟩, hserved, hpublication⟩ := (Option.any_eq_true _ _).1 hrun
  have hw := Service.served_of_run (.init (fresh_mountedWorld [])) hserved
  have hmem : podPublication ∈ publications done := by simpa using hpublication
  exact ⟨done, w, hw, hmem, published_targets_listed defaultConfig hw hmem⟩

/-- A seeding finds the stage in the mount table, but not the target. -/
def seedingWithoutTarget : List (Request × List CallInput) :=
  [(.seedSessionsFromMounts, List.replicate 3 (calmInput [stageMount]))]

/-- The target has been published and not unpublished, and it is not listed any more. -/
theorem published_target_unlisted :
    ∃ done w session, (targetService defaultConfig).Served Service.Condition.any Fresh done w ∧
      podPublication ∈ publications done ∧
      w.sessions.load podPublication.volume = some session ∧ session.publishedTargets = [] := by
  have hrun : (((targetService defaultConfig).run Service.Condition.any []
      (mountedWorld []) (stagedAndPublished ++ seedingWithoutTarget)).any fun result =>
        podPublication ∈ publications result.1 &&
          (result.2.sessions.load podPublication.volume).any fun session =>
            session.publishedTargets = []) = true := by
    decide +kernel
  obtain ⟨⟨done, w⟩, hserved, hlost⟩ := (Option.any_eq_true _ _).1 hrun
  rw [Bool.and_eq_true] at hlost
  obtain ⟨session, hload, hempty⟩ := (Option.any_eq_true _ _).1 hlost.2
  exact ⟨done, w, session, Service.served_of_run (.init (fresh_mountedWorld [])) hserved,
    by simpa using hlost.1, hload, by simpa using hempty⟩

end OpenNebulaCSI.Node
