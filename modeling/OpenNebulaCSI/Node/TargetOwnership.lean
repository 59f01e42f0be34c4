import OpenNebulaCSI.Node.SessionCalls

/-!
# Whose paths the recovery touches

The seeding of sessions takes every mount with the device of a stage for a target of that stage. All
ceph-fuse mounts show the same device, so the session of one volume comes to list the stages and the
targets of other volumes, and the recovery of that volume unmounts them and binds its own stage over
them (`recovery_takesOver_foreignPaths`).

Where mounts with the device of a stage belong to the stage's volume, a rely-guarantee argument
applies: what is saved belongs to the volume it is saved for, so what is loaded does.
-/

namespace OpenNebulaCSI.Node

open Go Concurrency Controller Program List

/-- Which volume a path belongs to: the volume a staging path was made for, or the volume a target
is bound to. A staging path that names its volume belongs to it. -/
structure Ownership where
  volume : String → String
  staging : ∀ path, sharedFilesystemVolumeIDFromStagingPath path ≠ "" →
    volume path = trimSpace (sharedFilesystemVolumeIDFromStagingPath path)

/-- The path an operation unmounts, removes or mounts over. -/
def Op.touches : Op → Option String
  | .cleanupMountPoint path | .bindMount _ path _ | .mountStage _ _ path | .removeAll path =>
    some path
  | _ => none

/-- The paths that a goroutine has unmounted, removed or mounted over. -/
def touched (s : NodePool) (t : ℕ) : List String :=
  (s.history t).filterMap fun event => event.op.touches

/-- A session of the volume that names only paths of the volume. -/
structure OwnSession (O : Ownership) (volume : String) (session : SharedFilesystemSession) :
    Prop where
  volumeID : trimSpace session.volumeID = volume
  stage : O.volume session.stagingTargetPath = volume
  targets : ∀ target ∈ session.publishedTargets, O.volume (trimSpace target.targetPath) = volume

/-- Mounts with the device of a stage belong to the volume of the stage. -/
def ownDevices (O : Ownership) (mountPoints : List MountPoint) : Bool :=
  mountPoints.all fun stage =>
    sharedFilesystemVolumeIDFromStagingPath stage.path = "" ||
      mountPoints.all fun mountPoint =>
        !madeFromStage stage mountPoint ||
          O.volume (trimSpace mountPoint.path) = O.volume stage.path

/-- The targets of the session are in the form in which sessions are stored. -/
def TrimmedTargets (session : SharedFilesystemSession) : Prop :=
  ∀ target ∈ session.publishedTargets, trimSpace target.targetPath = target.targetPath

/-- If sessions that are loaded belong to their volume and the mount table tells volumes apart, then
what is saved belongs to its volume, and only paths that satisfy `may` are touched. -/
def ownContract (O : Ownership) (may : String → Prop) : Contract Op Op.Answer where
  rely _ op ans :=
    match op, ans with
    | .loadSession volume, .ok (some session) =>
      OwnSession O (trimSpace volume) session ∧ TrimmedTargets session
    | .listSessions, .ok sessions => ∀ session ∈ sessions,
        OwnSession O (trimSpace session.volumeID) session ∧ TrimmedTargets session
    | .listMounts .seed, .ok mountPoints => ownDevices O mountPoints = true
    | _, _ => True
  guar _ op :=
    match op with
    | .saveSession session => OwnSession O (trimSpace session.volumeID) session
    | op => ∀ path, op.touches = some path → may path

variable {O : Ownership} {may : String → Prop} {past : History}

/-! ## Sessions -/

namespace OwnSession

variable {volume : String} {session : SharedFilesystemSession} (h : OwnSession O volume session)

include h

theorem normalize : OwnSession O volume session.normalize := by
  refine ⟨h.volumeID, h.stage, fun target htarget => ?_⟩
  obtain ⟨original, horiginal, hpath⟩ := mem_normalizeSharedFilesystemPublishedTargets htarget
  rw [hpath, trimSpace_trimSpace]
  exact h.targets original horiginal

theorem read : OwnSession O volume (SessionStore.read session) :=
  ⟨h.volumeID, h.stage, h.normalize.targets⟩

theorem withUserID (userID : String) : OwnSession O volume { session with userID } :=
  ⟨h.volumeID, h.stage, h.targets⟩

theorem withTarget {target : SharedFilesystemPublishedTarget}
    (htarget : O.volume (trimSpace target.targetPath) = volume) :
    OwnSession O volume (session.withTarget target) := by
  refine ⟨h.volumeID, h.stage, fun candidate hcandidate => ?_⟩
  rcases mem_withTarget hcandidate with hmem | rfl
  · exact h.targets candidate hmem
  · exact htarget

theorem withoutTarget (targetPath : String) :
    OwnSession O volume (session.withoutTarget targetPath) :=
  ⟨h.volumeID, h.stage, fun target htarget => h.targets target (mem_filter.1 htarget).1⟩

end OwnSession

theorem trimmedTargets_read (session : SharedFilesystemSession) :
    TrimmedTargets (SessionStore.read session) := by
  intro target htarget
  obtain ⟨original, -, hpath⟩ := mem_normalizeSharedFilesystemPublishedTargets htarget
  rw [hpath, trimSpace_trimSpace]

/-- Every session file holds a session of the volume it is named after. -/
def OwnStore (O : Ownership) (store : SessionStore) : Prop :=
  ∀ entry ∈ store, OwnSession O entry.1 entry.2

variable {session : SharedFilesystemSession} {store : SessionStore}

theorem OwnStore.load {volumeID : String} (hstore : OwnStore O store)
    (h : store.load volumeID = some session) :
    OwnSession O (trimSpace volumeID) session ∧ TrimmedTargets session := by
  obtain ⟨stored, hstored, rfl⟩ := Option.map_eq_some_iff.1 h
  obtain ⟨before, after, hsplit, -⟩ := lookup_eq_some_iff.1 hstored
  have hown : OwnSession O (trimSpace volumeID) stored :=
    hstore (trimSpace volumeID, stored) (by simp [hsplit])
  exact ⟨hown.read, trimmedTargets_read stored⟩

theorem OwnStore.list {session : SharedFilesystemSession} (hstore : OwnStore O store)
    (h : session ∈ store.list) :
    OwnSession O (trimSpace session.volumeID) session ∧ TrimmedTargets session := by
  obtain ⟨stored, hmem, rfl⟩ := mem_map.1 ((mem_insertionSort _).1 h)
  obtain ⟨entry, hentry, rfl⟩ := mem_map.1 hmem
  have hown := hstore entry hentry
  refine ⟨?_, trimmedTargets_read entry.2⟩
  rw [show trimSpace (SessionStore.read entry.2).volumeID = entry.1 from hown.volumeID]
  exact hown.read

theorem OwnStore.delete (hstore : OwnStore O store) (volumeID : String) :
    OwnStore O (store.delete volumeID) :=
  fun entry hentry => hstore entry (mem_filter.1 hentry).1

theorem OwnStore.save (hstore : OwnStore O store)
    (h : OwnSession O (trimSpace session.volumeID) session) : OwnStore O (store.save session) := by
  intro entry hentry
  rcases mem_cons.1 hentry with rfl | hentry
  · exact h.normalize
  · exact hstore.delete _ entry hentry

/-! ## Seeding -/

/-- In a mount table that tells volumes apart, what is seeded for a stage belongs to its volume. -/
theorem ownSession_seededSession {mountPoints : List MountPoint} {stage : MountPoint}
    {session : SharedFilesystemSession} (hdevices : ownDevices O mountPoints = true)
    (hstage : stage ∈ mountPoints)
    (hvolume : sharedFilesystemVolumeIDFromStagingPath stage.path ≠ "")
    (hid : trimSpace session.volumeID =
      trimSpace (sharedFilesystemVolumeIDFromStagingPath stage.path)) :
    OwnSession O (trimSpace session.volumeID) (seededSession session stage mountPoints) := by
  have hown : O.volume stage.path = trimSpace session.volumeID := by
    rw [O.staging stage.path hvolume, hid]
  refine ⟨by rw [seededSession_volumeID], by rw [seededSession_stagingTargetPath, hown],
    fun target htarget => ?_⟩
  rw [seededSession_publishedTargets] at htarget
  obtain ⟨mountPoint, hmount, hmade, htargetPath⟩ :=
    mem_sharedFilesystemPublishedTargetsFromMounts htarget
  have hdevice : O.volume (trimSpace mountPoint.path) = O.volume stage.path := by
    have := all_eq_true.1 hdevices stage hstage
    simp only [Bool.or_eq_true, decide_eq_true_eq, all_eq_true] at this
    simpa [hmade] using this.resolve_left hvolume mountPoint hmount
  rw [htargetPath, trimSpace_trimSpace, hdevice, hown]

/-! ## Goroutines -/

/-- What is known about an answer that the contract relies on. -/
def OwnAnswer (O : Ownership) (op : Op) (ans : op.Answer) : Prop :=
  (ownContract O fun _ => True).rely [] op ans

theorem ownContract_rely_iff {op : Op} {ans : op.Answer} :
    (ownContract O may).rely past op ans ↔ OwnAnswer O op ans :=
  Iff.rfl

theorem ownSession_of_loaded {volumeID : String}
    (hpast : ∀ event ∈ past, OwnAnswer O event.op event.ans) (h : Loaded past volumeID session) :
    OwnSession O (trimSpace volumeID) session ∧ TrimmedTargets session :=
  hpast _ h

theorem OwnSession.names {volume path : String} (h : OwnSession O volume session)
    (htrimmed : TrimmedTargets session) (hnames : session.Names path) : O.volume path = volume := by
  rcases hnames with rfl | ⟨target, htarget, rfl | rfl⟩
  · exact h.stage
  · rw [← htrimmed target htarget]
    exact h.targets target htarget
  · exact h.targets target htarget

/-! ## Runs -/

/-- The paths a goroutine may touch: the recovery of a volume, those of the volume. -/
def Kind.May (O : Ownership) : Kind → String → Prop
  | .recoverQueuedVolume volumeID => fun path => O.volume path = trimSpace volumeID
  | _ => fun _ => True

/-- Requests name paths of their volume, and in the mount tables that are seeded from, mounts with
the device of a stage belong to the volume of the stage. -/
def ownPaths (O : Ownership) (s : NodePool) : NodeStep → Bool
  | .start (.stage req) => O.volume req.stagingTargetPath = trimSpace req.volumeId
  | .start (.publish req) => O.volume (trimSpace req.targetPath) = trimSpace req.volumeId
  | .act t _ =>
    match s.nextOp? t with
    | some (.listMounts .seed) => ownDevices O s.world.mounts
    | _ => true
  | _ => true

variable {s : NodePool}

theorem Kind.Saves.ownSession {kind : Kind} (hok : ownPaths O s (.start kind) = true)
    (hpast : ∀ event ∈ past, OwnAnswer O event.op event.ans) (h : kind.Saves past session) :
    OwnSession O (trimSpace session.volumeID) session := by
  cases kind with
  | stage req =>
    have hown : O.volume req.stagingTargetPath = trimSpace req.volumeId := by
      simpa [ownPaths] using hok
    obtain ⟨hid, hstage, htargets⟩ := sharedFilesystemSessionFromStageRequest_ok h
    exact ⟨rfl, by rw [hstage, hown, hid], by simp [htargets]⟩
  | publish req =>
    have hown : O.volume (trimSpace (sharedFilesystemTargetFromPublishRequest req).targetPath) =
        trimSpace req.volumeId := by
      simpa [ownPaths, sharedFilesystemTargetFromPublishRequest] using hok
    obtain ⟨loaded, hloaded, rfl⟩ := h
    have hsession := (ownSession_of_loaded hpast hloaded).1.withTarget hown
    rwa [hsession.volumeID]
  | unpublish req =>
    obtain ⟨loaded, hloaded, rfl⟩ := h
    have hsession := (ownSession_of_loaded hpast hloaded).1.withoutTarget req.targetPath
    rwa [hsession.volumeID]
  | periodicPass =>
    obtain ⟨mountPoints, stage, base, userID, hread, hstage, hvolume, hbase, rfl⟩ := h
    have hid : trimSpace base.volumeID =
        trimSpace (sharedFilesystemVolumeIDFromStagingPath stage.path) := by
      rcases hbase with hloaded | hmade
      · exact (ownSession_of_loaded hpast hloaded).1.volumeID
      · rw [hmade]
    have hsession := (ownSession_seededSession (hpast _ hread) hstage hvolume hid).withUserID userID
    rwa [hsession.volumeID]
  | unstage req => exact h.elim
  | disconnected volumeID => exact h.elim
  | recoverQueuedVolume volumeID => exact h.elim

theorem Kind.meets_ownContract (cfg : Config) {kind : Kind}
    (hok : ownPaths O s (.start kind) = true) :
    (kind.program cfg).Meets (ownContract O (kind.May O)) (fun _ _ => True) [] := by
  -- The answers so far are all of them to be relied on.
  have hmay : ∀ past path, (∀ event ∈ past, OwnAnswer O event.op event.ans) →
      (kind.Mounts past path ∨ kind.Unmounts past path) → kind.May O path := by
    intro past path hpast hpath
    cases kind with
    | recoverQueuedVolume volumeID =>
      obtain ⟨session, hloaded, hnames⟩ := hpath.elim id id
      obtain ⟨hown, htrimmed⟩ := ownSession_of_loaded hpast hloaded
      exact hown.names htrimmed hnames
    | _ => trivial
  refine ((kind.meets_sessionContract cfg).refine
    (fun past => ∀ event ∈ past, OwnAnswer O event.op event.ans) ?_ (fun _ _ _ _ _ => trivial)
    ?_ ?_).mono fun _ _ h => h.2
  · rintro event ⟨⟩
  · intro past op hpast hguar
    have htouch : ∀ path, op.touches = some path → kind.May O path := by
      intro path hpath
      cases op with
      | cleanupMountPoint path' => exact hmay past path hpast (.inr (Option.some.inj hpath ▸ hguar))
      | removeAll path' => exact hmay past path hpast (.inr (Option.some.inj hpath ▸ hguar))
      | bindMount source path' options =>
        exact hmay past path hpast (.inl (Option.some.inj hpath ▸ hguar))
      | mountStage command args path' =>
        exact hmay past path hpast (.inl (Option.some.inj hpath ▸ hguar))
      | _ => cases hpath
    cases op with
    | saveSession session => exact Kind.Saves.ownSession hok hpast hguar
    | _ => exact htouch
  · intro past op ans hpast _ hans event hevent
    rcases mem_append.1 hevent with hold | hnew
    · exact hpast event hold
    · obtain rfl := mem_singleton.1 hnew
      exact ownContract_rely_iff.1 hans

theorem ownContract_rely {cfg : Config} {t : ℕ} {oracle : Oracle}
    {thread : Thread Op Op.Answer Kind (Option GoError)} {op : Op}
    {next : op.Answer → Prog (Option GoError)} {ans : op.Answer} {w : World}
    (hstore : OwnStore O s.world.sessions) (hok : ownPaths O s (.act t oracle) = true)
    (hthread : s.threads[t]? = some thread) (hprog : thread.prog = .call op next)
    (hact : (nodeService cfg).act oracle s.world t op = some (ans, w)) :
    (ownContract O may).rely past op ans := by
  cases op with
  | loadSession volume =>
    rcases ans with err | _ | session
    · trivial
    · trivial
    obtain ⟨hload, -⟩ : oracle.answer (s.world.sessions.load volume) = .ok (some session) ∧
        s.world = w := by
      simpa only [nodeService, act, Option.some.injEq, Prod.mk.injEq] using hact
    exact hstore.load (Oracle.answer_eq_ok hload)
  | listSessions =>
    cases ans with
    | error err => trivial
    | ok sessions => ?_
    obtain ⟨hlist, -⟩ : oracle.answer s.world.sessions.list = .ok sessions ∧ s.world = w := by
      simpa only [nodeService, act, Option.some.injEq, Prod.mk.injEq] using hact
    intro session hsession
    exact hstore.list (Oracle.answer_eq_ok hlist ▸ hsession)
  | listMounts reader =>
    cases reader with
    | check => trivial
    | seed => ?_
    cases ans with
    | error err => trivial
    | ok mountPoints => ?_
    obtain ⟨hmounts, -⟩ : oracle.answer s.world.mounts = .ok mountPoints ∧ s.world = w := by
      simpa only [nodeService, act, Option.some.injEq, Prod.mk.injEq] using hact
    have hnext : s.nextOp? t = some (.listMounts .seed) := Pool.nextOp?_of_call hthread hprog
    obtain rfl := Oracle.answer_eq_ok hmounts
    have hdevices : ownDevices O s.world.mounts = true := by
      simpa [ownPaths, hnext] using hok
    exact hdevices
  | _ => trivial

theorem reachable_ownStore {cfg : Config} (hs : Reachable cfg (fun s l => ownPaths O s l) s) :
    s.Kept (fun kind => ownContract O (kind.May O)) ∧ OwnStore O s.world.sessions := by
  have hrule : s.Conforms (fun kind => ownContract O (kind.May O)) (fun _ _ _ => True) ∧
      s.Kept (fun kind => ownContract O (kind.May O)) ∧ OwnStore O s.world.sessions := by
    refine hs.rely_guarantee (fun w => OwnStore O w.sessions) ?_ ?_ ?_ ?_
    · rintro w ⟨mounts, rfl⟩ entry ⟨⟩
    · intro s kind prog w hok hstore hstart
      obtain ⟨rfl, hsessions, -⟩ := start_program hstart
      exact ⟨kind.meets_ownContract cfg hok, by rwa [hsessions]⟩
    · intro s t oracle thread op next ans w _ hok hstore hthread hprog hguar hact
      refine ⟨ownContract_rely hstore hok hthread hprog hact, ?_⟩
      rcases act_sessions hact with hsame | ⟨session, rfl, hsave⟩ | ⟨volume, rfl, hdelete⟩
      · rwa [hsame]
      · rw [hsave]
        exact hstore.save hguar
      · rw [hdelete]
        exact hstore.delete volume
    · intro s mounts w _ hstore hchange
      cases hchange
      exact hstore
  exact hrule.2

/-- In every run in which the mount tables tell volumes apart and requests name paths of their own
volume, sessions list only targets of their volume, and the recovery of a volume touches only paths
of the volume. -/
theorem recovery_keepsToOwnPaths_of_ownPaths (cfg : Config) (O : Ownership) {s : NodePool}
    (hs : Reachable cfg (fun s l => ownPaths O s l) s) :
    (∀ volumeID session, s.world.sessions.load volumeID = some session →
      ∀ target ∈ session.publishedTargets, O.volume target.targetPath = trimSpace volumeID) ∧
    ∀ (t : ℕ) thread volumeID, s.threads[t]? = some thread →
      thread.kind = .recoverQueuedVolume volumeID →
      ∀ path ∈ touched s t, O.volume path = trimSpace volumeID := by
  obtain ⟨hkept, hstore⟩ := reachable_ownStore hs
  constructor
  · intro volumeID session hload target htarget
    obtain ⟨hown, htrimmed⟩ := hstore.load hload
    rw [← htrimmed target htarget]
    exact hown.targets target htarget
  · intro t thread volumeID hthread hkind path hpath
    obtain ⟨event, hevent, htouches⟩ := mem_filterMap.1 hpath
    obtain ⟨thread', past, rest, hthread', -, hguar, -⟩ :=
      hkept.of_mem hs.wellFormed (Pool.mem_history.1 hevent)
    obtain rfl : thread = thread' := Option.mem_unique hthread hthread'
    obtain ⟨op, ans⟩ := event
    rw [hkind] at hguar
    cases op with
    | saveSession session => cases htouches
    | _ => exact hguar path htouches

/-! ## Volumes with one device -/

/-- Volume "cephfs:a" is published at "/pods/v/mount" and "cephfs:b" at "/pods/u/mount". -/
def pods : Ownership where
  volume path :=
    if path = "/pods/v/mount" then "cephfs:a"
    else if path = "/pods/u/mount" then "cephfs:b"
    else trimSpace (sharedFilesystemVolumeIDFromStagingPath path)
  staging path hpath := by
    have hv : path ≠ "/pods/v/mount" := by
      rintro rfl
      exact hpath (by decide +kernel)
    have hu : path ≠ "/pods/u/mount" := by
      rintro rfl
      exact hpath (by decide +kernel)
    simp [hv, hu]

/-- A stage request of a volume that is not mounted yet. -/
def stageRun (t : ℕ) (volume : String) : List NodeStep :=
  [.start (.stage (stageRequestOf volume))] ++ acts (calm []) t 3 ++
    acts { calm [] with found := true } t 1 ++ acts (calm []) t 5

/-- Volumes "cephfs:a" and "cephfs:b" are staged and the second one is published. A periodic pass
finds the first stage stale and has its volume recovered. -/
def twoVolumesRun : List NodeStep :=
  stageRun 0 "cephfs:a" ++ stageRun 1 "cephfs:b" ++
    [.start (.publish (publishRequestOf "cephfs:b"))] ++ acts (calm []) 2 7 ++
    [.start .periodicPass] ++ acts (calm []) 3 7 ++ acts (failing "stale file handle" []) 3 1 ++
    acts (calm []) 3 13 ++
    [.start (.recoverQueuedVolume "cephfs:a")] ++ acts (calm []) 4 4 ++
    acts (failing "stale file handle" []) 4 1 ++
    acts (calm [fuseMount (stagePath "cephfs:a") [], fuseMount "/pods/u/mount" ["bind"]]) 4 1 ++
    acts (calm [fuseMount (stagePath "cephfs:a") []]) 4 1 ++ acts (calm []) 4 12

/-- The session of "cephfs:a" comes to list the stage and the target of "cephfs:b". Its recovery
unmounts both and binds its own stage over them. -/
theorem recovery_takesOver_foreignPaths :
    ∃ s thread session, Reachable defaultConfig (fun _ _ => True) s ∧
      s.world.sessions.load "cephfs:a" = some session ∧
      (∃ target ∈ session.publishedTargets,
        pods.volume target.targetPath = "cephfs:b") ∧
      s.threads[4]? = some thread ∧ thread.kind = .recoverQueuedVolume "cephfs:a" ∧
      ∃ path ∈ touched s 4, pods.volume path = "cephfs:b" := by
  have hrun : ∃ s ∈ (nodeService defaultConfig).run (fun _ _ => true) twoVolumesRun
      (Pool.initial (mountedWorld [])),
        (∃ session ∈ s.world.sessions.load "cephfs:a", ∃ target ∈ session.publishedTargets,
          pods.volume target.targetPath = "cephfs:b") ∧
        (∃ thread ∈ s.threads[4]?, thread.kind = .recoverQueuedVolume "cephfs:a") ∧
        ∃ path ∈ touched s 4, pods.volume path = "cephfs:b" := by
    decide +kernel
  obtain ⟨s, hs, ⟨session, hload, htarget⟩, ⟨thread, hthread, hkind⟩, hpath⟩ :=
    Machine.Reachable.of_run (fun _ _ _ => trivial) (fresh_mountedWorld _) hrun
  exact ⟨s, thread, session, hs, hload, htarget, hthread, hkind, hpath⟩

/-! ## Volumes with devices of their own -/

/-- A mount as the kernel client makes it for a volume, and every bind mount of it. -/
def kernelMount (volume path : String) (opts : List String) : MountPoint :=
  { device := "csi@.cephfs=/volumes/" ++ volume, path, fsType := "ceph", opts }

/-- Calls of the kernel client for a volume succeed and find what they look for; an unmount leaves
the given mounts. -/
def kernelCalm (volume : String) (mounts : List MountPoint) : Oracle :=
  { calm mounts with device := "csi@.cephfs=/volumes/" ++ volume, fsType := "ceph", found := true }

/-- The volume is staged with the kernel client, and published. -/
def kernelRun (t : ℕ) (volume targetPath : String) : List NodeStep :=
  let req := stageRequestOf volume
  let publishContext := ("cephfsMounter", "kernel") :: req.publishContext
  [.start (.stage { req with publishContext })] ++ acts (kernelCalm volume []) t 10 ++
    [.start (.publish { publishRequestOf volume with targetPath })] ++
      acts (kernelCalm volume []) (t + 1) 8

/-- Both volumes are staged and published. A periodic pass finds the stage of "cephfs:a" stale and
has this volume recovered, while "cephfs:b" stays as it is. -/
def twoDevicesRun : List NodeStep :=
  let others := [kernelMount "cephfs:b" (stagePath "cephfs:b") [],
    kernelMount "cephfs:b" "/pods/u/mount" ["bind"]]
  let stale := { kernelCalm "cephfs:a" [] with error := some (.plain "stale file handle") }
  kernelRun 0 "cephfs:a" "/pods/v/mount" ++ kernelRun 2 "cephfs:b" "/pods/u/mount" ++
    [.start .periodicPass] ++ acts (kernelCalm "cephfs:a" []) 4 8 ++ acts stale 4 1 ++
    acts (kernelCalm "cephfs:a" []) 4 12 ++
    [.start (.recoverQueuedVolume "cephfs:a")] ++ acts (kernelCalm "cephfs:a" []) 5 5 ++
    acts stale 5 1 ++
    acts (kernelCalm "cephfs:a" (kernelMount "cephfs:a" (stagePath "cephfs:a") [] :: others)) 5 1 ++
    acts (kernelCalm "cephfs:a" others) 5 11

/-- A recovery that binds the target of its own volume again, next to another volume that is staged
and published. -/
theorem recovery_rebinds_ownTarget :
    ∃ s thread session, Reachable { defaultConfig with cephFSKernelMounts := true }
        (fun s l => ownPaths pods s l) s ∧
      s.threads[5]? = some thread ∧ thread.kind = .recoverQueuedVolume "cephfs:a" ∧
      touched s 5 = ["/pods/v/mount", stagePath "cephfs:a", stagePath "cephfs:a", "/pods/v/mount"] ∧
      (∀ path ∈ touched s 5, pods.volume path = "cephfs:a") ∧
      s.world.sessions.load "cephfs:b" = some session ∧
      "/pods/u/mount" ∈ session.publishedTargets.map (·.targetPath) ∧
      (∀ target ∈ session.publishedTargets, pods.volume target.targetPath = "cephfs:b") ∧
      (s.world.mounts.map (·.path)).count "/pods/u/mount" = 1 := by
  have hrun : ∃ s ∈ (nodeService { defaultConfig with cephFSKernelMounts := true }).run
      (ownPaths pods) twoDevicesRun (Pool.initial (mountedWorld [])),
        (∃ thread ∈ s.threads[5]?, thread.kind = .recoverQueuedVolume "cephfs:a") ∧
        touched s 5 =
          ["/pods/v/mount", stagePath "cephfs:a", stagePath "cephfs:a", "/pods/v/mount"] ∧
        (∃ session ∈ s.world.sessions.load "cephfs:b",
          "/pods/u/mount" ∈ session.publishedTargets.map (·.targetPath)) ∧
        (s.world.mounts.map (·.path)).count "/pods/u/mount" = 1 := by
    decide +kernel
  obtain ⟨s, hs, ⟨thread, hthread, hkind⟩, htouched, ⟨session, hload, htarget⟩, hmounted⟩ :=
    Machine.Reachable.of_run (fun _ _ h => h) (fresh_mountedWorld _) hrun
  obtain ⟨htargets, hpaths⟩ := recovery_keepsToOwnPaths_of_ownPaths _ pods hs
  exact ⟨s, thread, session, hs, hthread, hkind, htouched,
    fun path hpath => (hpaths 5 thread "cephfs:a" hthread hkind path hpath).trans
      (by decide +kernel),
    hload, htarget,
    fun target hmem => (htargets "cephfs:b" session hload target hmem).trans (by decide +kernel),
    hmounted⟩

end OpenNebulaCSI.Node
