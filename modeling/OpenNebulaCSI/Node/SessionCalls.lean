import OpenNebulaCSI.Node.SharedFilesystem

/-!
# What goroutines of the node service do with sessions

A goroutine saves a session that it has made from its request, from a session it has loaded, or from
the mount table it has read. The recovery of a volume touches only paths that its session names
(`Kind.meets_sessionContract`). This holds whatever the calls return, so the contract relies on
nothing.
-/

namespace OpenNebulaCSI.Node

open Go Concurrency Controller Program List

/-! ## What the subroutines of the node service call

The subroutines that check, unmount and mount have nothing to do with sessions. Each of them touches
only the paths it is given (`Op.SessionFree`), and the check of a session touches none and reports
only targets of the session (`evaluateSharedFilesystemSession_meets`).
-/

/-- An operation that has nothing to do with sessions, and touches only paths it may touch. -/
def Op.SessionFree (may : String → Prop) : Op → Prop
  | .loadSession _ | .saveSession _ | .deleteSession _ | .listSessions | .listMounts .seed => False
  | .cleanupMountPoint path | .bindMount _ path _ | .mountStage _ _ path | .removeAll path =>
    may path
  | _ => True

/-- An operation that touches nothing. -/
abbrev Op.Looks : Op → Prop :=
  Op.SessionFree fun _ => False

/-- Every target may be touched, with or without surrounding blanks. -/
def MayTouch (may : String → Prop) (targets : List SharedFilesystemPublishedTarget) : Prop :=
  ∀ target ∈ targets, may target.targetPath ∧ may (trimSpace target.targetPath)

section

variable {may : String → Prop} {cfg : Config} {α : Type} {C : Contract Op Op.Answer}
  {past : History}
  {targets : List SharedFilesystemPublishedTarget} {session : SharedFilesystemSession}

theorem Op.SessionFree.mono {may' : String → Prop} {op : Op} (h : op.SessionFree may)
    (himp : ∀ path, may path → may' path) : op.SessionFree may' := by
  cases op with
  | cleanupMountPoint path => exact himp path h
  | bindMount source path options => exact himp path h
  | mountStage command args path => exact himp path h
  | removeAll path => exact himp path h
  | listMounts reader =>
    cases reader with
    | seed => exact h
    | check => trivial
  | loadSession volume => exact h
  | saveSession saved => exact h
  | deleteSession volume => exact h
  | listSessions => exact h
  | _ => trivial

theorem MayTouch.tail {target : SharedFilesystemPublishedTarget}
    (h : MayTouch may (target :: targets)) :
    MayTouch may targets :=
  fun other hother => h other (mem_cons_of_mem _ hother)

theorem free_of_looks {p : Prog α} (hp : p.Only Op.Looks) : p.Only (Op.SessionFree may) :=
  hp.mono fun _ hop => hop.mono fun _ h => h.elim

/-! ## Looking -/

theorem podUIDExists_looks (uid : String) : (podUIDExists cfg uid).Only Op.Looks := by
  unfold podUIDExists
  split
  · exact only_pure
  · refine .perform trivial fun answer => ?_
    cases answer <;> exact only_pure

theorem allPodsGone_looks (targets : List SharedFilesystemPublishedTarget) :
    (allPodsGone cfg targets).Only Op.Looks := by
  induction targets with
  | nil => exact only_pure
  | cons target rest ih =>
    rw [allPodsGone]
    split
    · exact only_pure
    refine (podUIDExists_looks _).bind fun found => ?_
    split
    · exact only_pure
    · exact ih

theorem stillUsable_looks (targetPath : String) : (stillUsable targetPath).Only Op.Looks := by
  unfold stillUsable
  refine .perform trivial fun answer => ?_
  cases answer with
  | error err => exact only_pure
  | ok mountPoints => ?_
  dsimp only
  split
  · refine .perform trivial fun err => ?_
    cases err <;> exact only_pure
  · exact only_pure

theorem cachedDatastore_looks (id : Int) (cache : DatastoreCache) :
    (cachedDatastore id cache).Only Op.Looks := by
  unfold cachedDatastore
  split
  · exact only_pure
  · refine .perform trivial fun datastore => ?_
    cases datastore <;> exact only_pure

theorem reportDisconnected_looks (volumeID : String) :
    (reportDisconnected volumeID).Only Op.Looks := by
  unfold reportDisconnected
  split
  · exact only_pure
  · exact Only.perform trivial fun _ => only_pure

theorem targetsToRebind_meets (hC : ∀ past op, op.Looks → C.guar past op)
    (targets found : List SharedFilesystemPublishedTarget) :
    (targetsToRebind targets found).Meets C (fun _ result =>
      ∀ broken, result = .ok broken →
        ∀ target ∈ broken, target ∈ found ∨ target ∈ targets) past := by
  induction targets generalizing found past with
  | nil =>
    refine meets_pure.2 ?_
    rintro broken ⟨⟩ target htarget
    exact .inl htarget
  | cons first rest ih =>
    have hskip : ∀ past, (targetsToRebind rest found).Meets C (fun _ result =>
        ∀ broken, result = .ok broken → ∀ target ∈ broken,
          target ∈ found ∨ target ∈ first :: rest) past := by
      refine fun past => (ih found).mono fun _ result hresult broken hbroken target htarget => ?_
      exact (hresult broken hbroken target htarget).imp_right (mem_cons_of_mem _)
    have hadd : ∀ past, (targetsToRebind rest (found ++ [first])).Meets C
        (fun _ result => ∀ broken, result = .ok broken → ∀ target ∈ broken,
          target ∈ found ∨ target ∈ first :: rest) past := by
      refine fun past => (ih _).mono fun _ result hresult broken hbroken target htarget => ?_
      have hcases := hresult broken hbroken target htarget
      simp only [mem_append, mem_singleton] at hcases
      rcases hcases with (hfound | rfl) | hrest
      · exact .inl hfound
      · exact .inr (mem_cons_self ..)
      · exact .inr (mem_cons_of_mem _ hrest)
    unfold targetsToRebind
    refine .perform (hC _ _ trivial) fun answer _ => ?_
    cases answer with
    | error err =>
      refine meets_pure.2 ?_
      rintro broken ⟨⟩
    | ok mountPoints => ?_
    dsimp only
    split
    · exact hadd _
    refine .perform (hC _ _ trivial) fun err _ => ?_
    cases err with
    | none => exact hskip _
    | some err => ?_
    dsimp only
    split
    · exact hadd _
    · exact hskip _

/-- The targets of a health are targets of its session. -/
def HealthOf (session : SharedFilesystemSession)
    (result : Except GoError SharedFilesystemSessionHealth) : Prop :=
  ∀ health, result = .ok health → ∀ target ∈ health.targetsToRebind,
    ∃ original ∈ session.publishedTargets, target.targetPath = trimSpace original.targetPath

theorem evaluateSharedFilesystemSession_meets (hC : ∀ past op, op.Looks → C.guar past op)
    (session : SharedFilesystemSession) :
    (evaluateSharedFilesystemSession session).Meets C
      (fun _ result => HealthOf session result) past := by
  have hnone : ∀ recoverStage, HealthOf session (.ok { recoverStage, targetsToRebind := [] }) := by
    rintro recoverStage health ⟨⟩ target ⟨⟩
  have herror : ∀ err, HealthOf session (.error err) := by
    rintro err health ⟨⟩
  unfold evaluateSharedFilesystemSession
  split
  · exact meets_pure.2 (hnone _)
  refine .perform (hC _ _ trivial) fun answer _ => ?_
  cases answer with
  | error err => exact meets_pure.2 (herror _)
  | ok mountPoints => ?_
  dsimp only
  split
  · exact meets_pure.2 (hnone _)
  refine .perform (hC _ _ trivial) fun err _ => ?_
  cases err with
  | some err => exact meets_pure.2 (hnone _)
  | none => ?_
  refine (targetsToRebind_meets hC _ _).bind fun _ result hresult => ?_
  cases result with
  | error err => exact meets_pure.2 (herror _)
  | ok broken => ?_
  refine meets_pure.2 ?_
  rintro health ⟨⟩ target htarget
  obtain ⟨original, horiginal, hpath⟩ := mem_normalizeSharedFilesystemPublishedTargets htarget
  have hmem := hresult broken rfl original horiginal
  exact ⟨original, by simpa using hmem, hpath⟩

theorem evaluateSharedFilesystemSession_looks (session : SharedFilesystemSession) :
    (evaluateSharedFilesystemSession session).Only Op.Looks := by
  have hmeets : (evaluateSharedFilesystemSession session).Meets
      ⟨fun _ _ _ => True, fun _ op => op.Looks⟩ (fun _ result => HealthOf session result) [] :=
    evaluateSharedFilesystemSession_meets (fun _ _ hop => hop) session
  exact hmeets.only

/-! ## Unmounting and mounting -/

theorem mayTouch_true : MayTouch (fun _ => True) targets :=
  fun _ _ => ⟨trivial, trivial⟩

theorem removeTargets_free (hmay : MayTouch may targets) :
    (removeTargets targets).Only (Op.SessionFree may) := by
  induction targets with
  | nil => exact only_pure
  | cons target rest ih =>
    have hpath : may target.targetPath := (hmay target (mem_cons_self ..)).1
    unfold removeTargets
    refine (free_of_looks (stillUsable_looks _)).bind fun usable => ?_
    split
    · exact only_pure
    · exact Only.perform hpath fun _ => Only.perform hpath fun _ => ih hmay.tail

theorem mountCleanup_free {path : String} (hmay : may path) :
    (mountCleanup path).Only (Op.SessionFree may) := by
  unfold mountCleanup
  refine .perform hmay fun err => ?_
  cases err <;> exact only_pure

theorem mountSharedFilesystemFuse_free (hmay : may session.stagingTargetPath) :
    (mountSharedFilesystemFuse session).Only (Op.SessionFree may) := by
  unfold mountSharedFilesystemFuse
  refine .perform trivial fun answer => ?_
  cases answer with
  | error err => exact only_pure
  | ok confPath =>
    refine .perform hmay fun err => ?_
    cases err <;> exact only_pure

theorem mountSharedFilesystemKernel_free (hmay : may session.stagingTargetPath) :
    (mountSharedFilesystemKernel cfg session).Only (Op.SessionFree may) := by
  unfold mountSharedFilesystemKernel
  split
  · exact only_pure
  refine .perform trivial fun unsupported => ?_
  cases unsupported with
  | some err => exact only_pure
  | none => ?_
  refine .perform trivial fun missing => ?_
  cases missing with
  | some err => exact only_pure
  | none => ?_
  dsimp only
  split
  · exact only_pure
  · refine .perform hmay fun err => ?_
    cases err <;> exact only_pure

theorem mountSharedFilesystemSession_free (hmay : may session.stagingTargetPath) :
    (mountSharedFilesystemSession cfg session).Only (Op.SessionFree may) := by
  unfold mountSharedFilesystemSession
  split
  · exact only_pure
  refine .perform trivial fun err => ?_
  cases err with
  | some err => exact only_pure
  | none => ?_
  dsimp only
  split
  · exact mountSharedFilesystemKernel_free hmay
  · exact mountSharedFilesystemFuse_free hmay
  · exact only_pure

variable {stagingTargetPath : String}

theorem bindSharedFilesystemTarget_free {targetPath : String} {mountOptions : List String}
    (hmay : may targetPath) :
    (bindSharedFilesystemTarget stagingTargetPath targetPath mountOptions).Only
      (Op.SessionFree may) := by
  unfold bindSharedFilesystemTarget
  refine .perform trivial fun answer => ?_
  cases answer with
  | error err => exact only_pure
  | ok mountPoints => ?_
  dsimp only
  split
  · refine .perform trivial fun err => ?_
    cases err with
    | none => exact only_pure
    | some err =>
      dsimp only
      split <;> exact only_pure
  · refine .perform hmay fun err => ?_
    cases err <;> exact only_pure

theorem publishSharedFilesystemTarget_free {target : SharedFilesystemPublishedTarget}
    (hmay : may (trimSpace target.targetPath)) :
    (publishSharedFilesystemTarget stagingTargetPath target).Only (Op.SessionFree may) := by
  unfold publishSharedFilesystemTarget
  dsimp only
  split
  · exact only_pure
  refine .perform trivial fun missing => ?_
  split
  · refine .perform trivial fun err => ?_
    cases err with
    | some err => exact only_pure
    | none => exact bindSharedFilesystemTarget_free hmay
  · exact bindSharedFilesystemTarget_free hmay

theorem cleanupTargets_free (hmay : MayTouch may targets) :
    (cleanupTargets targets).Only (Op.SessionFree may) := by
  induction targets with
  | nil => exact only_pure
  | cons target rest ih =>
    unfold cleanupTargets
    refine .perform (hmay target (mem_cons_self ..)).1 fun err => ?_
    cases err with
    | some err => exact only_pure
    | none => exact ih hmay.tail

theorem publishTargets_free (hmay : MayTouch may targets) :
    (publishTargets stagingTargetPath targets).Only (Op.SessionFree may) := by
  induction targets with
  | nil => exact only_pure
  | cons target rest ih =>
    unfold publishTargets
    refine (publishSharedFilesystemTarget_free
      (hmay target (mem_cons_self ..)).2).bind fun err => ?_
    cases err with
    | some err => exact only_pure
    | none => exact ih hmay.tail

theorem rebindTargets_free (hmay : MayTouch may targets) :
    (rebindTargets stagingTargetPath targets).Only (Op.SessionFree may) := by
  induction targets with
  | nil => exact only_pure
  | cons target rest ih =>
    obtain ⟨hpath, htrimmed⟩ := hmay target (mem_cons_self ..)
    unfold rebindTargets
    refine .perform hpath fun err => ?_
    cases err with
    | some err => exact only_pure
    | none => ?_
    refine (publishSharedFilesystemTarget_free htrimmed).bind fun err => ?_
    cases err with
    | some err => exact only_pure
    | none => exact ih hmay.tail

theorem recoverStage_free (hstage : may session.stagingTargetPath)
    (hmay : MayTouch may session.publishedTargets) :
    (recoverStage cfg session).Only (Op.SessionFree may) := by
  unfold recoverStage
  refine (cleanupTargets_free hmay).bind fun err => ?_
  cases err with
  | some err => exact only_pure
  | none => ?_
  refine (mountCleanup_free hstage).bind fun err => ?_
  cases err with
  | some err => exact only_pure
  | none => ?_
  refine (mountSharedFilesystemSession_free hstage).bind fun err => ?_
  cases err with
  | some err => exact only_pure
  | none => exact publishTargets_free hmay

theorem rebindTargets_free_of_health {health : SharedFilesystemSessionHealth}
    (hmay : MayTouch may session.publishedTargets) (hhealth : HealthOf session (.ok health)) :
    (rebindTargets stagingTargetPath health.targetsToRebind).Only (Op.SessionFree may) := by
  refine rebindTargets_free fun target htarget => ?_
  obtain ⟨original, horiginal, hpath⟩ := hhealth health rfl target htarget
  rw [hpath, trimSpace_trimSpace]
  exact ⟨(hmay original horiginal).2, (hmay original horiginal).2⟩

end

/-! ## Sessions -/

/-- The goroutine has loaded the session. -/
def Loaded (past : History) (volumeID : String) (session : SharedFilesystemSession) : Prop :=
  (⟨.loadSession volumeID, .ok (some session)⟩ : Event Op Op.Answer) ∈ past

/-- The stage and the targets of a session. -/
def SharedFilesystemSession.Names (session : SharedFilesystemSession) (path : String) : Prop :=
  path = session.stagingTargetPath ∨
    ∃ target ∈ session.publishedTargets,
      path = target.targetPath ∨ path = trimSpace target.targetPath

/-- A session that has been made from the mount table. -/
def SeededFrom (past : History) (session : SharedFilesystemSession) : Prop :=
  ∃ mountPoints stage base userID,
    (⟨.listMounts .seed, .ok mountPoints⟩ : Event Op Op.Answer) ∈ past ∧ stage ∈ mountPoints ∧
      sharedFilesystemVolumeIDFromStagingPath stage.path ≠ "" ∧
      (Loaded past (sharedFilesystemVolumeIDFromStagingPath stage.path) base ∨
        base.volumeID = sharedFilesystemVolumeIDFromStagingPath stage.path) ∧
      session = { seededSession base stage mountPoints with userID }

namespace Kind

/-- The sessions a goroutine saves. -/
def Saves : Kind → History → SharedFilesystemSession → Prop
  | .stage req, _, session => sharedFilesystemSessionFromStageRequest req = .ok session
  | .publish req, past, session => ∃ loaded, Loaded past req.volumeId loaded ∧
      session = loaded.withTarget (sharedFilesystemTargetFromPublishRequest req)
  | .unpublish req, past, session => ∃ loaded, Loaded past req.volumeId loaded ∧
      session = loaded.withoutTarget req.targetPath
  | .periodicPass, past, session => SeededFrom past session
  | _, _, _ => False

/-- Who deletes sessions. -/
def Deletes : Kind → Prop
  | .stage _ | .publish _ | .disconnected _ => False
  | _ => True

/-- The paths a goroutine mounts at. -/
def Mounts : Kind → History → String → Prop
  | .stage req, _, path => path = req.stagingTargetPath
  | .publish req, _, path => path = trimSpace req.targetPath
  | .recoverQueuedVolume volumeID, past, path =>
    ∃ session, Loaded past volumeID session ∧ session.Names path
  | _, _, _ => False

/-- The paths a goroutine unmounts or removes; only the recovery of a volume is restricted. -/
def Unmounts : Kind → History → String → Prop
  | .recoverQueuedVolume volumeID, past, path =>
    ∃ session, Loaded past volumeID session ∧ session.Names path
  | _, _, _ => True

end Kind

def sessionContract (kind : Kind) : Contract Op Op.Answer where
  rely _ _ _ := True
  guar past op :=
    match op with
    | .saveSession session => kind.Saves past session
    | .deleteSession _ => kind.Deletes
    | .bindMount _ path _ | .mountStage _ _ path => kind.Mounts past path
    | .cleanupMountPoint path | .removeAll path => kind.Unmounts past path
    | _ => True

section

variable {kind : Kind} {past : History} {cfg : Config} {α : Type} {may : String → Prop}

/-! ## Subroutines -/

theorem free_guar {op : Op} (hop : op.SessionFree may)
    (hmay : ∀ path, may path → kind.Mounts past path ∧ kind.Unmounts past path) :
    (sessionContract kind).guar past op := by
  cases op with
  | bindMount source path options => exact (hmay path hop).1
  | mountStage command args path => exact (hmay path hop).1
  | cleanupMountPoint path => exact (hmay path hop).2
  | removeAll path => exact (hmay path hop).2
  | saveSession session => exact hop.elim
  | deleteSession volumeID => exact hop.elim
  | _ => trivial

theorem free_meets_session {p : Prog α} (hp : p.Only (Op.SessionFree may))
    (hmay : ∀ path, may path → ∀ later, past ⊆ later →
      kind.Mounts later path ∧ kind.Unmounts later path) :
    p.Meets (sessionContract kind) (fun later _ => past ⊆ later) past := by
  refine hp.meets (List.Subset.refl _) ?_ ?_
  · intro later op hop hlater
    exact free_guar hop fun path hpath => hmay path hpath later hlater
  · intro later op ans _ hlater event hevent
    exact mem_append_left _ (hlater hevent)

theorem looks_meets_session {p : Prog α} (hp : p.Only Op.Looks) :
    p.Meets (sessionContract kind) (fun later _ => past ⊆ later) past :=
  free_meets_session hp fun _ h => h.elim

theorem looks_guar (past : History) (op : Op) (hop : op.Looks) :
    (sessionContract kind).guar past op :=
  free_guar hop fun _ h => h.elim

theorem withVolumeLock_meets {volumeID : String} {body : Prog α}
    (hbody : ∀ past, body.Meets (sessionContract kind) (fun _ _ => True) past) :
    (withVolumeLock volumeID body).Meets (sessionContract kind) (fun _ _ => True) past := by
  unfold withVolumeLock
  refine .perform trivial fun _ _ => meets_bind.2 ((hbody _).mono fun _ result _ => ?_)
  exact .perform trivial fun _ _ => meets_pure.2 trivial

theorem record_meets {session : SharedFilesystemSession} (h : kind.Saves past session) :
    (recordSharedFilesystemSession session).Meets (sessionContract kind)
      (fun _ _ => True) past := by
  unfold recordSharedFilesystemSession
  exact .perform h fun _ _ => meets_pure.2 trivial

theorem Loaded.mono {volumeID : String} {session : SharedFilesystemSession} {later : History}
    (h : Loaded past volumeID session) (hsubset : past ⊆ later) : Loaded later volumeID session :=
  hsubset h

/-! ## The manager -/

/-- A collection deletes the session, and it unmounts and removes targets but mounts nothing. -/
def Op.Collects (session : SharedFilesystemSession) : Op → Prop
  | .cleanupMountPoint path | .removeAll path => session.Names path
  | .deleteSession _ => True
  | op => op.Looks

theorem collect_only (session : SharedFilesystemSession) :
    (garbageCollectOrphanedSession cfg session).Only (Op.Collects session) := by
  have hlooks : ∀ op : Op, op.Looks → op.Collects session := by
    intro op hop
    cases op with
    | cleanupMountPoint path => exact hop.elim
    | removeAll path => exact hop.elim
    | deleteSession volumeID => trivial
    | _ => exact hop
  have htargets : ∀ targets, targets ⊆ session.publishedTargets →
      (removeTargets targets).Only (Op.Collects session) := by
    intro targets
    induction targets with
    | nil => exact fun _ => only_pure
    | cons target rest ih =>
      intro hmem
      have hnames : session.Names target.targetPath :=
        .inr ⟨target, hmem (mem_cons_self ..), .inl rfl⟩
      refine ((stillUsable_looks _).mono hlooks).bind fun usable => ?_
      split
      · exact only_pure
      · exact .perform hnames fun _ => .perform hnames fun _ =>
          ih fun _ hother => hmem (mem_cons_of_mem _ hother)
  have hremove : (removeOrphanedSession session).Only (Op.Collects session) := by
    refine (htargets _ (List.Subset.refl _)).bind fun removed => ?_
    split
    · refine .perform trivial fun err => ?_
      cases err <;> exact only_pure
    · exact only_pure
  unfold garbageCollectOrphanedSession
  split
  · exact only_pure
  refine ((allPodsGone_looks _).mono hlooks).bind fun gone => ?_
  split
  · split
    · refine .perform trivial fun answer => ?_
      cases answer with
      | ok _ => exact only_pure
      | error err => exact hremove
    · exact hremove
  · exact only_pure

theorem collect_meets (session : SharedFilesystemSession) (hdeletes : kind.Deletes)
    (hpaths : ∀ path, session.Names path → ∀ later, past ⊆ later → kind.Unmounts later path) :
    (garbageCollectOrphanedSession cfg session).Meets (sessionContract kind)
      (fun later _ => past ⊆ later) past := by
  refine (collect_only session).meets (List.Subset.refl _) (fun later op hop hlater => ?_)
    fun later _ _ _ hlater => List.Subset.trans hlater (subset_append_left _ _)
  cases op with
  | cleanupMountPoint path => exact hpaths path hop later hlater
  | removeAll path => exact hpaths path hop later hlater
  | deleteSession volumeID => exact hdeletes
  | _ => exact looks_guar _ _ hop

theorem recoverQueuedVolume_meets (volumeID : String) :
    (recoverQueuedVolume cfg volumeID).Meets (sessionContract (.recoverQueuedVolume volumeID))
      (fun _ _ => True) past := by
  -- The session that has been loaded under the lock says which paths are touched.
  have hsession : ∀ session past, Loaded past volumeID session → (recoverSession cfg session).Meets
      (sessionContract (.recoverQueuedVolume volumeID)) (fun _ _ => True) past := by
    intro session past hloaded
    have hpaths : ∀ path, session.Names path → ∀ later, past ⊆ later →
        (Kind.recoverQueuedVolume volumeID).Mounts later path ∧
          (Kind.recoverQueuedVolume volumeID).Unmounts later path :=
      fun path hnames later hlater => ⟨⟨session, hloaded.mono hlater, hnames⟩,
        ⟨session, hloaded.mono hlater, hnames⟩⟩
    have hstage : session.Names session.stagingTargetPath := .inl rfl
    have htargets : MayTouch session.Names session.publishedTargets :=
      fun target htarget => ⟨.inr ⟨target, htarget, .inl rfl⟩, .inr ⟨target, htarget, .inr rfl⟩⟩
    have hdeletes : (Kind.recoverQueuedVolume volumeID).Deletes := trivial
    refine (collect_meets session hdeletes fun path hnames later hlater =>
      (hpaths path hnames later hlater).2).bind fun collected _ hcollected => ?_
    split
    · exact meets_pure.2 trivial
    refine ((evaluateSharedFilesystemSession_meets looks_guar session).extends).bind
      fun checked health hchecked => ?_
    have hsubset : past ⊆ checked := List.Subset.trans hcollected hchecked.1.subset
    have hpaths' : ∀ path, session.Names path → ∀ later, checked ⊆ later →
        (Kind.recoverQueuedVolume volumeID).Mounts later path ∧
          (Kind.recoverQueuedVolume volumeID).Unmounts later path :=
      fun path hnames later hlater => hpaths path hnames later (List.Subset.trans hsubset hlater)
    cases health with
    | error err => exact meets_pure.2 trivial
    | ok health => ?_
    dsimp only
    split
    · exact (free_meets_session (recoverStage_free hstage htargets) hpaths').mono
        fun _ _ _ => trivial
    · exact (free_meets_session (rebindTargets_free_of_health htargets hchecked.2)
        hpaths').mono fun _ _ _ => trivial
  have hrecover : (recoverVolume cfg volumeID).Meets
      (sessionContract (.recoverQueuedVolume volumeID))
      (fun _ _ => True) past := by
    unfold recoverVolume
    refine .perform trivial fun answer _ => ?_
    split
    · exact meets_pure.2 trivial
    · exact meets_pure.2 trivial
    refine withVolumeLock_meets fun past => ?_
    refine .perform trivial fun answer _ => ?_
    split
    · exact meets_pure.2 trivial
    · exact meets_pure.2 trivial
    · exact hsession _ _ (mem_append_right _ (mem_singleton.2 rfl))
  exact hrecover.bind fun _ _ _ => .perform trivial fun _ _ => meets_pure.2 trivial

/-- A seeding saves what it has made from the mount table. It deletes, mounts and removes nothing.
-/
def seedContract : Contract Op Op.Answer where
  rely _ _ _ := True
  guar past op :=
    match op with
    | .saveSession session => SeededFrom past session
    | .loadSession _ | .listMounts .seed => True
    | op => op.Looks

theorem seedContract_looks (past : History) (op : Op) (hop : op.Looks) :
    seedContract.guar past op := by
  cases op with
  | saveSession session => exact hop.elim
  | loadSession volumeID => exact hop.elim
  | listMounts reader =>
    cases reader with
    | seed => trivial
    | check => exact hop
  | _ => exact hop

theorem reconstruct_meets (stage : MountPoint) (mountPoints : List MountPoint)
    (cache : DatastoreCache) :
    (reconstructSharedFilesystemSessionFromMount stage mountPoints cache).Meets
      seedContract (fun later result => past ⊆ later ∧ ∀ session, result.1 = .ok session →
          session.volumeID = sharedFilesystemVolumeIDFromStagingPath stage.path) past := by
  unfold reconstructSharedFilesystemSessionFromMount
  refine .perform trivial fun metadata _ => ?_
  have hdecoded := subset_append_left past
    [⟨.decodeSharedVolumeID (sharedFilesystemVolumeIDFromStagingPath stage.path), metadata⟩]
  cases metadata with
  | error err =>
    refine meets_pure.2 ⟨hdecoded, ?_⟩
    rintro session ⟨⟩
  | ok metadata => ?_
  refine ((cachedDatastore_looks _ _).meets_subset seedContract_looks).bind
    fun later result hlater => ?_
  rcases result with ⟨err | datastore, cache⟩
  · refine meets_pure.2 ⟨List.Subset.trans hdecoded hlater, ?_⟩
    rintro session ⟨⟩
  refine .perform trivial fun userID _ => meets_pure.2 ⟨?_, ?_⟩
  · exact List.Subset.trans (List.Subset.trans hdecoded hlater) (subset_append_left _ _)
  · rintro session ⟨⟩
    rfl

-- For `seededSession`, `rfl` would compare the other fields first.
theorem exists_withUserID (session : SharedFilesystemSession) :
    ∃ userID, session = { session with userID } :=
  ⟨session.userID, rfl⟩

theorem seedSession_meets {mountPoints : List MountPoint} {stage : MountPoint}
    {base : SharedFilesystemSession} (hstage : stage ∈ mountPoints)
    (hvolume : sharedFilesystemVolumeIDFromStagingPath stage.path ≠ "")
    (hread : (⟨.listMounts .seed, .ok mountPoints⟩ : Event Op Op.Answer) ∈ past)
    (hbase : Loaded past (sharedFilesystemVolumeIDFromStagingPath stage.path) base ∨
      base.volumeID = sharedFilesystemVolumeIDFromStagingPath stage.path) :
    (seedSession base stage mountPoints).Meets seedContract
      (fun later _ => past ⊆ later) past := by
  have hsaves : ∀ later session, past ⊆ later →
      (∃ userID, session = { seededSession base stage mountPoints with userID }) →
        SeededFrom later session := by
    rintro later session hlater ⟨userID, hsession⟩
    exact ⟨mountPoints, stage, base, userID, hlater hread, hstage, hvolume,
      hbase.imp_left fun h => h.mono hlater, hsession⟩
  unfold seedSession recordSharedFilesystemSession
  dsimp only
  split
  · refine .perform trivial fun userID _ => ?_
    refine .perform (hsaves _ _ (subset_append_left _ _) ⟨userID, rfl⟩) fun _ _ => meets_pure.2 ?_
    exact List.Subset.trans (subset_append_left _ _) (subset_append_left _ _)
  · refine .perform (hsaves past _ (List.Subset.refl _) (exists_withUserID _)) fun _ _ => ?_
    exact meets_pure.2 (subset_append_left _ _)

theorem seedMount_meets {mountPoints : List MountPoint} {stage : MountPoint}
    (cache : DatastoreCache) (hstage : stage ∈ mountPoints)
    (hread : (⟨.listMounts .seed, .ok mountPoints⟩ : Event Op Op.Answer) ∈ past) :
    (seedMount mountPoints stage cache).Meets seedContract
      (fun later _ => past ⊆ later) past := by
  unfold seedMount
  dsimp only
  split
  · exact meets_pure.2 (List.Subset.refl _)
  rename_i hvolume
  refine .perform trivial fun answer _ => ?_
  have hloaded := subset_append_left past
    [⟨.loadSession (sharedFilesystemVolumeIDFromStagingPath stage.path), answer⟩]
  split
  · exact meets_pure.2 hloaded
  · refine (seedSession_meets hstage hvolume (hloaded hread) (.inl ?_)).bind
      fun later _ hlater => meets_pure.2 (List.Subset.trans hloaded hlater)
    exact mem_append_right _ (mem_singleton.2 rfl)
  refine (reconstruct_meets _ _ _).bind fun made result hmade => ?_
  have hmade' := List.Subset.trans hloaded hmade.1
  rcases result with ⟨err | session, cache⟩
  · exact meets_pure.2 hmade'
  exact (seedSession_meets hstage hvolume (hmade' hread)
    (.inr (hmade.2 session rfl))).bind fun later _ hlater =>
      meets_pure.2 (List.Subset.trans hmade' hlater)

theorem seed_meets_seedContract : seedSessionsFromMounts.Meets seedContract
    (fun later _ => past ⊆ later) past := by
  have hmounts : ∀ (mountPoints rest : List MountPoint) cache past, rest ⊆ mountPoints →
      (⟨.listMounts .seed, .ok mountPoints⟩ : Event Op Op.Answer) ∈ past →
        (seedMounts mountPoints rest cache).Meets seedContract
          (fun later _ => past ⊆ later) past := by
    intro mountPoints rest
    induction rest with
    | nil => exact fun _ _ _ _ => meets_pure.2 (List.Subset.refl _)
    | cons stage rest ih =>
      intro cache past hsubset hread
      refine (seedMount_meets cache (hsubset (mem_cons_self ..)) hread).bind
        fun later cache hlater => ?_
      exact (ih cache later (fun _ h => hsubset (mem_cons_of_mem _ h)) (hlater hread)).mono
        fun _ _ hlast => List.Subset.trans hlater hlast
  unfold seedSessionsFromMounts
  refine .perform trivial fun answer _ => ?_
  have hread := subset_append_left past [⟨.listMounts .seed, answer⟩]
  cases answer with
  | error err => exact meets_pure.2 hread
  | ok mountPoints => ?_
  exact (hmounts mountPoints mountPoints [] _ (List.Subset.refl _)
    (mem_append_right _ (mem_singleton.2 rfl))).mono
      fun _ _ hlater => List.Subset.trans hread hlater

theorem seed_meets : seedSessionsFromMounts.Meets (sessionContract .periodicPass) (fun _ _ => True)
    past := by
  refine (seed_meets_seedContract.refine (fun _ => True) trivial (fun _ _ _ _ _ => trivial)
    (fun past op _ h => ?_) fun _ _ _ _ _ _ => trivial).mono fun _ _ _ => trivial
  cases op with
  | saveSession session => exact h
  | loadSession volumeID => trivial
  | listMounts reader => trivial
  | _ => exact looks_guar _ _ h

theorem periodicPass_meets : (periodicPass cfg).Meets (sessionContract .periodicPass)
    (fun _ _ => True) past := by
  have heach : ∀ sessions past, (enqueueEach cfg sessions).Meets (sessionContract .periodicPass)
      (fun _ _ => True) past := by
    intro sessions
    induction sessions with
    | nil => exact fun _ => meets_pure.2 trivial
    | cons session rest ih =>
      intro past
      have hcollect : (garbageCollectOrphanedSession cfg session).Meets
          (sessionContract .periodicPass) (fun later _ => past ⊆ later) past :=
        collect_meets session trivial fun _ _ _ _ => trivial
      unfold enqueueEach enqueueUnhealthySession
      refine meets_bind.2 (meets_bind.2 (hcollect.mono fun later collected _ => ?_))
      split
      · exact meets_pure.2 (ih _)
      refine (looks_meets_session
        (evaluateSharedFilesystemSession_looks _)).bind fun checked health _ => ?_
      cases health with
      | error err => exact meets_pure.2 (ih _)
      | ok health => ?_
      dsimp only
      split
      · split
        · exact meets_pure.2 (ih _)
        · exact meets_perform.2 ⟨trivial, fun _ _ => ih _⟩
      · exact meets_pure.2 (ih _)
  refine seed_meets.bind fun _ _ _ => ?_
  have henqueue : ∀ past, (enqueueUnhealthySessions cfg).Meets (sessionContract .periodicPass)
      (fun _ _ => True) past := by
    intro past
    unfold enqueueUnhealthySessions
    refine .perform trivial fun answer _ => ?_
    cases answer with
    | error err => exact meets_pure.2 trivial
    | ok sessions =>
      exact meets_bind.2 ((heach sessions _).mono fun _ _ _ => seed_meets)
  exact (henqueue _).bind fun _ _ _ => .perform trivial fun _ _ => meets_pure.2 trivial

/-! ## Requests -/

/-- What a stage request saves and mounts does not depend on what it has been answered. -/
theorem stage_only (req : NodeStageRequest) :
    (handleSharedFilesystemStage cfg req).Only ((sessionContract (.stage req)).guar []) := by
  have hfree : ∀ op : Op, op.SessionFree (fun path => path = req.stagingTargetPath) →
      (sessionContract (.stage req)).guar [] op :=
    fun _ hop => free_guar hop fun _ hpath => ⟨hpath, trivial⟩
  unfold handleSharedFilesystemStage withVolumeLock
  refine .perform trivial fun _ => Only.bind ?_ fun _ => .perform trivial fun _ => only_pure
  unfold stageUnderLock
  split
  · exact only_pure
  · exact only_pure
  split
  · exact only_pure
  split
  · exact only_pure
  refine .perform trivial fun err => ?_
  cases err with
  | some err => exact only_pure
  | none => ?_
  cases hsession : sharedFilesystemSessionFromStageRequest req with
  | error err => exact only_pure
  | ok session => ?_
  have hpath := (sharedFilesystemSessionFromStageRequest_ok hsession).2.1
  have hrecord :
      (do recordSharedFilesystemSession session; return none : Prog (Option GoError)).Only
      ((sessionContract (.stage req)).guar []) :=
    Only.bind (.perform hsession fun _ => only_pure) fun _ => only_pure
  have hstage : (stageSession cfg session).Only ((sessionContract (.stage req)).guar []) := by
    refine ((mountSharedFilesystemSession_free hpath).mono hfree).bind fun err => ?_
    cases err with
    | some err => exact only_pure
    | none => exact hrecord
  dsimp only
  split
  · exact only_pure
  refine .perform trivial fun err => ?_
  cases err with
  | some err => exact only_pure
  | none => ?_
  unfold stageOverMount
  refine .perform trivial fun notMountPoint => ?_
  split
  · refine .perform trivial fun err => ?_
    cases err with
    | none => exact hrecord
    | some err => ?_
    dsimp only
    split
    · exact only_pure
    refine (Only.mono (mountCleanup_free ?_) hfree).bind fun err => ?_
    · exact hpath
    cases err with
    | some err => exact only_pure
    | none => exact hstage
  · exact hstage

theorem stage_meets (req : NodeStageRequest) :
    (handleSharedFilesystemStage cfg req).Meets (sessionContract (.stage req))
      (fun _ _ => True) past := by
  refine ((stage_only req).meets_subset fun past op hop => ?_).mono fun _ _ _ => trivial
  cases op with
  | listMounts reader => cases reader <;> exact hop
  | _ => exact hop

theorem publish_meets (req : NodePublishRequest) :
    (handleSharedFilesystemPublish req).Meets (sessionContract (.publish req))
      (fun _ _ => True) past := by
  have hmay : ∀ past path, path = trimSpace req.targetPath → ∀ later, past ⊆ later →
      (Kind.publish req).Mounts later path ∧ (Kind.publish req).Unmounts later path :=
    fun _ _ hpath _ _ => ⟨hpath, trivial⟩
  have hupdate : ∀ past, (updateSharedFilesystemPublishedTarget req.volumeId
      (sharedFilesystemTargetFromPublishRequest req)).Meets (sessionContract (.publish req))
      (fun _ _ => True) past := by
    intro past
    unfold updateSharedFilesystemPublishedTarget
    split
    · exact meets_pure.2 trivial
    refine .perform trivial fun answer _ => ?_
    rcases answer with err | _ | session
    · exact meets_pure.2 trivial
    · exact meets_pure.2 trivial
    · exact record_meets ⟨session, mem_append_right _ (mem_singleton.2 rfl), rfl⟩
  refine withVolumeLock_meets fun past => ?_
  unfold publishUnderLock
  split
  · exact meets_pure.2 trivial
  · exact meets_pure.2 trivial
  split
  · exact meets_pure.2 trivial
  refine (free_meets_session (publishSharedFilesystemTarget_free (by rfl))
    (hmay past)).bind fun _ err _ => ?_
  cases err with
  | some err => exact meets_pure.2 trivial
  | none => exact (hupdate _).bind fun _ _ _ => meets_pure.2 trivial

theorem unstage_meets (req : NodeUnstageRequest) :
    (handleSharedFilesystemUnstage req).Meets (sessionContract (.unstage req))
      (fun _ _ => True) past := by
  refine withVolumeLock_meets fun past => ?_
  unfold unstageUnderLock
  split
  · exact meets_pure.2 trivial
  unfold mountCleanup
  simp only [meets_bind, meets_perform]
  refine ⟨trivial, fun err _ => ?_⟩
  cases err with
  | some err => exact meets_pure.2 (meets_pure.2 trivial)
  | none =>
    refine meets_pure.2 ?_
    exact .perform trivial fun _ _ => .perform trivial fun _ _ => meets_pure.2 trivial

theorem remove_meets (req : NodeUnpublishRequest) :
    (removeSharedFilesystemPublishedTarget req.volumeId req.targetPath).Meets
      (sessionContract (.unpublish req)) (fun _ _ => True) past := by
  unfold removeSharedFilesystemPublishedTarget
  split
  · exact meets_pure.2 trivial
  refine .perform trivial fun answer _ => ?_
  rcases answer with err | _ | session
  · exact meets_pure.2 trivial
  · exact meets_pure.2 trivial
  dsimp only
  split
  · exact .perform trivial fun _ _ => meets_pure.2 trivial
  · exact record_meets ⟨session, mem_append_right _ (mem_singleton.2 rfl), rfl⟩

theorem cleanupOrphaned_meets (req : NodeUnpublishRequest) :
    (cleanupOrphanedSharedFilesystemTargetOnUnpublish cfg req.volumeId req.targetPath).Meets
      (sessionContract (.unpublish req)) (fun _ _ => True) past := by
  unfold cleanupOrphanedSharedFilesystemTargetOnUnpublish
  dsimp only
  split
  · exact meets_pure.2 trivial
  refine (looks_meets_session (podUIDExists_looks _)).bind fun _ found _ => ?_
  split
  · exact meets_pure.2 trivial
  refine (looks_meets_session (stillUsable_looks _)).bind fun _ usable _ => ?_
  split
  · exact meets_pure.2 trivial
  · exact (remove_meets req).bind fun _ _ _ => .perform trivial fun _ _ => meets_pure.2 trivial

theorem unpublish_meets (req : NodeUnpublishRequest) :
    (nodeUnpublishVolume cfg req).Meets (sessionContract (.unpublish req))
      (fun _ _ => True) past := by
  unfold nodeUnpublishVolume
  split
  · exact meets_pure.2 trivial
  split
  · exact meets_pure.2 trivial
  refine .perform trivial fun err _ => ?_
  cases err with
  | none =>
    dsimp only
    split
    · exact (remove_meets req).bind fun _ _ _ => meets_pure.2 trivial
    · exact meets_pure.2 trivial
  | some err =>
    dsimp only
    split
    · refine (cleanupOrphaned_meets req).bind fun _ cleaned _ => ?_
      split <;> exact meets_pure.2 trivial
    · exact meets_pure.2 trivial

theorem Kind.meets_sessionContract (cfg : Config) (kind : Kind) :
    (kind.program cfg).Meets (sessionContract kind) (fun _ _ => True) [] := by
  cases kind with
  | stage req => exact stage_meets req
  | unstage req => exact unstage_meets req
  | publish req => exact publish_meets req
  | unpublish req => exact unpublish_meets req
  | disconnected volumeID =>
    exact (looks_meets_session (reportDisconnected_looks volumeID)).mono fun _ _ _ => trivial
  | periodicPass => exact periodicPass_meets
  | recoverQueuedVolume volumeID => exact recoverQueuedVolume_meets volumeID

end

end OpenNebulaCSI.Node
