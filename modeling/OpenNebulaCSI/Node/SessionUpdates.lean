import OpenNebulaCSI.Node.LocalDisk

/-!
# What calls do with the session of a local disk

Every writer of a session file loads it, changes it and saves it as a whole. `updateContract` says
what a call saves, compared with what it has loaded last: a publish adds its target, an unpublish
takes its target out, and a stage or a recovery saves the targets that it has found. A call for a
target is answered with success exactly if it has taken effect, provided that it can read the
session (`Kind.meets_updateContract`).
-/

namespace OpenNebulaCSI.Node.LocalDisk

open Go Concurrency Controller Program List

/-! ## Target lists -/

section Targets

variable {targets : List LocalDiskPublishedTarget} {target : LocalDiskPublishedTarget}
  {path : String}

theorem map_targetPath_replace :
    (targets.map fun existing =>
      if existing.targetPath = target.targetPath then target else existing).map (·.targetPath) =
        targets.map (·.targetPath) := by
  rw [map_map]
  refine map_congr_left fun existing _ => ?_
  show (if existing.targetPath = target.targetPath then target else existing).targetPath =
    existing.targetPath
  split
  · rename_i h
    exact h.symm
  · rfl

theorem mem_upsertTarget :
    path ∈ (upsertTarget targets target).map (·.targetPath) ↔
      path ∈ targets.map (·.targetPath) ∨ path = target.targetPath := by
  unfold upsertTarget
  dsimp only
  split
  · rename_i hany
    rw [map_targetPath_replace]
    have hmem : target.targetPath ∈ targets.map (·.targetPath) := by
      obtain ⟨existing, hexisting, hpath⟩ := any_eq_true.1 hany
      exact mem_map.2 ⟨existing, hexisting, of_decide_eq_true hpath⟩
    constructor
    · exact .inl
    · rintro (h | rfl)
      · exact h
      · exact hmem
  · rw [map_append, map_targetPath_replace, mem_append]
    simp

theorem mem_foldl_normalizeStep (normalized : List LocalDiskPublishedTarget) :
    path ∈ (targets.foldl normalizeStep normalized).map (·.targetPath) ↔
      path ∈ normalized.map (·.targetPath) ∨
        path ≠ "" ∧ ∃ target ∈ targets, trimSpace target.targetPath = path := by
  induction targets generalizing normalized with
  | nil => simp
  | cons first rest ih =>
    rw [foldl_cons, ih]
    -- A blank path is dropped; any other one is now among the paths.
    by_cases hblank : trimSpace first.targetPath = ""
    · have hstep : normalizeStep normalized first = normalized := by
        rw [normalizeStep, if_pos hblank]
      rw [hstep]
      refine or_congr_right (and_congr_right fun hne => ?_)
      simp only [mem_cons, exists_eq_or_imp, hblank, Ne.symm hne, false_or]
    · rw [normalizeStep, if_neg hblank, mem_upsertTarget, or_assoc]
      refine or_congr_right ?_
      simp only [mem_cons, exists_eq_or_imp]
      constructor
      · rintro (rfl | ⟨hne, htarget⟩)
        · exact ⟨hblank, .inl rfl⟩
        · exact ⟨hne, .inr htarget⟩
      · rintro ⟨hne, rfl | htarget⟩
        · exact .inl rfl
        · exact .inr ⟨hne, htarget⟩

theorem mem_normalizeLocalDiskPublishedTargets :
    path ∈ (normalizeLocalDiskPublishedTargets targets).map (·.targetPath) ↔
      path ≠ "" ∧ ∃ target ∈ targets, trimSpace target.targetPath = path := by
  rw [normalizeLocalDiskPublishedTargets, mem_foldl_normalizeStep]
  simp

/-- Paths in the form in which they are stored. -/
def TrimmedTargets (targets : List LocalDiskPublishedTarget) : Prop :=
  ∀ path ∈ targets.map (·.targetPath), trimSpace path = path ∧ path ≠ ""

theorem TrimmedTargets.upsertTarget (h : TrimmedTargets targets)
    (htrim : trimSpace target.targetPath = target.targetPath) (hne : target.targetPath ≠ "") :
    TrimmedTargets (upsertTarget targets target) := by
  intro path hpath
  rcases mem_upsertTarget.1 hpath with hold | rfl
  · exact h path hold
  · exact ⟨htrim, hne⟩

theorem mem_filter_targetPath {removed : String} :
    path ∈ (targets.filter fun target => target.targetPath ≠ removed).map (·.targetPath) ↔
      path ∈ targets.map (·.targetPath) ∧ path ≠ removed := by
  simp only [mem_map, mem_filter, decide_eq_true_eq]
  constructor
  · rintro ⟨target, ⟨htarget, hne⟩, rfl⟩
    exact ⟨⟨target, htarget, rfl⟩, hne⟩
  · rintro ⟨⟨target, htarget, rfl⟩, hne⟩
    exact ⟨target, ⟨htarget, hne⟩, rfl⟩

end Targets

namespace SessionStore

variable {store : SessionStore} {session found : LocalDiskSession} {volumeID path : String}

theorem load_eq_of_trimSpace_eq {other : String} (h : trimSpace volumeID = trimSpace other) :
    store.load volumeID = store.load other := by
  unfold load
  rw [h]

theorem targets_eq_of_trimSpace_eq {other : String} (h : trimSpace volumeID = trimSpace other) :
    store.targets volumeID = store.targets other := by
  unfold targets
  rw [load_eq_of_trimSpace_eq h]

theorem lookup_delete_of_ne {key : String} (hkey : key ≠ trimSpace volumeID) :
    (store.delete volumeID).lookup key = store.lookup key := by
  unfold delete
  induction store with
  | nil => rfl
  | cons entry rest ih =>
    obtain ⟨key', value⟩ := entry
    rw [filter_cons]
    by_cases hentry : key' = trimSpace volumeID
    · rw [if_neg (by simp [hentry]), ih, lookup_cons, beq_false_of_ne (hentry ▸ hkey)]
    · rw [if_pos (by simp [hentry]), lookup_cons, lookup_cons, ih]

theorem lookup_save (key : String) :
    (store.save session).lookup key =
      if key = trimSpace session.volumeID then some session.normalize else store.lookup key := by
  by_cases hkey : key = trimSpace session.volumeID
  · simp [save, hkey]
  · rw [save, lookup_cons, beq_false_of_ne hkey, if_neg hkey]
    exact lookup_delete_of_ne hkey

theorem mem_targets_save :
    path ∈ (store.save session).targets volumeID ↔
      if trimSpace volumeID = trimSpace session.volumeID then
        path ≠ "" ∧ ∃ target ∈ session.publishedTargets, trimSpace target.targetPath = path
      else path ∈ store.targets volumeID := by
  unfold targets load
  rw [lookup_save]
  split
  · show path ∈ (normalizeLocalDiskPublishedTargets
        (normalizeLocalDiskPublishedTargets session.publishedTargets)).map (·.targetPath) ↔ _
    -- The paths of a stored session are trimmed already.
    rw [mem_normalizeLocalDiskPublishedTargets]
    constructor
    · rintro ⟨hne, target, htarget, rfl⟩
      obtain ⟨-, original, horiginal, hpath⟩ := mem_normalizeLocalDiskPublishedTargets.1
        (mem_map.2 ⟨target, htarget, rfl⟩)
      exact ⟨hne, original, horiginal, by rw [← hpath, trimSpace_trimSpace]⟩
    · rintro ⟨hne, target, htarget, rfl⟩
      have hmem := mem_normalizeLocalDiskPublishedTargets.2 ⟨hne, target, htarget, rfl⟩
      obtain ⟨stored, hstored, hpath⟩ := mem_map.1 hmem
      exact ⟨hne, stored, hstored, by rw [hpath, trimSpace_trimSpace]⟩
  · rfl

theorem trimmed_of_load (h : store.load volumeID = some session) :
    TrimmedTargets session.publishedTargets := by
  obtain ⟨stored, -, rfl⟩ := Option.map_eq_some_iff.1 h
  intro path hpath
  obtain ⟨hne, original, -, rfl⟩ := mem_normalizeLocalDiskPublishedTargets.1 hpath
  exact ⟨trimSpace_trimSpace _, hne⟩

theorem mem_targets_of_load (h : store.load volumeID = some session) :
    path ∈ store.targets volumeID ↔ path ∈ session.publishedTargets.map (·.targetPath) := by
  rw [targets, h]
  rfl

theorem targets_eq_nil (h : store.load volumeID = none) : store.targets volumeID = [] := by
  rw [targets, h]
  rfl

theorem mem_targets_save_trimmed (h : TrimmedTargets session.publishedTargets) :
    path ∈ (store.save session).targets volumeID ↔
      if trimSpace volumeID = trimSpace session.volumeID then
        path ∈ session.publishedTargets.map (·.targetPath)
      else path ∈ store.targets volumeID := by
  rw [mem_targets_save]
  split
  · constructor
    · rintro ⟨-, target, htarget, rfl⟩
      have hmem : target.targetPath ∈ session.publishedTargets.map (·.targetPath) :=
        mem_map.2 ⟨target, htarget, rfl⟩
      rw [(h _ hmem).1]
      exact hmem
    · intro hpath
      obtain ⟨target, htarget, rfl⟩ := mem_map.1 hpath
      exact ⟨(h _ hpath).2, target, htarget, (h _ hpath).1⟩
  · rfl

theorem mem_targets_save_same
    (h : session.publishedTargets =
      ((store.load session.volumeID).map (·.publishedTargets)).getD []) :
    path ∈ (store.save session).targets volumeID ↔ path ∈ store.targets volumeID := by
  have htrimmed : TrimmedTargets session.publishedTargets := by
    rw [h]
    cases hload : store.load session.volumeID with
    | none => exact fun _ hpath => by cases hpath
    | some found => exact trimmed_of_load hload
  rw [mem_targets_save_trimmed htrimmed]
  split
  · rename_i hid
    rw [targets_eq_of_trimSpace_eq hid, h, targets]
    cases store.load session.volumeID with
    | none => rfl
    | some found => rfl
  · rfl

end SessionStore

/-! ## What a call does to its target -/

/-- The volume and the target path a call is about. -/
def Kind.target? : Kind → Option (String × String)
  | .publish req => some (trimSpace req.volumeId, req.targetPath)
  | .unpublish req => some (trimSpace req.volumeId, req.targetPath)
  | _ => none

/-- A publish takes effect with its save, an unpublish with its save or when there is no session. -/
def Kind.takesEffect : Kind → Event Op Op.Answer → Bool
  | .publish _, ⟨.saveSession _, _⟩ => true
  | .unpublish _, ⟨.saveSession _, _⟩ => true
  | .unpublish _, ⟨.loadSession _, .ok none⟩ => true
  | _, _ => false

def Op.isRespond : Op → Bool
  | .respond _ => true
  | _ => false

def affects (target : String × String) (kind : Kind) (event : Event Op Op.Answer) : Bool :=
  kind.target? = some target && kind.takesEffect event

/-- A call for the target is answered with success. -/
def completes (target : String × String) (kind : Kind) (event : Event Op Op.Answer) : Bool :=
  kind.target? = some target && event.op = .respond none

/-- The call has been started and has not been answered. -/
def inProgress (s : LocalDiskPool) (t : ℕ) : Bool :=
  t < s.threads.length && !(s.history t).any fun event => event.op.isRespond

/-! ## What the programs do with sessions -/

/-- The session a call has loaded. -/
def loaded : Event Op Op.Answer → Option (Option LocalDiskSession)
  | ⟨.loadSession _, .ok found⟩ => some found
  | _ => none

/-- The session a call has loaded last, if it has loaded any. -/
abbrev lastLoaded (past : History) : Option (Option LocalDiskSession) :=
  latest loaded past

/-- The target is a mount whose path has no blanks around it, of a volume whose id is not blank. -/
def Kind.listable : Kind → Bool
  | .publish req =>
    trimSpace req.volumeId ≠ "" && trimSpace req.targetPath = req.targetPath &&
      req.volumeCapability.all fun capability => capability.accessType ≠ .block
  | .unpublish req => trimSpace req.volumeId ≠ "" && trimSpace req.targetPath = req.targetPath
  | _ => true

/-- A publish that loads the session of its volume. -/
def Kind.publishes (volumeID : String) : Kind → Bool
  | .publish req => req.volumeId = volumeID
  | _ => false

/-- What a call saves, compared with what it has loaded. -/
def Kind.Saves (kind : Kind) (past : History) (session : LocalDiskSession) : Prop :=
  match kind with
  | .publish req => req.targetPath ≠ "" ∧ ∃ found, lastLoaded past = some (some found) ∧
      trimSpace found.volumeID = trimSpace req.volumeId ∧
      session = found.withTarget req.targetPath (bindOptions req.readonly)
  | .unpublish req => ∃ found, lastLoaded past = some (some found) ∧
      trimSpace found.volumeID = trimSpace req.volumeId ∧
      session = found.withoutTarget req.targetPath
  | .stage _ => ∃ found, lastLoaded past = some found ∧
      session.publishedTargets = (found.map (·.publishedTargets)).getD []
  | .volumeStats _ => ∃ found, lastLoaded past = some (some found) ∧
      session.volumeID = found.volumeID ∧ session.publishedTargets = found.publishedTargets
  | .unstage _ => True

/-- The call has not been answered. -/
def Unanswered (past : History) : Prop :=
  past.any (fun event => event.op.isRespond) = false

/-- A call for a target has taken effect if it is a success, and only then. -/
def Kind.Effective (kind : Kind) (past : History) (result : Option GoError) : Prop :=
  kind.target?.isSome = true → past.any kind.takesEffect = result.isNone

/-- Loads succeed, a publish finds the session of its volume, and a session is stored under its own
id. Then calls save what they have loaded but for their target, and they are answered once. -/
def updateContract (kind : Kind) : Contract Op Op.Answer where
  rely _ op ans :=
    match op, ans with
    | .loadSession _, .error _ => False
    | .loadSession volumeID, .ok none => kind.publishes volumeID = false
    | .loadSession volumeID, .ok (some session) => trimSpace session.volumeID = trimSpace volumeID
    | _, _ => True
  guar past op :=
    Unanswered past ∧
      match op with
      | .saveSession session => kind.Saves past session
      | .loadSession volumeID => ∀ req, kind = .unpublish req → volumeID = req.volumeId
      | .respond result => kind.Effective past result
      | .deleteSession _ => ∃ req, kind = .unstage req
      | _ => True

/-- The contract of a handler, which leaves the answer to its caller. -/
def handlerContract (kind : Kind) : Contract Op Op.Answer where
  rely := (updateContract kind).rely
  guar past op :=
    match op with
    | .saveSession session => kind.Saves past session
    | .loadSession volumeID => ∀ req, kind = .unpublish req → volumeID = req.volumeId
    | .respond _ => False
    | .deleteSession _ => ∃ req, kind = .unstage req
    | _ => True

section Programs

variable {kind : Kind} {past : History} {α : Type}

/-- The call is under way and has not taken effect. -/
def Kind.Pending (kind : Kind) (past : History) : Prop :=
  Unanswered past ∧ past.any kind.takesEffect = false

/-- An operation that has nothing to do with session files. -/
def Op.Plain : Op → Prop
  | .loadSession _ | .saveSession _ | .deleteSession _ | .respond _ => False
  | _ => True

/-- An operation that changes nothing about sessions. -/
def Op.Reads : Op → Prop
  | .saveSession _ | .deleteSession _ | .respond _ => False
  | _ => True

theorem Op.Plain.reads {op : Op} (h : op.Plain) : op.Reads := by
  cases op with
  | loadSession volumeID => trivial
  | saveSession session => exact h
  | deleteSession volumeID => exact h
  | respond result => exact h
  | _ => trivial

theorem Unanswered.append {event : Event Op Op.Answer} (h : Unanswered past)
    (hevent : event.op.isRespond = false) : Unanswered (past ++ [event]) := by
  unfold Unanswered at h ⊢
  rw [any_append, h]
  simpa using hevent

theorem meets_of_handler {p : Prog α} {post : History → α → Prop}
    (hp : p.Meets (handlerContract kind) post past) (hpast : Unanswered past) :
    p.Meets (updateContract kind)
      (fun later value => Unanswered later ∧ post later value) past := by
  refine hp.refine Unanswered hpast (fun _ _ _ _ hrely => hrely) ?_ ?_
  · intro h op hopen hguar
    refine ⟨hopen, ?_⟩
    cases op with
    | respond result => exact hguar.elim
    | _ => exact hguar
  · intro h op ans hopen hguar _
    refine hopen.append ?_
    cases op with
    | respond result => exact hguar.elim
    | _ => rfl

theorem Op.Reads.guar {op : Op} (h : op.Reads)
    (hkind : op.Plain ∨ ∀ req, kind ≠ .unpublish req) : (handlerContract kind).guar past op := by
  cases op with
  | loadSession volumeID =>
    intro req hreq
    rcases hkind with hplain | hne
    · exact hplain.elim
    · exact absurd hreq (hne req)
  | saveSession session => exact h.elim
  | deleteSession volumeID => exact h.elim
  | respond result => exact h.elim
  | _ => trivial

theorem Op.Reads.takesEffect {op : Op} (h : op.Reads) (ans : op.Answer)
    (hkind : op.Plain ∨ ∀ req, kind ≠ .unpublish req) : kind.takesEffect ⟨op, ans⟩ = false := by
  cases kind with
  | unpublish req =>
    cases op with
    | loadSession volumeID =>
      rcases hkind with hplain | hne
      · exact hplain.elim
      · exact absurd rfl (hne req)
    | saveSession session => exact h.elim
    | _ => rfl
  | publish req =>
    cases op with
    | saveSession session => exact h.elim
    | _ => rfl
  | _ => rfl

/-- The call has not taken effect. -/
abbrev Kind.Idle (kind : Kind) (past : History) : Prop :=
  past.any kind.takesEffect = false

theorem Kind.Idle.append {op : Op} {ans : op.Answer} (hpast : kind.Idle past) (h : op.Reads)
    (hkind : op.Plain ∨ ∀ req, kind ≠ .unpublish req) : kind.Idle (past ++ [⟨op, ans⟩]) := by
  rw [Kind.Idle, any_append, hpast]
  simpa using h.takesEffect ans hkind

theorem idle_of_reads {p : Prog α} (hp : p.Only Op.Reads) (hkind : ∀ req, kind ≠ .unpublish req)
    (hpast : kind.Idle past) :
    p.Meets (handlerContract kind) (fun later _ => kind.Idle later) past :=
  hp.meets hpast (fun _ _ hop _ => hop.guar (.inr hkind))
    fun _ _ _ hop hidle => hidle.append hop (.inr hkind)

theorem loaded_of_plain {p : Prog α} {found : Option LocalDiskSession} (hp : p.Only Op.Plain)
    (hloaded : lastLoaded past = some found) :
    p.Meets (handlerContract kind) (fun later _ => lastLoaded later = some found) past := by
  refine hp.meets hloaded (fun _ _ hop _ => hop.reads.guar (.inl hop)) ?_
  intro h op ans hop hfound
  have hnot : loaded ⟨op, ans⟩ = none := by
    cases op with
    | loadSession volumeID => exact hop.elim
    | _ => rfl
  rw [lastLoaded, latest_append_singleton, hnot]
  exact hfound

theorem lastLoaded_load (volumeID : String) (found : Option LocalDiskSession) :
    lastLoaded (past ++ [⟨.loadSession volumeID, .ok found⟩]) = some found :=
  latest_append_singleton _ _ _

theorem lastLoaded_now (now : Int) : lastLoaded (past ++ [⟨.now, now⟩]) = lastLoaded past :=
  latest_append_singleton _ _ _

/-! ### Subroutines -/

theorem evaluateSerial_reads (volumeID : String) (mountPoint : MountPoint) :
    (evaluateSerial volumeID mountPoint).Only Op.Reads := by
  unfold evaluateSerial
  dsimp only
  refine Only.perform trivial fun answer => ?_
  split
  · split
    · exact only_pure
    · refine Only.perform trivial fun agrees => ?_
      split <;> exact only_pure
  · exact only_pure

theorem evaluateLocalDiskPath_reads (volumeID path : String) :
    (evaluateLocalDiskPath volumeID path).Only Op.Reads := by
  have hmount : ∀ mountPoint, (evaluateMount volumeID mountPoint).Only Op.Reads := by
    intro mountPoint
    unfold evaluateMount
    split
    · exact only_pure
    split
    · refine Only.perform trivial fun answer => ?_
      cases answer with
      | error err =>
        dsimp only
        split <;> exact only_pure
      | ok directory =>
        exact Only.bind (evaluateSerial_reads volumeID mountPoint) fun _ => only_pure
    · exact only_pure
  unfold evaluateLocalDiskPath
  split
  · exact only_pure
  refine Only.perform trivial fun answer => ?_
  cases answer with
  | error err =>
    dsimp only
    split <;> exact only_pure
  | ok directory => ?_
  refine Only.perform trivial fun answer => ?_
  cases answer with
  | error err => exact only_pure
  | ok mountPoints => ?_
  dsimp only
  split
  · exact only_pure
  · exact hmount _

theorem handleMountVolumePublish_reads (stagingPath targetPath : String) (flags : List String)
    (fsType : String) (options : List String) :
    (handleMountVolumePublish stagingPath targetPath flags fsType options).Only Op.Reads := by
  unfold handleMountVolumePublish
  refine Only.perform trivial fun answer => ?_
  cases answer with
  | error err => exact only_pure
  | ok mountPoints => ?_
  dsimp only
  split
  · refine Only.bind (evaluateLocalDiskPath_reads "" targetPath) fun health => ?_
    split
    · split <;> exact only_pure
    · exact only_pure
  · refine Only.perform trivial fun err => ?_
    split <;> exact only_pure

theorem activeTarget?_plain (cfg : Config) (targets : List LocalDiskPublishedTarget) :
    (activeTarget? cfg targets).Only Op.Plain := by
  have hpod : ∀ uid, (podUIDExists cfg uid).Only Op.Plain := by
    intro uid
    unfold podUIDExists
    split
    · exact only_pure
    · refine Only.perform trivial fun answer => ?_
      split <;> exact only_pure
  induction targets with
  | nil => exact only_pure
  | cons target rest ih =>
    unfold activeTarget?
    dsimp only
    split
    · exact ih
    refine Only.bind (hpod _) fun found => ?_
    split
    · exact only_pure
    · exact ih

theorem resolveLocalDiskRecoveryDevice_plain (session : LocalDiskSession) :
    (resolveLocalDiskRecoveryDevice session).Only Op.Plain := by
  unfold resolveLocalDiskRecoveryDevice
  dsimp only
  refine Only.perform trivial fun answer => ?_
  cases answer with
  | error err => exact only_pure
  | ok devicePath => ?_
  dsimp only
  split
  · exact only_pure
  · refine Only.perform trivial fun agrees => ?_
    split <;> exact only_pure

theorem cleanupTargets_plain (targets : List LocalDiskPublishedTarget) :
    (cleanupTargets targets).Only Op.Plain := by
  induction targets with
  | nil => exact only_pure
  | cons target rest ih =>
    refine Only.perform trivial fun err => ?_
    cases err with
    | some err => exact only_pure
    | none => exact ih

theorem rebindTargets_plain (stagingTargetPath : String) (targets : List LocalDiskPublishedTarget) :
    (rebindTargets stagingTargetPath targets).Only Op.Plain := by
  induction targets with
  | nil => exact only_pure
  | cons target rest ih =>
    refine Only.perform trivial fun err => ?_
    cases err with
    | some err => exact only_pure
    | none => ?_
    refine Only.perform trivial fun err => ?_
    cases err with
    | some err => exact only_pure
    | none => exact ih

theorem remountStage_plain (session : LocalDiskSession) (devicePath : String) :
    (remountStage session devicePath).Only Op.Plain := by
  unfold remountStage
  refine Only.bind (cleanupTargets_plain _) fun err => ?_
  cases err with
  | some err => exact only_pure
  | none => ?_
  refine Only.perform trivial fun err => ?_
  cases err with
  | some err => exact only_pure
  | none => ?_
  refine Only.perform trivial fun err => ?_
  cases err with
  | some err => exact only_pure
  | none => ?_
  refine Only.perform trivial fun err => ?_
  cases err with
  | some err => exact only_pure
  | none => exact rebindTargets_plain _ _

/-! ### Requests -/

theorem recordLocalDiskSession_meets {session : LocalDiskSession}
    (hsaves : kind.Saves past session) :
    (recordLocalDiskSession session).Meets (handlerContract kind)
      (fun later _ => ∃ ans, later = past ++ [⟨.saveSession session, ans⟩]) past := by
  unfold recordLocalDiskSession
  exact .perform hsaves fun ans _ => meets_pure.2 ⟨ans, rfl⟩

section Stage

variable {req : NodeStageRequest} {capability : VolumeCapability} {devicePath : String}

theorem recordLocalDiskStageSession_meets {fsType : String} {mountOptions : List String} :
    (recordLocalDiskStageSession req devicePath fsType mountOptions).Meets
      (handlerContract (.stage req)) (fun _ _ => True) past := by
  unfold recordLocalDiskStageSession
  dsimp only
  refine .perform (fun _ h => by cases h) fun answer hanswer => ?_
  have hsave : ∀ found session, answer = .ok found →
      session.publishedTargets = (found.map (·.publishedTargets)).getD [] →
      (recordLocalDiskSession session).Meets (handlerContract (.stage req))
        (fun _ _ => True) (past ++ [⟨.loadSession req.volumeId, answer⟩]) := by
    rintro found session rfl htargets
    have hsaves : (Kind.stage req).Saves (past ++ [⟨.loadSession req.volumeId, .ok found⟩])
        session :=
      ⟨found, lastLoaded_load _ _, htargets⟩
    exact (recordLocalDiskSession_meets hsaves).mono fun _ _ _ => trivial
  rcases answer with err | _ | existing
  · exact hanswer.elim
  · exact hsave none _ rfl rfl
  · exact hsave (some existing) _ rfl rfl

theorem mountStage_meets :
    (mountStage req capability devicePath).Meets (handlerContract (.stage req))
      (fun _ _ => True) past := by
  unfold mountStage
  refine .perform trivial fun err _ => ?_
  cases err with
  | some err => exact .perform trivial fun _ _ => meets_pure.2 trivial
  | none => exact recordLocalDiskStageSession_meets.bind fun _ _ _ =>
      meets_pure.2 trivial

theorem stageUnmounted_meets :
    (stageUnmounted req capability devicePath).Meets (handlerContract (.stage req))
      (fun _ _ => True) past := by
  unfold stageUnmounted
  split
  · exact meets_pure.2 trivial
  refine .perform trivial fun answer _ => ?_
  cases answer with
  | ok directory => exact mountStage_meets
  | error err => ?_
  dsimp only
  split
  · refine .perform trivial fun err _ => ?_
    cases err with
    | some err => exact meets_pure.2 trivial
    | none => exact mountStage_meets
  · exact mountStage_meets

theorem stageOverMount_meets (cfg : Config) {mounted : MountPoint} :
    (stageOverMount cfg req capability devicePath mounted).Meets (handlerContract (.stage req))
      (fun _ _ => True) past := by
  have hidle : (Kind.stage req).Idle past := by simp [Kind.takesEffect]
  unfold stageOverMount
  refine (idle_of_reads (evaluateLocalDiskPath_reads _ _)
    (fun _ h => by cases h) hidle).bind fun later health _ => ?_
  cases health with
  | error err => exact meets_pure.2 trivial
  | ok health => ?_
  dsimp only
  split
  · split
    · exact meets_pure.2 trivial
    refine .perform trivial fun err _ => ?_
    cases err with
    | some err => exact meets_pure.2 trivial
    | none => exact stageUnmounted_meets
  · split
    · exact meets_pure.2 trivial
    · exact recordLocalDiskStageSession_meets.bind fun _ _ _ => meets_pure.2 trivial

theorem nodeStageVolume_meets (cfg : Config) :
    (nodeStageVolume cfg req).Meets (handlerContract (.stage req)) (fun _ _ => True) past := by
  unfold nodeStageVolume
  split
  · exact meets_pure.2 trivial
  split
  · exact meets_pure.2 trivial
  cases req.volumeCapability with
  | none => exact meets_pure.2 trivial
  | some capability => ?_
  dsimp only
  split
  · exact meets_pure.2 trivial
  split
  · exact meets_pure.2 trivial
  refine .perform trivial fun answer _ => ?_
  cases answer with
  | error err => exact meets_pure.2 trivial
  | ok devicePath => ?_
  unfold stageDevice
  dsimp only
  split
  · exact meets_pure.2 trivial
  refine .perform trivial fun answer _ => ?_
  cases answer with
  | error err => exact meets_pure.2 trivial
  | ok mountPoints => ?_
  dsimp only
  split
  · exact stageOverMount_meets cfg
  · exact stageUnmounted_meets

end Stage

/-- A publish finds a session, since it may rely on that, and saves it with its target. -/
theorem updateLocalDiskPublishedTarget_meets {req : NodePublishRequest}
    (hblank : trimSpace req.volumeId ≠ "") (htarget : req.targetPath ≠ "") :
    (updateLocalDiskPublishedTarget req.volumeId req.targetPath (bindOptions req.readonly)).Meets
      (handlerContract (.publish req))
      (fun later _ => later.any (Kind.publish req).takesEffect = true) past := by
  unfold updateLocalDiskPublishedTarget
  rw [if_neg hblank]
  refine .perform (fun _ h => by cases h) fun answer hanswer => ?_
  rcases answer with err | _ | session
  · exact hanswer.elim
  · have hfound : (Kind.publish req).publishes req.volumeId = false := hanswer
    simp [Kind.publishes] at hfound
  have hsaves : (Kind.publish req).Saves (past ++ [⟨.loadSession req.volumeId, .ok (some session)⟩])
      (session.withTarget req.targetPath (bindOptions req.readonly)) :=
    ⟨htarget, session, lastLoaded_load _ _, hanswer, rfl⟩
  refine (recordLocalDiskSession_meets hsaves).mono ?_
  rintro later _ ⟨ans, rfl⟩
  simp [Kind.takesEffect]

theorem Kind.Idle.effective {err : GoError} (h : kind.Idle past) :
    kind.Effective past (some err) :=
  fun _ => h

theorem publishTarget_meets {req : NodePublishRequest} {capability : VolumeCapability}
    (hblank : trimSpace req.volumeId ≠ "") (htarget : req.targetPath ≠ "")
    (hblock : capability.accessType ≠ .block) (hpast : (Kind.publish req).Idle past) :
    (publishTarget req capability).Meets (handlerContract (.publish req))
      (Kind.publish req).Effective past := by
  unfold publishTarget
  split
  · rename_i hisBlock
    exact absurd hisBlock hblock
  · refine (idle_of_reads (handleMountVolumePublish_reads _ _ _ _ _)
      (fun _ h => by cases h) hpast).bind fun later err hlater => ?_
    cases err with
    | some err => exact meets_pure.2 hlater.effective
    | none => ?_
    refine (updateLocalDiskPublishedTarget_meets hblank htarget).bind ?_
    exact fun _ _ heffect => meets_pure.2 fun _ => heffect
  · exact meets_pure.2 hpast.effective

theorem nodePublishVolume_meets {req : NodePublishRequest}
    (hlistable : (Kind.publish req).listable = true) (hpast : (Kind.publish req).Idle past) :
    (nodePublishVolume req).Meets (handlerContract (.publish req))
      (Kind.publish req).Effective past := by
  simp only [Kind.listable, Bool.and_eq_true, decide_eq_true_eq] at hlistable
  obtain ⟨⟨hblank, -⟩, hblock⟩ := hlistable
  unfold nodePublishVolume
  split
  · exact meets_pure.2 hpast.effective
  split
  · exact meets_pure.2 hpast.effective
  split
  · exact meets_pure.2 hpast.effective
  rename_i htarget
  cases hcapability : req.volumeCapability with
  | none => exact meets_pure.2 hpast.effective
  | some capability => ?_
  have hmount : capability.accessType ≠ .block := by
    simpa [hcapability] using hblock
  dsimp only
  split
  · exact meets_pure.2 hpast.effective
  simp only [meets_bind, meets_perform]
  have hquiet : ∀ req', Kind.publish req ≠ .unpublish req' := fun _ h => by cases h
  refine ⟨trivial, fun answer _ => ?_⟩
  have hstat : (Kind.publish req).Idle (past ++ [⟨.stat _, answer⟩]) :=
    hpast.append trivial (.inr hquiet)
  cases answer with
  | ok directory => exact publishTarget_meets hblank htarget hmount hstat
  | error err => ?_
  dsimp only
  split
  · refine .perform trivial fun err _ => ?_
    have hmkdir : (Kind.publish req).Idle (past ++ [⟨.stat _, _⟩] ++ [⟨.mkdirAll _, err⟩]) :=
      hstat.append trivial (.inr hquiet)
    cases err with
    | some err => exact meets_pure.2 hmkdir.effective
    | none => exact publishTarget_meets hblank htarget hmount hmkdir
  · exact publishTarget_meets hblank htarget hmount hstat

theorem nodeUnpublishVolume_meets {req : NodeUnpublishRequest}
    (hlistable : (Kind.unpublish req).listable = true) (hpast : (Kind.unpublish req).Idle past) :
    (nodeUnpublishVolume req).Meets (handlerContract (.unpublish req))
      (Kind.unpublish req).Effective past := by
  simp only [Kind.listable, Bool.and_eq_true, decide_eq_true_eq] at hlistable
  unfold nodeUnpublishVolume
  split
  · exact meets_pure.2 hpast.effective
  split
  · exact meets_pure.2 hpast.effective
  refine .perform trivial fun err _ => ?_
  have hcleaned : (Kind.unpublish req).Idle (past ++ [⟨.cleanupMountPoint _, err⟩]) :=
    hpast.append trivial (.inl trivial)
  cases err with
  | some err => exact meets_pure.2 hcleaned.effective
  | none => ?_
  unfold removeLocalDiskPublishedTarget
  rw [if_neg hlistable.1]
  simp only [meets_bind, meets_perform]
  refine ⟨?_, fun answer hanswer => ?_⟩
  · rintro req' ⟨⟩
    rfl
  · rcases answer with err | _ | session
    · exact hanswer.elim
    · exact meets_pure.2 (meets_pure.2 fun _ => by simp [Kind.takesEffect])
    have hsaves : (Kind.unpublish req).Saves (past ++ [⟨.cleanupMountPoint req.targetPath, none⟩] ++
          [⟨.loadSession req.volumeId, .ok (some session)⟩])
        (session.withoutTarget req.targetPath) :=
      ⟨session, lastLoaded_load _ _, hanswer, rfl⟩
    refine (recordLocalDiskSession_meets hsaves).mono ?_
    rintro later _ ⟨ans, rfl⟩
    exact meets_pure.2 fun _ => by simp [Kind.takesEffect]

variable {req : NodeGetVolumeStatsRequest}

section Recovery

variable {session : LocalDiskSession} (hloaded : lastLoaded past = some (some session))

include hloaded

theorem recordRecovery_meets {saved : LocalDiskSession} (now : Int)
    (hid : saved.volumeID = session.volumeID)
    (htargets : saved.publishedTargets = session.publishedTargets) :
    (recordLocalDiskSession saved).Meets (handlerContract (.volumeStats req))
      (fun _ _ => True) (past ++ [⟨.now, now⟩]) := by
  have hsaves : (Kind.volumeStats req).Saves (past ++ [⟨.now, now⟩]) saved :=
    ⟨session, (lastLoaded_now now).trans hloaded, hid, htargets⟩
  exact (recordLocalDiskSession_meets hsaves).mono fun _ _ _ => trivial

theorem recordLocalDiskRecoveryFailure_meets {err : GoError} :
    (recordLocalDiskRecoveryFailure session err).Meets (handlerContract (.volumeStats req))
      (fun _ _ => True) past := by
  unfold recordLocalDiskRecoveryFailure
  refine .perform trivial fun now _ => meets_bind.2 ?_
  exact (recordRecovery_meets hloaded now (by rfl) (by rfl)).mono fun _ _ _ => meets_pure.2 trivial

theorem attemptRecovery_meets :
    (attemptRecovery session).Meets (handlerContract (.volumeStats req))
      (fun _ _ => True) past := by
  unfold attemptRecovery
  refine (loaded_of_plain (resolveLocalDiskRecoveryDevice_plain session)
    hloaded).bind fun later device hlater => ?_
  cases device with
  | error err => exact recordLocalDiskRecoveryFailure_meets hlater
  | ok devicePath => ?_
  refine (loaded_of_plain (remountStage_plain session devicePath) hlater).bind
    fun later err hlater => ?_
  cases err with
  | some err => exact recordLocalDiskRecoveryFailure_meets hlater
  | none => ?_
  refine .perform trivial fun now _ => meets_bind.2 ?_
  exact (recordRecovery_meets hlater now (by rfl) (by rfl)).mono fun _ _ _ => meets_pure.2 trivial

theorem recoverWithinLimits_meets (cfg : Config) :
    (recoverWithinLimits cfg session).Meets (handlerContract (.volumeStats req))
      (fun _ _ => True) past := by
  unfold recoverWithinLimits
  split
  · exact meets_pure.2 trivial
  split
  · split
    · exact attemptRecovery_meets hloaded
    refine .perform trivial fun now _ => ?_
    dsimp only
    split
    · exact meets_pure.2 trivial
    · exact attemptRecovery_meets ((lastLoaded_now now).trans hloaded)
  · exact attemptRecovery_meets hloaded

theorem recoverLocalDiskSession_meets (cfg : Config) :
    (recoverLocalDiskSession cfg session).Meets (handlerContract (.volumeStats req))
      (fun _ _ => True) past := by
  unfold recoverLocalDiskSession
  split
  · exact meets_pure.2 trivial
  split
  · exact recoverWithinLimits_meets hloaded cfg
  refine (loaded_of_plain (activeTarget?_plain cfg _) hloaded).bind fun later active hlater => ?_
  cases active with
  | some targetPath => exact meets_pure.2 trivial
  | none => exact recoverWithinLimits_meets hlater cfg

end Recovery

theorem handleStaleLocalDiskPath_meets (cfg : Config) (volumeID volumePath : String)
    (cause : PathError) :
    (handleStaleLocalDiskPath cfg volumeID volumePath cause).Meets
      (handlerContract (.volumeStats req)) (fun _ _ => True) past := by
  unfold handleStaleLocalDiskPath
  dsimp only
  refine .perform (fun _ h => by cases h) fun answer _ => ?_
  split
  · split
    · exact meets_pure.2 trivial
    refine (recoverLocalDiskSession_meets (lastLoaded_load _ _) cfg).bind fun _ err _ => ?_
    cases err with
    | some err => exact meets_pure.2 trivial
    | none => exact meets_pure.2 trivial
  · exact meets_pure.2 trivial

theorem nodeGetVolumeStats_meets (cfg : Config) :
    (nodeGetVolumeStats cfg req).Meets (handlerContract (.volumeStats req))
      (fun _ _ => True) past := by
  unfold nodeGetVolumeStats
  split
  · exact meets_pure.2 trivial
  split
  · exact meets_pure.2 trivial
  refine .perform trivial fun answer _ => ?_
  rcases answer with err | _ | _
  · dsimp only
    split
    · exact meets_pure.2 trivial
    split
    · exact handleStaleLocalDiskPath_meets cfg _ _ _
    · exact meets_pure.2 trivial
  · refine .perform trivial fun err _ => ?_
    cases err with
    | some err => exact meets_pure.2 trivial
    | none => exact meets_pure.2 trivial
  · refine .perform trivial fun err _ => ?_
    cases err with
    | none => exact meets_pure.2 trivial
    | some err => ?_
    dsimp only
    split
    · exact handleStaleLocalDiskPath_meets cfg _ _ _
    · exact meets_pure.2 trivial

/-- What the handler of a call for a target leaves. -/
abbrev Kind.Answers (kind : Kind) (later : History) (result : Option GoError) : Prop :=
  Unanswered later ∧ kind.Effective later result

theorem Kind.Pending.handler_meets (hpast : kind.Pending past) (cfg : Config)
    (hlistable : kind.listable = true) (hunstage : ∀ req, kind ≠ .unstage req) :
    (kind.handler cfg).Meets (updateContract kind) kind.Answers past := by
  refine meets_of_handler ?_ hpast.1
  cases kind with
  | stage req => exact (nodeStageVolume_meets cfg).mono fun _ _ _ htarget => by cases htarget
  | unstage req => exact absurd rfl (hunstage req)
  | publish req => exact nodePublishVolume_meets hlistable hpast.2
  | unpublish req => exact nodeUnpublishVolume_meets hlistable hpast.2
  | volumeStats req =>
    exact (nodeGetVolumeStats_meets cfg).mono fun _ _ _ htarget => by cases htarget

theorem Kind.meets_updateContract (cfg : Config) (hlistable : kind.listable = true)
    (hunstage : ∀ req, kind ≠ .unstage req) :
    (kind.program cfg).Meets (updateContract kind) (fun _ _ => True) [] := by
  have hpending : kind.Pending [] := ⟨rfl, rfl⟩
  unfold Kind.program
  refine (hpending.handler_meets cfg hlistable hunstage).bind fun later result hanswers => ?_
  exact .perform hanswers fun _ _ => meets_pure.2 trivial

end Programs

end OpenNebulaCSI.Node.LocalDisk
