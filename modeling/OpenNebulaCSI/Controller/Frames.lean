import OpenNebulaCSI.Controller.Handlers

/-!
# Which operations the controller's subroutines call

Most subroutines only ask the outside world and read or write sticky entries. They are `Plain`:
they touch no lock, no response variable and no part of the queue, so whatever is said about those
passes through them by the frame rule `Program.Only.meets`. The attach itself also writes the
response variable of its request.

All requests but an expansion have the same shape: they run without locks until they hand at most
one function to the hotplug queue, and without locks after it. `QueueClient` is this shape; what
holds of `withQueuedHotplug` and of programs without locks is carried to every request by induction
on it.
-/

namespace OpenNebulaCSI.Controller

open Go Concurrency Program

/-- Queries and operations on sticky entries. -/
def Op.Plain : Op → Prop
  | .query _ | .stickyGet _ _ | .stickySwap _ _ | .stickyDelete _ => True
  | _ => False

/-- A program that only queries and works on sticky entries. -/
abbrev PlainProgram {α : Type} (p : Prog α) : Prop :=
  p.Only Op.Plain

/-- The volume and the node of an attach or a detach. -/
def Query.hotplug : Query → Option (String × String)
  | .attachVolume volume node _ _ | .detachVolume volume node => some (volume, node)
  | _ => none

/-- Plain operations other than attaching and detaching. -/
def Op.Still : Op → Prop
  | .query q => q.hotplug = none
  | op => op.Plain

/-- A plain program that attaches and detaches nothing. -/
abbrev StillProgram {α : Type} (p : Prog α) : Prop :=
  p.Only Op.Still

/-- Plain operations that attach and detach at most this volume at this node. -/
def Op.Hotplug (volume node : String) : Op → Prop
  | .query q => ∀ target, q.hotplug = some target → target = (volume, node)
  | op => op.Plain

variable {op : Op}

theorem Op.Still.hotplug (h : op.Still) (volume node : String) : op.Hotplug volume node := by
  cases op with
  | query q =>
    intro target htarget
    rw [show q.hotplug = none from h] at htarget
    cases htarget
  | _ => exact h

variable {volume node : String}

theorem Op.Hotplug.plain (h : op.Hotplug volume node) : op.Plain := by
  cases op with
  | query q => trivial
  | _ => exact h

theorem Op.Still.plain (h : op.Still) : op.Plain :=
  (h.hotplug "" "").plain

variable {α : Type} {p : Prog α}

theorem plain_of_still (hp : StillProgram p) : PlainProgram p :=
  hp.mono fun _ h => h.plain

theorem hotplug_of_still (hp : StillProgram p) : p.Only (Op.Hotplug volume node) :=
  hp.mono fun _ h => h.hotplug volume node

theorem still_query (q : Query) (h : q.hotplug = none) : StillProgram (query q) :=
  only_perform.2 h

theorem hotplug_attach (volume node : String) (immutable : Bool) (params : StringMap) :
    (query (.attachVolume volume node immutable params)).Only (Op.Hotplug volume node) :=
  only_perform.2 fun _ h => (Option.some.inj h).symm

theorem hotplug_detach (volume node : String) :
    (query (.detachVolume volume node)).Only (Op.Hotplug volume node) :=
  only_perform.2 fun _ h => (Option.some.inj h).symm

theorem still_startGrace (state : StickyAttachmentState) : StillProgram (startGrace state) := by
  unfold startGrace
  split
  · exact only_pure
  refine .perform trivial fun _ => Only.perform rfl fun answer => ?_
  cases answer with
  | none => exact only_pure
  | some err => exact .perform trivial fun _ => only_pure

theorem still_stickyClear (volume : String) : StillProgram (stickyClear volume) := by
  unfold stickyClear
  split
  · exact only_pure
  · exact .perform trivial fun _ => still_query _ rfl

theorem still_stickyUpdate (state : StickyAttachmentState) : StillProgram (stickyUpdate state) := by
  unfold stickyUpdate
  split
  · exact only_pure
  refine .perform trivial fun previous => Only.perform rfl fun answer => ?_
  cases answer with
  | none => exact only_pure
  | some err => ?_
  cases previous with
  | none => exact .perform trivial fun _ => only_pure
  | some entry => exact .perform trivial fun _ => only_pure

theorem still_deferStickyDetach (state : StickyAttachmentState) :
    StillProgram (deferStickyDetach state) :=
  Only.perform rfl fun _ => (still_stickyUpdate _).bind fun _ => only_pure

theorem still_clearStickyReuseState (volume node : String) :
    StillProgram (clearStickyReuseState volume node) := by
  refine .perform trivial fun entry => ?_
  cases entry with
  | none => exact only_pure
  | some state => ?_
  simp only
  split
  · exact only_pure
  · exact (still_stickyClear _).bind fun _ => only_pure

theorem still_resolveNames (cfg : Config) (volume : String) (ctx : StringMap) :
    StillProgram (resolveNames cfg volume ctx) := by
  unfold resolveNames
  split
  · refine .perform rfl fun answer => ?_
    cases answer <;> exact only_pure
  · exact only_pure

theorem still_addTimeouts (volume : String) (timeout : Int) (ctx : StringMap) :
    StillProgram (addTimeouts volume timeout ctx) := by
  refine .perform rfl fun answer => ?_
  cases answer with
  | error err => exact only_pure
  | ok size => ?_
  refine .perform rfl fun hotplugTimeout => ?_
  split
  · exact .perform rfl fun _ => only_pure
  · exact only_pure

theorem still_publishContextForVolume (cfg : Config) (volume target : String) (timeout : Int)
    (source : StringMap) :
    StillProgram (publishContextForVolume cfg volume target timeout source) :=
  Only.perform rfl fun _ => (still_resolveNames _ _ _).bind fun _ => still_addTimeouts _ _ _

theorem still_clearForPublish (volume : String) : StillProgram (clearForPublish volume) := by
  refine (still_stickyClear _).bind fun answer => ?_
  cases answer <;> exact only_pure

theorem still_absentFromNode (volumeID : Int) (node : String) :
    StillProgram (absentFromNode volumeID node) := by
  refine .perform rfl fun answer => ?_
  cases answer with
  | error err => exact only_pure
  | ok nodeID => ?_
  simp only
  split
  · exact only_pure
  · refine .perform rfl fun answer => ?_
    cases answer <;> exact only_pure

theorem hotplug_leaveOldNode (req : PublishRequest) (volumeID : Int)
    (state : StickyAttachmentState) :
    (leaveOldNode req volumeID state).Only (Op.Hotplug req.volumeId state.nodeID) := by
  refine .perform nofun fun cooldown => ?_
  cases cooldown with
  | some cooldown => exact only_pure
  | none => ?_
  refine .perform nofun fun desired => ?_
  split
  · exact only_pure
  refine (hotplug_of_still (still_absentFromNode _ _)).bind fun absent => ?_
  split
  · exact hotplug_of_still (still_clearForPublish _)
  refine (hotplug_detach _ _).bind fun answer => ?_
  cases answer with
  | none => exact hotplug_of_still (still_clearForPublish _)
  | some err =>
    refine .perform nofun fun drift => ?_
    cases drift <;> exact only_pure

theorem still_nodeReadyForHold (cfg : Config) (node : String) :
    StillProgram (nodeReadyForHold cfg node) := by
  unfold nodeReadyForHold
  split
  · refine .perform rfl fun ready => ?_
    split
    · refine .perform rfl fun vmReady => ?_
      split <;> exact only_pure
    · exact only_pure
  · exact only_pure

theorem still_shouldDelayDetach (cfg : Config) (req : UnpublishRequest) :
    StillProgram (shouldDelayDetach cfg req) := by
  unfold shouldDelayDetach
  split
  · exact only_pure
  split
  · exact only_pure
  refine .perform rfl fun answer => ?_
  cases answer with
  | error err => exact only_pure
  | ok runtimeCtx => ?_
  simp only
  split
  · exact only_pure
  refine .perform rfl fun cooldown => ?_
  cases cooldown with
  | some cooldown => exact only_pure
  | none => ?_
  refine (still_nodeReadyForHold _ _).bind fun refusal => ?_
  cases refusal with
  | some reason => exact only_pure
  | none => exact .perform rfl fun _ => Only.perform rfl fun _ => only_pure

theorem hotplug_detachForUnpublish (req : UnpublishRequest) :
    (detachForUnpublish req).Only (Op.Hotplug req.volumeId req.nodeId) := by
  refine (hotplug_detach _ _).bind fun answer => ?_
  cases answer with
  | none => exact only_pure
  | some err =>
    refine .perform nofun fun drift => ?_
    cases drift <;> exact only_pure

theorem still_lookupAttachment (volume node : String) :
    StillProgram (lookupAttachment volume node) := by
  refine .perform rfl fun volumeID => Only.perform rfl fun nodeID => ?_
  split
  · split
    · refine .perform rfl fun answer => ?_
      cases answer <;> exact only_pure
    · exact only_pure
  · exact only_pure

theorem hotplug_detachExpired (state : StickyAttachmentState) :
    (detachExpired state).Only (Op.Hotplug state.volumeID state.nodeID) := by
  refine (hotplug_of_still (still_lookupAttachment _ _)).bind fun attached => ?_
  split
  · exact hotplug_of_still (still_stickyClear _)
  refine (hotplug_detach _ _).bind fun answer => ?_
  cases answer with
  | none => exact hotplug_of_still (still_stickyClear _)
  | some err =>
    refine .perform nofun fun drift => ?_
    cases drift <;> exact only_pure

theorem hotplug_reattach (report : LocalDeviceMissingReport) (runtimeCtx : RuntimeContext)
    (volumeID nodeID : Int) :
    (reattach report runtimeCtx volumeID nodeID).Only
      (Op.Hotplug (trimSpace report.volumeID) (trimSpace report.node)) := by
  refine (hotplug_attach _ _ _ _).bind fun answer => ?_
  cases answer with
  | some err => exact only_pure
  | none => ?_
  refine .perform nofun fun answer => ?_
  cases answer with
  | error err => exact only_pure
  | ok target =>
    exact (hotplug_of_still (still_clearStickyReuseState _ _)).bind fun _ => only_pure

/-! ## Queued functions below their locks -/

theorem hotplug_unpublishUnderLocks (cfg : Config) (req : UnpublishRequest)
    (volumeID nodeID : Int) :
    (unpublishUnderLocks cfg req volumeID nodeID).Only (Op.Hotplug req.volumeId req.nodeId) := by
  refine .perform nofun fun answer => ?_
  cases answer with
  | error err => exact only_pure
  | ok target => ?_
  refine (hotplug_of_still (still_shouldDelayDetach _ _)).bind fun decision => ?_
  cases decision with
  | error reason => exact hotplug_detachForUnpublish _
  | ok state => ?_
  refine (hotplug_of_still (still_startGrace _)).bind fun answer => ?_
  cases answer with
  | none => exact only_pure
  | some err => exact hotplug_detachForUnpublish _

/-- The reaper once it has read the entry again: it detaches at most the volume and the node of
that entry. -/
theorem hotplug_expireConfirmed (confirmed : StickyAttachmentState) :
    (expireConfirmed confirmed).Only (Op.Hotplug confirmed.volumeID confirmed.nodeID) := by
  refine .perform nofun fun now => ?_
  split
  · exact only_pure
  refine .perform nofun fun cooldown => ?_
  cases cooldown with
  | some cooldown =>
    exact (hotplug_of_still (still_deferStickyDetach _)).bind fun _ => only_pure
  | none => ?_
  refine .perform nofun fun desired => ?_
  split
  · refine (hotplug_of_still (still_lookupAttachment _ _)).bind fun attached => ?_
    split
    · exact hotplug_of_still (still_stickyClear _)
    · exact hotplug_detachExpired _
  · exact hotplug_detachExpired _

theorem plain_expireUnderLocks (current : StickyAttachmentState) :
    PlainProgram (expireUnderLocks current) := by
  refine .perform trivial fun entry => ?_
  cases entry with
  | none => exact only_pure
  | some confirmed => exact (hotplug_expireConfirmed confirmed).mono fun _ h => h.plain

theorem hotplug_detachObservedUnderLocks (attachment : ObservedAttachment) :
    (detachObservedUnderLocks attachment).Only
      (Op.Hotplug attachment.volumeHandle attachment.nodeName) := by
  refine .perform trivial fun entry => ?_
  cases entry with
  | some state => exact only_pure
  | none => ?_
  refine .perform nofun fun cooldown => ?_
  cases cooldown with
  | some cooldown => exact only_pure
  | none => ?_
  refine .perform nofun fun answer => ?_
  cases answer with
  | error err => exact only_pure
  | ok target => exact hotplug_detach _ _

theorem hotplug_recoverUnderLocks (report : LocalDeviceMissingReport) (runtimeCtx : RuntimeContext)
    (volumeID nodeID : Int) :
    (recoverUnderLocks report runtimeCtx volumeID nodeID).Only
      (Op.Hotplug (trimSpace report.volumeID) (trimSpace report.node)) := by
  refine .perform nofun fun desired => ?_
  split
  · exact only_pure
  · exact only_pure
  refine .perform nofun fun answer => ?_
  cases answer with
  | error err => exact hotplug_reattach _ _ _ _
  | ok target => ?_
  refine (hotplug_detach _ _).bind fun answer => ?_
  cases answer with
  | some err => exact only_pure
  | none => exact hotplug_reattach _ _ _ _

/-- Plain operations, and writing the response variable `slot`. -/
def Op.PlainOrResponse (slot : ℕ) : Op → Prop
  | .setResponse slot' _ => slot' = slot
  | op => op.Plain

/-- Plain operations that attach at most this volume to this node and detach nothing, and writing
the response variable `slot`. -/
def Op.AttachOrResponse (slot : ℕ) (volume node : String) : Op → Prop
  | .setResponse slot' _ => slot' = slot
  | .query q =>
    q.hotplug = none ∨ ∃ immutable params, q = .attachVolume volume node immutable params
  | op => op.Plain

theorem Op.Still.attachOrResponse (h : op.Still) (slot : ℕ) (volume node : String) :
    op.AttachOrResponse slot volume node := by
  cases op with
  | query q => exact .inl h
  | _ => first | exact h.elim | exact h

theorem Op.AttachOrResponse.plainOrResponse {slot : ℕ} (h : op.AttachOrResponse slot volume node) :
    op.PlainOrResponse slot := by
  cases op with
  | query q => trivial
  | _ => exact h

theorem only_setResponse (slot : ℕ) (volume node : String) (response : PublishResponse) :
    (perform (.setResponse slot response)).Only (Op.AttachOrResponse slot volume node) :=
  only_perform.2 rfl

theorem attach_attachAndConfirm (cfg : Config) (req : PublishRequest) (volumeID nodeID : Int)
    (slot : ℕ) (size : Int) :
    (attachAndConfirm cfg req volumeID nodeID slot size).Only
      (Op.AttachOrResponse slot req.volumeId req.nodeId) := by
  have hstill {α : Type} {p : Prog α} (hp : StillProgram p) :
      p.Only (Op.AttachOrResponse slot req.volumeId req.nodeId) :=
    hp.mono fun _ h => Op.Still.attachOrResponse h slot req.volumeId req.nodeId
  have hattach : (query (.attachVolume req.volumeId req.nodeId req.immutable
      req.volumeContext)).Only (Op.AttachOrResponse slot req.volumeId req.nodeId) :=
    only_perform.2 (.inr ⟨_, _, rfl⟩)
  refine .perform (.inl rfl) fun floor =>
    Only.perform (.inl rfl) fun _ =>
      Only.perform (.inl rfl) fun timeout => hattach.bind fun answer => ?_
  split
  · exact .perform (.inl rfl) fun _ => only_pure
  · exact only_pure
  refine .perform (.inl rfl) fun answer => ?_
  cases answer with
  | error err => exact only_pure
  | ok target =>
    refine (hstill (still_publishContextForVolume _ _ _ _ _)).bind fun ctx => ?_
    exact (only_setResponse _ _ _ _).bind fun _ => only_pure

theorem attach_attachUnderLocks (cfg : Config) (req : PublishRequest) (volumeID nodeID : Int)
    (slot : ℕ) :
    (attachUnderLocks cfg req volumeID nodeID slot).Only
      (Op.AttachOrResponse slot req.volumeId req.nodeId) := by
  have hstill {α : Type} {p : Prog α} (hp : StillProgram p) :
      p.Only (Op.AttachOrResponse slot req.volumeId req.nodeId) :=
    hp.mono fun _ h => Op.Still.attachOrResponse h slot req.volumeId req.nodeId
  refine .perform (.inl rfl) fun answer => ?_
  cases answer with
  | ok target =>
    refine (hstill (still_clearStickyReuseState _ _)).bind fun _ => ?_
    refine (hstill (still_publishContextForVolume _ _ _ _ _)).bind fun ctx => ?_
    exact (only_setResponse _ _ _ _).bind fun _ => only_pure
  | error err =>
    refine .perform (.inl rfl) fun drift => ?_
    cases drift with
    | some err => exact only_pure
    | none => ?_
    refine .perform (.inl rfl) fun artifact => ?_
    cases artifact with
    | some err => exact only_pure
    | none => ?_
    refine .perform (.inl rfl) fun size => ?_
    cases size with
    | error err => exact only_pure
    | ok size => exact attach_attachAndConfirm _ _ _ _ _ _

theorem only_attachUnderLocks (cfg : Config) (req : PublishRequest) (volumeID nodeID : Int)
    (slot : ℕ) :
    (attachUnderLocks cfg req volumeID nodeID slot).Only (Op.PlainOrResponse slot) :=
  (attach_attachUnderLocks cfg req volumeID nodeID slot).mono fun _ h => h.plainOrResponse

/-! ## Queued functions -/

/-- The operation a function is queued under. -/
def Closure.operation : Closure → Operation
  | .publish _ _ _ _ => .attach
  | .localDeviceRecovery _ _ _ _ => .reattach
  | _ => .detach

/-- The response variable a function writes. -/
def Closure.slot? : Closure → Option ℕ
  | .publish _ _ _ slot => some slot
  | _ => none

/-- Operations of a queued function: plain ones, locks, and writing its own response variable. -/
def Op.Inside (slot? : Option ℕ) : Op → Prop
  | .registerLocks _ | .lock _ | .unlock _ | .unregisterLocks _ => True
  | .setResponse slot _ => slot? = some slot
  | op => op.Plain

theorem Op.Plain.inside (h : op.Plain) (slot? : Option ℕ) : op.Inside slot? := by
  cases op <;> first | exact h | exact h.elim

theorem Op.PlainOrResponse.inside {slot : ℕ} (h : op.PlainOrResponse slot) :
    op.Inside (some slot) := by
  cases op <;> first | exact h | exact h.elim | exact trivial | exact congrArg some h.symm

/-- Operations on the operation locks. -/
def Op.OnLocks (op : Op) : Prop :=
  op.changes = some .locks

theorem Op.OnLocks.inside (h : op.OnLocks) (slot? : Option ℕ) : op.Inside slot? := by
  cases op <;> first | exact trivial | cases h

theorem onLocks_lockAll (refs : List LockRef) : (lockAll refs).Only Op.OnLocks := by
  induction refs with
  | nil => exact only_pure
  | cons ref refs ih => exact .perform rfl fun _ => ih

theorem onLocks_unlockAll (refs : List LockRef) : (unlockAll refs).Only Op.OnLocks := by
  induction refs with
  | nil => exact only_pure
  | cons ref refs ih => exact .perform rfl fun _ => ih

variable {keys : List String} {body : Prog α}

theorem only_locked {allowed : Op → Prop} (hlocks : ∀ op, op.OnLocks → allowed op)
    (hbody : body.Only allowed) : (locked keys body).Only allowed := by
  refine (only_perform.2 (hlocks (.registerLocks keys) rfl)).bind fun refs => ?_
  refine ((onLocks_lockAll refs).mono hlocks).bind fun _ => ?_
  refine hbody.bind fun _ => ((onLocks_unlockAll _).mono hlocks).bind fun _ => ?_
  exact (only_perform.2 (hlocks (.unregisterLocks refs) rfl)).bind fun _ => only_pure

variable {slot? : Option ℕ}

theorem inside_locked (hbody : body.Only (Op.Inside slot?)) :
    (locked keys body).Only (Op.Inside slot?) :=
  only_locked (fun _ h => h.inside slot?) hbody

/-- The rule for a locked section, where locks may always be taken and the postcondition is not
affected by what happens afterwards. -/
theorem meets_locked {C : Contract Op Op.Answer} {past : History} {post : History → α → Prop}
    (hguar : ∀ past op, op.OnLocks → C.guar past op)
    (hstable : ∀ later event value, post later value → post (later ++ [event]) value)
    (hbody : ∀ later, past ⊆ later → body.Meets C post later) :
    (locked keys body).Meets C post past := by
  unfold locked
  simp only [meets_bind, meets_perform, meets_pure]
  refine ⟨hguar _ _ rfl, fun refs _ => ?_⟩
  refine ((onLocks_lockAll refs).meets_subset hguar).mono fun later _ hlater => ?_
  refine (hbody later (List.Subset.trans (List.subset_append_left _ _) hlater)).mono
    fun last value hpost => ?_
  refine ((onLocks_unlockAll refs.reverse).meets hpost (fun past op hop _ => hguar past op hop)
    fun h op ans _ hframe => hstable h ⟨op, ans⟩ value hframe).mono fun final _ hfinal => ?_
  exact ⟨hguar _ _ rfl, fun _ _ => hstable final _ value hfinal⟩

theorem inside_of_still (hp : StillProgram p) : p.Only (Op.Inside slot?) :=
  hp.mono fun _ h => (Op.Still.plain h).inside slot?

theorem inside_of_hotplug (hp : p.Only (Op.Hotplug volume node)) : p.Only (Op.Inside slot?) :=
  hp.mono fun _ h => (Op.Hotplug.plain h).inside slot?

theorem inside_reuseStickyAttachment (cfg : Config) (req : PublishRequest) (volumeID nodeID : Int)
    (slot? : Option ℕ) :
    (reuseStickyAttachment cfg req volumeID nodeID).Only (Op.Inside slot?) := by
  refine .perform trivial fun entry => ?_
  cases entry with
  | none => exact only_pure
  | some state => ?_
  simp only
  split
  · refine .perform trivial fun answer => ?_
    cases answer with
    | error err => exact (inside_of_still (still_stickyClear _)).bind fun _ => only_pure
    | ok target => ?_
    refine inside_of_still ((still_clearForPublish _).bind fun answer => ?_)
    cases answer with
    | some err => exact only_pure
    | none => exact (still_publishContextForVolume _ _ _ _ _).bind fun _ => only_pure
  · refine (inside_locked (inside_of_hotplug (hotplug_leaveOldNode _ _ _))).bind fun answer => ?_
    cases answer <;> exact only_pure

theorem inside_publishUnderLocks (cfg : Config) (req : PublishRequest) (volumeID nodeID : Int)
    (slot : ℕ) :
    (publishUnderLocks cfg req volumeID nodeID slot).Only (Op.Inside (some slot)) := by
  refine (inside_reuseStickyAttachment _ _ _ _ _).bind fun outcome => ?_
  cases outcome with
  | failed err => exact only_pure
  | reused response =>
    have hset : (perform (.setResponse slot response)).Only (Op.Inside (some slot)) :=
      only_perform.2 rfl
    exact hset.bind fun _ => only_pure
  | notReused => exact (only_attachUnderLocks _ _ _ _ _).mono fun _ h => h.inside

theorem Closure.inside_underLocks (cfg : Config) (fn : Closure) :
    (fn.underLocks cfg).Only (Op.Inside fn.slot?) := by
  cases fn with
  | publish req volumeID nodeID slot => exact inside_publishUnderLocks _ _ _ _ _
  | unpublish req volumeID nodeID => exact inside_of_hotplug (hotplug_unpublishUnderLocks _ _ _ _)
  | expireStickyDetach current =>
    -- The entry read under the locks decides what is detached, so only plainness is known here.
    exact (plain_expireUnderLocks current).mono fun _ h => h.inside _
  | detachObservedAttachment attachment =>
    exact inside_of_hotplug (hotplug_detachObservedUnderLocks _)
  | localDeviceRecovery report runtimeCtx volumeID nodeID =>
    exact inside_of_hotplug (hotplug_recoverUnderLocks _ _ _ _)

theorem Closure.inside_body (cfg : Config) (fn : Closure) :
    (fn.body cfg).Only (Op.Inside fn.slot?) :=
  inside_locked (inside_locked (fn.inside_underLocks cfg))

/-! ## Handlers outside the queue -/

theorem still_attachRequestStale (cfg : Config) (node volume : String) :
    StillProgram (attachRequestStale cfg node volume) := by
  unfold attachRequestStale
  split
  · exact only_pure
  refine .perform rfl fun answer => ?_
  cases answer with
  | error err =>
    simp only
    split <;> exact only_pure
  | ok runtimeCtx => ?_
  refine .perform rfl fun pv => ?_
  split
  · exact only_pure
  · exact only_pure
  split
  · exact only_pure
  split
  · exact only_pure
  split
  · exact only_pure
  refine .perform rfl fun vas => ?_
  cases vas with
  | error err => exact only_pure
  | ok vas =>
    simp only
    split <;> exact only_pure

theorem still_validateAttachment (cfg : Config) (node : String) (operation : Operation)
    (volume : String) (attached : Bool) :
    StillProgram (validateAttachment cfg node operation volume attached) := by
  cases operation with
  | attach =>
    simp only [validateAttachment]
    split
    · exact only_pure
    · refine (still_attachRequestStale _ _ _).bind fun stale => ?_
      cases stale <;> exact only_pure
  | detach =>
    simp only [validateAttachment]
    split <;> exact only_pure
  | reattach => exact only_pure

theorem still_validateHotplugQueueRequest (cfg : Config) (node : String) (operation : Operation)
    (volume : String) :
    StillProgram (validateHotplugQueueRequest cfg node operation volume) := by
  unfold validateHotplugQueueRequest
  split
  · exact only_pure
  refine .perform rfl fun answer => ?_
  cases answer with
  | error err => exact only_pure
  | ok volumeID => ?_
  simp only
  split
  · exact only_pure
  refine .perform rfl fun answer => ?_
  cases answer with
  | error err => exact only_pure
  | ok nodeID => ?_
  simp only
  split
  · exact only_pure
  refine .perform rfl fun cooldown => ?_
  cases cooldown with
  | some cooldown => exact only_pure
  | none =>
    refine .perform rfl fun attached => ?_
    cases attached <;> exact still_validateAttachment _ _ _ _ _

theorem still_publishShared (cfg : Config) (req : PublishRequest) :
    StillProgram (publishShared cfg req) := by
  unfold publishShared
  split
  · exact only_pure
  refine .perform rfl fun answer => ?_
  cases answer with
  | error err => exact only_pure
  | ok nodeID => ?_
  simp only
  split
  · exact only_pure
  · refine .perform rfl fun answer => ?_
    cases answer <;> exact only_pure

theorem still_maintenanceContext (cfg : Config) (volume : String) :
    StillProgram (maintenanceContext cfg volume) := by
  unfold maintenanceContext
  split
  · exact only_pure
  refine .perform rfl fun active => ?_
  split
  · split
    · exact only_pure
    refine .perform rfl fun answer => ?_
    cases answer with
    | error err => exact only_pure
    | ok runtimeCtx =>
      simp only
      split <;> exact only_pure
  · exact only_pure

theorem still_maintenanceBlocksPublish (cfg : Config) (req : PublishRequest) :
    StillProgram (maintenanceBlocksPublish cfg req) := by
  have hlast (runtimeCtx : RuntimeContext) :
      StillProgram (maintenanceLastNodeForVolume runtimeCtx req.volumeId) := by
    refine .perform trivial fun entry => ?_
    cases entry with
    | none => exact only_pure
    | some state =>
      simp only
      split <;> exact only_pure
  refine (still_maintenanceContext _ _).bind fun context => ?_
  cases context with
  | none => exact only_pure
  | some runtimeCtx =>
    refine (hlast _).bind fun lastNode => ?_
    split <;> exact only_pure

theorem still_rescueSameNodeUnpublish (cfg : Config) (req : UnpublishRequest)
    (volumeID nodeID : Int) : StillProgram (rescueSameNodeUnpublish cfg req volumeID nodeID) := by
  unfold rescueSameNodeUnpublish
  split
  · exact only_pure
  refine .perform rfl fun answer => ?_
  cases answer with
  | error err => exact only_pure
  | ok runtimeCtx => ?_
  simp only
  split
  · exact only_pure
  refine .perform rfl fun desired => ?_
  split
  · refine .perform rfl fun answer => ?_
    cases answer with
    | error err => exact only_pure
    | ok target => ?_
    refine .perform trivial fun entry => ?_
    cases entry with
    | none => exact only_pure
    | some state => ?_
    simp only
    split
    · refine (still_stickyClear _).bind fun answer => ?_
      cases answer <;> exact only_pure
    · exact only_pure
  · exact only_pure

theorem still_startMaintenanceDetachHold (cfg : Config) (req : UnpublishRequest) :
    StillProgram (startMaintenanceDetachHold cfg req) := by
  refine (still_maintenanceContext _ _).bind fun context => ?_
  cases context with
  | none => exact only_pure
  | some runtimeCtx =>
    refine .perform rfl fun now => (still_startGrace _).bind fun answer => ?_
    cases answer <;> exact only_pure

theorem still_unpublishWithoutNode (volumeID : Int) :
    StillProgram (unpublishWithoutNode volumeID) := by
  refine .perform rfl fun answer => ?_
  cases answer with
  | error err => exact only_pure
  | ok ready =>
    simp only
    split <;> exact only_pure

/-! ## The shape of a request -/

/-- Operations of a request outside the queue. -/
def Op.Quiet : Op → Prop
  | .getResponse _ => True
  | op => op.Plain

theorem Op.Plain.quiet (h : op.Plain) : op.Quiet := by
  cases op <;> first | exact h | exact trivial

/-- Operations of a request outside the queue that attach and detach nothing. -/
def Op.StillOrRead : Op → Prop
  | .getResponse _ => True
  | op => op.Still

theorem Op.Still.orRead (h : op.Still) : op.StillOrRead := by
  cases op <;> first | exact h | exact trivial

theorem Op.StillOrRead.quiet (h : op.StillOrRead) : op.Quiet := by
  cases op with
  | query q => trivial
  | _ => exact h

theorem orRead_of_still (hp : StillProgram p) : p.Only Op.StillOrRead :=
  hp.mono fun _ h => Op.Still.orRead h

/-- The functions a request hands to the queue. -/
def Kind.Hands : Kind → Closure → Prop
  | .publish req, fn => ∃ volumeID nodeID slot, fn = .publish req volumeID nodeID slot
  | .unpublish req, fn => ∃ volumeID nodeID, fn = .unpublish req volumeID nodeID
  | .expireStickyDetach _, fn => ∃ current, fn = .expireStickyDetach current
  | .detachObservedAttachment attachment _, fn => fn = .detachObservedAttachment attachment
  | .executeLocalDeviceRecovery report runtimeCtx volumeID nodeID, fn =>
    fn = .localDeviceRecovery report runtimeCtx volumeID nodeID
  | .expand _, _ | .worker _, _ => False

/-- A program that runs without locks, except that it may hand one function that satisfies `hands`
to the queue. A function that writes a response variable comes with a variable of its own. -/
inductive QueueClient (cfg : Config) (hands : Closure → Prop) : {α : Type} → Prog α → Prop
  | quiet {α : Type} {p : Prog α} : p.Only Op.Quiet → QueueClient cfg hands p
  | bind {α β : Type} {p : Prog α} {f : α → Prog β} : p.Only Op.Quiet →
      (∀ value, QueueClient cfg hands (f value)) → QueueClient cfg hands (p >>= f)
  | queued {α : Type} (fn : Closure) {priority : Priority} {f : Option GoError → Prog α} :
      hands fn → fn.slot? = none → (∀ err, (f err).Only Op.Quiet) →
      QueueClient cfg hands (withQueuedHotplug cfg fn.node fn.operation fn.volume priority fn >>= f)
  | publish {α : Type} {req : PublishRequest} {volumeID nodeID : Int} {priority : Priority}
      {f : ℕ → Option GoError → Prog α} : (∀ slot, hands (.publish req volumeID nodeID slot)) →
      (∀ slot err, (f slot err).Only Op.Quiet) →
      QueueClient cfg hands (perform .newResponse >>= fun slot =>
        withQueuedHotplug cfg req.nodeId .attach req.volumeId priority
          (.publish req volumeID nodeID slot) >>= f slot)

/-- A client of the queue that itself attaches and detaches nothing. -/
inductive StillClient (cfg : Config) (hands : Closure → Prop) : {α : Type} → Prog α → Prop
  | still {α : Type} {p : Prog α} : p.Only Op.StillOrRead → StillClient cfg hands p
  | bind {α β : Type} {p : Prog α} {f : α → Prog β} : p.Only Op.StillOrRead →
      (∀ value, StillClient cfg hands (f value)) → StillClient cfg hands (p >>= f)
  | queued {α : Type} (fn : Closure) {priority : Priority} {f : Option GoError → Prog α} :
      hands fn → fn.slot? = none → (∀ err, (f err).Only Op.StillOrRead) →
      StillClient cfg hands (withQueuedHotplug cfg fn.node fn.operation fn.volume priority fn >>= f)
  | publish {α : Type} {req : PublishRequest} {volumeID nodeID : Int} {priority : Priority}
      {f : ℕ → Option GoError → Prog α} : (∀ slot, hands (.publish req volumeID nodeID slot)) →
      (∀ slot err, (f slot err).Only Op.StillOrRead) →
      StillClient cfg hands (perform .newResponse >>= fun slot =>
        withQueuedHotplug cfg req.nodeId .attach req.volumeId priority
          (.publish req volumeID nodeID slot) >>= f slot)

namespace StillClient

variable {cfg : Config} {hands : Closure → Prop}

theorem pure {value : α} : StillClient cfg hands (Pure.pure value) :=
  .still only_pure

theorem of_still (hp : StillProgram p) : StillClient cfg hands p :=
  .still (orRead_of_still hp)

theorem then_still {β : Type} {f : α → Prog β} (hp : StillClient cfg hands p)
    (hf : ∀ value, (f value).Only Op.StillOrRead) : StillClient cfg hands (p >>= f) := by
  induction hp with
  | still hp => exact .bind hp fun value => .still (hf value)
  | bind hp _ ih =>
    rw [bind_assoc]
    exact .bind hp fun value => ih value hf
  | queued fn hhands hslot hrest =>
    rw [bind_assoc]
    exact .queued fn hhands hslot fun err => (hrest err).bind hf
  | publish hhands hrest =>
    simp only [bind_assoc]
    exact .publish hhands fun slot err => (hrest slot err).bind hf

theorem queueClient (hp : StillClient cfg hands p) : QueueClient cfg hands p := by
  induction hp with
  | still hp => exact .quiet (hp.mono fun _ h => h.quiet)
  | bind hp _ ih => exact .bind (hp.mono fun _ h => h.quiet) ih
  | queued fn hhands hslot hrest =>
    exact .queued fn hhands hslot fun err => (hrest err).mono fun _ h => h.quiet
  | publish hhands hrest =>
    exact .publish hhands fun slot err => (hrest slot err).mono fun _ h => h.quiet

end StillClient

theorem stillClient_publishQueued (cfg : Config) (req : PublishRequest) (volumeID nodeID : Int) :
    StillClient cfg (Kind.publish req).Hands (publishQueued cfg req volumeID nodeID) := by
  refine .bind (orRead_of_still (still_maintenanceBlocksPublish _ _)) fun blocked => ?_
  cases blocked with
  | some message => exact .pure
  | none => ?_
  refine .bind (only_perform.2 rfl) fun cooldown => ?_
  cases cooldown with
  | some cooldown => exact .pure
  | none => ?_
  refine .bind (only_perform.2 trivial) fun sticky => ?_
  refine .publish (fun slot => ⟨volumeID, nodeID, slot, rfl⟩) fun slot err => ?_
  cases err with
  | some err => exact only_pure
  | none => exact .perform trivial fun _ => only_pure

theorem stillClient_publishDisk (cfg : Config) (req : PublishRequest) :
    StillClient cfg (Kind.publish req).Hands (publishDisk cfg req) := by
  refine .bind (only_perform.2 rfl) fun answer => ?_
  cases answer with
  | error err => exact .pure
  | ok volumeID => ?_
  simp only
  split
  · exact .pure
  refine .bind (only_perform.2 rfl) fun answer => ?_
  cases answer with
  | error err => exact .pure
  | ok nodeID => ?_
  simp only
  split
  · exact .pure
  refine .bind (only_perform.2 rfl) fun answer => ?_
  cases answer with
  | error err => exact stillClient_publishQueued cfg req volumeID nodeID
  | ok target =>
    refine .of_still ((still_clearStickyReuseState _ _).bind fun _ => ?_)
    exact (still_publishContextForVolume _ _ _ _ _).bind fun _ => only_pure

theorem stillClient_controllerPublishVolume (cfg : Config) (req : PublishRequest) :
    StillClient cfg (Kind.publish req).Hands (controllerPublishVolume cfg req) := by
  unfold controllerPublishVolume
  split
  · exact .pure
  split
  · exact .pure
  split
  · exact .pure
  · exact .pure
  split
  · exact .of_still (still_publishShared cfg req)
  · exact stillClient_publishDisk cfg req

theorem stillClient_unpublishAttached (cfg : Config) (req : UnpublishRequest)
    (volumeID nodeID : Int) :
    StillClient cfg (Kind.unpublish req).Hands (unpublishAttached cfg req volumeID nodeID) := by
  refine .bind (orRead_of_still (still_rescueSameNodeUnpublish _ _ _ _)) fun rescued => ?_
  cases rescued with
  | some answer => exact .pure
  | none => ?_
  refine .bind (orRead_of_still (still_startMaintenanceDetachHold _ _)) fun held => ?_
  cases held with
  | some answer => exact .pure
  | none => ?_
  refine .bind (only_perform.2 rfl) fun cooldown => ?_
  cases cooldown with
  | some cooldown => exact .pure
  | none =>
    refine .queued (.unpublish req volumeID nodeID) ⟨_, _, rfl⟩ rfl fun answer => ?_
    cases answer <;> exact only_pure

theorem stillClient_controllerUnpublishVolume (cfg : Config) (req : UnpublishRequest) :
    StillClient cfg (Kind.unpublish req).Hands (controllerUnpublishVolume cfg req) := by
  unfold controllerUnpublishVolume
  split
  · exact .pure
  split
  · exact .pure
  split
  · exact .pure
  refine .bind (only_perform.2 rfl) fun answer => ?_
  cases answer with
  | error err => exact .pure
  | ok volumeID => ?_
  simp only
  split
  · exact .pure
  refine .bind (only_perform.2 rfl) fun answer => ?_
  cases answer with
  | error err => exact .of_still (still_unpublishWithoutNode _)
  | ok nodeID => ?_
  simp only
  split
  · exact .of_still (still_unpublishWithoutNode _)
  refine .bind (only_perform.2 rfl) fun answer => ?_
  cases answer with
  | error err => exact .pure
  | ok target => exact stillClient_unpublishAttached cfg req volumeID nodeID

theorem stillClient_expireStickyDetach (cfg : Config) (state : StickyAttachmentState) :
    StillClient cfg (Kind.expireStickyDetach state).Hands (expireStickyDetach cfg state) := by
  refine .bind (only_perform.2 trivial) fun entry => ?_
  cases entry with
  | none => exact .pure
  | some current => ?_
  refine .bind (only_perform.2 rfl) fun now => ?_
  split
  · exact .pure
  refine .bind (only_perform.2 rfl) fun cooldown => ?_
  cases cooldown with
  | some cooldown => exact .of_still (still_deferStickyDetach _)
  | none =>
    exact .queued (.expireStickyDetach current) ⟨_, rfl⟩ rfl fun _ => only_pure

theorem Kind.stillClient (cfg : Config) {kind : Kind} (hexpand : ∀ req, kind ≠ .expand req)
    (hworker : ∀ node, kind ≠ .worker node) : StillClient cfg kind.Hands (kind.program cfg) := by
  cases kind with
  | expand req => exact absurd rfl (hexpand req)
  | worker node => exact absurd rfl (hworker node)
  | publish req => exact (stillClient_controllerPublishVolume cfg req).then_still fun _ => only_pure
  | unpublish req =>
    exact (stillClient_controllerUnpublishVolume cfg req).then_still fun _ => only_pure
  | expireStickyDetach state =>
    exact (stillClient_expireStickyDetach cfg state).then_still fun _ => only_pure
  | detachObservedAttachment attachment priority =>
    exact .queued (.detachObservedAttachment attachment) rfl rfl fun _ => only_pure
  | executeLocalDeviceRecovery report runtimeCtx volumeID nodeID =>
    exact .queued (.localDeviceRecovery report runtimeCtx volumeID nodeID) rfl rfl
      fun _ => only_pure

theorem Kind.queueClient (cfg : Config) {kind : Kind} (hexpand : ∀ req, kind ≠ .expand req)
    (hworker : ∀ node, kind ≠ .worker node) : QueueClient cfg kind.Hands (kind.program cfg) :=
  (Kind.stillClient cfg hexpand hworker).queueClient

/-! ## Executions of queued functions

Volumes are attached and detached only by the functions handed to the hotplug queue. Such a function
is executed by a worker that has taken it from the queue, or, when the queue is switched off or the
node has no name, by the request itself. `Runs` says which function a goroutine may be executing,
read off what it was started for and the beginning of its history.

All other code neither locks nor attaches nor detaches (`Op.Bare`). So a contract that leaves bare
operations alone holds of every goroutine as soon as it holds of the functions' bodies
(`Kind.carries`).
-/

/-- The volume and the node an operation attaches or detaches. -/
def Op.hotplug : Op → Option (String × String)
  | .query q => q.hotplug
  | _ => none

/-- Operations that neither use the operation locks nor attach nor detach. -/
def Op.Bare (op : Op) : Prop :=
  (op.changes == some .locks) = false ∧ op.hotplug = none

theorem Op.OnLocks.hotplug_eq (h : op.OnLocks) : op.hotplug = none := by
  cases op <;> first | rfl | cases h

theorem Op.StillOrRead.bare (h : op.StillOrRead) : op.Bare := by
  cases op with
  | query q => exact ⟨rfl, h⟩
  | _ => first | exact h.elim | exact ⟨rfl, rfl⟩

theorem bare_of_orRead (hp : p.Only Op.StillOrRead) : p.Only Op.Bare :=
  hp.mono fun _ h => h.bare

theorem bare_of_still (hp : StillProgram p) : p.Only Op.Bare :=
  bare_of_orRead (orRead_of_still hp)

/-- The functions a goroutine may be executing after the history `past`. -/
def Runs (kind : Kind) (past : History) (fn : Closure) : Prop :=
  match kind with
  | .worker _ => ∃ node req, [⟨.nextRequest node, some req⟩] <+: past ∧ req.fn = fn
  | .expireStickyDetach _ => ∃ volume current,
      [⟨.stickyGet .other volume, some current⟩] <+: past ∧ fn = .expireStickyDetach current
  | kind => kind.Hands fn

variable {fn : Closure}

theorem Runs.mono {kind : Kind} {past later : History} (h : Runs kind past fn)
    (hlater : past <+: later) : Runs kind later fn := by
  cases kind with
  | worker node =>
    obtain ⟨node, req, hfirst, hfn⟩ := h
    exact ⟨node, req, hfirst.trans hlater, hfn⟩
  | expireStickyDetach state =>
    obtain ⟨volume, current, hfirst, hfn⟩ := h
    exact ⟨volume, current, hfirst.trans hlater, hfn⟩
  | _ => exact h

/-- The contract allows all bare operations, and they keep `I`. -/
structure Carries (C : Contract Op Op.Answer) (I : History → Prop) : Prop where
  guar : ∀ past op, op.Bare → C.guar past op
  frame : ∀ past op ans, op.Bare → I past → I (past ++ [⟨op, ans⟩])

/-- Started where `I` holds, after at least `past`, the program keeps the contract and `I`. -/
def KeepsAfter (C : Contract Op Op.Answer) (I : History → Prop) (past : History) (p : Prog α) :
    Prop :=
  ∀ later, past <+: later → I later → p.Meets C (fun last _ => I last) later

section Lift

variable {cfg : Config} {C : Contract Op Op.Answer} {I : History → Prop} {past : History}

theorem keepsAfter_pure {value : α} : KeepsAfter C I past (pure value) :=
  fun _ _ hI => meets_pure.2 hI

theorem KeepsAfter.bind {β : Type} {f : α → Prog β} (hp : KeepsAfter C I past p)
    (hf : ∀ value, KeepsAfter C I past (f value)) : KeepsAfter C I past (p >>= f) := by
  intro later hlater hI
  refine (hp later hlater hI).extends.bind fun last value h => ?_
  exact hf value last (hlater.trans h.1) h.2

theorem Carries.bare (hC : Carries C I) (hp : p.Only Op.Bare) : KeepsAfter C I past p :=
  fun _ _ hI => hp.meets hI (fun h op hop _ => hC.guar h op hop) hC.frame

theorem Carries.perform (hC : Carries C I) (hop : op.Bare) :
    KeepsAfter C I past (Controller.perform op) :=
  hC.bare (only_perform.2 hop)

theorem Carries.hotplugQueueRun (hC : Carries C I) (hbody : KeepsAfter C I past (fn.body cfg))
    (node : String) (operation : Operation) (volume : String) (priority : Priority) :
    KeepsAfter C I past (hotplugQueueRun cfg node operation volume priority fn) := by
  have hbare (op : Op) (hop : op.Bare) : KeepsAfter C I past (Controller.perform op) :=
    hC.perform hop
  unfold Controller.hotplugQueueRun
  split
  · exact hbody
  refine (hbare .nextRequestID ⟨rfl, rfl⟩).bind fun id =>
    (hbare (.query .now) ⟨rfl, rfl⟩).bind fun enqueuedAt =>
      (hbare (.enqueue _) ⟨rfl, rfl⟩).bind fun result => ?_
  obtain ⟨req, coalesced⟩ := result
  simp only
  split
  · refine (hbare (.selectDone _) ⟨rfl, rfl⟩).bind fun signal => ?_
    cases signal <;> exact keepsAfter_pure
  refine (hbare (.selectStarted _) ⟨rfl, rfl⟩).bind fun signal => ?_
  cases signal with
  | started => exact hbare (.awaitDone _) ⟨rfl, rfl⟩
  | done err => exact keepsAfter_pure
  | expired => ?_
  refine (hbare (.cancel _ _) ⟨rfl, rfl⟩).bind fun cancelled => ?_
  split
  · exact keepsAfter_pure
  · exact hbare (.awaitDone _) ⟨rfl, rfl⟩

theorem Carries.withQueuedHotplug (hC : Carries C I) (hbody : KeepsAfter C I past (fn.body cfg))
    (node : String) (operation : Operation) (volume : String) (priority : Priority) :
    KeepsAfter C I past (withQueuedHotplug cfg node operation volume priority fn) := by
  unfold Controller.withQueuedHotplug
  split
  · exact hC.hotplugQueueRun hbody node operation volume priority
  · exact hbody

theorem Carries.stillClient {hands : Closure → Prop} (hC : Carries C I)
    (hbody : ∀ fn, hands fn → KeepsAfter C I past (fn.body cfg)) (hp : StillClient cfg hands p) :
    KeepsAfter C I past p := by
  induction hp with
  | still hp => exact hC.bare (bare_of_orRead hp)
  | bind hp _ ih => exact (hC.bare (bare_of_orRead hp)).bind ih
  | queued fn hhands _ hrest =>
    exact (hC.withQueuedHotplug (hbody fn hhands) _ _ _ _).bind fun err =>
      hC.bare (bare_of_orRead (hrest err))
  | publish hhands hrest =>
    exact (@Carries.perform .newResponse _ _ _ hC ⟨rfl, rfl⟩).bind fun slot =>
      (hC.withQueuedHotplug (hbody _ (hhands slot)) _ _ _ _).bind fun err =>
        hC.bare (bare_of_orRead (hrest slot err))

theorem Carries.runRequest {req : Request Closure} (hC : Carries C I)
    (hbody : KeepsAfter C I past (req.fn.body cfg)) : KeepsAfter C I past (runRequest cfg req) := by
  have hrun : KeepsAfter C I past (runFunction cfg req) := by
    refine hbody.bind fun answer => ?_
    split
    · split <;> exact keepsAfter_pure
    · exact keepsAfter_pure
    · refine (hC.bare (bare_of_still (still_query .contextExpired rfl))).bind fun expired => ?_
      split <;> exact keepsAfter_pure
  unfold Controller.runRequest
  split
  · refine (hC.bare (bare_of_still (still_validateHotplugQueueRequest _ _ _ _))).bind
      fun validation => ?_
    cases validation with
    | valid => exact hrun
    | _ => exact keepsAfter_pure
  · exact hrun

end Lift

section Kinds

variable {cfg : Config} {C : Contract Op Op.Answer} {I : History → Prop} {kind : Kind}

theorem Carries.runNodeQueue {node : String} (hC : Carries C I) (hnil : I [])
    (hbody : ∀ fn past, Runs (.worker node) past fn → KeepsAfter C I past (fn.body cfg)) :
    (runNodeQueue cfg node).Meets C (fun later _ => I later) [] := by
  have hnext : (Op.nextRequest node).Bare := ⟨rfl, rfl⟩
  refine .perform (hC.guar _ _ hnext) fun next _ => ?_
  have hI := hC.frame [] _ next hnext hnil
  cases next with
  | none => exact meets_pure.2 hI
  | some req => ?_
  have hrest : KeepsAfter C I [⟨.nextRequest node, some req⟩] (do
      Controller.perform (.closeStarted req.id)
      let err ← Controller.runRequest cfg req
      Controller.perform (.complete req.id err)
      Controller.perform (.finish node req.id)) := by
    refine (@Carries.perform (.closeStarted _) _ _ _ hC ⟨rfl, rfl⟩).bind fun _ => ?_
    refine (hC.runRequest (hbody req.fn _ ⟨node, req, List.prefix_rfl, rfl⟩)).bind fun err => ?_
    exact (@Carries.perform (.complete _ _) _ _ _ hC ⟨rfl, rfl⟩).bind fun _ =>
      @Carries.perform (.finish _ _) _ _ _ hC ⟨rfl, rfl⟩
  exact hrest _ List.prefix_rfl hI

/-- The reaper, from its first call on: the entry it finds is the one it hands to the queue. -/
theorem Carries.expireStickyDetach {state : StickyAttachmentState} (hC : Carries C I)
    (hnil : I [])
    (hbody : ∀ fn past, Runs (.expireStickyDetach state) past fn →
      KeepsAfter C I past (fn.body cfg)) :
    (expireStickyDetach cfg state).Meets C (fun later _ => I later) [] := by
  have hget : (Op.stickyGet .other state.volumeID).Bare := ⟨rfl, rfl⟩
  refine .perform (hC.guar _ _ hget) fun entry _ => ?_
  have hI := hC.frame [] _ entry hget hnil
  cases entry with
  | none => exact meets_pure.2 hI
  | some current => ?_
  have hruns : Runs (.expireStickyDetach state)
      [⟨.stickyGet .other state.volumeID, some current⟩] (.expireStickyDetach current) :=
    ⟨_, current, List.prefix_rfl, rfl⟩
  refine KeepsAfter.bind ?_ (fun now => ?_) _ List.prefix_rfl hI
  · exact hC.bare (bare_of_still (still_query .now rfl))
  · split
    · exact keepsAfter_pure
    refine (hC.bare (bare_of_still (still_query (.hotplugCooldownState _) rfl))).bind
      fun cooldown => ?_
    cases cooldown with
    | some cooldown => exact hC.bare (bare_of_still (still_deferStickyDetach _))
    | none =>
      exact (hC.withQueuedHotplug (hbody _ _ hruns) _ _ _ _).bind fun _ => keepsAfter_pure

/-- A contract that holds of every function a goroutine may execute holds of the goroutine. The one
locked section outside these functions is that of an expansion. -/
theorem Kind.carries (hC : Carries C I) (hnil : I [])
    (hbody : ∀ fn past, Runs kind past fn → KeepsAfter C I past (fn.body cfg))
    (hexpand : ∀ req, kind = .expand req →
      (controllerExpandVolume cfg req).Meets C (fun later _ => I later) []) :
    (kind.program cfg).Meets C (fun later _ => I later) [] := by
  have hrequest (hexp : ∀ req, kind ≠ .expand req) (hwork : ∀ node, kind ≠ .worker node)
      (hruns : ∀ fn, kind.Hands fn → Runs kind [] fn) :
      (kind.program cfg).Meets C (fun later _ => I later) [] :=
    hC.stillClient (fun fn hfn => hbody fn [] (hruns fn hfn)) (Kind.stillClient cfg hexp hwork) []
      List.prefix_rfl hnil
  cases kind with
  | expand req => exact (hexpand req rfl).bind fun _ _ h => meets_pure.2 h
  | worker node =>
    exact (hC.runNodeQueue hnil hbody).bind fun _ _ h => meets_pure.2 h
  | expireStickyDetach state =>
    exact (hC.expireStickyDetach hnil hbody).bind fun _ _ h => meets_pure.2 h
  | _ => exact hrequest (by simp) (by simp) fun _ h => h

end Kinds

end OpenNebulaCSI.Controller
