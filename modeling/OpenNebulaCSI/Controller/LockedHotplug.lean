import OpenNebulaCSI.Controller.HeldLocks

/-!
# Attaching and detaching under the locks

A queued function takes the locks of its node and its volume, and attaches and detaches that volume
at that node. A publish that moves a volume also takes the lock of the old node before it detaches
there. So a call for the volume `v` at the node `n` is made under the locks of `v` and `n`.

The exception is the reaper. It takes the locks of the entry it has found **before** it waited in
the queue, reads the entry again under these locks, and detaches the volume from the node of the
second one. `replacedRun` is a run in which the volume has moved in between, and `sameEntry` is the
condition that an entry found the second time is one of the same volume and node.
-/

namespace OpenNebulaCSI.Controller

open Go Concurrency Program

variable {α : Type}

/-! ## The contract -/

/-- The entry for which a goroutine executes the function of the reaper. -/
def reaping : History → Option StickyAttachmentState
  | ⟨.nextRequest _, some req⟩ :: _ =>
    match req.fn with
    | .expireStickyDetach current => some current
    | _ => none
  | ⟨.stickyGet .other _, some current⟩ :: _ => some current
  | _ => none

variable {kind : Kind} {past : History}

theorem Runs.reaping_eq {current : StickyAttachmentState}
    (h : Runs kind past (.expireStickyDetach current)) : reaping past = some current := by
  cases kind with
  | worker node =>
    obtain ⟨node, req, ⟨rest, rfl⟩, hfn⟩ := h
    simp [reaping, hfn]
  | expireStickyDetach state =>
    obtain ⟨volume, entry, ⟨rest, rfl⟩, hfn⟩ := h
    obtain rfl : current = entry := by simpa using hfn
    rfl
  | publish req =>
    obtain ⟨volumeID, nodeID, slot, hfn⟩ := h
    cases hfn
  | unpublish req =>
    obtain ⟨volumeID, nodeID, hfn⟩ := h
    cases hfn
  | expand req => exact h.elim
  | detachObservedAttachment attachment priority => cases h
  | executeLocalDeviceRecovery report runtimeCtx volumeID nodeID => cases h

/-- What a goroutine relies on: registering at keys gives mutexes of these keys, and the entry the
reaper finds under its locks is one of the volume and the node it has locked. -/
def HotplugRely (past : History) : (op : Op) → op.Answer → Prop
  | .registerLocks keys, refs => refs.map LockRef.key = OperationLocks.normalizeLockKeys keys
  | .stickyGet .other _, entry => ∀ current state, reaping past = some current →
      lockTable.held past ≠ [] → entry = some state →
      state.nodeID = current.nodeID ∧ state.volumeID = current.volumeID
  | _, _ => True

/-- After the history, the locks of the node and of the volume are held. -/
def HoldsKeys (past : History) (volume node : String) : Prop :=
  (∃ ref ∈ lockTable.held past, ref.key = controllerNodeLockKey node) ∧
    ∃ ref ∈ lockTable.held past, ref.key = controllerVolumeLockKey volume

/-- Goroutines keep the lock discipline and attach and detach only under the locks. -/
def hotplugContract : Contract Op Op.Answer where
  rely past op ans := HotplugRely past op ans
  guar past op := LockDiscipline past op ∧
    ∀ volume node, op.hotplug = some (volume, node) → HoldsKeys past volume node

variable {volume node : String}

theorem SameLocks.holdsKeys {later : History} (h : SameLocks past later)
    (hkeys : HoldsKeys past volume node) : HoldsKeys later volume node := by
  unfold HoldsKeys
  rw [h.1]
  exact hkeys

/-- Operations that leave the locks alone and attach and detach at most one volume at one node. -/
def Op.Targets (volume node : String) (op : Op) : Prop :=
  (op.changes == some .locks) = false ∧
    ∀ target, op.hotplug = some target → target = (volume, node)

variable {op : Op}

theorem Op.Hotplug.targets (h : op.Hotplug volume node) : op.Targets volume node := by
  cases op with
  | query q => exact ⟨rfl, h⟩
  | _ => first | exact h.elim | exact ⟨rfl, nofun⟩

theorem Op.AttachOrResponse.targets {slot : ℕ} (h : op.AttachOrResponse slot volume node) :
    op.Targets volume node := by
  cases op with
  | query q =>
    refine ⟨rfl, fun target htarget => ?_⟩
    rcases h with hnone | ⟨immutable, params, rfl⟩
    · rw [show q.hotplug = some target from htarget] at hnone
      cases hnone
    · exact (Option.some.inj htarget).symm
  | _ => first | exact h.elim | exact ⟨rfl, nofun⟩

variable {p : Prog α}

theorem meets_sameLocks {C : Contract Op Op.Answer} {allowed : Op → Prop} (hp : p.Only allowed)
    (hlocks : ∀ op, allowed op → (op.changes == some .locks) = false)
    (hguar : ∀ later op, allowed op → past <+: later → SameLocks past later → C.guar later op) :
    p.Meets C (fun later _ => SameLocks past later) past := by
  have hframe : p.Meets C (fun later _ => past <+: later ∧ SameLocks past later) past :=
    hp.meets ⟨List.prefix_rfl, rfl, rfl⟩ (fun later op hop h => hguar later op hop h.1 h.2)
      fun _ _ _ hop h =>
        ⟨h.1.trans (List.prefix_append _ _), sameLocks_append (hlocks _ hop) h.2⟩
  exact hframe.mono fun _ _ h => h.2

theorem Op.Targets.guar (h : op.Targets volume node) (hkeys : HoldsKeys past volume node) :
    hotplugContract.guar past op := by
  refine ⟨lockDiscipline_of_bare h.1, fun volume' node' htarget => ?_⟩
  obtain ⟨rfl, rfl⟩ := Prod.mk.inj (h.2 _ htarget)
  exact hkeys

theorem meets_hotplug (hp : p.Only (Op.Hotplug volume node)) (hkeys : HoldsKeys past volume node) :
    p.Meets hotplugContract (fun later _ => SameLocks past later) past :=
  meets_sameLocks hp (fun _ h => h.targets.1) fun _ _ h _ hsame =>
    h.targets.guar (hsame.holdsKeys hkeys)

theorem hotplugContract_locks : LockAware hotplugContract where
  rely _ _ _ h := h
  guar past op hlocks hdiscipline := by
    refine ⟨hdiscipline, fun volume node htarget => ?_⟩
    rw [hlocks.hotplug_eq] at htarget
    cases htarget

/-! ## The queued functions -/

section Functions

variable {cfg : Config}

/-- No mutex is held or registered at. -/
def Idle (past : History) : Prop :=
  lockTable.held past = [] ∧ registered past = []

theorem idle_append {ans : op.Answer} (hop : op.Bare) (h : Idle past) :
    Idle (past ++ [⟨op, ans⟩]) := by
  have hsame : SameLocks past (past ++ [⟨op, ans⟩]) := sameLocks_append hop.1 ⟨rfl, rfl⟩
  exact ⟨hsame.1.trans h.1, hsame.2.trans h.2⟩

theorem carries_hotplugContract : Carries hotplugContract Idle where
  guar past op hop := by
    refine ⟨lockDiscipline_of_bare hop.1, fun volume node htarget => ?_⟩
    rw [hop.2] at htarget
    cases htarget
  frame _ _ _ hop h := idle_append hop h

/-- A publish below its locks. A move away from another node takes the lock of that node on top of
the locks of the publish. -/
theorem LockAware.meets_publish {C : Contract Op Op.Answer} {req : PublishRequest}
    {volumeID nodeID : Int} {slot : ℕ} (hC : LockAware C)
    (hbare : ∀ past op, op.Bare → C.guar past op)
    (hattach : ∀ later op, op.AttachOrResponse slot req.volumeId req.nodeId → SameLocks past later →
      C.guar later op)
    (hpast : ∀ ref ∈ lockTable.held past, ref ∈ registered past)
    (hkeys : HoldsKeys past req.volumeId req.nodeId)
    (hleave : ∀ state inner, past <+: inner → HoldsKeys inner req.volumeId req.nodeId →
      (∃ ref ∈ lockTable.held inner, ref.key = controllerNodeLockKey state.nodeID) →
      (∃ ref before, inner = before ++ [⟨.lock ref, ()⟩]) →
      (leaveOldNode req volumeID state).Meets C (fun later _ => SameLocks inner later) inner) :
    ((Closure.publish req volumeID nodeID slot).underLocks cfg).Meets C
      (fun later _ => SameLocks past later) past := by
  have hstill {β : Type} {p : Prog β} {later : History} (hp : p.Only Op.Bare) :
      p.Meets C (fun last _ => SameLocks later last) later :=
    meets_sameLocks hp (fun _ h => h.1) fun later op hop _ _ => hbare later op hop
  have hreuse : (reuseStickyAttachment cfg req volumeID nodeID).Meets C
      (fun later _ => SameLocks past later) past := by
    have hget : (Op.stickyGet (.reuse req.nodeId) req.volumeId).Bare := ⟨rfl, rfl⟩
    refine (hstill (only_perform.2 hget)).extends.bind fun later entry hlater => ?_
    obtain ⟨hgrown, hsame⟩ := hlater
    cases entry with
    | none => exact meets_pure.2 hsame
    | some state => ?_
    simp only
    split
    · refine (hstill (bare_of_still (Only.bind (still_query _ rfl) fun answer => ?_))).mono
        fun last _ hlast => hsame.trans hlast
      cases answer with
      | error err => exact (still_stickyClear _).bind fun _ => only_pure
      | ok target => ?_
      refine (still_clearForPublish _).bind fun answer => ?_
      cases answer with
      | some err => exact only_pure
      | none => exact (still_publishContextForVolume _ _ _ _ _).bind fun _ => only_pure
    · have hlocked : (locked [controllerNodeLockKey state.nodeID]
          (leaveOldNode req volumeID state)).Meets C
            (fun last _ => SameLocks later last) later := by
        refine hC.meets_lockedKey (controllerNodeLockKey_ne_empty _) ?_ ?_
        · rw [hsame.1, hsame.2]
          exact hpast
        · intro ref inner hrefkey hinner hheld _ hfresh
          rw [hsame.1] at hheld
          refine hleave state inner (hgrown.trans hinner) ?_ ⟨ref, by simp [hheld], hrefkey⟩
            ⟨ref, hfresh⟩
          -- The locks of the publish are held below the one of the old node.
          obtain ⟨⟨nodeRef, hnode, hnodeKey⟩, volumeRef, hvolume, hvolumeKey⟩ := hkeys
          exact ⟨⟨nodeRef, by simp [hheld, hnode], hnodeKey⟩,
            volumeRef, by simp [hheld, hvolume], hvolumeKey⟩
      refine hlocked.bind fun last answer hlast => ?_
      have hfinal : SameLocks past last := hsame.trans hlast
      cases answer <;> exact meets_pure.2 hfinal
  refine hreuse.bind fun later outcome hsame => ?_
  have hrest {p : Prog (Option GoError)}
      (hp : p.Only (Op.AttachOrResponse slot req.volumeId req.nodeId)) :
      p.Meets C (fun last _ => SameLocks past last) later :=
    (meets_sameLocks hp (fun _ h => h.targets.1) fun last op hop _ hlast =>
      hattach last op hop (hsame.trans hlast)).mono fun _ _ hlast => hsame.trans hlast
  cases outcome with
  | failed err => exact meets_pure.2 hsame
  | reused response => exact hrest ((only_setResponse _ _ _ _).bind fun _ => only_pure)
  | notReused => exact hrest (attach_attachUnderLocks _ _ _ _ _)

theorem meets_expireUnderLocks {current : StickyAttachmentState}
    (hreaping : reaping past = some current) (hheld : lockTable.held past ≠ [])
    (hkeys : HoldsKeys past current.volumeID current.nodeID) :
    (expireUnderLocks current).Meets hotplugContract
      (fun later _ => SameLocks past later) past := by
  have hget : (Op.stickyGet .other current.volumeID).Bare := ⟨rfl, rfl⟩
  refine .perform ⟨lockDiscipline_of_bare hget.1, nofun⟩ fun entry hentry => ?_
  have hsame : SameLocks past (past ++ [⟨.stickyGet .other current.volumeID, entry⟩]) :=
    sameLocks_append rfl ⟨rfl, rfl⟩
  cases entry with
  | none => exact meets_pure.2 hsame
  | some confirmed => ?_
  obtain ⟨hnode, hvolume⟩ := hentry current confirmed hreaping hheld rfl
  have hconfirmed : HoldsKeys (past ++ [⟨.stickyGet .other current.volumeID, some confirmed⟩])
      confirmed.volumeID confirmed.nodeID := by
    rw [hnode, hvolume]
    exact hsame.holdsKeys hkeys
  refine (meets_hotplug (hotplug_expireConfirmed confirmed) hconfirmed).mono
    fun last _ hlast => hsame.trans hlast

variable {fn : Closure}

theorem Closure.meets_underLocks (hruns : Runs kind past fn)
    (hpast : ∀ ref ∈ lockTable.held past, ref ∈ registered past)
    (hkeys : HoldsKeys past fn.volume fn.node) :
    (fn.underLocks cfg).Meets hotplugContract (fun later _ => SameLocks past later) past := by
  cases fn with
  | unpublish req volumeID nodeID => exact meets_hotplug (hotplug_unpublishUnderLocks _ _ _ _) hkeys
  | detachObservedAttachment attachment =>
    exact meets_hotplug (hotplug_detachObservedUnderLocks _) hkeys
  | localDeviceRecovery report runtimeCtx volumeID nodeID =>
    exact meets_hotplug (hotplug_recoverUnderLocks _ _ _ _) hkeys
  | expireStickyDetach current =>
    refine meets_expireUnderLocks hruns.reaping_eq (fun hnil => ?_) hkeys
    obtain ⟨ref, href, -⟩ := hkeys.1
    rw [hnil] at href
    cases href
  | publish req volumeID nodeID slot =>
    exact hotplugContract_locks.meets_publish carries_hotplugContract.guar
      (fun _ _ hop hsame => hop.targets.guar (hsame.holdsKeys hkeys)) hpast hkeys
      fun state inner _ hinner hold _ =>
        meets_hotplug (hotplug_leaveOldNode req volumeID state) ⟨hold, hinner.2⟩

/-- A contract holds of a queued function if it holds of what the function does below its locks, in
the section that starts when it has taken both of them. -/
theorem Closure.keepsIdle {C : Contract Op Op.Answer} (hC : LockAware C)
    (hunder : ∀ inner, past <+: inner → (∀ ref ∈ lockTable.held inner, ref ∈ registered inner) →
      HoldsKeys inner fn.volume fn.node → (∃ ref before, inner = before ++ [⟨.lock ref, ()⟩]) →
      (fn.underLocks cfg).Meets C (fun later _ => SameLocks inner later) inner) :
    KeepsAfter C Idle past (fn.body cfg) := by
  intro start hstart hidle
  unfold Closure.body
  refine (hC.meets_lockedKey (controllerNodeLockKey_ne_empty _) ?_ ?_).mono
    fun later _ hsame => ⟨hsame.1.trans hidle.1, hsame.2.trans hidle.2⟩
  · simp [hidle.1]
  · intro nodeRef afterNode hnodeKey hafterNode hheldNode hregNode _
    refine hC.meets_lockedKey (controllerVolumeLockKey_ne_empty _) ?_ ?_
    · rw [hheldNode, hregNode, hidle.1, hidle.2]
      exact fun _ h => h
    · intro volumeRef inner hvolumeKey hinner hheld hreg hfresh
      rw [hheldNode, hidle.1] at hheld
      rw [hregNode, hidle.2] at hreg
      refine hunder inner (hstart.trans (hafterNode.trans hinner)) ?_
        ⟨⟨nodeRef, ?_, hnodeKey⟩, ⟨volumeRef, ?_, hvolumeKey⟩⟩ ⟨volumeRef, hfresh⟩
      · rw [hheld, hreg]
        exact fun _ h => h
      · simp [hheld]
      · simp [hheld]

theorem Closure.keepsLocks (hruns : Runs kind past fn) :
    KeepsAfter hotplugContract Idle past (fn.body cfg) :=
  Closure.keepsIdle hotplugContract_locks fun _ hinner hregistered hkeys _ =>
    Closure.meets_underLocks (hruns.mono hinner) hregistered hkeys

theorem meets_controllerExpandVolume {C : Contract Op Op.Answer} {req : ExpandRequest}
    (hC : LockAware C) (hcarries : Carries C Idle) :
    (controllerExpandVolume cfg req).Meets C (fun later _ => Idle later) [] := by
  have hnil : Idle [] := ⟨rfl, rfl⟩
  unfold controllerExpandVolume
  split
  · exact meets_pure.2 hnil
  split
  · exact meets_pure.2 hnil
  split
  · split
    · exact meets_pure.2 hnil
    split
    · exact meets_pure.2 hnil
    refine hcarries.bare (bare_of_still (Only.bind (still_query _ rfl) fun answer => ?_)) []
      List.prefix_rfl hnil
    cases answer <;> exact only_pure
  · refine (hC.meets_lockedKey (controllerVolumeLockKey_ne_empty _) (by simp [hnil.1]) ?_).mono
      fun later _ hsame => ⟨hsame.1.trans hnil.1, hsame.2.trans hnil.2⟩
    intro ref later _ _ _ _ _
    refine (bare_of_still (Only.bind (still_query _ rfl) fun answer => ?_)).meets ⟨rfl, rfl⟩
      (fun past op hop _ => hcarries.guar past op hop)
      fun _ _ _ hop hsame => sameLocks_append hop.1 hsame
    cases answer <;> exact only_pure

end Functions

/-! ## Runs -/

/-- Condition on a step: if it is the reaper reading the entry again under its locks, then the
volume has no entry, or one of the volume and the node it has locked. -/
def sameEntry (s : ControllerPool) : ControllerStep → Bool
  | .act t _ =>
    match s.nextOp? t, reaping (s.history t) with
    | some (.stickyGet .other volume), some current =>
      lockTable.held (s.history t) = [] || (s.world.sticky volume).all fun state =>
        state.nodeID = current.nodeID && state.volumeID = current.volumeID
    | _, _ => true
  | _ => true

variable {s : ControllerPool}

theorem hotplugRely_of_sameEntry {cfg : Config} {t : ℕ} {oracle : Oracle}
    {thread : Thread Op Op.Answer Kind Outcome} {next : op.Answer → Prog Outcome} {ans : op.Answer}
    {w : World} (hkeyed : s.world.locks.Keyed) (hok : sameEntry s (.act t oracle))
    (hthread : s.threads[t]? = some thread) (hprog : thread.prog = .call op next)
    (hact : act cfg oracle s.world t op = some (ans, w)) : HotplugRely (s.history t) op ans := by
  have hnext := Pool.nextOp?_of_call hthread hprog
  cases op with
  | registerLocks keys =>
    obtain ⟨rfl, -⟩ := answer_inj hact
    exact OperationLocks.register_keys hkeyed _
  | stickyGet reader volume =>
    obtain ⟨rfl, -⟩ := answer_inj hact
    cases reader with
    | reuse node => trivial
    | other => ?_
    intro current state hreaping hheld hstate
    simp only [sameEntry, hnext, hreaping] at hok
    simpa [hheld, hstate] using hok
  | _ => trivial

theorem reachable_hotplugContract {cfg : Config} (hs : Reachable cfg (fun s l => sameEntry s l) s) :
    s.Conforms (fun _ => hotplugContract) fun _ later _ => Idle later := by
  refine (hs.conforms_and_kept ?_ ?_).1
  · intro w kind prog w' hstart
    rw [(start_frame hstart).1]
    refine Kind.carries carries_hotplugContract ⟨rfl, rfl⟩ (fun fn past hruns => ?_) ?_
    · exact Closure.keepsLocks hruns
    · rintro req rfl
      exact meets_controllerExpandVolume hotplugContract_locks carries_hotplugContract
  · intro s t oracle thread op next ans w hreach hok hthread hprog hact
    exact hotplugRely_of_sameEntry (reachable_keyed hreach) hok hthread hprog hact

/-- As long as the reaper finds under its locks an entry of the volume and the node it has locked,
every attach and detach is issued by a goroutine that holds the locks of the very node and the very
volume of the call, whatever the requests, the answers of the outside world and the interleaving. -/
theorem hotplug_under_locks {cfg : Config} {s : ControllerPool}
    (hs : Reachable cfg (fun s l => sameEntry s l) s) {t : ℕ} {q : Query} {volume node : String}
    (hnext : s.nextOp? t = some (.query q)) (hq : q.hotplug = some (volume, node)) :
    HoldsLock s t (controllerNodeLockKey node) ∧
      HoldsLock s t (controllerVolumeLockKey volume) := by
  obtain ⟨thread, hthread, hop⟩ := Option.bind_eq_some_iff.1 hnext
  obtain ⟨next, hprog⟩ := Program.nextOp?_eq_some.1 hop
  have hguar := (reachable_hotplugContract hs).guar hthread hprog
  obtain ⟨⟨nodeRef, hnodeMem, hnodeKey⟩, volumeRef, hvolumeMem, hvolumeKey⟩ :=
    hguar.2 volume node hq
  have hholds {ref : LockRef} (href : ref ∈ lockTable.held (s.history t)) : HoldsLock s t ref.key :=
    holdsLock_of_held (fun _ h => reachable_hotplugContract h) (fun _ _ _ h => h.1) hs href
  exact ⟨hnodeKey ▸ hholds hnodeMem, hvolumeKey ▸ hholds hvolumeMem⟩

/-! ## An entry that is replaced -/

/-- A hold of the volume "v" on the node "n2" whose grace period is over. -/
def expiredOnN2 : StickyAttachmentState :=
  { heldOnN2 with expiresAt := 0 }

/-- `count` operations of one thread in a healthy world, 200 seconds after the epoch. -/
def actsLater (attached : Int → Option String) (t count : ℕ) : List ControllerStep :=
  List.replicate count (.act t
    { answer := fun
        | .now => 200000000000
        | q => healthy attached q
      now := 200000000000
      signal := .done none })

/-- The reaper hands the expired hold to the queue, and the worker of "n2" finds the request valid,
since the volume is still there. -/
def reaperRun : List ControllerStep :=
  [.start (.expireStickyDetach expiredOnN2)] ++ acts (attachedTo 2) 0 6 ++
    [.start (.worker "n2")] ++ acts (attachedTo 2) 1 6

/-- Before the worker takes its locks, a publish moves the volume to "n1" and an unpublish from
there starts a new grace period; when the worker goes on, that one is over as well. -/
def replacedRun : List ControllerStep :=
  reaperRun ++
    [.start (.publish (publishOf "n1"))] ++ acts (attachedTo 2) 2 10 ++
    -- The worker of "n1" detaches the volume from "n2" and attaches it to "n1".
    [.start (.worker "n1")] ++ acts (attachedTo 2) 3 21 ++ acts detached 3 12 ++
    acts (attachedTo 1) 3 13 ++
    [.start (.unpublish { volumeId := "v", nodeId := "n1" })] ++ acts (attachedTo 1) 4 10 ++
    [.start (.worker "n1")] ++ acts (attachedTo 1) 5 26 ++
    actsLater (attachedTo 1) 1 11

/-- Thread `t` is about to detach the volume from the node. -/
def detaches (s : ControllerPool) (t : ℕ) (volume node : String) : Bool :=
  match s.nextOp? t with
  | some (.query (.detachVolume volume' node')) => volume' = volume && node' = node
  | _ => false

theorem nextOp?_of_detaches {t : ℕ} (h : detaches s t volume node = true) :
    s.nextOp? t = some (.query (.detachVolume volume node)) := by
  unfold detaches at h
  split at h
  · rename_i volume' node' hnext
    obtain ⟨rfl, rfl⟩ : volume' = volume ∧ node' = node := by simpa using h
    exact hnext
  · cases h

/-- The worker of "n2" holds "node:n2" and "volume:v" and detaches "v" from "n1", whose lock it does
not hold. -/
theorem detach_without_node_lock :
    ∃ s, Reachable defaultConfig (fun _ _ => True) s ∧
      s.nextOp? 1 = some (.query (.detachVolume "v" "n1")) ∧
      ¬ HoldsLock s 1 (controllerNodeLockKey "n1") := by
  have hrun : ∃ s ∈ (controller defaultConfig).run (fun _ _ => true) replacedRun
      (Pool.initial (loadedWorld (some expiredOnN2))), detaches s 1 "v" "n1" = true ∧
        (s.world.locks.locks (controllerNodeLockKey "n1")).isNone = true := by
    decide +kernel
  obtain ⟨s, hs, hdetaches, hfree⟩ := Machine.Reachable.of_run (fun _ _ _ => trivial)
    (fresh_loadedWorld _) hrun
  refine ⟨s, hs, nextOp?_of_detaches hdetaches, ?_⟩
  rintro ⟨ref, hcurrent, -⟩
  rw [Option.isNone_iff_eq_none.1 hfree] at hcurrent
  cases hcurrent

/-- If the entry stays, the same worker detaches the volume from "n2" under both locks. -/
theorem detach_with_both_locks :
    ∃ s, Reachable defaultConfig (fun s l => sameEntry s l) s ∧
      s.nextOp? 1 = some (.query (.detachVolume "v" "n2")) ∧
      HoldsLock s 1 (controllerNodeLockKey "n2") ∧ HoldsLock s 1 (controllerVolumeLockKey "v") := by
  have hrun : ∃ s ∈ (controller defaultConfig).run sameEntry
      (reaperRun ++ actsLater (attachedTo 2) 1 11)
      (Pool.initial (loadedWorld (some expiredOnN2))), detaches s 1 "v" "n2" = true := by
    decide +kernel
  obtain ⟨s, hs, hdetaches⟩ := Machine.Reachable.of_run (fun _ _ h => h) (fresh_loadedWorld _) hrun
  have hnext := nextOp?_of_detaches hdetaches
  exact ⟨s, hs, hnext, hotplug_under_locks hs hnext rfl⟩

end OpenNebulaCSI.Controller
