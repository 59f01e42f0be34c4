import Mathlib.Data.Set.Finite.Lemmas
import OpenNebulaCSI.Concurrency.LockOrder
import OpenNebulaCSI.Controller.Frames

/-!
# Circular waits between requests

Every queued function takes the lock of its node and then the lock of its volume, and an expansion
takes only the lock of its volume. Ranking node keys below volume keys, all of them ask only for
keys above the ones they hold, so by `LockTable.not_circularWait` they never wait in a circle.

The exception is a publish that finds a sticky entry on **another** node: it already holds the locks
of its own node and of the volume when `reuseStickyAttachment` asks for the lock of the old node.
`moveRun` is a run in which this closes a circle with an unpublish from the old node, and
`sameNodeReuse` is the condition that no such entry is found.
-/

namespace OpenNebulaCSI.Controller

open Go Concurrency Program

/-- The operation locks, seen as a lock table. -/
def lockTable : LockTable Op World LockRef where
  acquires
    | .lock ref => some ref
    | _ => none
  releases
    | .unlock ref => some ref
    | _ => none
  holder w := w.locks.holder

/-- A set of requests, each blocked on a key that another one of them holds. -/
def CircularWait (s : ControllerPool) : Prop :=
  Concurrency.CircularWait (lockTable.Holds s) (lockTable.Blocked s)

/-! ## The lock table in a run -/

variable {cfg : Config} {oracle : Oracle} {w : World} {t : ℕ} {op : Op} {ans : op.Answer}

theorem act_holder {w' : World} (hact : act cfg oracle w t op = some (ans, w'))
    (hacq : lockTable.acquires op = none) (hrel : lockTable.releases op = none) :
    w'.locks.holder = w.locks.holder := by
  by_cases hlocks : op.changes = some .locks
  · cases op with
    | registerLocks keys =>
      obtain ⟨-, rfl⟩ := answer_inj hact
      exact OperationLocks.holder_register _
    | unregisterLocks refs =>
      obtain ⟨-, rfl⟩ := answer_inj hact
      exact OperationLocks.holder_unregister _
    | lock ref => cases hacq
    | unlock ref => cases hrel
    | _ => cases hlocks
  · rw [act_locks hact hlocks]

theorem lockTable_respected (cfg : Config) : lockTable.Respected (controller cfg) where
  acquire := by
    intro oracle w t op ans w' ref hact hacq
    cases op with
    | lock ref' =>
      cases hacq
      obtain ⟨locks, hlock, h⟩ := Option.map_eq_some_iff.1 hact
      cases h
      simp only [OperationLocks.lock] at hlock
      split at hlock <;> cases hlock
      rfl
    | _ => cases hacq
  release := by
    intro oracle w t op ans w' ref hact _ hrel
    cases op with
    | unlock ref' =>
      cases hrel
      cases hact
      rfl
    | _ => cases hrel
  frame := fun _ _ _ _ _ _ hact hacq hrel => act_holder hact hacq hrel
  start := by
    intro w kind prog w' hstart
    obtain ⟨-, starting, rfl⟩ := start_frame hstart
    rfl
  change := by
    intro resync w w' hchange
    cases resync
    cases hchange
    rfl

theorem act_keyed {w' : World} (hw : w.locks.Keyed)
    (hact : act cfg oracle w t op = some (ans, w')) : w'.locks.Keyed := by
  by_cases hlocks : op.changes = some .locks
  · cases op with
    | registerLocks keys =>
      obtain ⟨-, rfl⟩ := answer_inj hact
      exact OperationLocks.register_keyed hw _
    | unregisterLocks refs =>
      obtain ⟨-, rfl⟩ := answer_inj hact
      exact OperationLocks.unregister_keyed hw _
    | lock ref =>
      obtain ⟨locks, hlock, h⟩ := Option.map_eq_some_iff.1 hact
      cases h
      simp only [OperationLocks.lock] at hlock
      split at hlock <;> cases hlock
      exact hw
    | unlock ref =>
      cases hact
      exact hw
    | _ => cases hlocks
  · rwa [act_locks hact hlocks]

variable {s : ControllerPool}

theorem reachable_keyed {ok : ControllerPool → ControllerStep → Prop} (hs : Reachable cfg ok s) :
    s.world.locks.Keyed := by
  induction hs with
  | initial hw =>
    obtain ⟨entries, rfl⟩ := hw
    intro key ref hlock
    cases hlock
  | step _ _ h ih =>
    rcases Machine.step_cases h with ⟨hstart⟩ |
      @⟨t, env, thread, op, next, ans, world, -, -, hact⟩ | @⟨c, world, hchange⟩
    · obtain ⟨-, starting, rfl⟩ := start_frame hstart
      exact ih
    · exact act_keyed ih hact
    cases c
    cases hchange
    exact ih

/-! ## The order of the keys -/

/-- Node keys come before volume keys. -/
def lockRank (ref : LockRef) : Fin 2 :=
  if hasPrefix ref.key "node:" then 0 else 1

theorem lockRank_node {ref : LockRef} {node : String} (h : ref.key = controllerNodeLockKey node) :
    lockRank ref = 0 := by
  simp [lockRank, h, controllerNodeLockKey, hasPrefix_append]

theorem lockRank_volume {ref : LockRef} {volume : String}
    (h : ref.key = controllerVolumeLockKey volume) : lockRank ref = 1 := by
  simp [lockRank, h, controllerVolumeLockKey, hasPrefix]

/-- What a request relies on: registering at keys gives mutexes of these keys, and a sticky entry
found for reuse is on the node it is wanted on. -/
def LockRely : (op : Op) → op.Answer → Prop
  | .registerLocks keys, refs => refs.map LockRef.key = OperationLocks.normalizeLockKeys keys
  | .stickyGet (.reuse node) _, entry =>
    ∀ state, entry = some state → trimSpace state.nodeID = trimSpace node
  | _, _ => True

/-- Requests take keys in the order of their ranks. -/
def lockContract : Contract Op Op.Answer where
  rely _ op ans := LockRely op ans
  guar past op := lockTable.Ordered lockRank past op

/-- Started without locks, the program takes keys in order and ends without locks. -/
def KeepsLockOrder {α : Type} (p : Prog α) : Prop :=
  ∀ past, lockTable.held past = [] →
    p.Meets lockContract (fun later _ => lockTable.held later = []) past

variable {α β : Type}

/-- Operations that neither take nor return a key. -/
def NoLock (op : Op) : Prop :=
  lockTable.acquires op = none ∧ lockTable.releases op = none

theorem Op.PlainOrResponse.noLock {slot : ℕ} (h : op.PlainOrResponse slot) : NoLock op := by
  cases op <;> first | exact ⟨rfl, rfl⟩ | exact h.elim

theorem Op.Quiet.noLock (h : op.Quiet) : NoLock op := by
  cases op <;> first | exact ⟨rfl, rfl⟩ | exact h.elim

variable {past : History}

theorem ordered_of_noLock (h : NoLock op) : lockTable.Ordered lockRank past op := by
  intro k hk
  rw [h.1] at hk
  cases hk

theorem held_of_noLock (h : NoLock op) :
    lockTable.held (past ++ [⟨op, ans⟩]) = lockTable.held past := by
  simp [LockTable.updateHeld, h.1, h.2]

variable {p : Prog α}

theorem meets_of_noLock (hp : p.Only NoLock) :
    p.Meets lockContract (fun later _ => lockTable.held later = lockTable.held past) past :=
  hp.meets rfl (fun _ _ h _ => ordered_of_noLock h) fun _ _ _ h hframe => by
    rw [held_of_noLock h, hframe]

theorem keepsLockOrder_of_noLock (hp : p.Only NoLock) : KeepsLockOrder p :=
  fun _ hpast => (meets_of_noLock hp).mono fun _ _ hheld => hheld.trans hpast

theorem keepsLockOrder_pure {value : α} : KeepsLockOrder (pure value) :=
  fun _ hpast => meets_pure.2 hpast

theorem KeepsLockOrder.bind {f : α → Prog β} (hp : KeepsLockOrder p)
    (hf : ∀ value, KeepsLockOrder (f value)) : KeepsLockOrder (p >>= f) :=
  fun past hpast => meets_bind.2
    ((hp past hpast).mono fun later value hlater => hf value later hlater)

theorem keepsLockOrder_perform (h : NoLock op) : KeepsLockOrder (perform op) :=
  keepsLockOrder_of_noLock (only_perform.2 h)

/-- Taking a key above all held ones, and a body that ends with the keys it started with. -/
theorem locked_meets {key : String} {body : Prog α} (hkey : key ≠ "")
    (hrank : ∀ ref : LockRef, ref.key = key → ∀ k ∈ lockTable.held past, lockRank k < lockRank ref)
    (hbody : ∀ ref later, ref.key = key → lockTable.held later = ref :: lockTable.held past →
      body.Meets lockContract (fun last _ => lockTable.held last = lockTable.held later) later) :
    (locked [key] body).Meets lockContract
      (fun later _ => lockTable.held later = lockTable.held past) past := by
  unfold locked
  refine .perform (ordered_of_noLock ⟨rfl, rfl⟩) fun refs hrefs => ?_
  -- Registering at one key gives one mutex.
  have hrefs : refs.map LockRef.key = [key] := hrefs.trans (normalizeLockKeys_singleton hkey)
  obtain ⟨ref, rfl, hrefkey⟩ : ∃ ref, refs = [ref] ∧ ref.key = key := by
    match refs, hrefs with
    | [ref], h => exact ⟨ref, rfl, by simpa using h⟩
  have hheld : lockTable.held (past ++ [⟨Op.registerLocks [key], [ref]⟩]) = lockTable.held past :=
    held_of_noLock ⟨rfl, rfl⟩
  simp only [lockAll, unlockAll, List.reverse_singleton, meets_bind, meets_perform, meets_pure]
  refine ⟨fun k hk k' hk' => ?_, fun _ _ => (hbody ref _ hrefkey ?_).mono fun later _ hlater => ?_⟩
  · obtain rfl : ref = k := by simpa [lockTable] using hk
    exact hrank ref hrefkey k' (hheld ▸ hk')
  · rw [LockTable.held_append_singleton, hheld]
    rfl
  · refine ⟨fun k hk => (by cases hk), fun _ _ => ⟨ordered_of_noLock ⟨rfl, rfl⟩, fun _ _ => ?_⟩⟩
    rw [held_of_noLock ⟨rfl, rfl⟩, LockTable.held_append_singleton, hlater,
      LockTable.held_append_singleton, hheld]
    simp [LockTable.updateHeld, lockTable]

/-! ## The requests -/

theorem controllerNodeLockKey_ne_empty (node : String) : controllerNodeLockKey node ≠ "" := by
  simp [controllerNodeLockKey]

theorem controllerVolumeLockKey_ne_empty (volume : String) :
    controllerVolumeLockKey volume ≠ "" := by
  simp [controllerVolumeLockKey]

/-- A reuse that finds no entry on another node takes no lock. -/
theorem reuseStickyAttachment_meets (cfg : Config) (req : PublishRequest) (volumeID nodeID : Int)
    (past : History) :
    (reuseStickyAttachment cfg req volumeID nodeID).Meets lockContract
      (fun later _ => lockTable.held later = lockTable.held past) past := by
  unfold reuseStickyAttachment
  refine .perform (ordered_of_noLock ⟨rfl, rfl⟩) fun entry hentry => ?_
  have hheld : lockTable.held
      (past ++ [⟨Op.stickyGet (.reuse req.nodeId) req.volumeId, entry⟩]) = lockTable.held past :=
    held_of_noLock ⟨rfl, rfl⟩
  cases entry with
  | none => exact meets_pure.2 hheld
  | some state => ?_
  have hsame : trimSpace state.nodeID = trimSpace req.nodeId := hentry state rfl
  simp only [hsame, if_true]
  rw [← hheld]
  refine meets_of_noLock
    (Only.mono ?_ fun _ h => Op.Quiet.noLock (Op.Plain.quiet (Op.Still.plain h)))
  refine Only.perform rfl fun answer => ?_
  cases answer with
  | error err => exact (still_stickyClear _).bind fun _ => only_pure
  | ok target => ?_
  refine (still_clearForPublish _).bind fun answer => ?_
  cases answer with
  | some err => exact only_pure
  | none => exact (still_publishContextForVolume _ _ _ _ _).bind fun _ => only_pure

theorem Closure.underLocks_meets (cfg : Config) (fn : Closure) (past : History) :
    (fn.underLocks cfg).Meets lockContract
      (fun later _ => lockTable.held later = lockTable.held past) past := by
  have hplain {p : Prog (Option GoError)} (hp : PlainProgram p) :
      p.Meets lockContract (fun later _ => lockTable.held later = lockTable.held past) past :=
    meets_of_noLock (hp.mono fun _ h => h.quiet.noLock)
  cases fn with
  | unpublish req volumeID nodeID =>
    exact hplain ((hotplug_unpublishUnderLocks _ _ _ _).mono fun _ h => h.plain)
  | expireStickyDetach current => exact hplain (plain_expireUnderLocks _)
  | detachObservedAttachment attachment =>
    exact hplain ((hotplug_detachObservedUnderLocks _).mono fun _ h => h.plain)
  | localDeviceRecovery report runtimeCtx volumeID nodeID =>
    exact hplain ((hotplug_recoverUnderLocks _ _ _ _).mono fun _ h => h.plain)
  | publish req volumeID nodeID slot => ?_
  refine (reuseStickyAttachment_meets cfg req volumeID nodeID past).bind
    fun later outcome hlater => ?_
  rw [← hlater]
  cases outcome with
  | failed err => exact meets_pure.2 rfl
  | reused response =>
    exact meets_of_noLock ((only_perform.2 ⟨rfl, rfl⟩).bind fun _ => only_pure)
  | notReused =>
    exact meets_of_noLock ((only_attachUnderLocks _ _ _ _ _).mono fun _ h => h.noLock)

theorem Closure.keepsLockOrder (cfg : Config) (fn : Closure) : KeepsLockOrder (fn.body cfg) := by
  intro past hpast
  unfold Closure.body
  refine (locked_meets (controllerNodeLockKey_ne_empty _) (by simp [hpast]) ?_).mono
    fun later _ hlater => hlater.trans hpast
  intro nodeRef afterNode hnodeRef hafterNode
  refine locked_meets (controllerVolumeLockKey_ne_empty _) ?_ fun _ later _ _ =>
    fn.underLocks_meets cfg later
  intro volumeRef hvolumeRef k hk
  obtain rfl : k = nodeRef := by simpa [hafterNode, hpast] using hk
  rw [lockRank_node hnodeRef, lockRank_volume hvolumeRef]
  decide

theorem controllerExpandVolume_keepsLockOrder (cfg : Config) (req : ExpandRequest) :
    KeepsLockOrder (controllerExpandVolume cfg req) := by
  unfold controllerExpandVolume
  split
  · exact keepsLockOrder_pure
  split
  · exact keepsLockOrder_pure
  split
  · split
    · exact keepsLockOrder_pure
    split
    · exact keepsLockOrder_pure
    · refine (keepsLockOrder_perform ⟨rfl, rfl⟩).bind fun answer => ?_
      cases answer <;> exact keepsLockOrder_pure
  · intro past hpast
    refine (locked_meets (controllerVolumeLockKey_ne_empty _) (by simp [hpast]) ?_).mono
      fun later _ hlater => hlater.trans hpast
    intro ref later _ _
    refine meets_of_noLock ((only_perform.2 ⟨rfl, rfl⟩).bind fun answer => ?_)
    cases answer <;> exact only_pure

theorem Op.Bare.noLock (h : op.Bare) : NoLock op := by
  cases op with
  | lock _ | unlock _ => cases h.1
  | _ => exact ⟨rfl, rfl⟩

/-- All goroutines keep to the order, since the functions they execute do. -/
theorem Kind.keepsLockOrder (cfg : Config) (kind : Kind) :
    (kind.program cfg).Meets lockContract (fun later _ => lockTable.held later = []) [] := by
  refine Kind.carries ⟨fun _ _ hop => ordered_of_noLock hop.noLock, ?_⟩ rfl ?_ ?_
  · intro past op ans hop hpast
    rw [held_of_noLock hop.noLock, hpast]
  · exact fun fn _ _ later _ hlater => fn.keepsLockOrder cfg later hlater
  · exact fun req _ => controllerExpandVolume_keepsLockOrder cfg req [] rfl

/-! ## Runs -/

/-- Condition on a step: if it is a publish looking for a sticky attachment to reuse, then the
volume has no sticky entry, or one on the requested node. -/
def sameNodeReuse (s : ControllerPool) : ControllerStep → Bool
  | .act t _ =>
    match s.nextOp? t with
    | some (.stickyGet (.reuse node) volume) =>
      (s.world.sticky volume).all fun state => trimSpace state.nodeID = trimSpace node
    | _ => true
  | _ => true

theorem lockRely_of_sameNodeReuse {thread : Thread Op Op.Answer Kind Outcome}
    {next : op.Answer → Prog Outcome} (hkeyed : s.world.locks.Keyed)
    (hok : sameNodeReuse s (.act t oracle)) (hthread : s.threads[t]? = some thread)
    (hprog : thread.prog = .call op next) (hact : act cfg oracle s.world t op = some (ans, w)) :
    LockRely op ans := by
  have hnext := Pool.nextOp?_of_call hthread hprog
  simp only [sameNodeReuse, hnext] at hok
  cases op with
  | registerLocks keys =>
    obtain ⟨rfl, -⟩ := answer_inj hact
    exact OperationLocks.register_keys hkeyed _
  | stickyGet reader volume =>
    obtain ⟨rfl, -⟩ := answer_inj hact
    cases reader with
    | reuse node =>
      intro state hstate
      simpa [hstate] using hok
    | other => trivial
  | _ => trivial

/-- As long as no publish finds a sticky entry on another node, no set of requests ever waits in a
circle, whatever the requests, the answers of the outside world and the interleaving. -/
theorem not_circularWait_of_sameNodeReuse (cfg : Config) {s : ControllerPool}
    (hs : Reachable cfg (fun s l => sameNodeReuse s l) s) : ¬ CircularWait s := by
  have hconf : s.Conforms (fun _ => lockContract) fun _ later _ => lockTable.held later = [] := by
    refine (hs.conforms_and_kept ?_ ?_).1
    · intro w kind prog w' hstart
      rw [(start_frame hstart).1]
      exact kind.keepsLockOrder cfg
    · intro s t oracle thread op next ans w hreach hok hthread hprog hact
      exact lockRely_of_sameNodeReuse (reachable_keyed hreach) hok hthread hprog hact
  refine LockTable.not_circularWait (lockTable_respected cfg) ?_ hs hconf fun _ _ _ h => h
  rintro w ⟨entries, rfl⟩ k
  rfl

/-! ## A volume that moves -/

/-- Thread `t` is blocked on a key that thread `t'` holds. -/
def waitsFor (s : ControllerPool) (t t' : ℕ) : Bool :=
  match (s.nextOp? t).bind lockTable.acquires with
  | some ref => s.world.locks.holder ref = some t'
  | none => false

theorem waitsFor_blocked {t' : ℕ} (h : waitsFor s t t' = true) :
    ∃ ref, lockTable.Blocked s t ref ∧ lockTable.Holds s t' ref := by
  unfold waitsFor at h
  split at h
  · rename_i ref href
    have hholder : s.world.locks.holder ref = some t' := by simpa using h
    exact ⟨ref, ⟨href, Option.isSome_iff_exists.2 ⟨t', hholder⟩⟩, hholder⟩
  · cases h

/-- A hold of the volume "v" on the node "n2". -/
def heldOnN2 : StickyAttachmentState where
  volumeID := "v"
  nodeID := "n2"
  backend := "local"
  datastoreID := 100
  pvcNamespace := "default"
  pvcName := "claim"
  startedAt := 0
  expiresAt := 90000000000
  graceSeconds := 90
  reason := "stateful_restart"
  lastKnownNodeReady := true

/-- A publish of "v" to "n1" runs up to its first lock beyond its own two keys, or to its attach;
an unpublish of "v" from "n2" then runs until it needs the key of the volume. -/
def moveRun (publishSteps : ℕ) : List ControllerStep :=
  [.start (.publish (publishOf "n1"))] ++ acts (attachedTo 2) 0 10 ++
    [.start (.worker "n1")] ++ acts (attachedTo 2) 1 publishSteps ++
    [.start (.unpublish { volumeId := "v", nodeId := "n2" })] ++ acts (attachedTo 2) 2 10 ++
    [.start (.worker "n2")] ++ acts (attachedTo 2) 3 9

/-- The publish holds "node:n1" and "volume:v" and waits for "node:n2"; the unpublish holds
"node:n2" and waits for "volume:v". -/
theorem circularWait_reachable :
    ∃ s, Reachable defaultConfig (fun _ _ => True) s ∧ CircularWait s := by
  have hrun : ∃ s ∈ (controller defaultConfig).run (fun _ _ => true) (moveRun 15)
      (Pool.initial (loadedWorld (some heldOnN2))),
        waitsFor s 1 3 = true ∧ waitsFor s 3 1 = true := by
    decide +kernel
  obtain ⟨s, hs, h13, h31⟩ := Machine.Reachable.of_run (fun _ _ _ => trivial)
    (fresh_loadedWorld _) hrun
  obtain ⟨ref, hblocked, hholds⟩ := waitsFor_blocked h13
  obtain ⟨ref', hblocked', hholds'⟩ := waitsFor_blocked h31
  refine ⟨s, hs, {1, 3}, ⟨1, by simp⟩, ?_⟩
  rintro t (rfl | rfl)
  · exact ⟨ref, hblocked, 3, by simp, by simp, hholds⟩
  · exact ⟨ref', hblocked', 1, by simp, by simp, hholds'⟩

/-- Without a sticky entry the same requests contend for the volume but wait in no circle. -/
theorem contention_without_circularWait :
    ∃ s, Reachable defaultConfig (fun s l => sameNodeReuse s l) s ∧ waitsFor s 3 1 = true ∧
      ¬ CircularWait s := by
  have hrun : ∃ s ∈ (controller defaultConfig).run sameNodeReuse (moveRun 14)
      (Pool.initial (loadedWorld none)), waitsFor s 3 1 = true := by
    decide +kernel
  obtain ⟨s, hs, hwaits⟩ := Machine.Reachable.of_run (fun _ _ h => h) (fresh_loadedWorld _) hrun
  exact ⟨s, hs, hwaits, not_circularWait_of_sameNodeReuse defaultConfig hs⟩

end OpenNebulaCSI.Controller
