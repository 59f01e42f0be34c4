import OpenNebulaCSI.Controller.HotplugQueue
import OpenNebulaCSI.KubeRuntime.ConfigMaps

/-!
# Persisting snapshots

How snapshots of the hotplug queue get to their ConfigMap. A snapshot is handed to
`persistSnapshot`, by the caller itself or in a goroutine of its own. It is written at once, or it
waits for a timer and may be replaced by another one until that fires. A snapshot without requests
deletes the key of the node. The serial number of a snapshot, which the code does not have, tells
which one is older.

Nothing orders the steps. If those for each node are taken in the order of their snapshots
(`InTurn`), the last snapshot of a node is on its way, or it is what the ConfigMap holds (`Latest`).
-/

namespace OpenNebulaCSI.Queue

open Controller KubeRuntime Function List

/-- `HotplugQueueItemSnapshot`. -/
structure ItemSnapshot where
  id : ℕ
  node : String
  operation : Operation
  volume : String
  priority : Priority
  enqueuedAt : Int
  startedAt : Option Int
  coalesced : ℕ
  deriving DecidableEq

/-- `HotplugQueueNodeSnapshot`. -/
structure NodeSnapshot where
  node : String
  active : Option ItemSnapshot
  queued : List ItemSnapshot
  queuedCount : ℕ
  oldestAgeSeconds : Int
  activeAgeSeconds : Int
  deriving DecidableEq

/-- Nothing is active or queued. -/
def NodeSnapshot.isEmpty (snapshot : NodeSnapshot) : Bool :=
  snapshot.active.isNone && snapshot.queuedCount = 0

/-- How far a goroutine has come with a snapshot: it calls `persistSnapshot`, it calls
`persistSnapshotNow` after a delay, or it calls the ConfigMap. -/
inductive TaskStage where
  | persist | now | write
  deriving DecidableEq

/-- A goroutine with a snapshot. A thread may wait for it, and it may hold up the next iteration of
the worker of its node. -/
structure SnapshotTask where
  snapshot : NodeSnapshot
  stage : TaskStage
  waiter : Option ℕ
  starts : Bool
  deriving DecidableEq

/-- The goroutine is about to call the ConfigMap. -/
def SnapshotTask.writes (task : SnapshotTask) : SnapshotTask :=
  { task with stage := .write }

/-- The debounce and `json.Marshal`. -/
structure SnapshotConfig where
  debounce : Int
  marshal : NodeSnapshot → String

/-- The goroutines with snapshots by serial number, `pendingSnapshots`, `snapshotTimers`, the timers
that can still fire, the calls of `flushPendingSnapshot` that wait for their lock, and the
ConfigMap. -/
structure Persistence where
  serial : ℕ
  tasks : ℕ → Option SnapshotTask
  pending : String → Option (NodeSnapshot × ℕ)
  timers : String → Option ℕ
  nextTimer : ℕ
  armed : List (ℕ × String)
  fired : List String
  data : Data

/-- What the ConfigMap should hold for a snapshot. -/
def SnapshotConfig.entry (S : SnapshotConfig) (snapshot : NodeSnapshot) : Option String :=
  if snapshot.isEmpty then none else some (S.marshal snapshot)

/-! ## Persisting snapshots -/

namespace Persistence

/-- Nothing has been persisted. -/
def new : Persistence where
  serial := 0
  tasks _ := none
  pending _ := none
  timers _ := none
  nextTimer := 0
  armed := []
  fired := []
  data _ := none

variable (p : Persistence)

/-- Hand a snapshot to `persistSnapshot`. -/
def add (snapshot : NodeSnapshot) (waiter : Option ℕ) (starts : Bool) : Persistence :=
  { p with
    serial := p.serial + 1
    tasks := Function.update p.tasks p.serial (some ⟨snapshot, .persist, waiter, starts⟩) }

def setTask (k : ℕ) (task : Option SnapshotTask) : Persistence :=
  { p with tasks := Function.update p.tasks k task }

/-- The locked section of `persistSnapshotNow`; a timer that has fired cannot be stopped. -/
def stopTimer (node : String) : Persistence :=
  { p with
    armed := p.armed.filter fun timer => !(timer.2 = node && p.timers node = some timer.1)
    timers := Function.update p.timers node none
    pending := Function.update p.pending node none }

def deferSnapshot (snapshot : NodeSnapshot) (k : ℕ) : Persistence :=
  let deferred := { p with pending := Function.update p.pending snapshot.node (some (snapshot, k)) }
  if (p.timers snapshot.node).isSome then deferred
  else
    { deferred with
      timers := Function.update p.timers snapshot.node (some p.nextTimer)
      nextTimer := p.nextTimer + 1
      armed := p.armed ++ [(p.nextTimer, snapshot.node)] }

/-- `DeleteConfigMapKey` or `UpsertConfigMapData`, which act at one instant. -/
def write (S : SnapshotConfig) (snapshot : NodeSnapshot) : Persistence :=
  { p with data := Function.update p.data snapshot.node (S.entry snapshot) }

/-- The next step of a goroutine with a snapshot. -/
def advance (S : SnapshotConfig) (k : ℕ) (task : SnapshotTask) : Persistence :=
  match task.stage with
  | .persist =>
    if task.snapshot.node = "" then p.setTask k none
    else if task.snapshot.isEmpty || S.debounce ≤ 0 then
      (p.stopTimer task.snapshot.node).setTask k (some task.writes)
    else (p.deferSnapshot task.snapshot k).setTask k none
  | .now => (p.stopTimer task.snapshot.node).setTask k (some task.writes)
  | .write => (p.write S task.snapshot).setTask k none

/-- A timer starts `flushPendingSnapshot`. -/
def fire (timer : ℕ × String) : Persistence :=
  { p with armed := p.armed.erase timer, fired := p.fired ++ [timer.2] }

/-- `flushPendingSnapshot`, up to the call of `persistSnapshotNow`. -/
def flush (node : String) : Persistence :=
  let flushed :=
    { p with
      fired := p.fired.erase node
      timers := Function.update p.timers node none
      pending := Function.update p.pending node none }
  match p.pending node with
  | none => flushed
  | some (snapshot, k) => flushed.setTask k (some ⟨snapshot, .now, none, false⟩)

/-- The thread waits for a snapshot it persists. -/
def waits (t : ℕ) : Bool :=
  (List.range p.serial).any fun k => (p.tasks k).any fun task => task.waiter = some t

/-- The worker of the node waits for a snapshot. -/
def holdsUp (node : String) : Bool :=
  (List.range p.serial).any fun k =>
    (p.tasks k).any fun task => task.starts && task.snapshot.node = node

/-- No step is outstanding. -/
structure Settled : Prop where
  tasks : ∀ k < p.serial, p.tasks k = none
  armed : p.armed = []
  fired : p.fired = []

instance : Decidable p.Settled :=
  decidable_of_iff ((∀ k < p.serial, p.tasks k = none) ∧ p.armed = [] ∧ p.fired = [])
    ⟨fun h => ⟨h.1, h.2.1, h.2.2⟩, fun h => ⟨h.tasks, h.armed, h.fired⟩⟩

end Persistence

/-- A step of the persistence. -/
inductive SnapshotChange where
  | advance (k : ℕ)
  | fire (timer : ℕ × String)
  | flush (node : String)

def Persistence.change (S : SnapshotConfig) (p : Persistence) : SnapshotChange → Option Persistence
  | .advance k => (p.tasks k).map (p.advance S k)
  | .fire timer => if timer ∈ p.armed then some (p.fire timer) else none
  | .flush node => if node ∈ p.fired then some (p.flush node) else none

/-- No goroutine has an older snapshot of the node. -/
def Persistence.Oldest (p : Persistence) (k : ℕ) (task : SnapshotTask) : Prop :=
  ∀ k' task', p.tasks k' = some task' → task'.snapshot.node = task.snapshot.node → k ≤ k'

/-- The step of a goroutine is taken in order. -/
def Persistence.InTurn (p : Persistence) : SnapshotChange → Prop
  | .advance k => ∀ task, p.tasks k = some task → p.Oldest k task
  | _ => True

/-! ## The order of snapshots -/

namespace Persistence

variable (S : SnapshotConfig) (p : Persistence)

/-- The snapshot of the node has been taken and not been dealt with. -/
def Outstanding (node : String) (snapshot : NodeSnapshot) (k : ℕ) : Prop :=
  (snapshot.node = node ∧ ∃ task, p.tasks k = some task ∧ task.snapshot = snapshot) ∨
    p.pending node = some (snapshot, k)

/-- The last snapshot of the node is one of those shown. It is outstanding, or it is what the
ConfigMap holds. -/
def Latest (shown : NodeSnapshot → Prop) (node : String) : Prop :=
  (∃ snapshot k, shown snapshot ∧ p.Outstanding node snapshot k ∧
    ∀ snapshot' k', p.Outstanding node snapshot' k' → k' ≤ k) ∨
  ((∀ snapshot k, ¬ p.Outstanding node snapshot k) ∧
    ∃ snapshot, shown snapshot ∧ p.data node = S.entry snapshot)

/-- What holds as long as the snapshots of each node are dealt with in order. A snapshot that waits
for its timer is older than those of goroutines. The goroutine that is about to write has the oldest
one, and then none waits. -/
structure Ordered : Prop where
  fresh : ∀ k task, p.tasks k = some task → k < p.serial
  pendingFresh : ∀ node snapshot k, p.pending node = some (snapshot, k) →
    k < p.serial ∧ snapshot.node = node ∧ p.tasks k = none
  pendingUnique : ∀ node node' snapshot snapshot' k, p.pending node = some (snapshot, k) →
    p.pending node' = some (snapshot', k) → node = node'
  newer : ∀ node snapshot k, p.pending node = some (snapshot, k) →
    ∀ k' task, p.tasks k' = some task → task.snapshot.node = node → k < k'
  writing : ∀ k task, p.tasks k = some task → task.stage = .write →
    p.pending task.snapshot.node = none ∧ p.Oldest k task
  timed : ∀ node, p.timers node = none → p.pending node = none
  live : ∀ node id, p.timers node = some id → (id, node) ∈ p.armed ∨ node ∈ p.fired

/-- The empty name is never written. -/
structure Named : Prop where
  tasks : ∀ k task, p.tasks k = some task → task.stage ≠ .persist → task.snapshot.node ≠ ""
  pending : p.pending "" = none
  data : p.data "" = none

variable {S} {p} {p' : Persistence} {shown : NodeSnapshot → Prop} {node : String}
  {snapshot : NodeSnapshot} {k : ℕ} {task : SnapshotTask} {waiter : Option ℕ} {starts : Bool}

/-! ### The goroutines with snapshots -/

variable {entry : Option SnapshotTask} {k' : ℕ}

theorem setTask_tasks (hk : k' ≠ k) : (p.setTask k entry).tasks k' = p.tasks k' :=
  update_of_ne hk _ _

theorem setTask_tasks_self : (p.setTask k entry).tasks k = entry :=
  update_self _ _ _

theorem setTask_pending : (p.setTask k entry).pending = p.pending :=
  rfl

theorem tasks_of_put {other : SnapshotTask} (h : (p.setTask k (some task)).tasks k' = some other) :
    (k' = k ∧ other = task) ∨ (k' ≠ k ∧ p.tasks k' = some other) := by
  by_cases hk : k' = k
  · rw [hk, setTask_tasks_self] at h
    exact .inl ⟨hk, (Option.some.inj h).symm⟩
  · rw [setTask_tasks hk] at h
    exact .inr ⟨hk, h⟩

/-- A goroutine gets a snapshot that is newer than the one that waits, and not older than the one
that is being written. -/
theorem Ordered.put (h : p.Ordered) (hk : k < p.serial)
    (hfree : ∀ node snapshot, p.pending node ≠ some (snapshot, k))
    (hnewer : ∀ snapshot k', p.pending task.snapshot.node = some (snapshot, k') → k' < k)
    (hwriters : ∀ k' other, p.tasks k' = some other → other.stage = .write →
      other.snapshot.node = task.snapshot.node → k' ≤ k)
    (hwrite : task.stage = .write → p.pending task.snapshot.node = none ∧ p.Oldest k task) :
    (p.setTask k (some task)).Ordered := by
  constructor
  · intro k' other hother
    rcases tasks_of_put hother with ⟨rfl, -⟩ | ⟨-, hold⟩
    · exact hk
    · exact h.fresh k' other hold
  · intro node snapshot k' hpending
    obtain ⟨hk', hnode, hnone⟩ := h.pendingFresh node snapshot k' hpending
    refine ⟨hk', hnode, ?_⟩
    rwa [setTask_tasks]
    rintro rfl
    exact hfree node snapshot hpending
  · exact h.pendingUnique
  · intro node snapshot k' hpending k'' other hother hnode
    rcases tasks_of_put hother with ⟨rfl, rfl⟩ | ⟨-, hold⟩
    · exact hnewer snapshot k' (hnode ▸ hpending)
    · exact h.newer node snapshot k' hpending k'' other hold hnode
  · intro k' other hother hstage
    obtain ⟨hnone, holdest⟩ : p.pending other.snapshot.node = none ∧ p.Oldest k' other := by
      rcases tasks_of_put hother with ⟨rfl, rfl⟩ | ⟨-, hold⟩
      · exact hwrite hstage
      · exact h.writing k' other hold hstage
    refine ⟨hnone, fun k'' third hthird hnode => ?_⟩
    rcases tasks_of_put hthird with ⟨rfl, rfl⟩ | ⟨-, hold⟩
    · rcases tasks_of_put hother with ⟨rfl, -⟩ | ⟨-, hold⟩
      · exact Nat.le_refl _
      · exact hwriters k' other hold hstage hnode.symm
    · exact holdest k'' third hold hnode
  · exact h.timed
  · exact h.live

/-- The node has neither a timer nor a snapshot that waits for it. -/
def cleared (p : Persistence) (node : String) (armed : List (ℕ × String)) (fired : List String) :
    Persistence :=
  { p with
    armed
    fired
    timers := Function.update p.timers node none
    pending := Function.update p.pending node none }

variable {armed : List (ℕ × String)} {fired : List String}

theorem pending_cleared {node' : String} :
    (p.cleared node armed fired).pending node' = if node' = node then none else p.pending node' :=
  update_apply _ _ _ _

theorem Ordered.cleared (h : p.Ordered) (hlive : ∀ other id, other ≠ node →
      p.timers other = some id → (id, other) ∈ armed ∨ other ∈ fired) :
    (p.cleared node armed fired).Ordered := by
  have hpending {other : String} {entry : NodeSnapshot × ℕ}
      (hentry : (p.cleared node armed fired).pending other = some entry) :
      p.pending other = some entry := by
    rw [pending_cleared] at hentry
    split at hentry
    · cases hentry
    · exact hentry
  refine ⟨h.fresh, fun _ _ _ hentry => h.pendingFresh _ _ _ (hpending hentry),
    fun _ _ _ _ _ hentry hentry' => h.pendingUnique _ _ _ _ _ (hpending hentry) (hpending hentry'),
    fun _ _ _ hentry => h.newer _ _ _ (hpending hentry), fun k task htask hstage => ?_,
    fun other htimer => ?_, fun other id htimer => ?_⟩
  · obtain ⟨hnone, holdest⟩ := h.writing k task htask hstage
    refine ⟨?_, holdest⟩
    rw [pending_cleared, hnone, ite_self]
  · rw [pending_cleared]
    split
    · rfl
    · rename_i hne
      exact h.timed other ((update_of_ne hne _ _).symm.trans htimer)
  · have hne : other ≠ node := by
      rintro rfl
      cases (update_self _ _ _).symm.trans htimer
    exact hlive other id hne ((update_of_ne hne _ _).symm.trans htimer)

/-! ### Adding a snapshot -/

theorem add_tasks (hk : k ≠ p.serial) : (p.add snapshot waiter starts).tasks k = p.tasks k :=
  update_of_ne hk _ _

theorem add_tasks_serial :
    (p.add snapshot waiter starts).tasks p.serial = some ⟨snapshot, .persist, waiter, starts⟩ :=
  update_self _ _ _

theorem Ordered.add (h : p.Ordered) : (p.add snapshot waiter starts).Ordered := by
  have hgrown : ({ p with serial := p.serial + 1 } : Persistence).Ordered := by
    refine ⟨fun k task htask => Nat.lt_succ_of_lt (h.fresh k task htask), fun _ _ _ hpending => ?_,
      h.pendingUnique, h.newer, h.writing, h.timed, h.live⟩
    exact (h.pendingFresh _ _ _ hpending).imp_left Nat.lt_succ_of_lt
  refine hgrown.put (Nat.lt_succ_self _) (fun _ _ hpending => ?_) (fun _ _ hpending => ?_)
    (fun k' other hother _ _ => Nat.le_of_lt (h.fresh k' other hother)) (by rintro ⟨⟩)
  · exact Nat.lt_irrefl _ (h.pendingFresh _ _ _ hpending).1
  · exact (h.pendingFresh _ _ _ hpending).1

theorem Named.add (h : p.Named) : (p.add snapshot waiter starts).Named := by
  refine ⟨fun k task htask hstage => ?_, h.pending, h.data⟩
  by_cases hk : k = p.serial
  · rw [hk, add_tasks_serial] at htask
    rw [← Option.some.inj htask] at hstage
    exact absurd rfl hstage
  · rw [add_tasks hk] at htask
    exact h.tasks k task htask hstage

theorem Ordered.latest_add (h : p.Ordered) (hshown : shown snapshot) :
    (p.add snapshot waiter starts).Latest S shown snapshot.node := by
  refine .inl ⟨snapshot, p.serial, hshown, .inl ⟨rfl, _, add_tasks_serial, rfl⟩, ?_⟩
  rintro snapshot' k' (⟨-, task, htask, -⟩ | hpending)
  · by_cases hk : k' = p.serial
    · exact Nat.le_of_eq hk
    · rw [add_tasks hk] at htask
      exact Nat.le_of_lt (h.fresh k' task htask)
  · exact Nat.le_of_lt (h.pendingFresh _ _ _ hpending).1

theorem Latest.congr (h : p.Latest S shown node)
    (houtstanding : ∀ snapshot k, p'.Outstanding node snapshot k ↔ p.Outstanding node snapshot k)
    (hdata : p'.data node = p.data node) : p'.Latest S shown node := by
  unfold Latest
  simp only [houtstanding, hdata]
  exact h

theorem Ordered.latest_add_of_ne (hp : p.Ordered) (h : p.Latest S shown node)
    (hne : snapshot.node ≠ node) : (p.add snapshot waiter starts).Latest S shown node := by
  refine h.congr (fun other k => or_congr_left (and_congr_right fun hnode => ?_)) rfl
  by_cases hk : k = p.serial
  · rw [hk, add_tasks_serial]
    constructor
    · rintro ⟨task, htask, rfl⟩
      rw [← Option.some.inj htask] at hnode
      exact absurd hnode hne
    · rintro ⟨task, htask, -⟩
      exact absurd (hp.fresh _ _ htask) (Nat.lt_irrefl _)
  · rw [add_tasks hk]

/-! ### Dealing with a snapshot -/

theorem tasks_of_drop (h : (p.setTask k none).tasks k' = some task) :
    k' ≠ k ∧ p.tasks k' = some task := by
  by_cases hk : k' = k
  · rw [hk, setTask_tasks_self] at h
    cases h
  · rw [setTask_tasks hk] at h
    exact ⟨hk, h⟩

theorem Ordered.drop (h : p.Ordered) (k : ℕ) : (p.setTask k none).Ordered := by
  constructor
  · intro k' task htask
    exact h.fresh k' task (tasks_of_drop htask).2
  · intro node snapshot k' hpending
    obtain ⟨hk', hnode, hnone⟩ := h.pendingFresh node snapshot k' hpending
    refine ⟨hk', hnode, ?_⟩
    by_cases hk : k' = k
    · rw [hk, setTask_tasks_self]
    · rw [setTask_tasks hk, hnone]
  · exact h.pendingUnique
  · intro node snapshot k' hpending k'' task htask hnode
    exact h.newer node snapshot k' hpending k'' task (tasks_of_drop htask).2 hnode
  · intro k' task htask hstage
    obtain ⟨hnone, holdest⟩ := h.writing k' task (tasks_of_drop htask).2 hstage
    exact ⟨hnone, fun k'' task' htask' => holdest k'' task' (tasks_of_drop htask').2⟩
  · exact h.timed
  · exact h.live

theorem pending_of_stopped {node' : String} :
    ((p.stopTimer node).setTask k entry).pending node' =
      if node' = node then none else p.pending node' :=
  update_apply _ _ _ _

theorem Ordered.stop (h : p.Ordered) (htask : p.tasks k = some task) (holdest : p.Oldest k task) :
    ((p.stopTimer task.snapshot.node).setTask k (some task.writes)).Ordered := by
  have hcleared : (p.stopTimer task.snapshot.node).Ordered :=
    h.cleared fun other id hne htimer => (h.live other id htimer).imp_left fun harmed =>
      mem_filter.2 ⟨harmed, by simp [hne]⟩
  have hnone : (p.stopTimer task.snapshot.node).pending task.snapshot.node = none :=
    update_self _ _ _
  refine hcleared.put (h.fresh k task htask) (fun node snapshot hpending => ?_)
    (fun snapshot k' hpending => ?_) (fun k' other hother hstage hnode => ?_)
    fun _ => ⟨hnone, holdest⟩
  · cases htask.symm.trans (hcleared.pendingFresh node snapshot k hpending).2.2
  · cases hnone.symm.trans hpending
  · exact (h.writing k' other hother hstage).2 k task htask hnode.symm

theorem pending_of_deferred {node' : String} :
    ((p.deferSnapshot snapshot k).setTask k entry).pending node' =
      if node' = snapshot.node then some (snapshot, k) else p.pending node' := by
  unfold deferSnapshot setTask
  dsimp only
  split
  · exact update_apply _ _ _ _
  · exact update_apply _ _ _ _

theorem deferSnapshot_frame : (p.deferSnapshot snapshot k).tasks = p.tasks ∧
    (p.deferSnapshot snapshot k).serial = p.serial ∧
      (p.deferSnapshot snapshot k).data = p.data := by
  unfold deferSnapshot
  dsimp only
  split
  · exact ⟨rfl, rfl, rfl⟩
  · exact ⟨rfl, rfl, rfl⟩

theorem tasks_of_deferred {other : SnapshotTask}
    (h : ((p.deferSnapshot snapshot k).setTask k none).tasks k' = some other) :
    k' ≠ k ∧ p.tasks k' = some other := by
  have hdrop := tasks_of_drop h
  rw [deferSnapshot_frame.1] at hdrop
  exact hdrop

theorem Ordered.live_defer (h : p.Ordered) (node : String) :
    ((p.deferSnapshot snapshot k).timers node = none →
      node ≠ snapshot.node ∧ p.timers node = none) ∧
    ∀ id, (p.deferSnapshot snapshot k).timers node = some id →
      (id, node) ∈ (p.deferSnapshot snapshot k).armed ∨
        node ∈ (p.deferSnapshot snapshot k).fired := by
  unfold deferSnapshot
  dsimp only
  split
  · rename_i hsome
    refine ⟨fun hnone => ⟨?_, hnone⟩, h.live node⟩
    rintro rfl
    rw [hnone] at hsome
    cases hsome
  · by_cases hnode : node = snapshot.node
    · subst hnode
      simp only [update_self]
      refine ⟨fun hnone => (by cases hnone), fun id hid => .inl ?_⟩
      rw [← Option.some.inj hid]
      exact mem_append_right _ (mem_singleton.2 rfl)
    · simp only [update_of_ne hnode]
      refine ⟨fun hnone => ⟨hnode, hnone⟩, fun id hid => ?_⟩
      rcases h.live node id hid with harmed | hfired
      · exact .inl (mem_append_left _ harmed)
      · exact .inr hfired

theorem Ordered.defer (h : p.Ordered) (htask : p.tasks k = some task) (holdest : p.Oldest k task) :
    ((p.deferSnapshot task.snapshot k).setTask k none).Ordered := by
  constructor
  · intro k' other hother
    show k' < (p.deferSnapshot task.snapshot k).serial
    rw [deferSnapshot_frame.2.1]
    exact h.fresh k' other (tasks_of_deferred hother).2
  · intro node snapshot k' hentry
    show k' < (p.deferSnapshot task.snapshot k).serial ∧ _
    rw [deferSnapshot_frame.2.1]
    rw [pending_of_deferred] at hentry
    split at hentry
    · rename_i hnode
      cases hentry
      exact ⟨h.fresh k task htask, hnode.symm, setTask_tasks_self⟩
    obtain ⟨hk', hsnapshot, hnone⟩ := h.pendingFresh node snapshot k' hentry
    refine ⟨hk', hsnapshot, ?_⟩
    by_cases hk : k' = k
    · rw [hk, setTask_tasks_self]
    · rw [setTask_tasks hk, deferSnapshot_frame.1]
      exact hnone
  · intro node node' snapshot snapshot' k' hentry hentry'
    rw [pending_of_deferred] at hentry hentry'
    -- The serial number of a goroutine does not wait for a timer.
    have hfree {other : String} {snapshot : NodeSnapshot}
        (hother : p.pending other = some (snapshot, k)) : False := by
      have hnone := (h.pendingFresh other snapshot k hother).2.2
      rw [htask] at hnone
      cases hnone
    split at hentry
    · split at hentry'
      · rename_i hnode hnode'
        rw [hnode, hnode']
      · cases hentry
        exact (hfree hentry').elim
    · split at hentry'
      · cases hentry'
        exact (hfree hentry).elim
      · exact h.pendingUnique node node' snapshot snapshot' k' hentry hentry'
  · intro node snapshot k' hentry k'' other hother hnode
    obtain ⟨hk'', hother⟩ := tasks_of_deferred hother
    rw [pending_of_deferred] at hentry
    split at hentry
    · rename_i hsame
      cases hentry
      exact Nat.lt_of_le_of_ne (holdest k'' other hother (hnode.trans hsame)) hk''.symm
    · exact h.newer node snapshot k' hentry k'' other hother hnode
  · intro k' other hother hstage
    obtain ⟨hk', hother⟩ := tasks_of_deferred hother
    obtain ⟨hnone, holdest'⟩ := h.writing k' other hother hstage
    refine ⟨?_, fun k'' other' hother' => holdest' k'' other' (tasks_of_deferred hother').2⟩
    rw [pending_of_deferred]
    split
    · -- Two goroutines with the oldest snapshot of a node are one.
      rename_i hnode
      have hle := holdest' k task htask hnode.symm
      have hge := holdest k' other hother hnode
      exact absurd (Nat.le_antisymm hle hge) hk'
    · exact hnone
  · intro node hnone
    obtain ⟨hne, htimer⟩ := (h.live_defer node).1 hnone
    rw [pending_of_deferred, if_neg hne]
    exact h.timed node htimer
  · intro node
    exact (h.live_defer node).2

theorem Ordered.advance (h : p.Ordered) (htask : p.tasks k = some task)
    (holdest : p.Oldest k task) : (p.advance S k task).Ordered := by
  unfold Persistence.advance
  split
  · split
    · exact h.drop k
    split
    · exact h.stop htask holdest
    · exact h.defer htask holdest
  · exact h.stop htask holdest
  · have hwritten : (p.write S task.snapshot).Ordered :=
      ⟨h.fresh, h.pendingFresh, h.pendingUnique, h.newer, h.writing, h.timed, h.live⟩
    exact hwritten.drop k

theorem Latest.of_fewer (h : p.Latest S shown node)
    (hfewer : ∀ snapshot k, p'.Outstanding node snapshot k → p.Outstanding node snapshot k)
    (hgone : ∀ snapshot k, p.Outstanding node snapshot k → p'.Outstanding node snapshot k ∨
      ∃ snapshot' k', p.Outstanding node snapshot' k' ∧ k < k')
    (hdata : p'.data node = p.data node) : p'.Latest S shown node := by
  rcases h with ⟨snapshot, k, hshown, houtstanding, hmax⟩ | ⟨hnone, hwritten⟩
  · refine .inl ⟨snapshot, k, hshown, ?_, fun snapshot' k' h' => hmax _ _ (hfewer _ _ h')⟩
    rcases hgone snapshot k houtstanding with hstill | ⟨snapshot', k', hnewer, hlt⟩
    · exact hstill
    · exact absurd (hmax snapshot' k' hnewer) (Nat.not_le_of_lt hlt)
  · rw [← hdata] at hwritten
    exact .inr ⟨fun snapshot k h' => hnone snapshot k (hfewer _ _ h'), hwritten⟩

section Latest

variable (hp : p.Ordered) (htask : p.tasks k = some task) (h : p.Latest S shown node)

include hp htask h

theorem Ordered.latest_stop :
    ((p.stopTimer task.snapshot.node).setTask k (some task.writes)).Latest S shown node := by
  have hsame (snapshot : NodeSnapshot) (k' : ℕ) :
      (∃ other, ((p.stopTimer task.snapshot.node).setTask k (some task.writes)).tasks k' =
        some other ∧ other.snapshot = snapshot) ↔
        ∃ other, p.tasks k' = some other ∧ other.snapshot = snapshot := by
    by_cases hk : k' = k
    · rw [hk, setTask_tasks_self, htask]
      simp [SnapshotTask.writes]
    · rw [setTask_tasks hk]
      rfl
  refine h.of_fewer (fun snapshot k' houtstanding => ?_) (fun snapshot k' houtstanding => ?_) rfl
  · rcases houtstanding with ⟨hnode, hother⟩ | hpending
    · exact .inl ⟨hnode, (hsame snapshot k').1 hother⟩
    rw [pending_of_stopped] at hpending
    split at hpending
    · cases hpending
    · exact .inr hpending
  · rcases houtstanding with ⟨hnode, hother⟩ | hpending
    · exact .inl (.inl ⟨hnode, (hsame snapshot k').2 hother⟩)
    by_cases hnode : node = task.snapshot.node
    · -- The snapshot that waits is older than the one of the goroutine.
      refine .inr ⟨task.snapshot, k, .inl ⟨hnode.symm, task, htask, rfl⟩, ?_⟩
      exact hp.newer node snapshot k' hpending k task htask hnode.symm
    left
    right
    rw [pending_of_stopped, if_neg hnode]
    exact hpending

theorem Ordered.latest_defer :
    ((p.deferSnapshot task.snapshot k).setTask k none).Latest S shown node := by
  refine h.of_fewer (fun snapshot k' houtstanding => ?_) (fun snapshot k' houtstanding => ?_)
    (congrFun deferSnapshot_frame.2.2 node)
  · rcases houtstanding with ⟨hnode, other, hother, hsnapshot⟩ | hpending
    · exact .inl ⟨hnode, other, (tasks_of_deferred hother).2, hsnapshot⟩
    rw [pending_of_deferred] at hpending
    split at hpending
    · rename_i hnode
      cases hpending
      exact .inl ⟨hnode.symm, task, htask, rfl⟩
    · exact .inr hpending
  · rcases houtstanding with ⟨hnode, other, hother, hsnapshot⟩ | hpending
    · left
      by_cases hk : k' = k
      · right
        subst hk
        obtain rfl := Option.mem_unique htask hother
        rw [pending_of_deferred, if_pos (hsnapshot ▸ hnode.symm), hsnapshot]
      · refine .inl ⟨hnode, other, ?_, hsnapshot⟩
        rw [setTask_tasks hk, deferSnapshot_frame.1]
        exact hother
    · by_cases hnode : node = task.snapshot.node
      · refine .inr ⟨task.snapshot, k, .inl ⟨hnode.symm, task, htask, rfl⟩, ?_⟩
        exact hp.newer node snapshot k' hpending k task htask hnode.symm
      left
      right
      rw [pending_of_deferred, if_neg hnode]
      exact hpending

/-- The goroutine with the oldest snapshot writes it; if that was the latest one, nothing else is
outstanding. -/
theorem Ordered.latest_write (hstage : task.stage = .write) :
    ((p.write S task.snapshot).setTask k none).Latest S shown node := by
  have houtstanding' {snapshot : NodeSnapshot} {k' : ℕ}
      (h' : ((p.write S task.snapshot).setTask k none).Outstanding node snapshot k') :
      p.Outstanding node snapshot k' ∧ (node = task.snapshot.node → k' ≠ k) := by
    rcases h' with ⟨hnode, other, hother, hsnapshot⟩ | hpending
    · obtain ⟨hk', hold⟩ := tasks_of_drop hother
      exact ⟨.inl ⟨hnode, other, hold, hsnapshot⟩, fun _ => hk'⟩
    refine ⟨.inr hpending, ?_⟩
    rintro rfl
    cases (hp.writing k task htask hstage).1.symm.trans hpending
  have hkept {snapshot : NodeSnapshot} {k' : ℕ} (h' : p.Outstanding node snapshot k')
      (hne : k' ≠ k ∨ node ≠ task.snapshot.node) :
      ((p.write S task.snapshot).setTask k none).Outstanding node snapshot k' := by
    rcases h' with ⟨hnode, other, hother, hsnapshot⟩ | hpending
    · have hk' : k' ≠ k := by
        rcases hne with hk' | hnode'
        · exact hk'
        rintro rfl
        obtain rfl := Option.mem_unique htask hother
        exact hnode' (hsnapshot ▸ hnode.symm)
      exact .inl ⟨hnode, other, (setTask_tasks hk').trans hother, hsnapshot⟩
    · exact .inr hpending
  by_cases hnode : node = task.snapshot.node
  · subst hnode
    obtain ⟨hnone, holdest⟩ := hp.writing k task htask hstage
    rcases h with ⟨snapshot, k', hshown, hcurrent, hmax⟩ | ⟨hempty, -⟩
    · by_cases hk : k' = k
      · subst hk
        have hsnapshot : snapshot = task.snapshot := by
          rcases hcurrent with ⟨-, other, hother, hsnapshot⟩ | hpending
          · rw [← hsnapshot, Option.mem_unique hother htask]
          · rw [hnone] at hpending
            cases hpending
        right
        refine ⟨fun other k'' h'' => ?_, task.snapshot, hsnapshot ▸ hshown, update_self _ _ _⟩
        obtain ⟨hold, hne⟩ := houtstanding' h''
        have hle := hmax other k'' hold
        have hge : k' ≤ k'' := by
          rcases hold with ⟨hnode, found, hfound, hsame⟩ | hpending
          · exact holdest k'' found hfound (hsame ▸ hnode)
          · rw [hnone] at hpending
            cases hpending
        exact hne rfl (Nat.le_antisymm hle hge)
      · exact .inl ⟨snapshot, k', hshown, hkept hcurrent (.inl hk),
          fun snapshot' k'' h'' => hmax snapshot' k'' (houtstanding' h'').1⟩
    · exact absurd (.inl ⟨rfl, task, htask, rfl⟩) (hempty task.snapshot k)
  · refine h.of_fewer (fun snapshot k' h' => (houtstanding' h').1)
      (fun snapshot k' h' => .inl (hkept h' (.inr hnode))) ?_
    exact update_of_ne hnode _ _

theorem Ordered.latest_advance (hnode : node ≠ "") :
    (p.advance S k task).Latest S shown node := by
  unfold Persistence.advance
  split
  · split
    · -- A snapshot without a node is of no other node.
      rename_i hempty
      refine h.congr (fun snapshot k' => or_congr_left (and_congr_right fun hsnapshot => ?_)) rfl
      by_cases hk : k' = k
      · rw [hk, setTask_tasks_self, htask]
        constructor
        · rintro ⟨other, hother, -⟩
          cases hother
        · rintro ⟨other, hother, rfl⟩
          obtain rfl := Option.some.inj hother
          exact absurd (hsnapshot.symm.trans hempty) hnode
      · rw [setTask_tasks hk]
    · split
      · exact hp.latest_stop htask h
      · exact hp.latest_defer htask h
  · exact hp.latest_stop htask h
  · rename_i hstage
    exact hp.latest_write htask h hstage

end Latest

/-! ### Timers -/

theorem Ordered.fire (h : p.Ordered) (timer : ℕ × String) : (p.fire timer).Ordered := by
  refine ⟨h.fresh, h.pendingFresh, h.pendingUnique, h.newer, h.writing, h.timed, ?_⟩
  intro node id htimer
  rcases h.live node id htimer with harmed | hfired
  · by_cases hsame : (id, node) = timer
    · right
      rw [← hsame]
      exact mem_append_right _ (mem_singleton.2 rfl)
    · exact .inl ((mem_erase_of_ne hsame).2 harmed)
  · exact .inr (mem_append_left _ hfired)

theorem flush_of_pending (h : p.pending node = some (snapshot, k)) :
    p.flush node = (p.cleared node p.armed (p.fired.erase node)).setTask k
      (some ⟨snapshot, .now, none, false⟩) := by
  unfold flush
  rw [h]
  rfl

theorem flush_of_none (h : p.pending node = none) :
    p.flush node = p.cleared node p.armed (p.fired.erase node) := by
  unfold flush
  rw [h]
  rfl

theorem Ordered.flush (h : p.Ordered) (node : String) : (p.flush node).Ordered := by
  have hcleared : (p.cleared node p.armed (p.fired.erase node)).Ordered :=
    h.cleared fun other id hne htimer => (h.live other id htimer).imp_right (mem_erase_of_ne hne).2
  cases hwaits : p.pending node with
  | none =>
    rw [flush_of_none hwaits]
    exact hcleared
  | some entry => ?_
  obtain ⟨snapshot, k⟩ := entry
  obtain ⟨hk, hsnapshot, -⟩ := h.pendingFresh node snapshot k hwaits
  have hnone : (p.cleared node p.armed (p.fired.erase node)).pending snapshot.node = none := by
    rw [pending_cleared, if_pos hsnapshot]
  rw [flush_of_pending hwaits]
  refine hcleared.put hk (fun other snapshot' hpending => ?_) (fun snapshot' k' hpending => ?_)
    (fun k' other hother hstage hnode => ?_) (by rintro ⟨⟩)
  · rw [pending_cleared] at hpending
    split at hpending
    · cases hpending
    · rename_i hne
      exact hne (h.pendingUnique other node snapshot' snapshot k hpending hwaits)
  · cases hnone.symm.trans hpending
  · -- No goroutine writes a snapshot of a node with one that waits.
    have hempty := (h.writing k' other hother hstage).1
    rw [hnode.trans hsnapshot, hwaits] at hempty
    cases hempty

theorem Ordered.latest_flush (hp : p.Ordered) (h : p.Latest S shown node) (flushed : String) :
    (p.flush flushed).Latest S shown node := by
  cases hwaits : p.pending flushed with
  | none =>
    rw [flush_of_none hwaits]
    refine h.congr (fun snapshot k => or_congr_right ?_) rfl
    rw [pending_cleared]
    split
    · rename_i hnode
      rw [hnode, hwaits]
    · rfl
  | some entry =>
    obtain ⟨snapshot, k⟩ := entry
    obtain ⟨-, hsnapshot, hfree⟩ := hp.pendingFresh flushed snapshot k hwaits
    rw [flush_of_pending hwaits]
    refine h.congr (fun snapshot' k' => ?_) rfl
    rw [Outstanding, Outstanding, setTask_pending, pending_cleared]
    by_cases hk : k' = k
    · rw [hk, setTask_tasks_self, hfree]
      by_cases hnode : node = flushed
      · -- The snapshot has waited before, and a goroutine has it now.
        rw [if_pos hnode, hnode, hwaits]
        constructor
        · rintro (⟨-, task, htask, rfl⟩ | hnone)
          · rw [← Option.some.inj htask]
            exact .inr rfl
          · cases hnone
        · rintro (⟨-, task, htask, -⟩ | hsame)
          · cases htask
          · cases hsame
            exact .inl ⟨hsnapshot, _, rfl, rfl⟩
      · rw [if_neg hnode]
        refine or_congr_left ⟨?_, ?_⟩
        · rintro ⟨hnode', task, htask, rfl⟩
          rw [← Option.some.inj htask] at hnode'
          exact absurd (hnode'.symm.trans hsnapshot) hnode
        · rintro ⟨-, task, htask, -⟩
          cases htask
    · rw [setTask_tasks hk]
      refine or_congr_right ?_
      split
      · rename_i hnode
        rw [hnode, hwaits]
        refine ⟨fun hnone => (by cases hnone), fun hsame => ?_⟩
        cases hsame
        exact absurd rfl hk
      · rfl

/-! ### Steps of the persistence -/

theorem Ordered.change {c : SnapshotChange} (h : p.Ordered) (hturn : p.InTurn c)
    (hstep : p.change S c = some p') :
    p'.Ordered ∧ ∀ shown node, node ≠ "" → p.Latest S shown node → p'.Latest S shown node := by
  cases c with
  | advance k =>
    obtain ⟨task, htask, rfl⟩ := Option.map_eq_some_iff.1 hstep
    exact ⟨h.advance htask (hturn task htask),
      fun shown node hnode hlatest => h.latest_advance htask hlatest hnode⟩
  | fire timer =>
    simp only [Persistence.change, Option.ite_none_right_eq_some, Option.some.injEq] at hstep
    rw [← hstep.2]
    exact ⟨h.fire timer, fun shown node _ hlatest => hlatest⟩
  | flush node =>
    simp only [Persistence.change, Option.ite_none_right_eq_some, Option.some.injEq] at hstep
    rw [← hstep.2]
    exact ⟨h.flush node, fun shown node' _ hlatest => h.latest_flush hlatest node⟩

theorem Named.drop (h : p.Named) (k : ℕ) : (p.setTask k none).Named :=
  ⟨fun k' task htask => h.tasks k' task (tasks_of_drop htask).2, h.pending, h.data⟩

theorem Named.cleared (h : p.Named) : (p.cleared node armed fired).Named := by
  refine ⟨h.tasks, ?_, h.data⟩
  rw [pending_cleared, h.pending, ite_self]

theorem Named.put (h : p.Named) (hnode : task.snapshot.node ≠ "") :
    (p.setTask k (some task)).Named := by
  refine ⟨fun k' other hother hstage => ?_, h.pending, h.data⟩
  rcases tasks_of_put hother with ⟨-, rfl⟩ | ⟨-, hold⟩
  · exact hnode
  · exact h.tasks k' other hold hstage

theorem Named.defer (h : p.Named) (hnode : snapshot.node ≠ "") :
    ((p.deferSnapshot snapshot k).setTask k none).Named := by
  refine ⟨fun k' other hother => h.tasks k' other (tasks_of_deferred hother).2, ?_, ?_⟩
  · rw [pending_of_deferred, if_neg hnode.symm]
    exact h.pending
  · exact (congrFun deferSnapshot_frame.2.2 "").trans h.data

theorem Named.advance (h : p.Named) (htask : p.tasks k = some task) :
    (p.advance S k task).Named := by
  unfold Persistence.advance
  split
  · split
    · exact h.drop k
    rename_i hnode
    split
    · exact h.cleared.put hnode
    · exact h.defer hnode
  · rename_i hstage
    exact h.cleared.put (h.tasks k task htask (by rw [hstage]; nofun))
  · rename_i hstage
    have hnode := h.tasks k task htask (by rw [hstage]; nofun)
    have hwritten : (p.write S task.snapshot).Named :=
      ⟨h.tasks, h.pending, (update_of_ne hnode.symm _ _).trans h.data⟩
    exact hwritten.drop k

theorem Named.flush (h : p.Named) (hp : p.Ordered) (node : String) : (p.flush node).Named := by
  cases hwaits : p.pending node with
  | none =>
    rw [flush_of_none hwaits]
    exact h.cleared
  | some entry => ?_
  obtain ⟨snapshot, k⟩ := entry
  rw [flush_of_pending hwaits]
  refine h.cleared.put ?_
  rw [(hp.pendingFresh node snapshot k hwaits).2.1]
  rintro rfl
  rw [h.pending] at hwaits
  cases hwaits

theorem Named.change {c : SnapshotChange} (h : p.Named) (hp : p.Ordered)
    (hstep : p.change S c = some p') : p'.Named := by
  cases c with
  | advance k =>
    obtain ⟨task, htask, rfl⟩ := Option.map_eq_some_iff.1 hstep
    exact h.advance htask
  | fire timer =>
    simp only [Persistence.change, Option.ite_none_right_eq_some, Option.some.injEq] at hstep
    rw [← hstep.2]
    exact ⟨h.tasks, h.pending, h.data⟩
  | flush node =>
    simp only [Persistence.change, Option.ite_none_right_eq_some, Option.some.injEq] at hstep
    rw [← hstep.2]
    exact h.flush hp node

theorem ordered_new : new.Ordered := by
  constructor <;> simp [new]

theorem named_new : new.Named := by
  constructor <;> simp [new]

end Persistence

end OpenNebulaCSI.Queue
