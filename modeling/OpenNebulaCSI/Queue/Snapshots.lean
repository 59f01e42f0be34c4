import OpenNebulaCSI.Queue.Calls
import OpenNebulaCSI.Queue.Persistence

/-!
# Snapshots of the hotplug queue

Every critical section of the queue that changes the queue of a node takes a snapshot of it, which
is persisted outside the mutex. A goroutine with an old snapshot may be delayed and write it after
newer ones, and then the ConfigMap shows a request that has long ended. If the snapshots of each
node are dealt with in the order in which they have been taken, the ConfigMap ends up with the last
one.
-/

namespace OpenNebulaCSI.Queue

open Go Concurrency Controller KubeRuntime Program HotplugQueue Function

/-! ## The queue with its snapshots -/

/-- The queue, what its snapshots show of requests in addition, and the persistence. -/
structure SnapshotWorld (Fn : Type) where
  queue : HotplugQueue Fn
  coalesced : String → ℕ → ℕ
  startedAt : String → ℕ → Option Int
  store : Persistence

variable {Fn : Type}

/-- Whole seconds between two points in time. -/
def ageSeconds (now since : Int) : Int :=
  (now - since).tdiv 1000000000

namespace SnapshotWorld

def new : SnapshotWorld Fn where
  queue := .new
  coalesced _ _ := 0
  startedAt _ _ := none
  store := .new

variable (w : SnapshotWorld Fn)

def requestSnapshot (node : String) (req : Request Fn) : ItemSnapshot where
  id := req.id
  node := req.node
  operation := req.operation
  volume := req.volume
  priority := req.priority
  enqueuedAt := req.enqueuedAt
  startedAt := w.startedAt node req.id
  coalesced := w.coalesced node req.id

def snapshotLocked (now : Int) (node : String) : NodeSnapshot :=
  let queue := w.queue.nodeQueue node
  { node
    active := queue.active.map (w.requestSnapshot node)
    queued := queue.pending.map (w.requestSnapshot node)
    queuedCount := queue.pending.length
    oldestAgeSeconds :=
      queue.pending.foldl (fun oldest req => max oldest (ageSeconds now req.enqueuedAt)) 0
    activeAgeSeconds :=
      ((queue.active.bind fun req => w.startedAt node req.id).map (ageSeconds now)).getD 0 }

/-- Take a snapshot of a node under the mutex. -/
def take (now : Int) (node : String) (waiter : Option ℕ) (starts : Bool) : SnapshotWorld Fn :=
  { w with store := w.store.add (w.snapshotLocked now node) waiter starts }

/-- `existing.coalesced++`. -/
def coalesce (node : String) (id : ℕ) : SnapshotWorld Fn :=
  { w with
    coalesced := Function.update w.coalesced node
      (Function.update (w.coalesced node) id (w.coalesced node id + 1)) }

/-- `req.startedAt = time.Now()`. -/
def markStarted (node : String) (id : ℕ) (now : Int) : SnapshotWorld Fn :=
  { w with
    startedAt := Function.update w.startedAt node
      (Function.update (w.startedAt node) id (some now)) }

/-- The snapshots the critical sections take: `enqueue` and `finish` persist theirs before they
return, the others leave it to a goroutine. `old` is the queue before the section. -/
def record (now : Int) (t : ℕ) (old : HotplugQueue Fn) :
    (op : Op Fn) → op.Answer → SnapshotWorld Fn → SnapshotWorld Fn
  | .enqueue req, (answered, joined), w =>
    if joined then (w.coalesce req.node answered.id).take now req.node (some t) false
    else w.take now req.node (some t) !(old.nodeQueue req.node).running
  | .cancel _ node, cancelled, w => if cancelled then w.take now node none false else w
  | .nextRequest node, some req, w => (w.markStarted node req.id now).take now node none false
  | .nextRequest node, none, w =>
    if (old.nodes node).isSome then w.take now node none false else w
  | .finish node _, _, w => w.take now node none true
  | _, _, w => w

/-- The goroutine cannot be started yet. -/
def holdsUp : Kind Fn → Bool
  | .worker node => w.store.holdsUp node
  | .run _ => false

end SnapshotWorld

/-- The queue of `manager` with its snapshots. -/
def snapshotManager (Fn : Type) (cfg : Config) (S : SnapshotConfig) :
    Machine (Op Fn) Op.Answer (Kind Fn) (Option GoError) (SnapshotWorld Fn) Oracle
      SnapshotChange where
  start w kind :=
    if w.holdsUp kind then none
    else (start cfg w.queue kind).map fun r => (r.1, { w with queue := r.2 })
  act oracle w t op :=
    if w.store.waits t then none
    else
      (act cfg oracle w.queue t op).map fun r =>
        (r.1, SnapshotWorld.record oracle.now t w.queue op r.1 { w with queue := r.2 })
  change c w := (w.store.change S c).map fun store => { w with store }

abbrev SnapshotPool (Fn : Type) :=
  Pool (Op Fn) Op.Answer (Kind Fn) (Option GoError) (SnapshotWorld Fn)

abbrev SnapshotStep (Fn : Type) :=
  Label (Kind Fn) Oracle SnapshotChange

/-- A goroutine with a snapshot takes a step only if none has an older snapshot of its node. -/
def InOrder (s : SnapshotPool Fn) : SnapshotStep Fn → Prop
  | .change c => s.world.store.InTurn c
  | _ => True

/-! ## Steps of the queue -/

variable {queue : HotplugQueue Fn}

namespace SnapshotWorld

variable {cfg : Config} {S : SnapshotConfig} {w : SnapshotWorld Fn} {node : String}

/-- A snapshot shows the queue of the node. -/
def Shows (w : SnapshotWorld Fn) (node : String) (snapshot : NodeSnapshot) : Prop :=
  ∃ now, snapshot = w.snapshotLocked now node

/-- The persistence is in order and has the latest snapshot of each node. -/
structure Faithful (S : SnapshotConfig) (w : SnapshotWorld Fn) : Prop where
  ordered : w.store.Ordered
  named : w.store.Named
  latest : ∀ node, node ≠ "" → w.store.Latest S (w.Shows node) node
  unnamed : w.queue.nodes "" = none

/-- The queue of the node and what snapshots show of its requests are the same. -/
structure SameNode (w w' : SnapshotWorld Fn) (node : String) : Prop where
  queue : w'.queue.nodes node = w.queue.nodes node
  coalesced : w'.coalesced node = w.coalesced node
  startedAt : w'.startedAt node = w.startedAt node

theorem SameNode.shows {w' : SnapshotWorld Fn} (h : SameNode w w' node) :
    w'.Shows node = w.Shows node := by
  have hqueue : w'.queue.nodeQueue node = w.queue.nodeQueue node := by
    rw [HotplugQueue.nodeQueue, HotplugQueue.nodeQueue, h.queue]
  have hrequest : w'.requestSnapshot node = w.requestSnapshot node := by
    funext req
    simp only [requestSnapshot, h.coalesced, h.startedAt]
  funext snapshot
  simp only [Shows, snapshotLocked, hqueue, hrequest, h.startedAt]

theorem Faithful.keep (h : w.Faithful S) {w' : SnapshotWorld Fn} (hstore : w'.store = w.store)
    (hsame : ∀ node, SameNode w w' node) : w'.Faithful S := by
  refine ⟨hstore ▸ h.ordered, hstore ▸ h.named, fun node hnode => ?_, ?_⟩
  · rw [hstore, (hsame node).shows]
    exact h.latest node hnode
  · rw [(hsame "").queue]
    exact h.unnamed

theorem Faithful.take (h : w.Faithful S) (w' : SnapshotWorld Fn) (hstore : w'.store = w.store)
    (hsame : ∀ other ≠ node, SameNode w w' other) (hunnamed : w'.queue.nodes "" = none) (now : Int)
    (waiter : Option ℕ) (starts : Bool) : (w'.take now node waiter starts).Faithful S := by
  have hordered : w'.store.Ordered := hstore ▸ h.ordered
  refine ⟨hordered.add, ?_, fun other hother => ?_, hunnamed⟩
  · have hnamed : w'.store.Named := hstore ▸ h.named
    exact hnamed.add
  · by_cases hnode : other = node
    · subst hnode
      exact hordered.latest_add ⟨now, rfl⟩
    have hlatest := h.latest other hother
    rw [← (hsame other hnode).shows, ← hstore] at hlatest
    exact hordered.latest_add_of_ne hlatest (Ne.symm hnode)

theorem Faithful.withQueue (h : w.Faithful S) (hnodes : queue.nodes = w.queue.nodes) :
    ({ w with queue } : SnapshotWorld Fn).Faithful S :=
  h.keep rfl fun node => ⟨congrFun hnodes node, rfl, rfl⟩

theorem Faithful.takeQueue (h : w.Faithful S) {entry : Option (NodeQueue Fn)}
    (hnodes : queue.nodes = Function.update w.queue.nodes node entry) (hnode : node ≠ "")
    (now : Int) (waiter : Option ℕ) (starts : Bool) :
    (({ w with queue } : SnapshotWorld Fn).take now node waiter starts).Faithful S := by
  refine h.take { w with queue } rfl (fun other hother => ⟨?_, rfl, rfl⟩) ?_ now waiter starts
  · show queue.nodes other = _
    rw [hnodes, update_of_ne hother]
  · show queue.nodes "" = none
    rw [hnodes, update_of_ne hnode.symm]
    exact h.unnamed

theorem Faithful.named_of_queue (h : w.Faithful S) {queue : NodeQueue Fn}
    (hqueue : w.queue.nodes node = some queue) : node ≠ "" := by
  rintro rfl
  rw [h.unnamed] at hqueue
  cases hqueue

end SnapshotWorld

/-- Requests are enqueued under names of nodes only. -/
def Op.Names : Op Fn → Prop
  | .enqueue req => req.node ≠ ""
  | _ => True

namespace SnapshotWorld

variable {cfg : Config} {S : SnapshotConfig} {w : SnapshotWorld Fn} {oracle : Oracle} {t : ℕ}

theorem Faithful.enqueue (h : w.Faithful S) {req answered : Request Fn} {joined : Bool}
    (hnode : req.node ≠ "")
    (hact : w.queue.enqueue cfg { req with caller := t } = ((answered, joined), queue))
    (now : Int) : (record now t w.queue (.enqueue req) (answered, joined)
      ({ w with queue } : SnapshotWorld Fn)).Faithful S := by
  cases hdup : w.queue.duplicate cfg { req with caller := t } with
  | some existing =>
    rw [enqueue_of_duplicate hdup] at hact
    cases hact
    -- Only the number of callers of the request that is joined changes.
    refine h.take (w.coalesce req.node answered.id) rfl (fun other hother => ⟨rfl, ?_, rfl⟩)
      h.unnamed now _ _
    exact update_of_ne hother _ _
  | none =>
    obtain ⟨waitLimit, starting, henqueue, -⟩ := enqueue_of_no_duplicate hdup
    rw [henqueue] at hact
    cases hact
    exact h.takeQueue rfl hnode now _ _

theorem Faithful.cancel (h : w.Faithful S) {id : ℕ} {node : String} {cancelled : Bool}
    (hact : w.queue.cancel id node = (cancelled, queue)) (now : Int) :
    (record now t w.queue (.cancel id node) cancelled
      ({ w with queue } : SnapshotWorld Fn)).Faithful S := by
  rcases cancel_cases hact with ⟨rfl, rfl⟩ | ⟨old, req, hqueue, -, rfl, rfl⟩
  · exact h
  exact h.takeQueue complete_nodes (h.named_of_queue hqueue) now _ _

theorem Faithful.nextRequest (h : w.Faithful S) {node : String} {found : Option (Request Fn)}
    {now : Int} (hact : w.queue.next cfg node now = (found, queue)) :
    (record now t w.queue (.nextRequest node) found
      ({ w with queue } : SnapshotWorld Fn)).Faithful S := by
  rcases next_cases hact with ⟨hqueue, rfl, rfl⟩ | ⟨old, hqueue, -, rfl, rfl⟩ |
    ⟨old, before, req, after, hqueue, -, -, -, rfl, hqueue'⟩
  · simp only [record, hqueue]
    exact h
  · simp only [record, hqueue, Option.isSome_some, if_true]
    exact h.takeQueue rfl (h.named_of_queue hqueue) now _ _
  · have hnodes : queue.nodes = Function.update w.queue.nodes node
        (some { old with active := some req, pending := before ++ after }) := by
      rw [hqueue']
    refine h.take (markStarted { w with queue } node req.id now) rfl
      (fun other hother => ⟨?_, rfl, update_of_ne hother _ _⟩) ?_ now _ _
    · show queue.nodes other = _
      rw [hnodes, update_of_ne hother]
    · show queue.nodes "" = none
      rw [hnodes, update_of_ne (h.named_of_queue hqueue).symm]
      exact h.unnamed

theorem Faithful.finish (h : w.Faithful S) (node : String) (id : ℕ) (now : Int) :
    (record now t w.queue (.finish node id) ()
      ({ w with queue := w.queue.finish node id } : SnapshotWorld Fn)).Faithful S := by
  have hother (other : String) (hne : other ≠ node) :
      (w.queue.finish node id).nodes other = w.queue.nodes other := by
    unfold HotplugQueue.finish
    dsimp only
    split
    · rfl
    split
    · exact update_of_ne hne _ _
    · rfl
  refine h.take { w with queue := w.queue.finish node id } rfl
    (fun other hne => ⟨hother other hne, rfl, rfl⟩) ?_ now _ _
  show (w.queue.finish node id).nodes "" = none
  by_cases hnode : node = ""
  · subst hnode
    simp only [HotplugQueue.finish, h.unnamed]
  · rw [hother "" (Ne.symm hnode)]
    exact h.unnamed

theorem Faithful.act (h : w.Faithful S) {op : Op Fn} {ans : op.Answer} (hop : op.Names)
    (hact : Queue.act cfg oracle w.queue t op = some (ans, queue)) :
    (record oracle.now t w.queue op ans ({ w with queue } : SnapshotWorld Fn)).Faithful S := by
  cases op with
  | enqueue req => exact h.enqueue hop (Option.some.inj hact) oracle.now
  | cancel id node => exact h.cancel (Option.some.inj hact) oracle.now
  | nextRequest node => exact h.nextRequest (Option.some.inj hact)
  | finish node id =>
    cases hact
    exact h.finish node id oracle.now
  | complete id err =>
    cases hact
    exact h.withQueue complete_nodes
  | _ => exact h.withQueue (act_frame hact rfl).1

theorem faithful_new : (new : SnapshotWorld Fn).Faithful S := by
  refine ⟨Persistence.ordered_new, Persistence.named_new, fun node _ => .inr ⟨?_, ?_⟩, rfl⟩
  · rintro snapshot k (⟨-, task, htask, -⟩ | hpending)
    · cases htask
    · cases hpending
  · exact ⟨_, ⟨0, rfl⟩, rfl⟩

end SnapshotWorld

/-! ## Runs -/

theorem run_names (call : Call Fn) : (run call).Only Op.Names := by
  unfold run
  split
  · exact Only.perform trivial fun _ => only_perform.2 trivial
  rename_i hnode
  refine Only.perform trivial fun id => Only.perform trivial
    fun enqueuedAt => Only.perform hnode fun answer => ?_
  obtain ⟨req, joined⟩ := answer
  cases joined with
  | true =>
    refine Only.perform trivial fun signal => ?_
    cases signal <;> exact only_pure
  | false => ?_
  refine Only.perform trivial fun signal => ?_
  cases signal with
  | started => exact only_perform.2 trivial
  | done err => exact only_pure
  | expired => ?_
  refine Only.perform trivial fun cancelled => ?_
  cases cancelled with
  | true => exact only_pure
  | false => exact only_perform.2 trivial

theorem program_names (cfg : Config) (kind : Kind Fn) : (kind.program cfg).Only Op.Names := by
  cases kind with
  | run call => exact run_names call
  | worker node => ?_
  refine Only.bind (Only.perform trivial fun found => ?_) fun _ => only_pure
  cases found with
  | none => exact only_pure
  | some req => ?_
  have hserves : (runRequest cfg req).Only Op.Names := by
    refine (runRequest_serves cfg req).mono fun op hop => ?_
    cases op <;> trivial
  exact Only.perform trivial fun _ => Only.bind hserves fun _ =>
    Only.perform trivial fun _ => only_perform.2 trivial

/-- What the programs of the queue promise. -/
def namesContract : Contract (Op Fn) Op.Answer where
  rely _ _ _ := True
  guar _ op := op.Names

variable {cfg : Config} {S : SnapshotConfig} {s : SnapshotPool Fn}

/-- The states of the queue and its snapshots, when each step satisfies `ok`. -/
abbrev SnapshotsReachable (cfg : Config) (S : SnapshotConfig)
    (ok : SnapshotPool Fn → SnapshotStep Fn → Prop) : SnapshotPool Fn → Prop :=
  (snapshotManager Fn cfg S).Reachable (· = SnapshotWorld.new) ok

/-- As long as snapshots are dealt with in order, the latest one is outstanding or persisted. -/
theorem faithful_of_inOrder (hs : SnapshotsReachable cfg S InOrder s) : s.world.Faithful S := by
  have hrule : s.Conforms (fun _ => namesContract) (fun _ _ _ => True) ∧
      s.Kept (fun _ => namesContract) ∧ s.world.Faithful S := by
    refine hs.rely_guarantee (SnapshotWorld.Faithful S) ?_ ?_ ?_ ?_
    · rintro world rfl
      exact SnapshotWorld.faithful_new
    · intro s kind prog world _ hfaithful hstart
      simp only [snapshotManager, Option.ite_none_left_eq_some] at hstart
      obtain ⟨⟨prog', queue⟩, hstarted, hresult⟩ := Option.map_eq_some_iff.1 hstart.2
      obtain ⟨rfl, rfl⟩ := Prod.mk.inj hresult
      obtain rfl := start_program hstarted
      obtain ⟨starting, rfl⟩ := start_world hstarted
      exact ⟨(program_names cfg kind).meets trivial (fun _ _ hop _ => hop)
        fun _ _ _ _ _ => trivial, hfaithful.withQueue rfl⟩
    · intro s t oracle thread op next ans world _ _ hfaithful _ _ hop hact
      simp only [snapshotManager, Option.ite_none_left_eq_some] at hact
      obtain ⟨⟨ans', queue⟩, hqueue, hresult⟩ := Option.map_eq_some_iff.1 hact.2
      obtain ⟨rfl, rfl⟩ := Prod.mk.inj hresult
      exact ⟨trivial, hfaithful.act hop hqueue⟩
    · intro s c world horder hfaithful hchange
      obtain ⟨store, hstore, rfl⟩ := Option.map_eq_some_iff.1 hchange
      obtain ⟨hordered, hlatest⟩ := hfaithful.ordered.change horder hstore
      exact ⟨hordered, hfaithful.named.change hfaithful.ordered hstore,
        fun node hnode => hlatest _ node hnode (hfaithful.latest node hnode), hfaithful.unnamed⟩
  exact hrule.2.2

theorem isSome_entry_snapshotLocked (S : SnapshotConfig) (w : SnapshotWorld Fn) (now : Int)
    (node : String) :
    (S.entry (w.snapshotLocked now node)).isSome = true ↔
      (w.queue.nodeQueue node).active.isSome = true ∨ (w.queue.nodeQueue node).pending ≠ [] := by
  have hempty : (w.snapshotLocked now node).isEmpty = true ↔
      (w.queue.nodeQueue node).active = none ∧ (w.queue.nodeQueue node).pending = [] := by
    simp [NodeSnapshot.isEmpty, SnapshotWorld.snapshotLocked]
  unfold SnapshotConfig.entry
  split
  · rename_i h
    obtain ⟨hactive, hpending⟩ := hempty.1 h
    simp [hactive, hpending]
  rename_i h
  rw [hempty, not_and_or] at h
  simpa [Option.isSome_iff_ne_none] using h

/-- If snapshots are dealt with in order, then once no step of the persistence is outstanding, the
ConfigMap holds the last snapshot of each node, and a key for each node with a request. -/
theorem snapshots_persisted_inOrder (hs : SnapshotsReachable cfg S InOrder s)
    (hsettled : s.world.store.Settled) (node : String) :
    (∃ now, s.world.store.data node = S.entry (s.world.snapshotLocked now node)) ∧
      ((s.world.store.data node).isSome = true ↔
        (s.world.queue.nodeQueue node).active.isSome = true ∨
          (s.world.queue.nodeQueue node).pending ≠ []) := by
  have hfaithful := faithful_of_inOrder hs
  have hpersisted : ∃ now, s.world.store.data node = S.entry (s.world.snapshotLocked now node) := by
    by_cases hnode : node = ""
    · subst hnode
      refine ⟨0, hfaithful.named.data.trans ?_⟩
      simp [SnapshotConfig.entry, NodeSnapshot.isEmpty, SnapshotWorld.snapshotLocked,
        HotplugQueue.nodeQueue, hfaithful.unnamed]
    · rcases hfaithful.latest node hnode with ⟨snapshot, k, -, houtstanding, -⟩ | ⟨-, hwritten⟩
      · exfalso
        rcases houtstanding with ⟨-, task, htask, -⟩ | hpending
        · rw [hsettled.tasks k (hfaithful.ordered.fresh k task htask)] at htask
          cases htask
        -- A snapshot that waits has a timer, which is neither armed nor has fired.
        cases htimer : s.world.store.timers node with
        | none =>
          rw [hfaithful.ordered.timed node htimer] at hpending
          cases hpending
        | some id => ?_
        rcases hfaithful.ordered.live node id htimer with harmed | hfired
        · rw [hsettled.armed] at harmed
          cases harmed
        · rw [hsettled.fired] at hfired
          cases hfired
      · obtain ⟨_, ⟨now, rfl⟩, hdata⟩ := hwritten
        exact ⟨now, hdata⟩
  obtain ⟨now, hdata⟩ := hpersisted
  refine ⟨⟨now, hdata⟩, ?_⟩
  rw [hdata]
  exact isSome_entry_snapshotLocked S s.world now node

theorem snapshotsReachable_of_run {ok : SnapshotPool Fn → SnapshotStep Fn → Prop}
    {check : SnapshotPool Fn → SnapshotStep Fn → Bool} (hcheck : ∀ s l, check s l = true → ok s l)
    {ls : List (SnapshotStep Fn)} {property : SnapshotPool Fn → Prop}
    (hrun : ∃ s ∈ (snapshotManager Fn cfg S).run check ls (Pool.initial SnapshotWorld.new),
      property s) : ∃ s, SnapshotsReachable cfg S ok s ∧ property s := by
  have hnew : SnapshotsReachable cfg S ok (Pool.initial SnapshotWorld.new) := .initial rfl
  obtain ⟨s, hs, hproperty⟩ := hrun
  exact ⟨s, hnew.run hcheck hs, hproperty⟩

/-- The condition of `InOrder`, for given steps. -/
def inOrder (s : SnapshotPool Fn) : SnapshotStep Fn → Bool
  | .change (.advance k) =>
    (List.range k).all fun k' =>
      (s.world.store.tasks k').all fun task' =>
        (s.world.store.tasks k).all fun task => task'.snapshot.node ≠ task.snapshot.node
  | _ => true

theorem inOrder_sound {l : SnapshotStep Fn} (h : inOrder s l = true) : InOrder s l := by
  cases l with
  | change c =>
    cases c with
    | advance k =>
      intro task htask k' task' htask' hnode
      by_contra hlt
      have hall := List.all_eq_true.1 h k' (List.mem_range.2 (Nat.lt_of_not_le hlt))
      rw [htask', htask] at hall
      simp [hnode] at hall
    | fire timer => trivial
    | flush node => trivial
  | start kind => trivial
  | act t oracle => trivial

/-- An attachment of the volume `volume-1` to the node `node-1`. -/
def firstCall : Call Unit :=
  ⟨"node-1", .attach, "volume-1", .normal, ()⟩

/-- The worker finds every request valid, and every function succeeds. -/
def quietOracle : Oracle :=
  ⟨0, .started, .valid, none, false⟩

/-- A `Run` call up to the return of `enqueue`, before its snapshot is persisted. -/
def enqueueRun : List (SnapshotStep Unit) :=
  [.start (.run firstCall), .act 0 quietOracle, .act 0 quietOracle, .act 0 quietOracle]

/-- The snapshot waits for the timer and is written. -/
def debouncedRun : List (SnapshotStep Unit) :=
  enqueueRun ++ [.change (.advance 0), .change (.fire (0, "node-1")), .change (.flush "node-1"),
    .change (.advance 0), .change (.advance 0)]

theorem debouncedRun_persisted :
    ∃ s : SnapshotPool Unit,
      SnapshotsReachable defaultConfig ⟨1000000000, NodeSnapshot.node⟩ InOrder s ∧
        s.world.store.Settled ∧ s.world.store.data "node-1" = some "node-1" ∧
        ((s.world.queue.nodeQueue "node-1").active.isSome = true ∨
          (s.world.queue.nodeQueue "node-1").pending ≠ []) := by
  have hrun : ∃ s ∈ (snapshotManager Unit defaultConfig ⟨1000000000, NodeSnapshot.node⟩).run inOrder
      debouncedRun (Pool.initial SnapshotWorld.new),
        s.world.store.Settled ∧ s.world.store.data "node-1" = some "node-1" := by
    decide +kernel
  obtain ⟨s, hs, hsettled, hdata⟩ := snapshotsReachable_of_run (fun _ _ => inOrder_sound) hrun
  refine ⟨s, hs, hsettled, hdata, ?_⟩
  rw [← (snapshots_persisted_inOrder hs hsettled "node-1").2, hdata]
  rfl

/-- The goroutine with the snapshot of the active request is delayed until the request has ended. -/
def delayedRun : List (SnapshotStep Unit) :=
  enqueueRun ++ [.change (.advance 0), .change (.advance 0), .start (.worker "node-1")] ++
    List.replicate 8 (.act 1 quietOracle) ++
    [.change (.advance 2), .change (.advance 2), .start (.worker "node-1"), .act 2 quietOracle,
      .change (.advance 3), .change (.advance 3), .act 0 quietOracle, .act 0 quietOracle,
      .change (.advance 1), .change (.advance 1)]

/-- All calls and workers have returned and no request is left, but the ConfigMap has a key. -/
theorem delayed_snapshot_stays :
    ∃ s : SnapshotPool Unit,
      SnapshotsReachable defaultConfig ⟨0, NodeSnapshot.node⟩ (fun _ _ => True) s ∧
        (s.threads.all fun thread => thread.prog.result?.isSome) = true ∧
        s.world.store.Settled ∧ (s.world.queue.nodes "node-1").isNone = true ∧
        s.world.store.data "node-1" = some "node-1" := by
  refine snapshotsReachable_of_run (fun _ _ _ => trivial) (?_ : ∃ s ∈
    (snapshotManager Unit defaultConfig ⟨0, NodeSnapshot.node⟩).run (fun _ _ => true) delayedRun
      (Pool.initial SnapshotWorld.new), _)
  decide +kernel

end OpenNebulaCSI.Queue
