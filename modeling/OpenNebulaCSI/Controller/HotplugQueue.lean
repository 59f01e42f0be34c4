import Mathlib.Logic.Function.Basic
import OpenNebulaCSI.Controller.Types

/-!
# The hotplug queue

One queue per node, served by one worker per node. The functions below are the critical sections
of `HotplugQueueManager`, each of which runs under the manager's mutex; `Fn` stands for the type of
the functions the requests carry. What a request's two channels tell its waiters is kept in
`started` and `done`, and `starting` holds the nodes whose worker is about to ask for its next
request.

Left out are the snapshots the manager persists, with the start time and the number of coalesced
callers that only they show, and the metrics.
-/

namespace OpenNebulaCSI.Controller

open Function List

/-- `HotplugQueuePriority`. -/
inductive Priority where
  | critical | normal | background
  deriving DecidableEq

/-- `hotplugQueueRequest`. The caller is the thread that enqueued the request. -/
structure Request (Fn : Type) where
  id : ℕ
  node : String
  operation : Operation
  volume : String
  priority : Priority
  enqueuedAt : Int
  waitLimit : Int
  caller : ℕ
  fn : Fn
  deriving DecidableEq

/-- `hotplugNodeQueue`. -/
structure NodeQueue (Fn : Type) where
  active : Option (Request Fn)
  pending : List (Request Fn)
  running : Bool

structure HotplugQueue (Fn : Type) where
  nodes : String → Option (NodeQueue Fn)
  seq : ℕ
  started : ℕ → Bool
  done : ℕ → Option (Option GoError)
  starting : List String

variable {Fn : Type}

namespace HotplugQueue

def new : HotplugQueue Fn where
  nodes _ := none
  seq := 0
  started _ := false
  done _ := none
  starting := []

def sameQueueRequest (a b : Request Fn) : Bool :=
  a.node = b.node && a.operation = b.operation && a.volume = b.volume

/-- The active request, or else the first pending one, with the same node, operation and volume. -/
def findDuplicateRequest (queue : NodeQueue Fn) (req : Request Fn) : Option (Request Fn) :=
  match queue.active.filter (sameQueueRequest · req) with
  | some active => some active
  | none => queue.pending.find? (sameQueueRequest · req)

/-- `effectiveWaitLimitLocked`. -/
def effectiveWaitLimit (cfg : Config) (queue : NodeQueue Fn) : Int :=
  if cfg.maxWait ≤ 0 then 0
  else
    let depthAhead := queue.pending.length + if queue.active.isSome then 1 else 0
    let wait :=
      if 0 < cfg.perItemWait then cfg.maxWait + depthAhead * cfg.perItemWait else cfg.maxWait
    if 0 < cfg.maxWaitCap ∧ cfg.maxWaitCap < wait then cfg.maxWaitCap else wait

/-- The queue of a node, which is empty as long as nothing has been enqueued for the node. -/
def nodeQueue (q : HotplugQueue Fn) (node : String) : NodeQueue Fn :=
  (q.nodes node).getD { active := none, pending := [], running := false }

/-- The request an enqueued request is coalesced with. -/
def duplicate (cfg : Config) (q : HotplugQueue Fn) (req : Request Fn) : Option (Request Fn) :=
  if cfg.dedupe then findDuplicateRequest (q.nodeQueue req.node) req else none

/-- Join an existing request for the same work, or append the request and make sure that the
node's worker runs. -/
def enqueue (cfg : Config) (q : HotplugQueue Fn) (req : Request Fn) :
    (Request Fn × Bool) × HotplugQueue Fn :=
  let queue := q.nodeQueue req.node
  match q.duplicate cfg req with
  | some existing =>
    ((existing, true), { q with nodes := Function.update q.nodes req.node (some queue) })
  | none =>
    let req := { req with waitLimit := effectiveWaitLimit cfg queue }
    ((req, false), { q with
      nodes := Function.update q.nodes req.node
        (some { queue with pending := queue.pending ++ [req], running := true })
      starting := if queue.running then q.starting else q.starting ++ [req.node] })

/-- `complete`: only the first completion counts. -/
def complete (q : HotplugQueue Fn) (id : ℕ) (err : Option GoError) : HotplugQueue Fn :=
  match q.done id with
  | some _ => q
  | none => { q with done := Function.update q.done id (some err) }

/-- Take a request that has not been started out of the queue. -/
def cancel (q : HotplugQueue Fn) (id : ℕ) (node : String) : Bool × HotplugQueue Fn :=
  match q.nodes node with
  | none => (false, q)
  | some queue =>
    match queue.pending.find? (·.id = id) with
    | none => (false, q)
    | some req =>
      (true, { q with
        nodes := Function.update q.nodes node
          (some { queue with pending := queue.pending.eraseP (·.id = id) }) }.complete id
          (some (.queueTimeout node req.operation req.volume req.waitLimit)))

/-- A lower number is served first; waiting raises a request by one level per `ageBoost`. -/
def effectivePriority (cfg : Config) (req : Request Fn) (now : Int) : Int :=
  let base : Int :=
    match req.priority with
    | .critical => 0
    | .normal => 1
    | .background => 2
  if cfg.ageBoost ≤ 0 then base
  else
    let boosts := (now - req.enqueuedAt).tdiv cfg.ageBoost
    base - if base < boosts then base else boosts

/-- The selection loop of `next`, over the requests from index `idx` on. -/
def selectLoop (score : Request Fn → Int) : ℕ → ℕ → Int → List (Request Fn) → ℕ
  | _, selectedIdx, _, [] => selectedIdx
  | idx, selectedIdx, selectedScore, req :: rest =>
    if score req < selectedScore then selectLoop score (idx + 1) idx (score req) rest
    else selectLoop score (idx + 1) selectedIdx selectedScore rest

/-- The index of the first pending request with the lowest score. -/
def selectIndex (score : Request Fn → Int) : List (Request Fn) → ℕ
  | [] => 0
  | req :: rest => selectLoop score 1 0 (score req) rest

/-- Make the most urgent pending request active, or drop the node's empty queue. -/
def next (cfg : Config) (q : HotplugQueue Fn) (node : String) (now : Int) :
    Option (Request Fn) × HotplugQueue Fn :=
  match q.nodes node with
  | none => (none, q)
  | some queue =>
    let idx := selectIndex (effectivePriority cfg · now) queue.pending
    match queue.pending[idx]? with
    | none => (none, { q with nodes := Function.update q.nodes node none })
    | some req =>
      (some req, { q with
        nodes := Function.update q.nodes node
          (some { queue with active := some req, pending := queue.pending.eraseIdx idx }) })

/-- `close(req.started)`. -/
def closeStarted (q : HotplugQueue Fn) (id : ℕ) : HotplugQueue Fn :=
  { q with started := Function.update q.started id true }

/-- End the active request; the worker loop then asks for the next one. -/
def finish (q : HotplugQueue Fn) (node : String) (id : ℕ) : HotplugQueue Fn :=
  let nodes :=
    match q.nodes node with
    | none => q.nodes
    | some queue =>
      if (queue.active.map Request.id) = some id then
        Function.update q.nodes node (some { queue with active := none })
      else q.nodes
  { q with nodes, starting := q.starting ++ [node] }

/-! ## The requests in the queue -/

/-- The request is waiting or active on the node. -/
def Holds (q : HotplugQueue Fn) (node : String) (req : Request Fn) : Prop :=
  ∃ queue, q.nodes node = some queue ∧ (queue.active = some req ∨ req ∈ queue.pending)

theorem not_holds_new {node : String} {req : Request Fn} :
    ¬ (new : HotplugQueue Fn).Holds node req := by
  rintro ⟨queue, hqueue, -⟩
  cases hqueue

variable {cfg : Config} {q : HotplugQueue Fn} {node node' : String} {req req' : Request Fn}
  {queue : NodeQueue Fn}

theorem Holds.of_update {nodes : String → Option (NodeQueue Fn)} (h : q.Holds node' req)
    (hnodes : q.nodes = Function.update nodes node (some queue)) :
    (node' = node ∧ (queue.active = some req ∨ req ∈ queue.pending)) ∨
      ({ q with nodes } : HotplugQueue Fn).Holds node' req := by
  obtain ⟨found, hfound, hreq⟩ := h
  by_cases hnode : node' = node
  · subst hnode
    rw [hnodes, update_self] at hfound
    cases hfound
    exact .inl ⟨rfl, hreq⟩
  · rw [hnodes, update_of_ne hnode] at hfound
    exact .inr ⟨found, hfound, hreq⟩

theorem holds_of_nodeQueue
    (h : (q.nodeQueue node).active = some req ∨ req ∈ (q.nodeQueue node).pending) :
    q.Holds node req := by
  unfold nodeQueue at h
  cases hqueue : q.nodes node with
  | none => simp [hqueue] at h
  | some queue => exact ⟨queue, hqueue, by simpa [hqueue] using h⟩

theorem Holds.nodeQueue (h : q.Holds node req) :
    (q.nodeQueue node).active = some req ∨ req ∈ (q.nodeQueue node).pending := by
  obtain ⟨queue, hqueue, hreq⟩ := h
  simpa [HotplugQueue.nodeQueue, hqueue] using hreq

theorem nodeQueue_eq (h : q.nodes node = some queue) : q.nodeQueue node = queue := by
  rw [HotplugQueue.nodeQueue, h, Option.getD_some]

variable {q' : HotplugQueue Fn}

theorem nodeQueue_update (h : q'.nodes = Function.update q.nodes node (some queue))
    (node' : String) : q'.nodeQueue node' = if node' = node then queue else q.nodeQueue node' := by
  unfold nodeQueue
  rw [h]
  split
  · rename_i hnode
    rw [hnode, update_self, Option.getD_some]
  · rename_i hnode
    rw [update_of_ne hnode]

theorem holds_of_duplicate (h : q.duplicate cfg req = some req') :
    q.Holds req.node req' ∧ sameQueueRequest req' req = true := by
  unfold duplicate at h
  split at h
  · unfold findDuplicateRequest at h
    split at h
    · rename_i active hactive
      obtain rfl : active = req' := Option.some.inj h
      obtain ⟨hactive, hsame⟩ := Option.filter_eq_some_iff.1 hactive
      exact ⟨holds_of_nodeQueue (.inl hactive), hsame⟩
    · have hsame := find?_some h
      exact ⟨holds_of_nodeQueue (.inr (mem_of_find?_eq_some h)), hsame⟩
  · cases h

theorem enqueue_cases (cfg : Config) (q : HotplugQueue Fn) (req : Request Fn) :
    (∃ existing, q.duplicate cfg req = some existing ∧ (q.enqueue cfg req).1 = (existing, true)) ∨
    (q.duplicate cfg req = none ∧
      ∃ waitLimit, (q.enqueue cfg req).1 = ({ req with waitLimit }, false)) := by
  unfold enqueue
  cases h : q.duplicate cfg req with
  | some existing => exact .inl ⟨existing, rfl, rfl⟩
  | none => exact .inr ⟨rfl, _, rfl⟩

theorem Holds.of_enqueue (h : (q.enqueue cfg req).2.Holds node' req') :
    q.Holds node' req' ∨
      (node' = req.node ∧ (q.enqueue cfg req).1 = (req', false)) := by
  unfold enqueue at h ⊢
  cases hdup : q.duplicate cfg req with
  | some existing =>
    simp only [hdup] at h
    rcases h.of_update rfl with ⟨rfl, hreq⟩ | hold
    · exact .inl (holds_of_nodeQueue hreq)
    · exact .inl hold
  | none =>
    simp only [hdup] at h
    rcases h.of_update rfl with ⟨rfl, hreq⟩ | hold
    · rcases hreq with hactive | hpending
      · exact .inl (holds_of_nodeQueue (.inl hactive))
      rcases mem_append.1 hpending with hpending | hnew
      · exact .inl (holds_of_nodeQueue (.inr hpending))
      · exact .inr ⟨rfl, by rw [mem_singleton.1 hnew]⟩
    · exact .inl hold

/-- The selection loop, after the requests `before`, the selected one and the requests `mid`. -/
theorem selectLoop_spec {score : Request Fn → Int} {rest before mid : List (Request Fn)}
    {selected : Request Fn} (hbefore : ∀ other ∈ before, score selected < score other)
    (hmid : ∀ other ∈ mid, score selected ≤ score other) :
    ∃ first taken after, before ++ selected :: mid ++ rest = first ++ taken :: after ∧
      selectLoop score (before ++ selected :: mid).length before.length (score selected) rest =
        first.length ∧
      (∀ other ∈ first, score taken < score other) ∧
        ∀ other ∈ after, score taken ≤ score other := by
  induction rest generalizing before mid selected with
  | nil => exact ⟨before, selected, mid, append_nil _, rfl, hbefore, hmid⟩
  | cons next rest ih =>
    rw [selectLoop]
    split
    · rename_i hlt
      have hall : ∀ other ∈ before ++ selected :: mid, score next < score other := by
        intro other hother
        rcases mem_append.1 hother with hother | hother
        · exact Int.lt_trans hlt (hbefore other hother)
        rcases mem_cons.1 hother with rfl | hother
        · exact hlt
        · exact Int.lt_of_lt_of_le hlt (hmid other hother)
      obtain ⟨first, taken, after, hsplit, hindex, hspec⟩ :=
        ih hall (forall_mem_nil (score next ≤ score ·))
      refine ⟨first, taken, after, ?_, ?_, hspec⟩
      · rw [← hsplit]
        simp
      · rw [← hindex]
        simp [Nat.add_assoc]
    · rename_i hle
      have hall : ∀ other ∈ mid ++ [next], score selected ≤ score other := by
        intro other hother
        rcases mem_append.1 hother with hother | hother
        · exact hmid other hother
        · rw [mem_singleton.1 hother]
          exact Int.not_lt.1 hle
      obtain ⟨first, taken, after, hsplit, hindex, hspec⟩ := ih hbefore hall
      refine ⟨first, taken, after, ?_, ?_, hspec⟩
      · rw [← hsplit]
        simp
      · rw [← hindex]
        simp [Nat.add_assoc]

theorem selectIndex_spec (score : Request Fn → Int) {pending : List (Request Fn)}
    (h : pending ≠ []) :
    ∃ before req after, pending = before ++ req :: after ∧
      selectIndex score pending = before.length ∧
      (∀ other ∈ before, score req < score other) ∧ ∀ other ∈ after, score req ≤ score other := by
  cases pending with
  | nil => exact (h rfl).elim
  | cons head rest =>
    exact selectLoop_spec (forall_mem_nil (score head < score ·))
      (forall_mem_nil (score head ≤ score ·))

variable {id : ℕ}

theorem cancel_cases {cancelled : Bool} (h : q.cancel id node = (cancelled, q')) :
    (cancelled = false ∧ q' = q) ∨
    ∃ queue req, q.nodes node = some queue ∧ queue.pending.find? (·.id = id) = some req ∧
      cancelled = true ∧ q' = { q with
        nodes := Function.update q.nodes node
          (some { queue with pending := queue.pending.eraseP (·.id = id) }) }.complete id
          (some (.queueTimeout node req.operation req.volume req.waitLimit)) := by
  unfold cancel at h
  cases hqueue : q.nodes node with
  | none =>
    rw [hqueue] at h
    cases h
    exact .inl ⟨rfl, rfl⟩
  | some queue => ?_
  rw [hqueue] at h
  cases hfind : queue.pending.find? (·.id = id) with
  | none =>
    simp only [hfind] at h
    cases h
    exact .inl ⟨rfl, rfl⟩
  | some req =>
    simp only [hfind] at h
    cases h
    exact .inr ⟨queue, req, rfl, hfind, rfl, rfl⟩

variable {now : Int}

/-- A worker gets the first of the most urgent requests, which becomes active, or finds none; then
the node's queue is dropped. -/
theorem next_cases {found : Option (Request Fn)} (h : q.next cfg node now = (found, q')) :
    (q.nodes node = none ∧ found = none ∧ q' = q) ∨
    (∃ queue, q.nodes node = some queue ∧ queue.pending = [] ∧ found = none ∧
      q' = { q with nodes := Function.update q.nodes node none }) ∨
    ∃ queue before req after, q.nodes node = some queue ∧
      queue.pending = before ++ req :: after ∧
      (∀ other ∈ before, effectivePriority cfg req now < effectivePriority cfg other now) ∧
      (∀ other ∈ after, effectivePriority cfg req now ≤ effectivePriority cfg other now) ∧
      found = some req ∧ q' = { q with
        nodes := Function.update q.nodes node
          (some { queue with active := some req, pending := before ++ after }) } := by
  unfold next at h
  cases hqueue : q.nodes node with
  | none =>
    rw [hqueue] at h
    cases h
    exact .inl ⟨rfl, rfl, rfl⟩
  | some queue => ?_
  simp only [hqueue] at h
  by_cases hempty : queue.pending = []
  · simp only [hempty, getElem?_nil] at h
    cases h
    exact .inr (.inl ⟨queue, rfl, hempty, rfl, rfl⟩)
  obtain ⟨before, req, after, hsplit, hindex, hbefore, hafter⟩ :=
    selectIndex_spec (effectivePriority cfg · now) hempty
  have herase : (before ++ req :: after).eraseIdx before.length = before ++ after := by
    rw [eraseIdx_append_of_length_le (Nat.le_refl _), Nat.sub_self, eraseIdx_cons_zero]
  rw [hindex, hsplit, herase] at h
  simp only [getElem?_append_right (Nat.le_refl _), Nat.sub_self, getElem?_cons_zero] at h
  cases h
  exact .inr (.inr ⟨queue, before, req, after, rfl, hsplit, hbefore, hafter, rfl, rfl⟩)

variable {err : Option GoError}

theorem holds_complete : (q.complete id err).Holds node req ↔ q.Holds node req := by
  unfold complete
  split <;> rfl

theorem Holds.of_cancel (h : (q.cancel id node).2.Holds node' req) : q.Holds node' req := by
  rcases cancel_cases (Prod.eta (q.cancel id node)).symm with
    ⟨-, hsame⟩ | ⟨queue, _, hqueue, -, -, hcancel⟩
  · rwa [hsame] at h
  rw [hcancel, holds_complete] at h
  rcases h.of_update rfl with ⟨rfl, hreq⟩ | hold
  · exact ⟨queue, hqueue, hreq.imp_right mem_of_mem_eraseP⟩
  · exact hold

theorem holds_of_next (h : (q.next cfg node now).1 = some req) : q.Holds node req := by
  rcases next_cases (Prod.eta (q.next cfg node now)).symm with ⟨-, hnone, -⟩ |
    ⟨_, -, -, hnone, -⟩ | ⟨queue, before, found, after, hqueue, hpending, -, -, hfound, -⟩
  · cases hnone.symm.trans h
  · cases hnone.symm.trans h
  · cases hfound.symm.trans h
    exact ⟨queue, hqueue, .inr (by simp [hpending])⟩

theorem Holds.of_next (h : (q.next cfg node now).2.Holds node' req) : q.Holds node' req := by
  rcases next_cases (Prod.eta (q.next cfg node now)).symm with ⟨-, -, hnext⟩ |
    ⟨_, -, -, -, hnext⟩ | ⟨queue, before, found, after, hqueue, hpending, -, -, -, hnext⟩
  · rwa [hnext] at h
  · rw [hnext] at h
    obtain ⟨found, hfound, hreq⟩ := h
    by_cases hnode : node' = node
    · simp [hnode] at hfound
    · exact ⟨found, by simpa [update_of_ne hnode] using hfound, hreq⟩
  · rw [hnext] at h
    rcases h.of_update rfl with ⟨rfl, hreq⟩ | hold
    · refine ⟨queue, hqueue, .inr ?_⟩
      rw [hpending]
      rcases hreq with hactive | hrest
      · simp [Option.some.inj hactive]
      · exact (sublist_cons_self found after).append_left before |>.subset hrest
    · exact hold

theorem Holds.of_finish (h : (q.finish node id).Holds node' req) : q.Holds node' req := by
  unfold finish at h
  obtain ⟨found, hfound, hreq⟩ := h
  simp only at hfound
  split at hfound
  · exact ⟨found, hfound, hreq⟩
  rename_i queue hqueue
  split at hfound
  · by_cases hnode : node' = node
    · subst hnode
      simp only [update_self, Option.some.injEq] at hfound
      subst hfound
      exact ⟨queue, hqueue, hreq.imp_left fun h => by cases h⟩
    · exact ⟨found, by simpa [update_of_ne hnode] using hfound, hreq⟩
  · exact ⟨found, hfound, hreq⟩

/-! ## What the critical sections do -/

theorem enqueue_of_duplicate (h : q.duplicate cfg req = some req') :
    q.enqueue cfg req = ((req', true), q) := by
  have hself : Function.update q.nodes req.node (some (q.nodeQueue req.node)) = q.nodes := by
    obtain ⟨queue, hqueue, -⟩ := (holds_of_duplicate h).1
    rw [nodeQueue, hqueue, Option.getD_some, ← hqueue, update_eq_self]
  simp only [enqueue, h, hself]

theorem enqueue_of_no_duplicate (h : q.duplicate cfg req = none) :
    ∃ waitLimit starting, q.enqueue cfg req = (({ req with waitLimit }, false), { q with
      nodes := Function.update q.nodes req.node (some { q.nodeQueue req.node with
        pending := (q.nodeQueue req.node).pending ++ [{ req with waitLimit }], running := true })
      starting }) ∧
      starting =
        if (q.nodeQueue req.node).running then q.starting else q.starting ++ [req.node] := by
  refine ⟨effectiveWaitLimit cfg (q.nodeQueue req.node), _, ?_, rfl⟩
  simp only [enqueue, h]

theorem finish_nodes (hqueue : q.nodes node = some queue)
    (hactive : ∀ active, queue.active = some active → active.id = id) :
    (q.finish node id).nodes =
      Function.update q.nodes node (some { queue with active := none }) := by
  simp only [finish, hqueue]
  split
  · rfl
  rename_i hne
  have hnone : queue.active = none := by
    cases hsome : queue.active with
    | none => rfl
    | some active => simp [hsome, hactive active hsome] at hne
  rw [← hnone, ← hqueue, update_eq_self]

theorem nodeQueue_drop (h : q'.nodes = Function.update q.nodes node none) (node' : String) :
    q'.nodeQueue node' = if node' = node then { active := none, pending := [], running := false }
      else q.nodeQueue node' := by
  unfold nodeQueue
  rw [h]
  split
  · rename_i hnode
    rw [hnode, update_self, Option.getD_none]
  · rename_i hnode
    rw [update_of_ne hnode]

theorem finish_nodeQueue (q : HotplugQueue Fn) (node : String) (id : ℕ) (node' : String) :
    ((q.finish node id).nodeQueue node').pending = (q.nodeQueue node').pending ∧
      ∀ active, ((q.finish node id).nodeQueue node').active = some active →
        (q.nodeQueue node').active = some active := by
  have hcases : (q.finish node id).nodes = q.nodes ∨ ∃ queue, q.nodes node = some queue ∧
      (q.finish node id).nodes =
        Function.update q.nodes node (some { queue with active := none }) := by
    unfold finish
    cases hqueue : q.nodes node with
    | none => exact .inl rfl
    | some queue => ?_
    dsimp only
    split
    · exact .inr ⟨queue, rfl, rfl⟩
    · exact .inl rfl
  rcases hcases with hsame | ⟨queue, hqueue, hnodes⟩
  · simp [nodeQueue, hsame]
  rw [nodeQueue_update hnodes]
  split
  · rename_i hnode
    rw [hnode, nodeQueue_eq hqueue]
    exact ⟨rfl, fun _ hactive => by cases hactive⟩
  · exact ⟨rfl, fun _ hactive => hactive⟩

/-! ## Request numbers and results -/

@[simp]
theorem complete_seq : (q.complete id err).seq = q.seq := by
  unfold complete
  split <;> rfl

@[simp]
theorem complete_nodes : (q.complete id err).nodes = q.nodes := by
  unfold complete
  split <;> rfl

@[simp]
theorem complete_starting : (q.complete id err).starting = q.starting := by
  unfold complete
  split <;> rfl

@[simp]
theorem enqueue_seq : (q.enqueue cfg req).2.seq = q.seq := by
  unfold enqueue
  simp only
  split <;> rfl

@[simp]
theorem cancel_seq : (q.cancel id node).2.seq = q.seq := by
  unfold cancel
  split
  · rfl
  split
  · rfl
  · exact complete_seq

@[simp]
theorem next_seq : (q.next cfg node now).2.seq = q.seq := by
  unfold next
  split
  · rfl
  · simp only
    split <;> rfl

@[simp]
theorem enqueue_done : (q.enqueue cfg req).2.done = q.done := by
  unfold enqueue
  simp only
  split <;> rfl

@[simp]
theorem next_done : (q.next cfg node now).2.done = q.done := by
  unfold next
  split
  · rfl
  · simp only
    split <;> rfl

theorem complete_done_cases (q : HotplugQueue Fn) (id id' : ℕ) (err : Option GoError) :
    (q.complete id err).done id' = q.done id' ∨
      (id' = id ∧ q.done id' = none ∧ (q.complete id err).done id' = some err) := by
  unfold complete
  split
  · exact .inl rfl
  rename_i hnone
  by_cases hid : id' = id
  · subst hid
    exact .inr ⟨rfl, hnone, by simp⟩
  · exact .inl (by simp [update_of_ne hid])

theorem cancel_done_cases (id id' : ℕ) :
    (q.cancel id node).2.done id' = q.done id' ∨
      (q.done id' = none ∧ ∃ err, (q.cancel id node).2.done id' = some (some err)) := by
  unfold cancel
  split
  · exact .inl rfl
  split
  · exact .inl rfl
  rcases complete_done_cases { q with nodes := _ } id id' _ with hsame | ⟨-, hnone, hnew⟩
  · exact .inl hsame
  · exact .inr ⟨hnone, _, hnew⟩

end HotplugQueue

end OpenNebulaCSI.Controller
