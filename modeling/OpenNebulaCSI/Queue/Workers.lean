import OpenNebulaCSI.Queue.Requests

/-!
# The workers of a node

A worker is started by the `enqueue` that finds its node idle and retires when it finds nothing to
do; between the two, each iteration of its loop ends by asking for the next one. So a node with a
queue has one worker, started or about to start, and a node without a queue has none. This is the
invariant `Workers`; that two requests of one node are never served at the same time follows by
counting.
-/

namespace OpenNebulaCSI.Queue

open Go Concurrency Controller Program HotplugQueue Function List

variable {Fn : Type} {cfg : Config} {ok : QueuePool Fn → QueueStep Fn → Prop} {s : QueuePool Fn}

/-- The thread is a worker of the node and has not returned. -/
def works (node : String) (thread : QueueThread Fn) : Bool :=
  match thread.kind, thread.prog with
  | .worker other, .call _ _ => other = node
  | _, _ => false

/-- The workers of a node, those that are about to start included. -/
def workers (s : QueuePool Fn) (node : String) : ℕ :=
  s.world.starting.count node + s.threads.countP (works node)

variable {node : String} {thread : QueueThread Fn}

theorem works_iff :
    works node thread = true ↔
      thread.kind = .worker node ∧ ∃ op, thread.prog.nextOp? = some op := by
  obtain ⟨kind, prog, born⟩ := thread
  cases kind with
  | run call => simp [works]
  | worker other => cases prog <;> simp [works, nextOp?]

theorem works_of_ne {other : String} (h : thread.kind = .worker node) (hne : other ≠ node) :
    works other thread = false := by
  rw [Bool.eq_false_iff, Ne, works_iff, h]
  rintro ⟨hkind, -⟩
  exact hne (Kind.worker.inj hkind).symm

/-! ## One step of a worker -/

/-- The events with which an iteration of a worker ends. -/
def retires : Event (Op Fn) Op.Answer → Bool
  | ⟨.nextRequest _, none⟩ => true
  | ⟨.finish _ _, _⟩ => true
  | _ => false

theorem Op.Serves.not_retires {req : Request Fn} {event : Event (Op Fn) Op.Answer}
    (h : event.op.Serves req) : retires event = false := by
  obtain ⟨op, ans⟩ := event
  cases op <;> first | rfl | exact h.elim

/-- A worker that has just returned has found nothing or has finished its request. -/
theorem WorkerStage.retires_iff {past : History Fn} {event} {rest : Prog Fn (Option GoError)}
    (h : WorkerStage cfg node (past ++ [event]) rest) :
    retires event = true ↔ rest.nextOp? = none := by
  have hserves : ∀ {req : Request Fn} {trace current},
      (runRequest cfg req).Follows trace current → ∀ other ∈ begun node req ++ trace,
        retires other = false := by
    intro req trace current hfollows other hother
    rcases mem_append.1 hother with hbegun | htrace
    · simp only [begun, mem_cons, not_mem_nil, or_false] at hbegun
      rcases hbegun with rfl | rfl <;> rfl
    · exact ((hfollows.only (runRequest_serves cfg req)).1 other htrace).not_retires
  generalize hpast : past ++ [event] = whole at h
  have hmem : event ∈ whole := by rw [← hpast]; simp
  have hlast : whole.getLast? = some event := by rw [← hpast]; simp
  cases h with
  | new hrest => cases hmem
  | idle =>
    obtain rfl := mem_singleton.1 hmem
    exact ⟨fun _ => rfl, fun _ => rfl⟩
  | taken hrest =>
    obtain rfl := mem_singleton.1 hmem
    simp [hrest, retires]
  | serving hfollows hcurrent hrest => simp [hrest, hserves hfollows event hmem]
  | served hreturns hrest => simp [hrest, hserves hreturns event hmem]
  | completed hreturns hrest =>
    obtain rfl : _ = event := by simpa using hlast
    simp [hrest, retires]
  | finished hreturns =>
    obtain rfl : _ = event := by simpa using hlast
    exact ⟨fun _ => rfl, fun _ => rfl⟩

section Advance

variable {t : ℕ} {prog : Prog Fn (Option GoError)} {event : Event (Op Fn) Op.Answer}
  {world : HotplugQueue Fn}

theorem works_advance (hs : Reachable cfg ok (s.advance t thread prog event world))
    (hthread : s.threads[t]? = some thread) (hcalls : thread.prog.nextOp? = some event.op) :
    works node { thread with prog } = (works node thread && !retires event) := by
  rw [Bool.eq_iff_iff, Bool.and_eq_true, works_iff, works_iff, Bool.not_eq_true']
  cases hkind : thread.kind with
  | run call => simp
  | worker other => ?_
  have hstage := workerStage hs (Pool.advance_getElem?_self hthread) hkind
  rw [Pool.history_advance_self] at hstage
  have hretires := hstage.retires_iff
  dsimp only at hretires ⊢
  cases hprog : prog.nextOp? with
  | none => simp [hretires.2 hprog]
  | some op => ?_
  have : retires event = false := by
    rw [Bool.eq_false_iff, Ne, hretires, hprog]
    nofun
  simp [hcalls, this]

theorem workers_advance (hthread : s.threads[t]? = some thread) :
    workers (s.advance t thread prog event world) node + s.world.starting.count node +
        (works node thread).toNat =
      workers s node + world.starting.count node + (works node { thread with prog }).toNat := by
  obtain ⟨hlt, hget⟩ := List.getElem?_eq_some_iff.1 hthread
  have hcount := @List.countP_set _ (works node) s.threads t { thread with prog } hlt
  have hpos : (works node thread).toNat ≤ s.threads.countP (works node) := by
    cases hworks : works node thread with
    | false => exact Nat.zero_le _
    | true => exact countP_pos_iff.2 ⟨thread, hget ▸ getElem_mem hlt, hworks⟩
  have hone : ∀ b : Bool, (if b = true then 1 else 0) = b.toNat := by decide
  rw [hget, hone, hone] at hcount
  simp only [workers, Pool.advance, hcount]
  omega

end Advance

/-! ## One worker for every queue -/

/-- A node has a worker if and only if it has a queue, which then is marked as running, and the
active request of a queue is the one its worker has taken. -/
structure Workers (s : QueuePool Fn) : Prop where
  count : ∀ node, workers s node = if (s.world.nodes node).isSome then 1 else 0
  running : ∀ node queue, s.world.nodes node = some queue → queue.running = true
  active : ∀ node req, (s.world.nodeQueue node).active = some req →
    ∃ t thread, s.threads[t]? = some thread ∧ works node thread = true ∧ Dispatched s t req

theorem index_unique {α : Type} {p : α → Bool} {l : List α} (hle : l.countP p ≤ 1) {i j : ℕ}
    {a b : α} (hi : l[i]? = some a) (ha : p a = true) (hj : l[j]? = some b) (hb : p b = true) :
    i = j := by
  have hpos : ∀ {k c} {rest : List α}, rest[k]? = some c → p c = true → 0 < rest.countP p :=
    fun hk hc => countP_pos_iff.2 ⟨_, mem_of_getElem? hk, hc⟩
  induction l generalizing i j with
  | nil => cases hi
  | cons first rest ih =>
    rw [countP_cons] at hle
    cases i with
    | zero =>
      obtain rfl : first = a := by simpa using hi
      cases j with
      | zero => rfl
      | succ j => ?_
      have hrest : 0 < rest.countP p := hpos hj hb
      rw [if_pos ha] at hle
      omega
    | succ i =>
      have hrest : 0 < rest.countP p := hpos hi ha
      cases j with
      | zero =>
        obtain rfl : first = b := by simpa using hj
        rw [if_pos hb] at hle
        omega
      | succ j => rw [ih (by omega) hi hj]

theorem Workers.unique (h : Workers s) {t t' : ℕ} {thread' : QueueThread Fn}
    (hthread : s.threads[t]? = some thread) (hworks : works node thread = true)
    (hthread' : s.threads[t']? = some thread') (hworks' : works node thread' = true) : t = t' := by
  have hle : s.threads.countP (works node) ≤ 1 := by
    have hcount := h.count node
    rw [workers] at hcount
    split at hcount <;> omega
  exact index_unique hle hthread hworks hthread' hworks'

theorem Workers.isSome (h : Workers s) {t : ℕ} (hthread : s.threads[t]? = some thread)
    (hworks : works node thread = true) : ∃ queue, s.world.nodes node = some queue := by
  have hpos : 0 < s.threads.countP (works node) :=
    countP_pos_iff.2 ⟨thread, mem_of_getElem? hthread, hworks⟩
  have hcount := h.count node
  rw [workers] at hcount
  split at hcount
  · rename_i hsome
    exact Option.isSome_iff_exists.1 hsome
  · omega

section Step

variable {t : ℕ} {prog : Prog Fn (Option GoError)} {event : Event (Op Fn) Op.Answer}
  {world : HotplugQueue Fn} (h : Workers s)
  (hs : Reachable cfg ok (s.advance t thread prog event world))
  (hthread : s.threads[t]? = some thread) (hcalls : thread.prog.nextOp? = some event.op)

include h hs hthread hcalls

/-- The workers are kept by a step that starts a worker for every new queue, that takes a queue away
only with its worker, and that makes only a worker's own request active. -/
theorem Workers.advance
    (hbalance : ∀ node, world.starting.count node + (if (s.world.nodes node).isSome then 1 else 0) =
      s.world.starting.count node + (if (world.nodes node).isSome then 1 else 0) +
        (works node thread && retires event).toNat)
    (hrunning : ∀ node queue, world.nodes node = some queue → queue.running = true)
    (hactive : ∀ node req, (world.nodeQueue node).active = some req →
      ((s.world.nodeQueue node).active = some req ∧ (works node thread && retires event) = false) ∨
        (works node thread = true ∧ event = ⟨.nextRequest node, some req⟩)) :
    Workers (s.advance t thread prog event world) := by
  refine ⟨fun node => ?_, hrunning, fun node req hreq => ?_⟩
  · show workers (s.advance t thread prog event world) node =
      if (world.nodes node).isSome then 1 else 0
    have hcount := h.count node
    have hstep := @workers_advance _ s node thread t prog event world hthread
    have hbalance := hbalance node
    rw [works_advance hs hthread hcalls] at hstep
    have hsplit : (works node thread).toNat = (works node thread && !retires event).toNat +
          (works node thread && retires event).toNat := by
      cases works node thread <;> cases retires event <;> rfl
    omega
  · rcases hactive node req hreq with ⟨hsame, hkeeps⟩ | ⟨hworks, rfl⟩
    · obtain ⟨c, other, hother, hworks, hdispatched⟩ := h.active node req hsame
      by_cases hmoved : c = t
      · subst hmoved
        obtain rfl : thread = other := Option.mem_unique hthread hother
        refine ⟨c, _, Pool.advance_getElem?_self hthread, ?_,
          dispatched_advance.2 (.inl hdispatched)⟩
        rw [works_advance hs hthread hcalls]
        rw [hworks, Bool.true_and] at hkeeps ⊢
        rw [hkeeps]
        rfl
      · refine ⟨c, other, ?_, hworks, dispatched_advance.2 (.inl hdispatched)⟩
        rw [Pool.advance_getElem?_of_ne hmoved]
        exact hother
    · refine ⟨t, _, Pool.advance_getElem?_self hthread, ?_,
        dispatched_advance.2 (.inr ⟨rfl, node, rfl⟩)⟩
      rw [works_advance hs hthread hcalls, hworks]
      rfl

theorem Workers.same (hretires : retires event = false)
    (hstarting : world.starting = s.world.starting)
    (hnodes : world.nodes = s.world.nodes) :
    Workers (s.advance t thread prog event world) := by
  refine h.advance hs hthread hcalls (fun node => ?_) (fun node queue hqueue => ?_)
    fun node req hreq => .inl ⟨?_, ?_⟩
  · rw [hstarting, hnodes, hretires, Bool.and_false, Bool.toNat_false, Nat.add_zero]
  · rw [hnodes] at hqueue
    exact h.running node queue hqueue
  · rw [HotplugQueue.nodeQueue, hnodes] at hreq
    exact hreq
  · rw [hretires, Bool.and_false]

/-- A step that changes the queue of a node, which was running and still is, without retiring a
worker. -/
theorem Workers.update {queue queue' : NodeQueue Fn}
    (hretires : retires event = false) (hstarting : world.starting = s.world.starting)
    (hqueue : s.world.nodes node = some queue)
    (hnodes : world.nodes = Function.update s.world.nodes node (some queue'))
    (hrunning : queue'.running = queue.running)
    (hactive : queue'.active = queue.active ∨ ∃ req, queue'.active = some req ∧
      works node thread = true ∧ event = ⟨.nextRequest node, some req⟩) :
    Workers (s.advance t thread prog event world) := by
  refine h.advance hs hthread hcalls (fun other => ?_) (fun other found hfound => ?_)
    fun other req hreq => ?_
  · rw [hstarting, hnodes, hretires, Bool.and_false, Bool.toNat_false, Nat.add_zero]
    by_cases hother : other = node
    · rw [hother, hqueue, update_self, Option.isSome_some, Option.isSome_some]
    · rw [update_of_ne hother]
  · rw [hnodes] at hfound
    by_cases hother : other = node
    · rw [hother, update_self] at hfound
      obtain rfl := Option.some.inj hfound
      rw [hrunning]
      exact h.running node queue hqueue
    · rw [update_of_ne hother] at hfound
      exact h.running other found hfound
  · rw [hretires, Bool.and_false]
    rw [nodeQueue_update hnodes] at hreq
    split at hreq
    · rename_i hother
      subst hother
      rcases hactive with hsame | ⟨taken, htaken, hworks, hevent⟩
      · refine .inl ⟨?_, rfl⟩
        rw [nodeQueue_eq hqueue, ← hsame, hreq]
      · obtain rfl : taken = req := Option.mem_unique htaken hreq
        exact .inr ⟨hworks, hevent⟩
    · exact .inl ⟨hreq, rfl⟩

end Step

section Operations

variable {t : ℕ} {prog : Prog Fn (Option GoError)} {world : HotplugQueue Fn} (h : Workers s)

include h

theorem Workers.start {kind : Kind Fn}
    (hstart : (manager Fn cfg).start s.world kind = some (prog, world)) :
    Workers (s.spawn kind prog world) := by
  obtain rfl := start_program hstart
  have hactive : ∀ {world : HotplugQueue Fn}, world.nodes = s.world.nodes → ∀ node req,
      (world.nodeQueue node).active = some req → ∃ t thread,
        (s.spawn kind (kind.program cfg) world).threads[t]? = some thread ∧
          works node thread = true ∧ Dispatched (s.spawn kind (kind.program cfg) world) t req := by
    intro world hnodes node req hreq
    rw [HotplugQueue.nodeQueue, hnodes] at hreq
    obtain ⟨t, thread, hthread, hworks, hdispatched⟩ := h.active node req hreq
    exact ⟨t, thread, Pool.spawn_getElem?_old hthread, hworks, hdispatched⟩
  have hworkers : ∀ {world : HotplugQueue Fn} node,
      workers (s.spawn kind (kind.program cfg) world) node + s.world.starting.count node =
        workers s node + world.starting.count node +
          (works node ⟨kind, kind.program cfg, s.log.length⟩).toNat := by
    intro world node
    have hone : ∀ b : Bool, (if b = true then 1 else 0) = b.toNat := by decide
    simp only [workers, Pool.spawn, countP_append, countP_singleton, hone]
    omega
  cases kind with
  | run call =>
    cases hstart
    refine ⟨fun node => ?_, h.running, hactive rfl⟩
    have hcount := h.count node
    have hadded := @hworkers s.world node
    rw [show works node ⟨.run call, Kind.program cfg (.run call), s.log.length⟩ = false from rfl,
      Bool.toNat_false] at hadded
    show workers _ node = if (s.world.nodes node).isSome then 1 else 0
    omega
  | worker other =>
    simp only [manager, Queue.start] at hstart
    split at hstart
    swap
    · cases hstart
    rename_i hmem
    obtain ⟨-, rfl⟩ := answer_inj hstart
    refine ⟨fun node => ?_, h.running, hactive rfl⟩
    have hcount := h.count node
    have hadded := @hworkers { s.world with starting := s.world.starting.erase other } node
    have hworks : works node (⟨.worker other, Kind.program cfg (.worker other), s.log.length⟩ :
        QueueThread Fn) = decide (other = node) := rfl
    show workers _ node = if (s.world.nodes node).isSome then 1 else 0
    rw [hworks] at hadded
    dsimp only at hadded
    by_cases hnode : other = node
    · subst hnode
      have hpos : 0 < s.world.starting.count other := count_pos_iff.2 hmem
      rw [count_erase_self, decide_eq_true rfl, Bool.toNat_true] at hadded
      omega
    · rw [count_erase_of_ne (Ne.symm hnode), decide_eq_false hnode, Bool.toNat_false] at hadded
      omega

variable (hthread : s.threads[t]? = some thread)

include hthread

theorem Workers.act_enqueue {asked : Request Fn} {ans : Request Fn × Bool}
    (hs : Reachable cfg ok (s.advance t thread prog ⟨.enqueue asked, ans⟩ world))
    (hcalls : thread.prog.nextOp? = some (.enqueue asked))
    (hact : s.world.enqueue cfg { asked with caller := t } = (ans, world)) :
    Workers (s.advance t thread prog ⟨.enqueue asked, ans⟩ world) := by
  cases hdup : s.world.duplicate cfg { asked with caller := t } with
  | some existing =>
    rw [enqueue_of_duplicate hdup] at hact
    obtain ⟨-, rfl⟩ := Prod.mk.inj hact
    exact h.same hs hthread hcalls rfl rfl rfl
  | none =>
    obtain ⟨waitLimit, starting, henqueue, hstarting⟩ := enqueue_of_no_duplicate hdup
    rw [henqueue] at hact
    obtain ⟨-, rfl⟩ := Prod.mk.inj hact
    dsimp only at hstarting hs ⊢
    cases hqueue : s.world.nodes asked.node with
    | some queue =>
      have hnode := nodeQueue_eq hqueue
      have hrunning := h.running asked.node queue hqueue
      rw [hnode, hrunning, if_pos rfl] at hstarting
      rw [hnode] at hs ⊢
      exact h.update hs hthread hcalls rfl hstarting hqueue rfl hrunning.symm (.inl rfl)
    | none =>
      -- The node had no queue, so its worker is started.
      have hstarting : starting = s.world.starting ++ [asked.node] := by
        rw [hstarting, HotplugQueue.nodeQueue, hqueue]
        rfl
      refine h.advance hs hthread hcalls (fun node => ?_) (fun node queue hfound => ?_)
        fun node req hreq => .inl ⟨?_, Bool.and_false _⟩
      · rw [hstarting, count_append, count_singleton]
        by_cases hnode : node = asked.node
        · subst hnode
          simp [hqueue, retires]
        · simp [Ne.symm hnode, update_of_ne hnode, retires]
      · dsimp only at hfound
        by_cases hnode : node = asked.node
        · subst hnode
          rw [update_self] at hfound
          rw [← Option.some.inj hfound]
        · rw [update_of_ne hnode] at hfound
          exact h.running node queue hfound
      · rw [nodeQueue_update rfl] at hreq
        split at hreq
        · rename_i hnode
          rw [hnode]
          exact hreq
        · exact hreq

theorem Workers.act_cancel {id : ℕ} {ans : Bool}
    (hs : Reachable cfg ok (s.advance t thread prog ⟨.cancel id node, ans⟩ world))
    (hcalls : thread.prog.nextOp? = some (.cancel id node))
    (hact : s.world.cancel id node = (ans, world)) :
    Workers (s.advance t thread prog ⟨.cancel id node, ans⟩ world) := by
  rcases cancel_cases hact with ⟨-, rfl⟩ | ⟨queue, req, hqueue, -, -, rfl⟩
  · exact h.same hs hthread hcalls rfl rfl rfl
  exact h.update hs hthread hcalls rfl complete_starting hqueue complete_nodes rfl (.inl rfl)

theorem Workers.act_next {now : Int} {ans : Option (Request Fn)}
    (hs : Reachable cfg ok (s.advance t thread prog ⟨.nextRequest node, ans⟩ world))
    (hcalls : thread.prog.nextOp? = some (.nextRequest node)) (hkind : thread.kind = .worker node)
    (hact : s.world.next cfg node now = (ans, world)) :
    Workers (s.advance t thread prog ⟨.nextRequest node, ans⟩ world) := by
  have hworks : works node thread = true := works_iff.2 ⟨hkind, _, hcalls⟩
  rcases next_cases hact with ⟨hidle, -⟩ | ⟨queue, hqueue, -, rfl, rfl⟩ |
    ⟨queue, before, req, after, hqueue, -, -, -, rfl, rfl⟩
  · obtain ⟨queue, hqueue⟩ := h.isSome hthread hworks
    rw [hidle] at hqueue
    cases hqueue
  · refine h.advance hs hthread hcalls (fun other => ?_) (fun other found hfound => ?_)
      fun other req hreq => ?_
    · by_cases hother : other = node
      · subst hother
        simp [hqueue, hworks, retires]
      · simp [update_of_ne hother, works_of_ne hkind hother]
    · by_cases hother : other = node
      · simp [hother] at hfound
      · exact h.running other found (by simpa [update_of_ne hother] using hfound)
    · rw [nodeQueue_drop rfl] at hreq
      split at hreq
      · cases hreq
      · rename_i hother
        exact .inl ⟨hreq, by rw [works_of_ne hkind hother, Bool.false_and]⟩
  · exact h.update hs hthread hcalls rfl rfl hqueue rfl rfl (.inr ⟨req, rfl, hworks, rfl⟩)

theorem Workers.act_finish {req : Request Fn} (hs₀ : Reachable cfg ok s)
    (hs : Reachable cfg ok (s.advance t thread prog ⟨.finish node req.id, ()⟩
      (s.world.finish node req.id)))
    (hcalls : thread.prog.nextOp? = some (.finish node req.id)) (hkind : thread.kind = .worker node)
    (hreq : Dispatched s t req) :
    Workers (s.advance t thread prog ⟨.finish node req.id, ()⟩ (s.world.finish node req.id)) := by
  have hworks : works node thread = true := works_iff.2 ⟨hkind, _, hcalls⟩
  obtain ⟨queue, hqueue⟩ := h.isSome hthread hworks
  -- The active request is the one of the node's only worker.
  have hactive : ∀ active, queue.active = some active → active.id = req.id := by
    intro active hactive
    rw [← nodeQueue_eq hqueue] at hactive
    obtain ⟨t', thread', hthread', hworks', hdispatched⟩ := h.active node active hactive
    obtain rfl := h.unique hthread hworks hthread' hworks'
    rw [hdispatched.eq hs₀ hreq]
  have hnodes := finish_nodes hqueue hactive
  have hstarting : (s.world.finish node req.id).starting = s.world.starting ++ [node] := rfl
  refine h.advance hs hthread hcalls (fun other => ?_) (fun other found hfound => ?_)
    fun other active hfound => ?_
  · rw [hstarting, hnodes, count_append, count_singleton]
    by_cases hother : other = node
    · subst hother
      simp [hqueue, hworks, retires]
    · simp [Ne.symm hother, update_of_ne hother, works_of_ne hkind hother]
  · rw [hnodes] at hfound
    by_cases hother : other = node
    · subst hother
      rw [update_self] at hfound
      rw [← Option.some.inj hfound]
      exact h.running other queue hqueue
    · rw [update_of_ne hother] at hfound
      exact h.running other found hfound
  · rw [nodeQueue_update hnodes] at hfound
    split at hfound
    · cases hfound
    · rename_i hother
      exact .inl ⟨hfound, by rw [works_of_ne hkind hother, Bool.false_and]⟩

end Operations

theorem reachable_workers (hs : Reachable cfg ok s) : Workers s := by
  have hinit : ∀ world, world = HotplugQueue.new → Workers (Pool.initial world : QueuePool Fn) := by
    rintro world rfl
    refine ⟨fun node => rfl, fun node queue h => ?_, fun node req h => ?_⟩
    · cases h
    · cases h
  refine hs.invariant hinit fun s l s' hs ih hok h => ?_
  have hs' := hs.step hok h
  rcases Machine.step_cases h with ⟨hstart⟩ |
    @⟨t, oracle, thread, op, next, ans, world, hthread, hprog, hact⟩ | @⟨c⟩
  · exact ih.start hstart
  · have hcalls : thread.prog.nextOp? = some op := by rw [hprog]; rfl
    by_cases hchanges : op.changes = true
    swap
    · obtain ⟨hnodes, hstarting, -⟩ := act_frame hact (by simpa using hchanges)
      refine ih.same hs' hthread hcalls ?_ hstarting hnodes
      cases op with
      | enqueue _ | cancel _ _ | nextRequest _ | complete _ _ | finish _ _ =>
        exact (hchanges rfl).elim
      | _ => rfl
    cases op with
    | enqueue asked => exact ih.act_enqueue hthread hs' hcalls (Option.some.inj hact)
    | cancel id node => exact ih.act_cancel hthread hs' hcalls (Option.some.inj hact)
    | nextRequest node =>
      obtain ⟨node', hkind, ⟨hop, -⟩ | ⟨req, tail, -, -, hafter⟩⟩ :=
        worker_of_op hs hthread hprog rfl
      · cases hop
        exact ih.act_next hthread hs' hcalls hkind (Option.some.inj hact)
      · exact hafter.elim
    | complete id err =>
      cases hact
      exact ih.same hs' hthread hcalls rfl complete_starting complete_nodes
    | finish node id =>
      cases hact
      obtain ⟨node', hkind, ⟨hop, -⟩ | ⟨req, tail, hpast, -, hafter⟩⟩ :=
        worker_of_op hs hthread hprog rfl
      · cases hop
      · obtain ⟨rfl, rfl⟩ : node = node' ∧ id = req.id := hafter
        have hreq : Dispatched s t req := ⟨node, Pool.mem_history.1 (by simp [hpast])⟩
        exact ih.act_finish hthread hs hs' hcalls hkind hreq
    | _ => cases hchanges
  · cases c

end OpenNebulaCSI.Queue
