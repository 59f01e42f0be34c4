import OpenNebulaCSI.Queue.Calls

/-!
# What becomes of a request

Every request has one fate: it is cancelled while it waits, or a worker takes it, and no worker
takes it twice. This is an invariant over the log of a run, which says who has been given which
number, what has been enqueued, dispatched, cancelled and completed, and over the queue, which holds
the requests that still wait (`Requests`).

All of it rests on request numbers. A number is given out once, a caller enqueues once and under its
own number, so two requests of the same number are one request.
-/

namespace OpenNebulaCSI.Queue

open Go Concurrency Controller Program HotplugQueue List

variable {Fn : Type} {cfg : Config} {ok : QueuePool Fn → QueueStep Fn → Prop} {s : QueuePool Fn}

/-! ## Facts of the log -/

/-- The caller has been given the number. -/
def Issued (s : QueuePool Fn) (c id : ℕ) : Prop :=
  (c, ⟨.nextRequestID, id⟩) ∈ s.log

/-- The caller has put the request into the queue. -/
def Enqueued (s : QueuePool Fn) (c : ℕ) (req : Request Fn) : Prop :=
  ∃ asked, (c, ⟨.enqueue asked, (req, false)⟩) ∈ s.log

/-- The worker has taken the request. -/
def Dispatched (s : QueuePool Fn) (t : ℕ) (req : Request Fn) : Prop :=
  ∃ node, (t, ⟨.nextRequest node, some req⟩) ∈ s.log

def Cancelled (s : QueuePool Fn) (id : ℕ) : Prop :=
  ∃ c node, (c, ⟨.cancel id node, true⟩) ∈ s.log

/-- The worker has completed the request of this number. -/
def Completed (s : QueuePool Fn) (t id : ℕ) (err : Option GoError) : Prop :=
  (t, ⟨.complete id err, ()⟩) ∈ s.log

/-- The request waits in the queue of the node. -/
def Pending (q : HotplugQueue Fn) (node : String) (req : Request Fn) : Prop :=
  req ∈ (q.nodeQueue node).pending

variable {req : Request Fn} {thread : QueueThread Fn} {q : HotplugQueue Fn} {node : String}

theorem Pending.holds (h : Pending q node req) : q.Holds node req :=
  holds_of_nodeQueue (.inr h)

variable {id : ℕ}

theorem pending_of_cancel {world : HotplugQueue Fn} (h : q.cancel id node = (true, world)) :
    ∃ req, Pending q node req ∧ req.id = id := by
  rcases cancel_cases h with ⟨hnone, -⟩ | ⟨queue, req, hqueue, hfind, -⟩
  · cases hnone
  refine ⟨req, ?_, by simpa using find?_some hfind⟩
  rw [Pending, nodeQueue_eq hqueue]
  exact mem_of_find?_eq_some hfind

variable {asked : Request Fn}

theorem holds_of_joined {world : HotplugQueue Fn} (h : q.enqueue cfg asked = ((req, true), world)) :
    q.Holds asked.node req := by
  rcases enqueue_cases cfg q asked with ⟨existing, hdup, hanswer⟩ | ⟨-, _, hanswer⟩
  · rw [h] at hanswer
    obtain ⟨rfl, -⟩ := Prod.mk.inj hanswer
    exact (holds_of_duplicate hdup).1
  · rw [h] at hanswer
    cases hanswer

/-! ## Threads -/

variable {c : ℕ} {call : Call Fn}

theorem runStage (hs : Reachable cfg ok s) (hthread : s.threads[c]? = some thread)
    (hkind : thread.kind = .run call) : RunStage call (s.history c) thread.prog := by
  have hfollows := hs.follows (fun _ _ _ _ => start_program) hthread
  rw [hkind] at hfollows
  exact runStage_of_follows hfollows

variable {t : ℕ}

theorem workerStage (hs : Reachable cfg ok s) (hthread : s.threads[t]? = some thread)
    (hkind : thread.kind = .worker node) : WorkerStage cfg node (s.history t) thread.prog := by
  have hfollows := hs.follows (fun _ _ _ _ => start_program) hthread
  rw [hkind] at hfollows
  exact workerStage_of_follows hfollows

/-- The operations that only workers call. -/
def Op.ofWorker : Op Fn → Bool
  | .nextRequest _ | .closeStarted _ | .validate _ | .call _ | .returned _ | .contextExpired
  | .complete _ _ | .finish _ _ => true
  | _ => false

def Kind.isWorker : Kind Fn → Bool
  | .worker _ => true
  | .run _ => false

variable {op : Op Fn}

theorem Op.After.ofWorker (h : op.After node req) : op.ofWorker = true := by
  cases op <;> first | rfl | exact h.elim

theorem Op.Waits.ofWorker {coalesced : Bool} (h : op.Waits call req coalesced) :
    op.ofWorker = false := by
  cases op <;> first | rfl | exact h.elim

theorem Op.Direct.ofWorker (h : op.Direct call) : op.ofWorker = false := by
  cases op <;> first | rfl | exact h.elim

/-- Callers and workers keep to their operations. -/
theorem ofWorker_eq (hs : Reachable cfg ok s) (hthread : s.threads[t]? = some thread) :
    (∀ event ∈ s.history t, event.op.ofWorker = thread.kind.isWorker) ∧
      ∀ op, thread.prog.nextOp? = some op → op.ofWorker = thread.kind.isWorker := by
  cases hkind : thread.kind with
  | worker node =>
    rcases (workerStage hs hthread hkind).shape with ⟨hpast, hnext⟩ | ⟨hpast, hret⟩ |
      ⟨req, tail, hpast, htail, hnext⟩
    · exact ⟨by simp [hpast], nextOp_allowed hnext rfl⟩
    · rw [hpast, hret]
      exact ⟨by simp [Op.ofWorker, Kind.isWorker], nofun⟩
    rw [hpast]
    exact ⟨forall_mem_cons.2 ⟨rfl, fun event hmem => (htail event hmem).ofWorker⟩,
      fun op hop => (hnext op hop).ofWorker⟩
  | run call =>
    rcases (runStage hs hthread hkind).shape with ⟨-, hdirect, hnext⟩ | ⟨hpast, hnext⟩ |
      ⟨id, hpast, hnext⟩ | ⟨id, enqueuedAt, hpast, hnext⟩ |
      ⟨id, enqueuedAt, req, coalesced, tail, hpast, htail, hnext⟩
    · exact ⟨fun event hmem => (hdirect event hmem).ofWorker,
        fun op hop => (hnext op hop).ofWorker⟩
    · exact ⟨by simp [hpast], nextOp_allowed hnext rfl⟩
    · exact ⟨by simp [hpast, Op.ofWorker, Kind.isWorker], nextOp_allowed hnext rfl⟩
    · exact ⟨by simp [hpast, Op.ofWorker, Kind.isWorker], nextOp_allowed hnext rfl⟩
    rw [hpast]
    refine ⟨forall_mem_append.2 ⟨?_, fun event hmem => (htail event hmem).ofWorker⟩,
      fun op hop => (hnext op hop).ofWorker⟩
    simp [Call.enqueued, Op.ofWorker, Kind.isWorker]

theorem worker_of_op (hs : Reachable cfg ok s) {next : op.Answer → Prog Fn (Option GoError)}
    (hthread : s.threads[t]? = some thread) (hprog : thread.prog = .call op next)
    (hop : op.ofWorker = true) :
    ∃ node, thread.kind = .worker node ∧
      ((op = .nextRequest node ∧ s.history t = []) ∨
        ∃ req tail, s.history t = ⟨.nextRequest node, some req⟩ :: tail ∧
          (∀ event ∈ tail, event.op.After node req) ∧ op.After node req) := by
  have hnext : thread.prog.nextOp? = some op := by rw [hprog]; rfl
  cases hkind : thread.kind with
  | run call =>
    have := (ofWorker_eq hs hthread).2 op hnext
    rw [hop, hkind] at this
    cases this
  | worker node =>
    refine ⟨node, rfl, ?_⟩
    rcases (workerStage hs hthread hkind).shape with ⟨hpast, hrest⟩ | ⟨-, hret⟩ |
      ⟨req, tail, hpast, htail, hrest⟩
    · exact .inl ⟨Option.mem_unique hnext hrest, hpast⟩
    · rw [hprog] at hret
      cases hret
    · exact .inr ⟨req, tail, hpast, htail, hrest op hnext⟩

theorem caller_of_op (hs : Reachable cfg ok s) {next : op.Answer → Prog Fn (Option GoError)}
    (hthread : s.threads[c]? = some thread) (hprog : thread.prog = .call op next)
    (hop : op.ofWorker = false) :
    ∃ call, thread.kind = .run call ∧
      (op.Direct call ∨ (op = .nextRequestID ∧ s.history c = []) ∨
        (∃ id, op = .now ∧ s.history c = [⟨.nextRequestID, id⟩]) ∨
        (∃ id enqueuedAt, op = .enqueue (call.request id enqueuedAt) ∧
          s.history c = [⟨.nextRequestID, id⟩, ⟨.now, enqueuedAt⟩]) ∨
        ∃ id enqueuedAt req coalesced tail,
          s.history c = call.enqueued id enqueuedAt req coalesced ++ tail ∧
          (∀ event ∈ tail, event.op.Waits call req coalesced) ∧ op.Waits call req coalesced) := by
  have hnext : thread.prog.nextOp? = some op := by rw [hprog]; rfl
  cases hkind : thread.kind with
  | worker node =>
    have := (ofWorker_eq hs hthread).2 op hnext
    rw [hop, hkind] at this
    cases this
  | run call =>
    refine ⟨call, rfl, ?_⟩
    rcases (runStage hs hthread hkind).shape with ⟨-, -, hrest⟩ | ⟨hpast, hrest⟩ |
      ⟨id, hpast, hrest⟩ | ⟨id, enqueuedAt, hpast, hrest⟩ |
      ⟨id, enqueuedAt, req, coalesced, tail, hpast, htail, hrest⟩
    · exact .inl (hrest op hnext)
    · exact .inr (.inl ⟨Option.mem_unique hnext hrest, hpast⟩)
    · exact .inr (.inr (.inl ⟨id, Option.mem_unique hnext hrest, hpast⟩))
    · exact .inr (.inr (.inr (.inl
        ⟨id, enqueuedAt, Option.mem_unique hnext hrest, hpast⟩)))
    · exact .inr (.inr (.inr (.inr
        ⟨id, enqueuedAt, req, coalesced, tail, hpast, htail, hrest op hnext⟩)))

theorem enqueue_event (hs : Reachable cfg ok s) {ans : Request Fn × Bool}
    (hmem : (c, ⟨.enqueue asked, ans⟩) ∈ s.log) :
    ∃ thread call id enqueuedAt tail, s.threads[c]? = some thread ∧ thread.kind = .run call ∧
      asked = call.request id enqueuedAt ∧
      s.history c = call.enqueued id enqueuedAt ans.1 ans.2 ++ tail ∧
      (∀ event ∈ tail, event.op.Waits call ans.1 ans.2) ∧
      ∀ op, thread.prog.nextOp? = some op → op.Waits call ans.1 ans.2 := by
  obtain ⟨thread, hthread⟩ := hs.wellFormed.started hmem
  have hhistory := Pool.mem_history.2 hmem
  cases hkind : thread.kind with
  | worker node =>
    have := (ofWorker_eq hs hthread).1 _ hhistory
    rw [hkind] at this
    cases this
  | run call =>
    rcases (runStage hs hthread hkind).shape with ⟨-, hdirect, -⟩ | ⟨hpast, -⟩ | ⟨id, hpast, -⟩ |
      ⟨id, enqueuedAt, hpast, -⟩ | ⟨id, enqueuedAt, req, coalesced, tail, hpast, htail, hnext⟩
    · exact (hdirect _ hhistory).elim
    · simp [hpast] at hhistory
    · simp [hpast] at hhistory
    · simp [hpast] at hhistory
    rw [hpast] at hhistory
    rcases mem_append.1 hhistory with hfirst | htail'
    · simp only [Call.enqueued, mem_cons, Event.mk.injEq, reduceCtorEq, false_and,
        not_mem_nil, or_false, false_or, Op.enqueue.injEq] at hfirst
      obtain ⟨rfl, hans⟩ := hfirst
      obtain rfl := eq_of_heq hans
      exact ⟨thread, call, id, enqueuedAt, tail, hthread, hkind, rfl, hpast, htail, hnext⟩
    · exact (htail _ htail').elim

theorem dispatch_event (hs : Reachable cfg ok s)
    (hmem : (t, ⟨.nextRequest node, some req⟩) ∈ s.log) :
    ∃ thread tail, s.threads[t]? = some thread ∧ thread.kind = .worker node ∧
      s.history t = ⟨.nextRequest node, some req⟩ :: tail ∧
      (∀ event ∈ tail, event.op.After node req) ∧
      ∀ op, thread.prog.nextOp? = some op → op.After node req := by
  obtain ⟨thread, hthread⟩ := hs.wellFormed.started hmem
  have hhistory := Pool.mem_history.2 hmem
  cases hkind : thread.kind with
  | run call =>
    have := (ofWorker_eq hs hthread).1 _ hhistory
    rw [hkind] at this
    cases this
  | worker node' =>
    rcases (workerStage hs hthread hkind).shape with ⟨hpast, -⟩ | ⟨hpast, -⟩ |
      ⟨req', tail, hpast, htail, hnext⟩
    · simp [hpast] at hhistory
    · simp [hpast] at hhistory
    rw [hpast] at hhistory
    rcases mem_cons.1 hhistory with heq | htail'
    · cases heq
      exact ⟨thread, tail, hthread, hkind, hpast, htail, hnext⟩
    · exact (htail _ htail').elim

variable {req' : Request Fn}

theorem Dispatched.eq (hs : Reachable cfg ok s) (h : Dispatched s t req)
    (h' : Dispatched s t req') : req = req' := by
  obtain ⟨node, hmem⟩ := h
  obtain ⟨node', hmem'⟩ := h'
  obtain ⟨thread, tail, -, -, hpast, htail, -⟩ := dispatch_event hs hmem
  have hhistory := Pool.mem_history.2 hmem'
  rw [hpast] at hhistory
  rcases mem_cons.1 hhistory with heq | htail'
  · cases heq
    rfl
  · exact (htail _ htail').elim

/-! ## Request numbers -/

/-- What an `enqueue` has answered: a request for the same work, with the caller's own number unless
it was coalesced. -/
theorem enqueue_answer (hs : Reachable cfg ok s) {coalesced : Bool}
    (hmem : (c, ⟨.enqueue asked, (req, coalesced)⟩) ∈ s.log) :
    HotplugQueue.sameQueueRequest req asked = true ∧
      (coalesced = false → req.id = asked.id ∧ req.fn = asked.fn) := by
  obtain ⟨s₀, oracle, thread, next, world, -, -, -, -, hact, -⟩ := hs.origin hmem
  have hanswer : (s₀.world.enqueue cfg { asked with caller := c }).1 = (req, coalesced) :=
    congrArg Prod.fst (Option.some.inj hact)
  rcases enqueue_cases cfg s₀.world { asked with caller := c } with
    ⟨existing, hdup, henqueue⟩ | ⟨-, waitLimit, henqueue⟩
  · obtain ⟨rfl, rfl⟩ := Prod.mk.inj (henqueue.symm.trans hanswer)
    exact ⟨(holds_of_duplicate hdup).2, nofun⟩
  · obtain ⟨rfl, rfl⟩ := Prod.mk.inj (henqueue.symm.trans hanswer)
    exact ⟨by simp [HotplugQueue.sameQueueRequest], fun _ => ⟨rfl, rfl⟩⟩

/-- A caller asks under its own number. -/
theorem asked_issued (hs : Reachable cfg ok s) {ans : Request Fn × Bool}
    (hmem : (c, ⟨.enqueue asked, ans⟩) ∈ s.log) : Issued s c asked.id := by
  obtain ⟨thread, call, id, enqueuedAt, tail, -, -, rfl, hpast, -, -⟩ := enqueue_event hs hmem
  refine Pool.mem_history.1 ?_
  rw [hpast]
  simp [Call.enqueued, Call.request]

/-- A caller asks once. -/
theorem asked_once (hs : Reachable cfg ok s) {asked' : Request Fn} {ans ans' : Request Fn × Bool}
    (hmem : (c, ⟨.enqueue asked, ans⟩) ∈ s.log) (hmem' : (c, ⟨.enqueue asked', ans'⟩) ∈ s.log) :
    ans = ans' := by
  obtain ⟨thread, call, id, enqueuedAt, tail, -, -, -, hpast, htail, -⟩ := enqueue_event hs hmem
  have hhistory := Pool.mem_history.2 hmem'
  rw [hpast] at hhistory
  rcases mem_append.1 hhistory with hfirst | htail'
  · simp only [Call.enqueued, mem_cons, Event.mk.injEq, reduceCtorEq, false_and,
      not_mem_nil, or_false, false_or, Op.enqueue.injEq] at hfirst
    exact (eq_of_heq hfirst.2).symm
  · exact (htail _ htail').elim

theorem Enqueued.issued (hs : Reachable cfg ok s) (h : Enqueued s c req) : Issued s c req.id := by
  obtain ⟨asked, hmem⟩ := h
  rw [((enqueue_answer hs hmem).2 rfl).1]
  exact asked_issued hs hmem

theorem Enqueued.eq (hs : Reachable cfg ok s) (h : Enqueued s c req) (h' : Enqueued s c req') :
    req = req' := by
  obtain ⟨asked, hmem⟩ := h
  obtain ⟨asked', hmem'⟩ := h'
  exact congrArg Prod.fst (asked_once hs hmem hmem')

section Advance

variable {prog : Prog Fn (Option GoError)} {event : Event (Op Fn) Op.Answer}
  {world : HotplugQueue Fn} {err : Option GoError}

theorem mem_log_advance {entry : ℕ × Event (Op Fn) Op.Answer} :
    entry ∈ (s.advance t thread prog event world).log ↔ entry ∈ s.log ∨ entry = (t, event) := by
  simp [Pool.advance]

theorem issued_advance : Issued (s.advance t thread prog event world) c id ↔
    Issued s c id ∨ c = t ∧ event = ⟨.nextRequestID, id⟩ := by
  simp only [Issued, mem_log_advance, Prod.mk.injEq, eq_comm]

theorem enqueued_advance : Enqueued (s.advance t thread prog event world) c req ↔
    Enqueued s c req ∨ c = t ∧ ∃ asked, event = ⟨.enqueue asked, (req, false)⟩ := by
  simp only [Enqueued, mem_log_advance, Prod.mk.injEq, exists_or, exists_and_left,
    @eq_comm _ _ event]

theorem dispatched_advance : Dispatched (s.advance t thread prog event world) c req ↔
    Dispatched s c req ∨ c = t ∧ ∃ node, event = ⟨.nextRequest node, some req⟩ := by
  simp only [Dispatched, mem_log_advance, Prod.mk.injEq, exists_or, exists_and_left,
    @eq_comm _ _ event]

theorem cancelled_advance : Cancelled (s.advance t thread prog event world) id ↔
    Cancelled s id ∨ ∃ node, event = ⟨.cancel id node, true⟩ := by
  simp only [Cancelled, mem_log_advance, Prod.mk.injEq, exists_or, exists_and_left,
    @eq_comm _ _ event, exists_eq_left]

theorem completed_advance : Completed (s.advance t thread prog event world) c id err ↔
    Completed s c id err ∨ c = t ∧ event = ⟨.complete id err, ()⟩ := by
  simp only [Completed, mem_log_advance, Prod.mk.injEq, eq_comm]

end Advance

/-- Numbers are given out in order, each to one caller. -/
structure Numbers (s : QueuePool Fn) : Prop where
  issued : ∀ c id, Issued s c id → id ≤ s.world.seq
  issuer : ∀ c c' id, Issued s c id → Issued s c' id → c = c'

theorem reachable_numbers (hs : Reachable cfg ok s) : Numbers s := by
  have hinit : ∀ world, world = HotplugQueue.new →
      Numbers (Pool.initial world : QueuePool Fn) := by
    intro world _
    exact ⟨fun c id h => (by cases h), fun c c' id h => (by cases h)⟩
  refine hs.invariant hinit fun s l s' hs ih hok h => ?_
  rcases Machine.step_cases h with ⟨hstart⟩ |
    @⟨t, oracle, thread, op, next, ans, world, hthread, hprog, hact⟩ | @⟨c⟩
  · obtain ⟨starting, rfl⟩ := start_world hstart
    exact ⟨ih.issued, ih.issuer⟩
  · by_cases hop : op = .nextRequestID
    · subst hop
      obtain ⟨rfl, hworld⟩ : s.world.seq + 1 = ans ∧
          { s.world with seq := s.world.seq + 1 } = world :=
        by simpa only [manager, act, Option.some.injEq, Prod.mk.injEq] using hact
      have hseq : world.seq = s.world.seq + 1 := by rw [← hworld]
      refine ⟨fun c id hissued => ?_, fun c c' id hissued hissued' => ?_⟩
      · show id ≤ world.seq
        rw [hseq]
        rcases issued_advance.1 hissued with hold | ⟨-, hevent⟩
        · exact Nat.le_succ_of_le (ih.issued c id hold)
        · cases hevent
          exact Nat.le_refl _
      · -- The new number is larger than every number given out before.
        rcases issued_advance.1 hissued with hold | ⟨hc, hevent⟩
        · rcases issued_advance.1 hissued' with hold' | ⟨-, hevent'⟩
          · exact ih.issuer c c' id hold hold'
          cases hevent'
          have := ih.issued c _ hold
          omega
        · cases hevent
          rcases issued_advance.1 hissued' with hold' | ⟨hc', -⟩
          · have := ih.issued c' _ hold'
            omega
          · rw [hc, hc']
    · have hissued : ∀ c id, Issued (s.advance t thread (next ans) ⟨op, ans⟩ world) c id →
          Issued s c id := by
        intro c id hissued
        rcases issued_advance.1 hissued with hold | ⟨-, hevent⟩
        · exact hold
        · exact (hop (congrArg Event.op hevent)).elim
      refine ⟨fun c id h => ?_,
        fun c c' id h h' => ih.issuer c c' id (hissued c id h) (hissued c' id h')⟩
      show id ≤ world.seq
      rw [act_seq hact hop]
      exact ih.issued c id (hissued c id h)
  · cases c

theorem Enqueued.unique (hs : Reachable cfg ok s) {c' : ℕ} (h : Enqueued s c req)
    (h' : Enqueued s c' req') (hid : req.id = req'.id) : c = c' ∧ req = req' := by
  have hissued : Issued s c' req.id := hid ▸ h'.issued hs
  obtain rfl := (reachable_numbers hs).issuer c c' req.id (h.issued hs) hissued
  exact ⟨rfl, h.eq hs h'⟩

/-! ## One fate for every request -/

/-- What is in the queue, dispatched or cancelled has been enqueued. A waiting request has no
result, no worker and no cancellation; a dispatched one has one worker and no cancellation. Every
enqueued request is cancelled, waiting or dispatched, and every result is the one of a cancellation
or of a completion by the request's worker. -/
structure Requests (s : QueuePool Fn) : Prop where
  held : ∀ node req, s.world.Holds node req → req.node = node ∧ ∃ c, Enqueued s c req
  dispatched : ∀ t req, Dispatched s t req → ∃ c, Enqueued s c req
  cancelled : ∀ id, Cancelled s id → ∃ c req, Enqueued s c req ∧ req.id = id
  nodup : ∀ node, ((s.world.nodeQueue node).pending.map Request.id).Nodup
  waiting : ∀ node req, Pending s.world node req → s.world.done req.id = none ∧
    ¬ Cancelled s req.id ∧ ∀ t other, Dispatched s t other → other.id ≠ req.id
  once : ∀ t t' req req', Dispatched s t req → Dispatched s t' req' → req.id = req'.id → t = t'
  kept : ∀ t req, Dispatched s t req → ¬ Cancelled s req.id
  fate : ∀ c req, Enqueued s c req →
    Cancelled s req.id ∨ Pending s.world req.node req ∨ ∃ t, Dispatched s t req
  outcome : ∀ id err, s.world.done id = some err →
    Cancelled s id ∨ ∃ t req, Dispatched s t req ∧ req.id = id ∧ Completed s t id err

theorem Requests.pending_node (h : Requests s) (hs : Reachable cfg ok s) {node' : String}
    (hpending : Pending s.world node req) (hpending' : Pending s.world node' req')
    (hid : req.id = req'.id) : node = node' := by
  obtain ⟨hnode, c, hc⟩ := h.held node req hpending.holds
  obtain ⟨hnode', c', hc'⟩ := h.held node' req' hpending'.holds
  rw [← hnode, ← hnode', (hc.unique hs hc' hid).2]

/-- The events that decide about a request. -/
def decides : Event (Op Fn) Op.Answer → Bool
  | ⟨.enqueue _, (_, false)⟩ | ⟨.nextRequest _, some _⟩ | ⟨.cancel _ _, true⟩
  | ⟨.complete _ _, _⟩ => true
  | _ => false

/-- Nothing changes for a request that stays in its queue while every new result is that of a
completion by its worker. -/
theorem Requests.of_sameQueue {s' : QueuePool Fn} (h : Requests s)
    (henqueued : ∀ c req, Enqueued s' c req ↔ Enqueued s c req)
    (hdispatched : ∀ t req, Dispatched s' t req ↔ Dispatched s t req)
    (hcancelled : ∀ id, Cancelled s' id ↔ Cancelled s id)
    (hcompleted : ∀ t id err, Completed s t id err → Completed s' t id err)
    (hdone : ∀ id, s'.world.done id = s.world.done id ∨ ∃ t req err, Dispatched s t req ∧
      req.id = id ∧ s'.world.done id = some err ∧ Completed s' t id err)
    (hqueue : ∀ node, (s'.world.nodeQueue node).pending = (s.world.nodeQueue node).pending ∧
      ∀ active, (s'.world.nodeQueue node).active = some active →
        (s.world.nodeQueue node).active = some active) : Requests s' := by
  have hpending : ∀ node req, Pending s'.world node req ↔ Pending s.world node req := by
    intro node req
    rw [Pending, Pending, (hqueue node).1]
  constructor
  · intro node req hholds
    simp only [henqueued]
    refine h.held node req (holds_of_nodeQueue ?_)
    exact hholds.nodeQueue.imp ((hqueue node).2 req) (hpending node req).1
  · simpa only [hdispatched, henqueued] using h.dispatched
  · simpa only [hcancelled, henqueued] using h.cancelled
  · intro node
    rw [(hqueue node).1]
    exact h.nodup node
  · intro node req hreq
    obtain ⟨hundone, hkept, hnone⟩ := h.waiting node req ((hpending node req).1 hreq)
    simp only [hcancelled, hdispatched]
    refine ⟨?_, hkept, hnone⟩
    rcases hdone req.id with hsame | ⟨t, other, err, hother, hid, -⟩
    · exact hsame.trans hundone
    · exact (hnone t other hother hid).elim
  · simpa only [hdispatched] using h.once
  · simpa only [hdispatched, hcancelled] using h.kept
  · simpa only [henqueued, hcancelled, hpending, hdispatched] using h.fate
  · intro id err hid
    simp only [hcancelled, hdispatched]
    rcases hdone id with hsame | ⟨t, req, err', hreq, hreqId, hnew, hcomplete⟩
    · refine (h.outcome id err (hsame.symm.trans hid)).imp_right ?_
      rintro ⟨t, req, hreq, hreqId, hold⟩
      exact ⟨t, req, hreq, hreqId, hcompleted t id err hold⟩
    · obtain rfl : err' = err := Option.mem_unique hnew hid
      exact .inr ⟨t, req, hreq, hreqId, hcomplete⟩

/-- Nothing changes for a request while nothing is decided, its results stay and it stays in its
queue. -/
theorem Requests.of_undecided {s' : QueuePool Fn} (h : Requests s)
    (hlog : ∀ entry, decides entry.2 = true → (entry ∈ s'.log ↔ entry ∈ s.log))
    (hdone : s'.world.done = s.world.done)
    (hqueue : ∀ node, (s'.world.nodeQueue node).pending = (s.world.nodeQueue node).pending ∧
      ∀ active, (s'.world.nodeQueue node).active = some active →
        (s.world.nodeQueue node).active = some active) : Requests s' := by
  refine h.of_sameQueue ?_ ?_ ?_ ?_ (fun id => .inl (congrFun hdone id)) hqueue
  · exact fun c req => exists_congr fun asked => hlog (c, ⟨.enqueue asked, (req, false)⟩) rfl
  · exact fun t req => exists_congr fun node => hlog (t, ⟨.nextRequest node, some req⟩) rfl
  · exact fun id => exists_congr fun c => exists_congr fun node =>
      hlog (c, ⟨.cancel id node, true⟩) rfl
  · exact fun t id err => (hlog (t, ⟨.complete id err, ()⟩) rfl).2

theorem mem_eraseP_iff {pending : List (Request Fn)} (hnodup : (pending.map Request.id).Nodup) :
    req ∈ pending.eraseP (·.id = id) ↔ req ∈ pending ∧ req.id ≠ id := by
  by_cases hid : req.id = id
  · subst hid
    have hmap : (pending.eraseP (·.id = req.id)).map Request.id =
        (pending.map Request.id).erase req.id := by
      rw [erase_eq_eraseP', eraseP_map]
      rfl
    have hnone : req.id ∉ (pending.map Request.id).erase req.id := hnodup.not_mem_erase
    rw [← hmap] at hnone
    exact iff_of_false (fun hmem => hnone (mem_map_of_mem hmem)) fun h => h.2 rfl
  · rw [mem_eraseP_of_neg (by simpa using hid), and_iff_left hid]

theorem eraseP_split {before after : List (Request Fn)}
    (hnodup : ((before ++ req :: after).map Request.id).Nodup) :
    (before ++ req :: after).eraseP (·.id = req.id) = before ++ after := by
  rw [map_append, map_cons] at hnodup
  have hother : ∀ other ∈ before, ¬ (decide (other.id = req.id)) = true := fun other hmem hid =>
    (nodup_append.1 hnodup).2.2 _ (mem_map_of_mem hmem) _ (mem_cons_self ..) (by simpa using hid)
  rw [eraseP_append_right _ hother, eraseP_cons_of_pos (by simp)]

section Decisions

variable {prog : Prog Fn (Option GoError)} {world : HotplugQueue Fn} {queue : NodeQueue Fn}

theorem active_of_update {queue : NodeQueue Fn}
    (hnodes : world.nodes = Function.update s.world.nodes node (some queue))
    (hactive : queue.active = (s.world.nodeQueue node).active) (node' : String) :
    (world.nodeQueue node').active = (s.world.nodeQueue node').active := by
  rw [nodeQueue_update hnodes]
  split
  · rename_i hnode
    rw [hnode, hactive]
  · rfl

theorem Requests.enqueue (h : Requests s)
    (hfresh : ∀ c other, Enqueued s c other → other.id ≠ req.id)
    (hnodes : world.nodes = Function.update s.world.nodes req.node (some queue))
    (hqueue : queue.pending = (s.world.nodeQueue req.node).pending ++ [req])
    (hactive : queue.active = (s.world.nodeQueue req.node).active)
    (hdone : world.done = s.world.done) :
    Requests (s.advance t thread prog ⟨.enqueue asked, (req, false)⟩ world) := by
  have hnone : ∀ t other, Dispatched s t other → other.id ≠ req.id := by
    intro t other hother
    obtain ⟨c, hc⟩ := h.dispatched t other hother
    exact hfresh c other hc
  have hkept : ¬ Cancelled s req.id := by
    intro hcancelled
    obtain ⟨c, other, hc, hid⟩ := h.cancelled req.id hcancelled
    exact hfresh c other hc hid
  have hundone : s.world.done req.id = none := by
    by_contra hsome
    obtain ⟨err, herr⟩ := Option.ne_none_iff_exists'.1 hsome
    rcases h.outcome req.id err herr with hcancelled | ⟨t, other, hother, hid, -⟩
    · exact hkept hcancelled
    · exact hnone t other hother hid
  have hpending : ∀ node other, Pending world node other ↔
      (node = req.node ∧ other = req) ∨ Pending s.world node other := by
    intro node other
    rw [Pending, nodeQueue_update hnodes, Pending]
    split
    · rename_i hnode
      simp [hnode, hqueue, or_comm]
    · rename_i hnode
      simp [hnode]
  have hdispatched : ∀ t' other, Dispatched (s.advance t thread prog
      ⟨.enqueue asked, (req, false)⟩ world) t' other ↔ Dispatched s t' other := by
    simp [dispatched_advance]
  have hcancelled : ∀ id, Cancelled (s.advance t thread prog
      ⟨.enqueue asked, (req, false)⟩ world) id ↔ Cancelled s id := by
    simp [cancelled_advance]
  have hcompleted : ∀ t' id err, Completed (s.advance t thread prog
      ⟨.enqueue asked, (req, false)⟩ world) t' id err ↔ Completed s t' id err := by
    simp [completed_advance]
  have hold : ∀ {c other}, Enqueued s c other → Enqueued (s.advance t thread prog
      ⟨.enqueue asked, (req, false)⟩ world) c other := fun hc => enqueued_advance.2 (.inl hc)
  have hnew : Enqueued (s.advance t thread prog ⟨.enqueue asked, (req, false)⟩ world) t req :=
    enqueued_advance.2 (.inr ⟨rfl, asked, rfl⟩)
  constructor
  · intro node other hholds
    have hcases : (node = req.node ∧ other = req) ∨ s.world.Holds node other := by
      rcases hholds.nodeQueue with hother | hother
      · refine .inr (holds_of_nodeQueue (.inl ?_))
        exact (active_of_update hnodes hactive node).symm.trans hother
      · exact ((hpending node other).1 hother).imp_right Pending.holds
    rcases hcases with ⟨rfl, rfl⟩ | hheld
    · exact ⟨rfl, t, hnew⟩
    · obtain ⟨hnode, c, hc⟩ := h.held node other hheld
      exact ⟨hnode, c, hold hc⟩
  · intro t' other hother
    obtain ⟨c, hc⟩ := h.dispatched t' other ((hdispatched t' other).1 hother)
    exact ⟨c, hold hc⟩
  · intro id hid
    obtain ⟨c, other, hc, hother⟩ := h.cancelled id ((hcancelled id).1 hid)
    exact ⟨c, other, hold hc, hother⟩
  · intro node
    show ((world.nodeQueue node).pending.map Request.id).Nodup
    rw [nodeQueue_update hnodes]
    split
    · rw [hqueue, map_append]
      refine List.Nodup.append (h.nodup req.node) (nodup_singleton _) ?_
      intro id hid hreq
      obtain ⟨other, hother, rfl⟩ := mem_map.1 hid
      obtain ⟨-, c, hc⟩ := h.held req.node other (Pending.holds hother)
      exact hfresh c other hc (by simpa using hreq)
    · exact h.nodup node
  · intro node other hother
    show world.done other.id = none ∧ _
    simp only [hdone, hcancelled, hdispatched]
    rcases (hpending node other).1 hother with ⟨-, rfl⟩ | hwaits
    · exact ⟨hundone, hkept, hnone⟩
    · exact h.waiting node other hwaits
  · simpa only [hdispatched] using h.once
  · simpa only [hdispatched, hcancelled] using h.kept
  · intro c other hc
    simp only [hcancelled, hdispatched]
    rcases enqueued_advance.1 hc with hc | ⟨-, asked', hevent⟩
    · exact (h.fate c other hc).imp_right fun hrest =>
        hrest.imp_left fun hwaits => (hpending _ _).2 (.inr hwaits)
    · obtain ⟨-, rfl⟩ : asked = asked' ∧ req = other := by simpa using hevent
      exact .inr (.inl ((hpending _ _).2 (.inl ⟨rfl, rfl⟩)))
  · intro id err hid
    simp only [hcancelled, hdispatched, hcompleted]
    exact h.outcome id err (hdone ▸ hid)

theorem Requests.pending_leave (h : Requests s) (hs : Reachable cfg ok s)
    (hreq : Pending s.world node req)
    (hnodes : world.nodes = Function.update s.world.nodes node (some queue))
    (hqueue : queue.pending = (s.world.nodeQueue node).pending.eraseP (·.id = req.id))
    (node' : String) (other : Request Fn) :
    Pending world node' other ↔ Pending s.world node' other ∧ other.id ≠ req.id := by
  rw [Pending, nodeQueue_update hnodes]
  split
  · rename_i hnode
    rw [hqueue, mem_eraseP_iff (h.nodup node), Pending, hnode]
  rename_i hnode
  refine ⟨fun hother => ⟨hother, fun hid => hnode ?_⟩, And.left⟩
  exact h.pending_node hs hother hreq hid

theorem Requests.nodup_leave {queue : NodeQueue Fn} (h : Requests s)
    (hnodes : world.nodes = Function.update s.world.nodes node (some queue))
    (hqueue : queue.pending = (s.world.nodeQueue node).pending.eraseP (·.id = id))
    (node' : String) : ((world.nodeQueue node').pending.map Request.id).Nodup := by
  rw [nodeQueue_update hnodes]
  split
  · rw [hqueue]
    exact (eraseP_sublist.map Request.id).nodup (h.nodup node)
  · exact h.nodup node'

/-- A waiting request leaves its queue. Its fate is a worker, or else it is cancelled. -/
theorem Requests.leave {s' : QueuePool Fn} (h : Requests s) (hs : Reachable cfg ok s)
    (hreq : Pending s.world node req) (fate : Option ℕ)
    (henqueued : ∀ c other, Enqueued s' c other ↔ Enqueued s c other)
    (hdispatched : ∀ t other,
      Dispatched s' t other ↔ Dispatched s t other ∨ (fate = some t ∧ other = req))
    (hcancelled : ∀ id, Cancelled s' id ↔ Cancelled s id ∨ (fate = none ∧ id = req.id))
    (hcompleted : ∀ t id err, Completed s' t id err ↔ Completed s t id err)
    (hnodes : s'.world.nodes = Function.update s.world.nodes node (some queue))
    (hqueue : queue.pending = (s.world.nodeQueue node).pending.eraseP (·.id = req.id))
    (hactive : ∀ active, queue.active = some active →
      (s.world.nodeQueue node).active = some active ∨ active = req)
    (hdone : ∀ id, s'.world.done id = s.world.done id ∨ (fate = none ∧ id = req.id)) :
    Requests s' := by
  have hpending := h.pending_leave hs hreq hnodes hqueue
  obtain ⟨-, hkept, hnone⟩ := h.waiting node req hreq
  constructor
  · intro node' other hholds
    simp only [henqueued]
    rcases hholds.nodeQueue with hother | hother
    · rw [nodeQueue_update hnodes] at hother
      split at hother
      · rename_i hnode
        rw [hnode]
        rcases hactive other hother with hold | rfl
        · exact h.held node other (holds_of_nodeQueue (.inl hold))
        · exact h.held node other hreq.holds
      · exact h.held node' other (holds_of_nodeQueue (.inl hother))
    · exact h.held node' other ((hpending node' other).1 hother).1.holds
  · intro t other hother
    simp only [henqueued]
    rcases (hdispatched t other).1 hother with hold | ⟨-, rfl⟩
    · exact h.dispatched t other hold
    · exact (h.held node other hreq.holds).2
  · intro id hid
    simp only [henqueued]
    rcases (hcancelled id).1 hid with hold | ⟨-, rfl⟩
    · exact h.cancelled id hold
    · obtain ⟨-, c, hc⟩ := h.held node req hreq.holds
      exact ⟨c, req, hc, rfl⟩
  · exact h.nodup_leave hnodes hqueue
  · intro node' other hother
    obtain ⟨hwaits, hne⟩ := (hpending node' other).1 hother
    obtain ⟨hundone, hkept, hother⟩ := h.waiting node' other hwaits
    refine ⟨?_, fun hid => ?_, fun t third hthird => ?_⟩
    · rcases hdone other.id with hsame | ⟨-, hid⟩
      · exact hsame.trans hundone
      · exact (hne hid).elim
    · rcases (hcancelled other.id).1 hid with hold | ⟨-, hid⟩
      · exact hkept hold
      · exact hne hid
    · rcases (hdispatched t third).1 hthird with hold | ⟨-, rfl⟩
      · exact hother t third hold
      · exact Ne.symm hne
  · intro t₁ t₂ req₁ req₂ h₁ h₂ hid
    rcases (hdispatched t₁ req₁).1 h₁ with hold₁ | ⟨hfate₁, rfl⟩
    · rcases (hdispatched t₂ req₂).1 h₂ with hold₂ | ⟨-, rfl⟩
      · exact h.once t₁ t₂ req₁ req₂ hold₁ hold₂ hid
      · exact (hnone t₁ req₁ hold₁ hid).elim
    rcases (hdispatched t₂ req₂).1 h₂ with hold₂ | ⟨hfate₂, -⟩
    · exact (hnone t₂ req₂ hold₂ hid.symm).elim
    · exact Option.mem_unique hfate₁ hfate₂
  · intro t other hother hid
    rcases (hdispatched t other).1 hother with hold | ⟨hfate, rfl⟩
    · rcases (hcancelled other.id).1 hid with hid | ⟨-, hid⟩
      · exact h.kept t other hold hid
      · exact hnone t other hold hid
    · rcases (hcancelled other.id).1 hid with hid | ⟨hcancel, -⟩
      · exact hkept hid
      · rw [hcancel] at hfate
        cases hfate
  · intro c other hc
    have hc := (henqueued c other).1 hc
    simp only [hcancelled, hdispatched]
    rcases h.fate c other hc with hold | hwaits | ⟨t, hother⟩
    · exact .inl (.inl hold)
    · by_cases hid : other.id = req.id
      · obtain ⟨-, c', hc'⟩ := h.held node req hreq.holds
        cases fate with
        | none => exact .inl (.inr ⟨rfl, hid⟩)
        | some t => exact .inr (.inr ⟨t, .inr ⟨rfl, (hc.unique hs hc' hid).2⟩⟩)
      · exact .inr (.inl ((hpending _ _).2 ⟨hwaits, hid⟩))
    · exact .inr (.inr ⟨t, .inl hother⟩)
  · intro id err hid
    simp only [hcancelled, hdispatched, hcompleted]
    rcases hdone id with hsame | hcancel
    · refine (h.outcome id err (hsame.symm.trans hid)).imp .inl ?_
      rintro ⟨t, other, hother, hrest⟩
      exact ⟨t, other, .inl hother, hrest⟩
    · exact .inl (.inr hcancel)

theorem Requests.complete {err : Option GoError} (h : Requests s) (hreq : Dispatched s t req)
    (hnodes : world.nodes = s.world.nodes)
    (hdone : ∀ id, world.done id = s.world.done id ∨ id = req.id ∧ world.done id = some err) :
    Requests (s.advance t thread prog ⟨.complete req.id err, ()⟩ world) := by
  have hqueue : ∀ node, world.nodeQueue node = s.world.nodeQueue node := by
    intro node
    rw [HotplugQueue.nodeQueue, hnodes]
    rfl
  refine h.of_sameQueue (by simp [enqueued_advance]) (by simp [dispatched_advance])
    (by simp [cancelled_advance]) (fun _ _ _ hold => completed_advance.2 (.inl hold))
    (fun id => (hdone id).imp_right ?_) fun node => ?_
  · rintro ⟨rfl, hnew⟩
    exact ⟨t, req, err, hreq, rfl, hnew, completed_advance.2 (.inr ⟨rfl, rfl⟩)⟩
  · exact ⟨congrArg NodeQueue.pending (hqueue node), fun active => hqueue node ▸ id⟩

end Decisions

/-- Nobody has asked under the number of a caller that is about to ask. -/
theorem asked_ne_of_ready (hs : Reachable cfg ok s) {enqueuedAt : Int}
    (hhistory : s.history t = [⟨.nextRequestID, id⟩, ⟨.now, enqueuedAt⟩])
    {ans : Request Fn × Bool} (hmem : (c, ⟨.enqueue asked, ans⟩) ∈ s.log) : asked.id ≠ id := by
  rintro rfl
  have hissued : Issued s t asked.id := Pool.mem_history.1 (by simp [hhistory])
  obtain rfl := (reachable_numbers hs).issuer c t asked.id (asked_issued hs hmem) hissued
  have hmem := Pool.mem_history.2 hmem
  simp [hhistory] at hmem

theorem enqueued_ne_of_ready (hs : Reachable cfg ok s) {enqueuedAt : Int}
    (hhistory : s.history t = [⟨.nextRequestID, id⟩, ⟨.now, enqueuedAt⟩]) {other : Request Fn}
    (hother : Enqueued s c other) : other.id ≠ id := by
  obtain ⟨asked, hmem⟩ := hother
  rw [((enqueue_answer hs hmem).2 rfl).1]
  exact asked_ne_of_ready hs hhistory hmem

/-- A caller that asks has been given a number and the time, and nothing else. -/
theorem ready_of_enqueue (hs : Reachable cfg ok s)
    {next : Request Fn × Bool → Prog Fn (Option GoError)}
    (hthread : s.threads[t]? = some thread) (hprog : thread.prog = .call (.enqueue asked) next) :
    ∃ enqueuedAt, s.history t = [⟨.nextRequestID, asked.id⟩, ⟨.now, enqueuedAt⟩] := by
  obtain ⟨call, -, hstage⟩ := caller_of_op hs hthread hprog rfl
  rcases hstage with hdirect | ⟨hop, -⟩ | ⟨_, hop, -⟩ | ⟨id, enqueuedAt, hop, hhistory⟩ |
    ⟨_, _, _, _, _, -, -, hwaits⟩
  · exact hdirect.elim
  · cases hop
  · cases hop
  · obtain rfl := Op.enqueue.inj hop
    exact ⟨enqueuedAt, hhistory⟩
  · exact hwaits.elim

section Steps

variable {oracle : Oracle} {prog : Prog Fn (Option GoError)} {world : HotplugQueue Fn}

theorem mem_log_of_undecided {event entry} (hevent : decides event = false)
    (hentry : decides entry.2 = true) :
    entry ∈ (s.advance t thread prog event world).log ↔ entry ∈ s.log := by
  rw [mem_log_advance, or_iff_left]
  rintro rfl
  rw [hevent] at hentry
  cases hentry

theorem Requests.same {event} (h : Requests s) (hevent : decides event = false)
    (hnodes : world.nodes = s.world.nodes) (hdone : world.done = s.world.done) :
    Requests (s.advance t thread prog event world) := by
  refine h.of_undecided (fun _ => mem_log_of_undecided hevent) hdone fun node => ?_
  have hqueue : world.nodeQueue node = s.world.nodeQueue node := by
    rw [HotplugQueue.nodeQueue, hnodes]
    rfl
  exact ⟨congrArg NodeQueue.pending hqueue, fun active hactive => hqueue ▸ hactive⟩

theorem Requests.act_enqueue {next : Request Fn × Bool → Prog Fn (Option GoError)}
    {ans : Request Fn × Bool} (h : Requests s) (hs : Reachable cfg ok s)
    (hthread : s.threads[t]? = some thread) (hprog : thread.prog = .call (.enqueue asked) next)
    (hact : s.world.enqueue cfg { asked with caller := t } = (ans, world)) :
    Requests (s.advance t thread prog ⟨.enqueue asked, ans⟩ world) := by
  obtain ⟨enqueuedAt, hhistory⟩ := ready_of_enqueue hs hthread hprog
  cases hdup : s.world.duplicate cfg { asked with caller := t } with
  | some existing =>
    rw [enqueue_of_duplicate hdup] at hact
    cases hact
    exact h.same rfl rfl rfl
  | none =>
    obtain ⟨waitLimit, starting, henqueue, -⟩ := enqueue_of_no_duplicate hdup
    rw [henqueue] at hact
    cases hact
    exact h.enqueue (fun c other hother => enqueued_ne_of_ready hs hhistory hother) rfl rfl rfl rfl

theorem Requests.act_cancel {ans : Bool} (h : Requests s) (hs : Reachable cfg ok s)
    (hact : s.world.cancel id node = (ans, world)) :
    Requests (s.advance t thread prog ⟨.cancel id node, ans⟩ world) := by
  rcases cancel_cases hact with ⟨rfl, rfl⟩ | ⟨queue, req, hqueue, hfind, rfl, rfl⟩
  · exact h.same rfl rfl rfl
  obtain rfl : req.id = id := by simpa using find?_some hfind
  have hnode := nodeQueue_eq hqueue
  have hreq : Pending s.world node req := by
    rw [Pending, hnode]
    exact mem_of_find?_eq_some hfind
  refine h.leave hs hreq none (by simp [enqueued_advance]) (by simp [dispatched_advance])
    (by simp [cancelled_advance, eq_comm]) (by simp [completed_advance]) complete_nodes ?_ ?_ ?_
  · rw [hnode]
  · rw [hnode]
    exact fun _ => .inl
  · intro id
    exact (complete_done_cases _ req.id id _).imp_right fun h => ⟨rfl, h.1⟩

theorem Requests.act_next {now : Int} {ans : Option (Request Fn)} (h : Requests s)
    (hs : Reachable cfg ok s) (hact : s.world.next cfg node now = (ans, world)) :
    Requests (s.advance t thread prog ⟨.nextRequest node, ans⟩ world) := by
  rcases next_cases hact with ⟨-, rfl, rfl⟩ | ⟨queue, hqueue, hempty, rfl, rfl⟩ |
    ⟨queue, before, req, after, hqueue, hsplit, -, -, rfl, rfl⟩
  · exact h.same rfl rfl rfl
  · refine h.of_undecided (fun _ => mem_log_of_undecided rfl) rfl fun node' => ?_
    have hdrop := @nodeQueue_drop _ s.world node
      { s.world with nodes := Function.update s.world.nodes node none } rfl node'
    show (HotplugQueue.nodeQueue { s.world with nodes := _ } node').pending = _ ∧
      ∀ active, (HotplugQueue.nodeQueue { s.world with nodes := _ } node').active = some active → _
    rw [hdrop]
    split
    · rename_i hnode
      rw [hnode, nodeQueue_eq hqueue]
      exact ⟨hempty.symm, fun _ hactive => by cases hactive⟩
    · exact ⟨rfl, fun _ hactive => hactive⟩
  · rw [← nodeQueue_eq hqueue] at hsplit
    have hpending : Pending s.world node req := by simp [Pending, hsplit]
    have hnodup := h.nodup node
    rw [hsplit] at hnodup
    refine h.leave hs hpending (some t) (by simp [enqueued_advance])
      (by simp [dispatched_advance, eq_comm]) (by simp [cancelled_advance])
      (by simp [completed_advance]) rfl ?_ (fun _ h => .inr (Option.some.inj h).symm)
      fun _ => .inl rfl
    rw [hsplit, eraseP_split hnodup]

theorem Requests.act_complete {err : Option GoError} {next : Unit → Prog Fn (Option GoError)}
    (h : Requests s) (hs : Reachable cfg ok s) (hthread : s.threads[t]? = some thread)
    (hprog : thread.prog = .call (.complete id err) next) :
    Requests (s.advance t thread prog ⟨.complete id err, ()⟩ (s.world.complete id err)) := by
  obtain ⟨node, -, hstage⟩ := worker_of_op hs hthread hprog rfl
  rcases hstage with ⟨hop, -⟩ | ⟨req, tail, hhistory, -, hid⟩
  · cases hop
  obtain rfl : id = req.id := hid
  have hreq : Dispatched s t req := ⟨node, Pool.mem_history.1 (by simp [hhistory])⟩
  refine h.complete hreq complete_nodes fun id => ?_
  rcases complete_done_cases s.world req.id id err with hsame | ⟨hid, -, hnew⟩
  · exact .inl hsame
  · exact .inr ⟨hid, hnew⟩

theorem Requests.act_finish (h : Requests s) :
    Requests (s.advance t thread prog ⟨.finish node id, ()⟩ (s.world.finish node id)) := by
  refine h.of_undecided (fun _ => mem_log_of_undecided rfl) rfl fun node' => ?_
  exact finish_nodeQueue s.world node id node'

end Steps

theorem reachable_requests (hs : Reachable cfg ok s) : Requests s := by
  have hinit : ∀ world, world = HotplugQueue.new →
      Requests (Pool.initial world : QueuePool Fn) := by
    rintro world rfl
    have hlog : ∀ entry, entry ∉ (Pool.initial HotplugQueue.new : QueuePool Fn).log :=
      fun _ hmem => by cases hmem
    exact {
      held := fun _ _ h => (not_holds_new h).elim
      dispatched := fun _ _ h => (hlog _ h.choose_spec).elim
      cancelled := fun _ h => (hlog _ h.choose_spec.choose_spec).elim
      nodup := fun _ => nodup_nil
      waiting := fun _ _ h => by cases h
      once := fun _ _ _ _ h => (hlog _ h.choose_spec).elim
      kept := fun _ _ h => (hlog _ h.choose_spec).elim
      fate := fun _ _ h => (hlog _ h.choose_spec).elim
      outcome := fun _ _ h => by cases h }
  refine hs.invariant hinit fun s l s' hs ih hok h => ?_
  rcases Machine.step_cases h with ⟨hstart⟩ |
    @⟨t, oracle, thread, op, next, ans, world, hthread, hprog, hact⟩ | @⟨c⟩
  · obtain ⟨starting, rfl⟩ := start_world hstart
    exact ih.of_undecided (fun _ _ => Iff.rfl) rfl fun _ => ⟨rfl, fun _ h => h⟩
  · by_cases hchanges : op.changes = true
    swap
    · obtain ⟨hnodes, -, hdone⟩ := act_frame hact (by simpa using hchanges)
      refine ih.same ?_ hnodes hdone
      cases op with
      | enqueue _ | cancel _ _ | nextRequest _ | complete _ _ | finish _ _ =>
        exact (hchanges rfl).elim
      | _ => rfl
    cases op with
    | enqueue asked => exact ih.act_enqueue hs hthread hprog (Option.some.inj hact)
    | cancel id node => exact ih.act_cancel hs (Option.some.inj hact)
    | nextRequest node => exact ih.act_next hs (Option.some.inj hact)
    | complete id err =>
      cases hact
      exact ih.act_complete hs hthread hprog
    | finish node id =>
      cases hact
      exact ih.act_finish
    | _ => cases hchanges
  · cases c

end OpenNebulaCSI.Queue
