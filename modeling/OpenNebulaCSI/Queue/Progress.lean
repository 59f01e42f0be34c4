import Mathlib.Logic.Relation
import OpenNebulaCSI.Queue.Outcomes

/-!
# Every caller can be answered

Functions take their time, but they return: no operation of a worker blocks. So the worker of a node
can be run until nothing waits there any more (`drained`), and by then every request of the node has
a result. A caller that has not given up therefore returns in a continuation of the run in which no
further call is made and no context expires (`returns_of_waiting`).
-/

namespace OpenNebulaCSI.Queue

open Go Concurrency Controller Program HotplugQueue Pool

variable {Fn : Type} {cfg : Config} {ok : QueuePool Fn → QueueStep Fn → Prop} {s s' : QueuePool Fn}

/-- The step makes no call, and no context expires in it. -/
def calm : QueueStep Fn → Prop
  | .start (.run _) => False
  | .start (.worker _) => True
  | .act _ oracle => oracle.signal ≠ .expired
  | .change _ => True

/-- The second pool is one the first may develop into without further calls and expirations. -/
def Onward (cfg : Config) (ok : QueuePool Fn → QueueStep Fn → Prop) :
    QueuePool Fn → QueuePool Fn → Prop :=
  Relation.ReflTransGen fun s s' => ∃ l, ok s l ∧ calm l ∧ (manager Fn cfg).step l s = some s'

theorem Onward.reachable (h : Onward cfg ok s s') (hs : Reachable cfg ok s) :
    Reachable cfg ok s' := by
  induction h with
  | refl => exact hs
  | tail _ hstep ih =>
    obtain ⟨l, hok, -, hstep⟩ := hstep
    exact ih.step hok hstep

theorem Onward.precedes (h : Onward cfg ok s s') : s.Precedes s' := by
  induction h with
  | refl => exact .refl
  | tail _ hstep ih =>
    obtain ⟨l, -, -, hstep⟩ := hstep
    exact ih.trans (step_precedes hstep)

/-- The step is a cancellation. -/
def cancels (s : QueuePool Fn) : QueueStep Fn → Prop
  | .act t _ => ∃ id node, s.nextOp? t = some (.cancel id node)
  | _ => False

/-! ## The steps of the workers of a node -/

/-- A worker of the node starts or takes a step. -/
inductive WorkerStep (cfg : Config) (node : String) : QueuePool Fn → QueuePool Fn → Prop
  | start {s s' : QueuePool Fn} : (manager Fn cfg).step (.start (.worker node)) s = some s' →
      WorkerStep cfg node s s'
  | act {s s' : QueuePool Fn} {t : ℕ} {thread : QueueThread Fn} :
      s.threads[t]? = some thread → thread.kind = .worker node →
      (manager Fn cfg).step (.act t smooth) s = some s' → WorkerStep cfg node s s'

abbrev WorkerSteps (cfg : Config) (node : String) : QueuePool Fn → QueuePool Fn → Prop :=
  Relation.ReflTransGen (WorkerStep cfg node)

/-- What a step of the workers leaves alone: the callers, and how much waits grows at no node. -/
structure Served (node : String) (s s' : QueuePool Fn) : Prop where
  caller : ∀ c thread call, s.threads[c]? = some thread → thread.kind = .run call →
    s'.threads[c]? = some thread ∧ s'.history c = s.history c
  pending : (s'.world.nodeQueue node).pending.length ≤ (s.world.nodeQueue node).pending.length

theorem act_worker (cfg : Config) (oracle : Oracle) (q : HotplugQueue Fn) (t : ℕ) {op : Op Fn}
    (h : op.ofWorker = true) : ∃ ans q', act cfg oracle q t op = some (ans, q') := by
  cases op with
  | nextRequest _ | closeStarted _ | validate _ | call _ | returned _ | contextExpired
  | complete _ _ | finish _ _ => exact ⟨_, _, rfl⟩
  | _ => cases h

theorem next_pending (cfg : Config) (q : HotplugQueue Fn) (node : String) (now : Int) :
    ((q.next cfg node now).2.nodeQueue node).pending.length =
      (q.nodeQueue node).pending.length - 1 ∧
    ((q.next cfg node now).1 = none → (q.next cfg node now).2.nodes node = none) ∧
    ((q.next cfg node now).1 ≠ none → 0 < (q.nodeQueue node).pending.length) := by
  generalize hnext : q.next cfg node now = answer
  rcases next_cases hnext with ⟨hidle, hnone, hsame⟩ | ⟨queue, hqueue, hempty, hnone, hdrop⟩ |
    ⟨queue, before, req, after, hqueue, hsplit, -, -, hfound, hafter⟩
  · rw [hnone, hsame, HotplugQueue.nodeQueue, hidle]
    exact ⟨rfl, fun _ => rfl, fun h => (h rfl).elim⟩
  · rw [hnone, hdrop, nodeQueue_drop rfl, if_pos rfl, nodeQueue_eq hqueue, hempty]
    exact ⟨rfl, fun _ => Function.update_self _ _ _, fun h => (h rfl).elim⟩
  · rw [hfound, hafter, nodeQueue_eq hqueue, nodeQueue_update rfl, if_pos rfl, hsplit]
    simp only [List.length_append, List.length_cons]
    exact ⟨by omega, fun h => absurd h (Option.some_ne_none req), fun _ => by omega⟩

theorem pending_le_of_worker {oracle : Oracle} {q q' : HotplugQueue Fn} {t : ℕ} {op : Op Fn}
    {ans : op.Answer} (hact : act cfg oracle q t op = some (ans, q')) (hop : op.ofWorker = true)
    {node : String} (hnode : ∀ other, op = .nextRequest other → other = node) :
    (q'.nodeQueue node).pending.length ≤ (q.nodeQueue node).pending.length := by
  cases op with
  | nextRequest other =>
    obtain rfl := hnode other rfl
    obtain rfl : (q.next cfg other oracle.now).2 = q' := congrArg Prod.snd (Option.some.inj hact)
    rw [(next_pending cfg q other oracle.now).1]
    exact Nat.sub_le _ _
  | complete id err =>
    cases hact
    rw [HotplugQueue.nodeQueue, complete_nodes]
    exact Nat.le_refl _
  | finish other id =>
    cases hact
    rw [(finish_nodeQueue q other id node).1]
  | closeStarted _ | validate _ | call _ | returned _ | contextExpired =>
    rw [HotplugQueue.nodeQueue, (act_frame hact rfl).1]
    exact Nat.le_refl _
  | _ => cases hop

theorem WorkerStep.served {node : String} (hs : Reachable cfg ok s) (h : WorkerStep cfg node s s') :
    Served node s s' := by
  cases h with
  | start hstep =>
    obtain ⟨hstart⟩ := Machine.step_cases hstep
    obtain ⟨starting, rfl⟩ := start_world hstart
    exact ⟨fun c thread call hthread _ => ⟨spawn_getElem?_old hthread, rfl⟩, Nat.le_refl _⟩
  | @act t worker hworker hkind hstep =>
    obtain _ | @⟨_, _, thread, op, next, ans, world, hthread, hprog, hact⟩ :=
      Machine.step_cases hstep
    obtain rfl : worker = thread := Option.mem_unique hworker hthread
    have hnext : worker.prog.nextOp? = some op := by rw [hprog]; rfl
    have hop : op.ofWorker = true := by
      rw [(ofWorker_eq hs hworker).2 op hnext, hkind]
      rfl
    refine ⟨fun c thread call hc hrun => ?_, pending_le_of_worker hact hop ?_⟩
    · have hne : c ≠ t := by
        rintro rfl
        obtain rfl : worker = thread := Option.mem_unique hworker hc
        rw [hkind] at hrun
        cases hrun
      rw [advance_getElem?_of_ne hne, history_advance_of_ne (Ne.symm hne)]
      exact ⟨hc, rfl⟩
    · rintro other rfl
      obtain ⟨node', hkind', ⟨hop, -⟩ | ⟨req, tail, -, -, hafter⟩⟩ :=
        worker_of_op hs hworker hprog rfl
      · rw [hkind] at hkind'
        cases hkind'
        exact Op.nextRequest.inj hop
      · exact hafter.elim

theorem Served.trans {node : String} {s'' : QueuePool Fn} (h : Served node s s')
    (h' : Served node s' s'') : Served node s s'' := by
  refine ⟨fun c thread call hthread hkind => ?_, h'.pending.trans h.pending⟩
  obtain ⟨hmid, hhistory⟩ := h.caller c thread call hthread hkind
  obtain ⟨hlast, hhistory'⟩ := h'.caller c thread call hmid hkind
  exact ⟨hlast, hhistory'.trans hhistory⟩

/-- A worker that is about to start gets a request to work on, or finds that there is none. -/
theorem worker_starts {node : String} (hstarting : node ∈ s.world.starting) :
    ∃ s', WorkerSteps cfg node s s' ∧ (s'.world.nodes node = none ∨
      (s'.world.nodeQueue node).pending.length < (s.world.nodeQueue node).pending.length) := by
  have hstart : (manager Fn cfg).step (.start (.worker node)) s = some (s.spawn (.worker node)
      (Kind.program cfg (.worker node))
      { s.world with starting := s.world.starting.erase node }) := by
    simp only [Machine.step, manager, start, if_pos hstarting, Option.map_some]
  have hstep : (manager Fn cfg).step (.act s.threads.length smooth) (s.spawn (.worker node)
      (Kind.program cfg (.worker node))
      { s.world with starting := s.world.starting.erase node }) = some _ :=
    Machine.step_act spawn_getElem?_new rfl rfl
  have hfirst := WorkerStep.start hstart
  have hsecond := WorkerStep.act spawn_getElem?_new rfl hstep
  refine ⟨_, (Relation.ReflTransGen.single hfirst).tail hsecond, ?_⟩
  obtain ⟨hlength, hnone, hsome⟩ := next_pending cfg
    { s.world with starting := s.world.starting.erase node } node smooth.now
  by_cases hidle : (HotplugQueue.next cfg
      { s.world with starting := s.world.starting.erase node } node smooth.now).1 = none
  · exact .inl (hnone hidle)
  · have hpos := hsome hidle
    exact .inr (hlength.trans_lt (Nat.sub_lt hpos Nat.one_pos))

section Drain

variable (hok : ∀ (s : QueuePool Fn) l, ¬ cancels s l → ok s l) {node : String}
include hok

theorem WorkerStep.onward (hs : Reachable cfg ok s) (h : WorkerStep cfg node s s') :
    ∃ l, ok s l ∧ calm l ∧ (manager Fn cfg).step l s = some s' := by
  cases h with
  | start hstep => exact ⟨.start (.worker node), hok _ _ id, trivial, hstep⟩
  | @act t _ hthread hkind hstep => ?_
  have hcalm : smooth.signal ≠ .expired := fun h => by cases h
  refine ⟨.act t smooth, hok _ _ ?_, hcalm, hstep⟩
  rintro ⟨id, other, hcancel⟩
  rw [nextOp?_eq hthread] at hcancel
  have hworker := (ofWorker_eq hs hthread).2 _ hcancel
  rw [hkind] at hworker
  cases hworker

theorem WorkerSteps.onward (hs : Reachable cfg ok s) (h : WorkerSteps cfg node s s') :
    Onward cfg ok s s' ∧ Reachable cfg ok s' ∧ Served node s s' := by
  induction h with
  | refl => exact ⟨.refl, hs, fun _ _ _ hthread _ => ⟨hthread, rfl⟩, Nat.le_refl _⟩
  | tail _ hstep ih =>
    obtain ⟨honward, hmid, hserved⟩ := ih
    obtain ⟨l, hl, hcalm, hstep'⟩ := hstep.onward hok hmid
    exact ⟨honward.tail ⟨l, hl, hcalm, hstep'⟩, hmid.step hl hstep',
      hserved.trans (hstep.served hmid)⟩

theorem worker_returns {t : ℕ} (prog : Prog Fn (Option GoError)) :
    ∀ {s : QueuePool Fn} {thread : QueueThread Fn}, Reachable cfg ok s →
      s.threads[t]? = some thread → thread.kind = .worker node → thread.prog = prog →
      ∃ s' value, WorkerSteps cfg node s s' ∧
        s'.threads[t]? = some { thread with prog := .ret value } ∧
        ∀ c, c ≠ t → s'.threads[c]? = s.threads[c]? := by
  -- No operation of a worker blocks; what it is left with after one is a smaller program.
  induction prog with
  | ret value =>
    intro s thread hs hthread hkind hprog
    refine ⟨s, value, .refl, ?_, fun _ _ => rfl⟩
    rw [hthread, ← hprog]
  | call op next ih =>
    intro s thread hs hthread hkind hprog
    have hop : op.ofWorker = true := by
      rw [(ofWorker_eq hs hthread).2 op (by rw [hprog]; rfl), hkind]
      rfl
    obtain ⟨ans, world, hact⟩ := act_worker cfg smooth s.world t hop
    have hstep : (manager Fn cfg).step (.act t smooth) s =
        some (s.advance t thread (next ans) ⟨op, ans⟩ world) :=
      Machine.step_act hthread hprog hact
    have hworker := WorkerStep.act hthread hkind hstep
    obtain ⟨l, hl, -, hstep'⟩ := hworker.onward hok hs
    obtain ⟨s', value, hsteps, hreturned, hothers⟩ :=
      ih ans (hs.step hl hstep') (advance_getElem?_self hthread) hkind rfl
    refine ⟨s', value, hsteps.head hworker, hreturned, fun c hc => ?_⟩
    rw [hothers c hc, advance_getElem?_of_ne hc]

theorem worker_rests (hs : Reachable cfg ok s) :
    ∃ s', WorkerSteps cfg node s s' ∧
      (s'.world.nodes node = none ∨ node ∈ s'.world.starting) := by
  have hrest : ∀ {s : QueuePool Fn}, Reachable cfg ok s → s.threads.countP (works node) = 0 →
      s.world.nodes node = none ∨ node ∈ s.world.starting := by
    intro s hs hnone
    have hcount := (reachable_workers hs).count node
    rw [workers, hnone] at hcount
    cases hqueue : s.world.nodes node with
    | none => exact .inl rfl
    | some queue =>
      rw [hqueue, Option.isSome_some, if_pos rfl] at hcount
      exact .inr (List.count_pos_iff.1 (by omega))
  by_cases hnone : s.threads.countP (works node) = 0
  · exact ⟨s, .refl, hrest hs hnone⟩
  obtain ⟨thread, hmem, hworks⟩ := List.countP_pos_iff.1 (Nat.pos_of_ne_zero hnone)
  obtain ⟨t, ht⟩ := List.getElem?_of_mem hmem
  obtain ⟨s', value, hsteps, hreturned, hothers⟩ :=
    worker_returns hok thread.prog hs ht (works_iff.1 hworks).1 rfl
  refine ⟨s', hsteps, hrest (WorkerSteps.onward hok hs hsteps).2.1 ?_⟩
  -- It was the only worker of the node.
  refine List.countP_eq_zero.2 fun other hother hworks' => ?_
  obtain ⟨c, hc⟩ := List.getElem?_of_mem hother
  by_cases hmoved : c = t
  · subst hmoved
    obtain rfl := Option.mem_unique hreturned hc
    obtain ⟨-, op, hop⟩ := works_iff.1 hworks'
    cases hop
  · rw [hothers c hmoved] at hc
    exact hmoved ((reachable_workers hs).unique hc hworks' ht hworks)

theorem drained (hs : Reachable cfg ok s) :
    ∃ s', WorkerSteps cfg node s s' ∧ s'.world.nodes node = none := by
  -- Each iteration of the worker takes one request out of the queue.
  induction hn : (s.world.nodeQueue node).pending.length using Nat.strong_induction_on
    generalizing s with
  | _ n ih =>
    obtain ⟨s₁, hsteps₁, hnone | hstarting⟩ := worker_rests hok hs
    · exact ⟨s₁, hsteps₁, hnone⟩
    obtain ⟨-, hs₁, hserved⟩ := WorkerSteps.onward hok hs hsteps₁
    obtain ⟨s₂, hsteps₂, hnone | hless⟩ := worker_starts hstarting
    · exact ⟨s₂, hsteps₁.trans hsteps₂, hnone⟩
    obtain ⟨-, hs₂, -⟩ := WorkerSteps.onward hok hs₁ hsteps₂
    have hlength := hserved.pending
    obtain ⟨s₃, hsteps₃, hnone⟩ := ih _ (by omega) hs₂ rfl
    exact ⟨s₃, (hsteps₁.trans hsteps₂).trans hsteps₃, hnone⟩

end Drain

theorem done_of_drained (hs : Reachable cfg ok s) {c : ℕ} {req : Request Fn}
    (hreq : Enqueued s c req) (hnone : s.world.nodes req.node = none) :
    ∃ out, s.world.done req.id = some out := by
  rcases (reachable_requests hs).fate c req hreq with hcancelled | hpending | ⟨t, hdispatched⟩
  · exact (reachable_results hs).cancelled req.id hcancelled
  · rw [Pending, HotplugQueue.nodeQueue, hnone] at hpending
    cases hpending
  rcases hdispatched.fate hs with hexecuting | ⟨out, hran⟩
  · obtain ⟨thread, hthread, hworks⟩ := hexecuting.works hs
    obtain ⟨queue, hqueue⟩ := (reachable_workers hs).isSome hthread hworks
    rw [hnone] at hqueue
    cases hqueue
  · exact (reachable_results hs).completed t req.id out hran.completed

/-! ## Callers -/

/-- The event tells a caller that its context has expired. -/
def expires : Event (Op Fn) Op.Answer → Bool
  | ⟨.selectStarted _, .expired⟩ | ⟨.selectDone _, .expired⟩ => true
  | _ => false

theorem smooth_expires {q q' : HotplugQueue Fn} {t : ℕ} {op : Op Fn} {ans : op.Answer}
    (hact : act cfg smooth q t op = some (ans, q')) : expires ⟨op, ans⟩ = false := by
  cases op with
  | selectStarted id | selectDone id =>
    obtain ⟨err, -, hresult⟩ := Option.map_eq_some_iff.1 hact
    cases hresult
    rfl
  | _ => rfl

theorem expires_of_cancel {call : Call Fn} {past : History Fn} {event}
    {rest : Prog Fn (Option GoError)} {id : ℕ} {node : String}
    (h : RunStage call (past ++ [event]) rest) (hrest : rest.nextOp? = some (.cancel id node)) :
    expires event = true := by
  generalize hpast : past ++ [event] = whole at h
  have hlast : whole.getLast? = some event := by rw [← hpast]; simp
  cases h with
  | expired _ =>
    obtain rfl : _ = event := by simpa using hlast
    rfl
  | joined hnext | direct _ hnext | inside _ hnext | new _ hnext | issued hnext | ready hnext
  | waiting hnext | started hnext | late hnext =>
    rw [hrest] at hnext
    cases hnext
  | back _ | answered | gaveUp _ | done | cancelled | startedDone | lateDone => cases hrest

theorem not_givesUp_advance {c : ℕ} {thread : QueueThread Fn} {call : Call Fn}
    {prog : Prog Fn (Option GoError)} {event} {world : HotplugQueue Fn}
    (hs : Reachable cfg ok (s.advance c thread prog event world))
    (hthread : s.threads[c]? = some thread) (hkind : thread.kind = .run call)
    (hgives : ¬ GivesUp s c) (hnext : s.nextOp? c = some event.op)
    (hexpires : expires event = false) :
    ¬ GivesUp (s.advance c thread prog event world) c := by
  rintro (⟨id, hmem⟩ | ⟨id, node, hcancel⟩ | ⟨id, node, hmem⟩)
  · rcases mem_log_advance.1 hmem with hold | hnew
    · exact hgives (.inl ⟨id, hold⟩)
    · obtain ⟨-, rfl⟩ := Prod.mk.inj hnew
      cases hexpires
  · have hnew := @Pool.advance_getElem?_self _ _ _ _ _ s c thread prog event world hthread
    have hstage := runStage hs hnew hkind
    rw [history_advance_self] at hstage
    rw [nextOp?_eq hnew] at hcancel
    rw [expires_of_cancel hstage hcancel] at hexpires
    cases hexpires
  · rcases mem_log_advance.1 hmem with hold | hnew
    · exact hgives (.inr (.inr ⟨id, node, hold⟩))
    · obtain ⟨-, rfl⟩ := Prod.mk.inj hnew
      exact hgives (.inr (.inl ⟨id, node, hnext⟩))

section Callers

variable (hok : ∀ (s : QueuePool Fn) l, ¬ cancels s l → ok s l) {c : ℕ} {call : Call Fn}
include hok

/-- A caller that has not given up can take its step, after the workers of its node have been run.
-/
theorem caller_enabled {thread : QueueThread Fn} {op : Op Fn}
    {next : op.Answer → Prog Fn (Option GoError)} (hs : Reachable cfg ok s)
    (hthread : s.threads[c]? = some thread) (hkind : thread.kind = .run call)
    (hprog : thread.prog = .call op next) (hgives : ¬ GivesUp s c) :
    ∃ node s', WorkerSteps cfg node s s' ∧
      ∃ ans world, act cfg smooth s'.world c op = some (ans, world) := by
  have hnext : thread.prog.nextOp? = some op := by rw [hprog]; rfl
  have hop : op.ofWorker = false := by
    rw [(ofWorker_eq hs hthread).2 op hnext, hkind]
    rfl
  -- Where the caller waits for its request, the node of the request is drained.
  have hwaits : ∀ id, op.awaits = true → (∀ call' req coalesced, op.Waits call' req coalesced →
      req.id = id) → ∃ node s', WorkerSteps cfg node s s' ∧ ∃ out, s'.world.done id = some out := by
    intro id hawaits hid
    obtain ⟨call', -, hdirect | ⟨rfl, -⟩ | ⟨_, rfl, -⟩ | ⟨_, _, rfl, -⟩ |
      ⟨number, enqueuedAt, req, coalesced, tail, hpast, -, hwaits⟩⟩ :=
        caller_of_op hs hthread hprog hop
    · rw [hdirect.awaits] at hawaits
      cases hawaits
    · cases hawaits
    · cases hawaits
    · cases hawaits
    · have henqueue :
          (c, ⟨.enqueue (call'.request number enqueuedAt), (req, coalesced)⟩) ∈ s.log := by
        refine mem_history.1 ?_
        rw [hpast]
        simp [Call.enqueued]
      obtain ⟨c', asked, hreq⟩ := enqueued_of_answer hs henqueue
      obtain ⟨s', hsteps, hnone⟩ := @drained _ _ _ _ hok req.node hs
      obtain ⟨honward, hs', -⟩ := WorkerSteps.onward hok hs hsteps
      have hreq' : Enqueued s' c' req := ⟨asked, honward.precedes.log.subset hreq⟩
      rw [← hid call' req coalesced hwaits]
      exact ⟨req.node, s', hsteps, done_of_drained hs' hreq' hnone⟩
  have hnow : ∀ {ans world}, act cfg smooth s.world c op = some (ans, world) →
      ∃ node s', WorkerSteps cfg node s s' ∧
        ∃ ans world, act cfg smooth s'.world c op = some (ans, world) :=
    fun hact => ⟨"", s, .refl, _, _, hact⟩
  cases op with
  | nextRequestID | now | enqueue _ | callDirectly _ | returnedDirectly _ => exact hnow rfl
  | cancel id node =>
    exact (hgives (.inr (.inl ⟨id, node, by rw [nextOp?_eq hthread, hnext]⟩))).elim
  | selectStarted id | selectDone id =>
    obtain ⟨node, s', hsteps, out, hout⟩ := hwaits id rfl fun _ _ _ h => h.2.symm
    refine ⟨node, s', hsteps, .done out, s'.world, ?_⟩
    simp only [act, smooth, hout, Option.map_some]
  | awaitDone id =>
    obtain ⟨node, s', hsteps, out, hout⟩ := hwaits id rfl fun _ _ _ h => h.2.symm
    refine ⟨node, s', hsteps, out, s'.world, ?_⟩
    simp only [act, hout, Option.map_some]
  | nextRequest _ | closeStarted _ | validate _ | call _ | returned _ | contextExpired
  | complete _ _ | finish _ _ => cases hop

/-- A caller that has not given up returns in a continuation of the run. -/
theorem returns_of_waiting (prog : Prog Fn (Option GoError)) :
    ∀ {s : QueuePool Fn} {thread : QueueThread Fn}, Reachable cfg ok s →
      s.threads[c]? = some thread → thread.kind = .run call → thread.prog = prog →
      ¬ GivesUp s c → ∃ s' out, Onward cfg ok s s' ∧
        s'.threads[c]? = some { thread with prog := .ret out } ∧ ¬ GivesUp s' c := by
  induction prog with
  | ret out =>
    intro s thread hs hthread hkind hprog hgives
    refine ⟨s, out, .refl, ?_, hgives⟩
    rw [hthread, ← hprog]
  | call op next ih =>
    intro s thread hs hthread hkind hprog hgives
    obtain ⟨node, s₁, hsteps, ans, world, hact⟩ := caller_enabled hok hs hthread hkind hprog hgives
    obtain ⟨honward, hs₁, hserved⟩ := WorkerSteps.onward hok hs hsteps
    obtain ⟨hthread₁, hhistory⟩ := hserved.caller c thread call hthread hkind
    have hnext : s₁.nextOp? c = some op := by rw [nextOp?_eq hthread₁, hprog]; rfl
    -- The steps of the workers change nothing for the caller.
    have hgives₁ : ¬ GivesUp s₁ c := by
      simpa only [GivesUp, ← mem_history, hhistory, nextOp?_eq hthread₁, nextOp?_eq hthread]
        using hgives
    have hstep : (manager Fn cfg).step (.act c smooth) s₁ =
        some (s₁.advance c thread (next ans) ⟨op, ans⟩ world) :=
      Machine.step_act hthread₁ hprog hact
    have hcalm : smooth.signal ≠ .expired := fun h => by cases h
    have hallowed : ok s₁ (.act c smooth) := by
      refine hok _ _ ?_
      rintro ⟨id, node, hcancel⟩
      exact hgives₁ (.inr (.inl ⟨id, node, hcancel⟩))
    have hs₂ := hs₁.step hallowed hstep
    have hgives₂ := not_givesUp_advance hs₂ hthread₁ hkind hgives₁ hnext (smooth_expires hact)
    obtain ⟨s', out, honward', hreturned, hgives'⟩ :=
      ih ans hs₂ (advance_getElem?_self hthread₁) hkind rfl hgives₂
    refine ⟨s', out, ?_, hreturned, hgives'⟩
    exact (honward.tail ⟨.act c smooth, hallowed, hcalm, hstep⟩).trans honward'

end Callers

/-! ## The requests of the queue -/

theorem workers_of_pending (hs : Reachable cfg ok s) {node : String}
    (hpending : (s.world.nodeQueue node).pending ≠ []) : workers s node = 1 := by
  rw [(reachable_workers hs).count node]
  cases hqueue : s.world.nodes node with
  | none =>
    rw [HotplugQueue.nodeQueue, hqueue] at hpending
    exact (hpending rfl).elim
  | some queue => rfl

theorem spares_of_not_cancels {l : QueueStep Fn} (h : ¬ cancels s l) : spares s l := by
  cases l with
  | act t oracle =>
    intro id node hcancel
    exact (h ⟨id, node, hcancel⟩).elim
  | start _ => trivial
  | change _ => trivial

theorem answered_of_spares (hs : Reachable cfg spares s) {c : ℕ} {thread : QueueThread Fn}
    {call : Call Fn} {out : Option GoError} (hthread : s.threads[c]? = some thread)
    (hkind : thread.kind = .run call) (hret : thread.prog = .ret out) (hgives : ¬ GivesUp s c) :
    Answered cfg s c call out := by
  refine answered_of_returned hs hthread hkind hret hgives fun id hmem hcancelled => ?_
  exact (reachable_spared hs).told id hcancelled c out hmem

/-- In every run a node executes one request at a time; the function of a request runs at most once,
and not at all if the request is cancelled; and a node where requests wait has one worker, so that
every request is cancelled, waits for it, is executed or has been. Where cancellations spare the
other callers, a caller that does not give up is answered with the outcome of the one run of its
request. -/
theorem requests_served_once (cfg : Config) (s : QueuePool Fn) :
    (Reachable cfg (fun _ _ => True) s →
      (∀ t t' req req', Executing s t req → Executing s t' req' → req.node = req'.node →
        t = t' ∧ req = req') ∧
      (∀ c req, Enqueued s c req → calls s req.id ≤ 1 ∧ (Cancelled s req.id → calls s req.id = 0)) ∧
      (∀ node, (s.world.nodeQueue node).pending ≠ [] → workers s node = 1) ∧
      ∀ c req, Enqueued s c req → Cancelled s req.id ∨ Pending s.world req.node req ∨
        ∃ t, Executing s t req ∨ ∃ out, Ran cfg s t req out) ∧
    (Reachable cfg spares s →
      ∀ c thread call, s.threads[c]? = some thread → thread.kind = .run call → ¬ GivesUp s c →
        (∀ out, s.result? c = some out → Answered cfg s c call out) ∧
        ∃ s' out, Onward cfg spares s s' ∧ s'.result? c = some out ∧
          Answered cfg s' c call out) := by
  refine ⟨fun hs => ⟨?_, ?_, ?_, ?_⟩, fun hs c thread call hthread hkind hgives => ⟨?_, ?_⟩⟩
  · intro t t' req req' hexecuting hexecuting' hnode
    exact hexecuting.unique hs hexecuting' hnode
  · intro c req _
    exact ⟨calls_le_one hs req.id, calls_eq_zero hs⟩
  · intro node hpending
    exact workers_of_pending hs hpending
  · intro c req hreq
    refine ((reachable_requests hs).fate c req hreq).imp_right fun hrest => ?_
    exact hrest.imp_right fun ⟨t, hdispatched⟩ => ⟨t, hdispatched.fate hs⟩
  · intro out hout
    rw [Pool.result?, hthread, Option.bind_some, result?_eq_some] at hout
    exact answered_of_spares hs hthread hkind hout hgives
  · obtain ⟨s', out, honward, hreturned, hgives'⟩ :=
      returns_of_waiting (fun _ _ => spares_of_not_cancels) thread.prog hs hthread hkind rfl hgives
    refine ⟨s', out, honward, ?_,
      answered_of_spares (honward.reachable hs) hreturned hkind rfl hgives'⟩
    rw [Pool.result?, hreturned]
    rfl

/-- The event with which a caller gives up. -/
def givesUp : Event (Op Fn) Op.Answer → Bool
  | ⟨.selectDone _, .expired⟩ | ⟨.cancel _ _, true⟩ => true
  | _ => false

theorem not_givesUp {c : ℕ} {out : Option GoError}
    (hlog : ∀ entry ∈ s.log, entry.1 = c → givesUp entry.2 = false)
    (hresult : s.result? c = some out) : ¬ GivesUp s c := by
  rintro (⟨id, hmem⟩ | ⟨id, node, hnext⟩ | ⟨id, node, hmem⟩)
  · cases hlog _ hmem rfl
  · obtain ⟨thread, hthread, hret⟩ := Option.bind_eq_some_iff.1 hresult
    rw [nextOp?_eq hthread, result?_eq_some.1 hret] at hnext
    cases hnext
  · cases hlog _ hmem rfl

/-- The worker takes a request. -/
def takes : Event (Op Fn) Op.Answer → Bool
  | ⟨.nextRequest _, some _⟩ => true
  | _ => false

/-- The context of the calls expires. -/
def late : Oracle :=
  { smooth with signal := .expired }

/-- Two calls are for the same work. The context of the first one expires before a worker starts,
and the second one, whose context has not expired, is told of a timeout although nothing was
executed. -/
theorem joined_told_of_cancellation :
    ∃ s : QueuePool Unit, Reachable defaultConfig (fun _ _ => True) s ∧ ¬ GivesUp s 1 ∧
      s.result? 1 = some (some (.queueTimeout "n1" .attach "v" 180000000000)) ∧
      ∀ t req, ¬ Dispatched s t req := by
  have hrun : ∃ s ∈ (manager Unit defaultConfig).run (fun _ _ => true)
      (enqueueing [attachCall "v" .normal, attachCall "v" .normal] ++
        List.replicate 2 (.act 0 late) ++ [.act 1 smooth])
      (Pool.initial HotplugQueue.new),
        (∀ entry ∈ s.log, entry.1 = 1 → givesUp entry.2 = false) ∧
        (∀ entry ∈ s.log, takes entry.2 = false) ∧
        s.result? 1 = some (some (.queueTimeout "n1" .attach "v" 180000000000)) := by
    decide +kernel
  obtain ⟨s, hs, hkeeps, hidle, hresult⟩ := reachable_of_run (fun _ _ _ => trivial) hrun
  refine ⟨s, hs, not_givesUp hkeeps hresult, hresult, ?_⟩
  rintro t req ⟨node, hmem⟩
  cases hidle _ hmem

/-- The step is no cancellation. -/
def cancelsNothing (s : QueuePool Fn) : QueueStep Fn → Bool
  | .act t _ =>
    match s.nextOp? t with
    | some (.cancel _ _) => false
    | _ => true
  | _ => true

theorem spares_of_cancelsNothing {l : QueueStep Fn} (h : cancelsNothing s l = true) :
    spares s l := by
  refine spares_of_not_cancels fun hcancels => ?_
  cases l with
  | act t oracle =>
    obtain ⟨id, node, hnext⟩ := hcancels
    simp [cancelsNothing, hnext] at h
  | start _ => exact hcancels
  | change _ => exact hcancels

/-- Two calls are for the same work, and the second one is answered with the outcome of the first.
-/
theorem joined_told_of_execution :
    ∃ (s : QueuePool Unit) (call : Call Unit), Reachable defaultConfig spares s ∧
      s.result? 1 = some none ∧ Answered defaultConfig s 1 call none := by
  have hrun : ∃ s ∈ (manager Unit defaultConfig).run cancelsNothing sharedRun
      (Pool.initial HotplugQueue.new),
        (∀ entry ∈ s.log, entry.1 = 1 → givesUp entry.2 = false) ∧
        (∃ thread ∈ s.threads[1]?, thread.kind.isWorker = false) ∧ s.result? 1 = some none := by
    decide +kernel
  obtain ⟨s, hs, hkeeps, ⟨thread, hthread, hcaller⟩, hresult⟩ :=
    reachable_of_run (fun _ _ => spares_of_cancelsNothing) hrun
  have hgives : ¬ GivesUp s 1 := not_givesUp hkeeps hresult
  cases hkind : thread.kind with
  | worker node => simp [hkind, Kind.isWorker] at hcaller
  | run call =>
    have hserved := (requests_served_once defaultConfig s).2 hs 1 thread call hthread hkind hgives
    exact ⟨s, call, hs, hresult, hserved.1 none hresult⟩

end OpenNebulaCSI.Queue
