import OpenNebulaCSI.Queue.Workers

/-!
# What callers are told

The result of a request is written once, by its worker or by its cancellation, and a caller that is
answered is told this result (`Results`). An originator is never told of a cancellation other than
its own. A coalesced caller is, unless a cancellation takes out only requests that nobody else waits
for (`spares`); and it may be told a result that was there before it asked, unless no caller joins a
request between its completion and its end (`settled`).
-/

namespace OpenNebulaCSI.Queue

open Go Concurrency Controller Program HotplugQueue List Pool

variable {Fn : Type} {cfg : Config} {ok : QueuePool Fn → QueueStep Fn → Prop} {s : QueuePool Fn}

/-! ## Results -/

/-- The request and the result an event tells a caller. -/
def receives : Event (Op Fn) Op.Answer → Option (ℕ × Option GoError)
  | ⟨.selectDone id, .done err⟩ | ⟨.selectStarted id, .done err⟩ => some (id, err)
  | ⟨.awaitDone id, err⟩ => some (id, err)
  | _ => none

section Act

variable {oracle : Oracle} {q q' : HotplugQueue Fn} {t id : ℕ} {op : Op Fn} {ans : op.Answer}
  {err : Option GoError}

theorem act_done (hact : act cfg oracle q t op = some (ans, q')) (hdone : q.done id = some err) :
    q'.done id = some err := by
  cases op with
  | enqueue req =>
    obtain rfl : (q.enqueue cfg { req with caller := t }).2 = q' :=
      congrArg Prod.snd (Option.some.inj hact)
    rw [enqueue_done, hdone]
  | cancel id' node =>
    obtain rfl : (q.cancel id' node).2 = q' := congrArg Prod.snd (Option.some.inj hact)
    rcases @cancel_done_cases _ q node id' id with hsame | ⟨hnone, -⟩
    · rw [hsame, hdone]
    · rw [hnone] at hdone
      cases hdone
  | nextRequest node =>
    obtain rfl : (q.next cfg node oracle.now).2 = q' := congrArg Prod.snd (Option.some.inj hact)
    rw [next_done, hdone]
  | complete id' err' =>
    cases hact
    rcases complete_done_cases q id' id err' with hsame | ⟨-, hnone, -⟩
    · rw [hsame, hdone]
    · rw [hnone] at hdone
      cases hdone
  | finish node id' =>
    cases hact
    exact hdone
  | _ =>
    rw [(act_frame hact rfl).2.2, hdone]

theorem act_receives (hact : act cfg oracle q t op = some (ans, q'))
    (h : receives ⟨op, ans⟩ = some (id, err)) : q.done id = some err := by
  cases op with
  | selectDone id' =>
    simp only [act] at hact
    split at hact
    · cases hact
      cases h
    obtain ⟨found, hfound, hresult⟩ := Option.map_eq_some_iff.1 hact
    cases hresult
    cases h
    exact hfound
  | selectStarted id' =>
    simp only [act] at hact
    split at hact
    · cases hact
      cases h
    · split at hact <;> cases hact
      cases h
    obtain ⟨found, hfound, hresult⟩ := Option.map_eq_some_iff.1 hact
    cases hresult
    cases h
    exact hfound
  | awaitDone id' =>
    obtain ⟨found, hfound, hresult⟩ := Option.map_eq_some_iff.1 hact
    cases hresult
    cases h
    exact hfound
  | _ => cases h

end Act

/-- What callers have been told is the result of the request, and a request that was completed or
cancelled has one. -/
structure Results (s : QueuePool Fn) : Prop where
  received : ∀ c event id err, (c, event) ∈ s.log → receives event = some (id, err) →
    s.world.done id = some err
  completed : ∀ t id err, Completed s t id err → ∃ result, s.world.done id = some result
  cancelled : ∀ id, Cancelled s id → ∃ result, s.world.done id = some result

theorem complete_done (q : HotplugQueue Fn) (id : ℕ) (err : Option GoError) :
    ∃ result, (q.complete id err).done id = some result := by
  unfold HotplugQueue.complete
  split
  · rename_i result hresult
    exact ⟨result, hresult⟩
  · exact ⟨err, by simp⟩

theorem reachable_results (hs : Reachable cfg ok s) : Results s := by
  have hinit : ∀ world, world = HotplugQueue.new → Results (Pool.initial world : QueuePool Fn) := by
    rintro world rfl
    refine ⟨fun c event id err hmem _ => ?_, fun t id err hmem => ?_, fun id hcancelled => ?_⟩
    · cases hmem
    · cases hmem
    · obtain ⟨c, node, hmem⟩ := hcancelled
      cases hmem
  refine hs.invariant hinit fun s l s' hs ih hok h => ?_
  rcases Machine.step_cases h with ⟨hstart⟩ |
    @⟨t, oracle, thread, op, next, ans, world, hthread, hprog, hact⟩ | @⟨c⟩
  · obtain ⟨starting, rfl⟩ := start_world hstart
    exact ⟨ih.received, ih.completed, ih.cancelled⟩
  · have hkeeps : ∀ {id}, (∃ result, s.world.done id = some result) →
        ∃ result, world.done id = some result := fun ⟨result, hresult⟩ =>
      ⟨result, act_done hact hresult⟩
    refine ⟨fun c event id err hmem hreceives => ?_, fun c id err hcompleted => ?_,
      fun id hcancelled => ?_⟩
    · rcases mem_log_advance.1 hmem with hold | hnew
      · exact act_done hact (ih.received c event id err hold hreceives)
      · obtain ⟨-, rfl⟩ := Prod.mk.inj hnew
        exact act_done hact (act_receives hact hreceives)
    · rcases completed_advance.1 hcompleted with hold | ⟨-, hevent⟩
      · exact hkeeps (ih.completed c id err hold)
      cases hevent
      cases hact
      exact complete_done s.world id err
    · rcases cancelled_advance.1 hcancelled with hold | ⟨node, hevent⟩
      · exact hkeeps (ih.cancelled id hold)
      cases hevent
      have hact : s.world.cancel id node = (true, world) := Option.some.inj hact
      rcases cancel_cases hact with ⟨hnone, -⟩ | ⟨queue, req, -, -, -, rfl⟩
      · cases hnone
      exact complete_done _ id _
  · cases c

/-! ## Executions -/

/-- The worker has taken the request and is not yet done with it. -/
def Executing (s : QueuePool Fn) (t : ℕ) (req : Request Fn) : Prop :=
  Dispatched s t req ∧ ∃ op, s.nextOp? t = some op

/-- The worker has served the request, to this result, and has completed it. -/
def Ran (cfg : Config) (s : QueuePool Fn) (t : ℕ) (req : Request Fn) (out : Option GoError) :
    Prop :=
  ∃ trace rest, s.history t = begun req.node req ++ trace ++ ⟨.complete req.id out, ()⟩ :: rest ∧
    (runRequest cfg req).Returns trace out

variable {t id : ℕ} {req : Request Fn} {out err : Option GoError}

theorem Dispatched.worker (hs : Reachable cfg ok s) (h : Dispatched s t req) :
    ∃ thread tail, s.threads[t]? = some thread ∧ thread.kind = .worker req.node ∧
      s.history t = ⟨.nextRequest req.node, some req⟩ :: tail ∧
      (∀ event ∈ tail, event.op.After req.node req) ∧
      WorkerStage cfg req.node (s.history t) thread.prog := by
  obtain ⟨node, hmem⟩ := h
  obtain ⟨s₀, oracle, _, _, world, hs₀, -, -, -, hact, -⟩ := hs.origin hmem
  have hnext : (s₀.world.next cfg node oracle.now).1 = some req :=
    congrArg Prod.fst (Option.some.inj hact)
  obtain rfl : req.node = node := ((reachable_requests hs₀).held node req (holds_of_next hnext)).1
  obtain ⟨thread, tail, hthread, hkind, hpast, htail, -⟩ := dispatch_event hs hmem
  exact ⟨thread, tail, hthread, hkind, hpast, htail, workerStage hs hthread hkind⟩

variable {thread : QueueThread Fn}

theorem nextOp?_eq (h : s.threads[t]? = some thread) : s.nextOp? t = thread.prog.nextOp? := by
  rw [Pool.nextOp?, h, Option.bind_some]

theorem Executing.works (hs : Reachable cfg ok s) (h : Executing s t req) :
    ∃ thread, s.threads[t]? = some thread ∧ works req.node thread = true := by
  obtain ⟨hdispatched, op, hop⟩ := h
  obtain ⟨thread, tail, hthread, hkind, -⟩ := hdispatched.worker hs
  rw [nextOp?_eq hthread] at hop
  exact ⟨thread, hthread, works_iff.2 ⟨hkind, op, hop⟩⟩

theorem Executing.unique (hs : Reachable cfg ok s) {t' : ℕ} {req' : Request Fn}
    (h : Executing s t req) (h' : Executing s t' req') (hnode : req.node = req'.node) :
    t = t' ∧ req = req' := by
  obtain ⟨thread, hthread, hworks⟩ := h.works hs
  obtain ⟨thread', hthread', hworks'⟩ := h'.works hs
  rw [← hnode] at hworks'
  obtain rfl := (reachable_workers hs).unique hthread hworks hthread' hworks'
  exact ⟨rfl, h.1.eq hs h'.1⟩

variable {rest : Prog Fn (Option GoError)} {event : Event (Op Fn) Op.Answer} {past : History Fn}
  {node : String}

theorem WorkerStage.of_ret {value : Option GoError} (h : WorkerStage cfg node past (.ret value)) :
    past = [⟨.nextRequest node, none⟩] ∨ ∃ req trace out, (runRequest cfg req).Returns trace out ∧
      past = begun node req ++ trace ++
        [⟨.complete req.id out, ()⟩, ⟨.finish node req.id, ()⟩] := by
  cases h with
  | idle => exact .inl rfl
  | finished hreturns => exact .inr ⟨_, _, _, hreturns, rfl⟩
  | new hrest | taken hrest | serving _ _ hrest | served _ hrest | completed _ hrest => cases hrest

/-- A worker that has completed a request has served it, and all it has left to do is to end it. -/
theorem WorkerStage.of_complete (h : WorkerStage cfg node past rest)
    (hmem : ⟨.complete id err, ()⟩ ∈ past) :
    ∃ req trace tail, (runRequest cfg req).Returns trace err ∧ id = req.id ∧
      past = begun node req ++ trace ++ ⟨.complete req.id err, ()⟩ :: tail ∧
      (rest.nextOp? = some (.finish node req.id) ∨ rest.nextOp? = none) := by
  have hnone : ∀ {req : Request Fn} {trace current}, (runRequest cfg req).Follows trace current →
      ⟨.complete id err, ()⟩ ∉ begun node req ++ trace := by
    intro req trace current hfollows hmem
    rcases mem_append.1 hmem with hbegun | htrace
    · simp [begun] at hbegun
    · exact (hfollows.only (runRequest_serves cfg req)).1 _ htrace
  cases h with
  | new _ => cases hmem
  | idle => simp at hmem
  | taken _ => simp at hmem
  | serving hfollows _ _ => exact (hnone hfollows hmem).elim
  | served hreturns _ => exact (hnone hreturns hmem).elim
  | completed hreturns hrest =>
    rcases mem_append.1 hmem with hbefore | hlast
    · exact (hnone hreturns hbefore).elim
    · obtain ⟨rfl, rfl⟩ : id = _ ∧ err = _ := by simpa using hlast
      exact ⟨_, _, [], hreturns, rfl, rfl, .inl hrest⟩
  | finished hreturns =>
    rcases mem_append.1 hmem with hbefore | hlast
    · exact (hnone hreturns hbefore).elim
    · obtain ⟨rfl, rfl⟩ : id = _ ∧ err = _ := by simpa using hlast
      exact ⟨_, _, _, hreturns, rfl, rfl, .inr rfl⟩

theorem WorkerStage.of_finish (h : WorkerStage cfg node past rest)
    (hrest : rest.nextOp? = some (.finish node id)) :
    ∃ err, ⟨.complete id err, ()⟩ ∈ past := by
  cases h with
  | new hnext | taken hnext | served _ hnext =>
    rw [hrest] at hnext
    cases hnext
  | idle => cases hrest
  | finished _ => cases hrest
  | @serving _ req _ _ op hfollows hcurrent hnext =>
    obtain rfl := Option.mem_unique hrest hnext
    obtain ⟨next, rfl⟩ := nextOp?_eq_some.1 hcurrent
    exact (only_call.1 (hfollows.only (runRequest_serves cfg req)).2).1.elim
  | @completed _ req trace err hreturns hnext =>
    obtain rfl : id = req.id := by simpa [hrest] using hnext
    exact ⟨err, by simp⟩

theorem Dispatched.fate (hs : Reachable cfg ok s) (h : Dispatched s t req) :
    Executing s t req ∨ ∃ out, Ran cfg s t req out := by
  obtain ⟨thread, tail, hthread, -, hpast, -, hstage⟩ := h.worker hs
  rcases hprog : thread.prog with ⟨value⟩ | ⟨op, next⟩
  · right
    rw [hprog] at hstage
    rcases hstage.of_ret with hidle | ⟨req', trace, out, hreturns, hserved⟩
    · rw [hidle] at hpast
      cases hpast
    obtain rfl : req' = req := by
      have hhead := congrArg List.head? (hserved.symm.trans hpast)
      simpa [begun] using hhead
    exact ⟨out, trace, _, hserved, hreturns⟩
  · left
    refine ⟨h, op, ?_⟩
    rw [nextOp?_eq hthread, hprog]
    rfl

theorem Ran.completed (h : Ran cfg s t req out) : Completed s t req.id out := by
  obtain ⟨trace, rest, hhistory, -⟩ := h
  refine mem_history.1 ?_
  rw [hhistory]
  simp

theorem Completed.ran (hs : Reachable cfg ok s) (h : Completed s t id err)
    (hreq : Dispatched s t req) : Ran cfg s t req err ∧
      (s.nextOp? t = some (.finish req.node req.id) ∨ s.nextOp? t = none) := by
  obtain ⟨thread, tail, hthread, -, hpast, -, hstage⟩ := hreq.worker hs
  obtain ⟨req', trace, rest, hreturns, -, hserved, hnext⟩ := hstage.of_complete (mem_history.2 h)
  obtain rfl : req' = req := by
    have hhead := congrArg List.head? (hserved.symm.trans hpast)
    simpa [begun] using hhead
  rw [nextOp?_eq hthread]
  exact ⟨⟨trace, rest, hserved, hreturns⟩, hnext⟩

/-! ## The function of a request -/

def Op.calls (id : ℕ) : Op Fn → Bool
  | .call req => req.id = id
  | _ => false

/-- How often the function of a request has been called. -/
def calls (s : QueuePool Fn) (id : ℕ) : ℕ :=
  s.log.countP fun entry => entry.2.op.calls id

variable {op : Op Fn}

theorem Op.calls_iff : op.calls id = true ↔ ∃ called, op = .call called ∧ called.id = id := by
  constructor
  · intro h
    cases op with
    | call called => exact ⟨called, rfl, by simpa [Op.calls] using h⟩
    | _ => cases h
  · rintro ⟨called, rfl, rfl⟩
    simp [Op.calls]

theorem dispatched_of_call (hs : Reachable cfg ok s) (hmem : (t, event) ∈ s.log)
    (hcalls : event.op.calls id = true) : ∃ req, Dispatched s t req ∧ req.id = id := by
  obtain ⟨op, ans⟩ := event
  obtain ⟨called, rfl, hid⟩ := Op.calls_iff.1 hcalls
  obtain ⟨s₀, oracle, thread, next, world, hs₀, -, hthread, hprog, -, hprecedes⟩ := hs.origin hmem
  obtain ⟨node, -, ⟨hop, -⟩ | ⟨req, tail, hpast, -, hafter⟩⟩ := worker_of_op hs₀ hthread hprog rfl
  · cases hop
  · obtain rfl : called = req := hafter
    have hmem₀ : (t, ⟨.nextRequest node, some called⟩) ∈ s₀.log := mem_history.1 (by simp [hpast])
    refine ⟨called, ⟨node, hprecedes.log.subset ?_⟩, hid⟩
    exact mem_log_advance.2 (.inl hmem₀)

theorem WorkerStage.call_once {called : Request Fn} (h : WorkerStage cfg node past rest)
    (hcall : rest.nextOp? = some (.call called)) :
    ∀ event ∈ past, ∀ id, event.op.calls id = false := by
  cases h with
  | new hrest | taken hrest | served _ hrest | completed _ hrest =>
    rw [hcall] at hrest
    cases hrest
  | idle => cases hcall
  | finished _ => cases hcall
  | serving hfollows hcurrent hrest => ?_
  obtain rfl := Option.mem_unique hcall hrest
  intro event hmem id
  rcases mem_append.1 hmem with hbegun | htrace
  · simp only [begun, mem_cons, not_mem_nil, or_false] at hbegun
    rcases hbegun with rfl | rfl <;> rfl
  have hnone := runRequest_call_once hfollows hcurrent event htrace
  obtain ⟨op, ans⟩ := event
  cases op with
  | call other => exact (hnone other rfl).elim
  | _ => rfl

variable {world : HotplugQueue Fn}

theorem calls_advance {prog : Prog Fn (Option GoError)} {event} :
    calls (s.advance t thread prog event world) id =
      calls s id + (event.op.calls id).toNat := by
  have hone : ∀ b : Bool, (if b = true then 1 else 0) = b.toNat := by decide
  simp only [calls, Pool.advance, countP_append, countP_singleton, hone]

theorem calls_le_one (hs : Reachable cfg ok s) (id : ℕ) : calls s id ≤ 1 := by
  induction hs with
  | initial _ => exact Nat.zero_le _
  | @step s s' l hs hok h ih =>
    rcases Machine.step_cases h with ⟨hstart⟩ |
      @⟨t, oracle, thread, op, next, ans, world, hthread, hprog, hact⟩ | @⟨c⟩
    · exact ih
    · rw [calls_advance]
      cases hcalls : op.calls id with
      | false => exact ih
      | true => ?_
      obtain ⟨called, rfl, hcalled⟩ := Op.calls_iff.1 hcalls
      -- The worker of the request is the only one to call its function, and it has not yet.
      have hnone : calls s id = 0 := by
        refine countP_eq_zero.2 fun ⟨t', event⟩ hmem hother => ?_
        have hs' := hs.step hok h
        obtain ⟨req', hreq', hid'⟩ := dispatched_of_call hs' (mem_log_advance.2 (.inl hmem)) hother
        obtain ⟨req, hreq, hid⟩ := dispatched_of_call hs' (mem_log_advance.2 (.inr rfl)) hcalls
        obtain rfl := (reachable_requests hs').once t' t req' req hreq' hreq (hid'.trans hid.symm)
        obtain ⟨node, hkind, -⟩ := worker_of_op hs hthread hprog rfl
        have hstage := workerStage hs hthread hkind
        have hfirst := hstage.call_once (by rw [hprog]; rfl) event (mem_history.2 hmem) id
        rw [hfirst] at hother
        cases hother
      rw [hnone, Nat.zero_add]
      exact Bool.toNat_le _
    · cases c

theorem calls_eq_zero (hs : Reachable cfg ok s) (hcancelled : Cancelled s id) : calls s id = 0 := by
  refine countP_eq_zero.2 fun ⟨t, event⟩ hmem hcalled => ?_
  obtain ⟨req, hreq, rfl⟩ := dispatched_of_call hs hmem hcalled
  exact (reachable_requests hs).kept t req hreq hcancelled

/-! ## Answers -/

/-- The operations of a caller that waits for its request. -/
def Op.awaits : Op Fn → Bool
  | .selectDone _ | .selectStarted _ | .awaitDone _ | .cancel _ _ => true
  | _ => false

theorem Op.awaits.ofWorker (h : op.awaits = true) : op.ofWorker = false := by
  cases op <;> first | rfl | exact h.symm

variable {call : Call Fn}

theorem Op.Direct.awaits (h : op.Direct call) : op.awaits = false := by
  cases op <;> first | rfl | exact h.elim

variable {c : ℕ}

/-- What a caller that waits has been answered by `enqueue`. -/
theorem waits_event (hs : Reachable cfg ok s) (hmem : (c, event) ∈ s.log)
    (hawaits : event.op.awaits = true) :
    ∃ call asked req coalesced, (c, ⟨.enqueue asked, (req, coalesced)⟩) ∈ s.log ∧
      event.op.Waits call req coalesced := by
  obtain ⟨s₀, oracle, thread, next, world, hs₀, -, hthread, hprog, -, hprecedes⟩ := hs.origin hmem
  obtain ⟨call, -, hdirect | ⟨hop, -⟩ | ⟨_, hop, -⟩ | ⟨_, _, hop, -⟩ |
    ⟨id, enqueuedAt, req, coalesced, tail, hpast, -, hwaits⟩⟩ :=
      caller_of_op hs₀ hthread hprog (Op.awaits.ofWorker hawaits)
  · rw [hdirect.awaits] at hawaits
    cases hawaits
  · rw [hop] at hawaits
    cases hawaits
  · rw [hop] at hawaits
    cases hawaits
  · rw [hop] at hawaits
    cases hawaits
  · refine ⟨call, call.request id enqueuedAt, req, coalesced, hprecedes.log.subset ?_, hwaits⟩
    refine mem_log_advance.2 (.inl (mem_history.1 ?_))
    rw [hpast]
    simp [Call.enqueued]

theorem canceller (hs : Reachable cfg ok s) (hmem : (c, ⟨.cancel id node, true⟩) ∈ s.log) :
    ∃ req, Enqueued s c req ∧ req.id = id := by
  obtain ⟨call, asked, req, coalesced, henqueue, rfl, rfl, -⟩ := waits_event hs hmem rfl
  exact ⟨req, ⟨asked, henqueue⟩, rfl⟩

/-- The caller has given up, or is about to: its context has expired while it waited. -/
def GivesUp (s : QueuePool Fn) (c : ℕ) : Prop :=
  (∃ id, (c, ⟨.selectDone id, .expired⟩) ∈ s.log) ∨
    (∃ id node, s.nextOp? c = some (.cancel id node)) ∨
    ∃ id node, (c, ⟨.cancel id node, true⟩) ∈ s.log

/-- The caller has run its function itself, or it has been told the result to which the one worker
that took its request has served it. -/
def Answered (cfg : Config) (s : QueuePool Fn) (c : ℕ) (call : Call Fn) (out : Option GoError) :
    Prop :=
  (call.node = "" ∧ s.history c = [⟨.callDirectly call.fn, ()⟩, ⟨.returnedDirectly call.fn, out⟩]) ∨
  ∃ number enqueuedAt req coalesced,
    (c, ⟨.enqueue (call.request number enqueuedAt), (req, coalesced)⟩) ∈ s.log ∧
    HotplugQueue.sameQueueRequest req (call.request number enqueuedAt) = true ∧
    ∃ t, Ran cfg s t req out ∧ ∀ t', Dispatched s t' req ↔ t' = t

/-- A caller that has returned has run its function, was answered, or has given up. -/
theorem RunStage.of_ret (h : RunStage call past (.ret out)) :
    (call.node = "" ∧ past = [⟨.callDirectly call.fn, ()⟩, ⟨.returnedDirectly call.fn, out⟩]) ∨
    (∃ number enqueuedAt req coalesced tail event,
      past = call.enqueued number enqueuedAt req coalesced ++ tail ∧ event ∈ tail ∧
      receives event = some (req.id, out) ∧
      (coalesced = true → event = ⟨.selectDone req.id, .done out⟩)) ∨
    (∃ id signal, (∀ err, signal ≠ .done err) ∧ ⟨.selectDone id, signal⟩ ∈ past) ∨
    ∃ id node, ⟨.cancel id node, true⟩ ∈ past := by
  cases h with
  | direct _ hrest | inside _ hrest | new _ hrest | issued hrest | ready hrest | joined hrest
  | waiting hrest | started hrest | expired hrest | late hrest => cases hrest
  | back hnode => exact .inl ⟨hnode, rfl⟩
  | answered =>
    exact .inr (.inl ⟨_, _, _, _, _, _, rfl, mem_singleton_self _, rfl, fun _ => rfl⟩)
  | gaveUp hsignal => exact .inr (.inr (.inl ⟨_, _, hsignal, by simp⟩))
  | done => exact .inr (.inl ⟨_, _, _, _, _, _, rfl, mem_singleton_self _, rfl, nofun⟩)
  | @cancelled _ _ req => exact .inr (.inr (.inr ⟨req.id, call.node, by simp⟩))
  | startedDone =>
    exact .inr (.inl ⟨_, _, _, _, _, ⟨.awaitDone _, _⟩, rfl, by simp, rfl, nofun⟩)
  | lateDone =>
    exact .inr (.inl ⟨_, _, _, _, _, ⟨.awaitDone _, _⟩, rfl, by simp, rfl, nofun⟩)

/-- The `select` of a coalesced caller on `done` and its context. -/
theorem selectDone_signal (hs : Reachable cfg ok s) {signal : Signal}
    (hmem : (c, ⟨.selectDone id, signal⟩) ∈ s.log) (hsignal : ∀ err, signal ≠ .done err) :
    signal = .expired := by
  obtain ⟨s₀, oracle, _, _, _, -, -, -, -, hact, -⟩ := hs.origin hmem
  simp only [manager, act] at hact
  split at hact
  · cases hact
    rfl
  obtain ⟨err, -, hresult⟩ := Option.map_eq_some_iff.1 hact
  cases hresult
  exact (hsignal err rfl).elim

variable {asked : Request Fn}

theorem enqueued_of_answer (hs : Reachable cfg ok s) {coalesced : Bool}
    (hmem : (c, ⟨.enqueue asked, (req, coalesced)⟩) ∈ s.log) : ∃ c', Enqueued s c' req := by
  cases coalesced with
  | false => exact ⟨c, asked, hmem⟩
  | true => ?_
  obtain ⟨s₀, oracle, _, _, world, hs₀, -, -, -, hact, hprecedes⟩ := hs.origin hmem
  have hjoined : s₀.world.enqueue cfg { asked with caller := c } = ((req, true), world) :=
    Option.some.inj hact
  obtain ⟨-, c', asked', hold⟩ := (reachable_requests hs₀).held _ req (holds_of_joined hjoined)
  exact ⟨c', asked', hprecedes.log.subset (mem_log_advance.2 (.inl hold))⟩

theorem ran_of_done (hs : Reachable cfg ok s) (hreq : Enqueued s c req)
    (hdone : s.world.done req.id = some out) (hkept : ¬ Cancelled s req.id) :
    ∃ t, Ran cfg s t req out ∧ ∀ t', Dispatched s t' req ↔ t' = t := by
  have hinv := reachable_requests hs
  rcases hinv.outcome req.id out hdone with hcancelled | ⟨t, req', hreq', hid, hcompleted⟩
  · exact (hkept hcancelled).elim
  obtain ⟨c', hc'⟩ := hinv.dispatched t req' hreq'
  obtain ⟨-, rfl⟩ := hc'.unique hs hreq hid
  refine ⟨t, (hcompleted.ran hs hreq').1, fun t' => ⟨fun h => ?_, fun h => h ▸ hreq'⟩⟩
  exact hinv.once t' t req' req' h hreq' rfl

/-- A caller that has returned without giving up was answered, unless the request it was joined to
has been cancelled. -/
theorem answered_of_returned (hs : Reachable cfg ok s) (hthread : s.threads[c]? = some thread)
    (hkind : thread.kind = .run call) (hret : thread.prog = .ret out) (hgives : ¬ GivesUp s c)
    (hjoined : ∀ id, (c, ⟨.selectDone id, .done out⟩) ∈ s.log → ¬ Cancelled s id) :
    Answered cfg s c call out := by
  have hstage := runStage hs hthread hkind
  rw [hret] at hstage
  rcases hstage.of_ret with hdirect |
    ⟨number, enqueuedAt, req, coalesced, tail, event, hpast, hevent, hreceives, hselect⟩ |
    ⟨id, signal, hsignal, hmem⟩ | ⟨id, node, hmem⟩
  · exact .inl hdirect
  · right
    have henqueue : (c, ⟨.enqueue (call.request number enqueuedAt), (req, coalesced)⟩) ∈ s.log := by
      refine mem_history.1 ?_
      rw [hpast]
      simp [Call.enqueued]
    have hmem : (c, event) ∈ s.log := mem_history.1 (by rw [hpast]; simp [hevent])
    have hkept : ¬ Cancelled s req.id := by
      cases coalesced with
      | true =>
        obtain rfl := hselect rfl
        exact hjoined req.id hmem
      | false => ?_
      -- Only the caller itself could have cancelled the request, and it would have given up.
      rintro ⟨c', node, hcancel⟩
      obtain ⟨req', henqueued, hid⟩ := canceller hs hcancel
      obtain ⟨rfl, -⟩ := henqueued.unique hs ⟨_, henqueue⟩ hid
      exact hgives (.inr (.inr ⟨_, _, hcancel⟩))
    have hresult := (reachable_results hs).received c event req.id out hmem hreceives
    obtain ⟨c', hc'⟩ := enqueued_of_answer hs henqueue
    exact ⟨number, enqueuedAt, req, coalesced, henqueue, (enqueue_answer hs henqueue).1,
      ran_of_done hs hc' hresult hkept⟩
  · have hmem := mem_history.1 hmem
    obtain rfl := selectDone_signal hs hmem hsignal
    exact (hgives (.inl ⟨id, hmem⟩)).elim
  · exact (hgives (.inr (.inr ⟨id, node, mem_history.1 hmem⟩))).elim

/-! ## Cancellations that spare other callers -/

/-- No step cancels a request for which another caller waits. -/
def spares (s : QueuePool Fn) : QueueStep Fn → Prop
  | .act t _ => ∀ id node, s.nextOp? t = some (.cancel id node) →
      (∃ req, Pending s.world node req ∧ req.id = id) → ∀ c, s.nextOp? c ≠ some (.selectDone id)
  | _ => True

/-- No caller waits to be told, or was told, of a cancellation of a request it has joined. -/
structure Spared (s : QueuePool Fn) : Prop where
  waiting : ∀ id, Cancelled s id → ∀ c, s.nextOp? c ≠ some (.selectDone id)
  told : ∀ id, Cancelled s id → ∀ c err, (c, ⟨.selectDone id, .done err⟩) ∉ s.log

/-- A caller that begins to wait on `done` has just joined a request that waits or is active. -/
theorem joined_of_selectDone {event} (h : RunStage call (past ++ [event]) rest)
    (hrest : rest.nextOp? = some (.selectDone id)) :
    ∃ asked req, event = ⟨.enqueue asked, (req, true)⟩ ∧ req.id = id := by
  generalize hpast : past ++ [event] = whole at h
  have hlast : whole.getLast? = some event := by rw [← hpast]; simp
  cases h with
  | @joined _ number enqueuedAt req hnext =>
    obtain rfl : id = req.id := by simpa [hrest] using hnext
    refine ⟨call.request number enqueuedAt, req, ?_, rfl⟩
    simpa [Call.enqueued] using hlast.symm
  | direct _ hnext | inside _ hnext | new _ hnext | issued hnext | ready hnext
  | waiting hnext | started hnext | expired hnext | late hnext =>
    rw [hrest] at hnext
    cases hnext
  | back _ | answered | gaveUp _ | done | cancelled | startedDone | lateDone => cases hrest

theorem not_cancelled_of_holds (hs : Reachable cfg ok s) (h : s.world.Holds node req) :
    ¬ Cancelled s req.id := by
  rcases h.nodeQueue with hactive | hpending
  · obtain ⟨t, thread, -, -, hdispatched⟩ := (reachable_workers hs).active node req hactive
    exact (reachable_requests hs).kept t req hdispatched
  · exact ((reachable_requests hs).waiting node req hpending).2.1

theorem nextOp?_of_selectDone (h : s.nextOp? c = some (.selectDone id)) :
    ∃ thread, s.threads[c]? = some thread ∧ thread.prog.nextOp? = some (.selectDone id) := by
  obtain ⟨thread, hthread, hnext⟩ := Option.bind_eq_some_iff.1 h
  exact ⟨thread, hthread, hnext⟩

/-- A thread that has begun to wait on `done` in this step has joined the request in this step. -/
theorem selectDone_advance {prog : Prog Fn (Option GoError)} {event}
    (hs : Reachable cfg ok (s.advance t thread prog event world))
    (h : (s.advance t thread prog event world).nextOp? c = some (.selectDone id)) :
    s.nextOp? c = some (.selectDone id) ∧ c ≠ t ∨
      ∃ asked req, c = t ∧ event = ⟨.enqueue asked, (req, true)⟩ ∧ req.id = id := by
  obtain ⟨waiter, hwaiter, hnext⟩ := nextOp?_of_selectDone h
  rcases advance_getElem?_cases hwaiter with ⟨hne, hold⟩ | ⟨rfl, rfl⟩
  · exact .inl ⟨by rw [nextOp?_eq hold, hnext], hne⟩
  cases hkind : thread.kind with
  | worker node =>
    have := (ofWorker_eq hs hwaiter).2 _ hnext
    rw [hkind] at this
    cases this
  | run call =>
    have hstage := runStage hs hwaiter hkind
    rw [history_advance_self] at hstage
    obtain ⟨asked, req, hevent, hid⟩ := joined_of_selectDone hstage hnext
    exact .inr ⟨asked, req, rfl, hevent, hid⟩

theorem reachable_spared (hs : Reachable cfg spares s) : Spared s := by
  have hinit : ∀ world, world = HotplugQueue.new → Spared (Pool.initial world : QueuePool Fn) := by
    rintro world rfl
    have hnone : ∀ id, ¬ Cancelled (Pool.initial HotplugQueue.new : QueuePool Fn) id := by
      rintro id ⟨c, node, hmem⟩
      cases hmem
    exact ⟨fun id h => (hnone id h).elim, fun id h => (hnone id h).elim⟩
  refine hs.invariant hinit fun s l s' hs ih hok h => ?_
  have hs' := hs.step hok h
  rcases Machine.step_cases h with @⟨kind, prog, world, hstart⟩ |
    @⟨t, oracle, thread, op, next, ans, world, hthread, hprog, hact⟩ | @⟨c⟩
  · refine ⟨fun id hcancelled c hnext => ?_, ih.told⟩
    obtain ⟨waiter, hwaiter, hnext⟩ := nextOp?_of_selectDone hnext
    rcases spawn_getElem?_cases hwaiter with hold | ⟨-, rfl⟩
    · exact ih.waiting id hcancelled c (by rw [nextOp?_eq hold, hnext])
    obtain rfl := start_program hstart
    cases kind with
    | worker node => cases hnext
    | run call =>
      dsimp only [Kind.program, run] at hnext
      split at hnext <;> cases hnext
  · have hcalls : s.nextOp? t = some op := by rw [nextOp?_eq hthread, hprog]; rfl
    refine ⟨fun id hcancelled c hnext => ?_, fun id hcancelled c err hmem => ?_⟩
    · rcases selectDone_advance hs' hnext with ⟨hold, hne⟩ | ⟨asked, req, rfl, hevent, rfl⟩
      · rcases cancelled_advance.1 hcancelled with hbefore | ⟨node, hevent⟩
        · exact ih.waiting id hbefore c hold
        · cases hevent
          exact hok id node hcalls (pending_of_cancel (Option.some.inj hact)) c hold
      · cases hevent
        rcases cancelled_advance.1 hcancelled with hbefore | ⟨node, hevent⟩
        · exact not_cancelled_of_holds hs (holds_of_joined (Option.some.inj hact)) hbefore
        · cases hevent
    · rcases cancelled_advance.1 hcancelled with hbefore | ⟨node, hevent⟩
      · rcases mem_log_advance.1 hmem with hold | hnew
        · exact ih.told id hbefore c err hold
        obtain ⟨rfl, hevent⟩ := Prod.mk.inj hnew
        cases hevent
        exact ih.waiting id hbefore c hcalls
      · cases hevent
        obtain ⟨req, hpending, rfl⟩ := pending_of_cancel (Option.some.inj hact)
        rcases mem_log_advance.1 hmem with hold | hnew
        · have hdone := (reachable_results hs).received c _ req.id err hold rfl
          rw [((reachable_requests hs).waiting node req hpending).1] at hdone
          cases hdone
        · cases hnew
  · cases c

/-! ## Joining a request that has been completed -/

/-- The worker of a request has completed it but not yet ended it. -/
def Ending (s : QueuePool Fn) (req : Request Fn) : Prop :=
  ∃ t, Dispatched s t req ∧ s.nextOp? t = some (.finish req.node req.id)

/-- A request in the queue has a result while its worker is between `complete` and `finish`. -/
theorem done_iff_ending (hs : Reachable cfg ok s) (h : s.world.Holds node req) :
    s.world.done req.id = none ↔ ¬ Ending s req := by
  constructor
  · rintro hnone ⟨t, hreq, hnext⟩
    obtain ⟨thread, tail, hthread, -, hpast, -, hstage⟩ := hreq.worker hs
    rw [nextOp?_eq hthread] at hnext
    obtain ⟨err, hcompleted⟩ := hstage.of_finish hnext
    have hcompleted : Completed s t req.id err := mem_history.1 hcompleted
    obtain ⟨result, hresult⟩ := (reachable_results hs).completed t req.id err hcompleted
    rw [hnone] at hresult
    cases hresult
  · intro hending
    rcases h.nodeQueue with hactive | hpending
    · by_contra hsome
      obtain ⟨err, herr⟩ := Option.ne_none_iff_exists'.1 hsome
      obtain ⟨t, thread, hthread, hworks, hreq⟩ := (reachable_workers hs).active node req hactive
      have hinv := reachable_requests hs
      rcases hinv.outcome req.id err herr with hcancelled | ⟨t', req', hreq', hid, hcompleted⟩
      · exact hinv.kept t req hreq hcancelled
      obtain rfl := hinv.once t' t req' req hreq' hreq hid
      rcases (hcompleted.ran hs hreq).2 with hfinish | hnone
      · exact hending ⟨t', hreq, hfinish⟩
      obtain ⟨-, op, hop⟩ := works_iff.1 hworks
      rw [nextOp?_eq hthread, hop] at hnone
      cases hnone
    · exact ((reachable_requests hs).waiting node req hpending).1

/-- No caller asks for the work of an active request that has been completed. -/
def settled (s : QueuePool Fn) : QueueStep Fn → Prop
  | .act c _ => ∀ asked req, s.nextOp? c = some (.enqueue asked) →
      (s.world.nodeQueue asked.node).active = some req →
      HotplugQueue.sameQueueRequest req asked = true → ¬ Ending s req
  | _ => True

theorem joined_cases {q : HotplugQueue Fn} (h : q.enqueue cfg asked = ((req, true), world)) :
    ((q.nodeQueue asked.node).active = some req ∧ HotplugQueue.sameQueueRequest req asked = true) ∨
    (Pending q asked.node req ∧ ∀ active, (q.nodeQueue asked.node).active = some active →
      HotplugQueue.sameQueueRequest active asked = false) := by
  have hdup : q.duplicate cfg asked = some req := by
    rcases enqueue_cases cfg q asked with ⟨existing, hdup, hanswer⟩ | ⟨-, _, hanswer⟩
    · rw [h] at hanswer
      obtain ⟨rfl, -⟩ := Prod.mk.inj hanswer
      exact hdup
    · rw [h] at hanswer
      cases hanswer
  unfold HotplugQueue.duplicate at hdup
  split at hdup
  · unfold HotplugQueue.findDuplicateRequest at hdup
    split at hdup
    · rename_i active hactive
      obtain rfl : active = req := Option.some.inj hdup
      exact .inl (Option.filter_eq_some_iff.1 hactive)
    rename_i hnone
    refine .inr ⟨mem_of_find?_eq_some hdup, fun active hactive => ?_⟩
    rw [hactive, Option.filter_eq_none_iff] at hnone
    simpa using hnone active rfl
  · cases hdup

/-- A caller joins a request without a result if and only if its step is settled. -/
theorem open_iff_settled (hs : Reachable cfg ok s) (hcalls : s.nextOp? c = some (.enqueue asked))
    {oracle : Oracle}
    (hact : s.world.enqueue cfg { asked with caller := c } = ((req, true), world)) :
    s.world.done req.id = none ↔ settled s (.act c oracle) := by
  rcases joined_cases hact with ⟨hactive, hsame⟩ | ⟨hpending, hother⟩
  · rw [done_iff_ending hs (holds_of_joined hact)]
    constructor
    · intro hending asked' req' hcalls' hactive' _
      obtain rfl : asked = asked' := by simpa [hcalls] using hcalls'
      obtain rfl : req = req' := Option.mem_unique hactive hactive'
      exact hending
    · intro hsettled
      exact hsettled asked req hcalls hactive hsame
  · refine ⟨fun _ asked' active hcalls' hactive hsame => ?_,
      fun _ => ((reachable_requests hs).waiting _ req hpending).1⟩
    obtain rfl : asked = asked' := by simpa [hcalls] using hcalls'
    have hdifferent := hother active hactive
    rw [show HotplugQueue.sameQueueRequest active { asked with caller := c } =
      HotplugQueue.sameQueueRequest active asked from rfl, hsame] at hdifferent
    cases hdifferent

/-- The entry gives the request its result. -/
def Decides (id : ℕ) (entry : ℕ × Event (Op Fn) Op.Answer) : Prop :=
  (∃ err, entry.2 = ⟨.complete id err, ()⟩) ∨ ∃ node, entry.2 = ⟨.cancel id node, true⟩

/-- Who has joined a request has done so before it had a result. -/
def JoinedBefore (s : QueuePool Fn) : Prop :=
  ∀ before after c asked req, s.log = before ++ (c, ⟨.enqueue asked, (req, true)⟩) :: after →
    ∀ entry ∈ before, ¬ Decides req.id entry

theorem reachable_joinedBefore (hs : Reachable cfg settled s) : JoinedBefore s := by
  have hinit : ∀ world, world = HotplugQueue.new →
      JoinedBefore (Pool.initial world : QueuePool Fn) := by
    intro world _ before after c asked req hlog
    simp [Pool.initial] at hlog
  refine hs.invariant hinit fun s l s' hs ih hok h => ?_
  rcases Machine.step_cases h with ⟨hstart⟩ |
    @⟨t, oracle, thread, op, next, ans, world, hthread, hprog, hact⟩ | @⟨c⟩
  · exact ih
  · intro before after c asked req hlog
    have hlog : s.log ++ [(t, ⟨op, ans⟩)] = before ++ (c, ⟨.enqueue asked, (req, true)⟩) :: after :=
      hlog
    rcases eq_nil_or_concat after with rfl | ⟨init, last, rfl⟩
    · -- The caller joins in this step: what has a result is not joined.
      obtain ⟨rfl, hentry⟩ := append_inj' hlog rfl
      obtain ⟨rfl, hevent⟩ := Prod.mk.inj (singleton_inj.1 hentry)
      cases hevent
      have hcalls : s.nextOp? t = some (.enqueue asked) := by rw [nextOp?_eq hthread, hprog]; rfl
      have hopen := (open_iff_settled hs hcalls (Option.some.inj hact)).2 hok
      rintro ⟨t', event⟩ hmem (⟨err, rfl⟩ | ⟨node, rfl⟩)
      · obtain ⟨result, hresult⟩ := (reachable_results hs).completed t' req.id err hmem
        rw [hopen] at hresult
        cases hresult
      · obtain ⟨result, hresult⟩ := (reachable_results hs).cancelled req.id ⟨t', node, hmem⟩
        rw [hopen] at hresult
        cases hresult
    · rw [concat_eq_append, ← cons_append, ← append_assoc] at hlog
      exact ih before init c asked req (append_inj_left' hlog rfl)
  · cases c

/-- A caller joins only requests without a result, whenever its step is settled and only then; where
all steps are, the result it is told comes from a completion or cancellation after it asked. -/
theorem joins_open_iff_settled (cfg : Config) (s : QueuePool Fn) :
    (Reachable cfg (fun _ _ => True) s → ∀ c oracle s' asked req,
      (manager Fn cfg).step (.act c oracle) s = some s' →
      s'.log = s.log ++ [(c, ⟨.enqueue asked, (req, true)⟩)] →
      (s.world.done req.id = none ↔ settled s (.act c oracle))) ∧
    (Reachable cfg settled s → ∀ before after c asked req event out,
      s.log = before ++ (c, ⟨.enqueue asked, (req, true)⟩) :: after →
      (c, event) ∈ s.log → receives event = some (req.id, out) →
      (∀ entry ∈ before, ¬ Decides req.id entry) ∧
        ((∃ t, (t, ⟨.complete req.id out, ()⟩) ∈ after) ∨
          ∃ c' node, (c', ⟨.cancel req.id node, true⟩) ∈ after)) := by
  constructor
  · intro hs c oracle s' asked req hstep hlog
    obtain _ | @⟨_, _, thread, op, next, ans, world, hthread, hprog, hact⟩ :=
      Machine.step_cases hstep
    have hlast : (c, (⟨op, ans⟩ : Event (Op Fn) Op.Answer)) =
        (c, ⟨.enqueue asked, (req, true)⟩) := by simpa [Pool.advance] using hlog
    cases hlast
    have hcalls : s.nextOp? c = some (.enqueue asked) := by rw [nextOp?_eq hthread, hprog]; rfl
    exact open_iff_settled hs hcalls (Option.some.inj hact)
  · intro hs before after c asked req event out hlog hmem hreceives
    have hbefore := reachable_joinedBefore hs before after c asked req hlog
    -- What decides the request is in the log, but neither before the caller asked nor then.
    have hafter : ∀ entry ∈ s.log, Decides req.id entry → entry ∈ after := by
      intro entry hentry hdecides
      rw [hlog] at hentry
      rcases mem_append.1 hentry with hold | hnew
      · exact (hbefore entry hold hdecides).elim
      rcases mem_cons.1 hnew with rfl | hnew
      · rcases hdecides with ⟨err, h⟩ | ⟨node, h⟩ <;> cases h
      · exact hnew
    refine ⟨hbefore, ?_⟩
    have hdone := (reachable_results hs).received c event req.id out hmem hreceives
    rcases (reachable_requests hs).outcome req.id out hdone with ⟨c', node, hcancel⟩ |
      ⟨t, -, -, -, hcompleted⟩
    · exact .inr ⟨c', node, hafter _ hcancel (.inr ⟨node, rfl⟩)⟩
    · exact .inl ⟨t, hafter _ hcompleted (.inl ⟨out, rfl⟩)⟩

/-! ### Two calls for one volume -/

/-- A call that attaches a volume to a node. -/
def attachCall (volume : String) (priority : Priority) : Kind Unit :=
  .run { node := "n1", operation := .attach, volume, priority, fn := () }

/-- The request of such a call, made at time 0. -/
def attachRequest (id : ℕ) (volume : String) (priority : Priority) (waitLimit : Int) (caller : ℕ) :
    Request Unit where
  id
  node := "n1"
  operation := .attach
  volume
  priority
  enqueuedAt := 0
  waitLimit
  caller
  fn := ()

/-- Channels are read once they are closed, the validator agrees and functions succeed in time. -/
def smooth : Oracle where
  now := 0
  signal := .done none
  validation := .valid
  result := none
  expired := false

/-- The calls are started, and each enqueues its request. -/
def enqueueing (calls : List (Kind Unit)) : List (QueueStep Unit) :=
  calls.zipIdx.flatMap fun entry => .start entry.1 :: replicate 3 (.act entry.2 smooth)

/-- Two calls are for the same work. The worker executes the request, and the second caller is told
of it. -/
def sharedRun : List (QueueStep Unit) :=
  enqueueing [attachCall "v" .normal, attachCall "v" .normal] ++ [.start (.worker "n1")] ++
    replicate 8 (.act 2 smooth) ++ [.act 1 smooth]

/-- The second caller asks after the worker has completed the first caller's request and before it
has ended it, and is told that result. -/
theorem joined_after_completion :
    ∃ (s : QueuePool Unit) (before after : List (ℕ × Event (Op Unit) Op.Answer)),
      Reachable defaultConfig (fun _ _ => True) s ∧ s.log = before ++ after ∧
      (1, ⟨.complete 1 none, ()⟩) ∈ before ∧
      (∃ asked req, (2, ⟨.enqueue asked, (req, true)⟩) ∈ after ∧ req.id = 1) ∧
      s.result? 2 = some none := by
  have hrun : ∃ s ∈ (manager Unit defaultConfig).run (fun _ _ => true)
      (enqueueing [attachCall "v" .normal] ++ [.start (.worker "n1")] ++
        replicate 7 (.act 1 smooth) ++ [.start (attachCall "v" .normal)] ++
        replicate 4 (.act 2 smooth)) (Pool.initial HotplugQueue.new),
        (1, ⟨.complete 1 none, ()⟩) ∈ s.log.take 10 ∧
        (2, ⟨.enqueue (attachRequest 2 "v" .normal 0 0),
          (attachRequest 1 "v" .normal 180000000000 0, true)⟩) ∈ s.log.drop 10 ∧
        s.result? 2 = some none := by
    decide +kernel
  obtain ⟨s, hs, hcompleted, hjoined, hresult⟩ := reachable_of_run (fun _ _ _ => trivial) hrun
  exact ⟨s, s.log.take 10, s.log.drop 10, hs, (take_append_drop 10 s.log).symm, hcompleted,
    ⟨_, _, hjoined, rfl⟩, hresult⟩

/-- A call is made only while no worker is about to end its request. -/
def noneEnding (s : QueuePool Fn) : QueueStep Fn → Bool
  | .act c _ =>
    match s.nextOp? c with
    | some (.enqueue _) => s.threads.all fun thread =>
      match thread.prog.nextOp? with
      | some (.finish _ _) => false
      | _ => true
    | _ => true
  | _ => true

theorem settled_of_noneEnding {l : QueueStep Fn} (h : noneEnding s l = true) : settled s l := by
  cases l with
  | act c oracle =>
    rintro asked req hcalls - - ⟨t, -, hnext⟩
    simp only [noneEnding, hcalls] at h
    obtain ⟨thread, hthread, hfinish⟩ := Option.bind_eq_some_iff.1 hnext
    have := all_eq_true.1 h thread (mem_of_getElem? hthread)
    simp [hfinish] at this
  | start _ => trivial
  | change _ => trivial

/-- The second caller asks before the worker starts. -/
theorem joined_before_completion :
    ∃ (s : QueuePool Unit) (before after : List (ℕ × Event (Op Unit) Op.Answer)),
      Reachable defaultConfig settled s ∧ s.result? 1 = some none ∧
      (∃ asked req, s.log = before ++ (1, ⟨.enqueue asked, (req, true)⟩) :: after ∧
        ((∃ t, (t, ⟨.complete req.id none, ()⟩) ∈ after) ∨
          ∃ c' node, (c', ⟨.cancel req.id node, true⟩) ∈ after)) := by
  have hrun : ∃ s ∈ (manager Unit defaultConfig).run noneEnding sharedRun
      (Pool.initial HotplugQueue.new),
        (1, ⟨.enqueue (attachRequest 2 "v" .normal 0 0),
          (attachRequest 1 "v" .normal 180000000000 0, true)⟩) ∈ s.log ∧
        (1, ⟨.selectDone 1, .done none⟩) ∈ s.log ∧ s.result? 1 = some none := by
    decide +kernel
  obtain ⟨s, hs, hjoined, htold, hresult⟩ :=
    reachable_of_run (fun _ _ => settled_of_noneEnding) hrun
  obtain ⟨before, after, hlog⟩ := append_of_mem hjoined
  have hserved := (joins_open_iff_settled defaultConfig s).2 hs before after 1 _ _ _ none hlog htold
    rfl
  exact ⟨s, before, after, hs, hresult, _, _, hlog, hserved.2⟩

/-! ## Shared requests -/

/-- Callers whose requests have the same number share a request for the work they have asked for.
They are told the same result: that of the request's execution, unless the request was cancelled. -/
def RequestsShared (cfg : Config) (s : QueuePool Fn) : Prop :=
  ∀ c c' asked asked' ans ans', (c, ⟨.enqueue asked, ans⟩) ∈ s.log →
    (c', ⟨.enqueue asked', ans'⟩) ∈ s.log → ans.1.id = ans'.1.id →
    ans.1 = ans'.1 ∧ sameQueueRequest asked asked' = true ∧
      ∀ told ∈ s.log, ∀ told' ∈ s.log, ∀ err err', receives told.2 = some (ans.1.id, err) →
        receives told'.2 = some (ans.1.id, err') →
        err = err' ∧ (Cancelled s ans.1.id ∨ ∃ t, Ran cfg s t ans.1 err)

theorem reachable_requestsShared (hs : Reachable cfg ok s) : RequestsShared cfg s := by
  intro c c' asked asked' ans ans' h h' hid
  obtain ⟨_, henqueued⟩ := enqueued_of_answer hs h
  obtain ⟨_, henqueued'⟩ := enqueued_of_answer hs h'
  have hreq : ans.1 = ans'.1 := (henqueued.unique hs henqueued' hid).2
  have hwork := (enqueue_answer hs h).1
  have hwork' := (enqueue_answer hs h').1
  rw [← hreq] at hwork'
  refine ⟨hreq, by simp_all [sameQueueRequest], ?_⟩
  intro told hmem told' hmem' err err' htold htold'
  have hdone := (reachable_results hs).received _ _ _ _ hmem htold
  have hdone' := (reachable_results hs).received _ _ _ _ hmem' htold'
  refine ⟨Option.some.inj (hdone.symm.trans hdone'), or_iff_not_imp_left.2 fun hkept => ?_⟩
  obtain ⟨t, hran, -⟩ := ran_of_done hs henqueued hdone hkept
  exact ⟨t, hran⟩

theorem joined_requestsShared : ∃ s : QueuePool Unit,
    (1, ⟨.enqueue (attachRequest 2 "v" .normal 0 0),
      (attachRequest 1 "v" .normal 180000000000 0, true)⟩) ∈ s.log ∧
      s.result? 1 = some none ∧ RequestsShared defaultConfig s := by
  have hrun : ∃ s ∈ (manager Unit defaultConfig).run (fun _ _ => true) sharedRun
      (Pool.initial HotplugQueue.new),
        (1, ⟨.enqueue (attachRequest 2 "v" .normal 0 0),
          (attachRequest 1 "v" .normal 180000000000 0, true)⟩) ∈ s.log ∧
        s.result? 1 = some none := by
    decide +kernel
  obtain ⟨s, hs, hjoined, hresult⟩ := reachable_of_run (fun _ _ _ => trivial) hrun
  exact ⟨s, hjoined, hresult, reachable_requestsShared hs⟩

end OpenNebulaCSI.Queue
