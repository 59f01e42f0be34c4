import OpenNebulaCSI.Controller.Handlers

/-!
# The hotplug queue with arbitrary functions

`HotplugQueueManager` by itself: any number of `Run` calls with functions of an arbitrary type, and
the workers of the nodes. What a function does, and what the validator says, is up to the outside
world; a function takes time, so its call and its return are two operations.

The programs are those of the controller with the functions left open: filling in what the
controller's functions and its validator do gives back its own programs
(`hotplugQueueRun_eq_interp`, `runNodeQueue_eq_interp`).

The second half says how far a thread has come, by its history: `RunStage` and `WorkerStage` have
one constructor for each point at which a caller or a worker can stand.
-/

namespace OpenNebulaCSI.Queue

open Go Concurrency Controller Program List

inductive Op (Fn : Type) where
  | nextRequestID
  | now
  | enqueue (req : Request Fn)
  /-- The originator's `select` on `started`, `done` and its context. -/
  | selectStarted (id : ℕ)
  /-- A coalesced caller's `select` on `done` and its context. -/
  | selectDone (id : ℕ)
  | awaitDone (id : ℕ)
  | cancel (id : ℕ) (node : String)
  | nextRequest (node : String)
  | closeStarted (id : ℕ)
  | validate (req : Request Fn)
  /-- Call the function of a request. -/
  | call (req : Request Fn)
  | returned (req : Request Fn)
  | contextExpired
  | complete (id : ℕ) (err : Option GoError)
  | finish (node : String) (id : ℕ)
  /-- Call a function that is not queued. -/
  | callDirectly (fn : Fn)
  | returnedDirectly (fn : Fn)
  deriving DecidableEq

variable {Fn : Type}

@[reducible]
def Op.Answer : Op Fn → Type
  | .nextRequestID => ℕ
  | .now => Int
  | .enqueue _ => Request Fn × Bool
  | .selectStarted _ | .selectDone _ => Signal
  | .awaitDone _ | .returned _ | .returnedDirectly _ => Option GoError
  | .cancel _ _ | .contextExpired => Bool
  | .nextRequest _ => Option (Request Fn)
  | .validate _ => HotplugQueueValidation
  | .closeStarted _ | .call _ | .complete _ _ | .finish _ _ | .callDirectly _ => Unit

instance [DecidableEq Fn] : (op : Op Fn) → DecidableEq op.Answer
  | .nextRequestID => inferInstanceAs (DecidableEq ℕ)
  | .now => inferInstanceAs (DecidableEq Int)
  | .enqueue _ => inferInstanceAs (DecidableEq (Request Fn × Bool))
  | .selectStarted _ | .selectDone _ => inferInstanceAs (DecidableEq Signal)
  | .awaitDone _ | .returned _ | .returnedDirectly _ =>
    inferInstanceAs (DecidableEq (Option GoError))
  | .cancel _ _ | .contextExpired => inferInstanceAs (DecidableEq Bool)
  | .nextRequest _ => inferInstanceAs (DecidableEq (Option (Request Fn)))
  | .validate _ => inferInstanceAs (DecidableEq HotplugQueueValidation)
  | .closeStarted _ | .call _ | .complete _ _ | .finish _ _ | .callDirectly _ =>
    inferInstanceAs (DecidableEq Unit)

abbrev Prog (Fn : Type) :=
  Program (Op Fn) Op.Answer

abbrev History (Fn : Type) :=
  List (Event (Op Fn) Op.Answer)

abbrev perform (op : Op Fn) : Prog Fn op.Answer :=
  Program.perform op

/-! ## Callers -/

/-- The arguments of a call of `Run`. -/
structure Call (Fn : Type) where
  node : String
  operation : Operation
  volume : String
  priority : Priority
  fn : Fn

/-- The request of a call; the queue fills in the wait limit and the caller. -/
def Call.request (call : Call Fn) (id : ℕ) (enqueuedAt : Int) : Request Fn :=
  { id, node := call.node, operation := call.operation, volume := call.volume,
    priority := call.priority, enqueuedAt, waitLimit := 0, caller := 0, fn := call.fn }

/-- The error of a caller that has waited for too long. -/
def Call.timeout (call : Call Fn) (req : Request Fn) : GoError :=
  .queueTimeout call.node call.operation call.volume req.waitLimit

/-- `HotplugQueueManager.Run`. -/
def run (call : Call Fn) : Prog Fn (Option GoError) :=
  if call.node = "" then do
    perform (.callDirectly call.fn)
    perform (.returnedDirectly call.fn)
  else do
    let id ← perform .nextRequestID
    let enqueuedAt ← perform .now
    let (req, coalesced) ← perform (.enqueue (call.request id enqueuedAt))
    if coalesced then do
      match ← perform (.selectDone req.id) with
      | .done err => return err
      | _ => return some (call.timeout req)
    else do
      match ← perform (.selectStarted req.id) with
      | .started => perform (.awaitDone req.id)
      | .done err => return err
      | .expired => do
          if ← perform (.cancel req.id call.node) then return some (call.timeout req)
          else perform (.awaitDone req.id)

/-! ## Workers -/

/-- The part of `runRequest` that runs the request's function under the active timeout. -/
def runFunction (cfg : Config) (req : Request Fn) : Prog Fn (Option GoError) := do
  perform (.call req)
  match ← perform (.returned req) with
  | some (.contextDeadline message) =>
    if 0 < cfg.maxActive then
      return some (.queueActiveTimeout req.node req.operation req.volume cfg.maxActive)
    else return some (.contextDeadline message)
  | some err => return some err
  | none => do
      if ← perform .contextExpired then
        return some (.queueActiveTimeout req.node req.operation req.volume cfg.maxActive)
      else return none

def runRequest (cfg : Config) (req : Request Fn) : Prog Fn (Option GoError) :=
  if cfg.validatorInstalled then do
    match ← perform (.validate req) with
    | .completed _ _ => return none
    | .stale reason message =>
      return some (.queueStale req.node req.operation req.volume reason message)
    | .paused reason message =>
      return some (.queuePaused req.node req.operation req.volume reason message)
    | .valid => runFunction cfg req
  else runFunction cfg req

/-- One iteration of `runNodeQueue`; `finish` lets the next one start. -/
def runNodeQueue (cfg : Config) (node : String) : Prog Fn Unit := do
  match ← perform (.nextRequest node) with
  | none => return ()
  | some req => do
      perform (.closeStarted req.id)
      let err ← runRequest cfg req
      perform (.complete req.id err)
      perform (.finish node req.id)

/-! ## The controller's programs -/

/-- What the controller does for an operation of the queue. -/
def meaning (cfg : Config) : (op : Op Closure) → Controller.Prog op.Answer
  | .nextRequestID => Controller.perform .nextRequestID
  | .now => query .now
  | .enqueue req => Controller.perform (.enqueue req)
  | .selectStarted id => Controller.perform (.selectStarted id)
  | .selectDone id => Controller.perform (.selectDone id)
  | .awaitDone id => Controller.perform (.awaitDone id)
  | .cancel id node => Controller.perform (.cancel id node)
  | .nextRequest node => Controller.perform (.nextRequest node)
  | .closeStarted id => Controller.perform (.closeStarted id)
  | .validate req => validateHotplugQueueRequest cfg req.node req.operation req.volume
  | .call _ => return ()
  | .returned req => req.fn.body cfg
  | .contextExpired => query .contextExpired
  | .complete id err => Controller.perform (.complete id err)
  | .finish node id => Controller.perform (.finish node id)
  | .callDirectly _ => return ()
  | .returnedDirectly fn => fn.body cfg

theorem hotplugQueueRun_eq_interp (cfg : Config) (node : String) (operation : Operation)
    (volume : String) (priority : Priority) (fn : Closure) :
    hotplugQueueRun cfg node operation volume priority fn =
      (run ⟨node, operation, volume, priority, fn⟩).interp (meaning cfg) := by
  have hawait : ∀ id, Controller.perform (.awaitDone id) =
      (perform (.awaitDone id)).interp (meaning cfg) :=
    fun id => (interp_perform (meaning cfg) (.awaitDone id)).symm
  unfold hotplugQueueRun run
  split
  · simp only [interp_bind, interp_perform]
    rfl
  simp only [interp_bind, interp_perform]
  refine congrArg _ (funext fun id => ?_)
  refine congrArg _ (funext fun enqueuedAt => ?_)
  refine congrArg _ (funext fun answer => ?_)
  obtain ⟨req, coalesced⟩ := answer
  cases coalesced with
  | true =>
    simp only [interp_bind, interp_perform, if_true]
    refine congrArg _ (funext fun signal => ?_)
    cases signal <;> rfl
  | false =>
    simp only [Bool.false_eq_true, if_false, interp_bind, interp_perform]
    refine congrArg _ (funext fun signal => ?_)
    cases signal with
    | started => exact hawait req.id
    | done err => rfl
    | expired => ?_
    simp only [interp_bind, interp_perform]
    refine congrArg _ (funext fun cancelled => ?_)
    cases cancelled with
    | true => rfl
    | false => exact hawait req.id

theorem runFunction_eq_interp (cfg : Config) (req : Request Closure) :
    Controller.runFunction cfg req = (runFunction cfg req).interp (meaning cfg) := by
  unfold Controller.runFunction runFunction
  simp only [interp_bind, interp_perform]
  refine congrArg _ (funext fun err => ?_)
  cases err with
  | none =>
    simp only [interp_bind, interp_perform]
    refine congrArg _ (funext fun expired => ?_)
    cases expired <;> rfl
  | some err =>
    cases err with
    | contextDeadline message =>
      simp only
      split <;> rfl
    | _ => rfl

theorem runNodeQueue_eq_interp (cfg : Config) (node : String) :
    Controller.runNodeQueue cfg node = (runNodeQueue cfg node).interp (meaning cfg) := by
  unfold Controller.runNodeQueue runNodeQueue
  simp only [interp_bind, interp_perform]
  refine congrArg _ (funext fun taken => ?_)
  cases taken with
  | none => rfl
  | some req => ?_
  have hrun : Controller.runRequest cfg req = (runRequest cfg req).interp (meaning cfg) := by
    unfold Controller.runRequest runRequest
    split
    · simp only [interp_bind, interp_perform]
      refine congrArg _ (funext fun validation => ?_)
      cases validation with
      | valid => exact runFunction_eq_interp cfg req
      | _ => rfl
    · exact runFunction_eq_interp cfg req
  simp only [interp_bind, interp_perform, ← hrun]
  rfl

/-! ## The machine -/

/-- What a goroutine was started for. -/
inductive Kind (Fn : Type) where
  | run (call : Call Fn)
  | worker (node : String)

/-- A worker returns nothing. -/
def Kind.program (cfg : Config) : Kind Fn → Prog Fn (Option GoError)
  | .run args => Queue.run args
  | .worker node => do
      runNodeQueue cfg node
      return none

/-- What the outside world decides about one operation: the time, which ready channel of a `select`
is taken, what the validator says, how a function returns and whether its context has expired. -/
structure Oracle where
  now : Int
  signal : Signal
  validation : HotplugQueueValidation
  result : Option GoError
  expired : Bool

/-- Calls may be made at any time; a worker iteration runs when the queue has asked for it. -/
def start (cfg : Config) (q : HotplugQueue Fn) :
    Kind Fn → Option (Prog Fn (Option GoError) × HotplugQueue Fn)
  | .worker node =>
    if node ∈ q.starting then
      some (Kind.program cfg (.worker node), { q with starting := q.starting.erase node })
    else none
  | .run args => some (Kind.program cfg (.run args), q)

/-- How the queue answers an operation of thread `t`. -/
def act (cfg : Config) (oracle : Oracle) (q : HotplugQueue Fn) (t : ℕ) :
    (op : Op Fn) → Option (op.Answer × HotplugQueue Fn)
  | .nextRequestID => some (q.seq + 1, { q with seq := q.seq + 1 })
  | .now => some (oracle.now, q)
  | .enqueue req => some (q.enqueue cfg { req with caller := t })
  | .selectStarted id =>
    match oracle.signal with
    | .expired => some (.expired, q)
    | .started => if q.started id then some (.started, q) else none
    | .done _ => (q.done id).map fun err => (.done err, q)
  | .selectDone id =>
    match oracle.signal with
    | .expired => some (.expired, q)
    | _ => (q.done id).map fun err => (.done err, q)
  | .awaitDone id => (q.done id).map fun err => (err, q)
  | .cancel id node => some (q.cancel id node)
  | .nextRequest node => some (q.next cfg node oracle.now)
  | .closeStarted id => some ((), q.closeStarted id)
  | .validate _ => some (oracle.validation, q)
  | .call _ | .callDirectly _ => some ((), q)
  | .returned _ | .returnedDirectly _ => some (oracle.result, q)
  | .contextExpired => some (oracle.expired, q)
  | .complete id err => some ((), q.complete id err)
  | .finish node id => some ((), q.finish node id)

/-- Any number of calls and workers over one queue. -/
def manager (Fn : Type) (cfg : Config) :
    Machine (Op Fn) Op.Answer (Kind Fn) (Option GoError) (HotplugQueue Fn) Oracle Empty where
  start := start cfg
  act := act cfg
  change := nofun

abbrev QueuePool (Fn : Type) :=
  Pool (Op Fn) Op.Answer (Kind Fn) (Option GoError) (HotplugQueue Fn)

abbrev QueueStep (Fn : Type) :=
  Label (Kind Fn) Oracle Empty

abbrev QueueThread (Fn : Type) :=
  Thread (Op Fn) Op.Answer (Kind Fn) (Option GoError)

/-- The states of the queue that runs lead to from an empty queue, when each step satisfies `ok`. -/
abbrev Reachable (cfg : Config) (ok : QueuePool Fn → QueueStep Fn → Prop) : QueuePool Fn → Prop :=
  (manager Fn cfg).Reachable (· = HotplugQueue.new) ok

variable {cfg : Config}

theorem reachable_of_run {ok : QueuePool Fn → QueueStep Fn → Prop}
    {check : QueuePool Fn → QueueStep Fn → Bool} (hcheck : ∀ s l, check s l = true → ok s l)
    {ls : List (QueueStep Fn)} {property : QueuePool Fn → Prop}
    (hrun : ∃ s ∈ (manager Fn cfg).run check ls (Pool.initial HotplugQueue.new), property s) :
    ∃ s, Reachable cfg ok s ∧ property s := by
  have hnew : Reachable cfg ok (Pool.initial HotplugQueue.new) := .initial rfl
  obtain ⟨s, hs, hproperty⟩ := hrun
  exact ⟨s, hnew.run hcheck hs, hproperty⟩

theorem start_program {q q' : HotplugQueue Fn} {kind : Kind Fn} {prog : Prog Fn (Option GoError)}
    (h : (manager Fn cfg).start q kind = some (prog, q')) : prog = kind.program cfg := by
  cases kind with
  | run call =>
    cases h
    rfl
  | worker node => ?_
  simp only [manager, start] at h
  split at h <;> cases h
  rfl

theorem start_world {q q' : HotplugQueue Fn} {kind : Kind Fn} {prog : Prog Fn (Option GoError)}
    (h : (manager Fn cfg).start q kind = some (prog, q')) :
    ∃ starting, q' = { q with starting } := by
  cases kind with
  | run call =>
    cases h
    exact ⟨q.starting, rfl⟩
  | worker node => ?_
  simp only [manager, start] at h
  split at h <;> cases h
  exact ⟨_, rfl⟩

/-- The operations that change the queues of the nodes or a result. -/
def Op.changes : Op Fn → Bool
  | .enqueue _ | .cancel _ _ | .nextRequest _ | .complete _ _ | .finish _ _ => true
  | _ => false

section Frame

variable {oracle : Oracle} {q q' : HotplugQueue Fn} {t : ℕ} {op : Op Fn} {ans : op.Answer}

theorem act_frame (hact : act cfg oracle q t op = some (ans, q')) (hop : op.changes = false) :
    q'.nodes = q.nodes ∧ q'.starting = q.starting ∧ q'.done = q.done := by
  cases op with
  | enqueue _ | cancel _ _ | nextRequest _ | complete _ _ | finish _ _ => cases hop
  | selectStarted id =>
    simp only [act] at hact
    split at hact
    · cases hact
      exact ⟨rfl, rfl, rfl⟩
    · split at hact <;> cases hact
      exact ⟨rfl, rfl, rfl⟩
    obtain ⟨_, _, hresult⟩ := Option.map_eq_some_iff.1 hact
    cases hresult
    exact ⟨rfl, rfl, rfl⟩
  | selectDone id =>
    simp only [act] at hact
    split at hact
    · cases hact
      exact ⟨rfl, rfl, rfl⟩
    obtain ⟨_, _, hresult⟩ := Option.map_eq_some_iff.1 hact
    cases hresult
    exact ⟨rfl, rfl, rfl⟩
  | awaitDone id =>
    obtain ⟨_, _, hresult⟩ := Option.map_eq_some_iff.1 hact
    cases hresult
    exact ⟨rfl, rfl, rfl⟩
  | _ =>
    cases hact
    exact ⟨rfl, rfl, rfl⟩

theorem act_seq (hact : act cfg oracle q t op = some (ans, q')) (hop : op ≠ .nextRequestID) :
    q'.seq = q.seq := by
  cases op with
  | nextRequestID => exact (hop rfl).elim
  | enqueue req =>
    obtain rfl : (q.enqueue cfg { req with caller := t }).2 = q' :=
      congrArg Prod.snd (Option.some.inj hact)
    exact HotplugQueue.enqueue_seq
  | cancel id node =>
    obtain rfl : (q.cancel id node).2 = q' := congrArg Prod.snd (Option.some.inj hact)
    exact HotplugQueue.cancel_seq
  | nextRequest node =>
    obtain rfl : (q.next cfg node oracle.now).2 = q' := congrArg Prod.snd (Option.some.inj hact)
    exact HotplugQueue.next_seq
  | complete id err =>
    cases hact
    exact HotplugQueue.complete_seq
  | selectStarted id =>
    simp only [act] at hact
    split at hact
    · cases hact
      rfl
    · split at hact <;> cases hact
      rfl
    obtain ⟨_, _, hresult⟩ := Option.map_eq_some_iff.1 hact
    cases hresult
    rfl
  | selectDone id =>
    simp only [act] at hact
    split at hact
    · cases hact
      rfl
    obtain ⟨_, _, hresult⟩ := Option.map_eq_some_iff.1 hact
    cases hresult
    rfl
  | awaitDone id =>
    obtain ⟨_, _, hresult⟩ := Option.map_eq_some_iff.1 hact
    cases hresult
    rfl
  | _ =>
    cases hact
    rfl

end Frame

/-! ## How far a caller has come -/

/-- The history of a caller that has been answered by `enqueue`. -/
def Call.enqueued (call : Call Fn) (id : ℕ) (enqueuedAt : Int) (req : Request Fn)
    (coalesced : Bool) : History Fn :=
  [⟨.nextRequestID, id⟩, ⟨.now, enqueuedAt⟩,
    ⟨.enqueue (call.request id enqueuedAt), (req, coalesced)⟩]

/-- The points at which a caller can stand, with its history and the rest of its program. -/
inductive RunStage (call : Call Fn) : History Fn → Prog Fn (Option GoError) → Prop
  | direct {rest} : call.node = "" → rest.nextOp? = some (.callDirectly call.fn) →
      RunStage call [] rest
  | inside {rest} : call.node = "" → rest.nextOp? = some (.returnedDirectly call.fn) →
      RunStage call [⟨.callDirectly call.fn, ()⟩] rest
  | back {err} : call.node = "" →
      RunStage call [⟨.callDirectly call.fn, ()⟩, ⟨.returnedDirectly call.fn, err⟩] (.ret err)
  | new {rest} : call.node ≠ "" → rest.nextOp? = some .nextRequestID → RunStage call [] rest
  | issued {rest id} : rest.nextOp? = some .now → RunStage call [⟨.nextRequestID, id⟩] rest
  | ready {rest id enqueuedAt} : rest.nextOp? = some (.enqueue (call.request id enqueuedAt)) →
      RunStage call [⟨.nextRequestID, id⟩, ⟨.now, enqueuedAt⟩] rest
  | joined {rest id enqueuedAt req} : rest.nextOp? = some (.selectDone req.id) →
      RunStage call (call.enqueued id enqueuedAt req true) rest
  | answered {id enqueuedAt req err} :
      RunStage call (call.enqueued id enqueuedAt req true ++ [⟨.selectDone req.id, .done err⟩])
        (.ret err)
  | gaveUp {id enqueuedAt req signal} : (∀ err, signal ≠ .done err) →
      RunStage call (call.enqueued id enqueuedAt req true ++ [⟨.selectDone req.id, signal⟩])
        (.ret (some (call.timeout req)))
  | waiting {rest id enqueuedAt req} : rest.nextOp? = some (.selectStarted req.id) →
      RunStage call (call.enqueued id enqueuedAt req false) rest
  | started {rest id enqueuedAt req} : rest.nextOp? = some (.awaitDone req.id) →
      RunStage call (call.enqueued id enqueuedAt req false ++
        [⟨.selectStarted req.id, .started⟩]) rest
  | done {id enqueuedAt req err} :
      RunStage call (call.enqueued id enqueuedAt req false ++
        [⟨.selectStarted req.id, .done err⟩]) (.ret err)
  | expired {rest id enqueuedAt req} : rest.nextOp? = some (.cancel req.id call.node) →
      RunStage call (call.enqueued id enqueuedAt req false ++
        [⟨.selectStarted req.id, .expired⟩]) rest
  | cancelled {id enqueuedAt req} :
      RunStage call (call.enqueued id enqueuedAt req false ++
        [⟨.selectStarted req.id, .expired⟩, ⟨.cancel req.id call.node, true⟩])
        (.ret (some (call.timeout req)))
  | late {rest id enqueuedAt req} : rest.nextOp? = some (.awaitDone req.id) →
      RunStage call (call.enqueued id enqueuedAt req false ++
        [⟨.selectStarted req.id, .expired⟩, ⟨.cancel req.id call.node, false⟩]) rest
  | startedDone {id enqueuedAt req err} :
      RunStage call (call.enqueued id enqueuedAt req false ++
        [⟨.selectStarted req.id, .started⟩, ⟨.awaitDone req.id, err⟩]) (.ret err)
  | lateDone {id enqueuedAt req err} :
      RunStage call (call.enqueued id enqueuedAt req false ++
        [⟨.selectStarted req.id, .expired⟩, ⟨.cancel req.id call.node, false⟩,
          ⟨.awaitDone req.id, err⟩]) (.ret err)

variable {past : History Fn}

theorem follows_perform {op : Op Fn} {rest : Prog Fn op.Answer}
    (h : (perform op).Follows past rest) :
    (past = [] ∧ rest.nextOp? = some op) ∨ ∃ ans, past = [⟨op, ans⟩] ∧ rest = .ret ans := by
  rcases follows_call.1 h with ⟨rfl, rfl⟩ | ⟨ans, later, rfl, hlater⟩
  · exact .inl ⟨rfl, rfl⟩
  · obtain ⟨rfl, rfl⟩ := follows_ret.1 hlater
    exact .inr ⟨ans, rfl, rfl⟩

section Stages

variable {rest : Prog Fn (Option GoError)}

theorem runStage_of_follows {call : Call Fn} (h : (run call).Follows past rest) :
    RunStage call past rest := by
  unfold run at h
  split at h
  · rename_i hnode
    rcases follows_call.1 h with ⟨rfl, rfl⟩ | ⟨_, later, rfl, hcalled⟩
    · exact .direct hnode rfl
    rcases follows_perform hcalled with ⟨rfl, hrest⟩ | ⟨err, rfl, rfl⟩
    · exact .inside hnode hrest
    · exact .back hnode
  · rename_i hnode
    rcases follows_call.1 h with ⟨rfl, rfl⟩ | ⟨id, later, rfl, hissued⟩
    · exact .new hnode rfl
    rcases follows_call.1 hissued with ⟨rfl, rfl⟩ | ⟨enqueuedAt, later, rfl, hready⟩
    · exact .issued rfl
    rcases follows_call.1 hready with ⟨rfl, rfl⟩ | ⟨⟨req, coalesced⟩, later, rfl, henqueued⟩
    · exact .ready rfl
    cases coalesced with
    | true =>
      rcases follows_call.1 henqueued with ⟨rfl, rfl⟩ | ⟨signal, later, rfl, hsignal⟩
      · exact .joined rfl
      cases signal with
      | done err =>
        obtain ⟨rfl, rfl⟩ := follows_ret.1 hsignal
        exact .answered
      | started | expired =>
        obtain ⟨rfl, rfl⟩ := follows_ret.1 hsignal
        exact .gaveUp nofun
    | false =>
      rcases follows_call.1 henqueued with ⟨rfl, rfl⟩ | ⟨signal, later, rfl, hsignal⟩
      · exact .waiting rfl
      cases signal with
      | started =>
        rcases follows_perform hsignal with ⟨rfl, hrest⟩ | ⟨err, rfl, rfl⟩
        · exact .started hrest
        · exact .startedDone
      | done err =>
        obtain ⟨rfl, rfl⟩ := follows_ret.1 hsignal
        exact .done
      | expired =>
        rcases follows_call.1 hsignal with ⟨rfl, rfl⟩ | ⟨cancelled, later, rfl, hcancel⟩
        · exact .expired rfl
        cases cancelled with
        | true =>
          obtain ⟨rfl, rfl⟩ := follows_ret.1 hcancel
          exact .cancelled
        | false => ?_
        rcases follows_perform hcancel with ⟨rfl, hrest⟩ | ⟨err, rfl, rfl⟩
        · exact .late hrest
        · exact .lateDone

theorem nextOp_allowed {op : Op Fn} {allowed : Op Fn → Prop} (hrest : rest.nextOp? = some op)
    (hallowed : allowed op) : ∀ op, rest.nextOp? = some op → allowed op := by
  intro op' hrest'
  obtain rfl := Option.mem_unique hrest hrest'
  exact hallowed

/-- The operations with which a caller waits for a request. -/
def Op.Waits (call : Call Fn) (req : Request Fn) (coalesced : Bool) : Op Fn → Prop
  | .selectDone id => coalesced = true ∧ id = req.id
  | .selectStarted id | .awaitDone id => coalesced = false ∧ id = req.id
  | .cancel id node => coalesced = false ∧ id = req.id ∧ node = call.node
  | _ => False

/-- The operations of a call that is not queued. -/
def Op.Direct (call : Call Fn) : Op Fn → Prop
  | .callDirectly fn | .returnedDirectly fn => fn = call.fn
  | _ => False

/-- A caller runs its function itself, is about to enqueue its request, or has enqueued it and
waits. -/
theorem RunStage.shape {call : Call Fn} (h : RunStage call past rest) :
    (call.node = "" ∧ (∀ event ∈ past, event.op.Direct call) ∧
      ∀ op, rest.nextOp? = some op → op.Direct call) ∨
    (past = [] ∧ rest.nextOp? = some .nextRequestID) ∨
    (∃ id, past = [⟨.nextRequestID, id⟩] ∧ rest.nextOp? = some .now) ∨
    (∃ id enqueuedAt, past = [⟨.nextRequestID, id⟩, ⟨.now, enqueuedAt⟩] ∧
      rest.nextOp? = some (.enqueue (call.request id enqueuedAt))) ∨
    ∃ id enqueuedAt req coalesced tail,
      past = call.enqueued id enqueuedAt req coalesced ++ tail ∧
      (∀ event ∈ tail, event.op.Waits call req coalesced) ∧
      ∀ op, rest.nextOp? = some op → op.Waits call req coalesced := by
  have hret : ∀ {value : Option GoError} {allowed : Op Fn → Prop} (op : Op Fn),
      (Program.ret value : Prog Fn (Option GoError)).nextOp? = some op → allowed op := nofun
  cases h with
  | direct hnode hrest => exact .inl ⟨hnode, by simp, nextOp_allowed hrest rfl⟩
  | inside hnode hrest => exact .inl ⟨hnode, by simp [Op.Direct], nextOp_allowed hrest rfl⟩
  | back hnode => exact .inl ⟨hnode, by simp [Op.Direct], hret⟩
  | new hnode hrest => exact .inr (.inl ⟨rfl, hrest⟩)
  | issued hrest => exact .inr (.inr (.inl ⟨_, rfl, hrest⟩))
  | ready hrest => exact .inr (.inr (.inr (.inl ⟨_, _, rfl, hrest⟩)))
  | joined hrest =>
    exact .inr (.inr (.inr (.inr ⟨_, _, _, true, [], (append_nil _).symm, by simp,
      nextOp_allowed hrest ⟨rfl, rfl⟩⟩)))
  | answered | gaveUp _ =>
    exact .inr (.inr (.inr (.inr ⟨_, _, _, true, _, rfl, by simp [Op.Waits], hret⟩)))
  | waiting hrest =>
    exact .inr (.inr (.inr (.inr ⟨_, _, _, false, [], (append_nil _).symm, by simp,
      nextOp_allowed hrest ⟨rfl, rfl⟩⟩)))
  | started hrest | late hrest =>
    exact .inr (.inr (.inr (.inr ⟨_, _, _, false, _, rfl, by simp [Op.Waits],
      nextOp_allowed hrest ⟨rfl, rfl⟩⟩)))
  | expired hrest =>
    exact .inr (.inr (.inr (.inr ⟨_, _, _, false, _, rfl, by simp [Op.Waits],
      nextOp_allowed hrest ⟨rfl, rfl, rfl⟩⟩)))
  | done | cancelled | startedDone | lateDone =>
    exact .inr (.inr (.inr (.inr ⟨_, _, _, false, _, rfl, by simp [Op.Waits], hret⟩)))

/-! ## How far a worker has come -/

/-- The operations with which a worker serves a request. -/
def Op.Serves (req : Request Fn) : Op Fn → Prop
  | .validate other | .call other | .returned other => other = req
  | .contextExpired => True
  | _ => False

theorem runFunction_serves (cfg : Config) (req : Request Fn) :
    (runFunction cfg req).Only (Op.Serves req) := by
  refine Only.perform rfl fun _ => Only.perform rfl fun err => ?_
  cases err with
  | none =>
    refine Only.perform trivial fun expired => ?_
    cases expired <;> exact only_pure
  | some err => ?_
  cases err with
  | contextDeadline message =>
    dsimp only
    split <;> exact only_pure
  | _ => exact only_pure

theorem runRequest_serves (cfg : Config) (req : Request Fn) :
    (runRequest cfg req).Only (Op.Serves req) := by
  unfold runRequest
  split
  · refine Only.perform rfl fun validation => ?_
    cases validation with
    | valid => exact runFunction_serves cfg req
    | _ => exact only_pure
  · exact runFunction_serves cfg req

theorem runFunction_call_first {req other : Request Fn} {trace : History Fn}
    (h : (runFunction cfg req).Follows trace rest) (hrest : rest.nextOp? = some (.call other)) :
    trace = [] := by
  rcases follows_call.1 h with ⟨rfl, -⟩ | ⟨_, later, rfl, hcalled⟩
  · rfl
  rcases follows_call.1 hcalled with ⟨-, rfl⟩ | ⟨err, later, rfl, hreturned⟩
  · cases hrest
  exfalso
  have hret : ∀ value,
      (Program.ret value : Prog Fn (Option GoError)).Follows later rest → False := by
    intro value hvalue
    obtain ⟨-, rfl⟩ := follows_ret.1 hvalue
    cases hrest
  cases err with
  | none =>
    rcases follows_call.1 hreturned with ⟨-, rfl⟩ | ⟨expired, last, rfl, hexpired⟩
    · cases hrest
    cases expired <;>
    · obtain ⟨-, rfl⟩ := follows_ret.1 hexpired
      cases hrest
  | some err =>
    cases err with
    | contextDeadline message =>
      dsimp only [Program.bind] at hreturned
      split at hreturned <;> exact hret _ hreturned
    | _ => exact hret _ hreturned

theorem runRequest_call_once {req other : Request Fn} {trace : History Fn}
    (h : (runRequest cfg req).Follows trace rest) (hrest : rest.nextOp? = some (.call other)) :
    ∀ event ∈ trace, ∀ called, event.op ≠ .call called := by
  unfold runRequest at h
  split at h
  · rcases follows_call.1 h with ⟨rfl, -⟩ | ⟨validation, later, rfl, hvalidated⟩
    · simp
    cases validation with
    | valid =>
      obtain rfl := runFunction_call_first hvalidated hrest
      intro event hmem called hcall
      obtain rfl := mem_singleton.1 hmem
      cases hcall
    | completed _ _ | stale _ _ | paused _ _ =>
      obtain ⟨-, rfl⟩ := follows_ret.1 hvalidated
      cases hrest
  · obtain rfl := runFunction_call_first h hrest
    simp

end Stages

/-- The history of a worker that has begun with a request. -/
def begun (node : String) (req : Request Fn) : History Fn :=
  [⟨.nextRequest node, some req⟩, ⟨.closeStarted req.id, ()⟩]

/-- The points at which a worker can stand, with its history and the rest of its program. -/
inductive WorkerStage (cfg : Config) (node : String) :
    History Fn → Prog Fn (Option GoError) → Prop
  | new {rest} : rest.nextOp? = some (.nextRequest node) → WorkerStage cfg node [] rest
  | idle : WorkerStage cfg node [⟨.nextRequest node, none⟩] (.ret none)
  | taken {rest req} : rest.nextOp? = some (.closeStarted req.id) →
      WorkerStage cfg node [⟨.nextRequest node, some req⟩] rest
  | serving {rest req trace current op} : (runRequest cfg req).Follows trace current →
      current.nextOp? = some op → rest.nextOp? = some op →
      WorkerStage cfg node (begun node req ++ trace) rest
  | served {rest req trace err} : (runRequest cfg req).Returns trace err →
      rest.nextOp? = some (.complete req.id err) →
      WorkerStage cfg node (begun node req ++ trace) rest
  | completed {rest req trace err} : (runRequest cfg req).Returns trace err →
      rest.nextOp? = some (.finish node req.id) →
      WorkerStage cfg node (begun node req ++ trace ++ [⟨.complete req.id err, ()⟩]) rest
  | finished {req trace err} : (runRequest cfg req).Returns trace err →
      WorkerStage cfg node (begun node req ++ trace ++
        [⟨.complete req.id err, ()⟩, ⟨.finish node req.id, ()⟩]) (.ret none)

theorem workerStage_of_follows {node : String} {rest : Prog Fn (Option GoError)}
    (h : (Kind.program cfg (.worker node)).Follows past rest) : WorkerStage cfg node past rest := by
  rcases follows_call.1 h with ⟨rfl, rfl⟩ | ⟨found, later, rfl, hfound⟩
  · exact .new rfl
  cases found with
  | none =>
    obtain ⟨rfl, rfl⟩ := follows_ret.1 hfound
    exact .idle
  | some req => ?_
  rcases follows_call.1 hfound with ⟨rfl, rfl⟩ | ⟨_, later, rfl, hserve⟩
  · exact .taken rfl
  have hserve : ((runRequest cfg req >>= fun err => do
      perform (.complete req.id err)
      perform (.finish node req.id)) >>= fun _ => return none).Follows later rest := hserve
  rw [bind_assoc] at hserve
  rcases hserve.bind with ⟨current, hcurrent, rfl⟩ | ⟨err, trace, after, rfl, hreturns, hafter⟩
  · cases current with
    | ret err => exact .served hcurrent rfl
    | call op next => exact .serving hcurrent rfl rfl
  rcases follows_call.1 hafter with ⟨rfl, rfl⟩ | ⟨_, later, rfl, hcomplete⟩
  · rw [append_nil]
    exact .served hreturns rfl
  rcases follows_call.1 hcomplete with ⟨rfl, rfl⟩ | ⟨_, later, rfl, hfinish⟩
  · exact .completed hreturns rfl
  · obtain ⟨rfl, rfl⟩ := follows_ret.1 hfinish
    exact .finished hreturns

/-- The operations of a worker after it has taken a request. -/
def Op.After (node : String) (req : Request Fn) : Op Fn → Prop
  | .closeStarted id | .complete id _ => id = req.id
  | .finish other id => other = node ∧ id = req.id
  | op => op.Serves req

/-- A worker asks for a request, has found none, or has taken one and works on it. -/
theorem WorkerStage.shape {node : String} {rest : Prog Fn (Option GoError)}
    (h : WorkerStage cfg node past rest) :
    (past = [] ∧ rest.nextOp? = some (.nextRequest node)) ∨
    (past = [⟨.nextRequest node, none⟩] ∧ rest = .ret none) ∨
    ∃ req tail, past = ⟨.nextRequest node, some req⟩ :: tail ∧
      (∀ event ∈ tail, event.op.After node req) ∧
      ∀ op, rest.nextOp? = some op → op.After node req := by
  have hafter : ∀ {req : Request Fn} {op : Op Fn}, op.Serves req → op.After node req := by
    intro req op hserves
    cases op with
    | closeStarted _ | complete _ _ | finish _ _ => cases hserves
    | _ => exact hserves
  have htrace : ∀ {req : Request Fn} {trace : History Fn} {current : Prog Fn (Option GoError)},
      (runRequest cfg req).Follows trace current → ∀ event ∈ trace, event.op.After node req :=
    fun hfollows event hmem => hafter ((hfollows.only (runRequest_serves cfg _)).1 event hmem)
  cases h with
  | new hrest => exact .inl ⟨rfl, hrest⟩
  | idle => exact .inr (.inl ⟨rfl, rfl⟩)
  | taken hrest => exact .inr (.inr ⟨_, [], rfl, by simp, nextOp_allowed hrest rfl⟩)
  | @serving rest req trace current op hfollows hcurrent hrest =>
    refine .inr (.inr ⟨req, _, rfl, ?_, nextOp_allowed hrest ?_⟩)
    · exact forall_mem_cons.2 ⟨rfl, htrace hfollows⟩
    · obtain ⟨next, rfl⟩ := nextOp?_eq_some.1 hcurrent
      exact hafter (only_call.1 (hfollows.only (runRequest_serves cfg req)).2).1
  | served hreturns hrest =>
    exact .inr (.inr ⟨_, _, rfl, forall_mem_cons.2 ⟨rfl, htrace hreturns⟩,
      nextOp_allowed hrest rfl⟩)
  | completed hreturns hrest =>
    refine .inr (.inr ⟨_, _, rfl, forall_mem_cons.2 ⟨rfl, ?_⟩, nextOp_allowed hrest ⟨rfl, rfl⟩⟩)
    exact forall_mem_append.2 ⟨htrace hreturns, by simp [Op.After]⟩
  | finished hreturns =>
    refine .inr (.inr ⟨_, _, rfl, forall_mem_cons.2 ⟨rfl, ?_⟩, nofun⟩)
    exact forall_mem_append.2 ⟨htrace hreturns, by simp [Op.After]⟩

end OpenNebulaCSI.Queue
