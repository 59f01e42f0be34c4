import OpenNebulaCSI.Concurrency.Pool
import OpenNebulaCSI.Quarantine.Managers

/-!
# Lifting the pause of a node

A pause should end only when the node has been seen ready. Four things break this:

* a call clears the node on the strength of a state that it has read before somebody else has paused
  the node (`pause_lifted_after_stale_read`);
* a failed `NodeReady` query counts as ready where the node was ready at its last failure;
* without the Kubernetes gate nobody asks whether the node is schedulable;
* another failure of a paused node may count too few failures and put an expiring state in the place
  of the pause.

The contract of the programs is the induction over their text: whoever clears a node after reading
its pause has been told that it is ready. That the pause which is cleared is the one that has been
read is an invariant of the runs (`FreshReads`).
-/

namespace OpenNebulaCSI.Quarantine

open Go Concurrency Controller

/-! ## The hotplug guard

`HotplugGuard` keeps a state per node. After too many hotplug timeouts on an unhealthy node, or when
OpenNebula reports the node as stuck, the node is **paused** until it is ready again. Requests, a
cleanup loop and the handlers of successful operations read the state of a node, query its health
and clear the state, each of these in a step of its own.

The pure functions are those of `hotplug_guard.go`; the programs are the functions of the controller
that call them.
-/

/-- `opennebula.HotplugCooldownState`. Times are absent where Go has the zero time. -/
structure HotplugCooldownState where
  node : String := ""
  operation : String := ""
  volume : String := ""
  expiresAt : Option Int := none
  timeout : Int := 0
  lastObservedReady : Bool := false
  lastObservedAttached : Bool := false
  failureCount : Int := 0
  reason : String := ""
  pauseUntilReady : Bool := false
  kubernetesReady : Bool := false
  openNebulaReady : Bool := false
  unschedulable : Bool := false
  firstFailureAt : Option Int := none
  lastFailureAt : Option Int := none
  deriving DecidableEq

abbrev GuardStates :=
  Entries HotplugCooldownState

/-- `time.Now().UTC().After(state.ExpiresAt)` for an expiry that is set. -/
def HotplugCooldownState.expired (state : HotplugCooldownState) (now : Int) : Bool :=
  state.expiresAt.any (· < now)

/-- The arguments of `MarkUnhealthyFailure`. -/
structure UnhealthyFailure where
  node : String
  operation : String
  volume : String
  timeout : Int
  attached : Bool
  openNebulaReady : Bool
  kubernetesReady : Bool
  unschedulable : Bool
  threshold : Int
  reason : String
  deriving DecidableEq

namespace HotplugGuard

/-- The state that `MarkUnhealthyFailure` goes on counting from. -/
def series (states : GuardStates) (node : String) (now : Int) : HotplugCooldownState :=
  let state := (states.lookup node).getD {}
  if state.node = "" ∨ (!state.pauseUntilReady && state.expired now) then
    { node, firstFailureAt := some now }
  else state

def markUnhealthyFailure (cooldown : Int) (states : GuardStates) (failure : UnhealthyFailure)
    (now : Int) : HotplugCooldownState × GuardStates :=
  let threshold := if failure.threshold ≤ 0 then 1 else failure.threshold
  let state := series states failure.node now
  let failureCount := state.failureCount + 1
  let paused : Bool := threshold ≤ failureCount
  let state :=
    { state with
      firstFailureAt := if state.firstFailureAt.isNone then some now else state.firstFailureAt
      operation := failure.operation
      volume := failure.volume
      timeout := failure.timeout
      lastObservedAttached := failure.attached
      lastObservedReady := failure.openNebulaReady
      kubernetesReady := failure.kubernetesReady
      openNebulaReady := failure.openNebulaReady
      unschedulable := failure.unschedulable
      lastFailureAt := some now
      failureCount
      reason := failure.reason
      pauseUntilReady := paused
      expiresAt := if paused then none else some (now + cooldown) }
  (state, states.insert failure.node state)

def markPaused (states : GuardStates) (state : HotplugCooldownState) (now : Int) :
    HotplugCooldownState × GuardStates :=
  if state.node = "" then (state, states)
  else
    let state :=
      { state with
        firstFailureAt := if state.firstFailureAt.isNone then some now else state.firstFailureAt
        lastFailureAt := if state.lastFailureAt.isNone then some now else state.lastFailureAt
        failureCount := if state.failureCount ≤ 0 then 1 else state.failureCount
        pauseUntilReady := true
        expiresAt := none }
    (state, states.insert state.node state)

/-- `Get` also drops a state that has expired. -/
def get (states : GuardStates) (node : String) (now : Int) :
    Option HotplugCooldownState × GuardStates :=
  match states.lookup node with
  | none => (none, states)
  | some state =>
    if state.pauseUntilReady then (some state, states)
    else if 0 < state.failureCount then
      (none, if state.expired now then states.erase node else states)
    else if state.expiresAt.isNone || state.expired now then (none, states.erase node)
    else (some state, states)

end HotplugGuard

/-! ### The controller's use of the guard -/

/-- The settings the guard reads. -/
structure GuardConfig where
  nodeHotplugGuardEnabled : Bool
  requireKubernetesReady : Bool
  requireOpenNebulaReady : Bool
  failureThreshold : Int
  cooldown : Int
  kubeRuntimeEnabled : Bool
  maintenanceMode : Bool
  stuckAfter : Int
  tables : CaseTables

structure KubernetesNodeHealth where
  ready : Bool
  unschedulable : Bool
  deriving DecidableEq

/-- The fields of an OpenNebulaNode resource the guard reads. -/
structure OpenNebulaNodeStatus where
  displayState : String
  classification : String
  operation : String
  volumeHandle : String
  diskAttachFlag : String
  firstObservedAt : Option Int
  lastObservedAt : Option Int
  deriving DecidableEq

/-- The fields of `opennebula.HotplugTimeoutError` that `handleHotplugTimeout` reads. -/
structure HotplugTimeoutError where
  timeout : Int
  lastObservedAttached : Bool
  lastObservedReady : Bool
  deriving DecidableEq

inductive GuardOp where
  | now
  | isLeader
  /-- `MaintenanceModeManager.Active`. -/
  | maintenanceActive
  | openNebulaNode (node : String)
  | nodeHealth (node : String)
  | nodeReady (node : String)
  | markUnhealthyFailure (failure : UnhealthyFailure)
  | markPaused (state : HotplugCooldownState)
  | snapshot
  | get (node : String)
  | clear (node : String)
  /-- `UpsertConfigMapData` and `DeleteConfigMapKey` on the ConfigMap of the guard. -/
  | upsertConfigMapData (state : HotplugCooldownState)
  | deleteConfigMapKey (node : String)

/-- A missing resource and a failed query of it are the same to the guard. A snapshot is listed in
the order in which Go ranges over it. -/
@[reducible]
def GuardOp.Answer : GuardOp → Type
  | .now => Int
  | .isLeader | .maintenanceActive => Bool
  | .openNebulaNode _ => Option OpenNebulaNodeStatus
  | .nodeHealth _ => Except GoError KubernetesNodeHealth
  | .nodeReady _ => Except GoError Bool
  | .markUnhealthyFailure _ | .markPaused _ => HotplugCooldownState
  | .snapshot => List (String × HotplugCooldownState)
  | .get _ => Option HotplugCooldownState
  | .clear _ => Unit
  | .upsertConfigMapData _ | .deleteConfigMapKey _ => Option GoError

abbrev GuardProg :=
  Program GuardOp GuardOp.Answer

abbrev GuardHistory :=
  List (Event GuardOp GuardOp.Answer)

namespace GuardProg

abbrev call (op : GuardOp) : GuardProg op.Answer :=
  Program.perform op

end GuardProg

open GuardProg

structure HotplugNodeHealth where
  kubernetesReady : Bool
  kubernetesKnown : Bool := false
  openNebulaReady : Bool
  openNebulaKnown : Bool := false
  unschedulable : Bool := false
  kubernetesErr : Option GoError := none
  openNebulaErr : Option GoError := none

/-- The Kubernetes half of `nodeHotplugHealth`. -/
def kubernetesHealth (cfg : GuardConfig) (node : String) (health : HotplugNodeHealth) :
    GuardProg HotplugNodeHealth :=
  if cfg.requireKubernetesReady && cfg.kubeRuntimeEnabled then do
    match ← call (.nodeHealth node) with
    | .error err => return { health with kubernetesErr := some err }
    | .ok kubeHealth =>
      return { health with
        kubernetesReady := kubeHealth.ready
        unschedulable := kubeHealth.unschedulable
        kubernetesKnown := true }
  else return health

/-- The OpenNebula half of `nodeHotplugHealth`. -/
def openNebulaHealth (cfg : GuardConfig) (node : String) (health : HotplugNodeHealth) :
    GuardProg HotplugNodeHealth :=
  if cfg.requireOpenNebulaReady then do
    match ← call (.nodeReady node) with
    | .error err => return { health with openNebulaErr := some err }
    | .ok ready => return { health with openNebulaReady := ready, openNebulaKnown := true }
  else return health

def nodeHotplugHealth (cfg : GuardConfig) (node : String) (fallbackOpenNebulaReady : Bool) :
    GuardProg HotplugNodeHealth := do
  let health ← kubernetesHealth cfg node
    { kubernetesReady := !cfg.requireKubernetesReady
      openNebulaReady := fallbackOpenNebulaReady || !cfg.requireOpenNebulaReady }
  openNebulaHealth cfg node health

def nodeHotplugGuardTreatUnschedulableAsUnhealthy (cfg : GuardConfig) : GuardProg Bool :=
  if cfg.maintenanceMode then call .maintenanceActive else return false

def hotplugGuardStateCleared (cfg : GuardConfig) (state : HotplugCooldownState)
    (health : HotplugNodeHealth) : GuardProg Bool :=
  if state.pauseUntilReady then
    if (!cfg.requireKubernetesReady || health.kubernetesReady) &&
        (!cfg.requireOpenNebulaReady || health.openNebulaReady) then do
      let treat ← nodeHotplugGuardTreatUnschedulableAsUnhealthy cfg
      return !treat || !health.unschedulable
    else return false
  else do
    -- The clock is read only where the expiry is set.
    match state.expiresAt with
    | none => return health.openNebulaReady
    | some expiresAt => do
        let now ← call .now
        return expiresAt < now || health.openNebulaReady

def hotplugNodeUnhealthy (cfg : GuardConfig) (health : HotplugNodeHealth) : GuardProg Bool :=
  if cfg.requireKubernetesReady && health.kubernetesKnown && !health.kubernetesReady then
    return true
  else if cfg.requireOpenNebulaReady && !health.openNebulaReady then return true
  else do
    let treat ← nodeHotplugGuardTreatUnschedulableAsUnhealthy cfg
    return treat && health.unschedulable

def hotplugUnhealthyReason (cfg : GuardConfig) (health : HotplugNodeHealth) : GuardProg String := do
  let treat ← nodeHotplugGuardTreatUnschedulableAsUnhealthy cfg
  let reasons :=
    (if cfg.requireKubernetesReady && health.kubernetesKnown && !health.kubernetesReady then
      ["kubernetes_node_not_ready"] else []) ++
    (if cfg.requireOpenNebulaReady && !health.openNebulaReady then
      ["opennebula_vm_not_running"] else []) ++
    (if treat && health.unschedulable then ["kubernetes_node_unschedulable"] else [])
  return if reasons.isEmpty then "node_unhealthy" else ",".intercalate reasons

/-- Whether OpenNebula reports the node as stuck. -/
def OpenNebulaNodeStatus.stuck (tables : CaseTables) (status : OpenNebulaNodeStatus) : Bool :=
  tables.equalFold (trimSpace status.classification) "Stuck" ||
    tables.equalFold (trimSpace status.displayState) "HotplugStuck"

def openNebulaNodeHotplugPauseState (cfg : GuardConfig) (node : String) :
    GuardProg (Option HotplugCooldownState) :=
  if trimSpace node = "" then return none
  else do
    match ← call (.openNebulaNode node) with
    | none => return none
    | some status =>
      if !status.stuck cfg.tables then return none
      else do
        let health ← nodeHotplugHealth cfg node false
        let firstFailureAt ← call .now
        let lastFailureAt ← call .now
        return some
          { node
            operation :=
              if trimSpace status.operation = "" then "hotplug" else trimSpace status.operation
            volume :=
              if trimSpace status.volumeHandle = "" then "unknown"
              else trimSpace status.volumeHandle
            timeout := cfg.stuckAfter
            lastObservedAttached := cfg.tables.equalFold (trimSpace status.diskAttachFlag) "YES"
            lastObservedReady := false
            failureCount := 1
            reason := "opennebula_hotplug_stuck"
            pauseUntilReady := true
            kubernetesReady := health.kubernetesReady
            openNebulaReady := false
            unschedulable := health.unschedulable
            firstFailureAt := some (status.firstObservedAt.getD firstFailureAt)
            lastFailureAt := some (status.lastObservedAt.getD lastFailureAt) }

/-- `persistHotplugStateSnapshot`, which only logs an error. -/
def persistHotplugStateSnapshot (state : HotplugCooldownState) : GuardProg Unit := do
  let _ ← call (.upsertConfigMapData state)
  return ()

/-- `clearHotplugStateSnapshot`, which only logs an error. -/
def clearHotplugStateSnapshot (node : String) : GuardProg Unit := do
  let _ ← call (.deleteConfigMapKey node)
  return ()

def hotplugCooldownState (cfg : GuardConfig) (node : String) :
    GuardProg (Option HotplugCooldownState) :=
  if !cfg.nodeHotplugGuardEnabled then return none
  else do
    match ← openNebulaNodeHotplugPauseState cfg node with
    | some state => do
        let state ← call (.markPaused state)
        persistHotplugStateSnapshot state
        return some state
    | none => do
        match ← call (.get node) with
        | none => return none
        | some cooldown => do
            let health ← nodeHotplugHealth cfg node cooldown.lastObservedReady
            if ← hotplugGuardStateCleared cfg cooldown health then do
              call (.clear node)
              clearHotplugStateSnapshot node
              return none
            else
              return some { cooldown with
                kubernetesReady := health.kubernetesReady
                openNebulaReady := health.openNebulaReady
                unschedulable := health.unschedulable }

/-- `handleHotplugTimeout` for an error that is a hotplug timeout; its diagnosis of the node does
not touch the guard. -/
def handleHotplugTimeout (cfg : GuardConfig) (node volume operation : String)
    (timeoutErr : HotplugTimeoutError) : GuardProg Unit :=
  if !cfg.nodeHotplugGuardEnabled then return ()
  else do
    let health ← nodeHotplugHealth cfg node timeoutErr.lastObservedReady
    if ← hotplugNodeUnhealthy cfg health then do
      let reason ← hotplugUnhealthyReason cfg health
      let state ← call (.markUnhealthyFailure
        { node, operation, volume
          timeout := timeoutErr.timeout
          attached := timeoutErr.lastObservedAttached
          openNebulaReady := health.openNebulaReady
          kubernetesReady := health.kubernetesReady
          unschedulable := health.unschedulable
          threshold := cfg.failureThreshold
          reason })
      persistHotplugStateSnapshot state
    else return ()

/-- `clearHotplugGuardState`, which follows every successful attach and detach. -/
def clearHotplugGuardState (node : String) : GuardProg Unit :=
  if trimSpace node = "" then return ()
  else do
    let states ← call .snapshot
    if (states.lookup node).any (·.pauseUntilReady) then return ()
    else do
      call (.clear node)
      clearHotplugStateSnapshot node

/-- One round of the loop of `reconcileHotplugGuardCleanup`. -/
def cleanupNode (cfg : GuardConfig) (node : String) (state : HotplugCooldownState) :
    GuardProg Unit :=
  if trimSpace node = "" then return ()
  else do
    let health ← nodeHotplugHealth cfg (trimSpace node) state.lastObservedReady
    if health.kubernetesErr.isSome || health.openNebulaErr.isSome then return ()
    else if ← hotplugGuardStateCleared cfg state health then do
      call (.clear (trimSpace node))
      clearHotplugStateSnapshot (trimSpace node)
    else
      persistHotplugStateSnapshot { state with
        kubernetesReady := health.kubernetesReady
        openNebulaReady := health.openNebulaReady
        unschedulable := health.unschedulable }

def cleanupNodes (cfg : GuardConfig) : List (String × HotplugCooldownState) → GuardProg Unit
  | [] => return ()
  | (node, state) :: states => do
      cleanupNode cfg node state
      cleanupNodes cfg states

def reconcileHotplugGuardCleanup (cfg : GuardConfig) : GuardProg Unit :=
  if !cfg.nodeHotplugGuardEnabled then return ()
  else do
    if ← call .isLeader then do
      let states ← call .snapshot
      cleanupNodes cfg states
    else return ()

/-! ### Any number of these calls at once -/

inductive GuardKind where
  | hotplugCooldownState (node : String)
  | handleHotplugTimeout (node volume operation : String) (timeoutErr : HotplugTimeoutError)
  | clearHotplugGuardState (node : String)
  | reconcileHotplugGuardCleanup
  -- The two methods of the guard that pause, called for themselves.
  | markUnhealthyFailure (failure : UnhealthyFailure)
  | markPaused (state : HotplugCooldownState)
  deriving DecidableEq

def GuardKind.program (cfg : GuardConfig) : GuardKind → GuardProg (Option HotplugCooldownState)
  | .hotplugCooldownState node => Quarantine.hotplugCooldownState cfg node
  | .handleHotplugTimeout node volume operation timeoutErr => do
      Quarantine.handleHotplugTimeout cfg node volume operation timeoutErr
      return none
  | .clearHotplugGuardState node => do
      Quarantine.clearHotplugGuardState node
      return none
  | .reconcileHotplugGuardCleanup => do
      Quarantine.reconcileHotplugGuardCleanup cfg
      return none
  | .markUnhealthyFailure failure => do
      let state ← call (.markUnhealthyFailure failure)
      return some state
  | .markPaused state => do
      let state ← call (.markPaused state)
      return some state

/-- What the outside world decides about one operation. -/
structure GuardOracle where
  now : Int := 0
  isLeader : Bool := true
  maintenanceActive : Bool := false
  openNebulaNode : Option OpenNebulaNodeStatus := none
  nodeHealth : Except GoError KubernetesNodeHealth := .ok ⟨true, false⟩
  nodeReady : Except GoError Bool := .ok true
  keys : List String := []
  failure : Option GoError := none

def actGuard (cfg : GuardConfig) (oracle : GuardOracle) (states : GuardStates) :
    (op : GuardOp) → Option (op.Answer × GuardStates)
  | .now => some (oracle.now, states)
  | .isLeader => some (oracle.isLeader, states)
  | .maintenanceActive => some (oracle.maintenanceActive, states)
  | .openNebulaNode _ => some (oracle.openNebulaNode, states)
  | .nodeHealth _ => some (oracle.nodeHealth, states)
  | .nodeReady _ => some (oracle.nodeReady, states)
  | .markUnhealthyFailure failure =>
    some (HotplugGuard.markUnhealthyFailure cfg.cooldown states failure oracle.now)
  | .markPaused state => some (HotplugGuard.markPaused states state oracle.now)
  | .snapshot =>
    -- The keys are those of the map, in any order.
    if oracle.keys.Perm states.keys then
      some (oracle.keys.filterMap fun node => (states.lookup node).map (node, ·), states)
    else none
  | .get node => some (HotplugGuard.get states node oracle.now)
  | .clear node => some ((), states.erase node)
  | .upsertConfigMapData _ | .deleteConfigMapKey _ => some (oracle.failure, states)

def hotplugGuard (cfg : GuardConfig) :
    Machine GuardOp GuardOp.Answer GuardKind (Option HotplugCooldownState) GuardStates GuardOracle
      Empty where
  start states kind := some (kind.program cfg, states)
  act oracle states _ op := actGuard cfg oracle states op
  change := nofun

abbrev GuardPool :=
  Pool GuardOp GuardOp.Answer GuardKind (Option HotplugCooldownState) GuardStates

abbrev GuardStep :=
  Label GuardKind GuardOracle Empty

open Program Option

def paused (states : GuardStates) (node : String) : Bool :=
  (states.lookup node).any (·.pauseUntilReady)

/-! ## What a call has been told -/

section Told

variable (node : String)

/-- The answers of `NodeHealth` for the node. -/
def toldHealth : Event GuardOp GuardOp.Answer → Option (Except GoError KubernetesNodeHealth)
  | ⟨.nodeHealth other, ans⟩ => if other = node then some ans else none
  | _ => none

/-- The answers of `NodeReady` for the node. -/
def toldReady : Event GuardOp GuardOp.Answer → Option (Except GoError Bool)
  | ⟨.nodeReady other, ans⟩ => if other = node then some ans else none
  | _ => none

/-- The states that `Get` has returned. -/
def toldState : Event GuardOp GuardOp.Answer → Option (Option HotplugCooldownState)
  | ⟨.get _, ans⟩ => some ans
  | _ => none

def toldSnapshot : Event GuardOp GuardOp.Answer → Option (List (String × HotplugCooldownState))
  | ⟨.snapshot, ans⟩ => some ans
  | _ => none

def toldMaintenance : Event GuardOp GuardOp.Answer → Option Bool
  | ⟨.maintenanceActive, ans⟩ => some ans
  | _ => none

end Told

/-- The last queries of the call have succeeded and have reported every required gate: Kubernetes
ready, OpenNebula ready, and schedulable while maintenance mode is active. -/
structure ReportedReady (cfg : GuardConfig) (past : GuardHistory) (node : String) : Prop where
  kubernetes : cfg.requireKubernetesReady = true →
    ∃ health, latest (toldHealth node) past = some (.ok health) ∧ health.ready = true
  openNebula : cfg.requireOpenNebulaReady = true →
    latest (toldReady node) past = some (.ok true)
  schedulable : cfg.maintenanceMode = true → latest toldMaintenance past = some true →
    ∃ health, latest (toldHealth node) past = some (.ok health) ∧ health.unschedulable = false

/-- The state that the call's clearing of the node goes back to was a pause. -/
def readPaused (kind : GuardKind) (past : GuardHistory) (node : String) : Bool :=
  match kind with
  | .hotplugCooldownState _ => ((latest toldState past).join).any (·.pauseUntilReady)
  | .reconcileHotplugGuardCleanup =>
    ((latest toldSnapshot past).getD []).all fun entry =>
      trimSpace entry.1 ≠ node || entry.2.pauseUntilReady
  -- Only nodes that are not paused are cleared after a successful operation.
  | .clearHotplugGuardState _ => false
  | .handleHotplugTimeout .. | .markUnhealthyFailure _ | .markPaused _ => false

/-- The call is `hotplugCooldownState` and has read a pause of a node that was ready at its last
failure. -/
def trustsOldReadiness (kind : GuardKind) (past : GuardHistory) : Bool :=
  match kind with
  | .hotplugCooldownState _ =>
    ((latest toldState past).join).any fun state =>
      state.pauseUntilReady && state.lastObservedReady
  | _ => false

/-- The operations that record a failure or a pause of the node. -/
def GuardOp.marks (node : String) : GuardOp → Bool
  | .markUnhealthyFailure failure => failure.node = node
  | .markPaused state => state.node = node
  | _ => false

/-- What an event tells about the entry of the node. -/
def toldEntry (node : String) : Event GuardOp GuardOp.Answer → Option (Option HotplugCooldownState)
  | ⟨.get other, ans⟩ => if other = node then some ans else none
  | ⟨.snapshot, states⟩ => some (states.lookup node)
  | _ => none

/-- What the goroutine has read last about the entry of the node, provided that nobody has recorded
a failure or a pause of the node since. -/
def freshRead (s : GuardPool) (t : ℕ) (node : String) : Option (Option HotplugCooldownState) :=
  (latest (fun entry => if entry.2.op.marks node then some none
    else if entry.1 = t then (toldEntry node entry.2).map some else none) s.log).join

/-- Whoever clears a paused node has read the pause and nothing has been recorded about the node
since, no failed query is taken for readiness, maintenance mode goes with the Kubernetes gate, and
one more failure of a paused node reaches the threshold. -/
def undisturbedPauses (cfg : GuardConfig) (s : GuardPool) : GuardStep → Bool
  | .act t oracle =>
    match s.threads[t]? with
    | none => true
    | some thread =>
      match thread.prog.nextOp? with
      | some (.clear node) =>
        !paused s.world node ||
          (readPaused thread.kind (s.history t) node && (freshRead s t node).isSome)
      | some (.nodeReady _) =>
        (match oracle.nodeReady with | .ok _ => true | .error _ => false) ||
          !trustsOldReadiness thread.kind (s.history t)
      | some .maintenanceActive => !oracle.maintenanceActive || cfg.requireKubernetesReady
      | some (.markUnhealthyFailure failure) =>
        (s.world.lookup failure.node).all fun state =>
          !state.pauseUntilReady || (if failure.threshold ≤ 0 then 1 else failure.threshold) ≤
            if state.node = "" then 1 else state.failureCount + 1
      | _ => true
  | _ => true

abbrev ReachableGuard (cfg : GuardConfig) (ok : GuardPool → GuardStep → Prop) : GuardPool → Prop :=
  (hotplugGuard cfg).Reachable (fun _ => True) ok

/-! ## The programs -/

/-- Whoever clears a node after reading its pause has been told that the node is ready. -/
def pauseContract (cfg : GuardConfig) (kind : GuardKind) :
    Contract GuardOp GuardOp.Answer where
  rely past op ans :=
    match op, ans with
    | .nodeReady _, .error _ => trustsOldReadiness kind past = false
    | .maintenanceActive, active => active = true → cfg.requireKubernetesReady = true
    | _, _ => True
  guar past op :=
    ∀ node, op = .clear node → readPaused kind past node = true → ReportedReady cfg past node

/-- The operations that clear no node. -/
def GuardOp.keeps : GuardOp → Bool
  | .clear _ => false
  | _ => true

section Programs

variable {cfg : GuardConfig} {kind : GuardKind} {past later : GuardHistory} {node : String}
  {health : HotplugNodeHealth} {state : HotplugCooldownState}

theorem guar_of_keeps {op : GuardOp} (hop : op.keeps = true) :
    (pauseContract cfg kind).guar past op := by
  intro node hclear
  rw [hclear] at hop
  cases hop

theorem keeps_kubernetesHealth : (kubernetesHealth cfg node health).Only (·.keeps = true) := by
  unfold kubernetesHealth
  split
  · refine Only.perform rfl fun ans => ?_
    split <;> exact only_pure
  · exact only_pure

theorem keeps_openNebulaHealth : (openNebulaHealth cfg node health).Only (·.keeps = true) := by
  unfold openNebulaHealth
  split
  · refine Only.perform rfl fun ans => ?_
    split <;> exact only_pure
  · exact only_pure

theorem keeps_nodeHotplugHealth {fallback : Bool} :
    (nodeHotplugHealth cfg node fallback).Only (·.keeps = true) :=
  Only.bind keeps_kubernetesHealth fun _ => keeps_openNebulaHealth

theorem keeps_treatUnschedulable :
    (nodeHotplugGuardTreatUnschedulableAsUnhealthy cfg).Only (·.keeps = true) := by
  unfold nodeHotplugGuardTreatUnschedulableAsUnhealthy
  split
  · exact only_perform.2 rfl
  · exact only_pure

theorem keeps_openNebulaNodeHotplugPauseState :
    (openNebulaNodeHotplugPauseState cfg node).Only (·.keeps = true) := by
  unfold openNebulaNodeHotplugPauseState
  split
  · exact only_pure
  refine Only.perform rfl fun found => ?_
  split
  · exact only_pure
  split
  · exact only_pure
  refine Only.bind keeps_nodeHotplugHealth fun _ => ?_
  refine Only.perform rfl fun _ => ?_
  exact Only.perform rfl fun _ => only_pure

theorem keeps_persistHotplugStateSnapshot :
    (persistHotplugStateSnapshot state).Only (·.keeps = true) :=
  Only.perform rfl fun _ => only_pure

theorem keeps_clearHotplugStateSnapshot :
    (clearHotplugStateSnapshot node).Only (·.keeps = true) :=
  Only.perform rfl fun _ => only_pure

theorem keeps_handleHotplugTimeout {volume operation : String} {timeoutErr : HotplugTimeoutError} :
    (handleHotplugTimeout cfg node volume operation timeoutErr).Only (·.keeps = true) := by
  unfold handleHotplugTimeout
  split
  · exact only_pure
  refine Only.bind keeps_nodeHotplugHealth fun health => ?_
  have hunhealthy : (hotplugNodeUnhealthy cfg health).Only (·.keeps = true) := by
    unfold hotplugNodeUnhealthy
    split
    · exact only_pure
    split
    · exact only_pure
    · exact Only.bind keeps_treatUnschedulable fun _ => only_pure
  refine Only.bind hunhealthy fun unhealthy => ?_
  split
  · have hreason : (hotplugUnhealthyReason cfg health).Only (·.keeps = true) :=
      Only.bind keeps_treatUnschedulable fun _ => only_pure
    refine Only.bind hreason fun _ => ?_
    exact Only.perform rfl fun _ => keeps_persistHotplugStateSnapshot
  · exact only_pure

theorem meets_of_keeps {α : Type} {p : GuardProg α} (hp : p.Only (·.keeps = true)) :
    p.Meets (pauseContract cfg kind) (fun _ _ => True) past :=
  hp.meets trivial (fun _ _ hop _ => guar_of_keeps hop) fun _ _ _ _ _ => trivial

/-- The later history has read the same states. -/
structure SameReads (past later : GuardHistory) : Prop where
  state : latest toldState later = latest toldState past
  snapshot : latest toldSnapshot later = latest toldSnapshot past

theorem SameReads.trustsOldReadiness (h : SameReads past later) :
    trustsOldReadiness kind later = trustsOldReadiness kind past := by
  cases kind with
  | hotplugCooldownState _ => simp only [Quarantine.trustsOldReadiness, h.state]
  | _ => rfl

theorem SameReads.trans {last : GuardHistory} (h : SameReads past later)
    (h' : SameReads later last) : SameReads past last :=
  ⟨h'.state.trans h.state, h'.snapshot.trans h.snapshot⟩

theorem SameReads.append {op : GuardOp} {ans : op.Answer} (hstate : toldState ⟨op, ans⟩ = none)
    (hsnapshot : toldSnapshot ⟨op, ans⟩ = none) : SameReads past (past ++ [⟨op, ans⟩]) := by
  constructor
  · rw [latest_append_singleton, hstate, none_or]
  · rw [latest_append_singleton, hsnapshot, none_or]

/-- The Kubernetes gate of the health record is what the last query has reported. -/
def KubernetesChecked (cfg : GuardConfig) (node : String) (later : GuardHistory)
    (health : HotplugNodeHealth) : Prop :=
  cfg.requireKubernetesReady = true → health.kubernetesReady = true →
    ∃ kube, latest (toldHealth node) later = some (.ok kube) ∧ kube.ready = true ∧
      kube.unschedulable = health.unschedulable

/-- So is the OpenNebula gate, unless the query has failed and the fallback has decided. -/
def OpenNebulaChecked (cfg : GuardConfig) (kind : GuardKind) (node : String) (fallback : Bool)
    (later : GuardHistory) (health : HotplugNodeHealth) : Prop :=
  cfg.requireOpenNebulaReady = true → health.openNebulaReady = true →
    latest (toldReady node) later = some (.ok true) ∨
      fallback = true ∧ health.openNebulaErr.isSome = true ∧ trustsOldReadiness kind later = false

theorem meets_kubernetesHealth
    (hready : cfg.requireKubernetesReady = true → health.kubernetesReady = false) :
    (kubernetesHealth cfg node health).Meets (pauseContract cfg kind)
      (fun later health' => SameReads past later ∧ KubernetesChecked cfg node later health' ∧
        health'.openNebulaReady = health.openNebulaReady ∧
        health'.openNebulaErr = health.openNebulaErr) past := by
  unfold kubernetesHealth
  split
  · refine .perform (guar_of_keeps rfl) fun ans _ => ?_
    cases ans with
    | error err =>
      refine meets_pure.2 ⟨.append rfl rfl, fun hrequired htrue => ?_, rfl, rfl⟩
      exact absurd (htrue.symm.trans (hready hrequired)) (by decide)
    | ok kube =>
      refine meets_pure.2 ⟨.append rfl rfl, fun _ htrue => ⟨kube, ?_, htrue, rfl⟩, rfl, rfl⟩
      simp [toldHealth]
  · refine meets_pure.2 ⟨⟨rfl, rfl⟩, fun hrequired htrue => ?_, rfl, rfl⟩
    exact absurd (htrue.symm.trans (hready hrequired)) (by decide)

theorem meets_nodeHotplugHealth {fallback : Bool} :
    (nodeHotplugHealth cfg node fallback).Meets (pauseContract cfg kind)
      (fun later health => SameReads past later ∧ KubernetesChecked cfg node later health ∧
        OpenNebulaChecked cfg kind node fallback later health) past := by
  unfold nodeHotplugHealth
  refine (meets_kubernetesHealth fun hrequired => by simp [hrequired]).bind ?_
  rintro mid health ⟨hsame, hkubernetes, hready, -⟩
  unfold openNebulaHealth
  split
  · refine .perform (guar_of_keeps rfl) fun ans hrely => ?_
    have hreads := hsame.trans (@SameReads.append mid (.nodeReady node) ans rfl rfl)
    -- The answer tells nothing about Kubernetes.
    have hkubernetes' : ∀ health', health'.kubernetesReady = health.kubernetesReady →
        health'.unschedulable = health.unschedulable →
        KubernetesChecked cfg node (mid ++ [⟨.nodeReady node, ans⟩]) health' := by
      intro health' hsameReady hsameUnschedulable hrequired htrue
      rw [latest_append_singleton, hsameUnschedulable]
      exact hkubernetes hrequired (hsameReady.symm.trans htrue)
    cases ans with
    | error err =>
      refine meets_pure.2 ⟨hreads, hkubernetes' _ rfl rfl, fun hrequired htrue => .inr ?_⟩
      have htrusts : trustsOldReadiness kind mid = false := hrely
      have hfallback : fallback = true := by
        simpa [hready, hrequired] using htrue
      refine ⟨hfallback, rfl, ?_⟩
      exact (SameReads.append rfl rfl).trustsOldReadiness.trans htrusts
    | ok ready =>
      refine meets_pure.2 ⟨hreads, hkubernetes' _ rfl rfl, fun _ htrue => .inl ?_⟩
      obtain rfl : ready = true := htrue
      simp [toldReady]
  · rename_i hrequired
    exact meets_pure.2 ⟨hsame, hkubernetes, fun h => absurd h hrequired⟩

/-- A paused state is cleared only after the gates have been reported. -/
theorem meets_hotplugGuardStateCleared (hkubernetes : KubernetesChecked cfg node past health)
    (hopenNebula : state.pauseUntilReady = true → cfg.requireOpenNebulaReady = true →
      health.openNebulaReady = true → latest (toldReady node) past = some (.ok true)) :
    (hotplugGuardStateCleared cfg state health).Meets (pauseContract cfg kind)
      (fun later cleared => SameReads past later ∧
        (state.pauseUntilReady = true → cleared = true → ReportedReady cfg later node)) past := by
  unfold hotplugGuardStateCleared
  split
  · rename_i hpaused
    split
    · rename_i hgates
      simp only [Bool.and_eq_true, Bool.or_eq_true, Bool.not_eq_true'] at hgates
      have hkube : cfg.requireKubernetesReady = true → ∃ kube,
          latest (toldHealth node) past = some (.ok kube) ∧ kube.ready = true ∧
            kube.unschedulable = health.unschedulable := by
        intro hrequired
        exact hkubernetes hrequired (hgates.1.resolve_left (by simp [hrequired]))
      have hready : cfg.requireOpenNebulaReady = true →
          latest (toldReady node) past = some (.ok true) := by
        intro hrequired
        exact hopenNebula hpaused hrequired (hgates.2.resolve_left (by simp [hrequired]))
      unfold nodeHotplugGuardTreatUnschedulableAsUnhealthy
      split
      · refine .perform (guar_of_keeps rfl) fun active hactive => ?_
        refine meets_pure.2 ⟨.append rfl rfl, fun _ hcleared => ⟨fun hrequired => ?_,
          fun hrequired => ?_, fun _ htold => ?_⟩⟩
        · obtain ⟨kube, htold, hreported, -⟩ := hkube hrequired
          exact ⟨kube, by rwa [latest_append_singleton], hreported⟩
        · rw [latest_append_singleton]
          exact hready hrequired
        · rw [latest_append_singleton] at htold ⊢
          obtain rfl : active = true := Option.some.inj htold
          obtain ⟨kube, htold, -, hunschedulable⟩ := hkube (hactive rfl)
          exact ⟨kube, htold, hunschedulable.trans (by simpa using hcleared)⟩
      · rename_i hmode
        refine meets_bind.2 (meets_pure.2 (meets_pure.2 ⟨⟨rfl, rfl⟩,
          fun _ _ => ⟨fun hrequired => ?_,
          hready, fun h => absurd h hmode⟩⟩))
        obtain ⟨kube, htold, hreported, -⟩ := hkube hrequired
        exact ⟨kube, htold, hreported⟩
    · exact meets_pure.2 ⟨⟨rfl, rfl⟩, fun _ h => by cases h⟩
  · rename_i hpaused
    split
    · exact meets_pure.2 ⟨⟨rfl, rfl⟩, fun h => absurd h hpaused⟩
    · refine .perform (guar_of_keeps rfl) fun now _ => ?_
      exact meets_pure.2 ⟨.append rfl rfl, fun h => absurd h hpaused⟩

theorem meets_hotplugCooldownState :
    (hotplugCooldownState cfg node).Meets (pauseContract cfg (.hotplugCooldownState node))
      (fun _ _ => True) past := by
  unfold hotplugCooldownState
  split
  · exact meets_pure.2 trivial
  refine (meets_of_keeps keeps_openNebulaNodeHotplugPauseState).bind ?_
  intro mid found _
  cases found with
  | some state =>
    refine meets_of_keeps ?_
    refine Only.perform rfl fun _ => ?_
    exact Only.bind keeps_persistHotplugStateSnapshot fun _ => only_pure
  | none =>
    refine .perform (guar_of_keeps rfl) fun found _ => ?_
    cases found with
    | none => exact meets_pure.2 trivial
    | some cooldown => ?_
    refine meets_nodeHotplugHealth.bind ?_
    rintro later health ⟨hsame, hkubernetes, hopenNebula⟩
    have hread : latest toldState later = some (some cooldown) := by
      rw [hsame.state, latest_append_singleton]
      rfl
    -- A failed query decides nothing here: the state read would have to be no pause.
    have hready : cooldown.pauseUntilReady = true → cfg.requireOpenNebulaReady = true →
        health.openNebulaReady = true → latest (toldReady node) later = some (.ok true) := by
      intro hpaused hrequired htrue
      refine (hopenNebula hrequired htrue).resolve_right ?_
      rintro ⟨hfallback, -, htrusts⟩
      simp [trustsOldReadiness, hread, hpaused, hfallback] at htrusts
    refine (meets_hotplugGuardStateCleared hkubernetes hready).bind ?_
    rintro last cleared ⟨hsame', hreported⟩
    cases cleared with
    | false => exact meets_pure.2 trivial
    | true => ?_
    refine .perform ?_ fun _ _ => ?_
    · rintro _ ⟨⟩ hpaused
      refine hreported ?_ rfl
      simpa [readPaused, hsame'.state, hread] using hpaused
    · refine meets_of_keeps ?_
      exact Only.bind keeps_clearHotplugStateSnapshot fun _ => only_pure

theorem meets_clearHotplugGuardState :
    (clearHotplugGuardState node).Meets (pauseContract cfg (.clearHotplugGuardState node))
      (fun _ _ => True) past := by
  unfold clearHotplugGuardState
  split
  · exact meets_pure.2 trivial
  refine .perform (guar_of_keeps rfl) fun states _ => ?_
  split
  · exact meets_pure.2 trivial
  refine .perform (fun _ _ hpaused => ?_) fun _ _ => ?_
  · cases hpaused
  · exact meets_of_keeps keeps_clearHotplugStateSnapshot

/-- One round of the cleanup loop. What it clears is an entry of the last snapshot. -/
theorem meets_cleanupNode {states : List (String × HotplugCooldownState)}
    (hsnapshot : latest toldSnapshot past = some states) (hmem : (node, state) ∈ states) :
    (cleanupNode cfg node state).Meets (pauseContract cfg .reconcileHotplugGuardCleanup)
      (fun later _ => latest toldSnapshot later = some states) past := by
  unfold cleanupNode
  split
  · exact meets_pure.2 hsnapshot
  refine meets_nodeHotplugHealth.bind ?_
  rintro later health ⟨hsame, hkubernetes, hopenNebula⟩
  split
  · exact meets_pure.2 (hsame.snapshot.trans hsnapshot)
  rename_i hnoErr
  -- Failed queries have ended the round above.
  have hready : state.pauseUntilReady = true → cfg.requireOpenNebulaReady = true →
      health.openNebulaReady = true →
      latest (toldReady (trimSpace node)) later = some (.ok true) := by
    intro _ hrequired htrue
    refine (hopenNebula hrequired htrue).resolve_right fun h => hnoErr ?_
    rw [h.2.1, Bool.or_true]
  refine (meets_hotplugGuardStateCleared hkubernetes hready).bind ?_
  rintro last cleared ⟨hsame', hreported⟩
  have hlast : latest toldSnapshot last = some states :=
    (hsame'.snapshot.trans hsame.snapshot).trans hsnapshot
  cases cleared with
  | false =>
    refine .perform (guar_of_keeps rfl) fun _ _ => meets_pure.2 ?_
    rwa [latest_append_singleton]
  | true => ?_
  refine .perform ?_ fun _ _ => ?_
  · rintro _ ⟨⟩ hpaused
    refine hreported ?_ rfl
    simp only [readPaused, hlast, getD_some, List.all_eq_true] at hpaused
    simpa using hpaused (node, state) hmem
  · refine .perform (guar_of_keeps rfl) fun _ _ => meets_pure.2 ?_
    rwa [latest_append_singleton, latest_append_singleton]

/-- The induction is over the entries that are left of the snapshot. -/
theorem meets_cleanupNodes {states rest : List (String × HotplugCooldownState)}
    (hsnapshot : latest toldSnapshot past = some states) (hrest : rest ⊆ states) :
    (cleanupNodes cfg rest).Meets (pauseContract cfg .reconcileHotplugGuardCleanup)
      (fun _ _ => True) past := by
  induction rest generalizing past with
  | nil => exact meets_pure.2 trivial
  | cons entry rest ih =>
    have hmem : entry ∈ states := hrest (List.mem_cons_self ..)
    refine (meets_cleanupNode hsnapshot hmem).bind fun later _ hlater => ?_
    exact ih hlater fun other hother => hrest (List.mem_cons_of_mem _ hother)

theorem meets_reconcileHotplugGuardCleanup :
    (reconcileHotplugGuardCleanup cfg).Meets (pauseContract cfg .reconcileHotplugGuardCleanup)
      (fun _ _ => True) past := by
  unfold reconcileHotplugGuardCleanup
  split
  · exact meets_pure.2 trivial
  refine .perform (guar_of_keeps rfl) fun leading _ => ?_
  split
  · refine .perform (guar_of_keeps rfl) fun states _ => ?_
    refine meets_cleanupNodes ?_ (List.Subset.refl states)
    rw [latest_append_singleton]
    rfl
  · exact meets_pure.2 trivial

theorem GuardKind.meets (kind : GuardKind) :
    (kind.program cfg).Meets (pauseContract cfg kind) (fun _ _ => True) [] := by
  cases kind with
  | hotplugCooldownState node => exact meets_hotplugCooldownState
  | handleHotplugTimeout node volume operation timeoutErr =>
    exact meets_of_keeps (Only.bind keeps_handleHotplugTimeout fun _ => only_pure)
  | clearHotplugGuardState node =>
    exact meets_clearHotplugGuardState.bind fun _ _ _ => meets_pure.2 trivial
  | reconcileHotplugGuardCleanup =>
    exact meets_reconcileHotplugGuardCleanup.bind fun _ _ _ => meets_pure.2 trivial
  | markUnhealthyFailure failure =>
    exact meets_of_keeps (Only.perform rfl fun _ => only_pure)
  | markPaused state => exact meets_of_keeps (Only.perform rfl fun _ => only_pure)

end Programs

/-! ## Runs -/

section Runs

variable {cfg : GuardConfig} {s s' : GuardPool} {l : GuardStep} {node : String}

theorem reachable_pauseContract (hs : ReachableGuard cfg (fun s l => undisturbedPauses cfg s l) s) :
    s.Conforms (pauseContract cfg) (fun _ _ _ => True) := by
  refine (hs.conforms_and_kept ?_ ?_).1
  · intro states kind prog states' hstart
    obtain ⟨rfl, -⟩ := answer_inj hstart
    exact kind.meets
  · intro s t oracle thread op next ans states _ hok hthread hprog hact
    simp only [undisturbedPauses, hthread, hprog, nextOp?] at hok
    cases op with
    | nodeReady other =>
      obtain ⟨rfl, -⟩ := answer_inj hact
      cases hanswer : oracle.nodeReady with
      | ok ready => trivial
      | error err =>
        show trustsOldReadiness thread.kind (s.history t) = false
        simpa [hanswer] using hok
    | maintenanceActive =>
      obtain ⟨rfl, -⟩ := answer_inj hact
      intro hactive
      simpa [hactive] using hok
    | _ => trivial

variable {states : GuardStates}

theorem series_failureCount_of_paused {state : HotplugCooldownState} {now : Int}
    (hstate : states.lookup node = some state) (hpause : state.pauseUntilReady = true) :
    (HotplugGuard.series states node now).failureCount + 1 =
      if state.node = "" then 1 else state.failureCount + 1 := by
  unfold HotplugGuard.series
  rw [hstate, getD_some]
  by_cases hblank : state.node = ""
  · simp [hblank]
  · simp [hblank, hpause]

variable (hpaused : paused states node = true)

include hpaused

theorem paused_insert {other : String} {state : HotplugCooldownState}
    (hstate : node = other → state.pauseUntilReady = true) :
    paused (states.insert other state) node = true := by
  unfold paused
  by_cases hnode : node = other
  · rw [hnode, AList.lookup_insert, any_some, hstate hnode]
  · rw [AList.lookup_insert_ne hnode]
    exact hpaused

theorem paused_markUnhealthyFailure {failure : UnhealthyFailure} {cooldown now : Int}
    (hcount : failure.node = node → ∀ state ∈ states.lookup node, state.pauseUntilReady = true →
      (if failure.threshold ≤ 0 then 1 else failure.threshold) ≤
        if state.node = "" then 1 else state.failureCount + 1) :
    paused (HotplugGuard.markUnhealthyFailure cooldown states failure now).2 node = true := by
  obtain ⟨state, hstate, hpause⟩ := (any_eq_true _ _).1 hpaused
  refine paused_insert hpaused fun hnode => decide_eq_true ?_
  rw [← hnode, series_failureCount_of_paused hstate hpause]
  exact hcount hnode.symm state hstate hpause

theorem paused_markPaused {state : HotplugCooldownState} {now : Int} :
    paused (HotplugGuard.markPaused states state now).2 node = true := by
  unfold HotplugGuard.markPaused
  split
  · exact hpaused
  · exact paused_insert hpaused fun _ => rfl

theorem paused_erase {other : String} (hnode : node ≠ other) :
    paused (states.erase other) node = true := by
  rw [paused, AList.lookup_erase_ne hnode]
  exact hpaused

theorem paused_get {other : String} {now : Int} :
    paused (HotplugGuard.get states other now).2 node = true := by
  unfold HotplugGuard.get
  by_cases hnode : node = other
  · obtain ⟨state, hstate, hpause⟩ := (any_eq_true _ _).1 hpaused
    rw [← hnode, hstate]
    simpa [hpause] using hpaused
  have hkept := paused_erase hpaused hnode
  split
  · exact hpaused
  split
  · exact hpaused
  split
  · show paused (if _ then _ else _) node = true
    split
    · exact hkept
    · exact hpaused
  · split
    · exact hkept
    · exact hpaused

/-- A pause survives every operation on the guard but the clearing of the node, and a failure that
counts too few. -/
theorem paused_act {oracle : GuardOracle} {states' : GuardStates} {op : GuardOp}
    {ans : op.Answer} (hact : actGuard cfg oracle states op = some (ans, states'))
    (hclear : op ≠ .clear node)
    (hcount : ∀ failure, op = .markUnhealthyFailure failure → failure.node = node →
      ∀ state ∈ states.lookup node, state.pauseUntilReady = true →
        (if failure.threshold ≤ 0 then 1 else failure.threshold) ≤
          if state.node = "" then 1 else state.failureCount + 1) :
    paused states' node = true := by
  cases op with
  | markUnhealthyFailure failure =>
    obtain rfl : _ = states' := congrArg Prod.snd (Option.some.inj hact)
    exact paused_markUnhealthyFailure hpaused (hcount failure rfl)
  | markPaused other =>
    obtain rfl : _ = states' := congrArg Prod.snd (Option.some.inj hact)
    exact paused_markPaused hpaused
  | get other =>
    obtain rfl : _ = states' := congrArg Prod.snd (Option.some.inj hact)
    exact paused_get hpaused
  | clear other =>
    obtain rfl : _ = states' := congrArg Prod.snd (Option.some.inj hact)
    exact paused_erase hpaused fun h => hclear (h ▸ rfl)
  | snapshot =>
    simp only [actGuard] at hact
    split at hact
    · obtain ⟨-, rfl⟩ := answer_inj hact
      exact hpaused
    · cases hact
  | _ =>
    obtain ⟨-, rfl⟩ := answer_inj hact
    exact hpaused

omit hpaused

/-! ### The entry that has been read -/

theorem lookup_filterMap {keys : List String} {f : String → Option HotplugCooldownState}
    {state : HotplugCooldownState} (hmem : node ∈ keys) (hstate : f node = some state) :
    (keys.filterMap fun key => (f key).map (key, ·)).lookup node = some state := by
  induction keys with
  | nil => cases hmem
  | cons key keys ih =>
    by_cases hkey : node = key
    · simp [← hkey, hstate]
    · have hrest := ih ((List.mem_cons.1 hmem).resolve_left hkey)
      have hkey : (node == key) = false := beq_eq_false_iff_ne.2 hkey
      cases hother : f key with
      | none => simpa [List.filterMap_cons, hother] using hrest
      | some other => simpa [List.filterMap_cons, hother, List.lookup_cons, hkey] using hrest

/-- An operation that records nothing about the node brings no new entry. -/
theorem lookup_of_act {oracle : GuardOracle} {states' : GuardStates} {op : GuardOp}
    {ans : op.Answer} {state : HotplugCooldownState}
    (hact : actGuard cfg oracle states op = some (ans, states')) (hop : op.marks node = false)
    (hstate : states'.lookup node = some state) : states.lookup node = some state := by
  have herase : ∀ other, (states.erase other).lookup node = some state →
      states.lookup node = some state := by
    intro other h
    by_cases hnode : node = other
    · rw [hnode, AList.lookup_erase] at h
      cases h
    · rwa [AList.lookup_erase_ne hnode] at h
  cases op with
  | markUnhealthyFailure failure =>
    obtain rfl : _ = states' := congrArg Prod.snd (Option.some.inj hact)
    have hne : failure.node ≠ node := of_decide_eq_false hop
    exact (AList.lookup_insert_ne hne.symm).symm.trans hstate
  | markPaused other =>
    obtain rfl : _ = states' := congrArg Prod.snd (Option.some.inj hact)
    have hne : other.node ≠ node := of_decide_eq_false hop
    unfold HotplugGuard.markPaused at hstate
    split at hstate
    · exact hstate
    · exact (AList.lookup_insert_ne hne.symm).symm.trans hstate
  | get other =>
    obtain rfl : _ = states' := congrArg Prod.snd (Option.some.inj hact)
    unfold HotplugGuard.get at hstate
    split at hstate
    · exact hstate
    split at hstate
    · exact hstate
    split at hstate
    · dsimp only at hstate
      split at hstate
      · exact herase other hstate
      · exact hstate
    · split at hstate
      · exact herase other hstate
      · exact hstate
  | clear other =>
    obtain rfl : _ = states' := congrArg Prod.snd (Option.some.inj hact)
    exact herase other hstate
  | snapshot =>
    simp only [actGuard] at hact
    split at hact
    · obtain ⟨-, rfl⟩ := answer_inj hact
      exact hstate
    · cases hact
  | _ =>
    obtain ⟨-, rfl⟩ := answer_inj hact
    exact hstate

/-- Who reads the entry of a paused node is told the pause. -/
theorem toldEntry_of_act {oracle : GuardOracle} {states' : GuardStates} {op : GuardOp}
    {ans : op.Answer} {state : HotplugCooldownState} {read : Option HotplugCooldownState}
    (hact : actGuard cfg oracle states op = some (ans, states'))
    (hread : toldEntry node ⟨op, ans⟩ = some read) (hstate : states.lookup node = some state)
    (hpause : state.pauseUntilReady = true) : read = some state := by
  cases op with
  | get other =>
    obtain rfl : (HotplugGuard.get states other oracle.now).1 = ans :=
      congrArg Prod.fst (Option.some.inj hact)
    simp only [toldEntry] at hread
    split at hread
    · rename_i hnode
      obtain rfl := Option.some.inj hread
      subst hnode
      simp [HotplugGuard.get, hstate, hpause]
    · cases hread
  | snapshot =>
    simp only [actGuard] at hact
    split at hact
    · rename_i hkeys
      obtain ⟨rfl, -⟩ := answer_inj hact
      obtain rfl := Option.some.inj hread
      have hmem : node ∈ states.keys :=
        AList.mem_keys.1 (AList.lookup_isSome.1 (by rw [hstate]; rfl))
      exact lookup_filterMap (hkeys.mem_iff.2 hmem) hstate
    · cases hact
  | _ => cases hread

/-- A pause that has been read, and about which nothing has been recorded since, is the one that was
read. -/
def FreshReads (s : GuardPool) : Prop :=
  ∀ t node read state, freshRead s t node = some read → s.world.lookup node = some state →
    state.pauseUntilReady = true → read = some state

theorem reachable_freshReads {ok : GuardPool → GuardStep → Prop} (hs : ReachableGuard cfg ok s) :
    FreshReads s := by
  have hinit : ∀ states, True → FreshReads (Pool.initial states) := by
    intro states _ t node read state hfresh
    simp [freshRead, Pool.initial, latest] at hfresh
  refine hs.invariant hinit fun s l s' hs ih _ hstep => ?_
  rcases Machine.step_cases hstep with ⟨hstart⟩ |
    @⟨t, oracle, thread, op, next, ans, states, hthread, hprog, hact⟩ | @⟨c⟩
  · obtain ⟨-, rfl⟩ := answer_inj hstart
    exact ih
  · intro reader node read state hfresh hstate hpause
    have hstate : states.lookup node = some state := hstate
    simp only [freshRead, Pool.advance, latest_append_singleton] at hfresh
    split at hfresh
    · cases hfresh
    rename_i hmarks
    have hold := lookup_of_act hact (by simpa using hmarks) hstate
    split at hfresh
    · cases htold : toldEntry node ⟨op, ans⟩ with
      | none =>
        rw [htold] at hfresh
        exact ih reader node read state hfresh hold hpause
      | some told =>
        rw [htold] at hfresh
        obtain rfl := Option.some.inj hfresh
        exact toldEntry_of_act hact htold hold hpause
    · exact ih reader node read state hfresh hold hpause
  · cases c

end Runs

/-- In every undisturbed run, a pause disappears only in a step that clears the node, made by a call
whose own queries have succeeded and reported every required gate. The pause is the one that the
call has read, and nobody has recorded a failure or a pause of the node since. -/
theorem pause_lifted_only_if_reported {cfg : GuardConfig} {s s' : GuardPool} {l : GuardStep}
    {node : String} (hs : ReachableGuard cfg (fun s l => undisturbedPauses cfg s l) s)
    (hok : undisturbedPauses cfg s l = true) (hstep : (hotplugGuard cfg).step l s = some s')
    (hpaused : paused s.world node = true) (hlifted : paused s'.world node = false) :
    ∃ t oracle, l = .act t oracle ∧ s.nextOp? t = some (.clear node) ∧
      freshRead s t node = some (s.world.lookup node) ∧ ReportedReady cfg (s.history t) node := by
  rcases Machine.step_cases hstep with ⟨hstart⟩ |
    @⟨t, oracle, thread, op, next, ans, states, hthread, hprog, hact⟩ | @⟨c⟩
  · obtain ⟨-, rfl⟩ := answer_inj hstart
    exact absurd (hpaused.symm.trans hlifted) (by decide)
  · simp only [undisturbedPauses, hthread, hprog, Program.nextOp?] at hok
    have hclear : op = .clear node := by
      by_contra hne
      have hstill : paused states node = true := by
        refine paused_act hpaused hact hne fun failure hop hnode state hstate hpause => ?_
        subst hop hnode
        have hcount := (all_eq_true _ _).1 hok state hstate
        rw [hpause, Bool.not_true, Bool.false_or] at hcount
        exact of_decide_eq_true hcount
      exact absurd (hstill.symm.trans hlifted) (by decide)
    subst hclear
    obtain ⟨hread, hfresh⟩ : readPaused thread.kind (s.history t) node = true ∧
        (freshRead s t node).isSome = true := by simpa [hpaused] using hok
    refine ⟨t, oracle, rfl, Pool.nextOp?_of_call hthread hprog, ?_, ?_⟩
    · obtain ⟨read, hfresh⟩ := isSome_iff_exists.1 hfresh
      obtain ⟨state, hstate, hpause⟩ := (any_eq_true _ _).1 hpaused
      rw [hfresh, hstate, reachable_freshReads hs t node read state hfresh hstate hpause]
    · exact (reachable_pauseContract hs).guar hthread hprog node rfl hread
  · cases c

/-! ## The first two disturbances, and a run without any -/

/-- The step takes the pause of the node away. -/
def liftsPause (cfg : GuardConfig) (node : String) (l : GuardStep) (s : GuardPool) : Bool :=
  paused s.world node && ((hotplugGuard cfg).step l s).any fun s' => !paused s'.world node

theorem lifted_of_run {cfg : GuardConfig} {ok : GuardPool → GuardStep → Prop}
    {check : GuardPool → GuardStep → Bool} (hcheck : ∀ s l, check s l = true → ok s l)
    {ls : List GuardStep} {l : GuardStep} {node : String} {property : GuardPool → Prop}
    (hrun : ∃ s ∈ (hotplugGuard cfg).run check ls (Pool.initial ∅),
      liftsPause cfg node l s = true ∧ property s) :
    ∃ s s', ReachableGuard cfg ok s ∧ (hotplugGuard cfg).step l s = some s' ∧
      paused s.world node = true ∧ paused s'.world node = false ∧ property s := by
  obtain ⟨s, hs, hlifts, hproperty⟩ :=
    @Machine.Reachable.of_run _ _ _ _ _ _ _ _ (fun _ => True) ok check hcheck _ trivial _ _ hrun
  obtain ⟨hpaused, hstep⟩ := Bool.and_eq_true_iff.1 hlifts
  obtain ⟨s', hsome, hnot⟩ := (any_eq_true _ _).1 hstep
  exact ⟨s, s', hs, hsome, hpaused, by simpa using hnot, hproperty⟩

/-- Both gates are required and the first failure pauses. -/
def pausingConfig : GuardConfig where
  nodeHotplugGuardEnabled := true
  requireKubernetesReady := true
  requireOpenNebulaReady := true
  failureThreshold := 1
  cooldown := 300
  kubeRuntimeEnabled := true
  maintenanceMode := false
  stuckAfter := 600
  tables := .ascii

/-- An attachment to the node that has timed out. -/
def timedOut (node : String) : GuardKind :=
  .handleHotplugTimeout node "v2" "attach"
    { timeout := 120, lastObservedReady := true, lastObservedAttached := false }

/-- A node that Kubernetes reports as not ready, or whose machine OpenNebula does not answer for. -/
def kubernetesDown : GuardOracle :=
  { nodeHealth := .ok { ready := false, unschedulable := false } }

def openNebulaDown : GuardOracle :=
  { nodeReady := .error (.plain "connection refused") }

/-- The success of one volume finds no pause, the timeout of another one pauses the node. -/
def staleReadRun : List GuardStep :=
  [.start (.clearHotplugGuardState "n1"), .act 0 {}, .start (timedOut "n1"),
    .act 1 kubernetesDown, .act 1 kubernetesDown, .act 1 kubernetesDown]

/-- A node is paused that OpenNebula has reported ready; at the next call OpenNebula is down. -/
def failedQueryRun : List GuardStep :=
  [.start (timedOut "n1"), .act 0 kubernetesDown, .act 0 kubernetesDown, .act 0 kubernetesDown,
    .start (.hotplugCooldownState "n1"), .act 1 openNebulaDown, .act 1 openNebulaDown,
    .act 1 openNebulaDown, .act 1 openNebulaDown]

/-- The pause is lifted by a call that has asked nothing, and by one whose query has failed. -/
theorem pause_lifted_after_stale_read :
    (∃ s s', ReachableGuard pausingConfig (fun _ _ => True) s ∧
      (hotplugGuard pausingConfig).step (.act 0 {}) s = some s' ∧ paused s.world "n1" = true ∧
      paused s'.world "n1" = false ∧ latest (toldHealth "n1") (s.history 0) = none ∧
      latest (toldReady "n1") (s.history 0) = none) ∧
    ∃ s s', ReachableGuard pausingConfig (fun _ _ => True) s ∧
      (hotplugGuard pausingConfig).step (.act 1 {}) s = some s' ∧ paused s.world "n1" = true ∧
      paused s'.world "n1" = false ∧
      latest (toldReady "n1") (s.history 1) = some (.error (.plain "connection refused")) := by
  have hstale : ∃ s ∈ (hotplugGuard pausingConfig).run (fun _ _ => true) staleReadRun
      (Pool.initial ∅), liftsPause pausingConfig "n1" (.act 0 {}) s = true ∧
        latest (toldHealth "n1") (s.history 0) = none ∧
          latest (toldReady "n1") (s.history 0) = none := by
    decide +kernel
  have hfailed : ∃ s ∈ (hotplugGuard pausingConfig).run (fun _ _ => true) failedQueryRun
      (Pool.initial ∅), liftsPause pausingConfig "n1" (.act 1 {}) s = true ∧
        latest (toldReady "n1") (s.history 1) = some (.error (.plain "connection refused")) := by
    decide +kernel
  constructor
  · exact lifted_of_run (fun _ _ _ => trivial) hstale
  · exact lifted_of_run (fun _ _ _ => trivial) hfailed

/-- A timeout pauses the node. When all queries are answered, the next call reads the pause and
lifts it after both reports. -/
theorem reported_pause_lifted :
    ∃ s state, ReachableGuard pausingConfig (fun s l => undisturbedPauses pausingConfig s l) s ∧
      s.world.lookup "n1" = some state ∧ state.pauseUntilReady = true ∧ state.volume = "v2" ∧
      ∃ t, s.nextOp? t = some (.clear "n1") ∧ freshRead s t "n1" = some (some state) ∧
        ReportedReady pausingConfig (s.history t) "n1" := by
  have hrun : ∃ s ∈ (hotplugGuard pausingConfig).run (undisturbedPauses pausingConfig)
      [.start (timedOut "n1"), .act 0 kubernetesDown, .act 0 kubernetesDown, .act 0 kubernetesDown,
        .start (.hotplugCooldownState "n1"), .act 1 {}, .act 1 {}, .act 1 {}, .act 1 {}]
      (Pool.initial ∅), liftsPause pausingConfig "n1" (.act 1 {}) s = true ∧
        undisturbedPauses pausingConfig s (.act 1 {}) = true ∧
        ∃ state ∈ s.world.lookup "n1", state.pauseUntilReady = true ∧ state.volume = "v2" := by
    decide +kernel
  obtain ⟨s, s', hs, hstep, hpaused, hlifted, hok, state, hstate, hpause, hvolume⟩ :=
    lifted_of_run (fun _ _ h => h) hrun
  obtain ⟨t, _, -, hnext, hread, hreported⟩ :=
    pause_lifted_only_if_reported hs hok hstep hpaused hlifted
  exact ⟨s, state, hs, hstate, hpause, hvolume, t, hnext, hread.trans (congrArg some hstate),
    hreported⟩

end OpenNebulaCSI.Quarantine
