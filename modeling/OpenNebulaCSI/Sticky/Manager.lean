import Mathlib.Algebra.Group.Nat.Defs
import Mathlib.Data.String.Basic
import Mathlib.Tactic.Ring
import OpenNebulaCSI.Controller.Closures

/-!
# Memory and ConfigMap of the sticky attachment manager

`StickyAttachmentManager` keeps its entries in memory and writes each of them through to a
ConfigMap. Its operations change the memory first and compensate when the write fails, but only
`Update` puts back what it has replaced: a failed `StartGrace` drops an older hold from memory, and
a failed `Clear` leaves the entry in the ConfigMap only (`failed_operations_lose_entries`).

The programs are those of the controller. Here they run one after the other over a `Manager`, whose
ConfigMap calls may fail.
-/

namespace OpenNebulaCSI.Sticky

open Go Concurrency Controller

/-- The entries in memory, and those in the ConfigMap. -/
structure Manager where
  memory : String → Option StickyAttachmentState
  store : String → Option StickyAttachmentState

/-- `persistEntry` and `deleteEntry`: replace an entry of the ConfigMap. Nothing is written while
the Kubernetes runtime is disabled, and a failed call has no effect. -/
def Manager.write (enabled : Bool) (failure : Option GoError) (m : Manager) (volume : String)
    (entry : Option StickyAttachmentState) : Option GoError × Manager :=
  if !enabled then (none, m)
  else
    match failure with
    | some err => (some err, m)
    | none => (none, { m with store := Function.update m.store volume entry })

/-- How the operations of the manager are answered; its programs call no others. -/
def act (enabled : Bool) (failure : Option GoError) (m : Manager) :
    (op : Controller.Op) → Option (op.Answer × Manager)
  | .stickyGet _ volume => some (m.memory volume, m)
  | .stickySwap volume state =>
    some (m.memory volume, { m with memory := Function.update m.memory volume (some state) })
  | .stickyDelete volume => some ((), { m with memory := Function.update m.memory volume none })
  | .query (.persistSticky state) => some (m.write enabled failure state.volumeID (some state))
  | .query (.deleteSticky volume) => some (m.write enabled failure volume none)
  | _ => none

/-- Run a program of the manager to its end. -/
def exec {α : Type} (enabled : Bool) (failure : Option GoError) :
    Controller.Prog α → Manager → Option (α × Manager)
  | .ret value, m => some (value, m)
  | .call op next, m =>
    match act enabled failure m op with
    | some (ans, m) => exec enabled failure (next ans) m
    | none => none

inductive Operation where
  | startGrace (state : StickyAttachmentState)
  | update (state : StickyAttachmentState)
  | clear (volume : String)

def Operation.program : Operation → Controller.Prog (Option GoError)
  | .startGrace state => Controller.startGrace state
  | .update state => stickyUpdate state
  | .clear volume => stickyClear volume

/-- The volume whose entry an operation is about. -/
def Operation.volume : Operation → String
  | .startGrace state | .update state => state.volumeID
  | .clear volume => volume

/-- An operation, and the error of its ConfigMap call if that fails. -/
structure Call where
  operation : Operation
  failure : Option GoError

def Call.exec (enabled : Bool) (call : Call) (m : Manager) : Option (Option GoError × Manager) :=
  Sticky.exec enabled call.failure call.operation.program m

def Manager.Agrees (m : Manager) : Prop :=
  m.memory = m.store

/-- An error means that nothing has changed for the volume, and no error means that memory and
ConfigMap have the same entry of it. -/
def Atomic (volume : String) (m : Manager) (err : Option GoError) (m' : Manager) : Prop :=
  (err ≠ none → m'.memory volume = m.memory volume ∧ m'.store volume = m.store volume) ∧
  (err = none → m'.memory volume = m'.store volume)

/-- Every operation of the sequence returns and is atomic, and memory and ConfigMap agree before and
after each of them. -/
def Faithful (enabled : Bool) : List Call → Manager → Prop
  | [], m => m.Agrees
  | call :: calls, m => m.Agrees ∧ ∃ err m', call.exec enabled m = some (err, m') ∧
      Atomic call.operation.volume m err m' ∧ Faithful enabled calls m'

/-- The operation has nothing to write, or its write is one that it can take back: of an `Update`,
or of a volume without an entry. -/
def Call.recoverable (enabled : Bool) (m : Manager) (call : Call) : Bool :=
  trimSpace call.operation.volume = "" ||
  match call.operation with
  | .startGrace state =>
    if enabled then call.failure.isNone || (m.memory state.volumeID).isNone
    else m.memory state.volumeID = some state
  | .update state => enabled || m.memory state.volumeID = some state
  | .clear volume => (enabled && call.failure.isNone) || (m.memory volume).isNone

/-- Every operation of the sequence is recoverable in the state it finds. -/
def Recoverable (enabled : Bool) : List Call → Manager → Bool
  | [], _ => true
  | call :: calls, m =>
    call.recoverable enabled m &&
      (call.exec enabled m).any fun result => Recoverable enabled calls result.2

/-! ## One operation -/

section Operations

variable {enabled : Bool} {failure : Option GoError} {m : Manager}
  {state : StickyAttachmentState} {volume : String}

/-- The memory after an entry has been put in or taken out. -/
def Manager.remember (m : Manager) (volume : String) (entry : Option StickyAttachmentState) :
    Manager :=
  { m with memory := Function.update m.memory volume entry }

@[simp]
theorem Manager.remember_memory (entry : Option StickyAttachmentState) :
    (m.remember volume entry).memory = Function.update m.memory volume entry :=
  rfl

@[simp]
theorem Manager.remember_store (entry : Option StickyAttachmentState) :
    (m.remember volume entry).store = m.store :=
  rfl

/-- The entry that an operation writes. -/
def Operation.entry : Operation → Option StickyAttachmentState
  | .startGrace state | .update state => some state
  | .clear _ => none

/-- The entry that an operation leaves in memory when its write has failed. -/
def Operation.undone (m : Manager) : Operation → Option StickyAttachmentState
  | .update state => m.memory state.volumeID
  | .startGrace _ | .clear _ => none

theorem exec_write {call : Call} (hvolume : trimSpace call.operation.volume ≠ "") :
    call.exec enabled m =
      match (m.remember call.operation.volume call.operation.entry).write enabled call.failure
          call.operation.volume call.operation.entry with
      | (none, m') => some (none, m')
      | (some err, m') =>
        some (some err, m'.remember call.operation.volume (call.operation.undone m)) := by
  obtain ⟨operation, failure⟩ := call
  cases operation with
  | startGrace state =>
    have hid : trimSpace state.volumeID ≠ "" := hvolume
    simp only [Call.exec, Operation.program, Controller.startGrace, if_neg hid]
    cases enabled <;> cases failure <;> rfl
  | update state =>
    have hid : trimSpace state.volumeID ≠ "" := hvolume
    simp only [Call.exec, Operation.program, stickyUpdate, if_neg hid, Program.perform_bind,
      exec, act, Operation.undone]
    cases m.memory state.volumeID <;> cases enabled <;> cases failure <;> rfl
  | clear volume =>
    have hid : trimSpace volume ≠ "" := hvolume
    simp only [Call.exec, Operation.program, stickyClear, if_neg hid]
    cases enabled <;> cases failure
    case true.some err =>
      show some (some err, m.remember volume none) =
        some (some err, (m.remember volume none).remember volume none)
      simp [Manager.remember]
    all_goals rfl

theorem exec_blank {call : Call} (hvolume : trimSpace call.operation.volume = "") :
    ∃ err, call.exec enabled m = some (err, m) := by
  obtain ⟨operation, failure⟩ := call
  cases operation with
  | startGrace state =>
    refine ⟨some (.plain "volumeID is required"), ?_⟩
    have hblank : trimSpace state.volumeID = "" := hvolume
    simp only [Call.exec, Operation.program, Controller.startGrace, if_pos hblank]
    rfl
  | update state =>
    refine ⟨some (.plain "volumeID is required"), ?_⟩
    have hblank : trimSpace state.volumeID = "" := hvolume
    simp only [Call.exec, Operation.program, stickyUpdate, if_pos hblank]
    rfl
  | clear volume =>
    refine ⟨none, ?_⟩
    have hblank : trimSpace volume = "" := hvolume
    simp only [Call.exec, Operation.program, stickyClear, if_pos hblank]
    rfl

end Operations

/-- What an operation has done is right if and only if it was recoverable. -/
def Settles (enabled : Bool) (call : Call) (m : Manager) : Prop :=
  ∃ err m', call.exec enabled m = some (err, m') ∧
    (Atomic call.operation.volume m err m' ∧ m'.Agrees ↔ call.recoverable enabled m = true)

theorem settles_of_agrees {m : Manager} (hagrees : m.Agrees) (enabled : Bool) (call : Call) :
    Settles enabled call m := by
  obtain ⟨memory, store⟩ := m
  obtain rfl : memory = store := hagrees
  by_cases hvolume : trimSpace call.operation.volume = ""
  · obtain ⟨err, hexec⟩ := @exec_blank enabled ⟨memory, memory⟩ call hvolume
    refine ⟨err, _, hexec, ?_⟩
    simp [Atomic, Manager.Agrees, Call.recoverable, hvolume]
  have hexec := @exec_write enabled ⟨memory, memory⟩ call hvolume
  obtain ⟨operation, failure⟩ := call
  cases enabled with
  | false =>
    refine ⟨none, _, hexec, ?_⟩
    cases operation with
    | _ =>
      simp only [Operation.volume] at hvolume
      simpa [Atomic, Manager.Agrees, Call.recoverable, Operation.entry, Operation.volume, hvolume]
        using eq_comm
  | true => ?_
  cases failure with
  | none =>
    refine ⟨none, _, hexec, ?_⟩
    cases operation <;> simp [Atomic, Manager.Agrees, Call.recoverable, Operation.entry]
  | some err =>
    refine ⟨some err, _, hexec, ?_⟩
    cases operation with
    | update state =>
      simp [Atomic, Manager.Agrees, Call.recoverable, Operation.undone, Operation.volume]
    | _ =>
      simp only [Operation.volume] at hvolume
      simpa [Atomic, Manager.Agrees, Call.recoverable, Operation.undone, Operation.volume, hvolume]
        using eq_comm

/-! ## Sequences of operations -/

/-- Along every sequence of operations from entries that agree, with whatever failures, all
operations are atomic and memory and ConfigMap always agree, if and only if every operation is
recoverable. -/
theorem faithful_iff_recoverable (enabled : Bool) (calls : List Call) (m : Manager)
    (hagrees : m.Agrees) : Faithful enabled calls m ↔ Recoverable enabled calls m = true := by
  induction calls generalizing m with
  | nil =>
    exact ⟨fun _ => rfl, fun _ => hagrees⟩
  | cons call calls ih =>
    obtain ⟨err, m', hexec, hiff⟩ := settles_of_agrees hagrees enabled call
    have hrecoverable : Recoverable enabled (call :: calls) m = true ↔
        call.recoverable enabled m = true ∧ Recoverable enabled calls m' = true := by
      simp [Recoverable, hexec]
    rw [hrecoverable]
    constructor
    · rintro ⟨-, err', m'', hexec', hatomic, hrest⟩
      obtain ⟨rfl, rfl⟩ := answer_inj (hexec.symm.trans hexec')
      -- The rest of the sequence is faithful, so the entries agree where it starts.
      have hagrees' : m'.Agrees := by
        cases calls with
        | nil => exact hrest
        | cons _ _ => exact hrest.1
      exact ⟨hiff.1 ⟨hatomic, hagrees'⟩, (ih m' hagrees').1 hrest⟩
    · rintro ⟨hcall, hcalls⟩
      obtain ⟨hatomic, hagrees'⟩ := hiff.2 hcall
      exact ⟨hagrees, err, m', hexec, hatomic, (ih m' hagrees').2 hcalls⟩

/-! ## Failures that lose an entry -/

/-- A manager without entries. -/
def noEntries : Manager where
  memory _ := none
  store _ := none

/-- A hold of the volume "v" on a node. -/
def hold (node : String) (expiresAt : Int) : StickyAttachmentState where
  volumeID := "v"
  nodeID := node
  backend := "local"
  datastoreID := 100
  pvcNamespace := "default"
  pvcName := "claim"
  startedAt := 0
  expiresAt
  graceSeconds := 90
  reason := "stateful_restart"
  lastKnownNodeReady := true

def refused : GoError :=
  .plain "connection refused"

/-- After a hold on "n1", a `StartGrace` for "n2" and a `Clear` both return an error. The first
leaves no entry in memory, and the second takes it out of memory, while the ConfigMap keeps it. -/
theorem failed_operations_lose_entries :
    ∃ held replaced cleared,
      Call.exec true ⟨.startGrace (hold "n1" 90), none⟩ noEntries = some (none, held) ∧
      held.memory "v" = some (hold "n1" 90) ∧ held.store "v" = some (hold "n1" 90) ∧
      Call.exec true ⟨.startGrace (hold "n2" 95), some refused⟩ held =
        some (some refused, replaced) ∧
      replaced.memory "v" = none ∧ replaced.store "v" = some (hold "n1" 90) ∧
      Call.exec true ⟨.clear "v", some refused⟩ held = some (some refused, cleared) ∧
      cleared.memory "v" = none ∧ cleared.store "v" = some (hold "n1" 90) := by
  have hvolume : trimSpace "v" ≠ "" := by decide +kernel
  refine ⟨_, _, _, exec_write hvolume, ?_, ?_, exec_write hvolume, ?_, ?_,
    exec_write hvolume, ?_, ?_⟩
  all_goals rfl

/-- A hold is made, its extension fails, and it is cleared. -/
theorem failed_update_keeps_entries :
    Faithful true [⟨.startGrace (hold "n1" 90), none⟩, ⟨.update (hold "n1" 150), some refused⟩,
      ⟨.clear "v", none⟩] noEntries :=
  (faithful_iff_recoverable true _ noEntries rfl).2 (by decide +kernel)

/-! ## Releasing maintenance holds

While maintenance mode is active, an unpublish is turned into a sticky entry with the reason
`maintenanceStickyReason`. When the mode ends, `releaseMaintenanceHolds` gives these entries another
reason and an expiry of their own, spread over the configured interval. The part of it that rewrites
the listed entries is a program over the sticky manager; who lists them, and when, is left to the
modules that use it. The expiries are spread evenly over the interval (`holds_released_evenly`).
-/

def maintenanceStickyReason : String :=
  "maintenance_mode"

def maintenanceReleaseReason : String :=
  "maintenance_release"

/-- The configured bounds of the release interval in seconds, where they are set. -/
structure ReleaseConfig where
  minSeconds : Option Int
  maxSeconds : Option Int

/-- The bounds in nanoseconds, as 64-bit integers. -/
def maintenanceReleaseBounds (cfg : ReleaseConfig) : Int × Int :=
  let minSeconds :=
    match cfg.minSeconds with
    | some value => if value < 0 then 300 else value
    | none => 300
  let maxSeconds :=
    match cfg.maxSeconds with
    | some value => if value < minSeconds then minSeconds else value
    | none => minSeconds
  (Int.bmod (minSeconds * 1000000000) (2 ^ 64), Int.bmod (maxSeconds * 1000000000) (2 ^ 64))

/-- The delay of the `index`-th of `total` holds. -/
def staggeredMaintenanceDelay (index total : ℕ) (minDelay maxDelay : Int) : Int :=
  if total ≤ 1 ∨ maxDelay ≤ minDelay then minDelay
  else
    -- The product is one of 64-bit integers.
    minDelay + (Int.bmod ((maxDelay - minDelay) * index) (2 ^ 64)).tdiv (total - 1)

/-- What a hold becomes when it is released. -/
def released (now delay : Int) (state : StickyAttachmentState) : StickyAttachmentState :=
  { state with
    reason := maintenanceReleaseReason
    startedAt := now
    expiresAt := now + delay
    graceSeconds := delay.tdiv 1000000000 }

/-- The loop of `releaseMaintenanceHolds` from the `index`-th hold on; a failed update is passed
over. -/
def releaseFrom (cfg : ReleaseConfig) (now : Int) (total : ℕ) :
    ℕ → List StickyAttachmentState → Controller.Prog Unit
  | _, [] => return ()
  | index, state :: states => do
      let bounds := maintenanceReleaseBounds cfg
      let delay := staggeredMaintenanceDelay index total bounds.1 bounds.2
      let _ ← stickyUpdate (released now delay state)
      releaseFrom cfg now total (index + 1) states

/-- `releaseMaintenanceHolds`, once it has listed the holds. -/
def releaseHolds (cfg : ReleaseConfig) (states : List StickyAttachmentState) :
    Controller.Prog Unit :=
  if states = [] then return ()
  else do
    let now ← query .now
    releaseFrom cfg now states.length 0 states

/-- The entries under the given keys whose reason is the given one up to blanks, sorted by volume.
-/
def listByReason (keys : List String) (entries : String → Option StickyAttachmentState)
    (reason : String) : List StickyAttachmentState :=
  ((keys.dedup.filterMap entries).filter fun state => trimSpace state.reason = trimSpace reason)
    |>.insertionSort fun a b => a.volumeID ≤ b.volumeID

theorem mem_listByReason {keys : List String} {entries : String → Option StickyAttachmentState}
    {reason : String} {state : StickyAttachmentState}
    (h : state ∈ listByReason keys entries reason) : ∃ volume, entries volume = some state := by
  have hfilter := List.mem_filter.1 ((List.mem_insertionSort _).1 h)
  obtain ⟨volume, -, hentry⟩ := List.mem_filterMap.1 hfilter.1
  exact ⟨volume, hentry⟩

/-! ## How far apart the releases are -/

/-- The delays of `total` holds are spread over the interval as evenly as whole numbers allow. -/
structure EvenlySpaced (minDelay maxDelay : Int) (total : ℕ) (delay : ℕ → Int) : Prop where
  first : delay 0 = minDelay
  last : delay (total - 1) = maxDelay
  mono : ∀ i j, i ≤ j → j < total → delay i ≤ delay j
  within : ∀ i < total, minDelay ≤ delay i ∧ delay i ≤ maxDelay
  /-- The quotient, rounded down or up. -/
  step : ∀ i, i + 1 < total →
    delay (i + 1) - delay i = (maxDelay - minDelay) / (total - 1) ∨
      delay (i + 1) - delay i = (maxDelay - minDelay + (total - 2)) / (total - 1)
  apart : ∀ i, i + 1 < total → (maxDelay - minDelay) / (total - 1) ≤ delay (i + 1) - delay i

/-- The multiples of a number, divided and rounded down, grow by its quotient rounded down or up. -/
theorem ediv_add_sub (t s : Int) {m : Int} (hm : 0 < m) :
    (t + s) / m - t / m = s / m ∨ (t + s) / m - t / m = (s + (m - 1)) / m := by
  have ht := Int.mul_ediv_add_emod t m
  have hs := Int.mul_ediv_add_emod s m
  have htlt := Int.emod_lt_of_pos t hm
  have hslt := Int.emod_lt_of_pos s hm
  have htpos := Int.emod_nonneg t hm.ne'
  have hspos := Int.emod_nonneg s hm.ne'
  by_cases hcarry : t % m + s % m < m
  · have hsum := (Int.ediv_emod_unique (a := t + s) (q := t / m + s / m) hm).2
      ⟨by rw [Int.mul_add]; omega, by omega, hcarry⟩
    omega
  · -- The remainders carry, so that of `s` is not zero.
    have hsum := (Int.ediv_emod_unique (a := t + s) (q := t / m + s / m + 1) hm).2
      ⟨by rw [Int.mul_add, Int.mul_add]; omega, by omega, (by omega : t % m + s % m - m < m)⟩
    have hup := (Int.ediv_emod_unique (a := s + (m - 1)) (q := s / m + 1) hm).2
      ⟨by rw [Int.mul_add]; omega, by omega, (by omega : s % m - 1 < m)⟩
    omega

variable {minDelay maxDelay : Int} {total : ℕ}

theorem evenlySpaced_of_eq {delay : ℕ → Int} (htotal : 2 ≤ total) (hle : minDelay ≤ maxDelay)
    (heq : ∀ i < total, delay i = minDelay + (maxDelay - minDelay) * i / (total - 1)) :
    EvenlySpaced minDelay maxDelay total delay := by
  have hm : (0 : Int) < total - 1 := by omega
  have hfirst : delay 0 = minDelay := by
    rw [heq 0 (by omega)]
    simp
  have hlast : delay (total - 1) = maxDelay := by
    rw [heq _ (by omega), Int.natCast_sub (by omega), Int.natCast_one,
      Int.mul_ediv_cancel _ hm.ne']
    omega
  have hmono : ∀ i j, i ≤ j → j < total → delay i ≤ delay j := by
    intro i j hij hj
    have hmul : (maxDelay - minDelay) * i ≤ (maxDelay - minDelay) * j :=
      Int.mul_le_mul_of_nonneg_left (by omega) (by omega)
    have hdiv := Int.ediv_le_ediv hm hmul
    rw [heq i (by omega), heq j hj]
    omega
  have hstep : ∀ i, i + 1 < total →
      delay (i + 1) - delay i = (maxDelay - minDelay) / (total - 1) ∨
        delay (i + 1) - delay i = (maxDelay - minDelay + (total - 2)) / (total - 1) := by
    intro i hi
    have hgrow := ediv_add_sub ((maxDelay - minDelay) * i) (maxDelay - minDelay) hm
    have hmul : (maxDelay - minDelay) * ((i + 1 : ℕ) : Int) =
        (maxDelay - minDelay) * i + (maxDelay - minDelay) := by
      push_cast
      ring
    rw [heq (i + 1) hi, heq i (by omega), hmul, show (total : Int) - 2 = total - 1 - 1 by omega]
    omega
  refine ⟨hfirst, hlast, hmono, fun i hi => ?_, hstep, fun i hi => ?_⟩
  · have hlow := hmono 0 i (by omega) hi
    have hhigh := hmono i (total - 1) (by omega) (by omega)
    omega
  · have hround : (maxDelay - minDelay) / (total - 1) ≤
        (maxDelay - minDelay + (total - 2)) / (total - 1) := Int.ediv_le_ediv hm (by omega)
    have := hstep i hi
    omega

theorem staggeredMaintenanceDelay_eq (hlt : minDelay < maxDelay)
    (hfits : (maxDelay - minDelay) * (total - 1) < 2 ^ 63) {index : ℕ} (htotal : 2 ≤ total)
    (hindex : index < total) :
    staggeredMaintenanceDelay index total minDelay maxDelay =
      minDelay + (maxDelay - minDelay) * index / (total - 1) := by
  have hpos : 0 ≤ (maxDelay - minDelay) * index := Int.mul_nonneg (by omega) (by omega)
  have hle : (maxDelay - minDelay) * index ≤ (maxDelay - minDelay) * (total - 1) :=
    Int.mul_le_mul_of_nonneg_left (by omega) (by omega)
  rw [staggeredMaintenanceDelay, if_neg (by omega), Int.bmod_eq_of_le (by omega) (by omega),
    Int.tdiv_eq_ediv_of_nonneg hpos]

/-- The loop writes every hold once, with the delay of its position. -/
theorem releaseFrom_eq (cfg : ReleaseConfig) (now : Int) (index : ℕ)
    (states : List StickyAttachmentState) :
    releaseFrom cfg now total index states =
      forM (states.mapIdx fun i => released now (staggeredMaintenanceDelay (index + i) total
        (maintenanceReleaseBounds cfg).1 (maintenanceReleaseBounds cfg).2))
        (fun state => stickyUpdate state >>= fun _ => pure ()) := by
  induction states generalizing index with
  | nil => rfl
  | cons state states ih =>
    rw [releaseFrom, List.mapIdx_cons, List.forM_cons, ih (index + 1)]
    simp only [Nat.add_assoc, Nat.add_comm 1, Nat.add_zero, Program.bind_assoc, Program.pure_eq,
      Program.ret_bind]

/-- The delays of the holds are spread evenly, and what is written for the hold at each position, in
the order of the volumes, starts now, expires after the delay of this position and has its whole
seconds as the grace period. -/
theorem holds_released_evenly (htotal : 2 ≤ total) (hlt : minDelay < maxDelay)
    (hfits : (maxDelay - minDelay) * (total - 1) < 2 ^ 63) :
    ∃ delay : ℕ → Int, EvenlySpaced minDelay maxDelay total delay ∧
      (∀ i < total, staggeredMaintenanceDelay i total minDelay maxDelay = delay i) ∧
      ∀ cfg keys entries states, maintenanceReleaseBounds cfg = (minDelay, maxDelay) →
        states = listByReason keys entries maintenanceStickyReason → states.length = total →
        states.Pairwise (fun a b => a.volumeID ≤ b.volumeID) ∧
          releaseHolds cfg states = query .now >>= fun now =>
            forM (states.mapIdx fun i hold =>
              { hold with
                reason := maintenanceReleaseReason
                startedAt := now
                expiresAt := now + delay i
                graceSeconds := (delay i).tdiv 1000000000 })
              (fun state => stickyUpdate state >>= fun _ => pure ()) := by
  refine ⟨fun i => staggeredMaintenanceDelay i total minDelay maxDelay,
    evenlySpaced_of_eq htotal hlt.le fun i hi =>
      staggeredMaintenanceDelay_eq hlt hfits htotal hi, fun _ _ => rfl, ?_⟩
  intro cfg keys entries states hbounds hstates hlength
  have hne : states ≠ [] := by
    rw [← List.length_pos_iff]
    omega
  refine ⟨hstates ▸ List.pairwise_insertionSort _ _, ?_⟩
  simp only [releaseHolds, if_neg hne, releaseFrom_eq, hlength, hbounds, Nat.zero_add]
  rfl

/-- The hold of a volume during maintenance. -/
def maintenanceHold (volumeID : String) : StickyAttachmentState :=
  { hold "n1" 90 with volumeID, reason := maintenanceStickyReason }

/-- What the hold of a volume becomes, with a delay in seconds. -/
def releasedHold (now seconds : Int) (volumeID : String) : StickyAttachmentState :=
  { hold "n1" (now + seconds * 1000000000) with
    volumeID
    reason := "maintenance_release"
    startedAt := now
    graceSeconds := seconds }

/-- Of four entries, three are holds. They are released after five, five and a half and six
minutes. -/
theorem three_holds_released_evenly :
    releaseHolds ⟨some 300, some 360⟩ (listByReason ["v3", "v", "v1", "v2"]
        (fun volume => if volume = "v" then some (hold "n1" 90) else some (maintenanceHold volume))
        maintenanceStickyReason) =
      query .now >>= fun now =>
        forM [releasedHold now 300 "v1", releasedHold now 330 "v2", releasedHold now 360 "v3"]
          (fun state => stickyUpdate state >>= fun _ => pure ()) := by
  obtain ⟨delay, hspaced, -, hwritten⟩ :=
    @holds_released_evenly 300000000000 360000000000 3 (by decide) (by decide) (by decide)
  have hholds : listByReason ["v3", "v", "v1", "v2"] (fun volume =>
      if volume = "v" then some (hold "n1" 90) else some (maintenanceHold volume))
      maintenanceStickyReason = ["v1", "v2", "v3"].map maintenanceHold := by
    decide +kernel
  rw [(hwritten _ _ _ _ (by decide) rfl (by rw [hholds]; rfl)).2, hholds]
  have hfirst : delay 0 = 300000000000 := hspaced.first
  have hlast : delay 2 = 360000000000 := hspaced.last
  have hmid : delay 1 = 330000000000 := by
    have hstep := hspaced.step 0 (by decide)
    rw [hfirst] at hstep
    norm_num at hstep
    omega
  simp only [List.map_cons, List.map_nil, List.mapIdx_cons, List.mapIdx_nil, hfirst, hmid, hlast]
  rfl

end OpenNebulaCSI.Sticky
