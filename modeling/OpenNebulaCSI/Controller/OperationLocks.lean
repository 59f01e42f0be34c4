import Mathlib.Data.List.Dedup
import Mathlib.Data.List.Sort
import Mathlib.Logic.Function.Basic

/-!
# Operation locks

`OperationLocks` maps a key to a reference-counted mutex. A request first **registers** at all of
its keys, which creates missing mutexes and counts the request, then locks the mutexes one after
the other. Releasing unlocks them in reverse order and unregisters, and a mutex nobody is
registered at is dropped from the table. A later request for the same key then gets a new mutex,
so a mutex is identified by its key and a serial number.
-/

namespace OpenNebulaCSI.Controller

/-- An `operationLockRef`. -/
structure LockRef where
  key : String
  serial : ℕ
  deriving DecidableEq

structure OperationLocks where
  /-- The table of current mutexes. -/
  locks : String → Option LockRef
  /-- The number of requests registered at a mutex. -/
  refs : LockRef → ℕ
  /-- The thread that has locked a mutex. -/
  holder : LockRef → Option ℕ
  /-- The number of mutexes created so far. -/
  created : ℕ

namespace OperationLocks

/-- `NewOperationLocks`. -/
def new : OperationLocks where
  locks _ := none
  refs _ := 0
  holder _ := none
  created := 0

def normalizeLockKeys (keys : List String) : List String :=
  (keys.filter (· ≠ "")).dedup.insertionSort (· ≤ ·)

/-- Count a request at the mutex of `key`, creating the mutex if there is none. -/
def registerKey (o : OperationLocks) (key : String) : LockRef × OperationLocks :=
  let ref := (o.locks key).getD { key, serial := o.created }
  let created := if (o.locks key).isSome then o.created else o.created + 1
  (ref, { o with
    locks := Function.update o.locks key (some ref)
    refs := Function.update o.refs ref (o.refs ref + 1)
    created })

/-- The first half of `Acquire`, under the table's own mutex. -/
def register (o : OperationLocks) : List String → List LockRef × OperationLocks
  | [] => ([], o)
  | key :: keys =>
    let (ref, o) := o.registerKey key
    let (refs, o) := o.register keys
    (ref :: refs, o)

/-- `ref.mu.Lock()`, which blocks while somebody holds the mutex. -/
def lock (o : OperationLocks) (t : ℕ) (ref : LockRef) : Option OperationLocks :=
  if (o.holder ref).isNone then some { o with holder := Function.update o.holder ref (some t) }
  else none

/-- `ref.mu.Unlock()`. -/
def unlock (o : OperationLocks) (ref : LockRef) : OperationLocks :=
  { o with holder := Function.update o.holder ref none }

/-- The end of a release, under the table's own mutex. -/
def unregister (o : OperationLocks) : List LockRef → OperationLocks
  | [] => o
  | ref :: refs =>
    let o := { o with refs := Function.update o.refs ref (o.refs ref - 1) }
    let o := if o.refs ref = 0 then { o with locks := Function.update o.locks ref.key none } else o
    o.unregister refs

variable {o : OperationLocks}

@[simp]
theorem holder_registerKey (key : String) : (o.registerKey key).2.holder = o.holder :=
  rfl

@[simp]
theorem holder_register (keys : List String) : (o.register keys).2.holder = o.holder := by
  induction keys generalizing o with
  | nil => rfl
  | cons key keys ih => simp [register, ih]

@[simp]
theorem holder_unregister (refs : List LockRef) : (o.unregister refs).holder = o.holder := by
  induction refs generalizing o with
  | nil => rfl
  | cons ref refs ih =>
    simp only [unregister, ih]
    split <;> rfl

/-- Every mutex in the table carries the key it is stored under. -/
def Keyed (o : OperationLocks) : Prop :=
  ∀ key ref, o.locks key = some ref → ref.key = key

theorem registerKey_key (ho : o.Keyed) (key : String) : (o.registerKey key).1.key = key := by
  simp only [registerKey]
  cases hlock : o.locks key with
  | none => rfl
  | some ref => exact ho key ref hlock

theorem registerKey_keyed (ho : o.Keyed) (key : String) : (o.registerKey key).2.Keyed := by
  intro key' ref hlock
  by_cases h : key' = key
  · subst h
    obtain rfl : (o.registerKey key').1 = ref := by simpa [registerKey] using hlock
    exact registerKey_key ho key'
  · exact ho key' ref (by simpa [registerKey, Function.update_of_ne h] using hlock)

theorem register_keys (ho : o.Keyed) (keys : List String) :
    (o.register keys).1.map LockRef.key = keys := by
  induction keys generalizing o with
  | nil => rfl
  | cons key keys ih =>
    simp only [register, List.map_cons, registerKey_key ho key, ih (registerKey_keyed ho key)]

theorem register_keyed (ho : o.Keyed) (keys : List String) : (o.register keys).2.Keyed := by
  induction keys generalizing o with
  | nil => exact ho
  | cons key keys ih => exact ih (registerKey_keyed ho key)

theorem unregister_keyed (ho : o.Keyed) (refs : List LockRef) : (o.unregister refs).Keyed := by
  induction refs generalizing o with
  | nil => exact ho
  | cons ref refs ih =>
    refine ih ?_
    split
    · intro key' ref' hlock
      by_cases h : key' = ref.key
      · simp [h] at hlock
      · exact ho key' ref' (by simpa [Function.update_of_ne h] using hlock)
    · exact ho

end OperationLocks

/-! ## Lock keys -/

def controllerNodeLockKey (nodeID : String) : String :=
  "node:" ++ nodeID

def controllerVolumeLockKey (volumeID : String) : String :=
  "volume:" ++ volumeID

theorem normalizeLockKeys_singleton {key : String} (h : key ≠ "") :
    OperationLocks.normalizeLockKeys [key] = [key] := by
  simp [OperationLocks.normalizeLockKeys, h]

end OpenNebulaCSI.Controller
