import Mathlib.Algebra.BigOperators.Ring.Finset
import Mathlib.Data.Finset.Card
import Mathlib.Data.String.Basic
import Mathlib.Order.WithBot
import OpenNebulaCSI.Controller.HeldLocks

/-!
# Requests for operation locks

Any number of goroutines call `Acquire`, `TryAcquire` and the release functions these return. A
thread here is one **request**: the call, and later its release. Goroutines that make several
requests are several threads, whose steps may then be interleaved in more ways than in the program.

The table of mutexes has a mutex of its own, `o.mu`. All five ways of touching a mutex or a count
are separate steps, so a request can be anywhere between counting itself at its first key and
locking its last one while others go on.

What a request owns is read off its history (`Own`). `Accounted` says that the table agrees with
what all requests own together. From it follow the exclusion of the holders of a key, the meaning of
the counts and the emptiness of the table in the end; that there is no deadlock follows from the
order in which requests lock (`Discipline`).
-/

namespace OpenNebulaCSI.Controller.LockRequests

open Concurrency Program OperationLocks Function List Option

/-! ## The code -/

inductive LockOp where
  /-- `o.mu.Lock()` and `o.mu.Unlock()`. -/
  | lockTable
  | unlockTable
  /-- Find or create the mutex of a key and count the request. -/
  | registerKey (key : String)
  /-- Count the request off, and drop the mutex if nobody is left. -/
  | unregisterKey (ref : LockRef)
  | lock (ref : LockRef)
  | tryLock (ref : LockRef)
  | unlock (ref : LockRef)
  deriving DecidableEq

abbrev LockOp.Answer : LockOp → Type
  | .registerKey _ => LockRef
  | .tryLock _ => Bool
  | _ => Unit

instance : (op : LockOp) → DecidableEq op.Answer
  | .registerKey _ => inferInstanceAs (DecidableEq LockRef)
  | .tryLock _ => inferInstanceAs (DecidableEq Bool)
  | .lockTable | .unlockTable | .unregisterKey _ | .lock _ | .unlock _ =>
    inferInstanceAs (DecidableEq Unit)

abbrev LockProg (α : Type) :=
  Program LockOp LockOp.Answer α

abbrev LockHistory :=
  List (Event LockOp LockOp.Answer)

abbrev call (op : LockOp) : LockProg op.Answer :=
  Program.perform op

def registerKeys : List String → LockProg (List LockRef)
  | [] => return []
  | key :: keys => do
      let ref ← call (.registerKey key)
      let refs ← registerKeys keys
      return ref :: refs

def unregisterKeys : List LockRef → LockProg Unit
  | [] => return ()
  | ref :: refs => do
      call (.unregisterKey ref)
      unregisterKeys refs

def lockAll : List LockRef → LockProg Unit
  | [] => return ()
  | ref :: refs => do
      call (.lock ref)
      lockAll refs

def unlockAll : List LockRef → LockProg Unit
  | [] => return ()
  | ref :: refs => do
      call (.unlock ref)
      unlockAll refs

/-- `Acquire`. The release function it returns is given by the mutexes it has locked. -/
def acquire (keys : List String) : LockProg (List LockRef) :=
  let normalized := normalizeLockKeys keys
  if normalized.isEmpty then return []
  else do
    call .lockTable
    let refs ← registerKeys normalized
    call .unlockTable
    lockAll refs
    return refs

/-- The function that `Acquire` and a successful `TryAcquire` return. -/
def release (refs : List LockRef) : LockProg Unit :=
  if refs.isEmpty then return ()
  else do
    unlockAll refs.reverse
    call .lockTable
    unregisterKeys refs
    call .unlockTable

/-- `TryAcquire`, without a release function where the mutex could not be locked. -/
def tryAcquire (key : String) : LockProg (Option (List LockRef)) :=
  match normalizeLockKeys [key] with
  | [] => return some []
  | key :: _ => do
      call .lockTable
      let ref ← call (.registerKey key)
      call .unlockTable
      if ← call (.tryLock ref) then return some [ref]
      else do
        call .lockTable
        call (.unregisterKey ref)
        call .unlockTable
        return none

/-! ## Any number of requests at once -/

inductive Request where
  | acquire (keys : List String)
  | tryAcquire (key : String)
  deriving DecidableEq

/-- The keys of a request, as they are given. -/
def Request.keys : Request → List String
  | .acquire keys => keys
  | .tryAcquire key => [key]

/-- The call has returned with the mutexes to release, and its release function has not been called
yet. -/
def Request.Granted : Request → LockHistory → List LockRef → Prop
  | .acquire keys, past, refs => (LockRequests.acquire keys).Returns past refs
  | .tryAcquire key, past, refs => (LockRequests.tryAcquire key).Returns past (some refs)

/-- A request and the one call of its release function. -/
def Request.program : Request → LockProg Unit
  | .acquire keys => do
      let refs ← LockRequests.acquire keys
      release refs
  | .tryAcquire key => do
      match ← LockRequests.tryAcquire key with
      | some refs => release refs
      | none => return ()

structure Table where
  locks : OperationLocks
  /-- The request that holds `o.mu`. -/
  holder : Option ℕ

/-- What the runtime decides about a step: `TryLock` may fail although the mutex is free. -/
structure Luck where
  tryLock : Bool := true

def actTable (luck : Luck) (w : Table) (t : ℕ) : (op : LockOp) → Option (op.Answer × Table)
  | .lockTable => if w.holder.isNone then some ((), { w with holder := some t }) else none
  | .unlockTable => some ((), { w with holder := none })
  | .registerKey key =>
    some ((w.locks.registerKey key).1, { w with locks := (w.locks.registerKey key).2 })
  | .unregisterKey ref => some ((), { w with locks := w.locks.unregisterKey ref })
  | .lock ref => (w.locks.lock t ref).map fun locks => ((), { w with locks })
  | .tryLock ref =>
    match w.locks.lock t ref with
    | some locks => if luck.tryLock then some (true, { w with locks }) else some (false, w)
    | none => some (false, w)
  | .unlock ref => some ((), { w with locks := w.locks.unlock ref })

def operationLocks : Machine LockOp LockOp.Answer Request Unit Table Luck Empty where
  start w request := some (request.program, w)
  act := actTable
  change := nofun

abbrev LockPool :=
  Pool LockOp LockOp.Answer Request Unit Table

/-- The table of `NewOperationLocks`. -/
def Table.IsNew (w : Table) : Prop :=
  w = { locks := .new, holder := none }

/-- The states that any interleaving of requests leads to. -/
abbrev ReachableLocks : LockPool → Prop :=
  operationLocks.Reachable Table.IsNew fun _ _ => True

/-! ## What a request owns -/

structure Own where
  /-- It holds `o.mu`. -/
  table : Bool := false
  /-- The mutexes it is counted at. -/
  registered : List LockRef := []
  /-- The mutexes it has locked. -/
  held : List LockRef := []

/-- The effect of one step on what its request owns. -/
def Own.after (own : Own) : Event LockOp LockOp.Answer → Own
  | ⟨.lockTable, _⟩ => { own with table := true }
  | ⟨.unlockTable, _⟩ => { own with table := false }
  | ⟨.registerKey _, ref⟩ => { own with registered := ref :: own.registered }
  | ⟨.unregisterKey ref, _⟩ => { own with registered := own.registered.erase ref }
  | ⟨.lock ref, _⟩ => { own with held := ref :: own.held }
  | ⟨.tryLock ref, locked⟩ => if locked then { own with held := ref :: own.held } else own
  | ⟨.unlock ref, _⟩ => { own with held := own.held.erase ref }

def ownedAfter (past : LockHistory) : Own :=
  past.foldl Own.after {}

@[simp]
theorem ownedAfter_append_singleton (past : LockHistory) (event : Event LockOp LockOp.Answer) :
    ownedAfter (past ++ [event]) = (ownedAfter past).after event := by
  simp [ownedAfter]

/-- What a request owns in a state. -/
def owned (s : LockPool) (t : ℕ) : Own :=
  ownedAfter (s.history t)

/-- How a request may use the locks. Counts change only under `o.mu`, and mutexes are locked outside
it, in the order of their keys. -/
def Discipline (own : Own) : LockOp → Prop
  | .lockTable => own.table = false ∧ own.held = []
  | .unlockTable => own.table = true
  | .registerKey key => own.table = true ∧ key ∉ own.registered.map LockRef.key
  | .unregisterKey ref => own.table = true ∧ ref ∈ own.registered ∧ ref ∉ own.held
  | .lock ref => own.table = false ∧ ref ∈ own.registered ∧ ∀ other ∈ own.held, other.key < ref.key
  | .tryLock ref => own.table = false ∧ ref ∈ own.registered ∧ own.held = []
  | .unlock ref => own.table = false ∧ ref ∈ own.held

def lockContract : Contract LockOp LockOp.Answer where
  rely _ op ans :=
    match op, ans with
    | .registerKey key, ref => ref.key = key
    | _, _ => True
  guar past op := Discipline (ownedAfter past) op

/-! ## The programs keep the discipline -/

variable {op : LockOp}

section Programs

variable {past : LockHistory} {regs held : List LockRef}

/-- The rule for one step, in terms of what the request owns. -/
theorem meets_own {own : Own} {Q : LockHistory → op.Answer → Prop} (hown : ownedAfter past = own)
    (hop : Discipline own op) (hnext : ∀ later ans, lockContract.rely past op ans →
      ownedAfter later = own.after ⟨op, ans⟩ → Q later ans) :
    (call op).Meets lockContract Q past := by
  subst hown
  exact meets_perform.2
    ⟨hop, fun ans hrely => hnext _ ans hrely (ownedAfter_append_singleton past ⟨op, ans⟩)⟩

/-- The induction is over the keys that are left. -/
theorem meets_registerKeys {keys : List String}
    (hown : ownedAfter past = { table := true, registered := regs, held := held })
    (hnodup : keys.Nodup) (hnew : ∀ key ∈ keys, key ∉ regs.map LockRef.key) :
    (registerKeys keys).Meets lockContract (fun later refs =>
      ownedAfter later = { table := true, registered := refs.reverse ++ regs, held := held } ∧
        refs.map LockRef.key = keys) past := by
  induction keys generalizing past regs with
  | nil => exact meets_pure.2 ⟨hown, rfl⟩
  | cons key keys ih =>
    obtain ⟨hkey, hkeys⟩ := nodup_cons.1 hnodup
    refine meets_bind.2 (meets_own hown ⟨rfl, hnew key mem_cons_self⟩ ?_)
    intro past₁ ref (href : ref.key = key) h₁
    refine (ih h₁ hkeys fun other hother => ?_).bind ?_
    · rw [map_cons, mem_cons, href, not_or]
      exact ⟨fun h => hkey (h ▸ hother), hnew other (mem_cons_of_mem _ hother)⟩
    · rintro later refs ⟨hlater, hrefs⟩
      refine meets_pure.2 ⟨?_, ?_⟩
      · rw [hlater, reverse_cons, append_assoc]
        rfl
      · rw [map_cons, hrefs, href]

variable {refs : List LockRef}

/-- The mutexes are locked in the order of their keys; the ones held so far are all smaller. -/
theorem meets_lockAll
    (hown : ownedAfter past = { table := false, registered := regs, held := held })
    (hsub : ∀ ref ∈ refs, ref ∈ regs) (hsorted : (refs.map LockRef.key).Pairwise (· < ·))
    (hheld : ∀ other ∈ held, ∀ ref ∈ refs, other.key < ref.key) :
    (lockAll refs).Meets lockContract (fun later _ =>
      ownedAfter later = { table := false, registered := regs, held := refs.reverse ++ held })
      past := by
  induction refs generalizing past held with
  | nil => exact meets_pure.2 hown
  | cons ref refs ih =>
    rw [map_cons, pairwise_cons] at hsorted
    have hop : Discipline { table := false, registered := regs, held := held } (.lock ref) :=
      ⟨rfl, hsub ref mem_cons_self, fun other hother => hheld other hother ref mem_cons_self⟩
    refine meets_bind.2 (meets_own hown hop fun past₁ _ _ h₁ => ?_)
    refine (ih h₁ (fun other hother => hsub other (mem_cons_of_mem _ hother))
      hsorted.2 ?_).mono fun later _ hlater => ?_
    · intro other hother next hmem
      rcases mem_cons.1 hother with rfl | hold
      · exact hsorted.1 next.key (mem_map_of_mem hmem)
      · exact hheld other hold next (mem_cons_of_mem _ hmem)
    · rw [hlater, reverse_cons, append_assoc]
      rfl

theorem meets_unlockAll
    (hown : ownedAfter past = { table := false, registered := regs, held := refs ++ held }) :
    (unlockAll refs).Meets lockContract (fun later _ =>
      ownedAfter later = { table := false, registered := regs, held := held }) past := by
  induction refs generalizing past with
  | nil => exact meets_pure.2 hown
  | cons ref refs ih =>
    refine meets_bind.2 (meets_own hown ⟨rfl, mem_cons_self⟩ fun past₁ _ _ h₁ => ih ?_)
    rw [h₁]
    simp [Own.after]

theorem meets_unregisterKeys
    (hown : ownedAfter past = { table := true, registered := regs, held := [] })
    (hperm : regs.Perm refs) :
    (unregisterKeys refs).Meets lockContract (fun later _ =>
      ownedAfter later = { table := true, registered := [], held := [] }) past := by
  induction refs generalizing past regs with
  | nil =>
    rw [hperm.eq_nil] at hown
    exact meets_pure.2 hown
  | cons ref refs ih =>
    have hmem : ref ∈ regs := hperm.mem_iff.2 mem_cons_self
    refine meets_bind.2 (meets_own hown ⟨rfl, hmem, not_mem_nil⟩ fun past₁ _ _ h₁ => ih h₁ ?_)
    exact (cons_perm_iff_perm_erase.1 hperm.symm).2.symm

theorem meets_release
    (hown : ownedAfter past =
      { table := false, registered := refs.reverse, held := refs.reverse }) :
    (release refs).Meets lockContract (fun later _ => ownedAfter later = {}) past := by
  unfold release
  split
  · rename_i hempty
    rw [isEmpty_iff.1 hempty] at hown
    exact meets_pure.2 hown
  have hheld : ownedAfter past =
      { table := false, registered := refs.reverse, held := refs.reverse ++ [] } := by
    rw [hown, append_nil]
  refine (meets_unlockAll hheld).bind fun past₁ _ h₁ => ?_
  refine meets_bind.2 (meets_own h₁ ⟨rfl, rfl⟩ fun past₂ _ _ h₂ => ?_)
  refine (meets_unregisterKeys h₂ (reverse_perm refs)).bind fun past₃ _ h₃ => ?_
  exact meets_own h₃ rfl fun later _ _ hlater => hlater

theorem normalizeLockKeys_sorted (keys : List String) :
    (normalizeLockKeys keys).Pairwise (· < ·) := by
  have hnodup : (normalizeLockKeys keys).Nodup :=
    (perm_insertionSort _ _).nodup_iff.2 (nodup_dedup _)
  have hsorted : (normalizeLockKeys keys).Pairwise (· ≤ ·) := pairwise_insertionSort _ _
  exact (hsorted.and hnodup).imp fun h => lt_of_le_of_ne h.1 h.2

theorem mem_normalizeLockKeys {keys : List String} {key : String} :
    key ∈ normalizeLockKeys keys ↔ key ∈ keys ∧ key ≠ "" := by
  simp [normalizeLockKeys]

theorem meets_acquire {keys : List String} (hown : ownedAfter past = {}) :
    (acquire keys).Meets lockContract (fun later refs =>
      ownedAfter later = { table := false, registered := refs.reverse, held := refs.reverse } ∧
        refs.map LockRef.key = normalizeLockKeys keys) past := by
  have hsorted := normalizeLockKeys_sorted keys
  have hnodup : (normalizeLockKeys keys).Nodup := hsorted.imp fun h => ne_of_lt h
  unfold acquire
  simp only
  split
  · rename_i hempty
    exact meets_pure.2 ⟨hown, (isEmpty_iff.1 hempty).symm⟩
  refine meets_bind.2 (meets_own hown ⟨rfl, rfl⟩ fun past₁ _ _ h₁ => ?_)
  refine (meets_registerKeys h₁ hnodup fun _ _ => not_mem_nil).bind ?_
  rintro past₂ refs ⟨h₂, hrefs⟩
  rw [append_nil] at h₂
  refine meets_bind.2 (meets_own h₂ rfl fun past₃ _ _ h₃ => ?_)
  have hlock := meets_lockAll h₃ (fun ref href => mem_reverse.2 href) (hrefs ▸ hsorted)
    fun _ h => absurd h not_mem_nil
  refine hlock.bind fun later _ hlater => meets_pure.2 ⟨?_, hrefs⟩
  rw [hlater, append_nil]

theorem meets_tryAcquire {key : String} (hown : ownedAfter past = {}) :
    (tryAcquire key).Meets lockContract (fun later answer =>
      ownedAfter later = { table := false, registered := (answer.getD []).reverse
                           held := (answer.getD []).reverse } ∧
        ∀ refs, answer = some refs → refs.map LockRef.key = normalizeLockKeys [key]) past := by
  unfold tryAcquire
  split
  · rename_i hempty
    refine meets_pure.2 ⟨hown, ?_⟩
    rintro refs ⟨⟩
    exact hempty.symm
  rename_i first rest hkeys
  -- There is no second key.
  obtain rfl : rest = [] := by
    have hlength : (normalizeLockKeys [key]).length ≤ 1 := by
      simpa [normalizeLockKeys] using (dedup_sublist _).length_le.trans (length_filter_le _ [key])
    rw [hkeys] at hlength
    simpa using hlength
  refine meets_bind.2 (meets_own hown ⟨rfl, rfl⟩ fun past₁ _ _ h₁ => ?_)
  refine meets_bind.2 (meets_own h₁ ⟨rfl, not_mem_nil⟩ fun past₂ ref href h₂ => ?_)
  refine meets_bind.2 (meets_own h₂ rfl fun past₃ _ _ h₃ => ?_)
  refine meets_bind.2 (meets_own h₃ ⟨rfl, mem_cons_self, rfl⟩ fun past₄ locked _ h₄ => ?_)
  cases locked with
  | true =>
    refine meets_pure.2 ⟨h₄, ?_⟩
    rintro refs ⟨⟩
    rw [hkeys, map_singleton, show ref.key = first from href]
  | false => ?_
  refine meets_bind.2 (meets_own h₄ ⟨rfl, rfl⟩ fun past₅ _ _ h₅ => ?_)
  refine meets_bind.2 (meets_own h₅ ⟨rfl, mem_cons_self, not_mem_nil⟩ fun past₆ _ _ h₆ => ?_)
  refine meets_bind.2 (meets_own h₆ rfl fun later _ _ hlater =>
    meets_pure.2 ⟨?_, fun _ hnone => by cases hnone⟩)
  rw [hlater]
  simp [Own.after]

theorem Request.meets (request : Request) :
    request.program.Meets lockContract (fun later _ => ownedAfter later = {}) [] := by
  cases request with
  | acquire keys => exact (meets_acquire rfl).bind fun _ _ hlater => meets_release hlater.1
  | tryAcquire key => ?_
  refine (meets_tryAcquire rfl).bind fun later answer hlater => ?_
  cases answer with
  | none => exact meets_pure.2 hlater.1
  | some refs => exact meets_release hlater.1

end Programs

/-! ## Counts and holders -/

/-- The counts of the table are those of `n` requests that are counted at `regs`. -/
structure Counts (o : OperationLocks) (regs : ℕ → List LockRef) (n : ℕ) : Prop where
  live : o.Live
  used : ∀ key ref, o.locks key = some ref → 0 < o.refs ref
  refs : ∀ ref, o.refs ref = ∑ t ∈ Finset.range n, (regs t).count ref
  keys : ∀ t, ((regs t).map LockRef.key).Nodup

/-- The mutexes are locked by the requests that hold them. -/
structure Holders (holder : LockRef → Option ℕ) (held : ℕ → List LockRef) : Prop where
  holder : ∀ t ref, holder ref = some t ↔ ref ∈ held t
  nodup : ∀ t, (held t).Nodup

section Tables

variable {o : OperationLocks} {regs held : ℕ → List LockRef} {n t : ℕ}
  {holder : LockRef → Option ℕ} {ref : LockRef}

theorem Counts.count_le (h : Counts o regs n) (ht : t < n) (ref : LockRef) :
    (regs t).count ref ≤ o.refs ref := by
  rw [h.refs]
  exact Finset.single_le_sum (fun i _ => Nat.zero_le ((regs i).count ref)) (Finset.mem_range.2 ht)

theorem Counts.current (h : Counts o regs n) (ht : t < n) (href : ref ∈ regs t) :
    o.locks ref.key = some ref :=
  h.live.current ref (lt_of_lt_of_le (count_pos_iff.2 href) (h.count_le ht ref))

theorem Counts.refs_update (h : Counts o regs n) (ht : t < n) {refs : LockRef → ℕ}
    {list : List LockRef} (hrefs : ∀ ref, refs ref + (regs t).count ref =
      o.refs ref + list.count ref) (ref : LockRef) :
    refs ref = ∑ i ∈ Finset.range n, (Function.update regs t list i).count ref := by
  have hsum := sum_range_change ht (fun i hi => by rw [update_of_ne hi] :
      ∀ i, i ≠ t → (Function.update regs t list i).count ref = (regs i).count ref)
  rw [update_self] at hsum
  have hbefore := h.refs ref
  have hafter := hrefs ref
  omega

theorem Counts.keys_update (h : Counts o regs n) {list : List LockRef}
    (hlist : (list.map LockRef.key).Nodup) (i : ℕ) :
    ((Function.update regs t list i).map LockRef.key).Nodup :=
  (forall_update_iff regs fun _ list => (list.map LockRef.key).Nodup).2
    ⟨hlist, fun i _ => h.keys i⟩ i

theorem Counts.registerKey (h : Counts o regs n) (ht : t < n) {key : String}
    (hkey : key ∉ (regs t).map LockRef.key) :
    Counts (o.registerKey key).2
      (Function.update regs t ((o.registerKey key).1 :: regs t)) n where
  live := registerKey_live h.live key
  used key' ref hlock := by
    rw [refs_registerKey]
    by_cases hnew : (o.registerKey key).1 = ref
    · rw [if_pos hnew]
      omega
    -- Any other mutex of the table was there before.
    have hne : key' ≠ key := by
      rintro rfl
      have hself : (o.registerKey key').2.locks key' = some (o.registerKey key').1 := update_self ..
      exact hnew (Option.mem_unique hself hlock)
    have hold : o.locks key' = some ref := by
      rw [← hlock]
      exact (update_of_ne hne _ _).symm
    exact Nat.lt_add_right _ (h.used key' ref hold)
  refs := h.refs_update ht fun ref => by
    rw [refs_registerKey, count_cons]
    simp only [beq_iff_eq]
    omega
  keys := h.keys_update (by
    rw [map_cons, nodup_cons, registerKey_key h.live.keyed]
    exact ⟨hkey, h.keys t⟩)

theorem Counts.unregisterKey (h : Counts o regs n) (ht : t < n) (href : ref ∈ regs t) :
    Counts (o.unregisterKey ref) (Function.update regs t ((regs t).erase ref)) n where
  live := unregisterKey_live h.live
    (lt_of_lt_of_le (count_pos_iff.2 href) (h.count_le ht ref))
  used key other hlock := by
    rw [refs_unregisterKey]
    rw [locks_unregisterKey] at hlock
    split at hlock
    · have hne : key ≠ ref.key := by
        rintro rfl
        rw [update_self] at hlock
        cases hlock
      rw [update_of_ne hne] at hlock
      have hother : ref ≠ other := by
        rintro rfl
        exact hne (h.live.keyed key ref hlock).symm
      rw [if_neg hother]
      exact h.used key other hlock
    · rename_i hleft
      have hpos := h.used key other hlock
      split
      · rename_i hsame
        subst hsame
        omega
      · exact hpos
  refs := h.refs_update ht fun other => by
    have hle := h.count_le ht other
    rw [refs_unregisterKey, count_erase]
    have hone : ref = other → 0 < (regs t).count other := by
      rintro rfl
      exact count_pos_iff.2 href
    by_cases hsame : ref = other
    · have hpos := hone hsame
      simp only [hsame, if_true, beq_self_eq_true]
      omega
    · simp only [hsame, if_false, beq_iff_eq, Nat.sub_zero]
  keys := h.keys_update ((h.keys t).sublist (erase_sublist.map _))

theorem Holders.lock (h : Holders holder held) (hfree : holder ref = none) :
    Holders (Function.update holder ref (some t)) (Function.update held t (ref :: held t)) := by
  have hnone : ∀ i, ref ∉ held i := by
    intro i hmem
    rw [(h.holder i ref).2 hmem] at hfree
    cases hfree
  refine ⟨(forall_update_iff held fun i list => ∀ other,
    update holder ref (some t) other = some i ↔ other ∈ list).2
      ⟨fun other => ?_, fun i hi other => ?_⟩,
    (forall_update_iff held fun _ list => list.Nodup).2
      ⟨nodup_cons.2 ⟨hnone t, h.nodup t⟩, fun i _ => h.nodup i⟩⟩
  · by_cases hsame : other = ref
    · simp [hsame]
    · simp [hsame, h.holder]
  · by_cases hsame : other = ref
    · simp [hsame, hnone i, Ne.symm hi]
    · rw [update_of_ne hsame, h.holder]

theorem Holders.unlock (h : Holders holder held) (href : ref ∈ held t) :
    Holders (Function.update holder ref none) (Function.update held t ((held t).erase ref)) := by
  have howner : holder ref = some t := (h.holder t ref).2 href
  refine ⟨(forall_update_iff held fun i list => ∀ other,
    update holder ref none other = some i ↔ other ∈ list).2 ⟨fun other => ?_, fun i hi other => ?_⟩,
    (forall_update_iff held fun _ list => list.Nodup).2
      ⟨(h.nodup t).erase ref, fun i _ => h.nodup i⟩⟩
  · rw [(h.nodup t).mem_erase_iff]
    by_cases hsame : other = ref
    · simp [hsame]
    · simp [hsame, h.holder]
  · by_cases hsame : other = ref
    · have hnot : ref ∉ held i := fun hmem =>
        hi (Option.some.inj (((h.holder i ref).2 hmem).symm.trans howner))
      simp [hsame, hnot]
    · rw [update_of_ne hsame, h.holder]

end Tables

/-! ## All requests together -/

/-- The table agrees with what the requests own. -/
structure Accounted (w : Table) (own : ℕ → Own) (n : ℕ) : Prop where
  counts : Counts w.locks (fun t => (own t).registered) n
  holders : Holders w.locks.holder fun t => (own t).held
  table : ∀ t, w.holder = some t ↔ (own t).table = true
  held : ∀ t, ∀ ref ∈ (own t).held, ref ∈ (own t).registered

variable {ref : LockRef}

section Steps

variable {w w' : Table} {own : ℕ → Own} {n t : ℕ} {luck : Luck}

theorem registered_update (x : Own) :
    (fun i => (Function.update own t x i).registered) =
      Function.update (fun i => (own i).registered) t x.registered :=
  funext fun i => apply_update (fun _ => Own.registered) own t x i

theorem held_update (x : Own) :
    (fun i => (Function.update own t x i).held) =
      Function.update (fun i => (own i).held) t x.held :=
  funext fun i => apply_update (fun _ => Own.held) own t x i

variable {x : Own}

theorem Counts.update_same {o : OperationLocks} (h : Counts o (fun i => (own i).registered) n)
    (hx : x.registered = (own t).registered) :
    Counts o (fun i => (Function.update own t x i).registered) n := by
  rwa [registered_update, hx, update_eq_self]

theorem Holders.update_same {holder : LockRef → Option ℕ} (h : Holders holder fun i => (own i).held)
    (hx : x.held = (own t).held) : Holders holder fun i => (Function.update own t x i).held := by
  rwa [held_update, hx, update_eq_self]

theorem Accounted.held_registered_update (h : Accounted w own n)
    (hx : ∀ ref ∈ x.held, ref ∈ x.registered) (i : ℕ) :
    ∀ ref ∈ (Function.update own t x i).held, ref ∈ (Function.update own t x i).registered :=
  (forall_update_iff own fun _ x => ∀ ref ∈ x.held, ref ∈ x.registered).2
    ⟨hx, fun i _ => h.held i⟩ i

/-- The holder of `o.mu` does not change with a step that leaves it alone. -/
theorem Accounted.table_update (h : Accounted w own n) (hx : x.table = (own t).table) (i : ℕ) :
    w.holder = some i ↔ (Function.update own t x i).table = true :=
  (forall_update_iff own fun i x => w.holder = some i ↔ x.table = true).2
    ⟨hx ▸ h.table t, fun i _ => h.table i⟩ i

theorem Counts.with_holder {o : OperationLocks} {regs : ℕ → List LockRef} (h : Counts o regs n)
    (holder : LockRef → Option ℕ) : Counts { o with holder } regs n :=
  ⟨⟨h.live.keyed, h.live.current⟩, h.used, h.refs, h.keys⟩

theorem Accounted.with_table (h : Accounted w own n) {holder : Option ℕ}
    (hregistered : x.registered = (own t).registered) (hheld : x.held = (own t).held)
    (hself : holder = some t ↔ x.table = true)
    (hothers : ∀ i, i ≠ t → holder ≠ some i ∧ (own i).table = false) :
    Accounted { w with holder } (Function.update own t x) n := by
  refine ⟨h.counts.update_same hregistered, h.holders.update_same hheld,
    (forall_update_iff own fun i x => holder = some i ↔ x.table = true).2 ⟨hself, fun i hi => ?_⟩,
    h.held_registered_update fun ref href => ?_⟩
  · obtain ⟨hholder, htable⟩ := hothers i hi
    rw [htable]
    exact iff_of_false hholder Bool.false_ne_true
  · rw [hheld] at href
    rw [hregistered]
    exact h.held t ref href

theorem Accounted.with_lock (h : Accounted w own n) {locks : OperationLocks}
    (hlock : w.locks.lock t ref = some locks) (href : ref ∈ (own t).registered) :
    Accounted { w with locks }
      (Function.update own t { own t with held := ref :: (own t).held }) n := by
  unfold OperationLocks.lock at hlock
  split at hlock
  · rename_i hfree
    obtain rfl := Option.some.inj hlock
    refine ⟨(h.counts.with_holder _).update_same rfl, ?_, h.table_update rfl,
      h.held_registered_update fun other hother => ?_⟩
    · rw [held_update]
      exact h.holders.lock (isNone_iff_eq_none.1 hfree)
    · rcases mem_cons.1 hother with rfl | hold
      · exact href
      · exact h.held t other hold
  · cases hlock

/-- One step of a request that keeps the discipline. -/
theorem Accounted.act {ans : op.Answer} (h : Accounted w own n) (ht : t < n)
    (hop : Discipline (own t) op) (hact : actTable luck w t op = some (ans, w')) :
    Accounted w' (Function.update own t ((own t).after ⟨op, ans⟩)) n := by
  cases op with
  | lockTable =>
    simp only [actTable] at hact
    split at hact
    · rename_i hfree
      obtain ⟨-, rfl⟩ := answer_inj hact
      refine h.with_table rfl rfl (iff_of_true rfl rfl) fun i hi => ⟨?_, ?_⟩
      · exact fun hsome => hi (Option.some.inj hsome).symm
      · refine Bool.eq_false_iff.2 fun htable => ?_
        rw [(h.table i).2 htable] at hfree
        cases hfree
    · cases hact
  | unlockTable =>
    obtain ⟨-, rfl⟩ := answer_inj hact
    refine h.with_table rfl rfl (iff_of_false nofun Bool.false_ne_true) fun i hi => ⟨nofun, ?_⟩
    -- Only the request itself held it.
    refine Bool.eq_false_iff.2 fun htable => hi ?_
    exact Option.some.inj (((h.table i).2 htable).symm.trans ((h.table t).2 hop))
  | registerKey key =>
    obtain ⟨rfl, rfl⟩ := answer_inj hact
    refine ⟨?_, h.holders.update_same rfl, h.table_update rfl,
      h.held_registered_update fun ref href => ?_⟩
    · rw [registered_update]
      exact h.counts.registerKey ht hop.2
    · exact mem_cons_of_mem _ (h.held t ref href)
  | unregisterKey ref =>
    obtain ⟨-, rfl⟩ := answer_inj hact
    have hholder : (w.locks.unregisterKey ref).holder = w.locks.holder := holder_unregister [ref]
    refine ⟨?_, ?_, h.table_update rfl, h.held_registered_update fun other hother => ?_⟩
    · rw [registered_update]
      exact h.counts.unregisterKey ht hop.2.1
    · rw [hholder]
      exact h.holders.update_same rfl
    · have hne : other ≠ ref := fun heq => hop.2.2 (heq ▸ hother)
      exact (mem_erase_of_ne hne).2 (h.held t other hother)
  | lock ref =>
    obtain ⟨locks, hlock, heq⟩ := map_eq_some_iff.1 hact
    obtain ⟨-, rfl⟩ := Prod.mk.inj heq
    exact h.with_lock hlock hop.2.1
  | tryLock ref =>
    -- A failed attempt changes nothing.
    have hfailed : Accounted w (Function.update own t (own t)) n := by
      rw [update_eq_self]
      exact h
    simp only [actTable] at hact
    split at hact
    · rename_i locks hlock
      split at hact
      · obtain ⟨rfl, rfl⟩ := answer_inj hact
        exact h.with_lock hlock hop.2.1
      · obtain ⟨rfl, rfl⟩ := answer_inj hact
        exact hfailed
    · obtain ⟨rfl, rfl⟩ := answer_inj hact
      exact hfailed
  | unlock ref =>
    obtain ⟨-, rfl⟩ := answer_inj hact
    refine ⟨(h.counts.with_holder _).update_same rfl, ?_, h.table_update rfl,
      h.held_registered_update fun other hother => ?_⟩
    · rw [held_update]
      exact h.holders.unlock hop.2
    · exact h.held t other (mem_of_mem_erase hother)

end Steps

/-! ## Runs -/

variable {w : Table}

section Runs

variable {s s' : LockPool} {t t' : ℕ} {key : String}

theorem owned_advance {thread : Thread LockOp LockOp.Answer Request Unit} {prog : LockProg Unit}
    {event : Event LockOp LockOp.Answer} :
    owned (s.advance t thread prog event w) =
      Function.update (owned s) t ((owned s t).after event) := by
  funext i
  by_cases hi : i = t
  · rw [hi, update_self, owned, Pool.history_advance_self, ownedAfter_append_singleton]
    rfl
  · rw [update_of_ne hi, owned, Pool.history_advance_of_ne (Ne.symm hi)]
    rfl

/-- In every reachable state all requests keep the discipline, and the table agrees with what they
own. -/
theorem reachable_disciplined (hs : ReachableLocks s) :
    s.Conforms (fun _ => lockContract) (fun _ later _ => ownedAfter later = {}) ∧
      Accounted s.world (owned s) s.threads.length := by
  induction hs with
  | initial hw =>
    subst hw
    refine ⟨Pool.initial_conforms, ⟨⟨?_, ?_⟩, ?_, fun ref => rfl, fun t => nodup_nil⟩,
      ⟨fun t ref => ?_, fun t => nodup_nil⟩, fun t => ?_, fun t ref href => ?_⟩
    · intro key ref hlock
      cases hlock
    · intro ref hpos
      exact absurd hpos (Nat.lt_irrefl 0)
    · intro key ref hlock
      cases hlock
    · exact iff_of_false (fun hlock => by cases hlock) not_mem_nil
    · exact iff_of_false (fun hlock => by cases hlock) Bool.false_ne_true
    · cases href
  | @step s s' l hreach _ h ih =>
    obtain ⟨hconf, hacc⟩ := ih
    rcases Machine.step_cases h with @⟨request, prog, w, hstart⟩ |
      @⟨t, luck, thread, op, next, ans, w, hthread, hprog, hact⟩ | @⟨c⟩
    · obtain ⟨rfl, rfl⟩ := answer_inj hstart
      -- The new request has done nothing yet.
      have hnew : owned s s.threads.length = {} := by
        rw [owned, hreach.wellFormed.history_eq_nil (Nat.le_refl _)]
        rfl
      have hlength :
          (s.spawn request request.program s.world).threads.length = s.threads.length + 1 := by
        simp [Pool.spawn]
      rw [hlength]
      refine ⟨hconf.spawn hreach.wellFormed request.meets,
        ⟨hacc.counts.live, hacc.counts.used, fun ref => ?_, hacc.counts.keys⟩,
        hacc.holders, hacc.table,
        hacc.held⟩
      rw [Finset.sum_range_succ]
      show s.world.locks.refs ref = (∑ i ∈ _, (owned s i).registered.count ref) +
        (owned s s.threads.length).registered.count ref
      rw [hnew, ← hacc.counts.refs ref]
      rfl
    · have ht : t < s.threads.length := (List.getElem?_eq_some_iff.1 hthread).1
      have hop : Discipline (owned s t) op := hconf.guar hthread hprog
      have hrely : lockContract.rely (s.history t) op ans := by
        cases op with
        | registerKey key =>
          obtain ⟨rfl, -⟩ := answer_inj hact
          exact registerKey_key hacc.counts.live.keyed key
        | _ => trivial
      have hlength : (s.advance t thread (next ans) ⟨op, ans⟩ w).threads.length =
          s.threads.length := by
        simp [Pool.advance]
      rw [hlength, owned_advance]
      exact ⟨hconf.advance hthread hprog hrely, hacc.act ht hop hact⟩
    · cases c

theorem reachable_accounted (hs : ReachableLocks s) :
    Accounted s.world (owned s) s.threads.length :=
  (reachable_disciplined hs).2

/-- The number of requests counted at a key. -/
def refCount (o : OperationLocks) (key : String) : ℕ :=
  ((o.locks key).map o.refs).getD 0

/-- The request has been counted at the key and not been counted off. -/
def CountedAt (s : LockPool) (t : ℕ) (key : String) : Prop :=
  key ∈ (owned s t).registered.map LockRef.key

instance (s : LockPool) (t : ℕ) (key : String) : Decidable (CountedAt s t key) :=
  inferInstanceAs (Decidable (_ ∈ _))

/-- The request has locked a mutex of the key and not unlocked it. -/
def HoldsKey (s : LockPool) (t : ℕ) (key : String) : Prop :=
  key ∈ (owned s t).held.map LockRef.key

theorem lt_length_of_owned (hs : ReachableLocks s) (hown : owned s t ≠ {}) :
    t < s.threads.length := by
  by_contra hlt
  refine hown ?_
  rw [owned, hs.wellFormed.history_eq_nil (Nat.le_of_not_lt hlt)]
  rfl

theorem current_of_registered (hs : ReachableLocks s) (href : ref ∈ (owned s t).registered) :
    s.world.locks.locks ref.key = some ref := by
  refine (reachable_accounted hs).counts.current (lt_length_of_owned hs fun hown => ?_) href
  rw [hown] at href
  cases href

theorem exclusive_of_reachable (hs : ReachableLocks s) (h : HoldsKey s t key)
    (h' : HoldsKey s t' key) : t = t' := by
  obtain ⟨ref, href, rfl⟩ := mem_map.1 h
  obtain ⟨ref', href', hkey⟩ := mem_map.1 h'
  have hacc := reachable_accounted hs
  have hcurrent := current_of_registered hs (hacc.held t ref href)
  have hcurrent' := current_of_registered hs (hacc.held t' ref' href')
  obtain rfl : ref = ref' := Option.some.inj (hcurrent.symm.trans (hkey ▸ hcurrent'))
  exact Option.some.inj (((hacc.holders.holder t ref).2 href).symm.trans
    ((hacc.holders.holder t' ref).2 href'))

theorem count_current (hs : ReachableLocks s) (hcurrent : s.world.locks.locks ref.key = some ref) :
    (owned s t).registered.count ref = if CountedAt s t ref.key then 1 else 0 := by
  have hnodup : (owned s t).registered.Nodup :=
    List.Nodup.of_map _ ((reachable_accounted hs).counts.keys t)
  rw [hnodup.count]
  refine if_congr ⟨fun h => mem_map_of_mem h, fun h => ?_⟩ rfl rfl
  obtain ⟨other, hother, hkey⟩ := mem_map.1 h
  have hcurrent' := current_of_registered hs hother
  rw [hkey, hcurrent] at hcurrent'
  exact (Option.some.inj hcurrent') ▸ hother

theorem refCount_eq_card (hs : ReachableLocks s) (key : String) :
    refCount s.world.locks key =
      ((Finset.range s.threads.length).filter fun t => CountedAt s t key).card := by
  have hacc := reachable_accounted hs
  rw [Finset.card_filter]
  cases hlock : s.world.locks.locks key with
  | some ref =>
    obtain rfl : ref.key = key := hacc.counts.live.keyed key ref hlock
    rw [refCount, hlock]
    show s.world.locks.refs ref = _
    rw [hacc.counts.refs]
    exact Finset.sum_congr rfl fun t _ => count_current hs hlock
  | none =>
    rw [refCount, hlock]
    refine (Finset.sum_eq_zero fun t _ => if_neg fun hcounted => ?_).symm
    obtain ⟨ref, href, rfl⟩ := mem_map.1 hcounted
    rw [current_of_registered hs href] at hlock
    cases hlock

theorem locks_isSome_iff (hs : ReachableLocks s) (key : String) :
    (s.world.locks.locks key).isSome ↔ 0 < refCount s.world.locks key := by
  cases hlock : s.world.locks.locks key with
  | some ref =>
    have hpos := (reachable_accounted hs).counts.used key ref hlock
    simpa [refCount, hlock] using hpos
  | none => simp [refCount, hlock]

theorem unfinished_of_owned (hs : ReachableLocks s) (hown : owned s t ≠ {}) :
    (s.nextOp? t).isSome := by
  obtain ⟨thread, hthread⟩ : ∃ thread, s.threads[t]? = some thread :=
    ⟨_, getElem?_eq_getElem (lt_length_of_owned hs hown)⟩
  cases hprog : thread.prog with
  | call op next =>
    rw [Pool.nextOp?, hthread, bind_some, hprog]
    rfl
  | ret value => exact absurd ((reachable_disciplined hs).1.result hthread hprog) hown

theorem key_of_registerKey (hs : ReachableLocks s) (h : (t, ⟨.registerKey key, ref⟩) ∈ s.log) :
    ref.key = key := by
  obtain ⟨s₀, luck, thread, next, w, hs₀, -, -, -, hact, -⟩ := hs.origin h
  obtain ⟨rfl, -⟩ := answer_inj hact
  exact registerKey_key (reachable_accounted hs₀).counts.live.keyed key

/-- From its success to its release a request holds the keys it was given, and no other. -/
theorem holdsKey_iff_of_granted {request : Request} {refs : List LockRef} (hs : ReachableLocks s)
    (h : request.Granted (s.history t) refs) :
    HoldsKey s t key ↔ key ∈ request.keys ∧ key ≠ "" := by
  have hrely : ∀ past, ∀ event ∈ s.history t, lockContract.rely past event.op event.ans := by
    rintro past ⟨op, ans⟩ hevent
    cases op with
    | registerKey key => exact key_of_registerKey hs (Pool.mem_history.1 hevent)
    | _ => trivial
  have hgranted : (owned s t).held = refs.reverse ∧
      refs.map LockRef.key = normalizeLockKeys request.keys := by
    cases request with
    | acquire keys =>
      obtain ⟨hown, hkeys⟩ := (@meets_acquire [] keys rfl).returns h hrely
      exact ⟨congrArg Own.held hown, hkeys⟩
    | tryAcquire key =>
      obtain ⟨hown, hkeys⟩ := (@meets_tryAcquire [] key rfl).returns h hrely
      exact ⟨congrArg Own.held hown, hkeys refs rfl⟩
  rw [HoldsKey, hgranted.1, map_reverse, mem_reverse, hgranted.2, mem_normalizeLockKeys]

end Runs

/-! ## Waiting -/

/-- A mutex: the one of the table or one of the table's entries. -/
inductive Mutex where
  | table
  | entry (ref : LockRef)

def Table.holderOf (w : Table) : Mutex → Option ℕ
  | .table => w.holder
  | .entry ref => w.locks.holder ref

/-- The mutex an operation blocks on while somebody holds it. -/
def LockOp.blocksOn : LockOp → Option Mutex
  | .lockTable => some .table
  | .lock ref => some (.entry ref)
  | _ => none

/-- Entries in the order of their keys, and the table above all of them. -/
def Mutex.rank : Mutex → WithTop String
  | .table => ⊤
  | .entry ref => ref.key

/-- Request `t` is blocked on a mutex that `t'` holds. -/
def Waiting (s : LockPool) : ℕ → ℕ → Prop :=
  WaitsFor (fun t m => s.world.holderOf m = some t) fun t m =>
    (s.nextOp? t).bind LockOp.blocksOn = some m

section Waiting

variable {s : LockPool} {t : ℕ}

theorem rank_lt_of_blocked (hs : ReachableLocks s) {m m' : Mutex}
    (hholds : s.world.holderOf m = some t)
    (hblocked : (s.nextOp? t).bind LockOp.blocksOn = some m') : m.rank < m'.rank := by
  have hacc := reachable_accounted hs
  obtain ⟨op, hop, hm'⟩ := bind_eq_some_iff.1 hblocked
  obtain ⟨thread, hthread, hnext⟩ := bind_eq_some_iff.1 hop
  obtain ⟨next, hprog⟩ := Program.nextOp?_eq_some.1 hnext
  have hdiscipline : Discipline (owned s t) op := (reachable_disciplined hs).1.guar hthread hprog
  -- Outside the section of `o.mu`, so what it holds are entries.
  have hentry : (owned s t).table = false → ∃ ref ∈ (owned s t).held, m = .entry ref := by
    intro htable
    cases m with
    | table =>
      rw [(hacc.table t).1 hholds] at htable
      cases htable
    | entry ref => exact ⟨ref, (hacc.holders.holder t ref).1 hholds, rfl⟩
  cases op with
  | lockTable =>
    obtain ⟨ref, -, rfl⟩ := hentry hdiscipline.1
    obtain rfl := Option.some.inj hm'
    exact WithTop.coe_lt_top ref.key
  | lock wanted =>
    obtain ⟨ref, href, rfl⟩ := hentry hdiscipline.1
    obtain rfl := Option.some.inj hm'
    exact WithTop.coe_lt_coe.2 (hdiscipline.2.2 ref href)
  | _ => cases hm'

theorem act_of_free (hfree : ∀ m, op.blocksOn = some m → w.holderOf m = none) :
    ∃ ans w', actTable {} w t op = some (ans, w') := by
  cases op with
  | lockTable =>
    have hnone : w.holder = none := hfree .table rfl
    exact ⟨(), _, if_pos (isNone_iff_eq_none.2 hnone)⟩
  | lock ref =>
    have hnone : w.locks.holder ref = none := hfree (.entry ref) rfl
    have hlock : w.locks.lock t ref = some _ := if_pos (isNone_iff_eq_none.2 hnone)
    exact ⟨(), _, map_eq_some_iff.2 ⟨_, hlock, rfl⟩⟩
  | tryLock ref =>
    simp only [actTable]
    split
    · exact ⟨true, _, rfl⟩
    · exact ⟨false, _, rfl⟩
  | unlockTable | registerKey _ | unregisterKey _ | unlock _ => exact ⟨_, _, rfl⟩

/-- As long as a request has not finished, some request can go on. -/
theorem exists_step (hs : ReachableLocks s) (hcircle : ∀ t, ¬ Relation.TransGen (Waiting s) t t)
    (hunfinished : ∃ t, (s.nextOp? t).isSome) :
    ∃ t luck s', operationLocks.step (.act t luck) s = some s' := by
  have hfinite : {t | (s.nextOp? t).isSome}.Finite := by
    refine (Set.finite_lt_nat s.threads.length).subset fun t ht => ?_
    by_contra hlt
    have hnone : s.threads[t]? = none := getElem?_eq_none (Nat.le_of_not_lt hlt)
    simp [Pool.nextOp?, hnone] at ht
  obtain ⟨t, ht, hfree⟩ := exists_not_waiting hcircle hfinite hunfinished
  obtain ⟨op, hop⟩ := isSome_iff_exists.1 ht
  obtain ⟨thread, hthread, hnext⟩ := bind_eq_some_iff.1 hop
  obtain ⟨next, hprog⟩ := Program.nextOp?_eq_some.1 hnext
  have hacc := reachable_accounted hs
  -- Whoever held the mutex would not have finished either.
  have hnone : ∀ m, op.blocksOn = some m → s.world.holderOf m = none := by
    intro m hm
    refine eq_none_iff_forall_not_mem.2 fun t' hholder => ?_
    refine hfree t' (unfinished_of_owned hs fun hown => ?_) ⟨m, ?_, hholder⟩
    · cases m with
      | table =>
        have htable := (hacc.table t').1 hholder
        rw [hown] at htable
        cases htable
      | entry ref =>
        have hheld := (hacc.holders.holder t' ref).1 hholder
        rw [hown] at hheld
        cases hheld
    · show (s.nextOp? t).bind LockOp.blocksOn = some m
      rw [hop]
      exact hm
  obtain ⟨ans, w, hact⟩ := act_of_free hnone
  exact ⟨t, {}, _, Machine.step_act hthread hprog hact⟩

end Waiting

/-! ## The locks -/

/-- What `OperationLocks` is for. -/
structure Sound (s : LockPool) : Prop where
  /-- No two requests hold the same key at the same time. -/
  exclusive : ∀ t t' key, HoldsKey s t key → HoldsKey s t' key → t = t'
  /-- A request holds exactly its keys from the return of its call to its release. -/
  granted : ∀ t request refs, s.kind? t = some request → request.Granted (s.history t) refs →
    ∀ key, HoldsKey s t key ↔ key ∈ request.keys ∧ key ≠ ""
  /-- The count of a key is the number of requests between being counted and being counted off. -/
  counted : ∀ key, refCount s.world.locks key =
    ((Finset.range s.threads.length).filter fun t => CountedAt s t key).card
  /-- A key has an entry as long as this number is not zero. -/
  entry : ∀ key, (s.world.locks.locks key).isSome ↔ 0 < refCount s.world.locks key
  /-- Requests counted at the same key use the same mutex. -/
  same : ∀ t t', ∀ ref ∈ (owned s t).registered, ∀ ref' ∈ (owned s t').registered,
    ref.key = ref'.key → ref = ref'
  /-- When all requests have released, the table is empty. -/
  empty : (∀ t, s.nextOp? t = none) → ∀ key, s.world.locks.locks key = none
  /-- No request waits for itself, directly or through others. -/
  acyclic : ∀ t, ¬ Relation.TransGen (Waiting s) t t
  /-- While a request has not finished, one of them can go on. -/
  progress : (∃ t, (s.nextOp? t).isSome) →
    ∃ t luck s', operationLocks.step (.act t luck) s = some s'

/-- In every interleaving of any requests the locks exclude each other, are counted as they are used
and do not deadlock. -/
theorem operationLocks_sound {s : LockPool} (hs : ReachableLocks s) : Sound s := by
  have hacyclic : ∀ t, ¬ Relation.TransGen (Waiting s) t t :=
    not_transGen_waitsFor_self Mutex.rank fun t m m' hholds hblocked =>
      rank_lt_of_blocked hs hholds hblocked
  refine ⟨fun t t' key => exclusive_of_reachable hs,
    fun t request refs _ hgranted key => holdsKey_iff_of_granted hs hgranted,
    refCount_eq_card hs, locks_isSome_iff hs, ?_, ?_,
    hacyclic, exists_step hs hacyclic⟩
  · intro t t' ref href ref' href' hkey
    have hcurrent := current_of_registered hs href
    rw [hkey, current_of_registered hs href'] at hcurrent
    exact (Option.some.inj hcurrent).symm
  · intro hdone key
    have hnone : ∀ t, owned s t = {} := by
      intro t
      by_contra hown
      have hsome := unfinished_of_owned hs hown
      rw [hdone t] at hsome
      cases hsome
    have hzero : refCount s.world.locks key = 0 := by
      rw [refCount_eq_card hs, Finset.card_eq_zero, Finset.filter_eq_empty_iff]
      intro t _
      rw [CountedAt, hnone t]
      exact not_mem_nil
    have hentry := locks_isSome_iff hs key
    rw [hzero] at hentry
    simpa using hentry

/-- Two requests meet at the key "a", given once with duplicates and an empty key: one holds it, the
other one is counted and waits. A third one has been granted "c" at once. -/
theorem operationLocks_sound_contended :
    ∃ s, ReachableLocks s ∧ Sound s ∧ HoldsKey s 0 "a" ∧ HoldsKey s 0 "b" ∧ ¬ HoldsKey s 1 "a" ∧
      refCount s.world.locks "a" = 2 ∧ s.kind? 2 = some (.tryAcquire "c") ∧
      (∃ refs, (Request.tryAcquire "c").Granted (s.history 2) refs) ∧ HoldsKey s 2 "c" := by
  have hrun : ∃ s ∈ operationLocks.run (fun _ _ => true)
      (.start (.acquire ["b", "a", "", "b"]) :: List.replicate 6 (.act 0 {}) ++
        .start (.acquire ["a"]) :: List.replicate 3 (.act 1 {}) ++
        .start (.tryAcquire "c") :: List.replicate 4 (.act 2 {}))
      (Pool.initial { locks := .new, holder := none }),
        (owned s 0).held.map LockRef.key = ["b", "a"] ∧ (owned s 1).held = [] ∧
          refCount s.world.locks "a" = 2 ∧ s.kind? 2 = some (.tryAcquire "c") ∧
          s.history 2 = [⟨.lockTable, ()⟩, ⟨.registerKey "c", ⟨"c", 2⟩⟩, ⟨.unlockTable, ()⟩,
            ⟨.tryLock ⟨"c", 2⟩, true⟩] := by
    decide +kernel
  have hnew : Table.IsNew { locks := .new, holder := none } := rfl
  obtain ⟨s, hs, hheld, hwaiting, hcount, hkind, hhistory⟩ :=
    Machine.Reachable.of_run (fun _ _ _ => trivial) hnew hrun
  have hsound := operationLocks_sound hs
  have hgranted : (Request.tryAcquire "c").Granted (s.history 2) [⟨"c", 2⟩] := by
    rw [hhistory, Request.Granted, tryAcquire, normalizeLockKeys_singleton (by decide)]
    exact .cons (.cons (.cons (.cons (.nil _))))
  refine ⟨s, hs, hsound, ?_, ?_, ?_, hcount, hkind, ⟨_, hgranted⟩, ?_⟩
  · simp [HoldsKey, hheld]
  · simp [HoldsKey, hheld]
  · simp [HoldsKey, hwaiting]
  · exact (hsound.granted 2 _ _ hkind hgranted "c").2 ⟨mem_singleton.2 rfl, by decide⟩

end OpenNebulaCSI.Controller.LockRequests
