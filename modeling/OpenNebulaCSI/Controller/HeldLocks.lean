import Mathlib.Algebra.BigOperators.Group.Finset.Basic
import Mathlib.Algebra.Order.BigOperators.Group.Finset
import Mathlib.Data.List.Count
import OpenNebulaCSI.Controller.LockOrder

/-!
# Who holds the lock of a key

`Acquire` locks the mutex it has found in the table under the key. That it **holds the lock of the
key** from then on also needs that the table still has this mutex: a later request would otherwise
get a new one and run next to it. The table drops a mutex when nobody is registered at it, so the
reason is the count of registrations, which is kept over all goroutines together (`Counted`).

The goroutines contribute that they lock only what they have registered at, return only what they
hold, and unregister only after that (`LockDiscipline`).
-/

namespace OpenNebulaCSI.Controller

open Go Concurrency Program Function List

/-! ## The table -/

namespace OperationLocks

variable {o : OperationLocks}

/-- Every mutex somebody is registered at is the current one of its key. -/
structure Live (o : OperationLocks) : Prop where
  keyed : o.Keyed
  current : ∀ ref, 0 < o.refs ref → o.locks ref.key = some ref

theorem refs_registerKey (key : String) (ref : LockRef) :
    (o.registerKey key).2.refs ref = o.refs ref + if (o.registerKey key).1 = ref then 1 else 0 := by
  by_cases h : (o.registerKey key).1 = ref
  · subst h
    simp [registerKey]
  have hrefs : (o.registerKey key).2.refs ref = o.refs ref := update_of_ne (Ne.symm h) _ _
  rw [hrefs, if_neg h, Nat.add_zero]

theorem refs_register (keys : List String) (ref : LockRef) :
    (o.register keys).2.refs ref = o.refs ref + (o.register keys).1.count ref := by
  induction keys generalizing o with
  | nil => simp [register]
  | cons key keys ih =>
    simp only [register, ih, refs_registerKey, count_cons, beq_iff_eq]
    omega

theorem registerKey_live (ho : o.Live) (key : String) : (o.registerKey key).2.Live := by
  refine ⟨registerKey_keyed ho.keyed key, fun ref href => ?_⟩
  have hkey : (o.registerKey key).1.key = key := registerKey_key ho.keyed key
  by_cases hnew : (o.registerKey key).1 = ref
  · subst hnew
    rw [hkey]
    simp [registerKey]
  rw [refs_registerKey, if_neg hnew] at href
  have hold : o.locks ref.key = some ref := ho.current ref href
  -- A mutex in use under this key would have been the one that was found.
  have hne : ref.key ≠ key := by
    rintro rfl
    exact hnew (by simp [registerKey, hold])
  simpa [registerKey, update_of_ne hne] using hold

theorem register_live (ho : o.Live) (keys : List String) : (o.register keys).2.Live := by
  induction keys generalizing o with
  | nil => exact ho
  | cons key keys ih => exact ih (registerKey_live ho key)

/-- Count one request less at a mutex, and drop the mutex if that was the last one. -/
def unregisterKey (o : OperationLocks) (ref : LockRef) : OperationLocks :=
  let o := { o with refs := Function.update o.refs ref (o.refs ref - 1) }
  if o.refs ref = 0 then { o with locks := Function.update o.locks ref.key none } else o

theorem unregister_cons (ref : LockRef) (refs : List LockRef) :
    o.unregister (ref :: refs) = (o.unregisterKey ref).unregister refs :=
  rfl

theorem refs_unregisterKey (ref ref' : LockRef) :
    (o.unregisterKey ref).refs ref' = o.refs ref' - if ref = ref' then 1 else 0 := by
  have hrefs : (o.unregisterKey ref).refs = Function.update o.refs ref (o.refs ref - 1) := by
    unfold unregisterKey
    simp only
    split <;> rfl
  rw [hrefs]
  by_cases h : ref = ref'
  · subst h
    simp
  · rw [update_of_ne (Ne.symm h), if_neg h, Nat.sub_zero]

theorem locks_unregisterKey (ref : LockRef) :
    (o.unregisterKey ref).locks =
      if o.refs ref - 1 = 0 then Function.update o.locks ref.key none else o.locks := by
  unfold unregisterKey
  simp only [update_self]
  split <;> rfl

theorem refs_unregister (refs : List LockRef) (ref : LockRef) :
    (o.unregister refs).refs ref = o.refs ref - refs.count ref := by
  induction refs generalizing o with
  | nil => simp [unregister]
  | cons first refs ih =>
    rw [unregister_cons, ih, refs_unregisterKey]
    simp only [count_cons, beq_iff_eq]
    omega

theorem unregisterKey_live {ref : LockRef} (ho : o.Live) (href : 0 < o.refs ref) :
    (o.unregisterKey ref).Live := by
  refine ⟨unregister_keyed ho.keyed [ref], fun other hother => ?_⟩
  rw [refs_unregisterKey] at hother
  have hcurrent : o.locks other.key = some other := ho.current other (by omega)
  unfold unregisterKey
  simp only [update_self]
  split
  · rename_i hlast
    -- The dropped mutex was the current one of its key, so the key is not that of `other`.
    have hne : other.key ≠ ref.key := by
      intro hkey
      have hsame : ref = other :=
        Option.some.inj ((ho.current ref href).symm.trans (hkey ▸ hcurrent))
      subst hsame
      simp only [if_true] at hother
      omega
    simpa [update_of_ne hne] using hcurrent
  · exact hcurrent

theorem unregister_live {refs : List LockRef} (ho : o.Live)
    (hrefs : ∀ ref, refs.count ref ≤ o.refs ref) : (o.unregister refs).Live := by
  induction refs generalizing o with
  | nil => exact ho
  | cons first refs ih =>
    rw [unregister_cons]
    have hfirst := hrefs first
    simp only [count_cons_self] at hfirst
    refine ih (unregisterKey_live ho (by omega)) fun ref => ?_
    have href := hrefs ref
    rw [refs_unregisterKey]
    simp only [count_cons, beq_iff_eq] at href
    omega

end OperationLocks

/-! ## Registrations of a goroutine -/

/-- The effect of one call on the mutexes its goroutine is registered at. -/
def updateRegistered (refs : List LockRef) : Event Op Op.Answer → List LockRef
  | ⟨.registerLocks _, added⟩ => added ++ refs
  | ⟨.unregisterLocks removed, _⟩ => refs.diff removed
  | _ => refs

/-- The mutexes a goroutine is registered at after a history. -/
def registered (past : History) : List LockRef :=
  past.foldl updateRegistered []

@[simp]
theorem registered_append_singleton (past : History) (event : Event Op Op.Answer) :
    registered (past ++ [event]) = updateRegistered (registered past) event := by
  simp [registered]

/-- How a goroutine may use the locks. -/
def LockDiscipline (past : History) : Op → Prop
  | .lock ref => ref ∈ registered past
  | .unlock ref => ref ∈ lockTable.held past
  | .unregisterLocks refs => (∀ ref, refs.count ref ≤ (registered past).count ref) ∧
      ∀ ref ∈ lockTable.held past, ref ∈ (registered past).diff refs
  | _ => True

variable {past : History} {op : Op}

theorem LockDiscipline.returnsHeld (h : LockDiscipline past op) :
    lockTable.ReturnsHeld past op := by
  intro ref _ hrel
  cases op with
  | unlock ref' =>
    obtain rfl : ref' = ref := Option.some.inj hrel
    exact h
  | _ => cases hrel

theorem lockDiscipline_of_bare (h : (op.changes == some .locks) = false) :
    LockDiscipline past op := by
  cases op <;> trivial

variable {ans : op.Answer}

theorem held_registered_append (hpast : ∀ ref ∈ lockTable.held past, ref ∈ registered past)
    (hop : LockDiscipline past op) :
    ∀ ref ∈ lockTable.held (past ++ [⟨op, ans⟩]), ref ∈ registered (past ++ [⟨op, ans⟩]) := by
  intro ref href
  rw [LockTable.held_append_singleton] at href
  rw [registered_append_singleton]
  cases op with
  | lock taken =>
    rcases mem_cons.1 href with rfl | hold
    · exact hop
    · exact hpast ref hold
  | unlock returned => exact hpast ref (mem_of_mem_erase href)
  | registerLocks keys => exact mem_append_right _ (hpast ref href)
  | unregisterLocks refs => exact hop.2 ref href
  | _ => exact hpast ref href

/-! ## Locked sections -/

/-- The same mutexes are held and registered at after `later` as after `past`. -/
def SameLocks (past later : History) : Prop :=
  lockTable.held later = lockTable.held past ∧ registered later = registered past

theorem SameLocks.trans {later last : History} (h : SameLocks past later)
    (h' : SameLocks later last) : SameLocks past last :=
  ⟨h'.1.trans h.1, h'.2.trans h.2⟩

theorem sameLocks_append {later : History} (hop : (op.changes == some .locks) = false)
    (h : SameLocks past later) : SameLocks past (later ++ [⟨op, ans⟩]) := by
  have hheld : lockTable.held (later ++ [⟨op, ans⟩]) = lockTable.held later := by
    rw [LockTable.held_append_singleton]
    cases op <;> first | rfl | cases hop
  have hregistered : registered (later ++ [⟨op, ans⟩]) = registered later := by
    rw [registered_append_singleton]
    cases op <;> first | rfl | cases hop
  exact ⟨hheld.trans h.1, hregistered.trans h.2⟩

/-- Contracts that let a goroutine use the locks as the discipline says, and under which registering
at keys gives mutexes of these keys. -/
structure LockAware (C : Contract Op Op.Answer) : Prop where
  rely : ∀ past keys refs, C.rely past (.registerLocks keys) refs →
    refs.map LockRef.key = OperationLocks.normalizeLockKeys keys
  guar : ∀ past op, op.OnLocks → LockDiscipline past op → C.guar past op

/-- The rule for a section locked by one key. -/
theorem LockAware.meets_lockedKey {α : Type} {C : Contract Op Op.Answer} {key : String}
    {body : Prog α} {past : History} (hC : LockAware C) (hkey : key ≠ "")
    (hpast : ∀ ref ∈ lockTable.held past, ref ∈ registered past)
    (hbody : ∀ ref later, ref.key = key → past <+: later →
      lockTable.held later = ref :: lockTable.held past →
      registered later = ref :: registered past →
      (∃ before, later = before ++ [⟨.lock ref, ()⟩]) →
      body.Meets C (fun last _ => SameLocks later last) later) :
    (locked [key] body).Meets C (fun later _ => SameLocks past later) past := by
  unfold locked
  refine .perform (hC.guar _ _ rfl trivial) fun refs hrefs => ?_
  have hrefs : refs.map LockRef.key = [key] :=
    (hC.rely _ _ _ hrefs).trans (normalizeLockKeys_singleton hkey)
  obtain ⟨ref, rfl, hrefkey⟩ : ∃ ref, refs = [ref] ∧ ref.key = key := by
    match refs, hrefs with
    | [ref], h => exact ⟨ref, rfl, by simpa using h⟩
  simp only [lockAll, unlockAll, reverse_singleton, meets_bind, meets_perform, meets_pure]
  have hregistered : registered (past ++ [⟨Op.registerLocks [key], [ref]⟩]) =
      ref :: registered past := by
    rw [registered_append_singleton]
    rfl
  have hheld : lockTable.held (past ++ [⟨Op.registerLocks [key], [ref]⟩]) =
      lockTable.held past := by
    rw [LockTable.held_append_singleton]
    rfl
  refine ⟨hC.guar _ _ rfl ?_, fun _ _ => (hbody ref _ hrefkey ?_ ?_ ?_ ⟨_, rfl⟩).mono
    fun later _ hlater => ?_⟩
  · show ref ∈ registered _
    rw [hregistered]
    exact mem_cons_self
  · exact (prefix_append _ _).trans (prefix_append _ _)
  · rw [LockTable.held_append_singleton, hheld]
    rfl
  · rw [registered_append_singleton, hregistered]
    rfl
  · -- What the body has left is what it started with: the mutex on top of the earlier ones.
    have hlast : lockTable.held later = ref :: lockTable.held past := by
      rw [hlater.1, LockTable.held_append_singleton, hheld]
      rfl
    have hregs : registered later = ref :: registered past := by
      rw [hlater.2, registered_append_singleton, hregistered]
      rfl
    have hunlocked : lockTable.held (later ++ [⟨Op.unlock ref, ()⟩]) = lockTable.held past := by
      rw [LockTable.held_append_singleton, hlast]
      simp [LockTable.updateHeld, lockTable]
    have hstill : registered (later ++ [⟨Op.unlock ref, ()⟩]) = ref :: registered past := by
      rw [registered_append_singleton, hregs]
      rfl
    refine ⟨hC.guar _ _ rfl ?_, fun _ _ => ⟨hC.guar _ _ rfl ⟨fun other => ?_,
      fun other hother => ?_⟩, fun _ _ => ⟨?_, ?_⟩⟩⟩
    · show ref ∈ lockTable.held later
      rw [hlast]
      exact mem_cons_self
    · rw [hstill]
      exact (singleton_sublist.2 mem_cons_self).count_le other
    · rw [hunlocked] at hother
      rw [hstill]
      simpa using hpast other hother
    · rw [LockTable.held_append_singleton, hunlocked]
      rfl
    · rw [registered_append_singleton, hstill]
      simp [updateRegistered]

/-! ## Counts over all goroutines -/

/-- The table counts the registrations of all goroutines, the mutexes in use are current, and every
goroutine is registered at what it holds. -/
structure Counted (s : ControllerPool) : Prop where
  live : s.world.locks.Live
  refs : ∀ ref, s.world.locks.refs ref =
    ∑ t ∈ Finset.range s.threads.length, (registered (s.history t)).count ref
  registered : ∀ t, ∀ ref ∈ lockTable.held (s.history t), ref ∈ registered (s.history t)

variable {t : ℕ}

theorem sum_range_change {n : ℕ} {f g : ℕ → ℕ} (ht : t < n) (hfg : ∀ i, i ≠ t → g i = f i) :
    (∑ i ∈ Finset.range n, g i) + f t = (∑ i ∈ Finset.range n, f i) + g t := by
  have hmem : t ∈ Finset.range n := Finset.mem_range.2 ht
  have hrest : ∑ i ∈ (Finset.range n).erase t, g i = ∑ i ∈ (Finset.range n).erase t, f i :=
    Finset.sum_congr rfl fun i hi => hfg i (Finset.ne_of_mem_erase hi)
  rw [← Finset.add_sum_erase _ g hmem, ← Finset.add_sum_erase _ f hmem, hrest]
  omega

variable {s : ControllerPool}

theorem Counted.count_le (hs : Counted s) (ht : t < s.threads.length) (ref : LockRef) :
    (Controller.registered (s.history t)).count ref ≤ s.world.locks.refs ref := by
  rw [hs.refs]
  exact Finset.single_le_sum (f := fun t => (Controller.registered (s.history t)).count ref)
    (fun _ _ => Nat.zero_le _) (Finset.mem_range.2 ht)

theorem Counted.advance_refs (hs : Counted s) {thread : Thread Op Op.Answer Kind Outcome}
    {prog : Prog Outcome} {w : World} (hthread : s.threads[t]? = some thread)
    (hrefs : ∀ ref, w.locks.refs ref + (Controller.registered (s.history t)).count ref =
      s.world.locks.refs ref +
        (updateRegistered (Controller.registered (s.history t)) ⟨op, ans⟩).count ref)
    (ref : LockRef) :
    w.locks.refs ref = ∑ i ∈ Finset.range (s.advance t thread prog ⟨op, ans⟩ w).threads.length,
      (Controller.registered ((s.advance t thread prog ⟨op, ans⟩ w).history i)).count ref := by
  have ht : t < s.threads.length := (List.getElem?_eq_some_iff.1 hthread).1
  have hlength : (s.advance t thread prog ⟨op, ans⟩ w).threads.length = s.threads.length := by
    simp [Pool.advance]
  have hsum := sum_range_change (f := fun i => (Controller.registered (s.history i)).count ref)
    (g := fun i =>
      (Controller.registered ((s.advance t thread prog ⟨op, ans⟩ w).history i)).count ref) ht
    fun i hi => by rw [Pool.history_advance_of_ne (Ne.symm hi)]
  simp only [Pool.history_advance_self, registered_append_singleton] at hsum
  have hbefore := hs.refs ref
  have hafter := hrefs ref
  rw [hlength]
  omega

/-- What an allowed call does to the table and to the registrations of its goroutine. -/
theorem act_registered {cfg : Config} {oracle : Oracle} {w w' : World} (hw : w.locks.Live)
    (hcount : ∀ ref, (registered past).count ref ≤ w.locks.refs ref) (hop : LockDiscipline past op)
    (hact : act cfg oracle w t op = some (ans, w')) :
    w'.locks.Live ∧ ∀ ref, w'.locks.refs ref + (registered past).count ref =
      w.locks.refs ref + (updateRegistered (registered past) ⟨op, ans⟩).count ref := by
  by_cases hlocks : op.changes = some .locks
  · cases op with
    | registerLocks keys =>
      obtain ⟨rfl, rfl⟩ := answer_inj hact
      refine ⟨OperationLocks.register_live hw _, fun ref => ?_⟩
      simp only [OperationLocks.refs_register, updateRegistered, count_append]
      omega
    | unregisterLocks refs =>
      obtain ⟨-, rfl⟩ := answer_inj hact
      refine ⟨OperationLocks.unregister_live hw fun ref => (hop.1 ref).trans (hcount ref),
        fun ref => ?_⟩
      have hown := hop.1 ref
      have hall := hcount ref
      simp only [OperationLocks.refs_unregister, updateRegistered, count_diff]
      omega
    | lock ref =>
      obtain ⟨locks, hlock, h⟩ := Option.map_eq_some_iff.1 hact
      cases h
      simp only [OperationLocks.lock] at hlock
      split at hlock <;> cases hlock
      exact ⟨⟨hw.keyed, hw.current⟩, fun _ => rfl⟩
    | unlock ref =>
      cases hact
      exact ⟨⟨hw.keyed, hw.current⟩, fun _ => rfl⟩
    | _ => cases hlocks
  · rw [act_locks hact hlocks]
    refine ⟨hw, fun ref => ?_⟩
    cases op <;> first | rfl | exact absurd rfl hlocks

theorem step_counted {cfg : Config} {l : ControllerStep} {s' : ControllerPool}
    (hdiscipline : ∀ (t : ℕ) thread op next, s.threads[t]? = some thread →
      thread.prog = .call op next → LockDiscipline (s.history t) op) (hwf : s.WellFormed)
    (hs : Counted s) (h : (controller cfg).step l s = some s') : Counted s' := by
  rcases Machine.step_cases h with @⟨kind, prog, world, hstart⟩ |
    @⟨t, oracle, thread, op, next, ans, world, hthread, hprog, hact⟩ | @⟨c, world, hchange⟩
  · obtain ⟨-, starting, rfl⟩ := start_frame hstart
    refine ⟨hs.live, fun ref => ?_, hs.registered⟩
    -- The new goroutine has not called anything yet.
    have hnew : s.history s.threads.length = [] := hwf.history_eq_nil (Nat.le_refl _)
    have hlength : (s.spawn kind prog
        { s.world with queue := { s.world.queue with starting } }).threads.length =
          s.threads.length + 1 := by
      simp [Pool.spawn]
    rw [hlength, Finset.sum_range_succ]
    simp only [Pool.history_spawn, hnew]
    exact hs.refs ref
  · have hop := hdiscipline t thread op next hthread hprog
    have ht : t < s.threads.length := (List.getElem?_eq_some_iff.1 hthread).1
    obtain ⟨hlive, hrefs⟩ := act_registered hs.live (hs.count_le ht) hop hact
    refine ⟨hlive, hs.advance_refs hthread hrefs, fun t' => ?_⟩
    by_cases hne : t = t'
    · subst hne
      rw [Pool.history_advance_self]
      exact held_registered_append (hs.registered t) hop
    · rw [Pool.history_advance_of_ne hne]
      exact hs.registered t'
  · cases c
    cases hchange
    exact ⟨hs.live, hs.refs, hs.registered⟩

/-! ## Runs -/

section Runs

variable {cfg : Config} {ok : ControllerPool → ControllerStep → Prop}
  {C : Kind → Contract Op Op.Answer} {post : Kind → History → Outcome → Prop}

/-- Thread `t` holds the lock of `key`: it has locked the mutex the table has under the key. -/
def HoldsLock (s : ControllerPool) (t : ℕ) (key : String) : Prop :=
  ∃ ref, s.world.locks.locks key = some ref ∧ s.world.locks.holder ref = some t

theorem lockTable_exclusive (cfg : Config) : lockTable.Exclusive (controller cfg) := by
  intro oracle w t op ans w' ref hact hacq
  cases op with
  | lock ref' =>
    obtain rfl : ref' = ref := Option.some.inj hacq
    obtain ⟨locks, hlock, -⟩ := Option.map_eq_some_iff.1 hact
    simp only [OperationLocks.lock] at hlock
    split at hlock
    · rename_i hfree
      exact Option.isNone_iff_eq_none.1 hfree
    · cases hlock
  | _ => cases hacq

theorem reachable_counted (hconf : ∀ s, Reachable cfg ok s → s.Conforms C post)
    (hguar : ∀ kind past op, (C kind).guar past op → LockDiscipline past op)
    (hs : Reachable cfg ok s) : Counted s := by
  refine hs.invariant (fun w hw => ?_) fun s _ _ hreach ih _ h => ?_
  · obtain ⟨entries, rfl⟩ := hw
    refine ⟨⟨fun key ref h => ?_, fun ref h => ?_⟩, fun ref => ?_, fun t ref h => ?_⟩
    · cases h
    · exact absurd h (Nat.lt_irrefl 0)
    · rfl
    · simp [LockTable.held] at h
  · refine step_counted (fun t thread op next hthread hprog => ?_) hreach.wellFormed ih h
    exact hguar _ _ _ ((hconf s hreach).guar hthread hprog)

/-- Where the goroutines keep the discipline, a mutex that one of them has locked and not unlocked
is the current one of its key, and its own. -/
theorem holdsLock_of_held (hconf : ∀ s, Reachable cfg ok s → s.Conforms C post)
    (hguar : ∀ kind past op, (C kind).guar past op → LockDiscipline past op)
    (hs : Reachable cfg ok s) {ref : LockRef} (href : ref ∈ lockTable.held (s.history t)) :
    HoldsLock s t ref.key := by
  have hcounted : Counted s := reachable_counted hconf hguar hs
  have hheld : lockTable.HeldHolds s :=
    LockTable.reachable_heldHolds (lockTable_respected cfg) (lockTable_exclusive cfg) hconf
      (fun kind past op h => (hguar kind past op h).returnsHeld) hs
  have ht : t < s.threads.length := by
    by_contra hlt
    rw [hs.wellFormed.history_eq_nil (Nat.le_of_not_lt hlt)] at href
    simp [LockTable.held] at href
  have hpos : 0 < s.world.locks.refs ref :=
    lt_of_lt_of_le (count_pos_iff.2 (hcounted.registered t ref href)) (hcounted.count_le ht ref)
  exact ⟨ref, hcounted.live.current ref hpos, hheld.holds t ref href⟩

end Runs

end OpenNebulaCSI.Controller
