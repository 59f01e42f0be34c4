import Mathlib.Logic.Relation
import OpenNebulaCSI.Concurrency.Program

/-!
# Threads over a shared world

A `Pool` is a shared world, the threads started so far and the **log** of everything they have
called. A `Machine` says how the world answers an operation, which threads may be started, and how
the world may change by itself. One step of a pool starts a thread, lets one thread perform its
next operation, or changes the world; a run is any sequence of such steps, so every interleaving
is a run.

Threads are never removed, and the log only grows. What a thread has done is its `history`, a
projection of the log, and what has happened since it was started is `since`, a suffix of it.

`Reachable ok` restricts the runs to those whose steps all satisfy `ok`; with the condition that is
always true it is plain reachability. `Reachable.conforms_and_kept` carries `Program.Meets` from the
text of the programs to the threads of every reachable pool.
-/

namespace OpenNebulaCSI.Concurrency

open List

/-- A started thread: what it was started as, what is left of it, and the length of the log at
its start. -/
structure Thread (Op : Type) (Ans : Op → Type) (Kind Out : Type) where
  kind : Kind
  prog : Program Op Ans Out
  born : ℕ

structure Pool (Op : Type) (Ans : Op → Type) (Kind Out World : Type) where
  world : World
  threads : List (Thread Op Ans Kind Out)
  log : List (ℕ × Event Op Ans)

/-- How the world starts threads, answers operations and changes by itself. An operation that is
not answered is blocked; `Env` is what the outside world decides about an answer. -/
structure Machine (Op : Type) (Ans : Op → Type) (Kind Out World Env Change : Type) where
  start : World → Kind → Option (Program Op Ans Out × World)
  act : Env → World → ℕ → (op : Op) → Option (Ans op × World)
  change : Change → World → Option World

/-- One step of a pool. -/
inductive Label (Kind Env Change : Type) where
  | start (kind : Kind)
  | act (thread : ℕ) (env : Env)
  | change (change : Change)

variable {Op : Type} {Ans : Op → Type} {Kind Out World Env Change : Type} {α : Type}

theorem answer_inj {ans ans' : α} {w w' : World} (h : some (ans, w) = some (ans', w')) :
    ans = ans' ∧ w = w' :=
  Prod.mk.inj (Option.some.inj h)

variable {op : Op}

namespace Program

/-- The operation a program is about to call. -/
def nextOp? {α : Type} : Program Op Ans α → Option Op
  | .ret _ => none
  | .call op _ => some op

/-- The value of a program that has returned. -/
def result? {α : Type} : Program Op Ans α → Option α
  | .ret value => some value
  | .call _ _ => none

theorem result?_eq_some {p : Program Op Ans α} {value : α} :
    p.result? = some value ↔ p = .ret value := by
  cases p <;> simp [result?]

theorem nextOp?_eq_some {p : Program Op Ans α} :
    p.nextOp? = some op ↔ ∃ next, p = .call op next := by
  cases p with
  | ret value => simp [nextOp?]
  | call op' next => ?_
  simp only [nextOp?, Option.some.injEq, call.injEq]
  constructor
  · rintro rfl
    exact ⟨next, rfl, HEq.rfl⟩
  · rintro ⟨_, h, _⟩
    exact h

end Program

namespace Pool

/-- A pool in which nothing has been started. -/
def initial (world : World) : Pool Op Ans Kind Out World :=
  { world, threads := [], log := [] }

variable (s : Pool Op Ans Kind Out World)

/-- What thread `t` has called so far. -/
def history (t : ℕ) : List (Event Op Ans) :=
  s.log.filterMap fun entry => if entry.1 = t then some entry.2 else none

/-- Everything that has happened since thread `t` was started. -/
def since (t : ℕ) : List (ℕ × Event Op Ans) :=
  match s.threads[t]? with
  | some thread => s.log.drop thread.born
  | none => []

/-- The entry was made while thread `c` was running: after its start, and not after its last call.
-/
def During (c : ℕ) (entry : ℕ × Event Op Ans) : Prop :=
  ∃ before event after, s.since c = before ++ (c, event) :: after ∧ entry ∈ before ++ [(c, event)]

/-- The operation thread `t` is about to call. -/
def nextOp? (t : ℕ) : Option Op :=
  s.threads[t]?.bind fun thread => thread.prog.nextOp?

/-- The result of thread `t`, once it has returned. -/
def result? (t : ℕ) : Option Out :=
  s.threads[t]?.bind fun thread => thread.prog.result?

/-- The pool after starting a thread. -/
def spawn (kind : Kind) (prog : Program Op Ans Out) (world : World) :
    Pool Op Ans Kind Out World :=
  { world, threads := s.threads ++ [{ kind, prog, born := s.log.length }], log := s.log }

/-- The pool after thread `t` has performed an operation and is left with `prog`. -/
def advance (t : ℕ) (thread : Thread Op Ans Kind Out) (prog : Program Op Ans Out)
    (event : Event Op Ans) (world : World) : Pool Op Ans Kind Out World :=
  { world, threads := s.threads.set t { thread with prog }, log := s.log ++ [(t, event)] }

end Pool

variable {next : Ans op → Program Op Ans Out}

namespace Machine

variable (M : Machine Op Ans Kind Out World Env Change)

/-- The result of one step, if the step is possible. -/
def step (l : Label Kind Env Change) (s : Pool Op Ans Kind Out World) :
    Option (Pool Op Ans Kind Out World) :=
  match l with
  | .start kind => (M.start s.world kind).map fun r => s.spawn kind r.1 r.2
  | .act t env =>
    match s.threads[t]? with
    | none => none
    | some thread =>
      match thread.prog with
      | .ret _ => none
      | .call op next =>
        (M.act env s.world t op).map fun r =>
          s.advance t thread (next r.1) ⟨op, r.1⟩ r.2
  | .change c => (M.change c s.world).map fun world => { s with world }

/-- Everything a step can do. -/
inductive StepFrom (s : Pool Op Ans Kind Out World) :
    Label Kind Env Change → Pool Op Ans Kind Out World → Prop
  | start {kind prog world} (hstart : M.start s.world kind = some (prog, world)) :
    StepFrom s (.start kind) (s.spawn kind prog world)
  | act {t env thread op next ans world} (hthread : s.threads[t]? = some thread)
    (hprog : thread.prog = .call op next) (hact : M.act env s.world t op = some (ans, world)) :
    StepFrom s (.act t env) (s.advance t thread (next ans) ⟨op, ans⟩ world)
  | change {c world} (hchange : M.change c s.world = some world) :
    StepFrom s (.change c) { s with world }

variable {M} {s s' : Pool Op Ans Kind Out World} {l : Label Kind Env Change}

theorem step_cases (h : M.step l s = some s') : M.StepFrom s l s' := by
  cases l with
  | start kind =>
    obtain ⟨⟨prog, world⟩, hstart, rfl⟩ := Option.map_eq_some_iff.1 h
    exact .start hstart
  | act t env =>
    simp only [step] at h
    split at h
    · cases h
    rename_i thread hthread
    split at h
    · cases h
    rename_i op next hprog
    obtain ⟨⟨ans, world⟩, hact, rfl⟩ := Option.map_eq_some_iff.1 h
    exact .act hthread hprog hact
  | change c =>
    obtain ⟨world, hchange, rfl⟩ := Option.map_eq_some_iff.1 h
    exact .change hchange

theorem step_act {t : ℕ} {env : Env} {thread : Thread Op Ans Kind Out} {ans : Ans op}
    {world : World} (hthread : s.threads[t]? = some thread) (hprog : thread.prog = .call op next)
    (hact : M.act env s.world t op = some (ans, world)) :
    M.step (.act t env) s = some (s.advance t thread (next ans) ⟨op, ans⟩ world) := by
  simp only [step, hthread, hprog, hact, Option.map_some]

/-- The pools that runs from a pool satisfying `init` lead to, when every step satisfies `ok` in
the pool it is taken in. -/
inductive Reachable (M : Machine Op Ans Kind Out World Env Change) (init : World → Prop)
    (ok : Pool Op Ans Kind Out World → Label Kind Env Change → Prop) :
    Pool Op Ans Kind Out World → Prop
  | initial {world : World} : init world → Reachable M init ok (Pool.initial world)
  | step {s s' : Pool Op Ans Kind Out World} {l : Label Kind Env Change} :
      Reachable M init ok s → ok s l → M.step l s = some s' → Reachable M init ok s'

/-- Take the steps in order, each one only if it satisfies `ok`. -/
def run (M : Machine Op Ans Kind Out World Env Change)
    (ok : Pool Op Ans Kind Out World → Label Kind Env Change → Bool) :
    List (Label Kind Env Change) → Pool Op Ans Kind Out World → Option (Pool Op Ans Kind Out World)
  | [], s => some s
  | l :: ls, s => if ok s l then (M.step l s).bind (run M ok ls) else none

variable {init : World → Prop} {ok : Pool Op Ans Kind Out World → Label Kind Env Change → Prop}

theorem Reachable.run {check : Pool Op Ans Kind Out World → Label Kind Env Change → Bool}
    (hcheck : ∀ s l, check s l = true → ok s l) {ls : List (Label Kind Env Change)}
    (hs : M.Reachable init ok s) (hrun : M.run check ls s = some s') :
    M.Reachable init ok s' := by
  induction ls generalizing s with
  | nil =>
    obtain rfl : s = s' := by simpa [Machine.run] using hrun
    exact hs
  | cons l ls ih =>
    simp only [Machine.run] at hrun
    split at hrun
    · rename_i hok
      obtain ⟨mid, hmid, hrest⟩ := Option.bind_eq_some_iff.1 hrun
      exact ih (hs.step (hcheck s l hok) hmid) hrest
    · cases hrun

theorem Reachable.of_run {check : Pool Op Ans Kind Out World → Label Kind Env Change → Bool}
    (hcheck : ∀ s l, check s l = true → ok s l) {world : World} (hinit : init world)
    {ls : List (Label Kind Env Change)} {property : Pool Op Ans Kind Out World → Prop}
    (hrun : ∃ s ∈ M.run check ls (Pool.initial world), property s) :
    ∃ s, M.Reachable init ok s ∧ property s := by
  obtain ⟨s, hs, hproperty⟩ := hrun
  exact ⟨s, (Reachable.initial hinit).run hcheck hs, hproperty⟩

/-- The invariant rule. -/
theorem Reachable.invariant {Inv : Pool Op Ans Kind Out World → Prop}
    (hinit : ∀ world, init world → Inv (Pool.initial world))
    (hstep : ∀ s l s', M.Reachable init ok s → Inv s → ok s l → M.step l s = some s' → Inv s')
    (hs : M.Reachable init ok s) : Inv s := by
  induction hs with
  | initial hworld => exact hinit _ hworld
  | step hs hok h ih => exact hstep _ _ _ hs ih hok h

end Machine

/-! ## Histories along a run -/

namespace Pool

variable {s : Pool Op Ans Kind Out World} {t t' : ℕ} {thread : Thread Op Ans Kind Out}
  {kind : Kind} {prog : Program Op Ans Out} {event : Event Op Ans} {world : World}

@[simp]
theorem history_initial : (initial world : Pool Op Ans Kind Out World).history t = [] :=
  rfl

@[simp]
theorem history_spawn : (s.spawn kind prog world).history t = s.history t :=
  rfl

theorem history_advance :
    (s.advance t thread prog event world).history t' =
      s.history t' ++ if t = t' then [event] else [] := by
  by_cases h : t = t' <;> simp [history, advance, filterMap_append, h]

@[simp]
theorem history_advance_self :
    (s.advance t thread prog event world).history t = s.history t ++ [event] := by
  simp [history_advance]

theorem history_advance_of_ne (h : t ≠ t') :
    (s.advance t thread prog event world).history t' = s.history t' := by
  simp [history_advance, h]

theorem mem_history : event ∈ s.history t ↔ (t, event) ∈ s.log := by
  simp only [history, mem_filterMap, Option.ite_none_right_eq_some, Option.some.injEq, Prod.exists]
  constructor
  · rintro ⟨_, _, hmem, rfl, rfl⟩
    exact hmem
  · intro hmem
    exact ⟨_, _, hmem, rfl, rfl⟩

theorem spawn_getElem?_cases (h : (s.spawn kind prog world).threads[t]? = some thread) :
    s.threads[t]? = some thread ∨
      (t = s.threads.length ∧ thread = { kind, prog, born := s.log.length }) := by
  simp only [spawn, getElem?_append] at h
  split at h
  · exact .inl h
  rename_i hlt
  obtain ⟨hzero, hthread⟩ : t - s.threads.length = 0 ∧
      ({ kind, prog, born := s.log.length } : Thread Op Ans Kind Out) = thread := by
    simpa [getElem?_singleton] using h
  exact .inr ⟨by omega, hthread.symm⟩

theorem spawn_getElem?_old (h : s.threads[t]? = some thread) :
    (s.spawn kind prog world).threads[t]? = some thread := by
  have hlt : t < s.threads.length := (List.getElem?_eq_some_iff.1 h).1
  rw [spawn, getElem?_append_left hlt, h]

theorem spawn_getElem?_new :
    (s.spawn kind prog world).threads[s.threads.length]? =
      some { kind, prog, born := s.log.length } := by
  rw [spawn, getElem?_concat_length]

theorem nextOp?_of_call (hthread : s.threads[t]? = some thread)
    (hprog : thread.prog = .call op next) : s.nextOp? t = some op := by
  simp [nextOp?, hthread, hprog, Program.nextOp?]

theorem advance_getElem?_self (h : s.threads[t]? = some thread) :
    (s.advance t thread prog event world).threads[t]? = some { thread with prog } := by
  have hlt : t < s.threads.length := (List.getElem?_eq_some_iff.1 h).1
  simp [advance, getElem?_set_self hlt]

theorem advance_getElem?_of_ne (h : t' ≠ t) :
    (s.advance t thread prog event world).threads[t']? = s.threads[t']? := by
  simp [advance, getElem?_set_ne (Ne.symm h)]

variable {c : ℕ} {other : Thread Op Ans Kind Out}

theorem exists_advance_getElem? (prog : Program Op Ans Out) (event : Event Op Ans) (world : World)
    (hthread : s.threads[t]? = some thread) (hother : s.threads[c]? = some other) :
    ∃ later, (s.advance t thread prog event world).threads[c]? = some later ∧
      later.kind = other.kind ∧ later.born = other.born := by
  by_cases heq : c = t
  · subst heq
    obtain rfl : thread = other := Option.mem_unique hthread hother
    exact ⟨{ thread with prog }, advance_getElem?_self hthread, rfl, rfl⟩
  · exact ⟨other, (advance_getElem?_of_ne heq).trans hother, rfl, rfl⟩

theorem result?_spawn (h : t < s.threads.length) :
    (s.spawn kind prog world).result? t = s.result? t := by
  rw [result?, spawn, getElem?_append_left h, result?]

theorem result?_advance_of_ne (h : t' ≠ t) :
    (s.advance t thread prog event world).result? t' = s.result? t' := by
  rw [result?, advance_getElem?_of_ne h, result?]

theorem advance_getElem?_cases
    (h : (s.advance t thread prog event world).threads[t']? = some other) :
    (t' ≠ t ∧ s.threads[t']? = some other) ∨ (t' = t ∧ other = { thread with prog }) := by
  by_cases heq : t = t'
  · subst heq
    rw [advance, getElem?_set_self'] at h
    obtain ⟨_, _, rfl⟩ := Option.map_eq_some_iff.1 h
    exact .inr ⟨rfl, rfl⟩
  · exact .inl ⟨Ne.symm heq, by simpa [advance, getElem?_set_ne heq] using h⟩

/-- Log entries belong to started threads, threads were started in the past, and what a thread has
called it has called since its start. -/
structure WellFormed (s : Pool Op Ans Kind Out World) : Prop where
  logged : ∀ entry ∈ s.log, entry.1 < s.threads.length
  born_le : ∀ (t : ℕ) thread, s.threads[t]? = some thread → thread.born ≤ s.log.length
  mem_since : ∀ (t : ℕ) event, (t, event) ∈ s.log → (t, event) ∈ s.since t

theorem WellFormed.history_eq_nil (hs : s.WellFormed) (h : s.threads.length ≤ t) :
    s.history t = [] := by
  simp only [history, filterMap_eq_nil_iff, ite_eq_right_iff, reduceCtorEq, imp_false]
  rintro entry hentry rfl
  exact absurd (hs.logged entry hentry) (by omega)

theorem initial_wellFormed : (initial world : Pool Op Ans Kind Out World).WellFormed :=
  ⟨by simp [initial], by simp [initial], by simp [initial]⟩

theorem since_advance (hs : s.WellFormed) (hthread : s.threads[t]? = some thread)
    (hother : s.threads[c]? = some other) :
    (s.advance t thread prog event world).since c = s.since c ++ [(t, event)] := by
  have hborn : other.born ≤ s.log.length := hs.born_le c other hother
  obtain ⟨later, hlater, -, hbornEq⟩ := exists_advance_getElem? prog event world hthread hother
  simp only [since, hlater, hother, hbornEq]
  exact drop_append_of_le_length hborn

theorem since_spawn (hother : s.threads[c]? = some other) :
    (s.spawn kind prog world).since c = s.since c := by
  have hlt : c < s.threads.length := (List.getElem?_eq_some_iff.1 hother).1
  simp [since, spawn, getElem?_append_left hlt]

theorem WellFormed.started (hs : s.WellFormed) (hmem : (t, event) ∈ s.log) :
    ∃ thread, s.threads[t]? = some thread :=
  ⟨_, getElem?_eq_getElem (hs.logged _ hmem)⟩

variable {M : Machine Op Ans Kind Out World Env Change} {s' : Pool Op Ans Kind Out World}
  {l : Label Kind Env Change}

theorem step_wellFormed (hs : s.WellFormed) (h : M.step l s = some s') : s'.WellFormed := by
  rcases Machine.step_cases h with ⟨-⟩ | @⟨t, env, thread, op, next, ans, world, hthread, -, -⟩ |
    ⟨-⟩
  · refine ⟨fun entry hentry => ?_, fun t thread hthread => ?_, fun t event hmem => ?_⟩
    · have := hs.logged entry hentry
      simp only [spawn, length_append, length_singleton]
      omega
    · rcases spawn_getElem?_cases hthread with hold | ⟨-, rfl⟩
      · exact hs.born_le t thread hold
      · exact Nat.le_refl _
    · obtain ⟨other, hother⟩ := hs.started hmem
      rw [since_spawn hother]
      exact hs.mem_since t event hmem
  · refine ⟨fun entry hentry => ?_, fun t' other hother => ?_, fun t' event hmem => ?_⟩
    · simp only [advance, mem_append, mem_singleton, length_set] at hentry ⊢
      rcases hentry with hentry | rfl
      · exact hs.logged entry hentry
      · exact (List.getElem?_eq_some_iff.1 hthread).1
    · simp only [advance, length_append, length_singleton]
      rcases advance_getElem?_cases hother with ⟨-, hold⟩ | ⟨-, rfl⟩
      · have := hs.born_le _ _ hold
        omega
      have := hs.born_le _ _ hthread
      simp only
      omega
    · simp only [advance, mem_append, mem_singleton] at hmem
      rcases hmem with hmem | hnew
      · obtain ⟨other, hother⟩ := hs.started hmem
        rw [since_advance hs hthread hother]
        exact mem_append_left _ (hs.mem_since t' event hmem)
      obtain ⟨rfl, rfl⟩ := Prod.mk.inj hnew
      rw [since_advance hs hthread hthread]
      exact mem_append_right _ (mem_singleton_self _)
  · exact ⟨hs.logged, hs.born_le, hs.mem_since⟩

/-! ## Earlier states -/

/-- The second pool is one the first may develop into: its log is longer, and the threads of the
first one are still there. -/
structure Precedes (s s' : Pool Op Ans Kind Out World) : Prop where
  log : s.log <+: s'.log
  threads : ∀ (c : ℕ) thread, s.threads[c]? = some thread →
    ∃ later, s'.threads[c]? = some later ∧ later.kind = thread.kind ∧ later.born = thread.born

theorem Precedes.refl : s.Precedes s :=
  ⟨prefix_rfl, fun _ thread h => ⟨thread, h, rfl, rfl⟩⟩

theorem Precedes.trans {s'' : Pool Op Ans Kind Out World} (h : s.Precedes s')
    (h' : s'.Precedes s'') : s.Precedes s'' := by
  refine ⟨h.log.trans h'.log, fun c thread hthread => ?_⟩
  obtain ⟨mid, hmid, hkind, hborn⟩ := h.threads c thread hthread
  obtain ⟨last, hlast, hkind', hborn'⟩ := h'.threads c mid hmid
  exact ⟨last, hlast, hkind'.trans hkind, hborn'.trans hborn⟩

theorem step_precedes (h : M.step l s = some s') : s.Precedes s' := by
  rcases Machine.step_cases h with ⟨-⟩ | @⟨t, env, thread, op, next, ans, world, hthread, -, -⟩ |
    @⟨c, world, -⟩
  · refine ⟨prefix_rfl, fun c other hother => ⟨other, ?_, rfl, rfl⟩⟩
    exact spawn_getElem?_old hother
  · refine ⟨prefix_append _ _, fun c other hother => ?_⟩
    exact exists_advance_getElem? _ _ _ hthread hother
  · exact ⟨prefix_rfl, fun c other hother => ⟨other, hother, rfl, rfl⟩⟩

theorem Precedes.since_prefix (h : s.Precedes s') (c : ℕ) : s.since c <+: s'.since c := by
  cases hthread : s.threads[c]? with
  | none => simp [since, hthread]
  | some thread => ?_
  obtain ⟨later, hlater, -, hborn⟩ := h.threads c thread hthread
  obtain ⟨tail, htail⟩ := h.log
  simp only [since, hthread, hlater, hborn, ← htail, drop_append]
  exact prefix_append _ _

theorem WellFormed.during_self (hs : s.WellFormed) (hmem : (t, event) ∈ s.log) :
    s.During t (t, event) := by
  obtain ⟨before, after, hsplit⟩ := append_of_mem (hs.mem_since t event hmem)
  exact ⟨before, event, after, hsplit, by simp⟩

/-- What has happened between the start of a thread and one of its calls was during its run. -/
theorem Precedes.during {entry : ℕ × Event Op Ans} (hs : s.WellFormed)
    (hthread : s.threads[t]? = some thread)
    (h : (s.advance t thread prog event world).Precedes s') (hentry : entry ∈ s.since t) :
    s'.During t entry := by
  obtain ⟨after, hafter⟩ := h.since_prefix t
  rw [since_advance hs hthread hthread] at hafter
  exact ⟨s.since t, event, after, by rw [← hafter]; simp, mem_append_left _ hentry⟩

/-! ## Contracts along a run -/

/-- Every thread keeps the contract of its kind and is on its way to its postcondition. -/
def Conforms (C : Kind → Contract Op Ans) (post : Kind → List (Event Op Ans) → Out → Prop)
    (s : Pool Op Ans Kind Out World) : Prop :=
  ∀ (t : ℕ) thread, s.threads[t]? = some thread →
    thread.prog.Meets (C thread.kind) (post thread.kind) (s.history t)

variable {C : Kind → Contract Op Ans} {post : Kind → List (Event Op Ans) → Out → Prop}

theorem initial_conforms : (initial world : Pool Op Ans Kind Out World).Conforms C post := by
  intro t thread hthread
  simp [initial] at hthread

theorem Conforms.spawn (hwf : s.WellFormed) (hs : s.Conforms C post)
    (hprog : prog.Meets (C kind) (post kind) []) : (s.spawn kind prog world).Conforms C post := by
  intro t thread hthread
  rcases spawn_getElem?_cases hthread with hold | ⟨rfl, rfl⟩
  · exact hs t thread hold
  · rw [history_spawn, hwf.history_eq_nil (Nat.le_refl _)]
    exact hprog

theorem Conforms.advance (hs : s.Conforms C post) (hthread : s.threads[t]? = some thread)
    (hprog : thread.prog = .call op next) (hrely : (C thread.kind).rely (s.history t) op ans) :
    (s.advance t thread (next ans) ⟨op, ans⟩ world).Conforms C post := by
  intro t' other hother
  rcases advance_getElem?_cases hother with ⟨hne, hold⟩ | ⟨rfl, rfl⟩
  · rw [history_advance_of_ne (Ne.symm hne)]
    exact hs t' other hold
  rw [history_advance_self]
  have hmeets := hs _ _ hthread
  rw [hprog, Program.meets_call] at hmeets
  exact hmeets.2 ans hrely

theorem Conforms.guar (hs : s.Conforms C post) (hthread : s.threads[t]? = some thread)
    (hprog : thread.prog = .call op next) : (C thread.kind).guar (s.history t) op := by
  have hmeets := hs t thread hthread
  rw [hprog, Program.meets_call] at hmeets
  exact hmeets.1

/-- Every call of every thread was allowed when it was made, and its answer was one to rely on. -/
def Kept (C : Kind → Contract Op Ans) (s : Pool Op Ans Kind Out World) : Prop :=
  ∀ (t : ℕ) thread past event rest, s.threads[t]? = some thread →
    s.history t = past ++ event :: rest →
    (C thread.kind).guar past event.op ∧ (C thread.kind).rely past event.op event.ans

theorem Kept.spawn (hwf : s.WellFormed) (hs : s.Kept C) : (s.spawn kind prog world).Kept C := by
  intro t thread past event rest hthread hsplit
  rcases spawn_getElem?_cases hthread with hold | ⟨rfl, rfl⟩
  · exact hs t thread past event rest hold hsplit
  · rw [history_spawn, hwf.history_eq_nil (Nat.le_refl _)] at hsplit
    simp at hsplit

theorem Kept.advance (hs : s.Kept C) (hthread : s.threads[t]? = some thread)
    (hguar : (C thread.kind).guar (s.history t) op)
    (hrely : (C thread.kind).rely (s.history t) op ans) :
    (s.advance t thread prog ⟨op, ans⟩ world).Kept C := by
  intro t' other past event rest hother hsplit
  rcases advance_getElem?_cases hother with ⟨hne, hold⟩ | ⟨rfl, rfl⟩
  · rw [history_advance_of_ne (Ne.symm hne)] at hsplit
    exact hs t' other past event rest hold hsplit
  rw [history_advance_self] at hsplit
  -- The call is the last one of the history, or an earlier one.
  rcases eq_nil_or_concat rest with rfl | ⟨init, last, rfl⟩
  · obtain ⟨rfl, hevent⟩ := append_inj' hsplit rfl
    obtain rfl : _ = event := by simpa using hevent
    exact ⟨hguar, hrely⟩
  · rw [concat_eq_append, ← cons_append, ← append_assoc] at hsplit
    exact hs _ thread past event init hthread (append_inj_left' hsplit rfl)

theorem Kept.of_mem {event : Event Op Ans} (hwf : s.WellFormed) (hs : s.Kept C)
    (hmem : (t, event) ∈ s.log) :
    ∃ thread past rest, s.threads[t]? = some thread ∧ s.history t = past ++ event :: rest ∧
      (C thread.kind).guar past event.op ∧ (C thread.kind).rely past event.op event.ans := by
  obtain ⟨thread, hthread⟩ := hwf.started hmem
  obtain ⟨past, rest, hsplit⟩ := append_of_mem (mem_history.2 hmem)
  exact ⟨thread, past, rest, hthread, hsplit, hs t thread past event rest hthread hsplit⟩

theorem Conforms.result {out : Out} (hs : s.Conforms C post)
    (hthread : s.threads[t]? = some thread) (hprog : thread.prog = .ret out) :
    post thread.kind (s.history t) out := by
  have hmeets := hs t thread hthread
  rwa [hprog, Program.meets_ret] at hmeets

end Pool

namespace Machine

variable {M : Machine Op Ans Kind Out World Env Change} {init : World → Prop}
  {ok : Pool Op Ans Kind Out World → Label Kind Env Change → Prop}
  {s : Pool Op Ans Kind Out World}

theorem Reachable.wellFormed (hs : M.Reachable init ok s) : s.WellFormed :=
  hs.invariant (fun _ _ => Pool.initial_wellFormed) fun _ _ _ _ ih _ h => Pool.step_wellFormed ih h

/-- The rely-guarantee rule: programs are started and answers may be relied on while `Inv` holds of
the world, and the calls that contracts allow keep `Inv`. Then it holds in every reachable pool, in
which all threads conform and have kept their contracts. -/
theorem Reachable.rely_guarantee {C : Kind → Contract Op Ans}
    {post : Kind → List (Event Op Ans) → Out → Prop} (Inv : World → Prop)
    (hinit : ∀ world, init world → Inv world)
    (hstart : ∀ s kind prog world, ok s (.start kind) → Inv s.world →
      M.start s.world kind = some (prog, world) → prog.Meets (C kind) (post kind) [] ∧ Inv world)
    (hact : ∀ s (t : ℕ) env thread op next ans world, M.Reachable init ok s → ok s (.act t env) →
      Inv s.world → s.threads[t]? = some thread → thread.prog = .call op next →
      (C thread.kind).guar (s.history t) op → M.act env s.world t op = some (ans, world) →
      (C thread.kind).rely (s.history t) op ans ∧ Inv world)
    (hchange : ∀ s c world, ok s (.change c) → Inv s.world → M.change c s.world = some world →
      Inv world)
    (hs : M.Reachable init ok s) : s.Conforms C post ∧ s.Kept C ∧ Inv s.world := by
  induction hs with
  | initial hworld =>
    refine ⟨Pool.initial_conforms, ?_, hinit _ hworld⟩
    intro t thread past event rest hthread
    simp [Pool.initial] at hthread
  | @step s s' l hs hok h ih =>
    obtain ⟨hconf, hkept, hinv⟩ := ih
    rcases step_cases h with @⟨kind, prog, world, hprog⟩ |
      @⟨t, env, thread, op, next, ans, world, hthread, hprog, hans⟩ | @⟨c, world, hworld⟩
    · obtain ⟨hmeets, hnew⟩ := hstart s kind prog world hok hinv hprog
      exact ⟨hconf.spawn hs.wellFormed hmeets, hkept.spawn hs.wellFormed, hnew⟩
    · have hguar := hconf.guar hthread hprog
      obtain ⟨hrely, hnew⟩ :=
        hact s t env thread op next ans world hs hok hinv hthread hprog hguar hans
      exact ⟨hconf.advance hthread hprog hrely, hkept.advance hthread hguar hrely, hnew⟩
    · exact ⟨hconf, hkept, hchange s c world hok hinv hworld⟩

section

variable {C : Kind → Contract Op Ans} {post : Kind → List (Event Op Ans) → Out → Prop}

/-- Contracts whose relied-on answers are the only ones an allowed step can give. -/
theorem Reachable.conforms_and_kept
    (hstart : ∀ world kind prog world', M.start world kind = some (prog, world') →
      prog.Meets (C kind) (post kind) [])
    (hrely : ∀ s (t : ℕ) env thread op next ans world, M.Reachable init ok s → ok s (.act t env) →
      s.threads[t]? = some thread → thread.prog = .call op next →
      M.act env s.world t op = some (ans, world) → (C thread.kind).rely (s.history t) op ans)
    (hs : M.Reachable init ok s) : s.Conforms C post ∧ s.Kept C := by
  have hrule : s.Conforms C post ∧ s.Kept C ∧ True := by
    refine hs.rely_guarantee (fun _ => True) (fun _ _ => trivial) ?_ ?_ fun _ _ _ _ _ _ => trivial
    · intro s kind prog world _ _ hprog
      exact ⟨hstart s.world kind prog world hprog, trivial⟩
    · intro s t env thread op next ans world hreach hok _ hthread hprog _ hans
      exact ⟨hrely s t env thread op next ans world hreach hok hthread hprog hans, trivial⟩
  exact ⟨hrule.1, hrule.2.1⟩

end

/-- The state in which an event happened. -/
theorem Reachable.origin {t : ℕ} {event : Event Op Ans} (hs : M.Reachable init ok s)
    (hmem : (t, event) ∈ s.log) :
    ∃ s₀ env thread next world, M.Reachable init ok s₀ ∧ ok s₀ (.act t env) ∧
      s₀.threads[t]? = some thread ∧ thread.prog = .call event.op next ∧
      M.act env s₀.world t event.op = some (event.ans, world) ∧
      (s₀.advance t thread (next event.ans) event world).Precedes s := by
  induction hs with
  | initial hworld => cases hmem
  | @step s s' l hs hok h ih =>
    by_cases hold : (t, event) ∈ s.log
    · obtain ⟨s₀, env, thread, next, world, hreach, hok', hthread, hprog, hact, hpre⟩ := ih hold
      exact ⟨s₀, env, thread, next, world, hreach, hok', hthread, hprog, hact,
        hpre.trans (Pool.step_precedes h)⟩
    rcases step_cases h with ⟨-⟩ | @⟨t', env, thread, op, next, ans, world, hthread, hprog, hact⟩ |
      ⟨-⟩
    · exact absurd hmem hold
    · obtain ⟨rfl, rfl⟩ := Prod.mk.inj (mem_singleton.1 ((mem_append.1 hmem).resolve_left hold))
      exact ⟨s, env, thread, next, world, hs, hok, hthread, hprog, hact, .refl⟩
    · exact absurd hmem hold

end Machine

/-! ## What a thread has done is a run of its program

A contract says what the calls of a program have in common. Where the whole course of a short
program matters, its history itself is taken apart: `Follows p trace rest` says that `p` makes the
calls of `trace` and is then left with `rest`. In every reachable pool each thread has followed the
program it was started with (`Reachable.follows`), so that the history of a thread determines what
it does next.
-/

variable {β : Type}

namespace Program

/-- The program makes the calls of the trace and is left with the last program. -/
inductive Follows : Program Op Ans α → List (Event Op Ans) → Program Op Ans α → Prop
  | nil (p : Program Op Ans α) : Follows p [] p
  | cons {op : Op} {next : Ans op → Program Op Ans α} {ans : Ans op} {trace : List (Event Op Ans)}
      {rest : Program Op Ans α} :
      Follows (next ans) trace rest → Follows (.call op next) (⟨op, ans⟩ :: trace) rest

/-- The program makes the calls of the trace and returns the value. -/
def Returns (p : Program Op Ans α) (trace : List (Event Op Ans)) (value : α) : Prop :=
  p.Follows trace (.ret value)

variable {p rest : Program Op Ans α} {trace : List (Event Op Ans)}

theorem follows_ret {value : α} :
    (Program.ret value : Program Op Ans α).Follows trace rest ↔ trace = [] ∧ rest = .ret value := by
  constructor
  · intro h
    cases h
    exact ⟨rfl, rfl⟩
  · rintro ⟨rfl, rfl⟩
    exact .nil _

theorem follows_call {op : Op} {next : Ans op → Program Op Ans α} :
    (Program.call op next).Follows trace rest ↔
      (trace = [] ∧ rest = .call op next) ∨
        ∃ ans later, trace = ⟨op, ans⟩ :: later ∧ (next ans).Follows later rest := by
  constructor
  · intro h
    cases h with
    | nil => exact .inl ⟨rfl, rfl⟩
    | cons hlater => exact .inr ⟨_, _, rfl, hlater⟩
  · rintro (⟨rfl, rfl⟩ | ⟨ans, later, rfl, hlater⟩)
    · exact .nil _
    · exact .cons hlater

theorem Follows.concat {op : Op} {next : Ans op → Program Op Ans α} {ans : Ans op}
    (h : p.Follows trace (.call op next)) : p.Follows (trace ++ [⟨op, ans⟩]) (next ans) := by
  generalize hrest : Program.call op next = rest at h
  induction h with
  | nil p =>
    subst hrest
    exact .cons (.nil _)
  | cons _ ih => exact .cons (ih hrest)

/-- A sequence is still in its first part, or has come to its second part with a value. -/
theorem Follows.bind {f : α → Program Op Ans β} {rest : Program Op Ans β}
    (h : (p >>= f).Follows trace rest) :
    (∃ q, p.Follows trace q ∧ rest = q >>= f) ∨
      ∃ value before after, trace = before ++ after ∧ p.Returns before value ∧
        (f value).Follows after rest := by
  induction p generalizing trace with
  | ret value => exact .inr ⟨value, [], trace, rfl, .nil _, h⟩
  | call op next ih =>
    rcases follows_call.1 h with ⟨rfl, rfl⟩ | ⟨ans, later, rfl, hlater⟩
    · exact .inl ⟨_, .nil _, rfl⟩
    rcases ih ans hlater with ⟨q, hq, hrest⟩ | ⟨value, before, after, rfl, hbefore, hafter⟩
    · exact .inl ⟨q, .cons hq, hrest⟩
    · exact .inr ⟨value, ⟨op, ans⟩ :: before, after, rfl, .cons hbefore, hafter⟩

/-- What holds after a program holds when it has returned with answers that may be relied on. -/
theorem Meets.returns {C : Contract Op Ans} {post : List (Event Op Ans) → α → Prop}
    {past : List (Event Op Ans)} {value : α} (hp : p.Meets C post past) (h : p.Returns trace value)
    (hrely : ∀ past, ∀ event ∈ trace, C.rely past event.op event.ans) :
    post (past ++ trace) value := by
  unfold Returns at h
  generalize hrest : Program.ret value = rest at h
  induction h generalizing past with
  | nil p =>
    subst hrest
    simpa using hp
  | cons _ ih =>
    have hnext := (meets_call.1 hp).2 _ (hrely past _ mem_cons_self)
    have hpost := ih hnext (fun past event hmem => hrely past event (mem_cons_of_mem _ hmem)) hrest
    simpa using hpost

theorem Follows.only {allowed : Op → Prop} (hp : p.Only allowed) (h : p.Follows trace rest) :
    (∀ event ∈ trace, allowed event.op) ∧ rest.Only allowed := by
  induction h with
  | nil p => exact ⟨nofun, hp⟩
  | cons _ ih =>
    obtain ⟨hop, hnext⟩ := only_call.1 hp
    obtain ⟨hlater, hrest⟩ := ih (hnext _)
    refine ⟨fun event hmem => ?_, hrest⟩
    rcases List.mem_cons.1 hmem with rfl | hmem
    · exact hop
    · exact hlater event hmem

end Program

namespace Machine

variable {M : Machine Op Ans Kind Out World Env Change} {init : World → Prop}
  {ok : Pool Op Ans Kind Out World → Label Kind Env Change → Prop}
  {s : Pool Op Ans Kind Out World}

/-- Every thread has followed its program and is left with the rest of it. -/
theorem Reachable.follows {program : Kind → Program Op Ans Out}
    (hstart : ∀ world kind prog world', M.start world kind = some (prog, world') →
      prog = program kind)
    (hs : M.Reachable init ok s) {t : ℕ} {thread : Thread Op Ans Kind Out}
    (hthread : s.threads[t]? = some thread) :
    (program thread.kind).Follows (s.history t) thread.prog := by
  induction hs generalizing t thread with
  | initial _ => cases hthread
  | @step s s' l hs hok h ih =>
    rcases step_cases h with ⟨hprog⟩ |
      @⟨t', env, moved, op, next, ans, world, hmoved, hprog, hact⟩ | ⟨-⟩
    · rcases Pool.spawn_getElem?_cases hthread with hold | ⟨rfl, rfl⟩
      · exact ih hold
      rw [Pool.history_spawn, hs.wellFormed.history_eq_nil (Nat.le_refl _)]
      dsimp only
      rw [hstart _ _ _ _ hprog]
      exact .nil _
    · rcases Pool.advance_getElem?_cases hthread with ⟨hne, hold⟩ | ⟨rfl, rfl⟩
      · rw [Pool.history_advance_of_ne (Ne.symm hne)]
        exact ih hold
      rw [Pool.history_advance_self]
      have hbefore := ih hmoved
      rw [hprog] at hbefore
      exact hbefore.concat
    · exact ih hthread

end Machine

/-! ## What a history says last -/

/-- What the last event of a history says about something, among the events that say anything. -/
def latest {α : Type} (tells : α → Option β) (past : List α) : Option β :=
  past.foldl (fun found event => (tells event).or found) none

@[simp]
theorem latest_append_singleton {α : Type} (tells : α → Option β) (past : List α) (event : α) :
    latest tells (past ++ [event]) = (tells event).or (latest tells past) := by
  simp [latest]

/-! ## Linearization points

A concurrent run is explained by a sequential one if every call takes effect at one of its own
steps, its **point**. `Pool.points` lists the calls of a pool in the order of their points, and
`Pool.sequential` performs them one after the other, each as a whole.

* `Reachable.linearized`: if a step changes the abstract state exactly when it is a point, and then
  as the whole call would, every reachable pool is in the state of its sequential run.
* `Leads.points_order`: a call that had returned before another one was started comes first. That
  is the real-time half of linearizability, and it holds because points are steps of the call.
-/

variable {A : Type} {a : ℕ} {apply : Kind → A → A}

namespace Pool

/-- The kind a thread was started as. -/
def kind? (s : Pool Op Ans Kind Out World) (t : ℕ) : Option Kind :=
  s.threads[t]?.map (·.kind)

/-- The calls that have passed their point, in this order. -/
def points (point : Kind → Event Op Ans → Bool) (s : Pool Op Ans Kind Out World) : List ℕ :=
  (s.log.filter fun entry => (s.kind? entry.1).any fun kind => point kind entry.2).map Prod.fst

/-- The calls of the pool performed one after the other, in the order of their points. -/
def sequential (point : Kind → Event Op Ans → Bool) (apply : Kind → A → A)
    (s : Pool Op Ans Kind Out World) (start : A) : A :=
  (s.points point).foldl (fun state t => (s.kind? t).elim state fun kind => apply kind state) start

variable {s : Pool Op Ans Kind Out World} {point : Kind → Event Op Ans → Bool} {t : ℕ}
  {prog : Program Op Ans Out} {thread : Thread Op Ans Kind Out} {event : Event Op Ans}
  {world : World}

theorem kind?_of_getElem? (h : s.threads[t]? = some thread) :
    s.kind? t = some thread.kind := by
  rw [kind?, h, Option.map_some]

variable {kind : Kind}

theorem kind?_spawn (ht : t < s.threads.length) :
    (s.spawn kind prog world).kind? t = s.kind? t := by
  rw [kind?, kind?, spawn, getElem?_append_left ht]

theorem mem_points (h : a ∈ s.points point) :
    ∃ event kind, (a, event) ∈ s.log ∧ s.kind? a = some kind ∧ point kind event = true := by
  obtain ⟨⟨t, event⟩, hmem, rfl⟩ := mem_map.1 h
  obtain ⟨hlog, hpoint⟩ := mem_filter.1 hmem
  obtain ⟨kind, hkind, htrue⟩ := (Option.any_eq_true _ _).1 hpoint
  exact ⟨event, kind, hlog, hkind, htrue⟩

theorem lt_length_of_mem_points (h : a ∈ s.points point) : a < s.threads.length := by
  obtain ⟨-, kind, -, hkind, -⟩ := mem_points h
  by_contra hlt
  rw [kind?, getElem?_eq_none (Nat.le_of_not_lt hlt)] at hkind
  cases hkind

theorem points_spawn (hs : s.WellFormed) :
    (s.spawn kind prog world).points point = s.points point := by
  refine congrArg (List.map Prod.fst) (filter_congr fun entry hentry => ?_)
  rw [kind?_spawn (hs.logged entry hentry)]

/-- The call that has passed its point last. -/
def lastPoint? (point : Kind → Event Op Ans → Bool) (s : Pool Op Ans Kind Out World) : Option ℕ :=
  (s.points point).getLast?

/-- What the call that has passed its point last was started as. -/
def lastKind? (point : Kind → Event Op Ans → Bool) (s : Pool Op Ans Kind Out World) :
    Option Kind :=
  (s.lastPoint? point).bind s.kind?

theorem lastPoint?_spawn (hs : s.WellFormed) :
    (s.spawn kind prog world).lastPoint? point = s.lastPoint? point := by
  rw [lastPoint?, points_spawn hs, lastPoint?]

theorem lastKind?_spawn (hs : s.WellFormed) :
    (s.spawn kind prog world).lastKind? point = s.lastKind? point := by
  rw [lastKind?, lastPoint?_spawn hs, lastKind?]
  refine Option.bind_congr fun t ht => kind?_spawn ?_
  have hmem : t ∈ s.points point := mem_of_getLast? ht
  exact lt_length_of_mem_points hmem

/-- A new thread has not passed a point, so nobody's kind is read differently. -/
theorem sequential_spawn {start : A} (hs : s.WellFormed) :
    (s.spawn kind prog world).sequential point apply start = s.sequential point apply start := by
  rw [sequential, points_spawn hs]
  refine foldl_ext _ _ _ fun state t ht => ?_
  rw [kind?_spawn (lt_length_of_mem_points ht)]

section Advance

variable (hthread : s.threads[t]? = some thread)

include hthread

theorem kind?_advance :
    (s.advance t thread prog event world).kind? = s.kind? := by
  funext i
  by_cases hi : i = t
  · rw [hi, kind?, kind?, advance_getElem?_self hthread, hthread]
    rfl
  · rw [kind?, kind?, advance_getElem?_of_ne hi]

theorem points_advance :
    (s.advance t thread prog event world).points point =
      s.points point ++ if point thread.kind event then [t] else [] := by
  have hkind := kind?_of_getElem? hthread
  rw [points, kind?_advance hthread]
  show List.map Prod.fst (List.filter _ (s.log ++ [(t, event)])) = _
  rw [filter_append, map_append]
  refine congrArg (s.points point ++ ·) ?_
  cases hpoint : point thread.kind event with
  | true => simp [hkind, hpoint]
  | false => simp [hkind, hpoint]

theorem lastPoint?_advance :
    (s.advance t thread prog event world).lastPoint? point =
      if point thread.kind event then some t else s.lastPoint? point := by
  rw [lastPoint?, points_advance hthread]
  split
  · exact getLast?_concat
  · rw [append_nil, lastPoint?]

theorem lastKind?_advance :
    (s.advance t thread prog event world).lastKind? point =
      if point thread.kind event then some thread.kind else s.lastKind? point := by
  rw [lastKind?, lastPoint?_advance hthread, kind?_advance hthread]
  split
  · exact kind?_of_getElem? hthread
  · rfl

theorem sequential_advance {start : A} :
    (s.advance t thread prog event world).sequential point apply start =
      if point thread.kind event then apply thread.kind (s.sequential point apply start)
      else s.sequential point apply start := by
  rw [sequential, points_advance hthread, kind?_advance hthread, foldl_append]
  cases hpoint : point thread.kind event with
  | true =>
    rw [if_pos rfl, if_pos rfl, foldl_cons, foldl_nil, kind?_of_getElem? hthread]
    rfl
  | false => rfl

theorem count_points :
    (s.points point).count t = (s.history t).countP (point thread.kind) := by
  have hkind := kind?_of_getElem? hthread
  unfold points history
  generalize s.log = log
  induction log with
  | nil => rfl
  | cons entry log ih =>
    obtain ⟨c, event⟩ := entry
    rw [filter_cons, filterMap_cons]
    by_cases hc : c = t
    · subst hc
      cases hpoint : point thread.kind event with
      | true => simpa [hkind, hpoint] using ih
      | false => simpa [hkind, hpoint] using ih
    · -- An event of another call counts on neither side.
      split
      · simpa [hc] using ih
      · simpa [hc] using ih

end Advance

end Pool

namespace Machine

open Pool

variable {M : Machine Op Ans Kind Out World Env Change}
  {ok : Pool Op Ans Kind Out World → Label Kind Env Change → Prop}
  {s s₀ : Pool Op Ans Kind Out World} {point : Kind → Event Op Ans → Bool}

/-- A run that starts at one pool and ends at another. -/
def Leads (M : Machine Op Ans Kind Out World Env Change) :
    Pool Op Ans Kind Out World → Pool Op Ans Kind Out World → Prop :=
  Relation.ReflTransGen fun s s' => ∃ l, M.step l s = some s'

/-- Every reachable pool is in the state that its calls, performed one after the other at their
points, lead to. -/
theorem Reachable.linearized {abs : World → A} {w₀ : World}
    (hstart : ∀ w kind prog w', M.start w kind = some (prog, w') → abs w' = abs w)
    (hact : ∀ s (t : ℕ) env thread op next ans w', M.Reachable (Eq w₀) ok s →
      s.threads[t]? = some thread → thread.prog = .call op next →
      M.act env s.world t op = some (ans, w') →
      abs w' = if point thread.kind ⟨op, ans⟩ then apply thread.kind (abs s.world)
        else abs s.world) (hchange : ∀ c w w', M.change c w = some w' → abs w' = abs w)
    (hs : M.Reachable (Eq w₀) ok s) : abs s.world = s.sequential point apply (abs w₀) := by
  induction hs with
  | initial hw =>
    subst hw
    rfl
  | @step s s' l hs hok h ih =>
    rcases step_cases h with ⟨hprog⟩ | @⟨t, env, thread, op, next, ans, w, hthread, hprog, hans⟩ |
      ⟨hw⟩
    · rw [sequential_spawn hs.wellFormed, ← ih]
      exact hstart _ _ _ _ hprog
    · rw [sequential_advance hthread, ← ih]
      exact hact s t env thread op next ans w hs hthread hprog hans
    · exact (hchange _ _ _ hw).trans ih

theorem Leads.points_of_returned (hs₀ : s₀.WellFormed) (h : M.Leads s₀ s)
    (hdone : (s₀.result? a).isSome) :
    s.WellFormed ∧ (s.result? a).isSome ∧
      ∃ rest, s.points point = s₀.points point ++ rest ∧ a ∉ rest := by
  induction h with
  | refl => exact ⟨hs₀, hdone, [], (append_nil _).symm, not_mem_nil⟩
  | tail _ hstep ih =>
    obtain ⟨l, hl⟩ := hstep
    obtain ⟨hwf, hresult, rest, hpoints, hrest⟩ := ih
    refine ⟨step_wellFormed hwf hl, ?_⟩
    obtain ⟨out, hout⟩ := Option.isSome_iff_exists.1 hresult
    obtain ⟨thread, hthread, hret⟩ := Option.bind_eq_some_iff.1 hout
    rcases step_cases hl with ⟨-⟩ | @⟨t, env, other, op, next, ans, w, hother, hprog, -⟩ | ⟨-⟩
    · refine ⟨?_, rest, ?_, hrest⟩
      · rw [result?_spawn (List.getElem?_eq_some_iff.1 hthread).1]
        exact hresult
      · rw [points_spawn hwf, hpoints]
    · have hne : t ≠ a := by
        rintro rfl
        obtain rfl : other = thread := Option.mem_unique hother hthread
        rw [hprog] at hret
        cases hret
      refine ⟨?_, rest ++ if point other.kind ⟨op, ans⟩ then [t] else [], ?_, ?_⟩
      · rw [result?_advance_of_ne (Ne.symm hne)]
        exact hresult
      · rw [points_advance hother, hpoints, append_assoc]
      · rw [mem_append, not_or]
        refine ⟨hrest, ?_⟩
        split
        · rw [mem_singleton]
          exact Ne.symm hne
        · exact not_mem_nil
    · exact ⟨hresult, rest, hpoints, hrest⟩

/-- A call that had returned before another one was started comes before it. -/
theorem Leads.points_order {b : ℕ} (hs₀ : s₀.WellFormed) (h : M.Leads s₀ s)
    (hdone : (s₀.result? a).isSome) (hlater : s₀.threads.length ≤ b) :
    ∃ before after, s.points point = before ++ after ∧ b ∉ before ∧ a ∉ after := by
  obtain ⟨-, -, rest, hpoints, hrest⟩ := h.points_of_returned hs₀ hdone
  refine ⟨s₀.points point, rest, hpoints, fun hmem => ?_, hrest⟩
  exact absurd (lt_length_of_mem_points hmem) (Nat.not_lt_of_le hlater)

end Machine

end OpenNebulaCSI.Concurrency
