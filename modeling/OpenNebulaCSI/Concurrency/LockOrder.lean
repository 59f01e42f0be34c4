import Mathlib.Data.Set.Basic
import Mathlib.Order.WellFounded
import Mathlib.Order.WellFoundedSet
import OpenNebulaCSI.Concurrency.Pool

/-!
# Lock order

Threads that take mutually exclusive keys one after the other cannot wait for each other in a
circle if the keys are ranked and every thread asks only for keys above the ones it holds:

```text
t₁ waits for k₁, held by t₂, which waits for k₂ above k₁, held by t₃, …
```

climbs the ranks forever. `not_circularWait_of_rank` is this argument for arbitrary relations;
`LockTable` connects it to a `Machine`, where who holds a key is part of the world and which keys a
thread holds can be read off its history.
-/

namespace OpenNebulaCSI.Concurrency

section Ranks

variable {T K R : Type*} {holds blocked : T → K → Prop}

/-- A non-empty set of threads, each blocked on a key that another thread of the set holds. -/
def CircularWait (holds blocked : T → K → Prop) : Prop :=
  ∃ S : Set T, S.Nonempty ∧ ∀ t ∈ S, ∃ k, blocked t k ∧ ∃ t' ∈ S, t' ≠ t ∧ holds t' k

theorem not_circularWait_of_rank [Preorder R] [WellFoundedGT R] (rank : K → R)
    (hrank : ∀ t k k', holds t k → blocked t k' → rank k < rank k') :
    ¬ CircularWait holds blocked := by
  rintro ⟨S, ⟨t₀, ht₀⟩, hS⟩
  -- Induction downwards on the rank of the key a member of the circle waits for.
  have hnone : ∀ r, ∀ t ∈ S, ∀ k, rank k = r → ¬ ∃ t' ∈ S, t' ≠ t ∧ holds t' k := by
    intro r
    induction r using WellFoundedGT.induction with
    | ind r ih =>
      rintro t - k rfl ⟨t', ht', -, hholds⟩
      obtain ⟨k', hblocked, hnext⟩ := hS t' ht'
      exact ih (rank k') (hrank t' k k' hholds hblocked) t' ht' k' rfl hnext
  obtain ⟨k, -, hnext⟩ := hS t₀ ht₀
  exact hnone (rank k) t₀ ht₀ k rfl hnext

/-- `t` is blocked on a key that `t'` holds. -/
def WaitsFor (holds blocked : T → K → Prop) (t t' : T) : Prop :=
  ∃ k, blocked t k ∧ holds t' k

/-- Ranks do not only exclude circles of several threads, but also a thread that waits for itself,
and need not be well-founded for a chain that comes back. -/
theorem not_transGen_waitsFor_self [Preorder R] (rank : K → R)
    (hrank : ∀ t k k', holds t k → blocked t k' → rank k < rank k') (t : T) :
    ¬ Relation.TransGen (WaitsFor holds blocked) t t := by
  -- Along a chain the keys held are never below the key its first thread waits for.
  have hchain : ∀ t', Relation.TransGen (WaitsFor holds blocked) t t' →
      ∃ k k', blocked t k ∧ holds t' k' ∧ rank k ≤ rank k' := by
    intro t' hpath
    induction hpath with
    | single hwaits =>
      obtain ⟨k, hblocked, hholds⟩ := hwaits
      exact ⟨k, k, hblocked, hholds, le_refl _⟩
    | tail _ hwaits ih =>
      obtain ⟨k, k₁, hblocked, hholds, hle⟩ := ih
      obtain ⟨k₂, hblocked₂, hholds₂⟩ := hwaits
      have hlt : rank k₁ < rank k₂ := hrank _ k₁ k₂ hholds hblocked₂
      exact ⟨k, k₂, hblocked, hholds₂, hle.trans hlt.le⟩
  intro hcircle
  obtain ⟨k, k', hblocked, hholds, hle⟩ := hchain t hcircle
  exact absurd (hrank t k' k hholds hblocked) (not_lt_of_ge hle)

/-- Among finitely many threads that wait for each other without circles, one waits for none of
them. -/
theorem exists_not_waiting {W : T → T → Prop} (hacyclic : ∀ t, ¬ Relation.TransGen W t t)
    {S : Set T} (hfinite : S.Finite) (hne : S.Nonempty) : ∃ t ∈ S, ∀ t' ∈ S, ¬ W t t' := by
  have horder : IsStrictOrder T fun a b => Relation.TransGen W b a :=
    { irrefl := hacyclic
      trans := fun _ _ _ hab hbc => hbc.trans hab }
  have hwf : S.WellFoundedOn fun a b => Relation.TransGen W b a := hfinite.wellFoundedOn
  obtain ⟨t₀, ht₀⟩ := hne
  obtain ⟨⟨t, ht⟩, -, hmin⟩ := WellFounded.has_min hwf Set.univ ⟨⟨t₀, ht₀⟩, Set.mem_univ _⟩
  exact ⟨t, ht, fun t' ht' hwaits => hmin ⟨t', ht'⟩ (Set.mem_univ _) (.single hwaits)⟩

end Ranks

/-- Which operations take and return keys, and who holds a key in a world. -/
structure LockTable (Op World Key : Type) where
  acquires : Op → Option Key
  releases : Op → Option Key
  holder : World → Key → Option ℕ

variable {Op : Type} {Ans : Op → Type} {Kind Out World Env Change Key : Type} [DecidableEq Key]

namespace LockTable

variable (L : LockTable Op World Key)

/-- The machine hands a key only to a thread that asks for it while nobody holds it. -/
structure Respected (M : Machine Op Ans Kind Out World Env Change) : Prop where
  acquire : ∀ env w t op ans w' k, M.act env w t op = some (ans, w') → L.acquires op = some k →
    L.holder w' = Function.update (L.holder w) k (some t)
  release : ∀ env w t op ans w' k, M.act env w t op = some (ans, w') → L.acquires op = none →
    L.releases op = some k → L.holder w' = Function.update (L.holder w) k none
  frame : ∀ env w t op ans w', M.act env w t op = some (ans, w') → L.acquires op = none →
    L.releases op = none → L.holder w' = L.holder w
  start : ∀ w kind prog w', M.start w kind = some (prog, w') → L.holder w' = L.holder w
  change : ∀ c w w', M.change c w = some w' → L.holder w' = L.holder w

/-- The effect of one operation on the keys its thread holds. -/
def updateHeld (held : List Key) (op : Op) : List Key :=
  match L.acquires op, L.releases op with
  | some k, _ => k :: held
  | none, some k => held.erase k
  | none, none => held

/-- The keys held after a history, the latest first. -/
def held (past : List (Event Op Ans)) : List Key :=
  past.foldl (fun keys event => L.updateHeld keys event.op) []

@[simp]
theorem held_append_singleton (past : List (Event Op Ans)) (event : Event Op Ans) :
    L.held (past ++ [event]) = L.updateHeld (L.held past) event.op := by
  simp [held]

/-- A key a thread is about to take while somebody holds it. -/
def Blocked (s : Pool Op Ans Kind Out World) (t : ℕ) (k : Key) : Prop :=
  (s.nextOp? t).bind L.acquires = some k ∧ (L.holder s.world k).isSome

def Holds (s : Pool Op Ans Kind Out World) (t : ℕ) (k : Key) : Prop :=
  L.holder s.world k = some t

variable {L} {M : Machine Op Ans Kind Out World Env Change} {init : World → Prop}
  {ok : Pool Op Ans Kind Out World → Label Kind Env Change → Prop}
  {s s' : Pool Op Ans Kind Out World}

/-- After an operation of `t`, a key is held because `t` has just taken it, or because it was held
before and has not been returned. -/
theorem Respected.holder_act (hL : L.Respected M) {env : Env} {w w' : World} {t t' : ℕ} {op : Op}
    {ans : Ans op} {k : Key} (hact : M.act env w t op = some (ans, w'))
    (hholder : L.holder w' k = some t') :
    (t = t' ∧ L.acquires op = some k) ∨
      (L.holder w k = some t' ∧ (L.acquires op = none → L.releases op ≠ some k)) := by
  cases hacq : L.acquires op with
  | some k₀ =>
    rw [hL.acquire _ _ _ _ _ _ _ hact hacq] at hholder
    by_cases hk : k = k₀
    · subst hk
      exact .inl ⟨by simpa using hholder, rfl⟩
    · rw [Function.update_of_ne hk] at hholder
      exact .inr ⟨hholder, nofun⟩
  | none =>
    cases hrel : L.releases op with
    | some k₀ =>
      rw [hL.release _ _ _ _ _ _ _ hact hacq hrel] at hholder
      by_cases hk : k = k₀
      · simp [hk] at hholder
      · rw [Function.update_of_ne hk] at hholder
        exact .inr ⟨hholder, by simpa using Ne.symm hk⟩
    | none =>
      rw [hL.frame _ _ _ _ _ _ hact hacq hrel] at hholder
      exact .inr ⟨hholder, by simp⟩

theorem mem_updateHeld {keys : List Key} {op : Op} {k : Key}
    (h : L.acquires op = some k ∨ (k ∈ keys ∧ (L.acquires op = none → L.releases op ≠ some k))) :
    k ∈ L.updateHeld keys op := by
  simp only [updateHeld]
  split
  · rename_i k₀ hacq
    rcases h with h | ⟨hmem, -⟩
    · simp [Option.mem_unique hacq h]
    · exact List.mem_cons_of_mem _ hmem
  · rename_i k₀ hacq hrel
    rcases h with h | ⟨hmem, hne⟩
    · simp [hacq] at h
    · refine (List.mem_erase_of_ne fun hk => hne hacq ?_).2 hmem
      rw [hrel, hk]
  · rename_i hacq hrel
    rcases h with h | ⟨hmem, -⟩
    · simp [hacq] at h
    · exact hmem

/-- Whoever holds a key has taken it and not returned it. -/
def HoldersHold (L : LockTable Op World Key) (s : Pool Op Ans Kind Out World) : Prop :=
  ∀ t k, L.Holds s t k → k ∈ L.held (s.history t)

theorem step_holdersHold {l : Label Kind Env Change} (hL : L.Respected M) (hs : L.HoldersHold s)
    (h : M.step l s = some s') : L.HoldersHold s' := by
  intro t' k hholds
  simp only [Holds] at hholds
  rcases Machine.step_cases h with ⟨hprog⟩ |
    @⟨t, env, thread, op, next, ans, world, hthread, -, hact⟩ | ⟨hchange⟩
  · rw [Pool.spawn, hL.start _ _ _ _ hprog] at hholds
    exact hs t' k hholds
  · by_cases ht : t = t'
    · subst ht
      rw [Pool.history_advance_self, held_append_singleton]
      rcases hL.holder_act hact hholds with ⟨-, hacq⟩ | ⟨hold, hrel⟩
      · exact mem_updateHeld (.inl hacq)
      · exact mem_updateHeld (.inr ⟨hs t k hold, hrel⟩)
    · rw [Pool.history_advance_of_ne ht]
      rcases hL.holder_act hact hholds with ⟨rfl, -⟩ | ⟨hold, -⟩
      · exact absurd rfl ht
      · exact hs t' k hold
  · rw [hL.change _ _ _ hchange] at hholds
    exact hs t' k hholds

theorem reachable_holdersHold (hL : L.Respected M)
    (hinit : ∀ w, init w → ∀ k, L.holder w k = none) (hs : M.Reachable init ok s) :
    L.HoldersHold s := by
  refine hs.invariant (fun w hw t k hholds => ?_) fun _ _ _ _ ih _ h => step_holdersHold hL ih h
  simp [Holds, Pool.initial, hinit w hw k] at hholds

/-- After the history `past`, `op` takes only keys above the ones still held. -/
def Ordered {R : Type} [LT R] (L : LockTable Op World Key) (rank : Key → R)
    (past : List (Event Op Ans)) (op : Op) : Prop :=
  ∀ k, L.acquires op = some k → ∀ k' ∈ L.held past, rank k' < rank k

/-- Threads that take their keys in the order of the ranks never wait in a circle. -/
theorem not_circularWait {R : Type} [Preorder R] [WellFoundedGT R] {rank : Key → R}
    {C : Kind → Contract Op Ans} {post : Kind → List (Event Op Ans) → Out → Prop}
    (hL : L.Respected M) (hinit : ∀ w, init w → ∀ k, L.holder w k = none)
    (hs : M.Reachable init ok s) (hconf : s.Conforms C post)
    (hguar : ∀ kind past op, (C kind).guar past op → L.Ordered rank past op) :
    ¬ CircularWait (L.Holds s) (L.Blocked s) := by
  refine not_circularWait_of_rank rank fun t k k' hholds hblocked => ?_
  obtain ⟨op, hop, hacq⟩ := Option.bind_eq_some_iff.1 hblocked.1
  obtain ⟨thread, hthread, hnext⟩ := Option.bind_eq_some_iff.1 hop
  obtain ⟨next, hprog⟩ := Program.nextOp?_eq_some.1 hnext
  exact hguar _ _ _ (hconf.guar hthread hprog) k' hacq k
    (reachable_holdersHold hL hinit hs t k hholds)

/-! ## Held keys

`LockTable.HoldersHold` says that whoever holds a key has taken it and not returned it. The converse
holds as well: a key that a thread has taken and not returned is **still its own**. Two things can
go wrong on the way, and both are excluded step by step:

* a key is handed out while somebody holds it (`Exclusive`);
* a thread returns a key that it does not hold, and with it the key of another thread
  (`ReturnsHeld`, which is a matter of the programs and therefore part of a contract).
-/

/-- A key is handed out only while nobody holds it. -/
def Exclusive (L : LockTable Op World Key) (M : Machine Op Ans Kind Out World Env Change) : Prop :=
  ∀ env w t op ans w' k, M.act env w t op = some (ans, w') → L.acquires op = some k →
    L.holder w k = none

/-- After the history `past`, `op` returns only a key that is held. -/
def ReturnsHeld (L : LockTable Op World Key) (past : List (Event Op Ans)) (op : Op) : Prop :=
  ∀ k, L.acquires op = none → L.releases op = some k → k ∈ L.held past

/-- Every thread holds the keys it has taken and not returned, each of them once. -/
structure HeldHolds (L : LockTable Op World Key) (s : Pool Op Ans Kind Out World) : Prop where
  holds : ∀ t k, k ∈ L.held (s.history t) → L.Holds s t k
  nodup : ∀ t, (L.held (s.history t)).Nodup

variable {env : Env} {t : ℕ} {op : Op} {w : World} {ans : Ans op}

theorem HeldHolds.act_self {k : Key} (hL : L.Respected M) (hs : L.HeldHolds s)
    (hact : M.act env s.world t op = some (ans, w))
    (hk : k ∈ L.updateHeld (L.held (s.history t)) op) : L.holder w k = some t := by
  unfold updateHeld at hk
  split at hk
  · rename_i k₀ hacq
    rw [hL.acquire _ _ _ _ _ _ _ hact hacq]
    by_cases hne : k = k₀
    · simp [hne]
    · rw [Function.update_of_ne hne]
      exact hs.holds t k ((List.mem_cons.1 hk).resolve_left hne)
  · rename_i k₀ hacq hrel
    rw [hL.release _ _ _ _ _ _ _ hact hacq hrel]
    -- The returned key was held once, so it is not among the rest.
    obtain ⟨hne, hmem⟩ := (hs.nodup t).mem_erase_iff.1 hk
    rw [Function.update_of_ne hne]
    exact hs.holds t k hmem
  · rename_i hacq hrel
    rw [hL.frame _ _ _ _ _ _ hact hacq hrel]
    exact hs.holds t k hk

theorem HeldHolds.act_other {t' : ℕ} {k : Key} (hL : L.Respected M) (hexcl : L.Exclusive M)
    (hs : L.HeldHolds s) (hreturns : L.ReturnsHeld (s.history t) op)
    (hact : M.act env s.world t op = some (ans, w)) (hne : t ≠ t')
    (hk : k ∈ L.held (s.history t')) : L.holder w k = some t' := by
  have hholder : L.holder s.world k = some t' := hs.holds t' k hk
  cases hacq : L.acquires op with
  | some k₀ =>
    have hfree : L.holder s.world k₀ = none := hexcl _ _ _ _ _ _ _ hact hacq
    have hdiff : k ≠ k₀ := by
      rintro rfl
      simp [hfree] at hholder
    rw [hL.acquire _ _ _ _ _ _ _ hact hacq, Function.update_of_ne hdiff, hholder]
  | none =>
    cases hrel : L.releases op with
    | some k₀ =>
      have hown : L.holder s.world k₀ = some t := hs.holds t k₀ (hreturns k₀ hacq hrel)
      have hdiff : k ≠ k₀ := by
        rintro rfl
        exact hne (Option.mem_unique hown hholder)
      rw [hL.release _ _ _ _ _ _ _ hact hacq hrel, Function.update_of_ne hdiff, hholder]
    | none => rw [hL.frame _ _ _ _ _ _ hact hacq hrel, hholder]

theorem HeldHolds.act_nodup (hexcl : L.Exclusive M) (hs : L.HeldHolds s)
    (hact : M.act env s.world t op = some (ans, w)) :
    (L.updateHeld (L.held (s.history t)) op).Nodup := by
  unfold updateHeld
  split
  · rename_i k₀ hacq
    refine List.nodup_cons.2 ⟨fun hmem => ?_, hs.nodup t⟩
    have hholder : L.holder s.world k₀ = some t := hs.holds t k₀ hmem
    simp [hexcl _ _ _ _ _ _ _ hact hacq] at hholder
  · exact (hs.nodup t).erase _
  · exact hs.nodup t

theorem step_heldHolds {l : Label Kind Env Change} (hL : L.Respected M) (hexcl : L.Exclusive M)
    (hreturns : ∀ (t : ℕ) thread op next, s.threads[t]? = some thread →
      thread.prog = .call op next → L.ReturnsHeld (s.history t) op)
    (hs : L.HeldHolds s) (h : M.step l s = some s') : L.HeldHolds s' := by
  rcases Machine.step_cases h with @⟨kind, prog, world, hstart⟩ |
    @⟨t, env, thread, op, next, ans, world, hthread, hprog, hact⟩ | @⟨c, world, hchange⟩
  · refine ⟨fun t k hk => ?_, hs.nodup⟩
    show L.holder world k = some t
    rw [hL.start _ _ _ _ hstart]
    exact hs.holds t k hk
  · refine ⟨fun t' k hk => ?_, fun t' => ?_⟩
    · by_cases ht : t = t'
      · subst ht
        rw [Pool.history_advance_self, held_append_singleton] at hk
        exact hs.act_self hL hact hk
      · rw [Pool.history_advance_of_ne ht] at hk
        exact hs.act_other hL hexcl (hreturns t thread op next hthread hprog) hact ht hk
    · by_cases ht : t = t'
      · subst ht
        rw [Pool.history_advance_self, held_append_singleton]
        exact hs.act_nodup hexcl hact
      · rw [Pool.history_advance_of_ne ht]
        exact hs.nodup t'
  · refine ⟨fun t k hk => ?_, hs.nodup⟩
    show L.holder world k = some t
    rw [hL.change _ _ _ hchange]
    exact hs.holds t k hk

/-- Where the programs return only keys they hold, every thread holds the keys it has taken and not
returned, in every reachable state. -/
theorem reachable_heldHolds {C : Kind → Contract Op Ans}
    {post : Kind → List (Event Op Ans) → Out → Prop} (hL : L.Respected M) (hexcl : L.Exclusive M)
    (hconf : ∀ s, M.Reachable init ok s → s.Conforms C post)
    (hguar : ∀ kind past op, (C kind).guar past op → L.ReturnsHeld past op)
    (hs : M.Reachable init ok s) : L.HeldHolds s := by
  refine hs.invariant (fun w _ => ⟨?_, ?_⟩) fun s _ _ hreach ih _ h => ?_
  · intro t k hk
    simp [held] at hk
  · intro t
    simp [held]
  · refine step_heldHolds hL hexcl (fun t thread op next hthread hprog => ?_) ih h
    exact hguar _ _ _ ((hconf s hreach).guar hthread hprog)

end LockTable

end OpenNebulaCSI.Concurrency
