import OpenNebulaCSI.Sticky.Manager

/-!
# Cleared holds on several replicas

Every controller replica has sticky entries in memory, and all replicas share one ConfigMap. The
leader starts, clears and defers holds; every replica releases maintenance holds and replaces its
memory by the ConfigMap. Nothing orders these operations, and an update writes back what was read
before, so a hold that is cleared after it was read comes back (`cleared_hold_resurrected`).

What a thread may still write is what it **carries**: the hold it was started with, or the entries
it has read. The invariant of `undisturbed` runs is that nobody carries an entry of a volume that is
cleared or being cleared.
-/

namespace OpenNebulaCSI.Sticky.Replicas

open Go Concurrency Controller Program Function List Pool

abbrev Entries :=
  String → Option StickyAttachmentState

inductive Op where
  /-- An operation on the sticky manager of a replica. -/
  | manager (replica : ℕ) (op : Controller.Op)
  | listByReason (replica : ℕ) (reason : String)
  | getConfigMap
  | replaceEntries (replica : ℕ) (entries : Entries)

@[reducible]
def Op.Answer : Op → Type
  | .manager _ op => op.Answer
  | .listByReason _ _ => List StickyAttachmentState
  | .getConfigMap => Except LookupError Entries
  | .replaceEntries _ _ => Unit

abbrev Prog :=
  Program Op Op.Answer

abbrev History :=
  List (Event Op Op.Answer)

abbrev call (op : Op) : Prog op.Answer :=
  Program.perform op

/-- The replica that serves requests. -/
def leader : ℕ :=
  0

/-- A program of the controller on one replica. -/
def onReplica {α : Type} (replica : ℕ) (p : Controller.Prog α) : Prog α :=
  p.lift (Op.manager replica) fun _ ans => ans

/-- The part of `expireStickyDetach` that defers an expired hold. It stands there twice, before the
request is queued and again under its locks. -/
def deferExpired (volume : String) : Controller.Prog Unit := do
  match ← Controller.perform (.stickyGet .other volume) with
  | none => return ()
  | some current => do
      let now ← query .now
      if now < current.expiresAt then return ()
      else do
        match ← query (.hotplugCooldownState current.nodeID) with
        | some _ => deferStickyDetach current
        | none => return ()

def releaseMaintenanceHolds (cfg : ReleaseConfig) (replica : ℕ) : Prog Unit := do
  let states ← call (.listByReason replica maintenanceStickyReason)
  onReplica replica (releaseHolds cfg states)

/-- Every entry of the ConfigMap decodes and names the volume of its key. -/
def loadFromConfigMap (replica : ℕ) : Prog (Option GoError) := do
  match ← call .getConfigMap with
  | .error (.notFound _) => return none
  | .error err => return some err.err
  | .ok entries => do
      call (.replaceEntries replica entries)
      return none

inductive Kind where
  | startGrace (state : StickyAttachmentState)
  | clear (volume : String)
  | deferExpired (volume : String)
  | release (replica : ℕ)
  | load (replica : ℕ)
  deriving DecidableEq

def Kind.program (cfg : ReleaseConfig) : Kind → Prog (Option GoError)
  | .startGrace state => onReplica leader (Controller.startGrace state)
  | .clear volume => onReplica leader (stickyClear volume)
  | .deferExpired volume => do
      onReplica leader (Replicas.deferExpired volume)
      return none
  | .release replica => do
      releaseMaintenanceHolds cfg replica
      return none
  | .load replica => loadFromConfigMap replica

structure World where
  memory : ℕ → Entries
  store : Entries

/-- What the outside world decides about one operation: whether the ConfigMap call fails, the time,
a pause of the node, and the keys in the order in which a map is ranged over. -/
structure Oracle where
  failure : Option GoError
  lookup : Option LookupError
  now : Int
  cooldown : Option Cooldown
  keys : List String

def act (oracle : Oracle) (w : World) : (op : Op) → Option (op.Answer × World)
  | .manager _ (.query .now) => some (oracle.now, w)
  | .manager _ (.query (.hotplugCooldownState _)) => some (oracle.cooldown, w)
  | .manager replica op =>
    (Sticky.act true oracle.failure ⟨w.memory replica, w.store⟩ op).map fun result =>
      (result.1, ⟨Function.update w.memory replica result.2.memory, result.2.store⟩)
  | .listByReason replica reason =>
    some (Sticky.listByReason oracle.keys (w.memory replica) reason, w)
  | .getConfigMap =>
    match oracle.lookup with
    | some err => some (.error err, w)
    | none => some (.ok w.store, w)
  | .replaceEntries replica entries =>
    some ((), { w with memory := Function.update w.memory replica entries })

/-- Any number of replicas, with any operations in progress. -/
def replicas (cfg : ReleaseConfig) :
    Machine Op Op.Answer Kind (Option GoError) World Oracle Empty where
  start w kind := some (kind.program cfg, w)
  act oracle w _ op := act oracle w op
  change := nofun

abbrev ReplicaPool :=
  Pool Op Op.Answer Kind (Option GoError) World

abbrev ReplicaStep :=
  Label Kind Oracle Empty

/-- Entries are stored under the volume they name, and none under a blank key. -/
def Keyed (entries : Entries) : Prop :=
  ∀ volume state, entries volume = some state → state.volumeID = volume ∧ trimSpace volume ≠ ""

/-- Any entries may be there at the start. -/
def World.Keyed (w : World) : Prop :=
  (∀ replica, Replicas.Keyed (w.memory replica)) ∧ Replicas.Keyed w.store

abbrev Reachable (cfg : ReleaseConfig) (ok : ReplicaPool → ReplicaStep → Prop) :
    ReplicaPool → Prop :=
  (replicas cfg).Reachable World.Keyed ok

/-! ## What a thread carries -/

/-- The event has read an entry of the volume. -/
def reads (volume : String) : Event Op Op.Answer → Bool
  | ⟨.manager _ (.stickyGet _ _), some state⟩ => state.volumeID = volume
  | ⟨.listByReason _ _, states⟩ => states.any fun state => state.volumeID = volume
  | ⟨.getConfigMap, .ok entries⟩ => (entries volume).isSome
  | _ => false

/-- A thread of this kind may still write an entry of the volume to the leader's memory or to the
ConfigMap. -/
def Kind.carries (kind : Kind) (past : History) (volume : String) : Bool :=
  match kind with
  | .startGrace state => state.volumeID = volume
  | .load replica => replica = leader && past.any (reads volume)
  | _ => past.any (reads volume)

/-- Some running thread carries an entry of the volume. -/
def carried (s : ReplicaPool) (volume : String) : Bool :=
  (List.range s.threads.length).any fun t =>
    match s.threads[t]? with
    | some thread =>
      thread.prog.result?.isNone && thread.kind.carries (s.history t) volume
    | none => false

/-- The volumes whose `Clear` is running. -/
def clearing (s : ReplicaPool) : List String :=
  s.threads.filterMap fun thread =>
    match thread.kind, thread.prog.result? with
    | .clear volume, none => some volume
    | _, _ => none

/-- The thread's next operation reads an entry of the volume. -/
def readsNext (s : ReplicaPool) (t : ℕ) (oracle : Oracle) (volume : String) : Bool :=
  match s.nextOp? t with
  | some op =>
    match act oracle s.world op with
    | some (ans, _) => reads volume ⟨op, ans⟩
    | none => false
  | none => false

/-- No thread carries an entry of a volume whose `Clear` starts, none starts a hold or reads an
entry of a volume that is being cleared, and a follower lists only holds that are in the ConfigMap.
-/
def undisturbed (s : ReplicaPool) : ReplicaStep → Bool
  | .start (.clear volume) => !carried s volume
  | .start (.startGrace state) => state.volumeID ∉ clearing s
  | .start _ => true
  | .act t oracle =>
    (clearing s).all (fun volume => !readsNext s t oracle volume) &&
    match s.nextOp? t with
    | some (.listByReason replica reason) =>
      replica = leader || (Sticky.listByReason oracle.keys (s.world.memory replica) reason).all
        fun state => (s.world.store state.volumeID).isSome
    | _ => true
  | .change _ => true

/-! ## What an operation writes -/

/-- The operation puts the state under the volume's key into the memory of the replica. -/
def Op.Puts (replica : ℕ) (volume : String) (state : StickyAttachmentState) : Op → Prop
  | .manager r (.stickySwap key entry) => r = replica ∧ key = volume ∧ entry = state
  | .replaceEntries r entries => r = replica ∧ entries volume = some state
  | _ => False

/-- The operation puts the state under the volume's key into the ConfigMap. -/
def Op.Stores (volume : String) (state : StickyAttachmentState) : Op → Prop
  | .manager _ (.query (.persistSticky entry)) => entry.volumeID = volume ∧ entry = state
  | _ => False

theorem write_cases {failure : Option GoError} {m : Manager} {key : String}
    {entry : Option StickyAttachmentState} (volume : String) :
    (m.write true failure key entry).2.memory = m.memory ∧
      ((m.write true failure key entry).2.store volume = m.store volume ∨
        key = volume ∧ (m.write true failure key entry).2.store volume = entry) := by
  cases failure with
  | some err => exact ⟨rfl, .inl rfl⟩
  | none => ?_
  refine ⟨rfl, ?_⟩
  by_cases hkey : key = volume
  · subst hkey
    exact .inr ⟨rfl, update_self ..⟩
  · exact .inl (update_of_ne (Ne.symm hkey) ..)

section Act

variable {oracle : Oracle} {w w' : World} {op : Op} {ans : op.Answer}

/-- The managers are those of the replicas, with the ConfigMap they share. -/
def World.manager (w : World) (replica : ℕ) : Manager :=
  ⟨w.memory replica, w.store⟩

theorem act_manager {r : ℕ} {op : Controller.Op} {ans : op.Answer}
    (hact : act oracle w (.manager r op) = some (ans, w')) :
    w' = w ∨ ∃ m', Sticky.act true oracle.failure (w.manager r) op = some (ans, m') ∧
      w' = ⟨Function.update w.memory r m'.memory, m'.store⟩ := by
  have hmap : (Sticky.act true oracle.failure (w.manager r) op).map (fun result =>
      (result.1, (⟨Function.update w.memory r result.2.memory, result.2.store⟩ : World))) =
        some (ans, w') →
      ∃ m', Sticky.act true oracle.failure (w.manager r) op = some (ans, m') ∧
        w' = ⟨Function.update w.memory r m'.memory, m'.store⟩ := by
    intro hmap
    obtain ⟨⟨ans', m'⟩, hsticky, hresult⟩ := Option.map_eq_some_iff.1 hmap
    obtain ⟨rfl, rfl⟩ := Prod.mk.inj hresult
    exact ⟨m', hsticky, rfl⟩
  cases op with
  | query q =>
    cases q with
    | now | hotplugCooldownState _ =>
      cases hact
      exact .inl rfl
    | _ => exact .inr (hmap hact)
  | _ => exact .inr (hmap hact)

/-- What an operation of the manager puts into memory and into the ConfigMap. -/
theorem manager_entries {failure : Option GoError} {m m' : Manager} {op : Controller.Op}
    {ans : op.Answer} (hact : Sticky.act true failure m op = some (ans, m')) (r : ℕ)
    (volume : String) :
    (m'.memory volume = m.memory volume ∨ m'.memory volume = none ∨
      ∃ state, m'.memory volume = some state ∧ (Op.manager r op).Puts r volume state) ∧
    (m'.store volume = m.store volume ∨ m'.store volume = none ∨
      ∃ state, m'.store volume = some state ∧ (Op.manager r op).Stores volume state) := by
  cases op with
  | stickyGet _ _ =>
    cases hact
    exact ⟨.inl rfl, .inl rfl⟩
  | stickySwap key state =>
    cases hact
    refine ⟨?_, .inl rfl⟩
    by_cases hkey : volume = key
    · subst hkey
      exact .inr (.inr ⟨state, update_self .., rfl, rfl, rfl⟩)
    · exact .inl (update_of_ne hkey ..)
  | stickyDelete key =>
    cases hact
    refine ⟨?_, .inl rfl⟩
    by_cases hkey : volume = key
    · subst hkey
      exact .inr (.inl (update_self ..))
    · exact .inl (update_of_ne hkey ..)
  | query q =>
    cases q with
    | persistSticky state =>
      obtain ⟨hmemory, hstore⟩ := @write_cases failure m state.volumeID (some state) volume
      obtain ⟨-, rfl⟩ := answer_inj hact
      refine ⟨.inl (congrFun hmemory volume), hstore.imp_right ?_⟩
      rintro ⟨hkey, hentry⟩
      exact .inr ⟨state, hentry, hkey, rfl⟩
    | deleteSticky key =>
      obtain ⟨hmemory, hstore⟩ := @write_cases failure m key none volume
      obtain ⟨-, rfl⟩ := answer_inj hact
      exact ⟨.inl (congrFun hmemory volume), hstore.imp_right fun h => .inl h.2⟩
    | _ => cases hact
  | _ => cases hact

/-- Every entry after an operation was there before or was written by it. -/
theorem act_entries (hact : act oracle w op = some (ans, w')) :
    (∀ replica volume, w'.memory replica volume = w.memory replica volume ∨
      w'.memory replica volume = none ∨
      ∃ state, w'.memory replica volume = some state ∧ op.Puts replica volume state) ∧
    (∀ volume, w'.store volume = w.store volume ∨ w'.store volume = none ∨
      ∃ state, w'.store volume = some state ∧ op.Stores volume state) := by
  cases op with
  | manager r op =>
    rcases act_manager hact with rfl | ⟨m', hsticky, rfl⟩
    · exact ⟨fun _ _ => .inl rfl, fun _ => .inl rfl⟩
    refine ⟨fun replica volume => ?_, fun volume => (manager_entries hsticky r volume).2⟩
    by_cases hreplica : replica = r
    · subst hreplica
      simp only [update_self]
      exact (manager_entries hsticky replica volume).1
    · exact .inl (by simp only [update_of_ne hreplica])
  | listByReason r reason =>
    cases hact
    exact ⟨fun _ _ => .inl rfl, fun _ => .inl rfl⟩
  | getConfigMap =>
    simp only [act] at hact
    split at hact <;> cases hact <;> exact ⟨fun _ _ => .inl rfl, fun _ => .inl rfl⟩
  | replaceEntries r entries =>
    cases hact
    refine ⟨fun replica volume => ?_, fun _ => .inl rfl⟩
    by_cases hreplica : replica = r
    · subst hreplica
      simp only [update_self, Op.Puts, true_and]
      cases entries volume with
      | none => exact .inr (.inl rfl)
      | some state => exact .inr (.inr ⟨state, rfl, rfl⟩)
    · exact .inl (by simp only [update_of_ne hreplica])

theorem reads_found {volume : String} (hact : act oracle w op = some (ans, w')) (hw : w.Keyed)
    (hread : reads volume ⟨op, ans⟩ = true) :
    (∃ r reader key, op = .manager r (.stickyGet reader key) ∧ w.memory r volume ≠ none) ∨
    (∃ r reason, op = .listByReason r reason ∧ w.memory r volume ≠ none ∧
      ∃ state ∈ Sticky.listByReason oracle.keys (w.memory r) reason, state.volumeID = volume) ∨
    (op = .getConfigMap ∧ w.store volume ≠ none) := by
  cases op with
  | manager r op =>
    cases op with
    | stickyGet reader key =>
      cases ans with
      | none => cases hread
      | some state => ?_
      have hentry : w.memory r key = some state := by
        rcases act_manager hact with rfl | ⟨m', hsticky, -⟩
        · exact (answer_inj hact).1
        · exact (answer_inj hsticky).1
      have hkey : state.volumeID = volume := of_decide_eq_true hread
      obtain rfl : key = volume := (hw.1 r key state hentry).1.symm.trans hkey
      exact .inl ⟨r, reader, key, rfl, by simp [hentry]⟩
    | _ => cases hread
  | listByReason r reason =>
    cases hact
    obtain ⟨state, hmem, hvolume⟩ := any_eq_true.1 hread
    have hvolume : state.volumeID = volume := of_decide_eq_true hvolume
    obtain ⟨key, hentry⟩ := mem_listByReason hmem
    obtain rfl : key = volume := (hw.1 r key state hentry).1.symm.trans hvolume
    exact .inr (.inl ⟨r, reason, rfl, by simp [hentry], state, hmem, hvolume⟩)
  | getConfigMap =>
    simp only [act] at hact
    split at hact
    · cases hact
      cases hread
    · cases hact
      exact .inr (.inr ⟨rfl, Option.isSome_iff_ne_none.1 hread⟩)
  | replaceEntries _ _ => cases hread

end Act

/-! ## The programs carry what they write -/

/-- Entries are written under the volume they name, and only by a thread that carries an entry of
it; only the leader reads a single entry. -/
def contract (kind : Kind) : Contract Op Op.Answer where
  rely _ op ans :=
    match op, ans with
    | .manager _ (.stickyGet _ volume), found => ∀ state ∈ found, state.volumeID = volume
    | .manager _ (.stickySwap volume _), found => ∀ state ∈ found, state.volumeID = volume
    | .getConfigMap, .ok entries => Keyed entries
    | _, _ => True
  guar past op :=
    (∀ replica volume state, op.Puts replica volume state →
      (state.volumeID = volume ∧ trimSpace volume ≠ "") ∧
        (replica = leader → kind.carries past volume = true)) ∧
    (∀ volume state, op.Stores volume state →
      (state.volumeID = volume ∧ trimSpace volume ≠ "") ∧ kind.carries past volume = true) ∧
    (∀ replica reader volume, op = .manager replica (.stickyGet reader volume) → replica = leader)

/-- A `Clear` that has succeeded has deleted both entries of its volume, the one in the ConfigMap
last. -/
def post (kind : Kind) (past : History) (err : Option GoError) : Prop :=
  match kind with
  | .clear volume => err = none → trimSpace volume = "" ∨
      ∃ before, past = before ++ [⟨.manager leader (.query (.deleteSticky volume)), none⟩] ∧
        ⟨.manager leader (.stickyDelete volume), ()⟩ ∈ before
  | _ => True

section Programs

variable {α β : Type} {kind : Kind} {past : History} {replica : ℕ}
  {state : StickyAttachmentState}

theorem onReplica_bind (p : Controller.Prog α) (next : α → Controller.Prog β) :
    onReplica replica (p >>= next) =
      onReplica replica p >>= fun value => onReplica replica (next value) :=
  lift_bind p next

theorem onReplica_call (op : Controller.Op) (next : op.Answer → Controller.Prog α) :
    onReplica replica (.call op next) =
      .call (.manager replica op) fun ans => onReplica replica (next ans) :=
  rfl

theorem carries_mono {later : History} {volume : String} (hsub : past ⊆ later)
    (h : kind.carries past volume = true) : kind.carries later volume = true := by
  have hany : past.any (reads volume) = true → later.any (reads volume) = true := by
    intro hpast
    obtain ⟨event, hmem, hread⟩ := any_eq_true.1 hpast
    exact any_eq_true.2 ⟨event, hsub hmem, hread⟩
  cases kind with
  | startGrace _ => exact h
  | load _ =>
    simp only [Kind.carries, Bool.and_eq_true] at h ⊢
    exact ⟨h.1, hany h.2⟩
  | _ => exact hany h

theorem guar_of_silent {op : Op} (hputs : ∀ r v state, ¬op.Puts r v state)
    (hstores : ∀ v state, ¬op.Stores v state)
    (hget : ∀ r reader v, op ≠ .manager r (.stickyGet reader v)) :
    (contract kind).guar past op :=
  ⟨fun r v state h => (hputs r v state h).elim, fun v state h => (hstores v state h).elim,
    fun r reader v h => (hget r reader v h).elim⟩

theorem guar_stickySwap {volume : String} (hkeyed : state.volumeID = volume)
    (hblank : trimSpace volume ≠ "") (hcarries : kind.carries past volume = true) :
    (contract kind).guar past (.manager replica (.stickySwap volume state)) := by
  refine ⟨?_, fun _ _ h => h.elim, fun _ _ _ h => by cases h⟩
  rintro _ _ _ ⟨rfl, rfl, rfl⟩
  exact ⟨⟨hkeyed, hblank⟩, fun _ => hcarries⟩

theorem guar_persistSticky (hblank : trimSpace state.volumeID ≠ "")
    (hcarries : kind.carries past state.volumeID = true) :
    (contract kind).guar past (.manager replica (.query (.persistSticky state))) := by
  refine ⟨fun _ _ _ h => h.elim, ?_, fun _ _ _ h => by cases h⟩
  rintro _ _ ⟨rfl, rfl⟩
  exact ⟨⟨rfl, hblank⟩, hcarries⟩

theorem guar_stickyDelete {volume : String} :
    (contract kind).guar past (.manager replica (.stickyDelete volume)) :=
  guar_of_silent (fun _ _ _ h => h) (fun _ _ h => h) nofun

theorem guar_query {q : Query} (hquery : ∀ state, q ≠ .persistSticky state) :
    (contract kind).guar past (.manager replica (.query q)) := by
  refine guar_of_silent (fun _ _ _ h => h) (fun volume state h => ?_) nofun
  cases q with
  | persistSticky entry => exact hquery entry rfl
  | _ => exact h

theorem meets_stickyUpdate (hcarries : kind.carries past state.volumeID = true) :
    (onReplica replica (stickyUpdate state)).Meets (contract kind)
      (fun later _ => past ⊆ later) past := by
  unfold stickyUpdate
  split
  · exact meets_pure.2 (List.Subset.refl _)
  rename_i hblank
  simp only [perform_bind, onReplica_call, meets_call]
  refine ⟨guar_stickySwap rfl hblank hcarries, fun previous hprevious => ?_⟩
  have hsub : past ⊆ past ++ [⟨.manager replica (.stickySwap state.volumeID state), previous⟩] :=
    subset_append_left _ _
  refine ⟨guar_persistSticky hblank (carries_mono hsub hcarries), fun err _ => ?_⟩
  have hsub' := List.Subset.trans hsub (subset_append_left _
    [(⟨.manager replica (.query (.persistSticky state)), err⟩ : Event Op Op.Answer)])
  cases err with
  | none => exact meets_pure.2 hsub'
  | some err => ?_
  -- The compensation writes back what the swap has returned.
  cases previous with
  | none =>
    simp only [onReplica_call, meets_call]
    exact ⟨guar_stickyDelete, fun _ _ =>
      meets_pure.2 (List.Subset.trans hsub' (subset_append_left _ _))⟩
  | some entry =>
    simp only [onReplica_call, meets_call]
    have hentry : entry.volumeID = state.volumeID := hprevious entry rfl
    exact ⟨guar_stickySwap hentry hblank (carries_mono hsub' hcarries), fun _ _ =>
      meets_pure.2 (List.Subset.trans hsub' (subset_append_left _ _))⟩

theorem meets_startGrace :
    (onReplica leader (Controller.startGrace state)).Meets (contract (.startGrace state))
      (fun _ _ => True) past := by
  have hcarries : ∀ past, (Kind.startGrace state).carries past state.volumeID = true :=
    fun _ => decide_eq_true rfl
  unfold Controller.startGrace
  split
  · exact meets_pure.2 trivial
  rename_i hblank
  simp only [perform_bind, onReplica_call, meets_call]
  refine ⟨guar_stickySwap rfl hblank (hcarries _), fun _ _ =>
    ⟨guar_persistSticky hblank (hcarries _), fun err _ => ?_⟩⟩
  cases err with
  | none => exact meets_pure.2 trivial
  | some err =>
    simp only [onReplica_call, meets_call]
    exact ⟨guar_stickyDelete, fun _ _ => meets_pure.2 trivial⟩

theorem meets_stickyClear (volume : String) :
    (onReplica leader (stickyClear volume)).Meets (contract kind) (post (.clear volume)) [] := by
  unfold stickyClear
  split
  · rename_i hblank
    exact meets_pure.2 fun _ => .inl hblank
  simp only [perform_bind, onReplica_call, meets_call]
  refine ⟨guar_stickyDelete, fun _ _ => ?_⟩
  show (call (.manager leader (.query (.deleteSticky volume)))).Meets _ _ _
  refine meets_perform.2 ⟨guar_query nofun, fun err _ herr => .inr ?_⟩
  subst herr
  exact ⟨_, rfl, by simp⟩

theorem meets_deferExpired (volume : String) :
    (onReplica leader (Replicas.deferExpired volume)).Meets (contract (.deferExpired volume))
      (fun _ _ => True) [] := by
  unfold Replicas.deferExpired
  simp only [perform_bind, onReplica_call, meets_call]
  have hget : (contract (.deferExpired volume)).guar []
      (.manager leader (.stickyGet .other volume)) := by
    refine ⟨fun _ _ _ h => h.elim, fun _ _ h => h.elim, fun _ _ _ h => ?_⟩
    cases h
    rfl
  refine ⟨hget, fun found _ => ?_⟩
  cases found with
  | none => exact meets_pure.2 trivial
  | some current => ?_
  simp only [onReplica_call, meets_call]
  refine ⟨guar_query nofun, fun now _ => ?_⟩
  split
  · exact meets_pure.2 trivial
  simp only [onReplica_call, meets_call]
  refine ⟨guar_query nofun, fun cooldown _ => ?_⟩
  cases cooldown with
  | none => exact meets_pure.2 trivial
  | some cooldown => ?_
  unfold deferStickyDetach
  simp only [perform_bind, onReplica_call, meets_call, onReplica_bind, meets_bind]
  refine ⟨guar_query nofun, fun later _ => (meets_stickyUpdate ?_).mono
    fun _ _ _ => meets_pure.2 trivial⟩
  simp [Kind.carries, reads]

theorem meets_releaseFrom {cfg : ReleaseConfig} {now : Int} {total : ℕ}
    (states : List StickyAttachmentState) (index : ℕ)
    (hcarries : ∀ state ∈ states, kind.carries past state.volumeID = true) :
    (onReplica replica (releaseFrom cfg now total index states)).Meets (contract kind)
      (fun _ _ => True) past := by
  induction states generalizing index past with
  | nil => exact meets_pure.2 trivial
  | cons state states ih =>
    unfold releaseFrom
    simp only [onReplica_bind, meets_bind]
    refine Meets.mono (meets_stickyUpdate ?_) fun later _ hsub =>
      ih (index + 1) fun other hother =>
        carries_mono hsub (hcarries other (mem_cons_of_mem _ hother))
    exact hcarries state (mem_cons_self ..)

theorem meets_releaseMaintenanceHolds (cfg : ReleaseConfig) :
    (releaseMaintenanceHolds cfg replica).Meets (contract (.release replica))
      (fun _ _ => True) [] := by
  unfold releaseMaintenanceHolds
  refine .perform (guar_of_silent (fun _ _ _ h => h) (fun _ _ h => h) (fun _ _ _ h => by cases h))
    fun states _ => ?_
  unfold releaseHolds
  split
  · exact meets_pure.2 trivial
  simp only [perform_bind, onReplica_call, meets_call]
  refine ⟨guar_query (fun _ h => by cases h),
    fun now _ => meets_releaseFrom states 0 fun state hstate => ?_⟩
  refine any_eq_true.2 ⟨⟨.listByReason replica maintenanceStickyReason, states⟩, by simp, ?_⟩
  exact any_eq_true.2 ⟨state, hstate, decide_eq_true rfl⟩

theorem meets_loadFromConfigMap :
    (loadFromConfigMap replica).Meets (contract (.load replica)) (fun _ _ => True) [] := by
  unfold loadFromConfigMap
  refine .perform (guar_of_silent (fun _ _ _ h => h) (fun _ _ h => h) (fun _ _ _ h => by cases h))
    fun found hfound => ?_
  cases found with
  | error err => cases err <;> exact meets_pure.2 trivial
  | ok entries => ?_
  refine .perform ⟨?_, fun _ _ h => h.elim, fun _ _ _ h => by cases h⟩
    fun _ _ => meets_pure.2 trivial
  rintro _ volume state ⟨rfl, hentry⟩
  refine ⟨hfound volume state hentry, ?_⟩
  rintro rfl
  simp [Kind.carries, reads, hentry]

theorem meets_program (cfg : ReleaseConfig) (kind : Kind) :
    (kind.program cfg).Meets (contract kind) (post kind) [] := by
  cases kind with
  | startGrace state => exact meets_startGrace
  | clear volume => exact meets_stickyClear volume
  | deferExpired volume =>
    exact (meets_deferExpired volume).bind fun _ _ _ => meets_pure.2 trivial
  | release replica =>
    exact (meets_releaseMaintenanceHolds cfg).bind fun _ _ _ => meets_pure.2 trivial
  | load replica => exact meets_loadFromConfigMap

end Programs

/-! ## Runs -/

section Runs

variable {cfg : ReleaseConfig} {ok : ReplicaPool → ReplicaStep → Prop} {s : ReplicaPool}

theorem act_keyed {kind : Kind} {past : History} {oracle : Oracle} {w w' : World} {op : Op}
    {ans : op.Answer} (hw : w.Keyed) (hguar : (contract kind).guar past op)
    (hact : act oracle w op = some (ans, w')) :
    (contract kind).rely past op ans ∧ w'.Keyed := by
  refine ⟨?_, fun replica volume state hentry => ?_, fun volume state hentry => ?_⟩
  · have hfound : ∀ r (key : String) (found : Option StickyAttachmentState),
        found = w.memory r key → ∀ state ∈ found, state.volumeID = key := by
      rintro r key found rfl state hstate
      exact (hw.1 r key state hstate).1
    cases op with
    | manager r op =>
      cases op with
      | stickyGet reader key =>
        obtain ⟨rfl, -⟩ := by simpa only [act, Sticky.act, Option.map_some, Option.some.injEq,
          Prod.mk.injEq] using hact
        exact hfound r key _ rfl
      | stickySwap key entry =>
        obtain ⟨rfl, -⟩ := by simpa only [act, Sticky.act, Option.map_some, Option.some.injEq,
          Prod.mk.injEq] using hact
        exact hfound r key _ rfl
      | _ => trivial
    | getConfigMap =>
      simp only [act] at hact
      split at hact <;> cases hact
      · trivial
      · exact hw.2
    | _ => trivial
  · rcases (act_entries hact).1 replica volume with hsame | hnone | ⟨other, hput, hputs⟩
    · exact hw.1 replica volume state (hsame ▸ hentry)
    · cases hnone.symm.trans hentry
    · obtain rfl := Option.mem_unique hput hentry
      exact (hguar.1 replica volume other hputs).1
  · rcases (act_entries hact).2 volume with hsame | hnone | ⟨other, hstore, hstores⟩
    · exact hw.2 volume state (hsame ▸ hentry)
    · cases hnone.symm.trans hentry
    · obtain rfl := Option.mem_unique hstore hentry
      exact (hguar.2.1 volume other hstores).1

theorem reachable_contract (hs : Reachable cfg ok s) :
    s.Conforms contract post ∧ s.Kept contract ∧ s.world.Keyed := by
  refine hs.rely_guarantee World.Keyed (fun _ h => h) ?_ ?_ nofun
  · intro s kind prog world _ hkeyed hstart
    obtain ⟨rfl, rfl⟩ := by simpa only [replicas, Option.some.injEq, Prod.mk.injEq] using hstart
    exact ⟨meets_program cfg kind, hkeyed⟩
  · intro s t oracle thread op next ans world _ _ hkeyed _ _ hguar hact
    exact act_keyed hkeyed hguar hact

/-- No running thread carries an entry of the volume. -/
def Uncarried (s : ReplicaPool) (volume : String) : Prop :=
  ∀ (t : ℕ) thread, s.threads[t]? = some thread → thread.prog.result? = none →
    thread.kind.carries (s.history t) volume = false

/-- Thread `c` is a `Clear` of the volume that has succeeded, and no `StartGrace` of it is later. -/
def Cleared (s : ReplicaPool) (c : ℕ) (volume : String) : Prop :=
  (∃ thread, s.threads[c]? = some thread ∧ thread.kind = .clear volume ∧
    thread.prog.result? = some none) ∧
  ∀ (d : ℕ) later state, c < d → s.threads[d]? = some later → later.kind = .startGrace state →
    state.volumeID ≠ volume

/-- Nobody carries an entry of a volume that is cleared or being cleared, and the entries that have
been deleted are not there. -/
structure Inv (s : ReplicaPool) : Prop where
  clearing : ∀ (c : ℕ) thread volume, s.threads[c]? = some thread → thread.kind = .clear volume →
    thread.prog.result? = none →
    Uncarried s volume ∧
      (⟨.manager leader (.stickyDelete volume), ()⟩ ∈ s.history c →
        s.world.memory leader volume = none)
  cleared : ∀ c volume, Cleared s c volume →
    Uncarried s volume ∧ s.world.memory leader volume = none ∧ s.world.store volume = none

variable {volume : String}

theorem uncarried_of_carried (h : carried s volume = false) :
    Uncarried s volume := by
  intro t thread hthread hrunning
  simp only [carried, any_eq_false, mem_range] at h
  have := h t (List.getElem?_eq_some_iff.1 hthread).1
  simpa [hthread, hrunning] using this

theorem mem_clearing {c : ℕ} {thread : Thread Op Op.Answer Kind (Option GoError)}
    (hthread : s.threads[c]? = some thread) (hkind : thread.kind = .clear volume)
    (hrunning : thread.prog.result? = none) :
    volume ∈ clearing s := by
  refine mem_filterMap.2 ⟨thread, mem_of_getElem? hthread, ?_⟩
  simp [hkind, hrunning]

theorem carries_concat {kind : Kind} {past : History} {event : Event Op Op.Answer}
    (hpast : kind.carries past volume = false) (hread : reads volume event = false) :
    kind.carries (past ++ [event]) volume = false := by
  cases kind with
  | startGrace _ => exact hpast
  | _ => simpa [Kind.carries, hread] using hpast

theorem Uncarried.spawn {kind : Kind} {prog : Prog (Option GoError)} {world : World}
    (hwf : s.WellFormed) (h : Uncarried s volume) (hnew : kind.carries [] volume = false) :
    Uncarried (s.spawn kind prog world) volume := by
  intro t thread hthread hrunning
  rcases spawn_getElem?_cases hthread with hold | ⟨rfl, rfl⟩
  · exact h t thread hold hrunning
  · rw [history_spawn, hwf.history_eq_nil (Nat.le_refl _)]
    exact hnew

section Advance

variable {t : ℕ} {thread : Thread Op Op.Answer Kind (Option GoError)} {op : Op}
  {next : op.Answer → Prog (Option GoError)} {ans : op.Answer} {world : World} {oracle : Oracle}
  {volume : String}

theorem Uncarried.advance (h : Uncarried s volume) (hthread : s.threads[t]? = some thread)
    (hprog : thread.prog = .call op next) (hread : reads volume ⟨op, ans⟩ = false) :
    Uncarried (s.advance t thread (next ans) ⟨op, ans⟩ world) volume := by
  intro t' other hother hrunning
  rcases advance_getElem?_cases hother with ⟨hne, hold⟩ | ⟨rfl, rfl⟩
  · rw [history_advance_of_ne (Ne.symm hne)]
    exact h t' other hold hrunning
  rw [history_advance_self]
  refine carries_concat (h t' thread hthread ?_) hread
  rw [hprog]
  rfl

theorem absent_act {past : History} {kind : Kind} (hguar : (contract kind).guar past op)
    (hcarries : kind.carries past volume = false)
    (hact : act oracle s.world op = some (ans, world)) :
    (s.world.memory leader volume = none → world.memory leader volume = none) ∧
    (s.world.store volume = none → world.store volume = none) := by
  constructor
  · intro hnone
    rcases (act_entries hact).1 leader volume with hsame | habsent | ⟨state, -, hputs⟩
    · exact hsame.trans hnone
    · exact habsent
    have hcarried := (hguar.1 leader volume state hputs).2 rfl
    rw [hcarries] at hcarried
    cases hcarried
  · intro hnone
    rcases (act_entries hact).2 volume with hsame | habsent | ⟨state, -, hstores⟩
    · exact hsame.trans hnone
    · exact habsent
    have hcarried := (hguar.2.1 volume state hstores).2
    rw [hcarries] at hcarried
    cases hcarried

theorem deleteSticky_store {replica : ℕ} {w : World}
    (hact : act oracle w (.manager replica (.query (.deleteSticky volume))) = some (none, world)) :
    world.store volume = none := by
  obtain ⟨failure, lookup, now, cooldown, keys⟩ := oracle
  cases failure with
  | some err => cases hact
  | none =>
    cases hact
    exact update_self ..

variable (hok : undisturbed s (.act t oracle) = true) (hthread : s.threads[t]? = some thread)
  (hprog : thread.prog = .call op next) (hact : act oracle s.world op = some (ans, world))

include hok hthread hprog hact

theorem reads_eq_false_of_absent (hkeyed : s.world.Keyed)
    (hguar : (contract thread.kind).guar (s.history t) op)
    (hmemory : s.world.memory leader volume = none) (hstore : s.world.store volume = none) :
    reads volume ⟨op, ans⟩ = false := by
  by_contra hread
  have hnext : s.nextOp? t = some op := nextOp?_of_call hthread hprog
  rcases reads_found hact hkeyed (by simpa using hread) with
    ⟨r, reader, key, hop, hfound⟩ | ⟨r, reason, hop, hfound, state, hstate, hvolume⟩ |
    ⟨-, hfound⟩
  · obtain rfl := hguar.2.2 r reader key hop
    exact hfound hmemory
  · subst hop
    simp only [undisturbed, hnext, Bool.and_eq_true, Bool.or_eq_true, decide_eq_true_eq,
      all_eq_true] at hok
    rcases hok.2 with rfl | hlisted
    · exact hfound hmemory
    · have := hlisted state hstate
      simp [hvolume, hstore] at this
  · exact hfound hstore

theorem reads_eq_false_of_clearing (hclearing : volume ∈ clearing s) :
    reads volume ⟨op, ans⟩ = false := by
  have hnext : s.nextOp? t = some op := nextOp?_of_call hthread hprog
  simp only [undisturbed, Bool.and_eq_true, all_eq_true] at hok
  simpa [readsNext, hnext, hact] using hok.1 volume hclearing

end Advance

theorem clear_program_result (cfg : ReleaseConfig) {err : Option GoError}
    (h : ((Kind.clear volume).program cfg).result? = some err) : trimSpace volume = "" := by
  by_contra hblank
  simp only [Kind.program, stickyClear, if_neg hblank] at h
  cases h

theorem Keyed.absent {entries : Entries} {volume : String} (hentries : Keyed entries)
    (hblank : trimSpace volume = "") : entries volume = none := by
  by_contra hsome
  obtain ⟨state, hstate⟩ := Option.ne_none_iff_exists'.1 hsome
  exact (hentries volume state hstate).2 hblank

theorem Inv.start {kind : Kind} (hwf : s.WellFormed) (hkeyed : s.world.Keyed) (ih : Inv s)
    (hok : undisturbed s (.start kind) = true) :
    Inv (s.spawn kind (kind.program cfg) s.world) := by
  -- A new thread carries nothing, except a `StartGrace`, which carries its own hold.
  have hnew : ∀ volume, (∀ state, kind = .startGrace state → state.volumeID ≠ volume) →
      kind.carries [] volume = false := by
    intro volume hvolume
    cases kind with
    | startGrace state => exact decide_eq_false (hvolume state rfl)
    | load replica => simp [Kind.carries]
    | _ => rfl
  have hclear : ∀ volume, kind = .clear volume → Uncarried s volume := by
    rintro volume rfl
    exact uncarried_of_carried (by simpa [undisturbed] using hok)
  constructor
  · intro c thread volume hthread hkind hrunning
    rcases spawn_getElem?_cases hthread with hold | ⟨rfl, rfl⟩
    · obtain ⟨huncarried, hdeleted⟩ := ih.clearing c thread volume hold hkind hrunning
      refine ⟨huncarried.spawn hwf (hnew volume ?_), hdeleted⟩
      rintro state rfl rfl
      exact (of_decide_eq_true hok) (mem_clearing hold hkind hrunning)
    · obtain rfl : kind = .clear volume := hkind
      refine ⟨(hclear volume rfl).spawn hwf (hnew volume nofun), fun hdeleted => ?_⟩
      rw [history_spawn, hwf.history_eq_nil (Nat.le_refl _)] at hdeleted
      cases hdeleted
  · rintro c volume ⟨⟨thread, hthread, hkind, hresult⟩, hlater⟩
    rcases spawn_getElem?_cases hthread with hold | ⟨rfl, rfl⟩
    · have hlt : c < s.threads.length := (List.getElem?_eq_some_iff.1 hold).1
      have hcleared : Cleared s c volume := by
        refine ⟨⟨thread, hold, hkind, hresult⟩, fun d later state hd hthread => ?_⟩
        exact hlater d later state hd (spawn_getElem?_old hthread)
      obtain ⟨huncarried, habsent⟩ := ih.cleared c volume hcleared
      refine ⟨huncarried.spawn hwf (hnew volume ?_), habsent⟩
      rintro state rfl
      have hlast : (s.spawn (.startGrace state) ((Kind.startGrace state).program cfg)
          s.world).threads[s.threads.length]? = some ⟨_, _, s.log.length⟩ :=
        getElem?_concat_length ..
      exact hlater s.threads.length _ state hlt hlast rfl
    · obtain rfl : kind = .clear volume := hkind
      dsimp only at hresult
      have hblank := clear_program_result cfg hresult
      exact ⟨(hclear volume rfl).spawn hwf (hnew volume nofun), (hkeyed.1 leader).absent hblank,
        hkeyed.2.absent hblank⟩

theorem Inv.act {t : ℕ} {oracle : Oracle} {thread : Thread Op Op.Answer Kind (Option GoError)}
    {op : Op} {next : op.Answer → Prog (Option GoError)} {ans : op.Answer} {world : World}
    (hconf : s.Conforms contract post) (hkeyed : s.world.Keyed)
    (hconf' : (s.advance t thread (next ans) ⟨op, ans⟩ world).Conforms contract post)
    (ih : Inv s) (hok : undisturbed s (.act t oracle) = true)
    (hthread : s.threads[t]? = some thread) (hprog : thread.prog = .call op next)
    (hact : Replicas.act oracle s.world op = some (ans, world)) :
    Inv (s.advance t thread (next ans) ⟨op, ans⟩ world) := by
  have hguar := hconf.guar hthread hprog
  have hrunning : thread.prog.result? = none := by
    rw [hprog]
    rfl
  constructor
  · intro c other volume hother hkind hstill
    obtain ⟨before, hbefore, hsame, hstill⟩ : ∃ before, s.threads[c]? = some before ∧
        before.kind = .clear volume ∧ before.prog.result? = none := by
      rcases advance_getElem?_cases hother with ⟨-, hold⟩ | ⟨rfl, rfl⟩
      · exact ⟨other, hold, hkind, hstill⟩
      · exact ⟨thread, hthread, hkind, hrunning⟩
    obtain ⟨huncarried, hdeleted⟩ := ih.clearing c before volume hbefore hsame hstill
    have hread := reads_eq_false_of_clearing hok hthread hprog hact
      (mem_clearing hbefore hsame hstill)
    refine ⟨huncarried.advance hthread hprog hread, fun hmem => ?_⟩
    rw [history_advance] at hmem
    rcases mem_append.1 hmem with hold | hnew
    · exact (absent_act hguar (huncarried t thread hthread hrunning) hact).1 (hdeleted hold)
    split at hnew
    · cases mem_singleton.1 hnew
      obtain ⟨-, rfl⟩ := by simpa only [Replicas.act, Sticky.act, Option.map_some,
        Option.some.injEq, Prod.mk.injEq] using hact
      show Function.update s.world.memory leader
        (Function.update (s.world.memory leader) volume none) leader volume = none
      rw [update_self, update_self]
    · cases hnew
  · rintro c volume ⟨⟨other, hother, hkind, hresult⟩, hlater⟩
    rcases advance_getElem?_cases hother with ⟨-, hold⟩ | ⟨rfl, rfl⟩
    · have hcleared : Cleared s c volume := by
        refine ⟨⟨other, hold, hkind, hresult⟩, fun d later state hd hbefore => ?_⟩
        by_cases hdt : t = d
        · subst hdt
          obtain rfl : thread = later := Option.mem_unique hthread hbefore
          exact hlater t { thread with prog := next ans } state hd (advance_getElem?_self hthread)
        · exact hlater d later state hd (by rwa [advance_getElem?_of_ne (Ne.symm hdt)])
      obtain ⟨huncarried, hmemory, hstore⟩ := ih.cleared c volume hcleared
      have hread := reads_eq_false_of_absent hok hthread hprog hact hkeyed hguar hmemory hstore
      have habsent := absent_act hguar (huncarried t thread hthread hrunning) hact
      exact ⟨huncarried.advance hthread hprog hread, habsent.1 hmemory, habsent.2 hstore⟩
    · -- The `Clear` itself has just returned: its last operation has emptied the ConfigMap.
      have hkind : thread.kind = .clear volume := hkind
      obtain ⟨huncarried, hdeleted⟩ := ih.clearing c thread volume hthread hkind hrunning
      have hread := reads_eq_false_of_clearing hok hthread hprog hact
        (mem_clearing hthread hkind hrunning)
      refine ⟨huncarried.advance hthread hprog hread, ?_⟩
      have hpost := hconf'.result hother (result?_eq_some.1 hresult)
      rw [history_advance_self] at hpost
      simp only [post, hkind, forall_const] at hpost
      rcases hpost with hblank | ⟨before, hpast, hmem⟩
      · have hkeyed' := (act_keyed hkeyed hguar hact).2
        exact ⟨(hkeyed'.1 leader).absent hblank, hkeyed'.2.absent hblank⟩
      obtain ⟨hbefore, hevent⟩ := append_inj' hpast rfl
      cases singleton_inj.1 hevent
      have hmemory := hdeleted (hbefore ▸ hmem)
      refine ⟨(absent_act hguar (huncarried c thread hthread hrunning) hact).1 hmemory, ?_⟩
      exact deleteSticky_store hact

theorem reachable_inv (hs : Reachable cfg (fun s l => undisturbed s l) s) : Inv s := by
  refine hs.invariant (fun world _ => ⟨nofun, nofun⟩) fun s l s' hs ih hok h => ?_
  obtain ⟨hconf, -, hkeyed⟩ := reachable_contract hs
  have hconf' := (reachable_contract (hs.step hok h)).1
  rcases Machine.step_cases h with ⟨hstart⟩ |
    @⟨t, oracle, thread, op, next, ans, world, hthread, hprog, hact⟩ | @⟨c⟩
  · obtain ⟨rfl, rfl⟩ := by simpa only [replicas, Option.some.injEq, Prod.mk.injEq] using hstart
    exact ih.start hs.wellFormed hkeyed hok
  · exact ih.act hconf hkeyed hconf' hok hthread hprog hact
  · cases c

end Runs

/-- In every undisturbed run, once a `Clear` of a volume has succeeded, the volume has no entry in
the leader's memory and none in the ConfigMap, up to a later `StartGrace` of it. -/
theorem cleared_until_startGrace {cfg : ReleaseConfig} {s : ReplicaPool}
    (hs : Reachable cfg (fun s l => undisturbed s l) s) {c : ℕ} {volume : String}
    (hcleared : Cleared s c volume) :
    s.world.memory leader volume = none ∧ s.world.store volume = none :=
  ((reachable_inv hs).cleared c volume hcleared).2

/-! ## A hold that comes back -/

/-- Two replicas that know the hold of "v" on "n1". -/
def heldWorld : World where
  memory _ volume := if volume = "v" then some (hold "n1" 90) else none
  store volume := if volume = "v" then some (hold "n1" 90) else none

theorem keyed_heldWorld : heldWorld.Keyed := by
  have hkeyed : Keyed fun volume => if volume = "v" then some (hold "n1" 90) else none := by
    intro volume state hentry
    dsimp only at hentry
    split at hentry
    · rename_i hvolume
      subst hvolume
      cases hentry
      exact ⟨rfl, by decide +kernel⟩
    · cases hentry
  exact ⟨fun _ => hkeyed, hkeyed⟩

/-- All calls succeed, the hold has expired and its node is paused. -/
def paused : Oracle where
  failure := none
  lookup := none
  now := 100
  cooldown := some ⟨"hotplug_timeout", "node is paused"⟩
  keys := ["v"]

def defaultRelease : ReleaseConfig where
  minSeconds := some 300
  maxSeconds := some 1800

theorem cleared_of_kinds {s : ReplicaPool} {kinds : List Kind} {c : ℕ} {volume : String}
    (hkinds : s.threads.map (·.kind) = kinds) (hkind : kinds[c]? = some (.clear volume))
    (hresult : s.result? c = some none) (hnone : ∀ state, .startGrace state ∉ kinds) :
    Cleared s c volume := by
  subst hkinds
  constructor
  · obtain ⟨thread, hthread, hclear⟩ := Option.map_eq_some_iff.1 (getElem?_map ▸ hkind)
    refine ⟨thread, hthread, hclear, ?_⟩
    simpa [Pool.result?, hthread] using hresult
  · intro d later state _ hlater hstart
    exact (hnone state (mem_map.2 ⟨later, mem_of_getElem? hlater, hstart⟩)).elim

/-- The reaper reads the hold, a `Clear` of it succeeds, and then the reaper defers what it has
read. -/
theorem cleared_hold_resurrected :
    ∃ s, Reachable defaultRelease (fun _ _ => True) s ∧ Cleared s 1 "v" ∧
      s.world.memory leader "v" = some (hold "n1" 60000000100) ∧
      s.world.store "v" = some (hold "n1" 60000000100) := by
  have hrun : ∃ s ∈ (replicas defaultRelease).run (fun _ _ => true)
      ([.start (.deferExpired "v"), .act 0 paused, .start (.clear "v")] ++
        List.replicate 2 (.act 1 paused) ++ List.replicate 5 (.act 0 paused))
      (Pool.initial heldWorld),
        s.threads.map (·.kind) = [.deferExpired "v", .clear "v"] ∧ s.result? 1 = some none ∧
        s.world.memory leader "v" = some (hold "n1" 60000000100) ∧
        s.world.store "v" = some (hold "n1" 60000000100) := by
    decide +kernel
  obtain ⟨s, hs, hkinds, hresult, hrest⟩ :=
    Machine.Reachable.of_run (fun _ _ _ => trivial) keyed_heldWorld hrun
  exact ⟨s, hs, cleared_of_kinds hkinds rfl hresult (by simp), hrest⟩

/-- The reaper defers the hold, then it is cleared, and after that both replicas load the ConfigMap
and release what they have. -/
theorem cleared_hold_stays_cleared :
    ∃ s, Reachable defaultRelease (fun s l => undisturbed s l) s ∧ Cleared s 1 "v" ∧
      s.world.memory leader "v" = none ∧ s.world.store "v" = none := by
  have hrun : ∃ s ∈ (replicas defaultRelease).run undisturbed
      ([.start (.deferExpired "v")] ++ List.replicate 6 (.act 0 paused) ++
        [.start (.clear "v")] ++ List.replicate 2 (.act 1 paused) ++
        [.start (.load 0), .start (.load 1), .act 2 paused, .act 3 paused, .act 2 paused,
          .act 3 paused, .start (.release 1), .act 4 paused])
      (Pool.initial heldWorld),
        s.threads.map (·.kind) = [.deferExpired "v", .clear "v", .load 0, .load 1, .release 1] ∧
        s.result? 1 = some none := by
    decide +kernel
  obtain ⟨s, hs, hkinds, hresult⟩ := Machine.Reachable.of_run (fun _ _ h => h) keyed_heldWorld hrun
  have hcleared := cleared_of_kinds hkinds rfl hresult (by simp)
  exact ⟨s, hs, hcleared, cleared_until_startGrace hs hcleared⟩

end OpenNebulaCSI.Sticky.Replicas
