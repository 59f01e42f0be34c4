import OpenNebulaCSI.Reconciler.DesiredVolumes

/-!
# Grace times

The reconciler detaches an attachment, or deletes a VolumeAttachment, only a grace time after its
first sighting. Between two passes it knows nothing but the maps of first sightings, so that a key
has been suspect **all the time** rests on pruning: a pass that does not see a key forgets it.

`graceContract` is what one pass contributes, and `SeenSince` the meaning of a first sighting in a
run of passes one after the other.
-/

namespace OpenNebulaCSI.Reconciler

open Go Concurrency Controller Program Function List Pool Option

/-- The key of what an operation removes: an attachment or a VolumeAttachment. -/
def Op.removes : Op → Option String
  | .controller (.query (.detachVolume volume node)) => some (volumeNodeKey volume node)
  | .deleteVolumeAttachment name => some name
  | _ => none

/-- The maps that decide about it. -/
def Op.deciding : Op → List Store
  | .controller (.query (.detachVolume _ _)) => [.orphan, .divergent]
  | .deleteVolumeAttachment _ => [.staleVA]
  | _ => []

variable {past : History} {store : Store} {key : String} {event : Event Op Op.Answer} {op : Op}
  {ans : op.Answer}

/-! ## Passes one after the other -/

/-- A pass is started only when the ones before it have returned. -/
def onePassAtATime (s : ReconcilerPool) : ReconcilerStep → Bool
  | .start _ => s.threads.all fun thread => thread.prog.result?.isSome
  | _ => true

/-- The key was first seen in pass `t₀`, and in every completed pass since. -/
structure SeenSince (s : ReconcilerPool) (t₀ : ℕ) (store : Store) (key : String) (begin : Int) :
    Prop where
  clock : clock? (s.history t₀) = some begin
  first : Sighted (s.history t₀) store key
  since : ∀ t, t₀ < t → s.result? t = some none → Sighted (s.history t) store key

/-- What holds between the passes and the maps of first sightings. -/
structure Tracked (graces : Graces) (s : ReconcilerPool) : Prop where
  done : ∀ t, t + 1 < s.threads.length → (s.result? t).isSome
  pruned : ∀ t store current, t + 1 = s.threads.length →
    ⟨.prune store current, ()⟩ ∈ s.history t →
    ∀ key, (s.world.seen store key).isSome → key ∈ current
  seen : ∀ store key begin, s.world.seen store key = some begin →
    ∃ t₀, SeenSince s t₀ store key begin
  granted : ∀ t store key now, ⟨.due store key now, true⟩ ∈ s.history t →
    ∃ t₀ ≤ t, ∃ begin, graces.grace store ≤ now - begin ∧
      clock? (s.history t₀) = some begin ∧ Sighted (s.history t₀) store key ∧
      ∀ t', t₀ < t' → t' < t → s.result? t' = some none → Sighted (s.history t') store key

section Runs

variable {cfg : Config} {graces : Graces} {s s' : ReconcilerPool} {t t₀ : ℕ} {begin : Int}

abbrev ReachablePasses (cfg : Config) (graces : Graces) : ReconcilerPool → Prop :=
  Reachable cfg graces fun s l => onePassAtATime s l

theorem reachable_graceContract (hs : ReachablePasses cfg graces s) :
    s.Conforms (fun _ => graceContract) (fun _ => Pruned) ∧ s.Kept fun _ => graceContract := by
  refine hs.conforms_and_kept ?_ fun _ _ _ _ _ _ _ _ _ _ _ _ _ => trivial
  intro w kind prog w' hstart
  obtain ⟨rfl, -⟩ := answer_inj hstart
  exact reconcileOnce_meets_graceContract cfg

theorem lt_length_of_mem_history (hs : ReachablePasses cfg graces s) (h : event ∈ s.history t) :
    t < s.threads.length := by
  by_contra hlt
  rw [hs.wellFormed.history_eq_nil (Nat.le_of_not_lt hlt)] at h
  cases h

theorem sighted_of_completed (hs : ReachablePasses cfg graces s)
    (hpruned : ∀ store current, ⟨.prune store current, ()⟩ ∈ s.history t →
      ∀ key, (s.world.seen store key).isSome → key ∈ current)
    (hresult : s.result? t = some none) (hseen : (s.world.seen store key).isSome) :
    Sighted (s.history t) store key := by
  obtain ⟨hconf, hkept⟩ := reachable_graceContract hs
  obtain ⟨thread, hthread, hret⟩ := bind_eq_some_iff.1 hresult
  obtain ⟨current, hprune⟩ := hconf.result hthread (Program.result?_eq_some.1 hret) rfl store
  obtain ⟨_, past, rest, -, hsplit, hguar, -⟩ := hkept.of_mem hs.wellFormed (mem_history.1 hprune)
  have hsighted : Sighted past store key := hguar key (hpruned store current hprune key hseen)
  rw [hsplit]
  exact hsighted.append _

variable {thread : Thread Op Op.Answer Unit (Option GoError)}
  {prog : Prog (Option GoError)} {w : World}

theorem Sighted.advance (h : Sighted (s.history t₀) store key) :
    Sighted ((s.advance t thread prog event w).history t₀) store key := by
  rw [history_advance]
  exact h.append _

theorem clock?_advance (h : clock? (s.history t₀) = some begin) :
    clock? ((s.advance t thread prog event w).history t₀) = some begin := by
  rw [history_advance]
  exact clock?_append h _

/-- A first sighting after a step of pass `t`; if the step completes the pass, it has seen the key.
-/
theorem SeenSince.advance {thread : Thread Op Op.Answer Unit (Option GoError)}
    (h : SeenSince s t₀ store key begin)
    (hself : (s.advance t thread prog event w).result? t = some none →
      Sighted ((s.advance t thread prog event w).history t) store key) :
    SeenSince (s.advance t thread prog event w) t₀ store key begin := by
  refine ⟨clock?_advance h.clock, h.first.advance, fun i hi hresult => ?_⟩
  by_cases hne : i = t
  · subst hne
    exact hself hresult
  · rw [result?_advance_of_ne hne] at hresult
    exact (h.since i hi hresult).advance

variable {oracle : Oracle} {w' : World}

/-- A step of a pass changes the maps by `due` and `prune` only. -/
theorem act_seen (hact : act graces oracle w op = (ans, w')) :
    w'.seen = w.seen ∨ (∃ store key now, op = .due store key now ∧ w'.seen =
        Function.update w.seen store (due (graces.grace store) (w.seen store) key now).2) ∨
      ∃ store current, op = .prune store current ∧ w'.seen =
        Function.update w.seen store (prune (w.seen store) current) := by
  have hw : (act graces oracle w op).2 = w' := congrArg Prod.snd hact
  subst hw
  cases op with
  | due store key now => exact .inr (.inl ⟨store, key, now, rfl, rfl⟩)
  | prune store current => exact .inr (.inr ⟨store, current, rfl, rfl⟩)
  | _ => exact .inl rfl

theorem seen_act (hact : act graces oracle w op = (ans, w')) (h : w'.seen store key = some begin) :
    w.seen store key = some begin ∨ op = .due store key begin := by
  rcases act_seen hact with hsame | ⟨store', key', now, rfl, hw⟩ | ⟨store', current, rfl, hw⟩
  · exact .inl (hsame ▸ h)
  · rw [hw] at h
    by_cases hstore : store = store'
    · subst hstore
      rw [update_self] at h
      unfold due at h
      split at h
      · change Function.update (w.seen store) key' (some now) key = some begin at h
        by_cases hkey : key = key'
        · subst hkey
          rw [update_self] at h
          exact .inr (by rw [Option.some.inj h])
        · rw [update_of_ne hkey] at h
          exact .inl h
      · exact .inl h
    · rw [update_of_ne hstore] at h
      exact .inl h
  · rw [hw] at h
    by_cases hstore : store = store'
    · subst hstore
      rw [update_self] at h
      unfold prune at h
      split at h
      · exact .inl h
      · cases h
    · rw [update_of_ne hstore] at h
      exact .inl h

/-- After a step of the last pass, what is left in a map it has pruned is what it has seen. -/
theorem pruned_act {current : List String} (hguar : graceContract.guar past op)
    (hpruned : ∀ store current, ⟨.prune store current, ()⟩ ∈ past →
      ∀ key, (w.seen store key).isSome → key ∈ current) (hact : act graces oracle w op = (ans, w'))
    (hmem : ⟨.prune store current, ()⟩ ∈ past ++ [(⟨op, ans⟩ : Event Op Op.Answer)])
    (hseen : (w'.seen store key).isSome) : key ∈ current := by
  obtain ⟨begin, hbegin⟩ := isSome_iff_exists.1 hseen
  rcases mem_append.1 hmem with hold | hnew
  · rcases seen_act hact hbegin with hbefore | rfl
    · exact hpruned store current hold key (isSome_iff_exists.2 ⟨begin, hbefore⟩)
    -- A first sighting comes before all pruning.
    obtain ⟨lists, volume, hpass, -, -⟩ := hguar
    exact absurd hold (hpass.unpruned store current)
  · obtain rfl : Op.prune store current = op := congrArg Event.op (mem_singleton.1 hnew)
    have hw : w'.seen = Function.update w.seen store (prune (w.seen store) current) :=
      congrArg (fun r => r.2.seen) hact.symm
    rw [hw, update_self] at hseen
    unfold prune at hseen
    split at hseen
    · assumption
    · cases hseen

theorem due_act (hact : act graces oracle w (.due store key now) = (true, w')) :
    ∃ begin, w.seen store key = some begin ∧ graces.grace store ≤ now - begin := by
  have h : (due (graces.grace store) (w.seen store) key now).1 = true := congrArg Prod.fst hact
  unfold due at h
  split at h
  · cases h
  · rename_i begin hbegin
    exact ⟨begin, hbegin, of_decide_eq_true h⟩

theorem Tracked.last {next : op.Answer → Prog (Option GoError)} (hs : Tracked graces s)
    (hthread : s.threads[t]? = some thread) (hprog : thread.prog = .call op next) :
    t + 1 = s.threads.length := by
  have ht : t < s.threads.length := (List.getElem?_eq_some_iff.1 hthread).1
  by_contra hne
  have hdone := hs.done t (by omega)
  rw [Pool.result?, hthread, bind_some, hprog] at hdone
  cases hdone

theorem Tracked.advance {thread : Thread Op Op.Answer Unit (Option GoError)}
    {next : op.Answer → Prog (Option GoError)} (hs : Tracked graces s)
    (hreach : ReachablePasses cfg graces s) (hthread : s.threads[t]? = some thread)
    (hprog : thread.prog = .call op next) (hact : act graces oracle s.world op = (ans, w))
    (hs' : s' = s.advance t thread (next ans) ⟨op, ans⟩ w)
    (hreach' : ReachablePasses cfg graces s') : Tracked graces s' := by
  have hlast := hs.last hthread hprog
  have hguar : graceContract.guar (s.history t) op :=
    (reachable_graceContract hreach).1.guar hthread hprog
  have hlength : s'.threads.length = s.threads.length := by simp [hs', Pool.advance]
  have hworld : s'.world = w := by rw [hs', Pool.advance]
  have hresult : ∀ i, i ≠ t → s'.result? i = s.result? i := by
    intro i hi
    rw [hs', result?_advance_of_ne hi]
  have hhistory : s'.history t = s.history t ++ [⟨op, ans⟩] := by
    rw [hs', history_advance_self]
  have hpruned : ∀ store current, ⟨.prune store current, ()⟩ ∈ s'.history t →
      ∀ key, (s'.world.seen store key).isSome → key ∈ current := by
    intro store current hmem key hseen
    rw [hhistory] at hmem
    rw [hworld] at hseen
    exact pruned_act hguar (fun store current => hs.pruned t store current hlast) hact hmem hseen
  refine ⟨fun i hi => ?_, fun i store current hi => ?_, fun store key begin hbegin => ?_,
    fun i store key now hmem => ?_⟩
  · rw [hresult i (by omega)]
    exact hs.done i (by omega)
  · obtain rfl : i = t := by omega
    exact hpruned store current
  · rcases seen_act hact (hworld ▸ hbegin) with hold | rfl
    · -- An old sighting goes on, also if this step completes the pass.
      obtain ⟨t₀, hsince⟩ := hs.seen store key begin hold
      refine ⟨t₀, ?_⟩
      subst hs'
      refine hsince.advance fun hnone => ?_
      exact sighted_of_completed hreach' hpruned hnone (isSome_iff_exists.2 ⟨begin, hbegin⟩)
    · have hconsidered : Considered (s.history t) store key begin := hguar
      obtain ⟨lists, volume, hpass, -, -⟩ := hguar
      refine ⟨t, ?_, ?_, fun i hi hnone => ?_⟩
      · rw [hhistory]
        exact clock?_append hpass.clock _
      · rw [hhistory]
        exact hconsidered.sighted
      · obtain ⟨other, hother, -⟩ := bind_eq_some_iff.1 hnone
        have hlt := (List.getElem?_eq_some_iff.1 hother).1
        omega
  · have hi : i < s'.threads.length := lt_length_of_mem_history hreach' hmem
    -- Passes before `i` are not the one that takes the step.
    have hmove : ∀ t₀ ≤ i, ∀ begin, graces.grace store ≤ now - begin →
        clock? (s.history t₀) = some begin → Sighted (s.history t₀) store key →
        (∀ j, t₀ < j → j < i → s.result? j = some none → Sighted (s.history j) store key) →
        ∃ t₀ ≤ i, ∃ begin, graces.grace store ≤ now - begin ∧
          clock? (s'.history t₀) = some begin ∧ Sighted (s'.history t₀) store key ∧
          ∀ j, t₀ < j → j < i → s'.result? j = some none → Sighted (s'.history j) store key := by
      intro t₀ ht₀ begin hgrace hclock hfirst hsince
      subst hs'
      refine ⟨t₀, ht₀, begin, hgrace, clock?_advance hclock, hfirst.advance,
        fun j hj hji hnone => ?_⟩
      rw [hresult j (by omega)] at hnone
      exact (hsince j hj hji hnone).advance
    by_cases hit : i = t
    · subst hit
      rw [hhistory] at hmem
      rcases mem_append.1 hmem with hold | hnew
      · obtain ⟨t₀, ht₀, begin, hgrace, hclock, hfirst, hsince⟩ := hs.granted i store key now hold
        exact hmove t₀ ht₀ begin hgrace hclock hfirst hsince
      obtain ⟨rfl, hans⟩ := Event.mk.inj (mem_singleton.1 hnew)
      obtain rfl := eq_of_heq hans
      obtain ⟨begin, hbegin, hgrace⟩ := due_act hact
      obtain ⟨t₀, hsince⟩ := hs.seen store key begin hbegin
      have ht₀ : t₀ < s.threads.length := by
        obtain ⟨-, -, before, _, _, after, -, -, hsplit, -⟩ := hsince.first
        exact lt_length_of_mem_history hreach (hsplit ▸ mem_append_right before (mem_cons_self ..))
      exact hmove t₀ (by omega) begin hgrace hsince.clock hsince.first
        fun j hj _ hnone => hsince.since j hj hnone
    · have hother : s'.history i = s.history i := by
        rw [hs', history_advance_of_ne (Ne.symm hit)]
      rw [hother] at hmem
      obtain ⟨t₀, ht₀, begin, hgrace, hclock, hfirst, hsince⟩ := hs.granted i store key now hmem
      exact hmove t₀ ht₀ begin hgrace hclock hfirst hsince

theorem Tracked.spawn (hs : Tracked graces s) (hreach : ReachablePasses cfg graces s)
    (hdone : onePassAtATime s (.start ()) = true) :
    Tracked graces (s.spawn () (reconcileOnce cfg) s.world) := by
  have hlength : (s.spawn () (reconcileOnce cfg) s.world).threads.length =
      s.threads.length + 1 := by
    simp [Pool.spawn]
  have hresult : ∀ t, (s.spawn () (reconcileOnce cfg) s.world).result? t = some none →
      s.result? t = some none := by
    intro t hnone
    obtain ⟨thread, hthread, hret⟩ := bind_eq_some_iff.1 hnone
    rcases spawn_getElem?_cases hthread with hold | ⟨-, rfl⟩
    · rwa [result?_spawn (List.getElem?_eq_some_iff.1 hold).1] at hnone
    · cases hret
  refine ⟨fun t ht => ?_, fun t store current ht hmem => ?_, fun store key begin hbegin => ?_,
    fun t store key now hmem => ?_⟩
  · have hlt : t < s.threads.length := by omega
    rw [result?_spawn hlt, Pool.result?, getElem?_eq_getElem hlt]
    exact all_eq_true.1 hdone _ (getElem_mem hlt)
  · have hnil := hreach.wellFormed.history_eq_nil (show s.threads.length ≤ t by omega)
    rw [history_spawn, hnil] at hmem
    cases hmem
  · obtain ⟨t₀, hsince⟩ := hs.seen store key begin hbegin
    exact ⟨t₀, hsince.clock, hsince.first, fun t ht hnone => hsince.since t ht (hresult t hnone)⟩
  · obtain ⟨t₀, ht₀, begin, hgrace, hclock, hfirst, hsince⟩ := hs.granted t store key now hmem
    exact ⟨t₀, ht₀, begin, hgrace, hclock, hfirst,
      fun j hj hjt hnone => hsince j hj hjt (hresult j hnone)⟩

theorem reachable_tracked (hs : ReachablePasses cfg graces s) : Tracked graces s := by
  induction hs with
  | @initial w hw =>
    refine ⟨fun t ht => absurd ht (Nat.not_lt_zero _),
      fun t _ _ ht => absurd ht (Nat.succ_ne_zero t),
      fun store key begin hbegin => ?_, fun t store key now hmem => ?_⟩
    · have hfresh : w.seen = fun _ _ => none := hw
      rw [show (Pool.initial w : ReconcilerPool).world = w from rfl, hfresh] at hbegin
      cases hbegin
    · cases hmem
  | @step s s' l hreach hok h ih =>
    have hreach' : ReachablePasses cfg graces s' := hreach.step hok h
    rcases Machine.step_cases h with ⟨hstart⟩ | ⟨hthread, hprog, hact⟩ | ⟨hchange⟩
    · obtain ⟨rfl, rfl⟩ := answer_inj hstart
      exact ih.spawn hreach hok
    · exact ih.advance hreach hthread hprog (Option.some.inj hact) rfl hreach'
    obtain rfl := Option.some.inj hchange
    exact ⟨ih.done, ih.pruned, fun store key begin hbegin => by
      obtain ⟨t₀, hsince⟩ := ih.seen store key begin hbegin
      exact ⟨t₀, hsince.clock, hsince.first, hsince.since⟩, ih.granted⟩

end Runs

/-- In every run of passes one after the other, whatever a pass removes was suspect and not skipped
in this pass, in one that read the clock at least the grace time before, and in every completed pass
between the two. -/
theorem removed_after_grace {cfg : Config} {graces : Graces} {s : ReconcilerPool}
    (hs : ReachablePasses cfg graces s) {t : ℕ} {op : Op} {key : String}
    (hnext : s.nextOp? t = some op) (hremoves : op.removes = some key) :
    ∃ store ∈ op.deciding, ∃ t₀ ≤ t, ∃ begin now, clock? (s.history t₀) = some begin ∧
      clock? (s.history t) = some now ∧ graces.grace store ≤ now - begin ∧
      Sighted (s.history t₀) store key ∧
      (∀ t', t₀ < t' → t' < t → s.result? t' = some none → Sighted (s.history t') store key) ∧
      Sighted (s.history t) store key := by
  obtain ⟨hconf, hkept⟩ := reachable_graceContract hs
  obtain ⟨thread, hthread, hop⟩ := bind_eq_some_iff.1 hnext
  obtain ⟨next, hprog⟩ := Program.nextOp?_eq_some.1 hop
  have hguar : graceContract.guar (s.history t) op := hconf.guar hthread hprog
  obtain ⟨store, hstore, now, hclock, hdue⟩ :
      ∃ store ∈ op.deciding, Granted (s.history t) store key := by
    unfold Op.removes at hremoves
    split at hremoves
    · obtain rfl := Option.some.inj hremoves
      exact hguar
    · obtain rfl := Option.some.inj hremoves
      exact ⟨.staleVA, mem_singleton.2 rfl, hguar⟩
    · cases hremoves
  obtain ⟨t₀, ht₀, begin, hgrace, hbegin, hfirst, hsince⟩ :=
    (reachable_tracked hs).granted t store key now hdue
  refine ⟨store, hstore, t₀, ht₀, begin, now, hbegin, hclock, hgrace, hfirst, hsince, ?_⟩
  -- The key was considered before it was due.
  obtain ⟨_, past, rest, -, hsplit, hconsidered, -⟩ :=
    hkept.of_mem hs.wellFormed (mem_history.1 hdue)
  have hsighted := @Considered.sighted past store key now true hconsidered
  rw [hsplit, append_cons]
  exact hsighted.append rest

/-- The second of two passes, two minutes apart, is about to detach an orphan that both have seen.
-/
theorem orphan_detached_after_grace :
    ∃ s, ReachablePasses defaultConfig defaultGraces s ∧ detaching? s 1 = some ("disk", "n1") ∧
      ∃ store ∈ [Store.orphan, .divergent], ∃ t₀ ≤ 1, ∃ begin now,
        clock? (s.history t₀) = some begin ∧ clock? (s.history 1) = some now ∧
        defaultGraces.grace store ≤ now - begin ∧ Sighted (s.history t₀) store "disk@n1" := by
  have hrun : ∃ s ∈ (reconciler defaultConfig defaultGraces).run onePassAtATime untilDetach
      (Pool.initial (diskWorld [])), detaching? s 1 = some ("disk", "n1") := by
    decide +kernel
  obtain ⟨s, hs, hdetach⟩ := Machine.Reachable.of_run (fun _ _ h => h) (fresh_diskWorld _) hrun
  have hnext : s.nextOp? 1 = some (.controller (.query (.detachVolume "disk" "n1"))) :=
    nextOp?_of_detaching? hdetach
  obtain ⟨store, hstore, t₀, ht₀, begin, now, hbegin, hnow, hgrace, hfirst, -⟩ :=
    removed_after_grace hs hnext rfl
  exact ⟨s, hs, hdetach, store, hstore, t₀, ht₀, begin, now, hbegin, hnow, hgrace, hfirst⟩

end OpenNebulaCSI.Reconciler
