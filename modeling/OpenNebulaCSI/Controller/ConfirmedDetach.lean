import OpenNebulaCSI.Controller.LockedHotplug

/-!
# Detaching a held volume

A held volume is detached by the reaper when its grace period is over, and by a publish to another
node. Both first ask Kubernetes, under their locks, whether the volume is still desired where it is.
Only a clear "no" should lead to the detach (`Confirmed`).

The functions go on in two more cases. If the question **fails**, both treat it as a "no". If the
reaper is told "yes" but cannot then find the attachment, it goes on to its second lookup as if it
had been told "no". In either case the execution is in doubt, and whether it detaches depends on
what OpenNebula reports from then on: it does not if the volume is reported absent
(`absentWhenInDoubt`).
-/

namespace OpenNebulaCSI.Controller

open Go Concurrency Program List

/-! ## What was asked -/

/-- The calls since the last operation on the locks. -/
def sinceLock (past : History) : History :=
  past.foldl (fun calls event =>
    if event.op.changes == some .locks then [] else calls ++ [event]) []

/-- Calls of `VolumeDesiredOnNode`. -/
def asks (event : Event Op Op.Answer) : Bool :=
  match event.op with
  | .query (.volumeDesiredOnNode _ _) => true
  | _ => false

/-- In the locked section at the end of the history, `VolumeDesiredOnNode` was called exactly once,
for this volume and node, and returned `false` without an error. -/
def Confirmed (past : History) (volume node : String) : Prop :=
  ∃ reason, (sinceLock past).filter asks =
    [⟨.query (.volumeDesiredOnNode volume node), .ok (false, reason)⟩]

/-- What a locked section knows about the volume being desired. -/
inductive Verdict where
  /-- It has not asked, or was told that the volume is not desired. -/
  | clear
  /-- It was told that the volume is desired. -/
  | desired
  /-- The question failed, or a lookup failed after the volume was said to be desired. -/
  | doubt
  deriving DecidableEq

/-- Lookups that did not find what they asked for. -/
def failedLookup : Event Op Op.Answer → Bool
  | ⟨.query (.volumeExists _), .error _⟩ | ⟨.query (.nodeExists _), .error _⟩
  | ⟨.query (.getVolumeInNode _ _), .error _⟩ => true
  | ⟨.query (.volumeExists _), .ok id⟩ | ⟨.query (.nodeExists _), .ok id⟩ => id = -1
  | _ => false

def updateVerdict (verdict : Verdict) (event : Event Op Op.Answer) : Verdict :=
  match event with
  | ⟨.query (.volumeDesiredOnNode _ _), .error _⟩ => .doubt
  | ⟨.query (.volumeDesiredOnNode _ _), .ok (true, _)⟩ => .desired
  | ⟨.query (.volumeDesiredOnNode _ _), .ok (false, _)⟩ => .clear
  | event =>
    if event.op.changes == some .locks then .clear
    else if verdict = .desired ∧ failedLookup event then .doubt
    else verdict

/-- The verdict of the locked section at the end of the history. -/
def verdict (past : History) : Verdict :=
  past.foldl updateVerdict .clear

@[simp]
theorem verdict_append_singleton (past : History) (event : Event Op Op.Answer) :
    verdict (past ++ [event]) = updateVerdict (verdict past) event := by
  simp [verdict]

theorem sinceLock_append_singleton (past : History) (event : Event Op Op.Answer) :
    sinceLock (past ++ [event]) =
      if event.op.changes == some .locks then [] else sinceLock past ++ [event] := by
  simp [sinceLock]

/-! ## The executions the rule is about -/

/-- The functions that detach held volumes: that of a publish and that of the reaper. -/
def Closure.movesHolds : Closure → Bool
  | .publish _ _ _ _ | .expireStickyDetach _ => true
  | _ => false

/-- Whether a goroutine executes a function that detaches held volumes. -/
def movesHolds (kind : Kind) (past : History) : Bool :=
  match kind, past with
  | .publish _, _ | .expireStickyDetach _, _ => true
  | .worker _, ⟨.nextRequest _, some req⟩ :: _ => req.fn.movesHolds
  | _, _ => false

theorem Runs.movesHolds_eq {kind : Kind} {past : History} {fn : Closure}
    (h : Runs kind past fn) : movesHolds kind past = fn.movesHolds := by
  cases kind with
  | worker node =>
    obtain ⟨node, req, ⟨rest, rfl⟩, rfl⟩ := h
    rfl
  | expireStickyDetach state =>
    obtain ⟨volume, current, ⟨rest, rfl⟩, rfl⟩ := h
    rfl
  | publish req =>
    obtain ⟨volumeID, nodeID, slot, rfl⟩ := h
    rfl
  | unpublish req =>
    obtain ⟨volumeID, nodeID, rfl⟩ := h
    rfl
  | expand req => exact h.elim
  | detachObservedAttachment attachment priority =>
    obtain rfl := h
    rfl
  | executeLocalDeviceRecovery report runtimeCtx volumeID nodeID =>
    obtain rfl := h
    rfl

/-! ## The contract -/

/-- The answer to a lookup that leads to the volume being taken for absent: the volume and the node
are found, the attachment is not. -/
def reportsAbsent : (q : Query) → q.Answer → Bool
  | .volumeExists _, .ok id | .nodeExists _, .ok id => id ≠ -1
  | .volumeExists _, .error _ | .nodeExists _, .error _ => false
  | .getVolumeInNode _ _, .ok _ => false
  | .getVolumeInNode _ _, .error _ => true
  | _, _ => true

/-- What a goroutine relies on: mutexes of the keys it registers at, and lookups that report the
volume absent when it is in doubt. -/
def ConfirmRely (kind : Kind) (past : History) : (op : Op) → op.Answer → Prop
  | .registerLocks keys, refs => refs.map LockRef.key = OperationLocks.normalizeLockKeys keys
  | .query q, ans => movesHolds kind past → verdict past = .doubt → reportsAbsent q ans
  | _, _ => True

/-- The locks of the function a goroutine executes are held. -/
def UnderOwnLocks (kind : Kind) (past : History) : Prop :=
  ∃ fn, Runs kind past fn ∧ HoldsKeys past fn.volume fn.node

/-- Goroutines keep the lock discipline, and a publish or the reaper detaches only what it has
confirmed under its locks. -/
def confirmContract (kind : Kind) : Contract Op Op.Answer where
  rely past op ans := ConfirmRely kind past op ans
  guar past op := LockDiscipline past op ∧ ∀ volume node,
    op = .query (.detachVolume volume node) → movesHolds kind past →
      Confirmed past volume node ∧ UnderOwnLocks kind past

theorem confirmContract_locks (kind : Kind) : LockAware (confirmContract kind) where
  rely _ _ _ h := h
  guar past op hlocks hdiscipline := by
    refine ⟨hdiscipline, fun volume node hop => ?_⟩
    subst hop
    cases hlocks

theorem carries_confirmContract (kind : Kind) : Carries (confirmContract kind) Idle where
  guar past op hop := by
    refine ⟨lockDiscipline_of_bare hop.1, fun volume node hdetach => ?_⟩
    subst hdetach
    cases hop.2
  frame _ _ _ hop h := idle_append hop h

/-! ## Rules for the sections -/

variable {α : Type} {op : Op} {volume node : String} {p : Prog α} {q : Query}

section Rules

variable {kind : Kind} {past : History}

/-- Operations that leave the locks alone and do not detach. -/
def Op.Undetaching (op : Op) : Prop :=
  (op.changes == some .locks) = false ∧ ∀ volume node, op ≠ .query (.detachVolume volume node)

theorem Op.Bare.undetaching (h : op.Bare) : op.Undetaching := by
  refine ⟨h.1, fun volume node hop => ?_⟩
  subst hop
  cases h.2

theorem Op.AttachOrResponse.undetaching {slot : ℕ} (h : op.AttachOrResponse slot volume node) :
    op.Undetaching := by
  refine ⟨h.targets.1, fun volume' node' hop => ?_⟩
  subst hop
  rcases h with hnone | ⟨immutable, params, hattach⟩
  · cases hnone
  · cases hattach

theorem Op.Undetaching.guar (h : op.Undetaching) : (confirmContract kind).guar past op :=
  ⟨lockDiscipline_of_bare h.1, fun volume node hop => absurd hop (h.2 volume node)⟩

theorem meets_still (hp : StillProgram p) :
    p.Meets (confirmContract kind) (fun later _ => SameLocks past later) past :=
  meets_sameLocks (bare_of_still hp) (fun _ h => h.1) fun _ _ h _ _ => h.undetaching.guar

theorem meets_unmoved {fn : Closure} (hruns : Runs kind past fn) (hfn : fn.movesHolds = false)
    (hp : p.Only (Op.Hotplug volume node)) :
    p.Meets (confirmContract kind) (fun later _ => SameLocks past later) past := by
  refine meets_sameLocks hp (fun _ h => h.targets.1) fun later op hop hlater _ =>
    ⟨lockDiscipline_of_bare hop.targets.1, fun _ _ _ hmoves => ?_⟩
  rw [(hruns.mono hlater).movesHolds_eq, hfn] at hmoves
  cases hmoves

theorem meets_ask {f : q.Answer → Prog α} {post : History → α → Prop}
    (hq : ∀ volume node, q ≠ .detachVolume volume node)
    (hf : ∀ ans, ConfirmRely kind past (.query q) ans →
      (f ans).Meets (confirmContract kind) post (past ++ [⟨.query q, ans⟩])) :
    (query q >>= f).Meets (confirmContract kind) post past := by
  refine .perform ⟨trivial, fun volume node hop => ?_⟩ hf
  exact absurd (Op.query.inj hop) (hq volume node)

end Rules

/-! ## Lookups -/

variable {later : History} {volumeID : Int}

section Lookups

variable {kind : Kind} {fn : Closure} {past : History}

/-- Operations that neither use the locks nor ask nor detach. -/
def Op.Mute (op : Op) : Prop :=
  op.Undetaching ∧ ∀ volume node, op ≠ .query (.volumeDesiredOnNode volume node)

/-- In the section that `past` ends with, the same was asked after `later`. -/
structure Continues (past later : History) : Prop where
  past_le : past <+: later
  same : SameLocks past later
  asked : (sinceLock later).filter asks = (sinceLock past).filter asks

theorem Continues.refl : Continues past past :=
  ⟨prefix_rfl, ⟨rfl, rfl⟩, rfl⟩

theorem Continues.trans {last : History} (h : Continues past later) (h' : Continues later last) :
    Continues past last :=
  ⟨h.past_le.trans h'.past_le, h.same.trans h'.same, h'.asked.trans h.asked⟩

theorem Continues.append (h : Continues past later) (hop : op.Mute) (ans : op.Answer) :
    Continues past (later ++ [⟨op, ans⟩]) := by
  refine ⟨h.past_le.trans (prefix_append _ _), sameLocks_append hop.1.1 h.same, ?_⟩
  have hasks : asks ⟨op, ans⟩ = false := by
    cases op with
    | query q =>
      cases q with
      | volumeDesiredOnNode volume node => exact absurd rfl (hop.2 volume node)
      | _ => rfl
    | _ => rfl
  rw [sinceLock_append_singleton, hop.1.1]
  simp [hasks, h.asked]

theorem meets_mute (hp : p.Only Op.Mute) :
    p.Meets (confirmContract kind) (fun later _ => Continues past later) past :=
  hp.meets .refl
    (fun _ _ hop _ => ⟨lockDiscipline_of_bare hop.1.1,
      fun volume node h => absurd h (hop.1.2 volume node)⟩)
    fun _ _ ans hop h => h.append hop ans

theorem mute_query (hq : ∀ volume node, q ≠ .detachVolume volume node)
    (hask : ∀ volume node, q ≠ .volumeDesiredOnNode volume node) : (Op.query q).Mute :=
  ⟨⟨rfl, fun volume node h => hq volume node (Op.query.inj h)⟩,
    fun volume node h => hask volume node (Op.query.inj h)⟩

theorem mute_volumeExists (volume : String) : (Op.query (.volumeExists volume)).Mute :=
  mute_query nofun nofun

theorem mute_nodeExists (node : String) : (Op.query (.nodeExists node)).Mute :=
  mute_query nofun nofun

theorem mute_getVolumeInNode (volumeID nodeID : Int) :
    (Op.query (.getVolumeInNode volumeID nodeID)).Mute :=
  mute_query nofun nofun

theorem mute_hotplugCooldownState (node : String) :
    (Op.query (.hotplugCooldownState node)).Mute :=
  mute_query nofun nofun

theorem mute_absentFromNode (volumeID : Int) (node : String) :
    (absentFromNode volumeID node).Only Op.Mute := by
  refine (only_perform.2 (mute_nodeExists node)).bind fun answer => ?_
  cases answer with
  | error err => exact only_pure
  | ok nodeID => ?_
  simp only
  split
  · exact only_pure
  · refine (only_perform.2 (mute_getVolumeInNode volumeID nodeID)).bind fun answer => ?_
    cases answer <;> exact only_pure

theorem mute_lookupAttachment (volume node : String) :
    (lookupAttachment volume node).Only Op.Mute := by
  refine (only_perform.2 (mute_volumeExists volume)).bind fun volumeID => ?_
  refine (only_perform.2 (mute_nodeExists node)).bind fun nodeID => ?_
  split
  · split
    · refine (only_perform.2 (mute_getVolumeInNode _ _)).bind fun answer => ?_
      cases answer <;> exact only_pure
    · exact only_pure
  · exact only_pure

variable {ans : q.Answer}

theorem verdict_append_mute (hq : (Op.query q).Mute) :
    verdict (past ++ [⟨.query q, ans⟩]) =
      if verdict past = .desired ∧ failedLookup ⟨.query q, ans⟩ then .doubt else verdict past := by
  rw [verdict_append_singleton]
  cases q with
  | volumeDesiredOnNode volume node => exact absurd rfl (hq.2 volume node)
  | _ => rfl

theorem Runs.moves (hruns : Runs kind past fn) (hfn : fn.movesHolds = true)
    (hlater : past <+: later) : movesHolds kind later = true := by
  rw [(hruns.mono hlater).movesHolds_eq, hfn]

variable {f : q.Answer → Prog α} {post : History → α → Prop}

theorem meets_ask_mute (hq : (Op.query q).Mute) (h : Continues past later)
    (hf : ∀ ans, ConfirmRely kind later (.query q) ans →
      Continues past (later ++ [⟨.query q, ans⟩]) →
      (f ans).Meets (confirmContract kind) post (later ++ [⟨.query q, ans⟩])) :
    (query q >>= f).Meets (confirmContract kind) post later :=
  meets_ask (fun volume node hdetach => hq.1.2 volume node (congrArg Op.query hdetach))
    fun ans hans => hf ans hans (h.append hq ans)

/-- A lookup in doubt reports the volume absent, and the doubt stays. -/
theorem meets_ask_of_doubt (hruns : Runs kind past fn) (hfn : fn.movesHolds = true)
    (hq : (Op.query q).Mute) (h : Continues past later) (hdoubt : verdict later = .doubt)
    (hf : ∀ ans, reportsAbsent q ans = true → Continues past (later ++ [⟨.query q, ans⟩]) →
      verdict (later ++ [⟨.query q, ans⟩]) = .doubt →
      (f ans).Meets (confirmContract kind) post (later ++ [⟨.query q, ans⟩])) :
    (query q >>= f).Meets (confirmContract kind) post later := by
  refine meets_ask_mute hq h fun ans hans hcontinues => hf ans ?_ hcontinues ?_
  · exact hans (hruns.moves hfn h.past_le) hdoubt
  · rw [verdict_append_mute hq, hdoubt, ite_self]

/-- After a lookup of a volume that is desired or in doubt there is doubt if there was any before or
the lookup failed. -/
theorem meets_ask_unclear (hq : (Op.query q).Mute) (h : Continues past later)
    (hlater : verdict later ≠ .clear)
    (hf : ∀ ans, Continues past (later ++ [⟨.query q, ans⟩]) →
      verdict (later ++ [⟨.query q, ans⟩]) ≠ .clear →
      (verdict later = .doubt ∨ failedLookup ⟨.query q, ans⟩ = true →
        verdict (later ++ [⟨.query q, ans⟩]) = .doubt) →
      (f ans).Meets (confirmContract kind) post (later ++ [⟨.query q, ans⟩])) :
    (query q >>= f).Meets (confirmContract kind) post later := by
  refine meets_ask_mute hq h fun ans _ hcontinues => hf ans hcontinues ?_ ?_
  · rw [verdict_append_mute hq]
    split
    · exact Verdict.noConfusion
    · exact hlater
  · rw [verdict_append_mute hq]
    cases hverdict : verdict later with
    | clear => exact absurd hverdict hlater
    | desired => simp
    | doubt => simp

theorem absentFromNode_of_doubt (hruns : Runs kind past fn) (hfn : fn.movesHolds = true)
    (hdoubt : verdict past = .doubt) :
    (absentFromNode volumeID node).Meets (confirmContract kind)
      (fun later absent => absent = true ∧ SameLocks past later) past := by
  refine meets_ask_of_doubt hruns hfn (mute_nodeExists node) .refl hdoubt
    fun answer hfound hfirst hdoubt => ?_
  cases answer with
  | error err => cases hfound
  | ok nodeID => ?_
  have hid : nodeID ≠ -1 := by simpa [reportsAbsent] using hfound
  simp only [if_neg hid]
  refine meets_ask_of_doubt hruns hfn (mute_getVolumeInNode volumeID nodeID) hfirst hdoubt
    fun answer habsent hsecond _ => ?_
  cases answer with
  | error err => exact meets_pure.2 ⟨rfl, hsecond.same⟩
  | ok target => cases habsent

theorem lookupAttachment_of_doubt (hruns : Runs kind past fn) (hfn : fn.movesHolds = true)
    (hdoubt : verdict past = .doubt) :
    (lookupAttachment volume node).Meets (confirmContract kind)
      (fun later attached => attached = some false ∧ SameLocks past later) past := by
  refine meets_ask_of_doubt hruns hfn (mute_volumeExists volume) .refl hdoubt
    fun volumeID hvolume hfirst hdoubt => ?_
  refine meets_ask_of_doubt hruns hfn (mute_nodeExists node) hfirst hdoubt
    fun nodeID hnode hsecond hdoubt => ?_
  cases volumeID with
  | error err => cases hvolume
  | ok volumeID => ?_
  cases nodeID with
  | error err => cases hnode
  | ok nodeID => ?_
  have hids : volumeID ≠ -1 ∧ nodeID ≠ -1 :=
    ⟨by simpa [reportsAbsent] using hvolume, by simpa [reportsAbsent] using hnode⟩
  simp only [if_pos hids]
  refine meets_ask_of_doubt hruns hfn (mute_getVolumeInNode volumeID nodeID) hsecond hdoubt
    fun answer habsent hthird _ => ?_
  cases answer with
  | error err => exact meets_pure.2 ⟨rfl, hthird.same⟩
  | ok target => cases habsent

/-- A lookup of a volume that is desired finds it, or leaves the reaper in doubt. -/
theorem lookupAttachment_of_desired (hpast : verdict past ≠ .clear) :
    (lookupAttachment volume node).Meets (confirmContract kind)
      (fun later attached => (attached = some true ∨ verdict later = .doubt) ∧
        Continues past later) past := by
  refine meets_ask_unclear (mute_volumeExists volume) .refl hpast
    fun volumeID hfirst hunclear hvolume => ?_
  refine meets_ask_unclear (mute_nodeExists node) hfirst hunclear
    fun nodeID hsecond hunclear hnode => ?_
  cases volumeID with
  | error err =>
    have hdoubt := hnode (.inl (hvolume (.inr rfl)))
    cases nodeID <;> exact meets_pure.2 ⟨.inr hdoubt, hsecond⟩
  | ok volumeID =>
    cases nodeID with
    | error err => exact meets_pure.2 ⟨.inr (hnode (.inr rfl)), hsecond⟩
    | ok nodeID => ?_
    simp only
    split
    · refine meets_ask_unclear (mute_getVolumeInNode volumeID nodeID) hsecond hunclear
        fun answer hthird _ hdoubt => ?_
      cases answer with
      | ok target => exact meets_pure.2 ⟨.inl rfl, hthird⟩
      | error err => exact meets_pure.2 ⟨.inr (hdoubt (.inr rfl)), hthird⟩
    · rename_i hids
      refine meets_pure.2 ⟨.inr (hnode ?_), hsecond⟩
      by_cases hid : nodeID = -1
      · exact .inr (by simp [failedLookup, hid])
      have hmissing : volumeID = -1 := by
        by_contra hne
        exact hids ⟨hne, hid⟩
      exact .inl (hvolume (.inr (by simp [failedLookup, hmissing])))

end Lookups

/-! ## The queued functions -/

section Functions

variable {cfg : Config} {kind : Kind} {fn : Closure} {past : History}

theorem confirmed_append {reason : String} (hasked : (sinceLock past).filter asks = []) :
    Confirmed (past ++ [⟨.query (.volumeDesiredOnNode volume node), .ok (false, reason)⟩])
      volume node := by
  refine ⟨reason, ?_⟩
  rw [sinceLock_append_singleton]
  simp [hasked, asks, Op.changes]

theorem Continues.confirmed (h : Continues past later) (hpast : Confirmed past volume node) :
    Confirmed later volume node := by
  obtain ⟨reason, hreason⟩ := hpast
  exact ⟨reason, h.asked.trans hreason⟩

theorem meets_detach (hruns : Runs kind past fn) (hkeys : HoldsKeys past fn.volume fn.node)
    (hconfirmed : Confirmed past volume node) :
    (query (.detachVolume volume node)).Meets (confirmContract kind)
      (fun later _ => SameLocks past later) past := by
  refine meets_perform.2 ⟨⟨trivial, fun volume' node' hop _ => ?_⟩, fun _ _ =>
    sameLocks_append rfl ⟨rfl, rfl⟩⟩
  obtain ⟨rfl, rfl⟩ : volume = volume' ∧ node = node' := by simpa using hop
  exact ⟨hconfirmed, fn, hruns, hkeys⟩

theorem meets_leaveOldNode {req : PublishRequest} {state : StickyAttachmentState}
    (hruns : Runs kind past fn) (hfn : fn.movesHolds = true)
    (hkeys : HoldsKeys past fn.volume fn.node) (hasked : (sinceLock past).filter asks = []) :
    (leaveOldNode req volumeID state).Meets (confirmContract kind)
      (fun later _ => SameLocks past later) past := by
  refine meets_ask_mute (mute_hotplugCooldownState _) .refl fun cooldown _ hfirst => ?_
  cases cooldown with
  | some cooldown => exact meets_pure.2 hfirst.same
  | none => ?_
  refine meets_ask nofun fun desired _ => ?_
  have hsame : SameLocks past (past ++ [⟨.query (.hotplugCooldownState state.nodeID), none⟩] ++
      [⟨.query (.volumeDesiredOnNode req.volumeId state.nodeID), desired⟩]) :=
    sameLocks_append rfl hfirst.same
  have hlater := hfirst.past_le.trans (prefix_append _
    [⟨.query (.volumeDesiredOnNode req.volumeId state.nodeID), desired⟩])
  cases desired with
  | error err =>
    -- The question failed: only the lookup can keep the volume attached.
    have hdoubt : verdict (past ++ [⟨.query (.hotplugCooldownState state.nodeID), none⟩] ++
        [⟨.query (.volumeDesiredOnNode req.volumeId state.nodeID), .error err⟩]) = .doubt := by
      rw [verdict_append_singleton]
      rfl
    refine (absentFromNode_of_doubt (hruns.mono hlater) hfn hdoubt).bind fun later absent h => ?_
    obtain ⟨rfl, habsent⟩ := h
    exact (meets_still (still_clearForPublish _)).mono fun _ _ h =>
      hsame.trans (habsent.trans h)
  | ok answer =>
    obtain ⟨desired, reason⟩ := answer
    cases desired with
    | true => exact meets_pure.2 hsame
    | false => ?_
    have hconfirmed := @confirmed_append req.volumeId state.nodeID _ reason
      (hfirst.asked.trans hasked)
    refine (meets_mute (mute_absentFromNode _ _)).bind fun later absent hcontinues => ?_
    have hsame' := hsame.trans hcontinues.same
    cases absent with
    | true =>
      exact (meets_still (still_clearForPublish _)).mono fun _ _ h => hsame'.trans h
    | false => ?_
    refine (meets_detach (hruns.mono (hlater.trans hcontinues.past_le)) (hsame'.holdsKeys hkeys)
      (hcontinues.confirmed hconfirmed)).bind fun last answer hlast => ?_
    have hsame'' := hsame'.trans hlast
    cases answer with
    | none =>
      exact (meets_still (still_clearForPublish _)).mono fun _ _ h =>
        hsame''.trans h
    | some err => ?_
    refine (meets_still (still_query _ rfl)).bind fun _ drift h => ?_
    cases drift <;> exact meets_pure.2 (hsame''.trans h)

theorem detachExpired_of_doubt {confirmed : StickyAttachmentState} (hruns : Runs kind past fn)
    (hfn : fn.movesHolds = true) (hdoubt : verdict past = .doubt) :
    (detachExpired confirmed).Meets (confirmContract kind)
      (fun later _ => SameLocks past later) past := by
  refine (lookupAttachment_of_doubt hruns hfn hdoubt).bind fun later attached h => ?_
  obtain ⟨rfl, hsame⟩ := h
  exact (meets_still (still_stickyClear _)).mono fun _ _ h => hsame.trans h

theorem detachExpired_of_confirmed {confirmed : StickyAttachmentState} (hruns : Runs kind past fn)
    (hkeys : HoldsKeys past fn.volume fn.node)
    (hconfirmed : Confirmed past confirmed.volumeID confirmed.nodeID) :
    (detachExpired confirmed).Meets (confirmContract kind)
      (fun later _ => SameLocks past later) past := by
  refine (meets_mute (mute_lookupAttachment _ _)).bind fun later attached h => ?_
  split
  · exact (meets_still (still_stickyClear _)).mono fun _ _ hlast => h.same.trans hlast
  refine (meets_detach (hruns.mono h.past_le) (h.same.holdsKeys hkeys)
    (h.confirmed hconfirmed)).bind fun last answer hlast => ?_
  have hsame := h.same.trans hlast
  cases answer with
  | none => exact (meets_still (still_stickyClear _)).mono fun _ _ hend => hsame.trans hend
  | some err =>
    refine (meets_still (still_query _ rfl)).bind fun _ drift hend => ?_
    cases drift <;> exact meets_pure.2 (hsame.trans hend)

theorem confirms_expireUnderLocks {current : StickyAttachmentState}
    (hruns : Runs kind past (.expireStickyDetach current))
    (hkeys : HoldsKeys past current.volumeID current.nodeID)
    (hasked : (sinceLock past).filter asks = []) :
    (expireUnderLocks current).Meets (confirmContract kind)
      (fun later _ => SameLocks past later) past := by
  have hget : (Op.stickyGet .other current.volumeID).Mute := ⟨⟨rfl, nofun⟩, nofun⟩
  refine (meets_mute (only_perform.2 hget)).bind fun read entry hread => ?_
  cases entry with
  | none => exact meets_pure.2 hread.same
  | some confirmed => ?_
  have hnow : (Op.query .now).Mute := mute_query nofun nofun
  refine (meets_mute (only_perform.2 hnow)).bind fun timed now htimed => ?_
  have hcontinues := hread.trans htimed
  split
  · exact meets_pure.2 hcontinues.same
  refine (meets_mute (only_perform.2 (mute_hotplugCooldownState _))).bind
    fun before cooldown hbefore => ?_
  have hstart := hcontinues.trans hbefore
  cases cooldown with
  | some cooldown =>
    refine (meets_still (still_deferStickyDetach _)).bind fun _ _ h => ?_
    exact meets_pure.2 (hstart.same.trans h)
  | none => ?_
  refine meets_ask nofun fun desired _ => ?_
  have hsame : SameLocks past (before ++
      [⟨.query (.volumeDesiredOnNode confirmed.volumeID confirmed.nodeID), desired⟩]) :=
    sameLocks_append rfl hstart.same
  have hlater := hruns.mono (hstart.past_le.trans (prefix_append _
    [⟨.query (.volumeDesiredOnNode confirmed.volumeID confirmed.nodeID), desired⟩]))
  cases desired with
  | error err =>
    refine (detachExpired_of_doubt hlater rfl ?_).mono fun _ _ h => hsame.trans h
    rw [verdict_append_singleton]
    rfl
  | ok answer =>
    obtain ⟨desired, reason⟩ := answer
    cases desired with
    | false =>
      exact (detachExpired_of_confirmed hlater (hsame.holdsKeys hkeys)
        (confirmed_append (hstart.asked.trans hasked))).mono fun _ _ h => hsame.trans h
    | true =>
      -- The reaper looks for the attachment, and detaches if it does not find it.
      have hunclear : verdict (before ++
          [⟨.query (.volumeDesiredOnNode confirmed.volumeID confirmed.nodeID),
            .ok (true, reason)⟩]) ≠ .clear := by
        rw [verdict_append_singleton]
        exact Verdict.noConfusion
      refine (lookupAttachment_of_desired hunclear).bind fun looked attached h => ?_
      obtain ⟨hfound, hlooked⟩ := h
      have hsame' := hsame.trans hlooked.same
      rcases hfound with rfl | hdoubt
      · exact (meets_still (still_stickyClear _)).mono fun _ _ h => hsame'.trans h
      split
      · exact (meets_still (still_stickyClear _)).mono fun _ _ h => hsame'.trans h
      · exact (detachExpired_of_doubt (hlater.mono hlooked.past_le) rfl
          hdoubt).mono fun _ _ h => hsame'.trans h

theorem Closure.confirms_underLocks (hruns : Runs kind past fn)
    (hregistered : ∀ ref ∈ lockTable.held past, ref ∈ registered past)
    (hkeys : HoldsKeys past fn.volume fn.node)
    (hfresh : ∃ ref before, past = before ++ [⟨.lock ref, ()⟩]) :
    (fn.underLocks cfg).Meets (confirmContract kind)
      (fun later _ => SameLocks past later) past := by
  cases fn with
  | unpublish req volumeID nodeID =>
    exact meets_unmoved hruns rfl (hotplug_unpublishUnderLocks _ _ _ _)
  | detachObservedAttachment attachment =>
    exact meets_unmoved hruns rfl (hotplug_detachObservedUnderLocks _)
  | localDeviceRecovery report runtimeCtx volumeID nodeID =>
    exact meets_unmoved hruns rfl (hotplug_recoverUnderLocks _ _ _ _)
  | expireStickyDetach current =>
    refine confirms_expireUnderLocks hruns hkeys ?_
    obtain ⟨ref, before, rfl⟩ := hfresh
    rw [sinceLock_append_singleton]
    rfl
  | publish req volumeID nodeID slot =>
    -- The publish asks about the old node in the section that the old node's lock opens.
    refine (confirmContract_locks kind).meets_publish (carries_confirmContract kind).guar
      (fun _ _ hop _ => hop.undetaching.guar) hregistered hkeys
      fun state inner hinner hkeys _ hfresh => meets_leaveOldNode (hruns.mono hinner) rfl hkeys ?_
    obtain ⟨ref, before, rfl⟩ := hfresh
    rw [sinceLock_append_singleton]
    rfl

end Functions

/-! ## Runs -/

/-- Condition on a step: if a publish or the reaper makes a lookup while its locked section is in
doubt, then OpenNebula finds the volume and the node, and does not find the volume on the node. -/
def absentWhenInDoubt (s : ControllerPool) : ControllerStep → Bool
  | .act t oracle =>
    match s.threads[t]?, s.nextOp? t with
    | some thread, some (.query q) =>
      !movesHolds thread.kind (s.history t) || verdict (s.history t) ≠ .doubt ||
        reportsAbsent q (oracle.answer q)
    | _, _ => true
  | _ => true

variable {s : ControllerPool}

theorem confirmRely_of_absentWhenInDoubt {cfg : Config} {t : ℕ} {oracle : Oracle}
    {thread : Thread Op Op.Answer Kind Outcome} {next : op.Answer → Prog Outcome} {ans : op.Answer}
    {w : World} (hkeyed : s.world.locks.Keyed) (hok : absentWhenInDoubt s (.act t oracle))
    (hthread : s.threads[t]? = some thread) (hprog : thread.prog = .call op next)
    (hact : act cfg oracle s.world t op = some (ans, w)) :
    ConfirmRely thread.kind (s.history t) op ans := by
  have hnext := Pool.nextOp?_of_call hthread hprog
  cases op with
  | registerLocks keys =>
    obtain ⟨rfl, -⟩ := answer_inj hact
    exact OperationLocks.register_keys hkeyed _
  | query q =>
    obtain ⟨rfl, -⟩ := answer_inj hact
    intro hmoves hdoubt
    simp only [absentWhenInDoubt, hthread, hnext] at hok
    simpa [hmoves, hdoubt] using hok
  | _ => trivial

theorem reachable_confirmContract {cfg : Config}
    (hs : Reachable cfg (fun s l => absentWhenInDoubt s l) s) :
    s.Conforms confirmContract fun _ later _ => Idle later := by
  refine (hs.conforms_and_kept ?_ ?_).1
  · intro w kind prog w' hstart
    rw [(start_frame hstart).1]
    refine Kind.carries (carries_confirmContract kind) ⟨rfl, rfl⟩ (fun fn past hruns => ?_) ?_
    · exact Closure.keepsIdle (confirmContract_locks kind) fun _ hinner hregistered hkeys hfresh =>
        Closure.confirms_underLocks (hruns.mono hinner) hregistered hkeys hfresh
    · rintro req rfl
      exact meets_controllerExpandVolume (confirmContract_locks _) (carries_confirmContract _)
  · intro s t oracle thread op next ans w hreach hok hthread hprog hact
    exact confirmRely_of_absentWhenInDoubt (reachable_keyed hreach) hok hthread hprog hact

/-- As long as lookups made in doubt report the volume absent, a publish or the reaper detaches a
volume only after it has asked exactly once in its locked section, about this volume and this node,
and was told that the volume is not desired there; and it holds the locks of its function. -/
theorem detach_confirmed {cfg : Config} {s : ControllerPool}
    (hs : Reachable cfg (fun s l => absentWhenInDoubt s l) s) {t : ℕ}
    {thread : Thread Op Op.Answer Kind Outcome} {volume node : String}
    (hthread : s.threads[t]? = some thread)
    (hnext : s.nextOp? t = some (.query (.detachVolume volume node)))
    (hmoves : movesHolds thread.kind (s.history t) = true) :
    Confirmed (s.history t) volume node ∧ ∃ fn, Runs thread.kind (s.history t) fn ∧
      HoldsLock s t (controllerNodeLockKey fn.node) ∧
      HoldsLock s t (controllerVolumeLockKey fn.volume) := by
  obtain ⟨next, hprog⟩ : ∃ next, thread.prog = .call (.query (.detachVolume volume node)) next := by
    refine Program.nextOp?_eq_some.1 ?_
    simpa [Pool.nextOp?, hthread] using hnext
  have hguar := (reachable_confirmContract hs).guar hthread hprog
  obtain ⟨hconfirmed, fn, hruns, ⟨nodeRef, hnode, hnodeKey⟩, volumeRef, hvolume, hvolumeKey⟩ :=
    hguar.2 volume node rfl hmoves
  have hholds {ref : LockRef} (href : ref ∈ lockTable.held (s.history t)) : HoldsLock s t ref.key :=
    holdsLock_of_held (fun _ h => reachable_confirmContract h) (fun _ _ _ h => h.1) hs href
  exact ⟨hconfirmed, fn, hruns, hnodeKey ▸ hholds hnode, hvolumeKey ▸ hholds hvolume⟩

/-! ## Detaches without a "no" -/

/-- A question that was answered by `false` without an error. -/
def answersNo : Event Op Op.Answer → Bool
  | ⟨.query (.volumeDesiredOnNode _ _), .ok (false, _)⟩ => true
  | _ => false

/-- A question that was answered by `true` without an error. -/
def answersYes : Event Op Op.Answer → Bool
  | ⟨.query (.volumeDesiredOnNode _ _), .ok (true, _)⟩ => true
  | _ => false

/-- A publish or the reaper is about to detach, and in its locked section a question failed or was
answered by "yes". -/
def detachesUnconfirmed (s : ControllerPool) (t : ℕ) (volume node : String) : Bool :=
  detaches s t volume node &&
    (s.threads[t]?).any (fun thread => movesHolds thread.kind (s.history t)) &&
    (sinceLock (s.history t)).any fun event => asks event && !answersNo event

/-- The goroutine may move holds and is about to detach the volume from the node without the
confirmation that nothing wants it there. -/
def DetachesUnconfirmed (s : ControllerPool) (t : ℕ) (volume node : String) : Prop :=
  ∃ thread, s.threads[t]? = some thread ∧ movesHolds thread.kind (s.history t) = true ∧
    s.nextOp? t = some (.query (.detachVolume volume node)) ∧
    ¬ Confirmed (s.history t) volume node

theorem not_confirmed_of_any {past : History}
    (h : ((sinceLock past).any fun event => asks event && !answersNo event) = true) :
    ¬ Confirmed past volume node := by
  rintro ⟨reason, honly⟩
  obtain ⟨event, hmem, hevent⟩ := any_eq_true.1 h
  obtain ⟨hasks, hanswer⟩ := Bool.and_eq_true_iff.1 hevent
  have hin : event ∈ (sinceLock past).filter asks := mem_filter.2 ⟨hmem, hasks⟩
  rw [honly] at hin
  obtain rfl := mem_singleton.1 hin
  simp [answersNo] at hanswer

theorem detachesUnconfirmed_prop {t : ℕ} (h : detachesUnconfirmed s t volume node = true) :
    DetachesUnconfirmed s t volume node := by
  obtain ⟨hfirst, hasked⟩ := Bool.and_eq_true_iff.1 h
  obtain ⟨hdetaches, hthread⟩ := Bool.and_eq_true_iff.1 hfirst
  obtain ⟨thread, hsome, hmoves⟩ := (Option.any_eq_true _ _).1 hthread
  exact ⟨thread, hsome, hmoves, nextOp?_of_detaches hdetaches, not_confirmed_of_any hasked⟩

/-- Kubernetes cannot be asked; otherwise a healthy world with the volume on "n2". -/
def unanswered : (q : Query) → q.Answer
  | .volumeDesiredOnNode _ _ =>
    .error (.plain "the server is currently unable to handle the request")
  | q => healthy (attachedTo 2) q

/-- Kubernetes desires the volume on its node, and OpenNebula cannot be asked about it. -/
def desiredUnseen : (q : Query) → q.Answer
  | .volumeDesiredOnNode _ _ => .ok (true, "volume_attachment")
  | .volumeExists _ => .error (.queryFailed (.plain "failed to get image"))
  | q => healthy (attachedTo 2) q

/-- `count` operations of one thread with the given answers. -/
def actsWith (answer : (q : Query) → q.Answer) (t count : ℕ) : List ControllerStep :=
  List.replicate count (.act t { answer, now := 1000000000, signal := .done none })

/-- A publish of "v" to "n1" that finds the hold on "n2". -/
def unansweredMove : List ControllerStep :=
  [.start (.publish (publishOf "n1"))] ++ actsWith unanswered 0 10 ++
    [.start (.worker "n1")] ++ actsWith unanswered 1 20

/-- The reaper detaches after the question has failed, and after it was answered by "yes" and the
lookups failed; a publish to another node detaches after the question has failed. -/
theorem detach_unconfirmed :
    (∃ s, Reachable defaultConfig (fun _ _ => True) s ∧ DetachesUnconfirmed s 1 "v" "n2" ∧
      reaping (s.history 1) = some expiredOnN2 ∧ verdict (s.history 1) = .doubt) ∧
    (∃ s, Reachable defaultConfig (fun _ _ => True) s ∧ DetachesUnconfirmed s 1 "v" "n2" ∧
      reaping (s.history 1) = some expiredOnN2 ∧
      (sinceLock (s.history 1)).any answersYes = true) ∧
    ∃ s, Reachable defaultConfig (fun _ _ => True) s ∧ DetachesUnconfirmed s 1 "v" "n2" ∧
      reaping (s.history 1) = none := by
  have hfailed : ∃ s ∈ (controller defaultConfig).run (fun _ _ => true)
      (reaperRun ++ actsWith unanswered 1 11) (Pool.initial (loadedWorld (some expiredOnN2))),
        detachesUnconfirmed s 1 "v" "n2" = true ∧ reaping (s.history 1) = some expiredOnN2 ∧
          verdict (s.history 1) = .doubt := by
    decide +kernel
  have hdesired : ∃ s ∈ (controller defaultConfig).run (fun _ _ => true)
      (reaperRun ++ actsWith desiredUnseen 1 12) (Pool.initial (loadedWorld (some expiredOnN2))),
        detachesUnconfirmed s 1 "v" "n2" = true ∧ reaping (s.history 1) = some expiredOnN2 ∧
          (sinceLock (s.history 1)).any answersYes = true := by
    decide +kernel
  have hmove : ∃ s ∈ (controller defaultConfig).run (fun _ _ => true) unansweredMove
      (Pool.initial (loadedWorld (some heldOnN2))),
        detachesUnconfirmed s 1 "v" "n2" = true ∧ reaping (s.history 1) = none := by
    decide +kernel
  refine ⟨?_, ?_, ?_⟩
  · obtain ⟨s, hs, hdetaches, hrest⟩ := Machine.Reachable.of_run (fun _ _ _ => trivial)
      (fresh_loadedWorld _) hfailed
    exact ⟨s, hs, detachesUnconfirmed_prop hdetaches, hrest⟩
  · obtain ⟨s, hs, hdetaches, hrest⟩ := Machine.Reachable.of_run (fun _ _ _ => trivial)
      (fresh_loadedWorld _) hdesired
    exact ⟨s, hs, detachesUnconfirmed_prop hdetaches, hrest⟩
  · obtain ⟨s, hs, hdetaches, hrest⟩ := Machine.Reachable.of_run (fun _ _ _ => trivial)
      (fresh_loadedWorld _) hmove
    exact ⟨s, hs, detachesUnconfirmed_prop hdetaches, hrest⟩

/-- When Kubernetes answers, the expired hold is detached after a "no". -/
theorem expired_detach_confirmed :
    ∃ s, Reachable defaultConfig (fun s l => absentWhenInDoubt s l) s ∧
      s.nextOp? 1 = some (.query (.detachVolume "v" "n2")) ∧ Confirmed (s.history 1) "v" "n2" := by
  have hrun : ∃ s ∈ (controller defaultConfig).run absentWhenInDoubt
      (reaperRun ++ acts (attachedTo 2) 1 11) (Pool.initial (loadedWorld (some expiredOnN2))),
        detaches s 1 "v" "n2" = true ∧
          ∃ thread ∈ s.threads[1]?, movesHolds thread.kind (s.history 1) = true := by
    decide +kernel
  obtain ⟨s, hs, hdetaches, thread, hsome, hmoves⟩ :=
    Machine.Reachable.of_run (fun _ _ h => h) (fresh_loadedWorld _) hrun
  have hnext := nextOp?_of_detaches hdetaches
  exact ⟨s, hs, hnext, (detach_confirmed hs hsome hnext hmoves).1⟩

end OpenNebulaCSI.Controller
