import OpenNebulaCSI.Node.SessionUpdates

/-!
# The published targets of a local disk

The session of a disk volume should list the targets at which the volume is published. No writer of
the session file takes a lock, so that a writer may put back a list that it has read long ago: one
of two concurrent publishes is lost (`concurrent_publish_lost`), and so is an unpublish that ends
while a recovery is remounting.

Where every save finds the session that its call has loaded, no update is lost
(`publishedTargets_eq_of_keepsUpdates`). A publish takes effect when it saves, and an unpublish when
it saves or finds no session. The list is what these effects make of it, whoever else saves in
between (`Recorded`), and for each target the last effect belongs to the call that has been answered
last (`Settled`), since the calls for one target come one after the other.
-/

namespace OpenNebulaCSI.Node.LocalDisk

open Go Concurrency Controller Program List Pool

/-! ## The runs in question -/

/-- Volumes are staged, published, unpublished and recovered, and concurrent calls for a volume are
for different targets. -/
def separateTargets (s : LocalDiskPool) : LocalDiskStep → Bool
  | .start (.unstage _) => false
  | .start kind =>
    kind.target?.isNone || (List.range s.threads.length).all fun t =>
      !(inProgress s t && ((s.kind? t).bind Kind.target? = kind.target?))
  | _ => true

/-- Session files are read and written without errors, a publish finds the session of its volume,
and whoever saves a session has loaded the one that is there. -/
def keepsUpdates (s : LocalDiskPool) : LocalDiskStep → Bool
  | .start kind => kind.listable
  | .act t oracle =>
    match s.nextOp? t with
    | some (.loadSession volumeID) =>
      oracle.error = none &&
        !((s.kind? t).any (·.publishes volumeID) && (s.world.load volumeID).isNone)
    | some (.saveSession session) =>
      oracle.error = none &&
        lastLoaded (s.history t) = some (s.world.load session.volumeID)
    | _ => true
  | .change _ => true

abbrev updatesKept (s : LocalDiskPool) (l : LocalDiskStep) : Prop :=
  separateTargets s l = true ∧ keepsUpdates s l = true

/-! ## Answers -/

variable {session : LocalDiskSession} {volumeID : String}

section Answers

variable {oracle : Oracle} {sessions : SessionStore}

theorem act_sessions (op : Op) :
    (act oracle sessions op).2 = sessions ∨
      (∃ session, op = .saveSession session ∧ (act oracle sessions op).2 = sessions.save session) ∨
      ∃ volumeID, op = .deleteSession volumeID := by
  cases op with
  | saveSession session =>
    simp only [act]
    split
    · exact .inl rfl
    split
    · exact .inl rfl
    · exact .inr (.inl ⟨session, rfl, rfl⟩)
  | deleteSession volumeID => exact .inr (.inr ⟨volumeID, rfl⟩)
  | _ => exact .inl rfl

theorem act_save_or_same (oracle : Oracle) (sessions : SessionStore) (session : LocalDiskSession) :
    (act oracle sessions (.saveSession session)).2 = sessions ∨
      (act oracle sessions (.saveSession session)).2 = sessions.save session := by
  rcases @act_sessions oracle sessions (.saveSession session) with
    hsame | ⟨saved, heq, hsave⟩ | ⟨volumeID, heq⟩
  · exact .inl hsame
  · cases heq
    exact .inr hsave
  · cases heq

theorem act_saveSession (herror : oracle.error = none) (hid : trimSpace session.volumeID ≠ "") :
    (act oracle sessions (.saveSession session)).2 = sessions.save session := by
  simp only [act]
  rw [if_neg hid, herror]

theorem act_loadSession (herror : oracle.error = none) :
    act oracle sessions (.loadSession volumeID) = (.ok (sessions.load volumeID), sessions) := by
  simp only [act, Oracle.answer, herror]

/-- Every session is stored under its own id. -/
def Keyed (sessions : SessionStore) : Prop :=
  ∀ key session, sessions.lookup key = some session → trimSpace session.volumeID = key

theorem Keyed.load (h : Keyed sessions) (hload : sessions.load volumeID = some session) :
    trimSpace session.volumeID = trimSpace volumeID := by
  obtain ⟨stored, hstored, rfl⟩ := Option.map_eq_some_iff.1 hload
  exact h _ stored hstored

theorem Keyed.save (h : Keyed sessions) (session : LocalDiskSession) :
    Keyed (sessions.save session) := by
  intro key found hfound
  rw [SessionStore.lookup_save] at hfound
  split at hfound
  · rename_i hkey
    cases hfound
    exact hkey.symm
  · exact h key found hfound

end Answers

/-! ## Runs -/

section Runs

variable {cfg : Config} {s s' : LocalDiskPool} {t : ℕ} {target : String × String}
  {thread : Thread Op Op.Answer Kind (Option GoError)}
  {prog : Prog (Option GoError)} {event : Event Op Op.Answer} {sessions : SessionStore}
  {kind : Kind}

theorem start_eq {sessions' : SessionStore}
    (h : (localDiskService cfg).start sessions kind = some (prog, sessions')) :
    prog = kind.program cfg ∧ sessions' = sessions := by
  simp only [localDiskService] at h
  split at h <;> cases h
  exact ⟨rfl, rfl⟩

variable {oracle : Oracle}

theorem act_eq {sessions' : SessionStore} {op : Op} {ans : op.Answer}
    (h : (localDiskService cfg).act oracle sessions t op = some (ans, sessions')) :
    act oracle sessions op = (ans, sessions') :=
  Option.some.inj h

/-- The kinds of calls these runs consist of. -/
def Admitted (s : LocalDiskPool) : Prop :=
  ∀ (t : ℕ) thread, s.threads[t]? = some thread →
    thread.kind.listable = true ∧ ∀ req, thread.kind ≠ .unstage req

theorem admitted_start (h : updatesKept s (.start kind)) :
    kind.listable = true ∧ ∀ req, kind ≠ .unstage req := by
  refine ⟨h.2, ?_⟩
  rintro req rfl
  exact absurd h.1 (by simp [separateTargets])

theorem reachable_admitted (hs : Reachable cfg updatesKept s) : Admitted s := by
  refine hs.invariant (fun _ _ _ _ h => by cases h) ?_
  intro s l s' _ ih hok h
  rcases Machine.step_cases h with ⟨-⟩ | @⟨t', oracle, moved, op, next, ans, world, hmoved, -, -⟩ |
    @⟨c⟩
  · intro t thread hthread
    rcases spawn_getElem?_cases hthread with hold | ⟨rfl, rfl⟩
    · exact ih t thread hold
    · exact admitted_start hok
  · intro t thread hthread
    rcases advance_getElem?_cases hthread with ⟨-, hold⟩ | ⟨rfl, rfl⟩
    · exact ih t thread hold
    · exact ih _ moved hmoved
  · exact c.elim

theorem keepsUpdates_load {next : _ → Prog (Option GoError)} (hok : updatesKept s (.act t oracle))
    (hthread : s.threads[t]? = some thread)
    (hprog : thread.prog = .call (.loadSession volumeID) next) :
    oracle.error = none ∧
      (s.world.load volumeID = none → thread.kind.publishes volumeID = false) := by
  have hnext : s.nextOp? t = some (.loadSession volumeID) := nextOp?_of_call hthread hprog
  have hkeeps := hok.2
  simp only [keepsUpdates, hnext, kind?_of_getElem? hthread, Option.any_some,
    Bool.and_eq_true, decide_eq_true_eq] at hkeeps
  refine ⟨hkeeps.1, fun hnone => ?_⟩
  simpa [hnone] using hkeeps.2

theorem keepsUpdates_save {next : _ → Prog (Option GoError)} (hok : updatesKept s (.act t oracle))
    (hthread : s.threads[t]? = some thread)
    (hprog : thread.prog = .call (.saveSession session) next) :
    oracle.error = none ∧ lastLoaded (s.history t) = some (s.world.load session.volumeID) := by
  have hnext : s.nextOp? t = some (.saveSession session) := nextOp?_of_call hthread hprog
  have hkeeps := hok.2
  simp only [keepsUpdates, hnext, Bool.and_eq_true, decide_eq_true_eq] at hkeeps
  exact hkeeps

theorem reachable_conforms (hs : Reachable cfg updatesKept s) :
    s.Conforms updateContract (fun _ _ _ => True) ∧ Keyed s.world := by
  have hrule : s.Conforms updateContract (fun _ _ _ => True) ∧ s.Kept updateContract ∧
      Keyed s.world := by
    refine hs.rely_guarantee Keyed ?_ ?_ ?_ fun _ c => c.elim
    · rintro sessions rfl key session ⟨⟩
    · intro s kind prog sessions hok hkeyed hstart
      obtain ⟨rfl, rfl⟩ := start_eq hstart
      obtain ⟨hlistable, hunstage⟩ := admitted_start hok
      exact ⟨kind.meets_updateContract cfg hlistable hunstage, hkeyed⟩
    · intro s t oracle thread op next ans sessions hreach hok hkeyed hthread hprog hguar hact
      have heq := act_eq hact
      constructor
      · cases op with
        | loadSession volumeID =>
          obtain ⟨herror, hfound⟩ := keepsUpdates_load hok hthread hprog
          rw [act_loadSession herror] at heq
          obtain ⟨rfl, -⟩ := Prod.mk.inj heq
          cases hload : s.world.load volumeID with
          | none => exact hfound hload
          | some session => exact hkeyed.load hload
        | _ => trivial
      · have hsessions : (act oracle s.world op).2 = sessions := by rw [heq]
        rcases @act_sessions oracle s.world op with
          hsame | ⟨session, -, hsave⟩ | ⟨volumeID, rfl⟩
        · rw [← hsessions, hsame]
          exact hkeyed
        · rw [← hsessions, hsave]
          exact hkeyed.save session
        · obtain ⟨-, req, hunstage⟩ := hguar
          exact absurd hunstage ((reachable_admitted hreach _ _ hthread).2 req)
  exact ⟨hrule.1, hrule.2.2⟩

/-! ### Effects and answers -/

/-- The call for the target has been started and has not been answered. -/
structure Active (s : LocalDiskPool) (target : String × String) (t : ℕ)
    (thread : Thread Op Op.Answer Kind (Option GoError)) : Prop where
  started : s.threads[t]? = some thread
  target : thread.kind.target? = some target
  unanswered : Unanswered (s.history t)

/-- For each target one call is active at most. The effect of a call is the last one until it is
answered, and while nobody has an effect to answer for, it is the effect of the last answer. -/
structure Settled (s : LocalDiskPool) (target : String × String) : Prop where
  alone : ∀ t thread t' thread', Active s target t thread → Active s target t' thread' → t = t'
  effective : ∀ t thread, Active s target t thread →
    (s.history t).any thread.kind.takesEffect = true → s.lastPoint? (affects target) = some t
  answered : (∀ t thread, Active s target t thread →
      (s.history t).any thread.kind.takesEffect = false) →
    s.lastPoint? (affects target) = s.lastPoint? (completes target)

theorem inProgress_eq_true (hthread : s.threads[t]? = some thread)
    (hopen : Unanswered (s.history t)) : inProgress s t = true := by
  have hlt : t < s.threads.length := (List.getElem?_eq_some_iff.1 hthread).1
  have hnone : ((s.history t).any fun event => event.op.isRespond) = false := hopen
  rw [inProgress, hnone]
  simpa using hlt

theorem settled_spawn (hwf : s.WellFormed) (hs : Settled s target)
    (hok : updatesKept s (.start kind)) : Settled (s.spawn kind prog sessions) target := by
  -- A new call has no history, and if it is for the target, no other call is active.
  have hcases : ∀ t thread, Active (s.spawn kind prog sessions) target t thread →
      Active s target t thread ∨
        t = s.threads.length ∧ s.history t = [] ∧ kind.target? = some target := by
    rintro t thread ⟨hthread, htarget, hopen⟩
    rcases spawn_getElem?_cases hthread with hold | ⟨rfl, rfl⟩
    · exact .inl ⟨hold, htarget, hopen⟩
    · exact .inr ⟨rfl, hwf.history_eq_nil (Nat.le_refl _), htarget⟩
  have hnone : kind.target? = some target → ∀ t thread, ¬ Active s target t thread := by
    intro htarget t thread hactive
    have hlt : t < s.threads.length := (List.getElem?_eq_some_iff.1 hactive.started).1
    have hprogress := inProgress_eq_true hactive.started hactive.unanswered
    have hseparate := hok.1
    unfold separateTargets at hseparate
    split at hseparate
    · rename_i heq
      cases heq
      cases htarget
    · rename_i heq
      cases heq
      simp only [htarget, Option.isNone_some, Bool.false_or, all_eq_true, mem_range] at hseparate
      have := hseparate t hlt
      simp [hprogress, kind?_of_getElem? hactive.started, hactive.target] at this
    · rename_i hno
      exact absurd rfl (hno kind)
  constructor
  · intro t thread t' thread' hactive hactive'
    rcases hcases t thread hactive with hold | ⟨rfl, -, htarget⟩
    · rcases hcases t' thread' hactive' with hold' | ⟨rfl, -, htarget⟩
      · exact hs.alone t thread t' thread' hold hold'
      · exact absurd hold (hnone htarget t thread)
    rcases hcases t' thread' hactive' with hold' | ⟨rfl, -, -⟩
    · exact absurd hold' (hnone htarget t' thread')
    · rfl
  · intro t thread hactive heffect
    rw [lastPoint?_spawn hwf]
    rcases hcases t thread hactive with hold | ⟨-, hnil, -⟩
    · exact hs.effective t thread hold heffect
    · rw [history_spawn, hnil] at heffect
      cases heffect
  · intro hquiet
    rw [lastPoint?_spawn hwf, lastPoint?_spawn hwf]
    refine hs.answered fun t thread hactive => ?_
    exact hquiet t thread ⟨spawn_getElem?_old hactive.started, hactive.target, hactive.unanswered⟩

section Advance

variable {op : Op} {ans : op.Answer}

/-- The active calls after a step of thread `t` are those before it, but for `t` itself once it is
answered. -/
theorem active_advance (hthread : s.threads[t]? = some thread) {c : ℕ}
    {other : Thread Op Op.Answer Kind (Option GoError)}
    (h : Active (s.advance t thread prog ⟨op, ans⟩ sessions) target c other) :
    ∃ before, Active s target c before ∧ before.kind = other.kind ∧
      (c = t → op.isRespond = false) := by
  obtain ⟨hother, htarget, hopen⟩ := h
  rcases advance_getElem?_cases hother with ⟨hne, hold⟩ | ⟨rfl, rfl⟩
  · rw [history_advance_of_ne (Ne.symm hne)] at hopen
    exact ⟨other, ⟨hold, htarget, hopen⟩, rfl, fun h => absurd h hne⟩
  · rw [history_advance_self, Unanswered, any_append, Bool.or_eq_false_iff] at hopen
    exact ⟨thread, ⟨hthread, htarget, hopen.1⟩, rfl, fun _ => by simpa using hopen.2⟩

theorem active_advance_of {c : ℕ} {other : Thread Op Op.Answer Kind (Option GoError)}
    (hthread : s.threads[t]? = some thread) (h : Active s target c other)
    (hop : c = t → op.isRespond = false) :
    ∃ after, Active (s.advance t thread prog ⟨op, ans⟩ sessions) target c after ∧
      after.kind = other.kind := by
  by_cases hc : c = t
  · subst hc
    obtain rfl : thread = other := Option.some.inj (hthread.symm.trans h.started)
    refine ⟨{ thread with prog }, ⟨advance_getElem?_self hthread, h.target, ?_⟩, rfl⟩
    rw [history_advance_self]
    exact h.unanswered.append (hop rfl)
  · refine ⟨other, ⟨?_, h.target, ?_⟩, rfl⟩
    · rw [advance_getElem?_of_ne hc]
      exact h.started
    · rw [history_advance_of_ne (Ne.symm hc)]
      exact h.unanswered

/-- A step keeps what the effects and the answers say, since an answer tells whether its call has
taken effect. -/
theorem settled_advance (hs : Settled s target) (hthread : s.threads[t]? = some thread)
    (hopen : Unanswered (s.history t))
    (heffective : ∀ result, op = .respond result → thread.kind.Effective (s.history t) result) :
    Settled (s.advance t thread prog ⟨op, ans⟩ sessions) target := by
  have hself (htarget : thread.kind.target? = some target) : Active s target t thread :=
    ⟨hthread, htarget, hopen⟩
  refine ⟨fun c other c' other' h h' => ?_, fun c other hactive heffect => ?_, fun hquiet => ?_⟩
  · obtain ⟨before, hbefore, -⟩ := active_advance hthread h
    obtain ⟨before', hbefore', -⟩ := active_advance hthread h'
    exact hs.alone c before c' before' hbefore hbefore'
  · obtain ⟨before, hbefore, hkind, -⟩ := active_advance hthread hactive
    rw [lastPoint?_advance hthread]
    by_cases hc : c = t
    · subst hc
      obtain rfl : thread = before := Option.some.inj (hthread.symm.trans hbefore.started)
      rw [← hkind, history_advance_self, any_append, Bool.or_eq_true] at heffect
      split
      · rfl
      rename_i hno
      refine hs.effective c thread hbefore (heffect.resolve_right ?_)
      simpa [affects, hbefore.target] using hno
    · have htarget : thread.kind.target? ≠ some target :=
        fun h => hc (hs.alone c before t thread hbefore (hself h))
      have hno : affects target thread.kind ⟨op, ans⟩ = false := by simp [affects, htarget]
      rw [← hkind, history_advance_of_ne (Ne.symm hc)] at heffect
      rw [hno]
      exact hs.effective c before hbefore heffect
  rw [lastPoint?_advance hthread, lastPoint?_advance hthread]
  by_cases htarget : thread.kind.target? = some target
  · -- The call that takes the step is the only active one.
    have hsame (hnone : (s.history t).any thread.kind.takesEffect = false) :
        s.lastPoint? (affects target) = s.lastPoint? (completes target) := by
      refine hs.answered fun c other hactive => ?_
      obtain rfl : c = t := hs.alone c other t thread hactive (hself htarget)
      obtain rfl : thread = other := Option.some.inj (hthread.symm.trans hactive.started)
      exact hnone
    cases hop : op.isRespond with
    | false =>
      obtain ⟨after, hafter, hkind⟩ := active_advance_of hthread (hself htarget) fun _ => hop
      have hnone := hquiet t after hafter
      rw [hkind, history_advance_self, any_append, Bool.or_eq_false_iff] at hnone
      have hno : affects target thread.kind ⟨op, ans⟩ = false := by
        simpa [affects, htarget] using hnone.2
      have hcompletes : completes target thread.kind ⟨op, ans⟩ = false := by
        cases op with
        | respond result => cases hop
        | _ => simp [completes]
      rw [hno, hcompletes]
      exact hsame hnone.1
    | true => ?_
    cases op with
    | respond result =>
      have heffect : (s.history t).any thread.kind.takesEffect = result.isNone :=
        heffective result rfl (by rw [htarget]; rfl)
      have hno : affects target thread.kind ⟨.respond result, ans⟩ = false := by
        cases hkind : thread.kind <;> exact Bool.and_false _
      rw [hno]
      cases result with
      | none => simpa [completes, htarget] using hs.effective t thread (hself htarget) heffect
      | some err => simpa [completes] using hsame heffect
    | _ => cases hop
  · have hno : affects target thread.kind ⟨op, ans⟩ = false := by simp [affects, htarget]
    have hcompletes : completes target thread.kind ⟨op, ans⟩ = false := by
      simp [completes, htarget]
    rw [hno, hcompletes]
    refine hs.answered fun c other hactive => ?_
    have hne : c ≠ t := by
      rintro rfl
      obtain rfl : thread = other := Option.some.inj (hthread.symm.trans hactive.started)
      exact htarget hactive.target
    obtain ⟨after, hafter, hkind⟩ := active_advance_of hthread hactive fun h => absurd h hne
    have hnone := hquiet c after hafter
    rwa [hkind, history_advance_of_ne (Ne.symm hne)] at hnone

end Advance

theorem reachable_settled (hs : Reachable cfg updatesKept s) (target : String × String) :
    Settled s target := by
  induction hs with
  | initial _ =>
    exact ⟨(fun _ _ _ _ h => by cases h.started), (fun _ _ h => by cases h.started), fun _ => rfl⟩
  | @step s s' l hs hok h ih =>
    have hconf := (reachable_conforms hs).1
    rcases Machine.step_cases h with ⟨-⟩ |
      @⟨t, oracle, thread, op, next, ans, world, hthread, hprog, -⟩ | @⟨c⟩
    · exact settled_spawn hs.wellFormed ih hok
    · have hguar := hconf.guar hthread hprog
      refine settled_advance ih hthread hguar.1 ?_
      rintro result rfl
      exact hguar.2
    · exact c.elim

/-! ### Effects and session files -/

/-- The session files list the targets whose last effect is that of a publish. -/
def Recorded (s : LocalDiskPool) : Prop :=
  ∀ volumeID path, path ∈ s.world.targets volumeID ↔
    ∃ req, s.lastKind? (affects (trimSpace volumeID, path)) = some (.publish req)

theorem affects_eq_true :
    affects target kind event = true ↔
      kind.target? = some target ∧ kind.takesEffect event = true := by
  simp [affects]

section Effects

variable (hs : Recorded s) (hthread : s.threads[t]? = some thread)

include hs hthread

theorem recorded_unaffected (heffect : thread.kind.takesEffect event = false)
    (hsame : ∀ volumeID path, path ∈ sessions.targets volumeID ↔ path ∈ s.world.targets volumeID) :
    Recorded (s.advance t thread prog event sessions) := by
  intro volumeID path
  rw [lastKind?_advance hthread, affects, heffect, Bool.and_false]
  exact (hsame volumeID path).trans (hs volumeID path)

/-- A step that takes effect and changes the list of its volume for its target only. -/
theorem recorded_affected (htarget : thread.kind.target? = some target)
    (heffect : thread.kind.takesEffect event = true)
    (hself : ∀ volumeID, trimSpace volumeID = target.1 →
      (target.2 ∈ sessions.targets volumeID ↔ ∃ req, thread.kind = .publish req))
    (hother : ∀ volumeID path, (trimSpace volumeID, path) ≠ target →
      (path ∈ sessions.targets volumeID ↔ path ∈ s.world.targets volumeID)) :
    Recorded (s.advance t thread prog event sessions) := by
  intro volumeID path
  rw [lastKind?_advance hthread]
  split
  · rename_i haffects
    obtain ⟨hkind, -⟩ := affects_eq_true.1 haffects
    obtain rfl : target = (trimSpace volumeID, path) := Option.mem_unique htarget hkind
    show path ∈ sessions.targets volumeID ↔ _
    simpa only [Option.some.injEq] using hself volumeID rfl
  · rename_i haffects
    have hne : (trimSpace volumeID, path) ≠ target := by
      rintro rfl
      exact haffects (affects_eq_true.2 ⟨htarget, heffect⟩)
    exact (hother volumeID path hne).trans (hs volumeID path)

/-- A call that saves what is there, changed for its target only. -/
theorem recorded_update {found : LocalDiskSession} {path : String}
    (htarget : thread.kind.target? = some (trimSpace session.volumeID, path))
    (heffect : thread.kind.takesEffect event = true)
    (hload : s.world.load session.volumeID = some found)
    (htrimmed : TrimmedTargets session.publishedTargets)
    (hself : path ∈ session.publishedTargets.map (·.targetPath) ↔ ∃ req, thread.kind = .publish req)
    (hother : ∀ other, other ≠ path → (other ∈ session.publishedTargets.map (·.targetPath) ↔
      other ∈ found.publishedTargets.map (·.targetPath))) :
    Recorded (s.advance t thread prog event (s.world.save session)) := by
  refine recorded_affected hs hthread htarget heffect ?_ ?_
  · intro volumeID hvolume
    rw [SessionStore.mem_targets_save_trimmed htrimmed, if_pos hvolume]
    exact hself
  · intro volumeID other hne
    rw [SessionStore.mem_targets_save_trimmed htrimmed]
    split
    · rename_i hvolume
      rw [SessionStore.targets_eq_of_trimSpace_eq hvolume, SessionStore.mem_targets_of_load hload]
      refine hother other fun hpath => hne ?_
      rw [hvolume, hpath]
    · rfl

theorem recorded_unpublish_absent {req : NodeUnpublishRequest}
    (hkind : thread.kind = .unpublish req)
    (heffect : thread.kind.takesEffect event = true) (hload : s.world.load req.volumeId = none) :
    Recorded (s.advance t thread prog event s.world) := by
  have htarget : thread.kind.target? = some (trimSpace req.volumeId, req.targetPath) := by
    rw [hkind]
    rfl
  refine recorded_affected hs hthread htarget heffect ?_ fun _ _ _ => Iff.rfl
  intro volumeID hvolume
  rw [SessionStore.targets_eq_of_trimSpace_eq hvolume, SessionStore.targets_eq_nil hload, hkind]
  simp

/-- A save keeps the lists and the effects in step. -/
theorem recorded_save {ans : Op.Answer (.saveSession session)}
    (hadmitted : thread.kind.listable = true ∧ ∀ req, thread.kind ≠ .unstage req)
    (hsaves : thread.kind.Saves (s.history t) session)
    (hloaded : lastLoaded (s.history t) = some (s.world.load session.volumeID))
    (herror : oracle.error = none) :
    Recorded (s.advance t thread prog ⟨.saveSession session, ans⟩
      (act oracle s.world (.saveSession session)).2) := by
  cases hkind : thread.kind with
  | publish req =>
    rw [hkind] at hsaves hadmitted
    obtain ⟨hne, found, hfound, hid, rfl⟩ := hsaves
    simp only [Kind.listable, Bool.and_eq_true, decide_eq_true_eq] at hadmitted
    obtain ⟨⟨⟨hblank, htrim⟩, -⟩, -⟩ := hadmitted
    have hload : s.world.load found.volumeID = some found := Option.mem_unique hloaded hfound
    have hstored :
        trimSpace (found.withTarget req.targetPath (bindOptions req.readonly)).volumeID ≠ "" :=
      fun h => hblank (hid.symm.trans h)
    rw [act_saveSession herror hstored]
    have htarget : thread.kind.target? = some (trimSpace found.volumeID, req.targetPath) := by
      rw [hkind, hid]
      rfl
    refine recorded_update hs hthread htarget (by rw [hkind]; rfl) hload
      ((SessionStore.trimmed_of_load hload).upsertTarget htrim hne) ?_ ?_
    · exact iff_of_true (mem_upsertTarget.2 (.inr rfl)) ⟨req, hkind⟩
    · intro other hother
      exact mem_upsertTarget.trans (or_iff_left hother)
  | unpublish req =>
    rw [hkind] at hsaves hadmitted
    obtain ⟨found, hfound, hid, rfl⟩ := hsaves
    simp only [Kind.listable, Bool.and_eq_true, decide_eq_true_eq] at hadmitted
    obtain ⟨⟨hblank, -⟩, -⟩ := hadmitted
    have hload : s.world.load found.volumeID = some found := Option.mem_unique hloaded hfound
    have hstored : trimSpace (found.withoutTarget req.targetPath).volumeID ≠ "" :=
      fun h => hblank (hid.symm.trans h)
    rw [act_saveSession herror hstored]
    have htarget : thread.kind.target? = some (trimSpace found.volumeID, req.targetPath) := by
      rw [hkind, hid]
      rfl
    refine recorded_update hs hthread htarget (by rw [hkind]; rfl) hload ?_ ?_ ?_
    · intro path hpath
      exact SessionStore.trimmed_of_load hload path (mem_filter_targetPath.1 hpath).1
    · refine iff_of_false (fun h => (mem_filter_targetPath.1 h).2 rfl) ?_
      rintro ⟨req', hreq'⟩
      cases hkind.symm.trans hreq'
    · intro other hother
      exact mem_filter_targetPath.trans (and_iff_left hother)
  | stage req =>
    rw [hkind] at hsaves
    obtain ⟨found, hfound, htargets⟩ := hsaves
    obtain rfl : s.world.load session.volumeID = found := Option.mem_unique hloaded hfound
    refine recorded_unaffected hs hthread (by rw [hkind]; rfl) fun volumeID path => ?_
    rcases act_save_or_same oracle s.world session with hsame | hsave
    · rw [hsame]
    · rw [hsave]
      exact SessionStore.mem_targets_save_same htargets
  | volumeStats req =>
    rw [hkind] at hsaves
    obtain ⟨found, hfound, hid, htargets⟩ := hsaves
    have hload : s.world.load session.volumeID = some found := Option.mem_unique hloaded hfound
    refine recorded_unaffected hs hthread (by rw [hkind]; rfl) fun volumeID path => ?_
    rcases act_save_or_same oracle s.world session with hsame | hsave
    · rw [hsame]
    rw [hsave]
    refine SessionStore.mem_targets_save_same ?_
    rw [hload]
    exact htargets
  | unstage req => exact absurd hkind (hadmitted.2 req)

theorem recorded_load (hvolume : ∀ req, thread.kind = .unpublish req → volumeID = req.volumeId) :
    Recorded (s.advance t thread prog
      ⟨.loadSession volumeID, .ok (s.world.load volumeID)⟩ s.world) := by
  cases heffect : thread.kind.takesEffect ⟨.loadSession volumeID, .ok (s.world.load volumeID)⟩ with
  | false => exact recorded_unaffected hs hthread heffect fun _ _ => Iff.rfl
  | true =>
    -- Only an unpublish that finds no session takes effect by a load.
    cases hkind : thread.kind with
    | unpublish req =>
      obtain rfl := hvolume req hkind
      cases hload : s.world.load req.volumeId with
      | some found =>
        rw [hkind, hload] at heffect
        cases heffect
      | none => exact recorded_unpublish_absent hs hthread hkind (hload ▸ heffect) hload
    | _ =>
      rw [hkind] at heffect
      cases heffect

end Effects

theorem reachable_recorded (hs : Reachable cfg updatesKept s) : Recorded s := by
  induction hs with
  | initial hworld =>
    obtain rfl := hworld
    intro volumeID path
    refine iff_of_false (fun h => by cases h) ?_
    rintro ⟨req, hreq⟩
    cases hreq
  | @step s s' l hs hok h ih =>
    rcases Machine.step_cases h with ⟨hstart⟩ |
      @⟨t, oracle, thread, op, next, ans, world, hthread, hprog, hact⟩ | @⟨c⟩
    · obtain ⟨-, rfl⟩ := start_eq hstart
      intro volumeID path
      rw [lastKind?_spawn hs.wellFormed]
      exact ih volumeID path
    · have hguar := (reachable_conforms hs).1.guar hthread hprog
      have hadmitted := reachable_admitted hs t thread hthread
      have heq := act_eq hact
      cases op with
      | saveSession session =>
        obtain ⟨herror, hloaded⟩ := keepsUpdates_save hok hthread hprog
        obtain rfl : (act oracle s.world (.saveSession session)).2 = world := by rw [heq]
        exact recorded_save ih hthread hadmitted hguar.2 hloaded herror
      | loadSession volumeID =>
        obtain ⟨herror, -⟩ := keepsUpdates_load hok hthread hprog
        rw [act_loadSession herror] at heq
        obtain ⟨rfl, rfl⟩ := Prod.mk.inj heq
        exact recorded_load ih hthread hguar.2
      | deleteSession volumeID =>
        obtain ⟨-, req, hunstage⟩ := hguar
        exact absurd hunstage (hadmitted.2 req)
      | _ =>
        obtain rfl : s.world = world := congrArg Prod.snd heq
        refine recorded_unaffected ih hthread ?_ fun _ _ => Iff.rfl
        cases thread.kind <;> rfl
    · exact c.elim

/-- Once no call is in progress, the session of a volume lists exactly the targets whose last
completed call is a publish, in every run in which nobody saves over a session that was not
loaded. -/
theorem publishedTargets_eq_of_keepsUpdates (cfg : Config) {s : LocalDiskPool}
    (hs : Reachable cfg updatesKept s) (hidle : ∀ t, inProgress s t = false)
    (volumeID path : String) :
    path ∈ s.world.targets volumeID ↔
      ∃ req, s.lastKind? (completes (trimSpace volumeID, path)) = some (.publish req) := by
  have hsettled := reachable_settled hs (trimSpace volumeID, path)
  have hlast : s.lastPoint? (affects (trimSpace volumeID, path)) =
      s.lastPoint? (completes (trimSpace volumeID, path)) := by
    refine hsettled.answered fun t thread hactive => ?_
    have hprogress := inProgress_eq_true hactive.started hactive.unanswered
    rw [hidle t] at hprogress
    cases hprogress
  rw [reachable_recorded hs volumeID path, Pool.lastKind?, hlast, Pool.lastKind?]

end Runs

/-! ## Two pods on one node -/

/-- The gates and settings as they are by default. -/
def defaultConfig : Config where
  kubeRuntime := true
  localRWOStaleMountRecovery := true
  localRWOActivePodRecovery := true
  maxAttempts := none
  backoffSeconds := none

/-- Calls succeed, and nothing is mounted yet. -/
def calm : Oracle where
  error := none
  pathError := none
  mounts := []
  device := "/dev/vdb"
  yes := true
  now := 0

/-- `count` calls of one goroutine. -/
def acts (t count : ℕ) : List LocalDiskStep :=
  List.replicate count (.act t calm)

def diskCapability : VolumeCapability where
  accessType := .mount [] "ext4"
  accessMode := some .singleNodeWriter

def diskContext : StringMap :=
  [("volumeName", "vdb"), ("deviceSerial", "onecsi-7")]

def stageDisk : Kind :=
  .stage { volumeId := "7", stagingTargetPath := "/staging/7"
           volumeCapability := some diskCapability, publishContext := diskContext }

/-- The target of volume "7" in a pod. -/
def podTarget (pod : String) : String :=
  "/pods/" ++ pod ++ "/mount"

def publishRequestFor (pod : String) : NodePublishRequest where
  volumeId := "7"
  stagingTargetPath := "/staging/7"
  targetPath := podTarget pod
  volumeCapability := some diskCapability
  readonly := false
  publishContext := diskContext

def unpublishFor (pod : String) : Kind :=
  .unpublish { volumeId := "7", targetPath := podTarget pod }

theorem fresh_nil : Fresh [] :=
  rfl

/-- No call is in progress. -/
def idle (s : LocalDiskPool) : Bool :=
  (List.range s.threads.length).all fun t => !inProgress s t

theorem inProgress_of_idle {s : LocalDiskPool} (h : idle s = true) (t : ℕ) :
    inProgress s t = false := by
  by_cases ht : t < s.threads.length
  · have hall := all_eq_true.1 h t (mem_range.2 ht)
    simpa using hall
  · rw [inProgress, decide_eq_false ht, Bool.false_and]

/-- Every answered call was a success. -/
def allSucceeded (s : LocalDiskPool) : Bool :=
  s.log.all fun entry =>
    match entry.2.op with
    | .respond result => result = none
    | _ => true

/-- The volume is staged and then published in two pods at once: both publishes load the session
before either saves it. -/
def racingPublishes : List LocalDiskStep :=
  [.start stageDisk] ++ acts 0 7 ++
    [.start (.publish (publishRequestFor "a")), .start (.publish (publishRequestFor "b"))] ++
    acts 1 4 ++ acts 2 4 ++ acts 1 2 ++ acts 2 2

/-- The first of two concurrent publishes is lost: both calls have succeeded and none is in
progress, but the session lists the second target only. -/
theorem concurrent_publish_lost :
    ∃ s, Reachable defaultConfig (fun s l => separateTargets s l = true) s ∧
      (∀ t, inProgress s t = false) ∧ allSucceeded s = true ∧
      s.lastKind? (completes ("7", podTarget "a")) = some (.publish (publishRequestFor "a")) ∧
      s.world.targets "7" = [podTarget "b"] := by
  have hrun : ∃ s ∈ (localDiskService defaultConfig).run separateTargets racingPublishes
      (Pool.initial []), idle s = true ∧ allSucceeded s = true ∧
        s.lastKind? (completes ("7", podTarget "a")) = some (.publish (publishRequestFor "a")) ∧
        s.world.targets "7" = [podTarget "b"] := by
    decide +kernel
  obtain ⟨s, hs, hidle, hrest⟩ := Machine.Reachable.of_run (fun _ _ h => h) fresh_nil hrun
  exact ⟨s, hs, inProgress_of_idle hidle, hrest⟩

/-- The volume is published in two pods, and taken from the first one again, one call at a time. -/
def orderlyPublishes : List LocalDiskStep :=
  [.start stageDisk] ++ acts 0 7 ++ [.start (.publish (publishRequestFor "a"))] ++ acts 1 6 ++
    [.start (.publish (publishRequestFor "b"))] ++ acts 2 6 ++
    [.start (unpublishFor "a")] ++ acts 3 4

/-- A session that lists the one target that is still published. -/
theorem orderly_publishes_recorded :
    ∃ s, Reachable defaultConfig updatesKept s ∧ (∀ t, inProgress s t = false) ∧
      s.world.targets "7" = [podTarget "b"] ∧
      (∃ req, s.lastKind? (completes (trimSpace "7", podTarget "b")) = some (.publish req)) ∧
      ¬ ∃ req, s.lastKind? (completes (trimSpace "7", podTarget "a")) = some (.publish req) := by
  have hrun : ∃ s ∈ (localDiskService defaultConfig).run
      (fun s l => separateTargets s l && keepsUpdates s l) orderlyPublishes (Pool.initial []),
        idle s = true ∧ s.world.targets "7" = [podTarget "b"] := by
    decide +kernel
  obtain ⟨s, hs, hidle, htargets⟩ :=
    Machine.Reachable.of_run (fun _ _ h => Bool.and_eq_true_iff.1 h) fresh_nil hrun
  have hnone := inProgress_of_idle hidle
  have hlisted := publishedTargets_eq_of_keepsUpdates defaultConfig hs hnone "7"
  refine ⟨s, hs, hnone, htargets, ?_, ?_⟩
  · rw [← hlisted, htargets]
    exact mem_singleton.2 rfl
  · rw [← hlisted, htargets]
    decide +kernel

end OpenNebulaCSI.Node.LocalDisk
