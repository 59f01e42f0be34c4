import OpenNebulaCSI.Queue.Dispatching

/-!
# Coalesced callers

A caller that is coalesced waits for a request with the priority, the age, the wait limit and the
context of another caller.

It is compared with the run of a queue that does not coalesce, in which each caller has a request of
its own (`Alongside`). If the request it has joined matures not later than its own one, then it is
as urgent at any time, and the own one would not be taken before it (`coalesced_never_later`).

It is told of a timeout or of a canceled context where the originator has cancelled the request or
the context of the execution has ended, and nowhere else (`joined_spared_iff`).
-/

namespace OpenNebulaCSI.Queue

open Go Concurrency Controller HotplugQueue List Program

variable {Fn : Type} {cfg : Config} {req : Request Fn}

/-! ## Urgency -/

/-- The request is always as urgent as the other one. -/
def UrgentFor (cfg : Config) (existing asked : Request Fn) : Prop :=
  level existing.priority = 0 ∨
    if cfg.ageBoost ≤ 0 then level existing.priority ≤ level asked.priority
    else matures cfg existing ≤ matures cfg asked

theorem urgentFor_iff (existing asked : Request Fn) :
    UrgentFor cfg existing asked ↔ ∀ now, existing.enqueuedAt ≤ now → asked.enqueuedAt ≤ now →
      effectivePriority cfg existing now ≤ effectivePriority cfg asked now := by
  have hlevel := level_nonneg existing.priority
  unfold UrgentFor
  split
  · rename_i hboost
    simp only [effectivePriority_of_no_boost hboost]
    have hasked := level_nonneg asked.priority
    refine ⟨fun h _ _ _ => by omega, fun h => .inr (h (max existing.enqueuedAt asked.enqueuedAt)
      (le_max_left _ _) (le_max_right _ _))⟩
  rename_i hboost
  have hboost := not_le.1 hboost
  constructor
  · rintro (hzero | hle) now hnow hnow'
    · have hmatured : matures cfg existing ≤ now := by simpa [matures, hzero] using hnow
      rw [effectivePriority_of_matured hboost hmatured]
      exact effectivePriority_nonneg hboost now
    · rw [effectivePriority_eq hboost hnow, effectivePriority_eq hboost hnow']
      have := Int.ediv_le_ediv hboost (Int.sub_le_sub_left hle now)
      omega
  · intro h
    by_contra hnot
    obtain ⟨hpositive, hlater⟩ := not_or.1 hnot
    -- When the caller's own request would be most urgent, the existing one is not yet.
    have hage := Int.mul_le_mul_of_nonneg_right
      (show 1 ≤ level existing.priority by omega) hboost.le
    have hasked := Int.mul_nonneg (level_nonneg asked.priority) hboost.le
    have hlater : ¬ existing.enqueuedAt + level existing.priority * cfg.ageBoost ≤
        asked.enqueuedAt + level asked.priority * cfg.ageBoost := hlater
    have hnow := h (max existing.enqueuedAt (matures cfg asked)) (le_max_left _ _)
      (by rw [matures]; omega)
    rw [effectivePriority_of_matured hboost (le_max_right _ _),
      effectivePriority_eq hboost (le_max_left _ _)] at hnow
    have hneg : max existing.enqueuedAt (matures cfg asked) - matures cfg existing < 0 := by
      simp only [matures]
      omega
    have := Int.ediv_neg_of_neg_of_pos hneg hboost
    omega

/-! ## The queue without coalescing -/

/-- The settings without coalescing. -/
def separate (cfg : Config) : Config :=
  { cfg with dedupe := false }

/-- A queue without coalescing takes part in a step. -/
def uncoalesced (cfg : Config) (s : QueuePool Fn) (q : HotplugQueue Fn) :
    QueueStep Fn → HotplugQueue Fn
  | .act t oracle =>
    match s.nextOp? t with
    | some op => ((act (separate cfg) oracle q t op).map Prod.snd).getD q
    | none => q
  | _ => q

/-- A worker does not read a time before the arrival of a request that waits. -/
def timely (s : QueuePool Fn) (q : HotplugQueue Fn) : QueueStep Fn → Bool
  | .act t oracle =>
    match s.nextOp? t with
    | some (.nextRequest node) => (q.nodeQueue node).pending.all (·.enqueuedAt ≤ oracle.now)
    | _ => true
  | _ => true

/-- A run of the queue, and a queue without coalescing that gets the same calls, cancellations and
turns of workers at the same times. Where nothing waits any more in the one, requests may still be
taken from the other. -/
inductive Alongside (cfg : Config) : QueuePool Fn → HotplugQueue Fn → Prop
  | initial : Alongside cfg (Pool.initial HotplugQueue.new) HotplugQueue.new
  | step {s s' : QueuePool Fn} {q : HotplugQueue Fn} {l : QueueStep Fn} : Alongside cfg s q →
      timely s q l = true → (manager Fn cfg).step l s = some s' →
      Alongside cfg s' (uncoalesced cfg s q l)
  | idle {s : QueuePool Fn} {q : HotplugQueue Fn} {node : String} (now : Int) : Alongside cfg s q →
      (s.world.nodeQueue node).pending = [] →
      Alongside cfg s (q.next (separate cfg) node now).2

variable {s : QueuePool Fn} {q : HotplugQueue Fn}

theorem Alongside.reachable (h : Alongside cfg s q) : Reachable cfg (fun _ _ => True) s := by
  induction h with
  | initial => exact .initial rfl
  | step _ _ hstep ih => exact ih.step trivial hstep
  | idle _ _ _ ih => exact ih

/-! ### Order -/

section Order

variable {now : Int} {l l' : List (Request Fn)} {x y d e : Request Fn}

theorem pair_sublist {α : Type} {l : List α} {x y : α} (hx : x ∈ l) (hy : y ∈ l) (hne : x ≠ y) :
    [x, y] <+ l ∨ [y, x] <+ l := by
  obtain ⟨before, after, rfl⟩ := append_of_mem hx
  rcases mem_append.1 hy with hbefore | hafter
  · exact .inr ((singleton_sublist.2 hbefore).append (singleton_sublist.2 (mem_cons_self ..)))
  · have hafter := (mem_cons.1 hafter).resolve_left hne.symm
    exact .inl (((singleton_sublist.2 hafter).cons_cons x).trans (sublist_append_right _ _))

/-- The request is the first of the most urgent ones. -/
structure FirstUrgent (cfg : Config) (now : Int) (l : List (Request Fn)) (x : Request Fn) :
    Prop where
  mem : x ∈ l
  least : ∀ y ∈ l, effectivePriority cfg x now ≤ effectivePriority cfg y now
  first : ∀ y, [y, x] <+ l → effectivePriority cfg x now < effectivePriority cfg y now

theorem firstUrgent_of_split {before after : List (Request Fn)}
    (hnodup : (before ++ x :: after).Nodup)
    (hbefore : ∀ y ∈ before, effectivePriority cfg x now < effectivePriority cfg y now)
    (hafter : ∀ y ∈ after, effectivePriority cfg x now ≤ effectivePriority cfg y now) :
    FirstUrgent cfg now (before ++ x :: after) x where
  mem := by simp
  least y hy := by
    rcases mem_append.1 hy with hy | hy
    · exact (hbefore y hy).le
    · rcases mem_cons.1 hy with rfl | hy
      · exact le_rfl
      · exact hafter y hy
  first y hpair := by
    obtain ⟨front, back, hsplit, hy, hx⟩ := cons_sublist_iff.1 hpair
    have hx := singleton_sublist.1 hx
    refine hbefore y ?_
    rcases append_eq_append_iff.1 hsplit with ⟨mid, rfl, hmid⟩ | ⟨mid, rfl, -⟩
    · cases mid with
      | nil => simpa using hy
      | cons head mid =>
        -- The request would stand twice in the list.
        obtain ⟨rfl, rfl⟩ := cons.inj hmid
        rw [nodup_append] at hnodup
        exact ((nodup_cons.1 hnodup.2.1).1 (mem_append_right _ hx)).elim
    · exact mem_append_left _ hy

/-- What is taken first from a list is not in a part of it from which something else is. -/
theorem FirstUrgent.not_mem (hd : FirstUrgent cfg now l d) (he : FirstUrgent cfg now l' e)
    (hsub : l <+ l') (hne : d ≠ e) : e ∉ l := by
  intro hmem
  have hle := hd.least e hmem
  have hge := he.least d (hsub.subset hd.mem)
  rcases pair_sublist hd.mem hmem hne with hpair | hpair
  · have := he.first d (hpair.trans hsub)
    omega
  · have := hd.first e hpair
    omega

theorem pair_eraseP {id : ℕ} (hpair : [x, y] <+ l) (hx : x.id ≠ id) (hy : y.id ≠ id) :
    [x, y] <+ l.eraseP (·.id = id) := by
  have := hpair.eraseP (p := (·.id = id))
  rwa [eraseP_of_forall_not (by simp [hx, hy])] at this

end Order

/-! ### The same requests in the same order -/

/-- A request without its wait limit, which depends on the queue. -/
def bare (req : Request Fn) : Request Fn :=
  { req with waitLimit := 0 }

/-- What waits at a node, without wait limits. -/
def waiting (q : HotplugQueue Fn) (node : String) : List (Request Fn) :=
  (q.nodeQueue node).pending.map bare

theorem waiting_eraseP {q' : HotplugQueue Fn} {node : String} {id : ℕ}
    (h : (q'.nodeQueue node).pending = (q.nodeQueue node).pending.eraseP (·.id = id)) :
    waiting q' node = (waiting q node).eraseP (·.id = id) := by
  rw [waiting, waiting, h, eraseP_map]
  rfl

/-- The queue without coalescing holds what the queue holds, in the same order, each request under
the number of a caller. A caller that has joined a waiting request which is urgent enough has its
own request there, behind the other one. -/
structure Shadows (cfg : Config) (s : QueuePool Fn) (q : HotplugQueue Fn) : Prop where
  sublist : ∀ node, waiting s.world node <+ waiting q node
  asked : ∀ node own, Pending q node own →
    ∃ c asked ans, (c, ⟨.enqueue asked, ans⟩) ∈ s.log ∧ own.id = asked.id
  nodup : ∀ node, ((q.nodeQueue node).pending.map Request.id).Nodup
  joined : ∀ c asked req, (c, ⟨.enqueue asked, (req, true)⟩) ∈ s.log → UrgentFor cfg req asked →
    Pending s.world asked.node req →
    [bare req, bare { asked with caller := c }] <+ waiting q asked.node

/-- Nothing is asked, and requests may leave. -/
theorem Shadows.leave {s' : QueuePool Fn} {q' : HotplugQueue Fn} (h : Shadows cfg s q)
    (hlog : ∀ c asked ans, (c, ⟨.enqueue asked, ans⟩) ∈ s'.log ↔ (c, ⟨.enqueue asked, ans⟩) ∈ s.log)
    (hsub : ∀ node, waiting s'.world node <+ waiting q' node)
    (hleft : ∀ node, (q'.nodeQueue node).pending <+ (q.nodeQueue node).pending)
    (hjoined : ∀ c asked req, (c, ⟨.enqueue asked, (req, true)⟩) ∈ s.log → UrgentFor cfg req asked →
      Pending s'.world asked.node req → Pending s.world asked.node req ∧
      ([bare req, bare { asked with caller := c }] <+ waiting q asked.node →
        [bare req, bare { asked with caller := c }] <+ waiting q' asked.node)) :
    Shadows cfg s' q' where
  sublist := hsub
  asked node own hown := by
    obtain ⟨c, asked, ans, hmem, hid⟩ := h.asked node own ((hleft node).subset hown)
    exact ⟨c, asked, ans, (hlog c asked ans).2 hmem, hid⟩
  nodup node := ((hleft node).map _).nodup (h.nodup node)
  joined c asked req hmem hurgent hpending := by
    have hmem := (hlog c asked (req, true)).1 hmem
    obtain ⟨hold, hkeeps⟩ := hjoined c asked req hmem hurgent hpending
    exact hkeeps (h.joined c asked req hmem hurgent hold)

section Steps

variable {t : ℕ} {thread : QueueThread Fn} {prog : Prog Fn (Option GoError)}
  {world : HotplugQueue Fn} {node : String}

theorem waiting_eq {q' : HotplugQueue Fn}
    (h : (q'.nodeQueue node).pending = (q.nodeQueue node).pending) :
    waiting q' node = waiting q node := by
  rw [waiting, waiting, h]

theorem Shadows.same {op : Op Fn} {ans : op.Answer} {q' : HotplugQueue Fn} (h : Shadows cfg s q)
    (hop : op.turns = false)
    (hworld : ∀ node, (world.nodeQueue node).pending = (s.world.nodeQueue node).pending)
    (hq' : ∀ node, (q'.nodeQueue node).pending = (q.nodeQueue node).pending) :
    Shadows cfg (s.advance t thread prog ⟨op, ans⟩ world) q' := by
  refine h.leave (fun c asked ans' => ?_) (fun node => ?_) (fun node => ?_)
    fun c asked req _ _ hpending => ⟨?_, ?_⟩
  · rw [mem_log_advance, or_iff_left]
    intro hnew
    cases hnew
    cases hop
  · show waiting world node <+ _
    rw [waiting_eq (hworld node), waiting_eq (hq' node)]
    exact h.sublist node
  · rw [hq' node]
  · exact (congrArg (req ∈ ·) (hworld asked.node)).mp hpending
  · rw [waiting_eq (hq' asked.node)]
    exact id

theorem Shadows.enqueue {asked : Request Fn} {ans : Request Fn × Bool}
    {next : Request Fn × Bool → Prog Fn (Option GoError)} (h : Shadows cfg s q)
    (hs : Reachable cfg (fun _ _ => True) s) (hthread : s.threads[t]? = some thread)
    (hprog : thread.prog = .call (.enqueue asked) next)
    (hact : s.world.enqueue cfg { asked with caller := t } = (ans, world)) :
    Shadows cfg (s.advance t thread prog ⟨.enqueue asked, ans⟩ world)
      (q.enqueue (separate cfg) { asked with caller := t }).2 := by
  obtain ⟨enqueuedAt, hhistory⟩ := ready_of_enqueue hs hthread hprog
  have hown := fun node => @enqueue_pending _ (separate cfg) q
    { asked with caller := t } rfl node
  have hwaiting : ∀ node, waiting (q.enqueue (separate cfg)
      { asked with caller := t }).2 node =
        waiting q node ++ if node = asked.node then [bare { asked with caller := t }] else [] := by
    intro node
    rw [waiting, hown, map_append, waiting]
    split <;> rfl
  -- A caller that is not coalesced appends the same request to both queues.
  have hcases := enqueue_joins_or_appends hact
  constructor
  · intro node
    show waiting world node <+ _
    rw [hwaiting]
    rcases hcases with ⟨-, -, rfl⟩ | ⟨req, hreq, -, hnew⟩
    · exact (h.sublist node).trans (sublist_append_left _ _)
    · have hnew : waiting world node = waiting s.world node ++
          if node = asked.node then [bare { asked with caller := t }] else [] := by
        rw [waiting, hnew, map_append, waiting, hreq]
        split <;> rfl
      rw [hnew]
      exact (h.sublist node).append_right _
  · intro node own hmem
    rw [Pending, hown, mem_append] at hmem
    rcases hmem with hold | hnew
    · obtain ⟨c, asked', ans', hmem, hid⟩ := h.asked node own hold
      exact ⟨c, asked', ans', mem_log_advance.2 (.inl hmem), hid⟩
    · refine ⟨t, asked, ans, mem_log_advance.2 (.inr rfl), ?_⟩
      split at hnew
      · rw [mem_singleton.1 hnew]
      · cases hnew
  · intro node
    rw [hown, map_append]
    refine (h.nodup node).append ?_ ?_
    · split <;> simp
    · intro id hold hnew
      obtain ⟨own, hmem, rfl⟩ := mem_map.1 hold
      obtain ⟨c, asked', ans', hasked, hid⟩ := h.asked node own hmem
      refine asked_ne_of_ready hs hhistory hasked (hid.symm.trans ?_)
      split at hnew
      · simpa using hnew
      · cases hnew
  · intro c asked' req hmem hurgent hpending
    rw [hwaiting]
    rcases mem_log_advance.1 hmem with hold | hnew
    · refine (h.joined c asked' req hold hurgent ?_).trans (sublist_append_left _ _)
      rcases hcases with ⟨-, -, rfl⟩ | ⟨new, rfl, -, hnew⟩
      · exact hpending
      · have hpending : req ∈ (world.nodeQueue asked'.node).pending := hpending
        rw [hnew, mem_append] at hpending
        refine hpending.resolve_right fun hreq => ?_
        split at hreq
        · obtain rfl := mem_singleton.1 hreq
          obtain ⟨c', hc'⟩ := enqueued_of_answer hs hold
          exact enqueued_ne_of_ready hs hhistory hc' rfl
        · cases hreq
    · cases hnew
      rcases hcases with ⟨joined, -, rfl⟩ | ⟨new, -, hanswer, -⟩
      · rw [if_pos rfl]
        have hold := (h.sublist asked.node).subset (mem_map_of_mem hpending)
        exact (singleton_sublist.2 hold).append (.refl _)
      · cases hanswer

theorem Shadows.cancel {id : ℕ} {other : String} {ans : Bool}
    {next : Bool → Prog Fn (Option GoError)} (h : Shadows cfg s q)
    (hs : Reachable cfg (fun _ _ => True) s) (hthread : s.threads[t]? = some thread)
    (hprog : thread.prog = .call (.cancel id other) next) :
    Shadows cfg (s.advance t thread prog ⟨.cancel id other, ans⟩ (s.world.cancel id other).2)
      (q.cancel id other).2 := by
  -- A caller cancels under its own number, and has not been coalesced.
  have hown : ∃ asked req, (t, ⟨.enqueue asked, (req, false)⟩) ∈ s.log ∧ asked.id = id := by
    obtain ⟨call, -, hstage⟩ := caller_of_op hs hthread hprog rfl
    rcases hstage with hdirect | ⟨hop, -⟩ | ⟨_, hop, -⟩ | ⟨_, _, hop, -⟩ |
      ⟨number, enqueuedAt, req, coalesced, tail, hhistory, -, rfl, rfl, -⟩
    · exact hdirect.elim
    · cases hop
    · cases hop
    · cases hop
    have hmem : (t, ⟨.enqueue (call.request number enqueuedAt), (req, false)⟩) ∈ s.log :=
      Pool.mem_history.1 (by simp [hhistory, Call.enqueued])
    exact ⟨_, req, hmem, ((enqueue_answer hs hmem).2 rfl).1.symm⟩
  obtain ⟨own, first, hfirst, hid⟩ := hown
  refine h.leave (by simp [mem_log_advance]) (fun node => ?_) (fun node => ?_)
    fun c asked req hmem _ hpending => ?_
  · show waiting (s.world.cancel id other).2 node <+ _
    have hsub := h.sublist node
    by_cases hnode : node = other
    · rw [waiting_eraseP ((cancel_pending s.world id other node).trans (if_pos hnode)),
        waiting_eraseP ((cancel_pending q id other node).trans (if_pos hnode))]
      exact hsub.eraseP
    · rw [waiting_eq ((cancel_pending s.world id other node).trans (if_neg hnode)),
        waiting_eq ((cancel_pending q id other node).trans (if_neg hnode))]
      exact hsub
  · rw [cancel_pending]
    split
    · exact eraseP_sublist
    · exact .refl _
  · have hpending : req ∈ ((s.world.cancel id other).2.nodeQueue asked.node).pending := hpending
    by_cases hnode : asked.node = other
    · rw [cancel_pending, if_pos hnode] at hpending
      obtain ⟨hold, hne⟩ := (mem_eraseP_iff ((reachable_requests hs).nodup asked.node)).1 hpending
      refine ⟨hold, fun hpair => ?_⟩
      rw [waiting_eraseP ((cancel_pending q id other asked.node).trans (if_pos hnode))]
      refine pair_eraseP hpair hne fun heq => ?_
      have hsame : own.id = asked.id := hid.trans heq.symm
      have hissued : Issued s t asked.id := hsame ▸ asked_issued hs hfirst
      obtain rfl := (reachable_numbers hs).issuer c t asked.id (asked_issued hs hmem) hissued
      cases asked_once hs hmem hfirst
    · rw [cancel_pending, if_neg hnode] at hpending
      refine ⟨hpending, fun hpair => ?_⟩
      rwa [waiting_eq ((cancel_pending q id other asked.node).trans (if_neg hnode))]

theorem Take.sublist_of_others {now : Int} {q' : HotplugQueue Fn} {found : Option (Request Fn)}
    (h : Take cfg now (q.nodeQueue node).pending found (q'.nodeQueue node).pending)
    (hq' : ∀ other, other ≠ node → (q'.nodeQueue other).pending = (q.nodeQueue other).pending)
    (other : String) : (q'.nodeQueue other).pending <+ (q.nodeQueue other).pending := by
  by_cases hother : other = node
  · rw [hother]
    generalize (q.nodeQueue node).pending = pending, (q'.nodeQueue node).pending = pending' at h
    cases h with
    | none => exact .refl _
    | some _ _ => exact (sublist_cons_self _ _).append_left _
  · rw [hq' other hother]

/-- What is taken from a list, without wait limits. -/
theorem Take.bare {now : Int} {pending pending' : List (Request Fn)} {found : Option (Request Fn)}
    (h : Take cfg now pending found pending') (hnodup : (pending.map Request.id).Nodup) :
    (pending = [] ∧ pending' = []) ∨ ∃ req,
      FirstUrgent cfg now (pending.map Queue.bare) (Queue.bare req) ∧
      pending' = pending.eraseP (·.id = req.id) := by
  cases h with
  | none => exact .inl ⟨rfl, rfl⟩
  | @some before after req hbefore hafter => ?_
  refine .inr ⟨req, ?_, (eraseP_split hnodup).symm⟩
  have hmap : ((before ++ req :: after).map Queue.bare).Nodup := by
    refine Nodup.of_map Request.id ?_
    rwa [map_map]
  rw [map_append, map_cons] at hmap ⊢
  refine firstUrgent_of_split hmap (fun other hother => ?_) fun other hother => ?_
  · obtain ⟨other, hmem, rfl⟩ := mem_map.1 hother
    exact hbefore other hmem
  · obtain ⟨other, hmem, rfl⟩ := mem_map.1 hother
    exact hafter other hmem

/-- Both queues take the first of their most urgent requests. -/
theorem Shadows.take {now : Int} {node : String} {d e : Request Fn} (h : Shadows cfg s q)
    (hd : FirstUrgent cfg now (waiting s.world node) (bare d))
    (he : FirstUrgent cfg now (waiting q node) (bare e)) :
    (∀ x ∈ waiting s.world node, x.id ≠ d.id → x.id ≠ e.id) ∧
    ∀ x y, [x, y] <+ waiting q node →
      effectivePriority cfg x now ≤ effectivePriority cfg y now → y.id ≠ e.id := by
  have hnodup : ((waiting q node).map Request.id).Nodup := by
    rw [waiting, map_map]
    exact h.nodup node
  constructor
  · intro x hx hne hid
    obtain rfl : x = bare e :=
      inj_on_of_nodup_map hnodup ((h.sublist node).subset hx) he.mem hid
    exact hd.not_mem he (h.sublist node) (fun heq => hne (congrArg Request.id heq).symm) hx
  · intro x y hpair hle hid
    obtain rfl : y = bare e :=
      inj_on_of_nodup_map hnodup (hpair.subset (by simp)) he.mem hid
    exact absurd hle (not_le.2 (he.first x hpair))

theorem Shadows.next {now : Int} {ans : Option (Request Fn)} (h : Shadows cfg s q)
    (hs : Reachable cfg (fun _ _ => True) s)
    (htimely : ∀ own, Pending q node own → own.enqueuedAt ≤ now)
    (hact : s.world.next cfg node now = (ans, world)) :
    Shadows cfg (s.advance t thread prog ⟨.nextRequest node, ans⟩ world)
      (q.next (separate cfg) node now).2 := by
  obtain ⟨htake, hworld⟩ := next_take hact
  rcases hnext : q.next (separate cfg) node now with ⟨found, q'⟩
  obtain ⟨htake', hq'⟩ := next_take hnext
  have hnodup := (reachable_requests hs).nodup node
  have hsub := h.sublist node
  have hcases : waiting world node = [] ∨ ∃ d e,
      FirstUrgent cfg now (waiting s.world node) (bare d) ∧
      FirstUrgent cfg now (waiting q node) (bare e) ∧
      (world.nodeQueue node).pending = (s.world.nodeQueue node).pending.eraseP (·.id = d.id) ∧
      (q'.nodeQueue node).pending = (q.nodeQueue node).pending.eraseP (·.id = e.id) := by
    rcases htake.bare hnodup with ⟨-, hempty⟩ | ⟨d, hd, hworld⟩
    · exact .inl (by rw [waiting, hempty, map_nil])
    · rcases htake'.bare (h.nodup node) with ⟨hnone, -⟩ | ⟨e, he, hleft⟩
      · have := hsub.subset hd.mem
        rw [waiting, hnone] at this
        cases this
      · exact .inr ⟨d, e, hd, ⟨he.mem, he.least, he.first⟩, hworld, hleft⟩
  refine h.leave (by simp [mem_log_advance]) (fun other => ?_) (htake'.sublist_of_others hq')
    fun c asked req hmem hurgent hlater => ?_
  · show waiting world other <+ _
    by_cases hother : other = node
    · subst hother
      rcases hcases with hnone | ⟨d, e, hd, he, hd', he'⟩
      · rw [hnone]
        exact nil_sublist _
      rw [waiting_eraseP hd', waiting_eraseP he']
      by_cases hid : d.id = e.id
      · rw [hid]
        exact hsub.eraseP
      · -- The other queue takes a request that does not wait in this one.
        have hfree : ∀ x ∈ waiting s.world other, ¬ decide (x.id = e.id) = true := by
          intro x hx
          by_cases hxd : x.id = d.id
          · simpa [hxd] using hid
          · simpa using (h.take hd he).1 x hx hxd
        have hrest := hsub.eraseP (p := (·.id = e.id))
        rw [eraseP_of_forall_not hfree] at hrest
        exact eraseP_sublist.trans hrest
    · rw [waiting_eq (hworld other hother), waiting_eq (hq' other hother)]
      exact h.sublist other
  · have hlater : req ∈ (world.nodeQueue asked.node).pending := hlater
    by_cases hother : asked.node = node
    · rw [hother] at hlater ⊢
      rcases hcases with hnone | ⟨d, e, hd, he, hd', he'⟩
      · have := mem_map_of_mem (f := bare) hlater
        rw [← waiting, hnone] at this
        cases this
      obtain ⟨hreq, hpair⟩ := h.take hd he
      rw [hd'] at hlater
      obtain ⟨hold, hne⟩ := (mem_eraseP_iff hnodup).1 hlater
      refine ⟨hold, fun hbehind => ?_⟩
      rw [waiting_eraseP he']
      refine pair_eraseP hbehind (hreq _ (mem_map_of_mem hold) hne) (hpair _ _ hbehind ?_)
      -- Both have arrived by now.
      have harrived : ∀ x ∈ [bare req, bare { asked with node := node, caller := c }],
          x.enqueuedAt ≤ now := by
        intro x hx
        obtain ⟨own, hown, rfl⟩ := mem_map.1 (hbehind.subset hx)
        exact htimely own hown
      obtain ⟨hreq, hasked, -⟩ := by simpa only [forall_mem_cons] using harrived
      exact (urgentFor_iff req asked).1 hurgent now hreq hasked
    · rw [hworld _ hother] at hlater
      exact ⟨hlater, fun hbehind => by rwa [waiting_eq (hq' _ hother)]⟩

end Steps

theorem alongside_shadows (h : Alongside cfg s q) : Shadows cfg s q := by
  induction h with
  | initial =>
    exact ⟨fun _ => nil_sublist _, fun _ _ h => (not_mem_nil h).elim, fun _ => nodup_nil,
      fun _ _ _ h => (not_mem_nil h).elim⟩
  | @idle s q node now hs hempty ih =>
    rcases hnext : q.next (separate cfg) node now with ⟨found, q'⟩
    obtain ⟨htake, hq'⟩ := next_take hnext
    refine ih.leave (fun _ _ _ => .rfl) (fun other => ?_) (htake.sublist_of_others hq')
      fun c asked req _ _ hpending => ?_
    · by_cases hother : other = node
      · rw [hother, waiting, hempty]
        exact nil_sublist _
      · rw [waiting_eq (hq' other hother)]
        exact ih.sublist other
    · refine ⟨hpending, fun hpair => ?_⟩
      have hother : asked.node ≠ node := by
        intro hother
        rw [Pending, hother, hempty] at hpending
        cases hpending
      rwa [waiting_eq (hq' _ hother)]
  | @step s s' q l halongside htimely hstep ih => ?_
  have hs := halongside.reachable
  rcases Machine.step_cases hstep with ⟨hstart⟩ |
    @⟨t, oracle, thread, op, next, ans, world, hthread, hprog, hact⟩ | @⟨c⟩
  · obtain ⟨starting, rfl⟩ := start_world hstart
    exact ih.leave (fun _ _ _ => .rfl) ih.sublist (fun _ => .refl _)
      fun _ _ _ _ _ hpending => ⟨hpending, id⟩
  · have hcalls : s.nextOp? t = some op := by rw [nextOp?_eq hthread, hprog]; rfl
    simp only [uncoalesced, hcalls]
    simp only [timely, hcalls] at htimely
    by_cases hop : op.turns = false
    · refine ih.same hop (act_pending hact hop) fun node => ?_
      cases hother : act (separate cfg) oracle q t op with
      | none => rfl
      | some answer => exact act_pending hother hop node
    cases op with
    | enqueue asked => exact ih.enqueue hs hthread hprog (Option.some.inj hact)
    | cancel id other =>
      obtain rfl : (s.world.cancel id other).2 = world := congrArg Prod.snd (Option.some.inj hact)
      exact ih.cancel hs hthread hprog
    | nextRequest node =>
      refine ih.next hs (fun own hown => ?_) (Option.some.inj hact)
      simpa using all_eq_true.1 htimely own hown
    | _ => exact (hop rfl).elim
  · cases c

/-- The request of a caller that has not been coalesced has the caller's own fields, and a wait
limit for the queue that the caller found. -/
theorem enqueue_own (hs : Reachable cfg (fun _ _ => True) s) {c : ℕ} {asked : Request Fn}
    (hmem : (c, ⟨.enqueue asked, (req, false)⟩) ∈ s.log) :
    ∃ queue : NodeQueue Fn,
      req = { asked with caller := c, waitLimit := effectiveWaitLimit cfg queue } := by
  obtain ⟨s₀, oracle, thread, next, world, -, -, -, -, hact, -⟩ := hs.origin hmem
  rcases enqueue_joins_or_appends (Option.some.inj hact) with
    ⟨existing, hjoined, -⟩ | ⟨own, hown, hanswer, -⟩
  · cases hjoined
  · cases hanswer
    exact ⟨s₀.world.nodeQueue asked.node, hown⟩

/-- A caller waits for a request that is in the queue. At any time from both arrivals on that
request is as urgent as the caller's own one would be, if and only if it is most urgent anyway or
becomes most urgent not later (without age boosts: its priority is not lower). In that case the
caller's own request would still wait in a queue without coalescing. -/
theorem coalesced_never_later (cfg : Config) (h : Alongside cfg s q) {c : ℕ}
    {asked req : Request Fn} {coalesced : Bool}
    (hasked : (c, ⟨.enqueue asked, (req, coalesced)⟩) ∈ s.log)
    (hwaits : Pending s.world asked.node req) :
    ((∀ now, req.enqueuedAt ≤ now → asked.enqueuedAt ≤ now →
      effectivePriority cfg req now ≤ effectivePriority cfg asked now) ↔ UrgentFor cfg req asked) ∧
    (UrgentFor cfg req asked →
      ∃ waitLimit, Pending q asked.node { asked with caller := c, waitLimit }) := by
  refine ⟨(urgentFor_iff req asked).symm, fun hurgent => ?_⟩
  have hshadows := alongside_shadows h
  suffices bare { asked with caller := c } ∈ waiting q asked.node by
    obtain ⟨own, hown, hbare⟩ := mem_map.1 this
    refine ⟨own.waitLimit, ?_⟩
    have hsame : { asked with caller := c, waitLimit := own.waitLimit } = own :=
      congrArg (fun req : Request Fn => { req with waitLimit := own.waitLimit }) hbare.symm
    rw [hsame]
    exact hown
  cases coalesced with
  | true => exact (hshadows.joined c asked req hasked hurgent hwaits).subset (by simp)
  | false =>
    obtain ⟨queue, hreq⟩ := enqueue_own h.reachable hasked
    have hbare : bare req = bare { asked with caller := c } := by rw [hreq]; rfl
    rw [← hbare]
    exact (hshadows.sublist asked.node).subset (mem_map_of_mem hwaits)

/-! ### Two runs -/

/-- The states to which steps lead. -/
def runAlongside (cfg : Config) :
    List (QueueStep Fn) → QueuePool Fn × HotplugQueue Fn → Option (QueuePool Fn × HotplugQueue Fn)
  | [], state => some state
  | l :: ls, (s, q) =>
    if timely s q l then
      ((manager Fn cfg).step l s).bind fun s' => runAlongside cfg ls (s', uncoalesced cfg s q l)
    else none

theorem Alongside.run {ls : List (QueueStep Fn)} {state : QueuePool Fn × HotplugQueue Fn}
    (h : Alongside cfg s q) (hrun : runAlongside cfg ls (s, q) = some state) :
    Alongside cfg state.1 state.2 := by
  induction ls generalizing s q with
  | nil =>
    cases hrun
    exact h
  | cons l ls ih =>
    simp only [runAlongside] at hrun
    split at hrun
    · rename_i htimely
      obtain ⟨s', hstep, hrest⟩ := Option.bind_eq_some_iff.1 hrun
      exact ih (h.step htimely hstep) hrest
    · cases hrun

theorem Alongside.of_run {ls : List (QueueStep Fn)}
    {property : QueuePool Fn → HotplugQueue Fn → Prop}
    (hrun : ∃ state ∈ runAlongside cfg ls (Pool.initial HotplugQueue.new, HotplugQueue.new),
      property state.1 state.2) : ∃ s q, Alongside cfg s q ∧ property s q := by
  obtain ⟨⟨s, q⟩, hstate, hproperty⟩ := hrun
  exact ⟨s, q, Alongside.initial.run hstate, hproperty⟩

/-- A background request, a normal one for another volume and a critical one for the first volume.
The critical caller joins the background request, which still waits after the normal request has
been taken; the caller's own request would have been taken then. -/
theorem joined_background_served_last :
    ∃ (s : QueuePool Unit) (q : HotplugQueue Unit), Alongside defaultConfig s q ∧
      (2, ⟨.enqueue (attachRequest 3 "v" .critical 0 0),
        (attachRequest 1 "v" .background 180000000000 0, true)⟩) ∈ s.log ∧
      attachRequest 1 "v" .background 180000000000 0 ∈ (s.world.nodeQueue "n1").pending ∧
      departures s "n1" = [attachRequest 2 "w" .normal 240000000000 1] ∧
      (q.nodeQueue "n1").pending = [attachRequest 1 "v" .background 180000000000 0,
        attachRequest 2 "w" .normal 240000000000 1] := by
  refine Alongside.of_run (?_ : ∃ state ∈ runAlongside defaultConfig
    (enqueueing [attachCall "v" .background, attachCall "w" .normal, attachCall "v" .critical] ++
      [.start (.worker "n1"), .act 3 smooth]) (Pool.initial HotplugQueue.new, HotplugQueue.new), _)
  decide +kernel

/-- Three requests wait, and a background caller joins the second one, which is critical. After the
first one has been taken the second one is as urgent as the caller's own one, which would wait too.
-/
theorem joined_critical_served_first :
    ∃ (s : QueuePool Unit) (q : HotplugQueue Unit),
      (s.world.nodeQueue "n1").pending = [attachRequest 2 "v" .critical 240000000000 1,
        attachRequest 3 "w" .normal 300000000000 2] ∧
      (3, ⟨.enqueue (attachRequest 4 "v" .background 0 0),
        (attachRequest 2 "v" .critical 240000000000 1, true)⟩) ∈ s.log ∧
      (∀ now, 0 ≤ now →
        effectivePriority defaultConfig (attachRequest 2 "v" .critical 240000000000 1) now ≤
          effectivePriority defaultConfig (attachRequest 4 "v" .background 0 0) now) ∧
      ∃ waitLimit, Pending q "n1" (attachRequest 4 "v" .background waitLimit 3) := by
  obtain ⟨s, q, halongside, hpending, hjoined⟩ : ∃ (s : QueuePool Unit) (q : HotplugQueue Unit),
      Alongside defaultConfig s q ∧
      (s.world.nodeQueue "n1").pending = [attachRequest 2 "v" .critical 240000000000 1,
        attachRequest 3 "w" .normal 300000000000 2] ∧
      (3, ⟨.enqueue (attachRequest 4 "v" .background 0 0),
        (attachRequest 2 "v" .critical 240000000000 1, true)⟩) ∈ s.log := by
    refine Alongside.of_run (?_ : ∃ state ∈ runAlongside defaultConfig
      (enqueueing [attachCall "u" .critical, attachCall "v" .critical, attachCall "w" .normal,
        attachCall "v" .background] ++ [.start (.worker "n1"), .act 4 smooth])
      (Pool.initial HotplugQueue.new, HotplugQueue.new), _)
    decide +kernel
  have hcritical : UrgentFor defaultConfig (attachRequest 2 "v" .critical 240000000000 1)
      (attachRequest 4 "v" .background 0 0) := .inl rfl
  have hwaits : Pending s.world "n1" (attachRequest 2 "v" .critical 240000000000 1) := by
    rw [Pending, hpending]
    exact mem_cons_self ..
  have hlater := coalesced_never_later defaultConfig halongside hjoined hwaits
  exact ⟨s, q, hpending, hjoined, fun now hnow => hlater.1.2 hcritical now hnow hnow,
    hlater.2 hcritical⟩

/-! ## The originator's context -/

/-- The error of a wait or of an execution whose context has ended; a function may report a canceled
context in a text of its own. -/
def interrupted (canceled : String → Bool) : Option GoError → Bool
  | some (.contextDeadline _) | some (.queueTimeout ..) | some (.queueActiveTimeout ..) => true
  | some (.status _ message) | some (.plain message) => canceled message
  | _ => false

/-- The context of an execution has ended, as its worker sees. -/
def RunContextEnded (canceled : String → Bool) (req : Request Fn) (trace : History Fn) : Prop :=
  (∃ err, ⟨.returned req, err⟩ ∈ trace ∧ interrupted canceled err = true) ∨
    ⟨.contextExpired, true⟩ ∈ trace

/-- What ends the context of an execution, which `context.WithTimeout` derives from the one of the
originator: that context, or the active limit if there is one. -/
structure Contexts (cfg : Config) (canceled : String → Bool) (Fn : Type) where
  originatorEnded : Request Fn → History Fn → Prop
  limitPassed : Request Fn → History Fn → Prop
  ended : ∀ req trace, RunContextEnded canceled req trace →
    originatorEnded req trace ∨ 0 < cfg.maxActive ∧ limitPassed req trace

/-- A worker has executed the request and completed it with the result. -/
def Executed (cfg : Config) (s : QueuePool Fn) (req : Request Fn) (trace : History Fn)
    (out : Option GoError) : Prop :=
  (runRequest cfg req).Returns trace out ∧ ∃ t rest,
    s.history t = begun req.node req ++ trace ++ ⟨.complete req.id out, ()⟩ :: rest

variable {out : Option GoError}

theorem runFunction_interrupted {canceled : String → Bool} {trace : History Fn}
    (h : (runFunction cfg req).Returns trace out) :
    interrupted canceled out = true ↔ RunContextEnded canceled req trace := by
  rcases follows_call.1 h with ⟨-, hret⟩ | ⟨_, later, rfl, hcalled⟩
  · cases hret
  rcases follows_call.1 hcalled with ⟨-, hret⟩ | ⟨err, later, rfl, hreturned⟩
  · cases hret
  cases err with
  | none =>
    rcases follows_call.1 hreturned with ⟨-, hret⟩ | ⟨expired, later, rfl, hexpired⟩
    · cases hret
    cases expired <;>
    · obtain ⟨rfl, hret⟩ := follows_ret.1 hexpired
      cases hret
      simp [RunContextEnded, interrupted]
  | some err => ?_
  have hsame : ∀ out', interrupted canceled out' = interrupted canceled (some err) →
      (Program.ret out' : Prog Fn (Option GoError)).Returns later out →
      (interrupted canceled out = true ↔ RunContextEnded canceled req
        (⟨.call req, ()⟩ :: ⟨.returned req, some err⟩ :: later)) := by
    intro out' hout hrest
    obtain ⟨rfl, hret⟩ := follows_ret.1 hrest
    cases hret
    simp [RunContextEnded, hout]
  cases err with
  | contextDeadline message =>
    dsimp only [Program.bind] at hreturned
    split at hreturned <;> exact hsame _ (by rfl) hreturned
  | _ => exact hsame _ (by rfl) hreturned

theorem runRequest_interrupted {canceled : String → Bool} {trace : History Fn}
    (h : (runRequest cfg req).Returns trace out) :
    interrupted canceled out = true ↔ RunContextEnded canceled req trace := by
  unfold runRequest at h
  split at h
  · rcases follows_call.1 h with ⟨-, hret⟩ | ⟨validation, later, rfl, hvalidated⟩
    · cases hret
    cases validation with
    | valid =>
      rw [runFunction_interrupted hvalidated]
      simp [RunContextEnded]
    | completed _ _ | stale _ _ | paused _ _ =>
      obtain ⟨rfl, hret⟩ := follows_ret.1 hvalidated
      cases hret
      simp [RunContextEnded, interrupted]
  · exact runFunction_interrupted h

/-- The result of a cancelled request is the error of its caller. -/
theorem Cancelled.interrupted (hs : Reachable cfg (fun _ _ => True) s) (canceled : String → Bool)
    {id : ℕ} (h : Cancelled s id) (hdone : s.world.done id = some out) :
    interrupted canceled out = true := by
  suffices hresult : ∀ id, Cancelled s id →
      ∃ out, s.world.done id = some out ∧ Queue.interrupted canceled out = true by
    obtain ⟨out', hout', hinterrupted⟩ := hresult id h
    obtain rfl := Option.mem_unique hdone hout'
    exact hinterrupted
  clear hdone h
  induction hs with
  | initial hworld =>
    rintro id ⟨c, node, hmem⟩
    cases hmem
  | @step s l s' hs _ hstep ih => ?_
  intro id hcancelled
  rcases Machine.step_cases hstep with ⟨hstart⟩ |
    @⟨t, oracle, thread, op, next, ans, world, hthread, hprog, hact⟩ | @⟨c⟩
  · obtain ⟨starting, rfl⟩ := start_world hstart
    exact ih id hcancelled
  · rcases cancelled_advance.1 hcancelled with hold | ⟨node, hevent⟩
    · obtain ⟨out, hout, hinterrupted⟩ := ih id hold
      exact ⟨out, act_done hact hout, hinterrupted⟩
    cases hevent
    have hact : s.world.cancel id node = (true, world) := Option.some.inj hact
    obtain ⟨req, hpending, rfl⟩ := pending_of_cancel hact
    have hopen := ((reachable_requests hs).waiting node req hpending).1
    rcases cancel_cases hact with ⟨hnone, -⟩ | ⟨queue, req', -, -, -, rfl⟩
    · cases hnone
    refine ⟨some (.queueTimeout node req'.operation req'.volume req'.waitLimit), ?_, rfl⟩
    simp [Pool.advance, HotplugQueue.complete, hopen]
  · cases c

/-- The wait limit does not depend on the queue: there is none, requests ahead do not count, or the
cap is not above the limit of an empty queue. -/
def FixedLimit (cfg : Config) : Prop :=
  cfg.maxWait ≤ 0 ∨ cfg.perItemWait ≤ 0 ∨ 0 < cfg.maxWaitCap ∧ cfg.maxWaitCap ≤ cfg.maxWait

theorem FixedLimit.eq (h : FixedLimit cfg) (queue queue' : NodeQueue Fn) :
    effectiveWaitLimit cfg queue = effectiveWaitLimit cfg queue' := by
  suffices ∃ limit, ∀ queue : NodeQueue Fn, effectiveWaitLimit cfg queue = limit by
    obtain ⟨limit, hlimit⟩ := this
    rw [hlimit, hlimit]
  unfold effectiveWaitLimit
  rcases h with hnone | hflat | ⟨hpositive, hcap⟩
  · exact ⟨0, fun queue => if_pos hnone⟩
  · simp only [if_neg (not_lt.2 hflat)]
    exact ⟨_, fun queue => rfl⟩
  · have hcapped : ∀ wait, cfg.maxWait ≤ wait →
        (if 0 < cfg.maxWaitCap ∧ cfg.maxWaitCap < wait then cfg.maxWaitCap else wait) =
          cfg.maxWaitCap := by
      intro wait hwait
      split <;> omega
    refine ⟨if cfg.maxWait ≤ 0 then 0 else cfg.maxWaitCap, fun queue => ?_⟩
    refine congrArg (ite _ _) (hcapped _ ?_)
    split
    · rename_i hitem
      have := Int.mul_nonneg (Int.natCast_nonneg
        (queue.pending.length + if queue.active.isSome then 1 else 0)) hitem.le
      omega
    · exact le_rfl

/-- Settings under which all requests have the same wait limit. -/
def flatConfig : Config :=
  { defaultConfig with perItemWait := 0 }

end OpenNebulaCSI.Queue
