import Mathlib.Data.List.Perm.Subperm
import OpenNebulaCSI.Queue.Progress

/-!
# The order in which requests are served

A worker takes the first of the most urgent waiting requests. A request that has waited for its age
boosts is as urgent as any, so that from then on nothing overtakes it that was not ahead of it
already (`waiting_served_in_order`).
-/

namespace OpenNebulaCSI.Queue

open Go Concurrency Controller HotplugQueue List Program

variable {Fn : Type} {cfg : Config} {req : Request Fn}

/-! ## Ages -/

/-- The number of age boosts after which a request is most urgent. -/
def level : Priority → Int
  | .critical => 0
  | .normal => 1
  | .background => 2

theorem level_nonneg (priority : Priority) : 0 ≤ level priority := by
  cases priority <;> decide

/-- The time from which on a request is most urgent. -/
def matures (cfg : Config) (req : Request Fn) : Int :=
  req.enqueuedAt + level req.priority * cfg.ageBoost

theorem effectivePriority_of_no_boost (h : cfg.ageBoost ≤ 0) (now : Int) :
    effectivePriority cfg req now = level req.priority := by
  simp only [effectivePriority, if_pos h]
  cases req.priority <;> rfl

theorem effectivePriority_eq (hboost : 0 < cfg.ageBoost) {now : Int} (hnow : req.enqueuedAt ≤ now) :
    effectivePriority cfg req now = max 0 (-((now - matures cfg req) / cfg.ageBoost)) := by
  have hage : now - req.enqueuedAt = now - matures cfg req + level req.priority * cfg.ageBoost := by
    rw [matures]
    omega
  have hboosts : (now - req.enqueuedAt).tdiv cfg.ageBoost =
      (now - matures cfg req) / cfg.ageBoost + level req.priority := by
    rw [Int.tdiv_eq_ediv_of_nonneg (by omega), hage, Int.add_mul_ediv_right _ _ hboost.ne']
  have hlevel : effectivePriority cfg req now = level req.priority -
      if level req.priority < (now - req.enqueuedAt).tdiv cfg.ageBoost then level req.priority
      else (now - req.enqueuedAt).tdiv cfg.ageBoost := by
    simp only [effectivePriority, if_neg (not_le.2 hboost)]
    cases req.priority <;> rfl
  rw [hlevel, hboosts]
  split <;> omega

theorem effectivePriority_nonneg (hboost : 0 < cfg.ageBoost) (now : Int) :
    0 ≤ effectivePriority cfg req now := by
  simp only [effectivePriority, if_neg (not_le.2 hboost)]
  split <;> omega

theorem effectivePriority_of_matured (hboost : 0 < cfg.ageBoost) {now : Int}
    (h : matures cfg req ≤ now) : effectivePriority cfg req now = 0 := by
  have hage : req.enqueuedAt ≤ now := by
    have := Int.mul_nonneg (level_nonneg req.priority) hboost.le
    rw [matures] at h
    omega
  have := Int.ediv_nonneg (Int.sub_nonneg_of_le h) hboost.le
  rw [effectivePriority_eq hboost hage]
  omega

/-! ## Runs -/

/-- The request an event appends to the queue of the node. -/
def appended (node : String) : Event (Op Fn) Op.Answer → Option (Request Fn)
  | ⟨.enqueue asked, (req, false)⟩ => if asked.node = node then some req else none
  | _ => none

/-- The request an event takes from the queue of the node. -/
def taken (node : String) : Event (Op Fn) Op.Answer → Option (Request Fn)
  | ⟨.nextRequest other, found⟩ => if other = node then found else none
  | _ => none

/-- The requests appended to the queue of the node, and those taken from it, in order. -/
def arrivals (s : QueuePool Fn) (node : String) : List (Request Fn) :=
  s.log.flatMap fun entry => (appended node entry.2).toList

def departures (s : QueuePool Fn) (node : String) : List (Request Fn) :=
  s.log.flatMap fun entry => (taken node entry.2).toList

/-- What an operation may do to the waiting requests of a node, with the request it appends and the
one it takes. -/
inductive Turn (cfg : Config) (now : Int) (pending : List (Request Fn)) :
    Option (Request Fn) → Option (Request Fn) → List (Request Fn) → Prop
  | keep : Turn cfg now pending none none pending
  | cancel (id : ℕ) : Turn cfg now pending none none (pending.eraseP (·.id = id))
  | append (req : Request Fn) : Turn cfg now pending (some req) none (pending ++ [req])
  | take {before after : List (Request Fn)} {req : Request Fn} : pending = before ++ req :: after →
      (∀ other ∈ before, effectivePriority cfg req now < effectivePriority cfg other now) →
      (∀ other ∈ after, effectivePriority cfg req now ≤ effectivePriority cfg other now) →
      Turn cfg now pending none (some req) (before ++ after)

/-- Operations change the queue of one node. -/
theorem pending_of_update {q q' : HotplugQueue Fn} {other : String} {queue : Option (NodeQueue Fn)}
    (hnodes : q'.nodes = Function.update q.nodes other queue) (node : String) :
    (q'.nodeQueue node).pending =
      if node = other then queue.elim [] NodeQueue.pending else (q.nodeQueue node).pending := by
  unfold HotplugQueue.nodeQueue
  rw [hnodes]
  split
  · rename_i hnode
    rw [hnode, Function.update_self]
    cases queue <;> rfl
  · rename_i hnode
    rw [Function.update_of_ne hnode]

theorem cancel_pending (q : HotplugQueue Fn) (id : ℕ) (other node : String) :
    ((q.cancel id other).2.nodeQueue node).pending =
      if node = other then (q.nodeQueue node).pending.eraseP (·.id = id)
      else (q.nodeQueue node).pending := by
  cases hqueue : q.nodes other with
  | none =>
    have hempty : (q.nodeQueue other).pending = [] := by rw [HotplugQueue.nodeQueue, hqueue]; rfl
    rw [show (q.cancel id other).2 = q by simp [HotplugQueue.cancel, hqueue]]
    split
    · rename_i hnode
      rw [hnode, hempty, eraseP_nil]
    · rfl
  | some queue => ?_
  have hpending := congrArg NodeQueue.pending (nodeQueue_eq hqueue)
  rcases hcancel : q.cancel id other with ⟨cancelled, q'⟩
  cases hfind : queue.pending.find? (·.id = id) with
  | none =>
    obtain rfl : q = q' := by
      simpa [HotplugQueue.cancel, hqueue, hfind] using congrArg Prod.snd hcancel
    split
    · rename_i hnode
      rw [hnode, hpending, eraseP_of_forall_not (find?_eq_none.1 hfind)]
    · rfl
  | some req =>
    rcases cancel_cases hcancel with ⟨rfl, -⟩ | ⟨queue', -, hqueue', -, -, rfl⟩
    · simp [HotplugQueue.cancel, hqueue, hfind] at hcancel
    obtain rfl : queue' = queue := Option.mem_unique hqueue' hqueue
    rw [pending_of_update complete_nodes]
    split
    · rename_i hnode
      rw [hnode, hpending]
      rfl
    · rfl

theorem enqueue_pending {q : HotplugQueue Fn} {asked : Request Fn}
    (hdup : q.duplicate cfg asked = none) (node : String) :
    ((q.enqueue cfg asked).2.nodeQueue node).pending = (q.nodeQueue node).pending ++
      if node = asked.node then
        [{ asked with waitLimit := effectiveWaitLimit cfg (q.nodeQueue asked.node) }]
      else [] := by
  simp only [HotplugQueue.enqueue, hdup]
  rw [pending_of_update rfl]
  split
  · rename_i hnode
    rw [hnode]
    rfl
  · rw [append_nil]

/-- A caller joins a request and leaves the queue as it is, or appends its own request. -/
theorem enqueue_joins_or_appends {q q' : HotplugQueue Fn} {asked : Request Fn}
    {ans : Request Fn × Bool} (h : q.enqueue cfg asked = (ans, q')) :
    (∃ existing, ans = (existing, true) ∧ q' = q) ∨
      ∃ req, req = { asked with waitLimit := effectiveWaitLimit cfg (q.nodeQueue asked.node) } ∧
        ans = (req, false) ∧ ∀ node, (q'.nodeQueue node).pending =
          (q.nodeQueue node).pending ++ if node = asked.node then [req] else [] := by
  cases hdup : q.duplicate cfg asked with
  | some existing =>
    rw [enqueue_of_duplicate hdup] at h
    cases h
    exact .inl ⟨existing, rfl, rfl⟩
  | none =>
    have hpending := enqueue_pending hdup
    rw [h] at hpending
    simp only [HotplugQueue.enqueue, hdup] at h
    exact .inr ⟨_, rfl, (congrArg Prod.fst h).symm, hpending⟩

/-- The first of the most urgent requests, which a worker takes. -/
inductive Take (cfg : Config) (now : Int) :
    List (Request Fn) → Option (Request Fn) → List (Request Fn) → Prop
  | none : Take cfg now [] none []
  | some {before after : List (Request Fn)} {req : Request Fn} :
      (∀ other ∈ before, effectivePriority cfg req now < effectivePriority cfg other now) →
      (∀ other ∈ after, effectivePriority cfg req now ≤ effectivePriority cfg other now) →
      Take cfg now (before ++ req :: after) (some req) (before ++ after)

theorem next_take {q q' : HotplugQueue Fn} {now : Int} {other : String}
    {found : Option (Request Fn)} (h : q.next cfg other now = (found, q')) :
    Take cfg now (q.nodeQueue other).pending found (q'.nodeQueue other).pending ∧
      ∀ node, node ≠ other → (q'.nodeQueue node).pending = (q.nodeQueue node).pending := by
  rcases next_cases h with ⟨hqueue, rfl, rfl⟩ | ⟨queue, hqueue, hempty, rfl, hq'⟩ |
    ⟨queue, before, req, after, hqueue, hsplit, hbefore, hafter, rfl, hq'⟩
  · rw [HotplugQueue.nodeQueue, hqueue]
    exact ⟨.none, fun _ _ => rfl⟩
  · have hpending := pending_of_update (show q'.nodes = _ by rw [hq'])
    refine ⟨?_, fun node hnode => (hpending node).trans (if_neg hnode)⟩
    rw [hpending, if_pos rfl, nodeQueue_eq hqueue, hempty]
    exact .none
  · have hpending := pending_of_update (show q'.nodes = _ by rw [hq'])
    refine ⟨?_, fun node hnode => (hpending node).trans (if_neg hnode)⟩
    rw [hpending, if_pos rfl, nodeQueue_eq hqueue, hsplit]
    exact .some hbefore hafter

/-- The operations that change what waits. -/
def Op.turns : Op Fn → Bool
  | .enqueue _ | .cancel _ _ | .nextRequest _ => true
  | _ => false

theorem act_pending {oracle : Oracle} {q q' : HotplugQueue Fn} {t : ℕ} {op : Op Fn}
    {ans : op.Answer} (hact : act cfg oracle q t op = some (ans, q')) (hop : op.turns = false)
    (node : String) : (q'.nodeQueue node).pending = (q.nodeQueue node).pending := by
  cases op with
  | enqueue _ | cancel _ _ | nextRequest _ => cases hop
  | complete id err =>
    cases hact
    rw [HotplugQueue.nodeQueue, HotplugQueue.nodeQueue, complete_nodes]
  | finish other id =>
    cases hact
    exact (finish_nodeQueue q other id node).1
  | _ => rw [HotplugQueue.nodeQueue, HotplugQueue.nodeQueue, (act_frame hact rfl).1]

theorem act_turn {oracle : Oracle} {q q' : HotplugQueue Fn} {t : ℕ} {op : Op Fn} {ans : op.Answer}
    (hact : act cfg oracle q t op = some (ans, q')) (node : String) :
    Turn cfg oracle.now (q.nodeQueue node).pending (appended node ⟨op, ans⟩) (taken node ⟨op, ans⟩)
      (q'.nodeQueue node).pending := by
  cases op with
  | enqueue asked =>
    rcases enqueue_joins_or_appends (Option.some.inj hact) with
      ⟨existing, rfl, rfl⟩ | ⟨req, rfl, rfl, hpending⟩
    · exact .keep
    · rw [hpending]
      simp only [appended, taken, eq_comm (a := node)]
      split
      · exact .append _
      · rw [append_nil]
        exact .keep
  | cancel id other =>
    obtain rfl : (q.cancel id other).2 = q' := congrArg Prod.snd (Option.some.inj hact)
    rw [cancel_pending]
    split
    · exact .cancel id
    · exact .keep
  | nextRequest other =>
    obtain ⟨htake, hother⟩ := next_take (Option.some.inj hact)
    simp only [appended, taken]
    split
    · rename_i hnode
      subst hnode
      generalize (q.nodeQueue other).pending = pending,
        (q'.nodeQueue other).pending = pending' at htake
      cases htake with
      | none => exact .keep
      | some hbefore hafter => exact .take rfl hbefore hafter
    · rename_i hnode
      rw [hother node (Ne.symm hnode)]
      exact .keep
  | _ =>
    rw [act_pending hact rfl]
    exact .keep

section Turns

variable {now : Int} {pending pending' : List (Request Fn)}
  {arrival departure : Option (Request Fn)}

theorem Turn.sublist {arrivals : List (Request Fn)}
    (h : Turn cfg now pending arrival departure pending') (hpending : pending <+ arrivals) :
    pending' <+ arrivals ++ arrival.toList := by
  cases h with
  | keep => simpa using hpending
  | cancel id => simpa using eraseP_sublist.trans hpending
  | append req => exact hpending.append_right [req]
  | @take before after req hsplit =>
    have hrest := (sublist_cons_self req after).append_left before
    rw [← hsplit] at hrest
    simpa using hrest.trans hpending

/-- While a request waits that is as urgent as any, only those ahead of it are taken. -/
theorem Turn.ahead {ahead behind : List (Request Fn)}
    (h : Turn cfg now pending arrival departure pending') (hboost : 0 < cfg.ageBoost)
    (hmatured : matures cfg req ≤ now) (hnodup : (pending.map Request.id).Nodup)
    (hsplit : pending = ahead ++ req :: behind) (hwaits : req ∈ pending') :
    ∃ ahead' behind', pending' = ahead' ++ req :: behind' ∧
      (departure.toList ++ ahead') <+~ ahead := by
  cases h with
  | keep => exact ⟨ahead, behind, hsplit, .refl _⟩
  | append other => exact ⟨ahead, behind ++ [other], by simp [hsplit], .refl _⟩
  | cancel id =>
    have hid := ((mem_eraseP_iff hnodup).1 hwaits).2
    rw [hsplit, eraseP_append]
    split
    · exact ⟨_, behind, rfl, eraseP_sublist.subperm⟩
    · rw [eraseP_cons_of_neg (by simpa using hid)]
      exact ⟨ahead, _, rfl, .refl _⟩
  | @take before after other hsplit' hbefore =>
    have hne : other ≠ req := by
      rintro rfl
      rw [hsplit', map_append, map_cons] at hnodup
      refine (nodup_cons.1 (perm_middle.nodup_iff.1 hnodup)).1 ?_
      rw [← map_append]
      exact mem_map_of_mem hwaits
    rcases append_eq_append_iff.1 (hsplit'.symm.trans hsplit) with
      ⟨mid, rfl, hmid⟩ | ⟨mid, rfl, hmid⟩
    · cases mid with
      | nil => exact (hne (cons.inj hmid).1).elim
      | cons head mid =>
        obtain ⟨rfl, rfl⟩ := cons.inj hmid
        have htaken : other :: (before ++ mid) ~ before ++ other :: mid := perm_middle.symm
        exact ⟨before ++ mid, behind, by simp, htaken.subperm⟩
    · cases mid with
      | nil => exact (hne (cons.inj hmid).1.symm).elim
      | cons head mid =>
        obtain ⟨rfl, -⟩ := cons.inj hmid
        have := hbefore req (by simp)
        rw [effectivePriority_of_matured hboost hmatured] at this
        exact absurd this (not_lt.2 (effectivePriority_nonneg hboost now))

end Turns

/-- A step, not before the given time, after which the request still waits at the node. -/
def WaitStep (cfg : Config) (now : Int) (node : String) (req : Request Fn) (s s' : QueuePool Fn) :
    Prop :=
  ∃ l : QueueStep Fn, (∀ t oracle, l = .act t oracle → now ≤ oracle.now) ∧
    (manager Fn cfg).step l s = some s' ∧ Pending s'.world node req

variable {s : QueuePool Fn}

/-- What waits at a node stands there in the order of arrival, and a worker takes the first of the
most urgent requests. From the time at which a request has waited for its age boosts on, as long as
it waits, what is taken from its node was ahead of it then. -/
theorem waiting_served_in_order (cfg : Config) (node : String)
    (hs : Reachable cfg (fun _ _ => True) s) :
    (s.world.nodeQueue node).pending <+ arrivals s node ∧
    (∀ now req q, s.world.next cfg node now = (some req, q) → ∃ before after,
      (s.world.nodeQueue node).pending = before ++ req :: after ∧
      (∀ other ∈ before, effectivePriority cfg req now < effectivePriority cfg other now) ∧
      ∀ other ∈ after, effectivePriority cfg req now ≤ effectivePriority cfg other now) ∧
    ∀ req ahead behind now s', (s.world.nodeQueue node).pending = ahead ++ req :: behind →
      0 < cfg.ageBoost → level req.priority * cfg.ageBoost ≤ now - req.enqueuedAt →
      Relation.ReflTransGen (WaitStep cfg now node req) s s' →
      ∃ overtaking ahead' behind', departures s' node = departures s node ++ overtaking ∧
        (s'.world.nodeQueue node).pending = ahead' ++ req :: behind' ∧
        (overtaking ++ ahead') <+~ ahead := by
  refine ⟨?_, fun now req q hnext => ?_, fun req ahead behind now s' hsplit hboost hwaited h => ?_⟩
  · induction hs with
    | initial hworld =>
      rw [hworld]
      exact nil_sublist _
    | step _ _ h ih => ?_
    rcases Machine.step_cases h with ⟨hstart⟩ |
      @⟨t, oracle, thread, op, next, ans, world, hthread, hprog, hact⟩ | @⟨c⟩
    · obtain ⟨starting, rfl⟩ := start_world hstart
      exact ih
    · rw [arrivals, Pool.advance, flatMap_append, flatMap_singleton]
      exact (act_turn hact node).sublist ih
    · cases c
  · rcases next_cases hnext with ⟨-, hnone, -⟩ | ⟨_, -, -, hnone, -⟩ |
      ⟨queue, before, taken, after, hqueue, hsplit, hbefore, hafter, htaken, -⟩
    · cases hnone
    · cases hnone
    · obtain rfl := Option.some.inj htaken
      exact ⟨before, after, by rw [nodeQueue_eq hqueue, hsplit], hbefore, hafter⟩
  · have hmatured : matures cfg req ≤ now := by
      rw [matures]
      omega
    suffices Reachable cfg (fun _ _ => True) s' ∧ ∃ overtaking ahead' behind',
        departures s' node = departures s node ++ overtaking ∧
        (s'.world.nodeQueue node).pending = ahead' ++ req :: behind' ∧
        (overtaking ++ ahead') <+~ ahead from this.2
    induction h with
    | refl => exact ⟨hs, [], ahead, behind, (append_nil _).symm, hsplit, .refl _⟩
    | @tail s' s'' _ hstep ih => ?_
    obtain ⟨l, hnow, hstep, hwaits⟩ := hstep
    obtain ⟨hs', overtaking, ahead', behind', hdepartures, hsplit', hsub⟩ := ih
    refine ⟨hs'.step trivial hstep, ?_⟩
    rcases Machine.step_cases hstep with ⟨hstart⟩ |
      @⟨t, oracle, thread, op, next, ans, world, hthread, hprog, hact⟩ | @⟨c⟩
    · obtain ⟨starting, rfl⟩ := start_world hstart
      exact ⟨overtaking, ahead', behind', hdepartures, hsplit', hsub⟩
    · obtain ⟨ahead'', behind'', hsplit'', hsub'⟩ := (act_turn hact node).ahead hboost
        (hmatured.trans (hnow t oracle rfl)) ((reachable_requests hs').nodup node) hsplit' hwaits
      refine ⟨overtaking ++ (taken node ⟨op, ans⟩).toList, ahead'', behind'', ?_, hsplit'', ?_⟩
      · rw [departures, Pool.advance, flatMap_append, flatMap_singleton, ← append_assoc,
          ← hdepartures]
        rfl
      · rw [append_assoc]
        exact ((subperm_append_left overtaking).2 hsub').trans hsub
    · cases c

/-! ### A request that has waited -/

/-- A background request waits between two critical ones and has waited for its age boosts. The
first one is taken ahead of it, and nothing else may be. -/
theorem matured_request_served_next :
    ∃ s s' : QueuePool Unit, Reachable defaultConfig (fun _ _ => True) s ∧
      (s.world.nodeQueue "n1").pending = [attachRequest 1 "a" .critical 180000000000 0,
        attachRequest 2 "b" .background 240000000000 1,
        attachRequest 3 "c" .critical 300000000000 2] ∧
      departures s' "n1" = [attachRequest 1 "a" .critical 180000000000 0] ∧
      ∃ overtaking ahead behind, departures s' "n1" = departures s "n1" ++ overtaking ∧
        (s'.world.nodeQueue "n1").pending =
          ahead ++ attachRequest 2 "b" .background 240000000000 1 :: behind ∧
        (overtaking ++ ahead) <+~ [attachRequest 1 "a" .critical 180000000000 0] := by
  have hrun : ∃ s ∈ (manager Unit defaultConfig).run (fun _ _ => true)
      (enqueueing [attachCall "a" .critical, attachCall "b" .background, attachCall "c" .critical])
      (Pool.initial HotplugQueue.new),
        (s.world.nodeQueue "n1").pending = [attachRequest 1 "a" .critical 180000000000 0,
          attachRequest 2 "b" .background 240000000000 1,
          attachRequest 3 "c" .critical 300000000000 2] ∧
        ∃ s₁ ∈ (manager Unit defaultConfig).step (.start (.worker "n1")) s,
          attachRequest 2 "b" .background 240000000000 1 ∈ (s₁.world.nodeQueue "n1").pending ∧
          ∃ s₂ ∈ (manager Unit defaultConfig).step (.act 3 { smooth with now := 60000000000 }) s₁,
            attachRequest 2 "b" .background 240000000000 1 ∈ (s₂.world.nodeQueue "n1").pending ∧
            departures s₂ "n1" = [attachRequest 1 "a" .critical 180000000000 0] := by
    decide +kernel
  obtain ⟨s, hs, hpending, s₁, hstart, hwaits₁, s₂, hact, hwaits₂, htaken⟩ :=
    reachable_of_run (fun _ _ _ => trivial) hrun
  have hsteps : Relation.ReflTransGen (WaitStep defaultConfig 60000000000 "n1"
      (attachRequest 2 "b" .background 240000000000 1)) s s₂ := by
    refine .tail (.single ⟨.start (.worker "n1"), fun _ _ h => (by cases h), hstart, hwaits₁⟩)
      ⟨.act 3 { smooth with now := 60000000000 }, fun t oracle h => ?_, hact, hwaits₂⟩
    cases h
    exact le_rfl
  exact ⟨s, s₂, hs, hpending, htaken, (waiting_served_in_order defaultConfig "n1" hs).2.2 _
    [attachRequest 1 "a" .critical 180000000000 0] _ 60000000000 s₂ hpending (by decide) (by decide)
    hsteps⟩

end OpenNebulaCSI.Queue
