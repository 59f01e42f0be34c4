import OpenNebulaCSI.Controller.Frames

/-!
# The queue along a run

What the log of a run says about the hotplug queue and the response variables, whatever the outside
world answers: request ids and response variables are given out once, results reported to waiters
are the ones stored, a nil result was reported by a worker, and every request a worker gets was
enqueued by its caller (`LogFacts`).

The second half is about the texts of the programs. `callerContract` says how a request record is
made and that a goroutine enqueues at most one of them; with it, a request is determined by its id
and by its response variable, and what a worker does for a request happens after the request's
caller was started.
-/

namespace OpenNebulaCSI.Controller

open Concurrency Program HotplugQueue List

abbrev Log :=
  List (ℕ × Event Op Op.Answer)

/-- The request was put into the queue by its caller. -/
def Enqueued (log : Log) (req : Request Closure) : Prop :=
  ∃ asked, (req.caller, ⟨.enqueue asked, (req, false)⟩) ∈ log

/-- The event tells a waiter the result of a request. -/
def Tells (event : Event Op Op.Answer) (id : ℕ) (err : Option GoError) : Prop :=
  event = ⟨.awaitDone id, err⟩ ∨ event = ⟨.selectStarted id, .done err⟩ ∨
    event = ⟨.selectDone id, .done err⟩

/-- A goroutine was told the result of a request. -/
def Told (past : History) (id : ℕ) (err : Option GoError) : Prop :=
  ∃ event ∈ past, Tells event id err

/-- The worker with this history has taken the request from the queue. -/
def Serves (past : History) (req : Request Closure) : Prop :=
  ∃ node, ⟨.nextRequest node, some req⟩ ∈ past

variable {past : History} {req : Request Closure}

theorem Serves.mono {later : History} (h : Serves past req) (hsub : past ⊆ later) :
    Serves later req := by
  obtain ⟨node, hmem⟩ := h
  exact ⟨node, hsub hmem⟩

variable {log : Log}

theorem Enqueued.mono {log' : Log} (h : Enqueued log req) (hsub : log ⊆ log') :
    Enqueued log' req := by
  obtain ⟨asked, hmem⟩ := h
  exact ⟨asked, hsub hmem⟩

/-! ## The answer of the queue -/

/-- The queue has answered nil to a caller that handed it the function. -/
def AnsweredNil (past : History) (fn : Closure) : Prop :=
  ∃ asked queued coalesced, asked.fn = fn ∧ asked.node = fn.node ∧ asked.operation = fn.operation ∧
    asked.volume = fn.volume ∧ ⟨.enqueue asked, (queued, coalesced)⟩ ∈ past ∧
    Told past queued.id none

theorem AnsweredNil.append {fn : Closure} (h : AnsweredNil past fn) (event : Event Op Op.Answer) :
    AnsweredNil (past ++ [event]) fn := by
  obtain ⟨asked, queued, coalesced, hfn, hnode, hop, hvol, hmem, told, htold, htells⟩ := h
  exact ⟨asked, queued, coalesced, hfn, hnode, hop, hvol, mem_append_left _ hmem, told,
    mem_append_left _ htold, htells⟩

/-- Operations of a goroutine that waits for the queue. -/
def Op.OfWaiter : Op → Prop
  | .query _ | .nextRequestID | .enqueue _ | .selectStarted _ | .selectDone _ | .awaitDone _
  | .cancel _ _ => True
  | _ => False

theorem hotplugQueueRun_answeredNil {C : Contract Op Op.Answer}
    (hguar : ∀ past op, op.OfWaiter → C.guar past op) (cfg : Config) (fn : Closure)
    (priority : Priority) (hnode : fn.node ≠ "") :
    (hotplugQueueRun cfg fn.node fn.operation fn.volume priority fn).Meets C
      (fun later err => err = none → AnsweredNil later fn) past := by
  rw [hotplugQueueRun, if_neg hnode]
  refine .perform (hguar _ _ trivial) fun id _ => .perform (hguar _ _ trivial) fun now _ =>
    .perform (hguar _ _ trivial) fun result _ => ?_
  obtain ⟨queued, coalesced⟩ := result
  simp only
  split
  · refine .perform (hguar _ _ trivial) fun signal _ => ?_
    cases signal with
    | done err =>
      refine meets_pure.2 ?_
      rintro rfl
      exact ⟨_, queued, coalesced, rfl, rfl, rfl, rfl,
        mem_append_left _ (mem_append_right _ (mem_singleton_self _)),
        ⟨.selectDone queued.id, .done none⟩, by simp, .inr (.inr rfl)⟩
    | _ => exact meets_pure.2 (by simp)
  · refine .perform (hguar _ _ trivial) fun signal _ => ?_
    cases signal with
    | started =>
      refine meets_perform.2 ⟨hguar _ _ trivial, ?_⟩
      rintro _ - rfl
      exact ⟨_, queued, coalesced, rfl, rfl, rfl, rfl, mem_append_left _
        (mem_append_left _ (mem_append_right _ (mem_singleton_self _))),
        ⟨.awaitDone queued.id, none⟩, by simp, .inl rfl⟩
    | done err =>
      refine meets_pure.2 ?_
      rintro rfl
      exact ⟨_, queued, coalesced, rfl, rfl, rfl, rfl,
        mem_append_left _ (mem_append_right _ (mem_singleton_self _)),
        ⟨.selectStarted queued.id, .done none⟩, by simp, .inr (.inl rfl)⟩
    | expired =>
      refine .perform (hguar _ _ trivial) fun cancelled _ => ?_
      split
      · exact meets_pure.2 (by simp)
      refine meets_perform.2 ⟨hguar _ _ trivial, ?_⟩
      rintro _ - rfl
      exact ⟨_, queued, coalesced, rfl, rfl, rfl, rfl, mem_append_left _
        (mem_append_left _ (mem_append_left _ (mem_append_right _ (mem_singleton_self _)))),
        ⟨.awaitDone queued.id, none⟩, by simp, .inl rfl⟩

/-! ## What only grows -/

variable {slot : ℕ}

section Act

variable {cfg : Config} {oracle : Oracle} {w w' : World} {t : ℕ} {op : Op} {ans : op.Answer}
  (hact : act cfg oracle w t op = some (ans, w'))

include hact

theorem act_seq_le : w.queue.seq ≤ w'.queue.seq := by
  by_cases hqueue : op.changes = some .queue
  · cases op with
    | nextRequestID => cases hact; exact Nat.le_succ _
    | enqueue req =>
      obtain ⟨-, rfl⟩ := answer_inj hact
      exact enqueue_seq.ge
    | cancel id node =>
      obtain ⟨-, rfl⟩ := answer_inj hact
      exact cancel_seq.ge
    | nextRequest node =>
      obtain ⟨-, rfl⟩ := answer_inj hact
      exact next_seq.ge
    | complete id err =>
      obtain ⟨-, rfl⟩ := answer_inj hact
      exact complete_seq.ge
    | closeStarted id => cases hact; exact Nat.le_refl _
    | finish node id => cases hact; exact Nat.le_refl _
    | _ => cases hqueue
  · rw [act_queue hact hqueue]

variable {id : ℕ}

/-- A result is written once, and a nil one only by a worker that reports it. -/
theorem act_done_cases (id : ℕ) :
    w'.queue.done id = w.queue.done id ∨
      (w.queue.done id = none ∧ ∃ err, w'.queue.done id = some err ∧
        (err = none → op = .complete id none)) := by
  by_cases hqueue : op.changes = some .queue
  · cases op with
    | enqueue req =>
      obtain ⟨-, rfl⟩ := answer_inj hact
      exact .inl (congrFun enqueue_done id)
    | nextRequest node =>
      obtain ⟨-, rfl⟩ := answer_inj hact
      exact .inl (congrFun next_done id)
    | cancel id' node =>
      obtain ⟨-, rfl⟩ := answer_inj hact
      exact (cancel_done_cases id' id).imp_right fun ⟨hnone, err, hnew⟩ =>
        ⟨hnone, _, hnew, by simp⟩
    | complete id' err' =>
      obtain ⟨-, rfl⟩ := answer_inj hact
      refine (complete_done_cases w.queue id' id err').imp_right fun ⟨hid, hnone, hnew⟩ =>
        ⟨hnone, err', hnew, ?_⟩
      rintro rfl
      rw [hid]
    | nextRequestID => cases hact; exact .inl rfl
    | closeStarted id => cases hact; exact .inl rfl
    | finish node id => cases hact; exact .inl rfl
    | _ => cases hqueue
  · exact .inl (by rw [act_queue hact hqueue])

theorem act_responses_length_le : w.responses.length ≤ w'.responses.length := by
  by_cases hresponses : op.changes = some .responses
  · cases op with
    | newResponse => cases hact; simp
    | setResponse slot response => cases hact; simp
    | _ => cases hresponses
  · rw [act_responses hact hresponses]

theorem act_response_cases (slot : ℕ) :
    w'.responses[slot]? = w.responses[slot]? ∨ w'.responses[slot]? = some none ∧
      w.responses[slot]? = none ∨ ∃ response, op = .setResponse slot response ∧
        w'.responses[slot]? = w.responses[slot]?.map fun _ => some response := by
  by_cases hresponses : op.changes = some .responses
  · cases op with
    | newResponse =>
      cases hact
      rcases Nat.lt_trichotomy slot w.responses.length with hlt | rfl | hgt
      · exact .inl (getElem?_append_left hlt)
      · exact .inr (.inl (by simp))
      · have hnew : (w.responses ++ [none])[slot]? = none :=
          getElem?_eq_none (by rw [length_append]; exact hgt)
        exact .inl (hnew.trans (getElem?_eq_none hgt.le).symm)
    | setResponse slot' response' =>
      cases hact
      by_cases hslot : slot' = slot
      · subst hslot
        exact .inr (.inr ⟨response', rfl, getElem?_set_self'⟩)
      · exact .inl (getElem?_set_ne hslot)
    | _ => cases hresponses
  · exact .inl (by rw [act_responses hact hresponses])

theorem act_tells {err : Option GoError} (htells : Tells ⟨op, ans⟩ id err) :
    w'.queue.done id = some err := by
  rcases htells with hevent | hevent | hevent <;> cases hevent
  · obtain ⟨_, hdone, h⟩ := Option.map_eq_some_iff.1 hact
    cases h
    exact hdone
  · simp only [act] at hact
    split at hact
    · cases hact
    · split at hact <;> cases hact
    obtain ⟨_, hdone, h⟩ := Option.map_eq_some_iff.1 hact
    cases h
    exact hdone
  · simp only [act] at hact
    split at hact
    · cases hact
    obtain ⟨_, hdone, h⟩ := Option.map_eq_some_iff.1 hact
    cases h
    exact hdone

/-- A request in the queue is one that has just been accepted, or an old one. -/
theorem act_holds {node : String} (hholds : w'.queue.Holds node req) :
    w.queue.Holds node req ∨
      ∃ asked, (⟨op, ans⟩ : Event Op Op.Answer) = ⟨.enqueue asked, (req, false)⟩ ∧
        node = req.node ∧ req.caller = t := by
  by_cases hqueue : op.changes = some .queue
  · cases op with
    | enqueue asked =>
      obtain ⟨rfl, rfl⟩ := by simpa only [act, Option.some.injEq, Prod.mk.injEq] using hact
      rcases hholds.of_enqueue with hold | ⟨rfl, hnew⟩
      · exact .inl hold
      rcases enqueue_cases cfg w.queue { asked with caller := t } with
        ⟨_, -, hdup⟩ | ⟨-, waitLimit, hself⟩
      · cases hdup.symm.trans hnew
      · obtain rfl := (Prod.mk.inj (hself.symm.trans hnew)).1
        exact .inr ⟨asked, by rw [hnew], rfl, rfl⟩
    | cancel id node' =>
      obtain ⟨-, rfl⟩ := answer_inj hact
      exact .inl hholds.of_cancel
    | nextRequest node' =>
      obtain ⟨-, rfl⟩ := answer_inj hact
      exact .inl hholds.of_next
    | complete id err =>
      obtain ⟨-, rfl⟩ := answer_inj hact
      exact .inl (holds_complete.1 hholds)
    | finish node' id =>
      obtain ⟨-, rfl⟩ := answer_inj hact
      exact .inl hholds.of_finish
    | nextRequestID => cases hact; exact .inl hholds
    | closeStarted id => cases hact; exact .inl hholds
    | _ => cases hqueue
  · rw [act_queue hact hqueue] at hholds
    exact .inl hholds

end Act

/-! ## What the log says about the shared state -/

structure LogFacts (w : World) (log : Log) : Prop where
  /-- Request ids are given out once. -/
  requestID_le : ∀ c id, (c, ⟨.nextRequestID, id⟩) ∈ log → id ≤ w.queue.seq
  requestID_unique : ∀ c c' id, (c, ⟨.nextRequestID, id⟩) ∈ log →
    (c', ⟨.nextRequestID, id⟩) ∈ log → c = c'
  /-- Response variables are given out once. -/
  slot_lt : ∀ c slot, (c, ⟨.newResponse, slot⟩) ∈ log → slot < w.responses.length
  slot_unique : ∀ c c' slot, (c, ⟨.newResponse, slot⟩) ∈ log →
    (c', ⟨.newResponse, slot⟩) ∈ log → c = c'
  /-- Waiters are told the stored result. -/
  told : ∀ t event id err, (t, event) ∈ log → Tells event id err → w.queue.done id = some err
  /-- Nil results were reported by a call of `complete`. -/
  done_nil : ∀ id, w.queue.done id = some none → ∃ t, (t, ⟨.complete id none, ()⟩) ∈ log
  stored : ∀ (slot : ℕ) response, w.responses[slot]? = some (some response) →
    ∃ t, (t, ⟨.setResponse slot response, ()⟩) ∈ log
  /-- Requests in the queue were accepted from their caller. -/
  held : ∀ node req, w.queue.Holds node req → node = req.node ∧ Enqueued log req
  dispatched : ∀ t node req, (t, ⟨.nextRequest node, some req⟩) ∈ log →
    node = req.node ∧ Enqueued log req
  accepted : ∀ t asked req, (t, ⟨.enqueue asked, (req, false)⟩) ∈ log →
    ∃ waitLimit, req = { asked with waitLimit, caller := t }
  joined : ∀ t asked req, (t, ⟨.enqueue asked, (req, true)⟩) ∈ log →
    Enqueued log req ∧ req.node = asked.node ∧ req.operation = asked.operation ∧
      req.volume = asked.volume

theorem initial_logFacts {w : World} (hw : Fresh w) : LogFacts w [] := by
  obtain ⟨entries, rfl⟩ := hw
  constructor
  case done_nil => intro id hid; cases hid
  case stored => intro slot response h; simp at h
  case held => exact fun node req h => (not_holds_new h).elim
  all_goals simp

variable {t : ℕ} {op : Op} {ans : op.Answer}

theorem mem_log_append {c : ℕ} {event : Event Op Op.Answer}
    (h : (c, event) ∈ log ++ [(t, ⟨op, ans⟩)]) :
    (c, event) ∈ log ∨ (c = t ∧ event = ⟨op, ans⟩) := by
  simpa using h

variable {cfg : Config}

theorem act_logFacts {oracle : Oracle} {w w' : World} (hlog : LogFacts w log)
    (hact : act cfg oracle w t op = some (ans, w')) : LogFacts w' (log ++ [(t, ⟨op, ans⟩)]) := by
  have hsub : log ⊆ log ++ [(t, ⟨op, ans⟩)] := subset_append_left _ _
  have hlast : (t, (⟨op, ans⟩ : Event Op Op.Answer)) ∈ log ++ [(t, ⟨op, ans⟩)] := by simp
  constructor
  case requestID_le =>
    intro c id hmem
    rcases mem_log_append hmem with hold | ⟨rfl, hnew⟩
    · exact (hlog.requestID_le c id hold).trans (act_seq_le hact)
    cases hnew
    cases hact
    exact Nat.le_refl _
  case requestID_unique =>
    intro c c' id hmem hmem'
    rcases mem_log_append hmem with hold | ⟨rfl, hnew⟩ <;>
      rcases mem_log_append hmem' with hold' | ⟨rfl, hnew'⟩
    · exact hlog.requestID_unique c c' id hold hold'
    · cases hnew'
      cases hact
      exact absurd (hlog.requestID_le c _ hold) (by omega)
    · cases hnew
      cases hact
      exact absurd (hlog.requestID_le c' _ hold') (by omega)
    · rfl
  case slot_lt =>
    intro c slot hmem
    rcases mem_log_append hmem with hold | ⟨rfl, hnew⟩
    · exact (hlog.slot_lt c slot hold).trans_le (act_responses_length_le hact)
    cases hnew
    cases hact
    simp
  case slot_unique =>
    intro c c' slot hmem hmem'
    rcases mem_log_append hmem with hold | ⟨rfl, hnew⟩ <;>
      rcases mem_log_append hmem' with hold' | ⟨rfl, hnew'⟩
    · exact hlog.slot_unique c c' slot hold hold'
    · cases hnew'
      cases hact
      exact absurd (hlog.slot_lt c _ hold) (by omega)
    · cases hnew
      cases hact
      exact absurd (hlog.slot_lt c' _ hold') (by omega)
    · rfl
  case told =>
    intro c event id err hmem htells
    rcases mem_log_append hmem with hold | ⟨rfl, rfl⟩
    · have hdone := hlog.told c event id err hold htells
      rcases act_done_cases hact id with hsame | ⟨hnone, -⟩
      · exact hsame.trans hdone
      · cases hnone.symm.trans hdone
    · exact act_tells hact htells
  case done_nil =>
    intro id hdone
    rcases act_done_cases hact id with hsame | ⟨-, err, hnew, hop⟩
    · obtain ⟨c, hmem⟩ := hlog.done_nil id (hsame.symm.trans hdone)
      exact ⟨c, hsub hmem⟩
    · cases hop (Option.mem_unique hnew hdone)
      exact ⟨t, hlast⟩
  case stored =>
    intro slot response hstored
    rcases act_response_cases hact slot with hsame | ⟨hnew, -⟩ | ⟨response', rfl, hset⟩
    · obtain ⟨c, hmem⟩ := hlog.stored slot response (hsame.symm.trans hstored)
      exact ⟨c, hsub hmem⟩
    · cases hnew.symm.trans hstored
    · obtain ⟨_, -, hresponse⟩ := Option.map_eq_some_iff.1 (hset.symm.trans hstored)
      cases hresponse
      exact ⟨t, hlast⟩
  case held =>
    intro node req hholds
    rcases act_holds hact hholds with hold | ⟨asked, hevent, hnode, rfl⟩
    · obtain ⟨hnode, henq⟩ := hlog.held node req hold
      exact ⟨hnode, henq.mono hsub⟩
    · exact ⟨hnode, asked, by rw [← hevent]; exact hlast⟩
  case dispatched =>
    intro c node req hmem
    rcases mem_log_append hmem with hold | ⟨rfl, hnew⟩
    · obtain ⟨hnode, henq⟩ := hlog.dispatched c node req hold
      exact ⟨hnode, henq.mono hsub⟩
    cases hnew
    obtain ⟨hans, -⟩ := answer_inj hact
    obtain ⟨hnode, henq⟩ := hlog.held node req (holds_of_next hans)
    exact ⟨hnode, henq.mono hsub⟩
  case accepted =>
    intro c asked req hmem
    rcases mem_log_append hmem with hold | ⟨rfl, hnew⟩
    · exact hlog.accepted c asked req hold
    cases hnew
    obtain ⟨hans, -⟩ := answer_inj hact
    rcases enqueue_cases cfg w.queue { asked with caller := c } with
      ⟨_, -, hdup⟩ | ⟨-, waitLimit, hself⟩
    · cases hdup.symm.trans hans
    · exact ⟨waitLimit, (Prod.mk.inj (hself.symm.trans hans)).1.symm⟩
  case joined =>
    intro c asked req hmem
    rcases mem_log_append hmem with hold | ⟨rfl, hnew⟩
    · obtain ⟨henq, hsame⟩ := hlog.joined c asked req hold
      exact ⟨henq.mono hsub, hsame⟩
    cases hnew
    obtain ⟨hans, -⟩ := answer_inj hact
    rcases enqueue_cases cfg w.queue { asked with caller := c } with
      ⟨existing, hexisting, hdup⟩ | ⟨-, waitLimit, hself⟩
    · obtain rfl : existing = req := (Prod.mk.inj (hdup.symm.trans hans)).1
      obtain ⟨hholds, hsame⟩ := holds_of_duplicate hexisting
      refine ⟨(hlog.held _ _ hholds).2.mono hsub, ?_⟩
      simpa [HotplugQueue.sameQueueRequest, and_assoc] using hsame
    · cases hself.symm.trans hans

theorem reachable_logFacts {ok : ControllerPool → ControllerStep → Prop} {s : ControllerPool}
    (hs : Reachable cfg ok s) : LogFacts s.world s.log := by
  induction hs with
  | initial hw => exact initial_logFacts hw
  | step _ _ h ih =>
    rcases Machine.step_cases h with ⟨hstart⟩ | @⟨t, oracle, thread, op, next, ans, w, -, -, hact⟩ |
      @⟨c, w, hchange⟩
    · obtain ⟨-, starting, rfl⟩ := start_frame hstart
      exact { ih with }
    · exact act_logFacts ih hact
    cases c
    cases hchange
    exact { ih with }

/-! ## How requests are made -/

/-- The record of a request agrees with the function it carries. -/
def Request.Consistent (req : Request Closure) : Prop :=
  req.node = req.fn.node ∧ req.operation = req.fn.operation ∧ req.volume = req.fn.volume

/-- No request has been handed to the queue. -/
def NotEnqueued (past : History) : Prop :=
  ∀ asked ans, (⟨.enqueue asked, ans⟩ : Event Op Op.Answer) ∉ past

/-- The response variable is the goroutine's own, or that of the request it serves. -/
def MayWrite (past : History) (slot : ℕ) : Prop :=
  ⟨.newResponse, slot⟩ ∈ past ∨ ∃ req, Serves past req ∧ req.fn.slot? = some slot

/-- A goroutine enqueues at most one request, made for its kind with a fresh id and a response
variable of its own; a worker begins by asking for its request. -/
def callerContract (kind : Kind) : Contract Op Op.Answer where
  rely _ _ _ := True
  guar past op :=
    match op with
    | .enqueue req =>
      ⟨.nextRequestID, req.id⟩ ∈ past ∧ NotEnqueued past ∧ kind.Hands req.fn ∧ req.Consistent ∧
        ∀ slot, req.fn.slot? = some slot → ⟨.newResponse, slot⟩ ∈ past
    | .nextRequest _ => past = []
    | .setResponse slot _ => MayWrite past slot
    | _ => True

variable {α : Type} {kind : Kind}

theorem MayWrite.append (h : MayWrite past slot) (event : Event Op Op.Answer) :
    MayWrite (past ++ [event]) slot := by
  rcases h with hown | ⟨req, hserves, hslot⟩
  · exact .inl (mem_append_left _ hown)
  · exact .inr ⟨req, hserves.mono (subset_append_left _ _), hslot⟩

theorem NotEnqueued.append (h : NotEnqueued past) (hop : ∀ asked, op ≠ .enqueue asked) :
    NotEnqueued (past ++ [⟨op, ans⟩]) := by
  intro asked ans' hmem
  rcases mem_append.1 hmem with hold | hnew
  · exact h asked ans' hold
  · cases mem_singleton.1 hnew
    exact hop asked rfl

variable {p : Prog α}

theorem quiet_meets_callerContract (hp : p.Only Op.Quiet) (hpast : NotEnqueued past) :
    p.Meets (callerContract kind) (fun later _ => NotEnqueued later) past := by
  refine hp.meets hpast (fun h op hop _ => ?_) fun h op ans hop hframe => hframe.append ?_
  · cases op <;> trivial
  · rintro asked rfl
    exact hop

theorem quiet_meets_callerContract_after (hp : p.Only Op.Quiet) :
    p.Meets (callerContract kind) (fun _ _ => True) past := by
  refine hp.meets trivial (fun h op hop _ => ?_) fun _ _ _ _ _ => trivial
  cases op <;> trivial

theorem inside_meets_callerContract {slot? : Option ℕ} (hp : p.Only (Op.Inside slot?))
    (hslot : ∀ slot, slot? = some slot → MayWrite past slot) :
    p.Meets (callerContract kind) (fun later _ => ∀ slot, slot? = some slot → MayWrite later slot)
      past := by
  refine hp.meets hslot (fun h op hop hframe => ?_) fun h op ans _ hframe slot hsome =>
    (hframe slot hsome).append _
  cases op <;> first | trivial | exact hframe _ hop

theorem hotplugQueueRun_meets_callerContract (cfg : Config) (fn : Closure) (priority : Priority)
    (hhands : kind.Hands fn) (hpast : NotEnqueued past)
    (hslot : ∀ slot, fn.slot? = some slot → ⟨.newResponse, slot⟩ ∈ past) :
    (hotplugQueueRun cfg fn.node fn.operation fn.volume priority fn).Meets (callerContract kind)
      (fun _ _ => True) past := by
  unfold hotplugQueueRun
  split
  · exact (inside_meets_callerContract (fn.inside_body cfg) fun slot h => .inl (hslot slot h)).mono
      fun _ _ _ => trivial
  refine .perform trivial fun id _ => .perform trivial fun now _ => .perform ?_ fun result _ => ?_
  · refine ⟨by simp, ?_, hhands, ⟨rfl, rfl, rfl⟩, fun slot h => ?_⟩
    · exact (hpast.append (by simp)).append (by simp)
    · exact mem_append_left _ (mem_append_left _ (hslot slot h))
  · obtain ⟨req, coalesced⟩ := result
    simp only
    split
    · refine .perform trivial fun signal _ => ?_
      cases signal <;> exact meets_pure.2 trivial
    refine .perform trivial fun signal _ => ?_
    cases signal with
    | started => exact meets_perform.2 ⟨trivial, fun _ _ => trivial⟩
    | done err => exact meets_pure.2 trivial
    | expired => ?_
    refine .perform trivial fun cancelled _ => ?_
    split
    · exact meets_pure.2 trivial
    · exact meets_perform.2 ⟨trivial, fun _ _ => trivial⟩

theorem withQueuedHotplug_meets_callerContract (cfg : Config) (fn : Closure) (priority : Priority)
    (hhands : kind.Hands fn) (hpast : NotEnqueued past)
    (hslot : ∀ slot, fn.slot? = some slot → ⟨.newResponse, slot⟩ ∈ past) :
    (withQueuedHotplug cfg fn.node fn.operation fn.volume priority fn).Meets (callerContract kind)
      (fun _ _ => True) past := by
  unfold withQueuedHotplug
  split
  · exact hotplugQueueRun_meets_callerContract cfg fn priority hhands hpast hslot
  · exact (inside_meets_callerContract (fn.inside_body cfg) fun slot h => .inl (hslot slot h)).mono
      fun _ _ _ => trivial

theorem QueueClient.meets_callerContract (hp : QueueClient cfg kind.Hands p)
    (hpast : NotEnqueued past) : p.Meets (callerContract kind) (fun _ _ => True) past := by
  induction hp generalizing past with
  | quiet hp => exact quiet_meets_callerContract_after hp
  | bind hp _ ih =>
    exact (quiet_meets_callerContract hp hpast).bind fun _ value h => ih value h
  | queued fn hhands hslot hrest =>
    refine (withQueuedHotplug_meets_callerContract cfg fn _ hhands hpast ?_).bind
      fun _ err _ => quiet_meets_callerContract_after (hrest err)
    simp [hslot]
  | publish hhands hrest =>
    refine .perform trivial fun slot _ => meets_bind.2 ?_
    refine (withQueuedHotplug_meets_callerContract cfg (.publish _ _ _ slot) _ (hhands slot)
      (hpast.append (by simp)) ?_).mono fun _ err _ =>
        quiet_meets_callerContract_after (hrest slot err)
    rintro _ ⟨⟩
    simp

theorem inside_runRequest (cfg : Config) (req : Request Closure) :
    (runRequest cfg req).Only (Op.Inside req.fn.slot?) := by
  have hrun : (runFunction cfg req).Only (Op.Inside req.fn.slot?) := by
    refine (req.fn.inside_body cfg).bind fun answer => ?_
    split
    · split <;> exact only_pure
    · exact only_pure
    · refine Only.perform trivial fun expired => ?_
      split <;> exact only_pure
  unfold runRequest
  split
  · refine (inside_of_still (still_validateHotplugQueueRequest _ _ _ _)).bind fun validation => ?_
    cases validation with
    | valid => exact hrun
    | _ => exact only_pure
  · exact hrun

theorem runNodeQueue_meets_callerContract (cfg : Config) (node : String) :
    (runNodeQueue cfg node).Meets (callerContract kind) (fun _ _ => True) [] := by
  unfold runNodeQueue
  simp only [meets_bind, meets_perform, nil_append]
  refine ⟨rfl, fun next _ => ?_⟩
  cases next with
  | none => exact meets_pure.2 trivial
  | some req => ?_
  simp only [meets_bind, meets_perform]
  refine ⟨trivial, fun _ _ => (inside_meets_callerContract (inside_runRequest cfg req) ?_).mono
    fun later err _ => ⟨trivial, fun _ _ => ⟨trivial, fun _ _ => trivial⟩⟩⟩
  exact fun slot hslot => .inr ⟨req, ⟨node, by simp⟩, hslot⟩

theorem inside_controllerExpandVolume (cfg : Config) (req : ExpandRequest) :
    (controllerExpandVolume cfg req).Only (Op.Inside none) := by
  have hquery (q : Query) : (query q).Only (Op.Inside none) := only_perform.2 trivial
  unfold controllerExpandVolume
  split
  · exact only_pure
  split
  · exact only_pure
  split
  · split
    · exact only_pure
    split
    · exact only_pure
    · refine (hquery _).bind fun answer => ?_
      cases answer <;> exact only_pure
  · refine inside_locked ((hquery _).bind fun answer => ?_)
    cases answer <;> exact only_pure

theorem Kind.meets_callerContract (cfg : Config) (kind : Kind) :
    (kind.program cfg).Meets (callerContract kind) (fun _ _ => True) [] := by
  cases kind with
  | expand req =>
    refine (inside_meets_callerContract ((inside_controllerExpandVolume cfg req).bind fun _ =>
      only_pure) ?_).mono fun _ _ _ => trivial
    simp
  | worker node =>
    exact (runNodeQueue_meets_callerContract cfg node).bind fun _ _ _ =>
      meets_pure.2 trivial
  | _ =>
    refine (Kind.queueClient cfg (by simp) (by simp)).meets_callerContract ?_
    simp [NotEnqueued]

/-! ## What a request is known by -/

section Reachable

variable {ok : ControllerPool → ControllerStep → Prop} {s : ControllerPool}

theorem reachable_kept_callerContract (hs : Reachable cfg ok s) : s.Kept callerContract := by
  have hstart : ∀ w kind prog w', (controller cfg).start w kind = some (prog, w') →
      prog.Meets (callerContract kind) (fun _ _ => True) [] := by
    intro w kind prog w' hstart
    rw [(start_frame hstart).1]
    exact kind.meets_callerContract cfg
  exact (hs.conforms_and_kept hstart fun _ _ _ _ _ _ _ _ _ _ _ _ _ => trivial).2

theorem Enqueued.made (hs : Reachable cfg ok s) (h : Enqueued s.log req) :
    ∃ thread, s.threads[req.caller]? = some thread ∧ thread.kind.Hands req.fn ∧ req.Consistent ∧
      (req.caller, ⟨.nextRequestID, req.id⟩) ∈ s.log ∧
      ∀ slot, req.fn.slot? = some slot → (req.caller, ⟨.newResponse, slot⟩) ∈ s.log := by
  obtain ⟨asked, hmem⟩ := h
  obtain ⟨waitLimit, hreq⟩ := (reachable_logFacts hs).accepted _ asked req hmem
  obtain ⟨thread, past, rest, hthread, hsplit, ⟨hid, -, hhands, hcons, hslot⟩, -⟩ :=
    (reachable_kept_callerContract hs).of_mem hs.wellFormed hmem
  have hpast : ∀ event ∈ past, (req.caller, event) ∈ s.log := fun event hevent =>
    Pool.mem_history.1 (hsplit ▸ mem_append_left _ hevent)
  rw [hreq] at hpast hthread ⊢
  exact ⟨thread, hthread, hhands, hcons, hpast _ hid, fun slot h => hpast _ (hslot slot h)⟩

theorem enqueue_unique {c : ℕ} {asked asked' : Request Closure} {ans ans' : Request Closure × Bool}
    (hs : Reachable cfg ok s) (h : (c, ⟨.enqueue asked, ans⟩) ∈ s.log)
    (h' : (c, ⟨.enqueue asked', ans'⟩) ∈ s.log) : asked = asked' ∧ ans = ans' := by
  obtain ⟨thread, past, rest, hthread, hsplit, ⟨-, hfirst, -⟩, -⟩ :=
    (reachable_kept_callerContract hs).of_mem hs.wellFormed h
  have hmem' := hsplit ▸ Pool.mem_history.2 h'
  rcases mem_append.1 hmem' with hpast | hrest
  · exact absurd hpast (hfirst asked' ans')
  rcases mem_cons.1 hrest with hsame | hlater
  · cases hsame
    exact ⟨rfl, rfl⟩
  -- The other call came later, and then this one is in its past.
  obtain ⟨mid, last, rfl⟩ := append_of_mem hlater
  have hsplit' : s.history c = (past ++ ⟨.enqueue asked, ans⟩ :: mid) ++
      ⟨.enqueue asked', ans'⟩ :: last := by simpa using hsplit
  obtain ⟨⟨-, hfirst', -⟩, -⟩ := (reachable_kept_callerContract hs) c thread _ _ _ hthread hsplit'
  exact absurd (by simp) (hfirst' asked ans)

variable {req' : Request Closure}

theorem Enqueued.eq_of_caller (hs : Reachable cfg ok s) (h : Enqueued s.log req)
    (h' : Enqueued s.log req') (hcaller : req.caller = req'.caller) : req = req' := by
  obtain ⟨asked, hmem⟩ := h
  obtain ⟨asked', hmem'⟩ := h'
  rw [hcaller] at hmem
  exact (Prod.mk.inj (enqueue_unique hs hmem hmem').2).1

theorem Enqueued.eq_of_id (hs : Reachable cfg ok s) (h : Enqueued s.log req)
    (h' : Enqueued s.log req') (hid : req.id = req'.id) : req = req' := by
  obtain ⟨-, -, -, -, hmem, -⟩ := h.made hs
  obtain ⟨-, -, -, -, hmem', -⟩ := h'.made hs
  rw [← hid] at hmem'
  exact h.eq_of_caller hs h' ((reachable_logFacts hs).requestID_unique _ _ _ hmem hmem')

theorem Enqueued.eq_of_slot (hs : Reachable cfg ok s) (h : Enqueued s.log req)
    (h' : Enqueued s.log req') (hslot : req.fn.slot? = some slot)
    (hslot' : req'.fn.slot? = some slot) : req = req' := by
  obtain ⟨-, -, -, -, -, hmem⟩ := h.made hs
  obtain ⟨-, -, -, -, -, hmem'⟩ := h'.made hs
  exact h.eq_of_caller hs h'
    ((reachable_logFacts hs).slot_unique _ _ _ (hmem slot hslot) (hmem' slot hslot'))

theorem Enqueued.started (hs : Reachable cfg ok s) (h : Enqueued s.log req) :
    ∃ thread, s.threads[req.caller]? = some thread := by
  obtain ⟨asked, hmem⟩ := h
  exact hs.wellFormed.started hmem

theorem Serves.enqueued (hs : Reachable cfg ok s) (h : Serves (s.history t) req) :
    Enqueued s.log req := by
  obtain ⟨node, hmem⟩ := h
  exact ((reachable_logFacts hs).dispatched t node req (Pool.mem_history.1 hmem)).2

/-- What a worker does for a request, it does after the start of the request's caller. -/
theorem Serves.since {event : Event Op Op.Answer} (hs : Reachable cfg ok s)
    (hserves : Serves (s.history t) req) (hevent : (t, event) ∈ s.log) :
    (t, event) ∈ s.since req.caller := by
  obtain ⟨node, hserved⟩ := hserves
  rw [Pool.mem_history] at hserved
  induction hs with
  | initial hw => cases hevent
  | @step s s' l hs hok h ih =>
    have hreach : Reachable cfg ok s' := hs.step hok h
    rcases Machine.step_cases h with ⟨-⟩ |
      @⟨t', oracle, thread, op, next, ans, w, hthread, -, hact⟩ | ⟨-⟩
    · obtain ⟨-, henq⟩ := (reachable_logFacts hs).dispatched t node req hserved
      obtain ⟨caller, hcaller⟩ := henq.started hs
      rw [Pool.since_spawn hcaller]
      exact ih hevent hserved
    · rcases mem_log_append hserved with hold | ⟨rfl, hnew⟩
      · obtain ⟨-, henq⟩ := (reachable_logFacts hs).dispatched t node req hold
        obtain ⟨caller, hcaller⟩ := henq.started hs
        rw [Pool.since_advance hs.wellFormed hthread hcaller]
        rcases mem_log_append hevent with hold' | ⟨rfl, rfl⟩
        · exact mem_append_left _ (ih hold' hold)
        · exact mem_append_right _ (mem_singleton_self _)
      · -- Asking for the request is the first thing the worker has done.
        cases hnew
        obtain ⟨hans, -⟩ := by
          simpa only [act, controller, Option.some.injEq, Prod.mk.injEq] using hact
        obtain ⟨-, henq⟩ := (reachable_logFacts hs).held node req (holds_of_next hans)
        obtain ⟨caller, hcaller⟩ := henq.started hs
        obtain ⟨worker, hworker⟩ := hreach.wellFormed.started hserved
        have hfirst : s.history t = [] :=
          ((reachable_kept_callerContract hreach) t worker _ _ [] hworker
            Pool.history_advance_self).1
        rw [Pool.since_advance hs.wellFormed hthread hcaller]
        rcases mem_log_append hevent with hold' | ⟨-, rfl⟩
        · have := Pool.mem_history.2 hold'
          simp [hfirst] at this
        · exact mem_append_right _ (mem_singleton_self _)
    · exact ih hevent hserved

theorem filled_of_written {response : PublishResponse} (hs : Reachable cfg ok s)
    (hwritten : (t, ⟨.setResponse slot response, ()⟩) ∈ s.log) :
    ∃ response, s.world.responses[slot]? = some (some response) := by
  induction hs with
  | initial hw => cases hwritten
  | @step s s' l hs hok h ih =>
    have hreach : Reachable cfg ok s' := hs.step hok h
    rcases Machine.step_cases h with ⟨hstart⟩ |
      @⟨t', oracle, thread, op, next, ans, w, hthread, -, hact⟩ | @⟨c, w, hchange⟩
    · obtain ⟨-, starting, rfl⟩ := start_frame hstart
      exact ih hwritten
    · rcases mem_log_append hwritten with hold | ⟨rfl, hnew⟩
      · obtain ⟨response', hfilled⟩ := ih hold
        show ∃ response, w.responses[slot]? = some (some response)
        rcases act_response_cases hact slot with hsame | ⟨-, hnone⟩ | ⟨response, -, hset⟩
        · exact ⟨response', hsame.trans hfilled⟩
        · cases hnone.symm.trans hfilled
        · exact ⟨response, by rw [hset, hfilled]; rfl⟩
      cases hnew
      obtain ⟨writer, hwriter⟩ := hreach.wellFormed.started hwritten
      have hmay : MayWrite (s.history t) slot :=
        ((reachable_kept_callerContract hreach) t writer _ _ [] hwriter Pool.history_advance_self).1
      have hlt : slot < s.world.responses.length := by
        rcases hmay with hown | ⟨req, hserves, hslot⟩
        · exact (reachable_logFacts hs).slot_lt t slot (Pool.mem_history.1 hown)
        · obtain ⟨-, -, -, -, -, hnew⟩ := (hserves.enqueued hs).made hs
          exact (reachable_logFacts hs).slot_lt _ slot (hnew slot hslot)
      cases hact
      exact ⟨response, by simp [Pool.advance, hlt]⟩
    · cases c
      cases hchange
      exact ih hwritten

end Reachable

end OpenNebulaCSI.Controller
