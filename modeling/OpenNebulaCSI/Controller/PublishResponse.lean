import OpenNebulaCSI.Controller.QueueRuns

/-!
# The response of a publish

A publish that goes through the queue gets its response from a variable that its own queued function
writes. Its error comes from the queue, and the queue reports nil in two cases in which that
function has not run: the request was coalesced with one of another caller, and the validator found
the volume attached already. In both cases the publish answers with no error and no response.

`ownExecution` is the condition that neither happens. Under it a nil error comes with a response
that names a target reported by OpenNebula: the worker writes the variable before it reports nil
(`responseContract`), the variable belongs to this request alone, and what the worker does for the
request happens during the call.
-/

namespace OpenNebulaCSI.Controller

open Go Concurrency Program List

variable {α : Type} {kind : Kind} {past : History}

/-! ## The volume name in a publish context -/

/-- The publish context names the target. -/
def Names (target : String) (ctx : StringMap) : Prop :=
  ctx.lookup "volumeName" = some target

variable {target : String} {ctx : StringMap}

theorem Names.set {key : String} (h : Names target ctx) (hkey : "volumeName" ≠ key)
    (value : String) : Names target (ctx.set key value) := by
  rw [Names, StringMap.lookup_set, if_neg hkey]
  exact h

theorem Names.copyNames (h : Names target ctx) (source : StringMap) :
    Names target (copyNames source ctx) := by
  have hcopy {key : String} {ctx : StringMap} (hkey : "volumeName" ≠ key) (h : Names target ctx) :
      Names target (if trimSpace (source.get key) ≠ "" then ctx.set key (trimSpace (source.get key))
        else ctx) := by
    split
    · exact h.set hkey _
    · exact h
  simp only [Controller.copyNames, foldl_cons, foldl_nil]
  exact hcopy (by decide) (hcopy (by decide) (hcopy (by decide) h))

theorem Names.fillName {key : String} (h : Names target ctx) (hkey : "volumeName" ≠ key)
    (value : String) : Names target (fillName ctx key value) := by
  unfold Controller.fillName
  split
  · exact h.set hkey value
  · exact h

theorem Names.addRuntimeNames {target : String} (h : Names target ctx)
    (runtimeCtx : RuntimeContext) : Names target (addRuntimeNames ctx runtimeCtx) := by
  have hnamespace : "volumeName" ≠ paramPVCNamespace := by decide
  have hclaim : "volumeName" ≠ paramPVCName := by decide
  have hvolume : "volumeName" ≠ paramPVName := by decide
  have hfilled := ((h.fillName hnamespace runtimeCtx.pvcNamespace).fillName hclaim
    runtimeCtx.pvcName).fillName hvolume runtimeCtx.pvName
  unfold Controller.addRuntimeNames
  simp only
  split
  · exact hfilled.set (by decide) _
  · exact hfilled

theorem Names.addImageID (h : Names target ctx) (image : Except LookupError Int) :
    Names target (addImageID ctx image) := by
  unfold Controller.addImageID
  split
  · split
    · exact (h.set (by decide) _).set (by decide) _
    · exact h
  · exact h

/-! ## What workers write and report -/

/-- The request that an event takes from the queue. -/
def taken? : Event Op Op.Answer → Option (Request Closure)
  | ⟨.nextRequest _, some req⟩ => some req
  | _ => none

/-- The worker has taken an attach from the queue and has not begun to run its function. -/
def validatingAttach (past : History) : Bool :=
  (past.head?.bind taken?).any (fun req => req.operation = .attach) &&
    past.all fun event => event.op.changes ≠ some .locks

/-- The response names a target that OpenNebula reported to this worker for the volume and node of
the publish whose response variable it is. -/
def Reports (past : History) (slot : ℕ) (response : PublishResponse) : Prop :=
  ∃ queued req volumeID nodeID target, Serves past queued ∧
    queued.fn = .publish req volumeID nodeID slot ∧
    ⟨.query (.getVolumeInNode volumeID nodeID), .ok target⟩ ∈ past ∧
    Names target response.publishContext

/-- The function of the request has written its response variable, if it has one. -/
def Responded (past : History) (fn : Closure) : Prop :=
  ∀ slot, fn.slot? = some slot → ∃ response, ⟨.setResponse slot response, ()⟩ ∈ past

/-- Only workers write response variables and report results, and both are backed by what they have
seen, provided that attaches are neither coalesced nor found attached by the validator; a publish
reads its variable only after the queue has answered nil. -/
def responseContract (kind : Kind) : Contract Op Op.Answer where
  rely past op ans :=
    match op, ans with
    | .enqueue asked, (queued, coalesced) => asked.operation = .attach →
        coalesced = false ∧ queued.fn = asked.fn
    | .nextRequest _, some queued => queued.operation = queued.fn.operation
    | .query (.getVolumeInNode _ _), answer => validatingAttach past = true →
        ∃ err, answer = .error err
    | _, _ => True
  guar past op :=
    match op with
    | .setResponse slot response => Reports past slot response
    | .complete id none => ∃ queued, Serves past queued ∧ queued.id = id ∧ Responded past queued.fn
    | .getResponse slot => ∀ req, kind = .publish req →
        ∃ volumeID nodeID, AnsweredNil past (.publish req volumeID nodeID slot)
    | _ => True

/-- The context `publishContextForVolume` returns names the target it was given, whatever the
answers to its queries. -/
theorem publishContextForVolume_meets (cfg : Config) (volume target : String) (timeout : Int)
    (source : StringMap) :
    (publishContextForVolume cfg volume target timeout source).Meets (responseContract kind)
      (fun later ctx => past ⊆ later ∧ Names target ctx) past := by
  have hlater {past later : History} {event : Event Op Op.Answer} (h : past ⊆ later) :
      past ⊆ later ++ [event] := List.Subset.trans h (subset_append_left _ _)
  have htimeouts {later : History} {ctx : StringMap} (h : past ⊆ later) (hctx : Names target ctx) :
      (addTimeouts volume timeout ctx).Meets (responseContract kind)
        (fun last ctx => past ⊆ last ∧ Names target ctx) later := by
    simp only [addTimeouts, meets_bind, meets_perform]
    refine ⟨trivial, fun size _ => ?_⟩
    cases size with
    | error err => exact meets_pure.2 ⟨hlater h, hctx⟩
    | ok size => ?_
    refine .perform (trivial) fun hotplugTimeout _ => ?_
    have hctx' : Names target (ctx.set "hotplugTimeoutSeconds" (seconds hotplugTimeout)) :=
      hctx.set (by decide) _
    split
    · simp only [meets_bind, meets_perform, meets_pure]
      exact ⟨trivial, fun _ _ => ⟨hlater (hlater (hlater h)), hctx'.set (by decide) _⟩⟩
    · exact meets_pure.2 ⟨hlater (hlater h), hctx'.set (by decide) _⟩
  simp only [publishContextForVolume, meets_bind, meets_perform]
  refine ⟨trivial, fun image _ => ?_⟩
  have hstart : Names target (addImageID (copyNames source [("volumeName", target)]) image) :=
    ((show Names target [("volumeName", target)] from rfl).copyNames source).addImageID image
  unfold resolveNames
  split
  · refine .perform (trivial) fun runtimeCtx _ => ?_
    cases runtimeCtx with
    | ok runtimeCtx =>
      exact meets_pure.2 (htimeouts (hlater (subset_append_left _ _))
        (hstart.addRuntimeNames runtimeCtx))
    | error err => exact meets_pure.2 (htimeouts (hlater (subset_append_left _ _)) hstart)
  · exact meets_pure.2 (htimeouts (subset_append_left _ _) hstart)

variable {op : Op}

theorem plain_responseContract (h : op.Plain) : (responseContract kind).guar past op := by
  cases op <;> trivial

theorem onLocks_responseContract (h : op.OnLocks) : (responseContract kind).guar past op := by
  cases op <;> first | trivial | cases h

theorem inside_responseContract (h : op.Inside none) : (responseContract kind).guar past op := by
  cases op <;> trivial

theorem plain_meets_subset {p : Prog α} (hp : PlainProgram p) :
    p.Meets (responseContract kind) (fun later _ => past ⊆ later) past :=
  hp.meets_subset fun _ _ h => plain_responseContract h

variable {fn : Closure}

theorem Responded.append {later : History} (h : Responded later fn) (event : Event Op Op.Answer) :
    Responded (later ++ [event]) fn := by
  intro slot hslot
  obtain ⟨response, hmem⟩ := h slot hslot
  exact ⟨response, mem_append_left _ hmem⟩

theorem Responded.of_none (h : fn.slot? = none) : Responded past fn := by
  intro slot hslot
  rw [h] at hslot
  cases hslot

/-! ### The queued attach -/

theorem reuseStickyAttachment_reports (cfg : Config) (req : PublishRequest)
    (volumeID nodeID : Int) :
    (reuseStickyAttachment cfg req volumeID nodeID).Meets (responseContract kind)
      (fun later outcome => past ⊆ later ∧ ∀ response, outcome = .reused response →
        ∃ target, ⟨.query (.getVolumeInNode volumeID nodeID), .ok target⟩ ∈ later ∧
          Names target response.publishContext) past := by
  unfold reuseStickyAttachment
  refine .perform trivial fun entry _ => ?_
  cases entry with
  | none => exact meets_pure.2 ⟨subset_append_left _ _, by simp⟩
  | some state => ?_
  simp only
  split
  · refine .perform trivial fun answer _ => ?_
    cases answer with
    | error err =>
      refine (plain_meets_subset (plain_of_still (still_stickyClear _))).bind fun later _ h => ?_
      exact meets_pure.2 ⟨fun _ hmem => h (by simp [hmem]), by simp⟩
    | ok target => ?_
    refine (plain_meets_subset (plain_of_still (still_clearForPublish _))).bind
      fun later answer h => ?_
    cases answer with
    | some err => exact meets_pure.2 ⟨fun _ hmem => h (by simp [hmem]), by simp⟩
    | none => ?_
    refine (publishContextForVolume_meets cfg _ target 0 _).bind ?_
    rintro last ctx ⟨hlast, hnames⟩
    refine meets_pure.2 ⟨fun _ hmem => hlast (h (by simp [hmem])), ?_⟩
    rintro response ⟨⟩
    exact ⟨target, hlast (h (by simp)), hnames⟩
  · have hleave : (leaveOldNode req volumeID state).Only (Op.Inside none) :=
      inside_of_hotplug (hotplug_leaveOldNode _ _ _)
    refine ((inside_locked hleave).meets_subset
      fun _ _ h => inside_responseContract h).bind fun later answer h => ?_
    cases answer <;> exact meets_pure.2 ⟨fun _ hmem => h (by simp [hmem]), by simp⟩

variable {queued : Request Closure} {req : PublishRequest} {volumeID nodeID : Int}

section Attach

variable {slot : ℕ} (hserves : Serves past queued)
  (hfn : queued.fn = .publish req volumeID nodeID slot)

include hserves hfn

theorem setResponse_reports
    (htarget : ⟨.query (.getVolumeInNode volumeID nodeID), .ok target⟩ ∈ past)
    (hnames : Names target ctx) :
    (do perform (.setResponse slot ⟨ctx⟩)
        return (none : Option GoError)).Meets (responseContract kind)
      (fun later err => err = none → Responded later queued.fn) past := by
  simp only [meets_bind, meets_perform, meets_pure]
  refine ⟨⟨queued, req, volumeID, nodeID, target, hserves, hfn, htarget, hnames⟩, ?_⟩
  rintro _ - - slot' hslot'
  rw [hfn] at hslot'
  cases hslot'
  exact ⟨⟨ctx⟩, by simp⟩

theorem attachAndConfirm_reports (cfg : Config) (size : Int) :
    (attachAndConfirm cfg req volumeID nodeID slot size).Meets (responseContract kind)
      (fun later err => err = none → Responded later queued.fn) past := by
  unfold attachAndConfirm
  refine .perform trivial fun floor _ => .perform trivial fun hotplugTimeout _ =>
    .perform trivial fun timeout _ => .perform trivial fun answer _ => ?_
  split
  · simp only [meets_bind, meets_perform, meets_pure]
    exact ⟨trivial, by simp⟩
  · exact meets_pure.2 (by simp)
  refine .perform trivial fun answer _ => ?_
  cases answer with
  | error err => exact meets_pure.2 (by simp)
  | ok target => ?_
  refine (publishContextForVolume_meets cfg _ target timeout _).bind ?_
  rintro later ctx ⟨hlater, hnames⟩
  exact setResponse_reports (hserves.mono fun _ h => hlater (by simp [h])) hfn
    (hlater (by simp)) hnames

theorem attachUnderLocks_reports (cfg : Config) :
    (attachUnderLocks cfg req volumeID nodeID slot).Meets (responseContract kind)
      (fun later err => err = none → Responded later queued.fn) past := by
  unfold attachUnderLocks
  refine .perform trivial fun answer _ => ?_
  cases answer with
  | ok target =>
    refine (plain_meets_subset (plain_of_still (still_clearStickyReuseState _ _))).bind
      fun later _ hlater => meets_bind.2 ((publishContextForVolume_meets cfg _ target 0 _).mono ?_)
    rintro last ctx ⟨hlast, hnames⟩
    exact setResponse_reports (hserves.mono fun _ h => hlast (hlater (by simp [h]))) hfn
      (hlast (hlater (by simp))) hnames
  | error err =>
    refine .perform trivial fun drift _ => ?_
    cases drift with
    | some err => exact meets_pure.2 (by simp)
    | none => ?_
    refine .perform trivial fun artifact _ => ?_
    cases artifact with
    | some err => exact meets_pure.2 (by simp)
    | none => ?_
    refine .perform trivial fun size _ => ?_
    cases size with
    | error err => exact meets_pure.2 (by simp)
    | ok size => exact attachAndConfirm_reports (hserves.mono (by simp)) hfn cfg size

theorem publishUnderLocks_reports (cfg : Config) :
    (publishUnderLocks cfg req volumeID nodeID slot).Meets (responseContract kind)
      (fun later err => err = none → Responded later queued.fn) past := by
  refine (reuseStickyAttachment_reports cfg req volumeID nodeID).bind ?_
  rintro later outcome ⟨hlater, hreused⟩
  cases outcome with
  | failed err => exact meets_pure.2 (by simp)
  | reused response =>
    obtain ⟨target, htarget, hnames⟩ := hreused response rfl
    exact setResponse_reports (hserves.mono hlater) hfn htarget hnames
  | notReused => exact attachUnderLocks_reports (hserves.mono hlater) hfn cfg

end Attach

theorem Closure.body_reports (cfg : Config) (hserves : Serves past queued) :
    (queued.fn.body cfg).Meets (responseContract kind)
      (fun later err => err = none → Responded later queued.fn) past := by
  by_cases hslot : queued.fn.slot? = none
  · have hinside : (queued.fn.body cfg).Only (Op.Inside none) := hslot ▸ queued.fn.inside_body cfg
    exact (hinside.meets_subset fun _ _ h => inside_responseContract h).mono
      fun _ _ _ _ => .of_none hslot
  obtain ⟨req, volumeID, nodeID, slot, hfn⟩ :
      ∃ req volumeID nodeID slot, queued.fn = .publish req volumeID nodeID slot := by
    cases hfn : queued.fn with
    | publish req volumeID nodeID slot => exact ⟨_, _, _, _, rfl⟩
    | _ => exact absurd (by rw [hfn]; rfl) hslot
  have hstable : ∀ (later : History) (event : Event Op Op.Answer) (err : Option GoError),
      (err = none → Responded later queued.fn) → err = none →
        Responded (later ++ [event]) queued.fn :=
    fun _ event _ h hnone => (h hnone).append event
  refine meets_locked (fun _ _ h => onLocks_responseContract h) hstable fun later hlater => ?_
  refine meets_locked (fun _ _ h => onLocks_responseContract h) hstable fun last hlast => ?_
  have hunder : queued.fn.underLocks cfg = publishUnderLocks cfg req volumeID nodeID slot := by
    rw [hfn]
    rfl
  rw [hunder]
  exact publishUnderLocks_reports (hserves.mono (List.Subset.trans hlater hlast)) hfn cfg

/-! ### The worker -/

theorem Closure.operation_of_slot (h : fn.slot? ≠ none) : fn.operation = .attach := by
  cases fn <;> first | rfl | exact absurd rfl h

theorem validatingAttach_append {ans : op.Answer} (h : validatingAttach past = true)
    (hop : op.Plain) : validatingAttach (past ++ [⟨op, ans⟩]) = true := by
  have hnoLock : op.changes ≠ some .locks := by
    cases op <;> first | exact hop.elim | simp [Op.changes]
  cases past with
  | nil => simp [validatingAttach] at h
  | cons event rest => ?_
  simp only [validatingAttach, cons_append, head?_cons, all_cons,
    all_append, Bool.and_eq_true] at h ⊢
  exact ⟨h.1, h.2.1, h.2.2, by simpa using hnoLock⟩

/-- Where OpenNebula does not report the volume on the node, the validator does not complete an
attach. -/
theorem validateHotplugQueueRequest_not_completed (cfg : Config) (node volume : String)
    (hpast : validatingAttach past = true) :
    (validateHotplugQueueRequest cfg node .attach volume).Meets (responseContract kind)
      (fun _ validation => ∀ reason message, validation ≠ .completed reason message) past := by
  unfold validateHotplugQueueRequest
  split
  · exact meets_pure.2 (by simp)
  refine .perform trivial fun volumeID _ => ?_
  cases volumeID with
  | error err => exact meets_pure.2 (by simp)
  | ok volumeID => ?_
  simp only
  split
  · exact meets_pure.2 (by simp)
  refine .perform trivial fun nodeID _ => ?_
  cases nodeID with
  | error err => exact meets_pure.2 (by simp)
  | ok nodeID => ?_
  simp only
  split
  · exact meets_pure.2 (by simp)
  refine .perform trivial fun cooldown _ => ?_
  cases cooldown with
  | some cooldown => exact meets_pure.2 (by simp)
  | none => ?_
  refine .perform trivial fun answer hanswer => ?_
  obtain ⟨err, rfl⟩ := hanswer (validatingAttach_append
    (validatingAttach_append (validatingAttach_append hpast trivial) trivial)
    trivial)
  refine (plain_meets_subset (plain_of_still (still_attachRequestStale _ _ _))).bind
    fun _ reason _ => ?_
  cases reason <;> exact meets_pure.2 (by simp)

theorem runFunction_reports (cfg : Config) (hserves : Serves past queued) :
    (runFunction cfg queued).Meets (responseContract kind)
      (fun later err => err = none → Responded later queued.fn) past := by
  refine (Closure.body_reports cfg hserves).bind fun later err hlater => ?_
  split
  · split <;> exact meets_pure.2 (by simp)
  · exact meets_pure.2 (by simp)
  refine .perform trivial fun expired _ => ?_
  split
  · exact meets_pure.2 (by simp)
  · exact meets_pure.2 fun _ => (hlater rfl).append _

theorem runRequest_reports (cfg : Config) (hserves : Serves past queued)
    (hconsistent : queued.operation = queued.fn.operation)
    (hpast : queued.operation = .attach → validatingAttach past = true) :
    (runRequest cfg queued).Meets (responseContract kind)
      (fun later err => err = none → Responded later queued.fn) past := by
  by_cases hslot : queued.fn.slot? = none
  · have hinside : (runRequest cfg queued).Only (Op.Inside none) :=
      hslot ▸ inside_runRequest cfg queued
    exact (hinside.meets_subset fun _ _ h => inside_responseContract h).mono
      fun _ _ _ _ => .of_none hslot
  · have hattach : queued.operation = .attach := hconsistent.trans (Closure.operation_of_slot hslot)
    unfold runRequest
    split
    · rw [hattach]
      refine (validateHotplugQueueRequest_not_completed cfg _ _ (hpast hattach)).extends.bind ?_
      rintro later validation ⟨hlater, hvalidation⟩
      cases validation with
      | completed reason message => exact absurd rfl (hvalidation reason message)
      | valid => exact runFunction_reports cfg (hserves.mono hlater.subset)
      | _ => exact meets_pure.2 (by simp)
    · exact runFunction_reports cfg hserves

theorem runNodeQueue_meets_responseContract (cfg : Config) (node : String) :
    (runNodeQueue cfg node).Meets (responseContract kind) (fun _ _ => True) [] := by
  unfold runNodeQueue
  simp only [meets_bind, meets_perform, nil_append]
  refine ⟨trivial, fun next hnext => ?_⟩
  cases next with
  | none => exact meets_pure.2 trivial
  | some queued => ?_
  simp only [meets_bind, meets_perform]
  refine ⟨trivial, fun _ _ => ?_⟩
  have hserves : Serves [⟨.nextRequest node, some queued⟩, ⟨.closeStarted queued.id, ()⟩] queued :=
    ⟨node, by simp⟩
  refine (runRequest_reports cfg hserves hnext ?_).extends.mono ?_
  · intro hattach
    simp [validatingAttach, taken?, hattach, Op.changes]
  · rintro later err ⟨hlater, hresponded⟩
    refine ⟨?_, fun _ _ => ⟨trivial, fun _ _ => trivial⟩⟩
    cases err with
    | some err => trivial
    | none => exact ⟨queued, hserves.mono hlater.subset, rfl, hresponded rfl⟩

/-! ### The callers -/

theorem ofWaiter_responseContract (h : op.OfWaiter) : (responseContract kind).guar past op := by
  cases op <;> trivial

theorem withQueuedHotplug_meets_responseContract (cfg : Config) (fn : Closure) (priority : Priority)
    (hslot : fn.slot? = none) :
    (withQueuedHotplug cfg fn.node fn.operation fn.volume priority fn).Meets (responseContract kind)
      (fun _ _ => True) past := by
  have hinside : (fn.body cfg).Only (Op.Inside none) := hslot ▸ fn.inside_body cfg
  have hbody : (fn.body cfg).Meets (responseContract kind) (fun _ _ => True) past :=
    (hinside.meets_subset fun _ _ h => inside_responseContract h).mono fun _ _ _ => trivial
  unfold withQueuedHotplug
  split
  · by_cases hnode : fn.node = ""
    · rw [hotplugQueueRun, if_pos hnode]
      exact hbody
    · exact (hotplugQueueRun_answeredNil (fun _ _ h => ofWaiter_responseContract h) cfg fn priority
        hnode).mono fun _ _ _ => trivial
  · exact hbody

variable {cfg : Config}

theorem QueueClient.meets_responseContract {hands : Closure → Prop} {p : Prog α}
    (hp : QueueClient cfg hands p) (hslot : ∀ fn, hands fn → fn.slot? = none)
    (hkind : ∀ req, kind ≠ .publish req) :
    p.Meets (responseContract kind) (fun _ _ => True) past := by
  have hquiet {β : Type} {past : History} {q : Prog β} (hq : q.Only Op.Quiet) :
      q.Meets (responseContract kind) (fun _ _ => True) past := by
    refine hq.meets trivial (fun h op hop _ => ?_) fun _ _ _ _ _ => trivial
    cases op with
    | getResponse slot => exact fun req hreq => absurd hreq (hkind req)
    | _ => exact plain_responseContract hop
  induction hp generalizing past with
  | quiet hp => exact hquiet hp
  | bind hp _ ih => exact (hquiet hp).bind fun _ value _ => ih value
  | queued fn hhands hnone hrest =>
    exact (withQueuedHotplug_meets_responseContract cfg fn _ hnone).bind
      fun _ err _ => hquiet (hrest err)
  | publish hhands hrest => cases hslot _ (hhands 0)

/-- How a publish of a disk volume comes to a nil error: OpenNebula reported the volume on the node
at once, or the publish read its response variable after the queue had answered nil. -/
def Answered (req : PublishRequest) (later : History) (result : PublishResult) : Prop :=
  ∃ volumeID nodeID,
    ⟨.query (.volumeExists req.volumeId), .ok volumeID⟩ ∈ later ∧
    ⟨.query (.nodeExists req.nodeId), .ok nodeID⟩ ∈ later ∧
    ((∃ response target, result.response = some response ∧ Names target response.publishContext ∧
        ⟨.query (.getVolumeInNode volumeID nodeID), .ok target⟩ ∈ later) ∨
      ∃ slot, ⟨.getResponse slot, result.response⟩ ∈ later ∧
        AnsweredNil later (.publish req volumeID nodeID slot))

section Answers

variable (hqueue : cfg.hotplugQueueEnabled = true)

include hqueue

theorem publishQueued_answered (hnode : req.nodeId ≠ "")
    (hvolumeID : ⟨.query (.volumeExists req.volumeId), .ok volumeID⟩ ∈ past)
    (hnodeID : ⟨.query (.nodeExists req.nodeId), .ok nodeID⟩ ∈ past) :
    (publishQueued cfg req volumeID nodeID).Meets (responseContract (.publish req))
      (fun later result => result.err = none → Answered req later result) past := by
  refine (plain_meets_subset (plain_of_still (still_maintenanceBlocksPublish _ _))).bind
    fun afterBlocked blocked hblocked => ?_
  cases blocked with
  | some message => exact meets_pure.2 (by simp [PublishResult.fail])
  | none => ?_
  refine .perform trivial fun cooldown _ => ?_
  cases cooldown with
  | some cooldown => exact meets_pure.2 (by simp [PublishResult.fail])
  | none => ?_
  refine .perform trivial fun sticky _ => .perform trivial fun slot _ => ?_
  rw [withQueuedHotplug, if_pos hqueue, meets_bind]
  refine (hotplugQueueRun_answeredNil (fun _ _ h => ofWaiter_responseContract h) cfg
    (.publish req volumeID nodeID slot) _ hnode).extends.mono ?_
  rintro later err ⟨hlater, hnil⟩
  cases err with
  | some err => exact meets_pure.2 (by simp)
  | none => ?_
  simp only [meets_bind, meets_perform, meets_pure]
  refine ⟨?_, fun response _ _ => ⟨volumeID, nodeID, ?_, ?_, .inr ⟨slot, ?_, ?_⟩⟩⟩
  · rintro _ ⟨⟩
    exact ⟨volumeID, nodeID, hnil rfl⟩
  · exact mem_append_left _ (hlater.subset (by simp [hblocked hvolumeID]))
  · exact mem_append_left _ (hlater.subset (by simp [hblocked hnodeID]))
  · simp
  · exact (hnil rfl).append _

theorem publishDisk_answered (hnode : req.nodeId ≠ "") :
    (publishDisk cfg req).Meets (responseContract (.publish req))
      (fun later result => result.err = none → Answered req later result) past := by
  unfold publishDisk
  refine .perform trivial fun answer _ => ?_
  cases answer with
  | error err => exact meets_pure.2 (by simp [PublishResult.fail])
  | ok volumeID => ?_
  simp only
  split
  · exact meets_pure.2 (by simp [PublishResult.fail])
  refine .perform trivial fun answer _ => ?_
  cases answer with
  | error err => exact meets_pure.2 (by simp [PublishResult.fail])
  | ok nodeID => ?_
  simp only
  split
  · exact meets_pure.2 (by simp [PublishResult.fail])
  refine .perform trivial fun answer _ => ?_
  cases answer with
  | error err => exact publishQueued_answered hqueue hnode (by simp) (by simp)
  | ok target => ?_
  refine (plain_meets_subset (plain_of_still (still_clearStickyReuseState _ _))).bind
    fun later _ hlater => meets_bind.2 ((publishContextForVolume_meets cfg _ target 0 _).mono ?_)
  rintro last ctx ⟨hlast, hnames⟩
  exact meets_pure.2 fun _ => ⟨volumeID, nodeID, hlast (hlater (by simp)),
    hlast (hlater (by simp)), .inl ⟨⟨ctx⟩, target, rfl, hnames, hlast (hlater (by simp))⟩⟩

theorem controllerPublishVolume_answered (req : PublishRequest) :
    (controllerPublishVolume cfg req).Meets (responseContract (.publish req))
      (fun later result => isSharedFilesystemVolumeID req.volumeId = false → result.err = none →
        Answered req later result) past := by
  unfold controllerPublishVolume
  split
  · exact meets_pure.2 (by simp [PublishResult.fail])
  split
  · exact meets_pure.2 (by simp [PublishResult.fail])
  rename_i hnode
  split
  · exact meets_pure.2 (by simp [PublishResult.fail])
  · exact meets_pure.2 (by simp [PublishResult.fail])
  split
  · rename_i hshared
    exact (plain_meets_subset (plain_of_still (still_publishShared cfg req))).mono
      fun _ _ _ hdisk => by
      simp [hdisk] at hshared
  · exact (publishDisk_answered hqueue hnode).mono fun _ _ h _ => h

end Answers

/-! ## Runs -/

/-- What a returned publish of a disk volume with a nil error has done. -/
def PublishPost (kind : Kind) (later : History) (outcome : Outcome) : Prop :=
  ∀ req result, kind = .publish req → outcome = .publish result →
    isSharedFilesystemVolumeID req.volumeId = false → result.err = none → Answered req later result

theorem Kind.meets_responseContract (hqueue : cfg.hotplugQueueEnabled = true) (kind : Kind) :
    (kind.program cfg).Meets (responseContract kind) (PublishPost kind) [] := by
  cases kind with
  | publish req =>
    refine (controllerPublishVolume_answered hqueue req).bind fun later result h => meets_pure.2 ?_
    rintro _ _ ⟨⟩ ⟨⟩ hdisk herr
    exact h hdisk herr
  | worker node =>
    refine (runNodeQueue_meets_responseContract cfg node).bind fun _ _ _ => meets_pure.2 ?_
    rintro _ _ ⟨⟩
  | expand req =>
    have hinside : (Kind.program cfg (.expand req)).Only (Op.Inside none) :=
      (inside_controllerExpandVolume cfg req).bind fun _ => only_pure
    refine (hinside.meets_subset fun _ _ h => inside_responseContract h).mono fun _ _ _ => ?_
    rintro _ _ ⟨⟩
  | _ =>
    refine ((Kind.queueClient cfg (by simp) (by simp)).meets_responseContract (fun fn hfn => ?_)
      (by simp)).mono fun _ _ _ => ?_
    · cases fn <;> first | rfl | simp [Kind.Hands] at hfn
    · rintro _ _ ⟨⟩

/-- Condition on a step: an attach that is enqueued finds no request to join, and OpenNebula does
not report the volume to a worker that is validating an attach. -/
def ownExecution (cfg : Config) (s : ControllerPool) : ControllerStep → Bool
  | .act t oracle =>
    match s.nextOp? t with
    | some (.enqueue req) =>
      req.operation ≠ .attach || (s.world.queue.duplicate cfg req).isNone
    | some (.query (.getVolumeInNode volumeID nodeID)) =>
      !validatingAttach (s.history t) ||
        match oracle.answer (.getVolumeInNode volumeID nodeID) with
        | .ok _ => false
        | .error _ => true
    | _ => true
  | _ => true

section Reachable

variable {s : ControllerPool}

theorem responseContract_rely {t : ℕ} {oracle : Oracle} {thread : Thread Op Op.Answer Kind Outcome}
    {next : op.Answer → Prog Outcome} {ans : op.Answer} {w : World}
    {ok : ControllerPool → ControllerStep → Prop} (hs : Reachable cfg ok s)
    (hok : ownExecution cfg s (.act t oracle) = true) (hthread : s.threads[t]? = some thread)
    (hprog : thread.prog = .call op next) (hact : act cfg oracle s.world t op = some (ans, w)) :
    (responseContract kind).rely (s.history t) op ans := by
  have hnext := Pool.nextOp?_of_call hthread hprog
  simp only [ownExecution, hnext] at hok
  cases op with
  | enqueue asked =>
    obtain ⟨rfl, -⟩ := by simpa only [act, Option.some.injEq, Prod.mk.injEq] using hact
    rcases HotplugQueue.enqueue_cases cfg s.world.queue { asked with caller := t } with
      ⟨existing, hdup, -⟩ | ⟨-, waitLimit, hself⟩
    · intro hattach
      have hnone : s.world.queue.duplicate cfg asked = none := by simpa [hattach] using hok
      cases hnone.symm.trans hdup
    · rw [hself]
      exact fun _ => ⟨rfl, rfl⟩
  | nextRequest node =>
    obtain ⟨hans, -⟩ := answer_inj hact
    cases ans with
    | none => trivial
    | some queued => ?_
    have henq := ((reachable_logFacts hs).held node queued (HotplugQueue.holds_of_next hans)).2
    obtain ⟨-, -, -, hcons, -⟩ := henq.made hs
    exact hcons.2.1
  | query q =>
    cases hact
    cases q with
    | getVolumeInNode volumeID nodeID =>
      intro hvalidating
      simp only [hvalidating, Bool.not_true, Bool.false_or] at hok
      split at hok
      · cases hok
      · rename_i err herr
        exact ⟨err, herr⟩
    | _ => trivial
  | _ => trivial

section Responses

variable (hqueue : cfg.hotplugQueueEnabled = true)
  (hs : Reachable cfg (fun s l => ownExecution cfg s l) s)

include hqueue hs

theorem reachable_responseContract :
    s.Conforms responseContract PublishPost ∧ s.Kept responseContract := by
  refine hs.conforms_and_kept (fun w kind prog w' hstart => ?_)
    fun _ _ _ _ _ _ _ _ hreach hok hthread hprog hact =>
      responseContract_rely hreach hok hthread hprog hact
  rw [(start_frame hstart).1]
  exact kind.meets_responseContract hqueue

/-- Once the queue has answered nil to a publish, its response variable names a target that was
reported for its volume and node since the publish was started. -/
theorem stored_of_answeredNil {c slot : ℕ}
    (h : AnsweredNil (s.history c) (.publish req volumeID nodeID slot)) :
    ∃ response target t, s.world.responses[slot]? = some (some response) ∧
      Names target response.publishContext ∧
      (t, ⟨.query (.getVolumeInNode volumeID nodeID), .ok target⟩) ∈ s.since c := by
  have hfacts := reachable_logFacts hs
  have hkept := (reachable_responseContract hqueue hs).2
  obtain ⟨asked, queued, coalesced, hasked, -, hattach, -, hmem, told, htold, htells⟩ := h
  rw [Pool.mem_history] at hmem htold
  -- The request is the caller's own.
  obtain ⟨_, _, _, _, _, _, hrely⟩ := hkept.of_mem hs.wellFormed hmem
  obtain ⟨rfl, hfn⟩ : coalesced = false ∧ queued.fn = asked.fn := hrely hattach
  rw [hasked] at hfn
  obtain ⟨waitLimit, hqueued⟩ := hfacts.accepted c asked queued hmem
  have hcaller : queued.caller = c := by rw [hqueued]
  have henq : Enqueued s.log queued := ⟨asked, hcaller.symm ▸ hmem⟩
  -- A worker has reported its success, after writing the response.
  obtain ⟨t, hcomplete⟩ := hfacts.done_nil _ (hfacts.told c told _ _ htold htells)
  obtain ⟨_, past, rest, _, hsplit, ⟨queued', hserves, hid, hresponded⟩, _⟩ :=
    hkept.of_mem hs.wellFormed hcomplete
  have hpast : past ⊆ s.history t := hsplit ▸ subset_append_left _ _
  obtain rfl : queued' = queued := ((hserves.mono hpast).enqueued hs).eq_of_id hs henq hid
  obtain ⟨written, hwritten⟩ := hresponded slot (by rw [hfn]; rfl)
  obtain ⟨response, hresponse⟩ := filled_of_written hs (Pool.mem_history.1 (hpast hwritten))
  -- Whatever is stored was written by a worker that served this request.
  obtain ⟨t', hstored⟩ := hfacts.stored slot response hresponse
  obtain ⟨_, past', rest', _, hsplit', hreports, _⟩ := hkept.of_mem hs.wellFormed hstored
  obtain ⟨queued'', req', volumeID', nodeID', target, hserves', hfn', htarget, hnames⟩ := hreports
  have hpast' : past' ⊆ s.history t' := hsplit' ▸ subset_append_left _ _
  have hserves'' := hserves'.mono hpast'
  obtain rfl : queued'' = queued' :=
    (hserves''.enqueued hs).eq_of_slot hs henq (by rw [hfn']; rfl) (by rw [hfn]; rfl)
  cases hfn'.symm.trans hfn
  refine ⟨response, target, t', hresponse, hnames, ?_⟩
  rw [← hcaller]
  exact hserves''.since hs (Pool.mem_history.1 (hpast' htarget))

end Responses

/-- The event was part of the call of thread `c`, or of the execution of the request the call was
coalesced with. -/
def DuringCall (s : ControllerPool) (c : ℕ) (event : Event Op Op.Answer) : Prop :=
  (∃ t, s.During c (t, event)) ∨
    ∃ t asked queued, ⟨.enqueue asked, (queued, true)⟩ ∈ s.history c ∧
      Serves (s.history t) queued ∧ event ∈ s.history t

/-- The result carries a response whose "volumeName" is a target that `GetVolumeInNode` reported for
the volume and the node of the request. -/
def NamesReportedTarget (s : ControllerPool) (c : ℕ) (req : PublishRequest)
    (result : PublishResult) : Prop :=
  ∃ response target volumeID nodeID, result.response = some response ∧
    response.publishContext.lookup "volumeName" = some target ∧
    ⟨.query (.volumeExists req.volumeId), .ok volumeID⟩ ∈ s.history c ∧
    ⟨.query (.nodeExists req.nodeId), .ok nodeID⟩ ∈ s.history c ∧
    DuringCall s c ⟨.query (.getVolumeInNode volumeID nodeID), .ok target⟩

/-- In every run in which attaches are neither coalesced nor found attached by the validator, a
publish of a disk volume that returns a nil error returns a response that names a target reported
for its volume and node during the call. -/
theorem publish_namesReportedTarget_of_ownExecution (hqueue : cfg.hotplugQueueEnabled = true)
    (hs : Reachable cfg (fun s l => ownExecution cfg s l) s) {c : ℕ} {req : PublishRequest}
    {thread : Thread Op Op.Answer Kind Outcome} {result : PublishResult}
    (hthread : s.threads[c]? = some thread) (hkind : thread.kind = .publish req)
    (hdisk : isSharedFilesystemVolumeID req.volumeId = false)
    (hresult : s.result? c = some (.publish result)) (hnil : result.err = none) :
    NamesReportedTarget s c req result := by
  have hprog : thread.prog = .ret (.publish result) := by
    simpa [Pool.result?, hthread, Program.result?_eq_some] using hresult
  have hconf := (reachable_responseContract hqueue hs).1
  obtain ⟨volumeID, nodeID, hvolumeID, hnodeID, hanswer⟩ :=
    hconf.result hthread hprog req result hkind rfl hdisk hnil
  rcases hanswer with ⟨response, target, hresponse, hnames, htarget⟩ | ⟨slot, hget, hown⟩
  · refine ⟨response, target, volumeID, nodeID, hresponse, hnames, hvolumeID, hnodeID, .inl ⟨c, ?_⟩⟩
    exact hs.wellFormed.during_self (Pool.mem_history.1 htarget)
  -- Go back to the state in which the response variable was read.
  obtain ⟨s₀, oracle, thread₀, next, w, hreach, hok, hthread₀, hprog₀, hact, hpre⟩ :=
    hs.origin (Pool.mem_history.1 hget)
  have hkind₀ : thread₀.kind = .publish req := by
    obtain ⟨later, hlater, hsame, -⟩ := hpre.threads c { thread₀ with prog := next result.response }
      (Pool.advance_getElem?_self hthread₀)
    rw [hthread, Option.some.injEq] at hlater
    rw [← hkind, hlater, hsame]
  have hguar := (reachable_responseContract hqueue hreach).1.guar hthread₀ hprog₀
  obtain ⟨volumeID₀, nodeID₀, hown₀⟩ := hguar req hkind₀
  obtain ⟨response, target, t, hresponse, hnames, htarget⟩ :=
    stored_of_answeredNil hqueue hreach hown₀
  -- The publish has enqueued only one function.
  obtain ⟨asked, _, _, hasked, -, -, -, hmem, -⟩ := hown
  obtain ⟨asked₀, _, _, hasked₀, -, -, -, hmem₀, -⟩ := hown₀
  have hmem₀ : (c, _) ∈ s.log := hpre.log.subset (mem_append_left _ (Pool.mem_history.1 hmem₀))
  obtain ⟨rfl, -⟩ := enqueue_unique hs (Pool.mem_history.1 hmem) hmem₀
  cases hasked.symm.trans hasked₀
  have hread : result.response = some response := by
    have : (s₀.world.responses[slot]?).join = result.response := by
      simpa [controller, act] using congrArg (Option.map Prod.fst) hact
    rw [← this, hresponse]
    rfl
  exact ⟨response, target, volumeID, nodeID, hread, hnames, hvolumeID, hnodeID,
    .inl ⟨t, hpre.during hreach.wellFormed hthread₀ htarget⟩⟩

end Reachable

/-! ## A publish without a response -/

/-- The request and the response of a publish that has returned a nil error. -/
def nilResponse (s : ControllerPool) (c : ℕ) : Option (PublishRequest × Option PublishResponse) :=
  match s.threads[c]? with
  | some ⟨.publish req, .ret (.publish ⟨response, none⟩), _⟩ => some (req, response)
  | _ => none

theorem nilResponse_eq_some {s : ControllerPool} {c : ℕ} {response : Option PublishResponse}
    (h : nilResponse s c = some (req, response)) :
    ∃ thread, s.threads[c]? = some thread ∧ thread.kind = .publish req ∧
      s.result? c = some (.publish ⟨response, none⟩) := by
  unfold nilResponse at h
  split at h
  · rename_i hthread
    cases h
    exact ⟨_, hthread, rfl, by simp [Pool.result?, hthread, Program.result?]⟩
  · cases h

/-- `publishers` publishes of "v" to "n1" enqueue their requests; the worker attaches the volume and
reports success; thread `reader` learns of it. -/
def publishRun (publishers reader : ℕ) : List ControllerStep :=
  (List.range publishers).flatMap
      (fun t => [.start (.publish (publishOf "n1"))] ++ acts detached t 10) ++
    [.start (.worker "n1")] ++ acts detached publishers 22 ++ acts (attachedTo 1) publishers 12 ++
    acts (attachedTo 1) reader 2

/-- The second of two publishes is coalesced with the first one. It returns a nil error and a nil
response. -/
theorem coalesced_publish_returns_nothing :
    ∃ s c thread req result, Reachable defaultConfig (fun _ _ => True) s ∧
      s.threads[c]? = some thread ∧ thread.kind = .publish req ∧
      isSharedFilesystemVolumeID req.volumeId = false ∧
      s.result? c = some (.publish result) ∧ result.err = none ∧
      ¬ NamesReportedTarget s c req result := by
  have hrun : ∃ s ∈ (controller defaultConfig).run (fun _ _ => true) (publishRun 2 1)
      (Pool.initial (loadedWorld none)), nilResponse s 1 = some (publishOf "n1", none) := by
    decide +kernel
  obtain ⟨s, hs, hresponse⟩ := Machine.Reachable.of_run (fun _ _ _ => trivial)
    (fresh_loadedWorld _) hrun
  obtain ⟨thread, hthread, hkind, hresult⟩ := nilResponse_eq_some hresponse
  refine ⟨s, 1, thread, _, _, hs, hthread, hkind, by decide, hresult, rfl, ?_⟩
  rintro ⟨response, target, volumeID, nodeID, hnone, -⟩
  cases hnone

/-- A single publish gets its response from the worker. -/
theorem single_publish_namesReportedTarget :
    ∃ s thread result, Reachable defaultConfig (fun s l => ownExecution defaultConfig s l) s ∧
      s.threads[0]? = some thread ∧ thread.kind = .publish (publishOf "n1") ∧
      s.result? 0 = some (.publish result) ∧ result.err = none ∧
      NamesReportedTarget s 0 (publishOf "n1") result := by
  have hrun : ∃ s ∈ (controller defaultConfig).run (ownExecution defaultConfig) (publishRun 1 0)
      (Pool.initial (loadedWorld none)), ∃ r ∈ nilResponse s 0, r.1 = publishOf "n1" := by
    decide +kernel
  obtain ⟨s, hs, ⟨req, response⟩, hresponse, rfl⟩ :=
    Machine.Reachable.of_run (fun _ _ h => h) (fresh_loadedWorld _) hrun
  obtain ⟨thread, hthread, hkind, hresult⟩ := nilResponse_eq_some hresponse
  exact ⟨s, thread, _, hs, hthread, hkind, hresult, rfl,
    publish_namesReportedTarget_of_ownExecution rfl hs hthread hkind (by decide) hresult rfl⟩

/-! ## Coalescing -/

/-- No two requests for the same work are waiting or active at a node. -/
def RequestsDistinct (q : HotplugQueue Closure) : Prop :=
  ∀ node req req', q.Holds node req → q.Holds node req' →
    HotplugQueue.sameQueueRequest req req' = true → req = req'

open HotplugQueue in
theorem ne_of_accepted {q : HotplugQueue Closure} {asked req req' : Request Closure}
    (hdedupe : cfg.dedupe = true) (h : (q.enqueue cfg asked).1 = (req, false))
    (hheld : q.Holds req.node req') : ¬ sameQueueRequest req' req = true := by
  rcases enqueue_cases cfg q asked with ⟨_, -, hdup⟩ | ⟨hnone, _, hself⟩
  · cases hdup.symm.trans h
  obtain rfl := (Prod.mk.inj (hself.symm.trans h)).1
  simp only [duplicate, hdedupe, if_true, findDuplicateRequest] at hnone
  split at hnone
  · cases hnone
  rename_i hactive
  rcases hheld.nodeQueue with hreq | hreq
  · exact Option.filter_eq_none_iff.1 hactive req' hreq
  · exact find?_eq_none.1 hnone req' hreq

theorem reachable_requestsDistinct {ok : ControllerPool → ControllerStep → Prop}
    {s : ControllerPool} (hs : Reachable cfg ok s) (hdedupe : cfg.dedupe = true) :
    RequestsDistinct s.world.queue := by
  induction hs with
  | initial hw =>
    obtain ⟨entries, rfl⟩ := hw
    exact fun node req req' h => (HotplugQueue.not_holds_new h).elim
  | step _ _ h ih => ?_
  rcases Machine.step_cases h with ⟨hstart⟩ | ⟨-, -, hact⟩ | @⟨c, w, hchange⟩
  · obtain ⟨-, starting, rfl⟩ := start_frame hstart
    exact ih
  · intro node req req' hreq hreq' hsame
    rcases act_holds hact hreq with hold | ⟨asked, hevent, hnode, -⟩ <;>
      rcases act_holds hact hreq' with hold' | ⟨asked', hevent', hnode', -⟩
    · exact ih node req req' hold hold' hsame
    · cases hevent'
      exact (ne_of_accepted hdedupe (answer_inj hact).1 (hnode' ▸ hold) hsame).elim
    · cases hevent
      have := ne_of_accepted hdedupe (answer_inj hact).1 (hnode ▸ hold')
      simp_all [HotplugQueue.sameQueueRequest]
    · cases hevent.symm.trans hevent'
      rfl
  · cases c
    cases hchange
    exact ih

/-- The second of two publishes of "v" is coalesced, and a publish of "w" is not. -/
theorem coalesced_publish_requestsDistinct :
    ∃ s : ControllerPool, s.threads.length = 3 ∧
      ((s.world.queue.nodeQueue "n1").pending.map fun req => (req.volume, req.caller)) =
        [("v", 0), ("w", 2)] ∧ RequestsDistinct s.world.queue := by
  have hrun : ∃ s ∈ (controller defaultConfig).run (fun _ _ => true)
      ([publishOf "n1", publishOf "n1", { publishOf "n1" with volumeId := "w" }].zipIdx.flatMap
        fun entry => .start (.publish entry.1) :: acts detached entry.2 10)
      (Pool.initial (loadedWorld none)), s.threads.length = 3 ∧
        ((s.world.queue.nodeQueue "n1").pending.map fun req => (req.volume, req.caller)) =
          [("v", 0), ("w", 2)] := by
    decide +kernel
  obtain ⟨s, hs, hthreads, hpending⟩ := Machine.Reachable.of_run (fun _ _ _ => trivial)
    (fresh_loadedWorld _) hrun
  exact ⟨s, hthreads, hpending, reachable_requestsDistinct hs rfl⟩

end OpenNebulaCSI.Controller
