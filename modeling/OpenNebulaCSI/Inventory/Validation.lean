import Mathlib.Logic.Relation
import OpenNebulaCSI.Inventory.Resources

/-!
# Validations of datastores

`reconcileValidation` runs a Job for each nonce that is written to the spec of a datastore. Once the
Job has finished, it stores a terminal phase and then deletes the Job and its claim. The stored
phase makes the next call return at once, so that a deletion that has failed is never tried again,
and a new nonce leaves the objects of the old one behind. Nothing else can leak: if nonces change
only while nothing is open, and each cleanup succeeds, no object outlives its validation.
-/

namespace OpenNebulaCSI.Inventory

open Go Controller

def validationPVCPrefix : String :=
  "one-ds-validate-pvc-"

def validationJobPrefix : String :=
  "one-ds-validate-job-"

inductive DatastoreValidationMode where
  | unset | disabled | manual
  deriving DecidableEq

/-- The fields of `Spec.Validation` that decide on the calls; the template of the Job is left out.
-/
structure ValidationSpec where
  mode : DatastoreValidationMode
  runNonce : String
  size : String
  accessModes : List String
  deriving DecidableEq

structure ValidationStatus where
  lastRunTime : Option Int
  lastCompletedTime : Option Int
  lastRunNonce : String
  phase : ValidationPhase
  jobName : String
  message : String
  result : ValidationResult
  deriving DecidableEq

/-- An `OpenNebulaDatastore` object as `reconcileValidation` sees it. -/
structure ValidatedDatastore where
  name : String
  expectedBackend : String
  backend : String
  spec : ValidationSpec
  status : ValidationStatus
  deriving DecidableEq

/-- How the calls of a pass end, and its clock. -/
structure ValidationCalls where
  getPVC : Option GoError
  createPVC : WriteOutcome
  getJob : Option GoError
  createJob : WriteOutcome
  /-- `parseValidationJobLogs`. -/
  logs : Except GoError ValidationResult
  updateStatus : WriteOutcome
  cleanup : CleanupCalls
  now : Int

/-- What a pass returns and leaves. -/
structure ValidationPass where
  err : Option GoError
  status : ValidationStatus
  objects : Objects

/-! ## A pass -/

namespace ValidatedDatastore

variable (texts : Texts) (calls : ValidationCalls) (ds : ValidatedDatastore) (objects : Objects)

def jobName : String :=
  validationResourceName texts validationJobPrefix ds.name ds.spec.runNonce

def pvcName : String :=
  validationResourceName texts validationPVCPrefix ds.name ds.spec.runNonce

def validationBackend : String :=
  if trimSpace ds.backend ≠ "" then trimSpace ds.backend else trimSpace ds.expectedBackend

def buildValidationPVC : PVCBuild :=
  buildPVC texts ds.spec.size "4Gi" ds.spec.accessModes ds.validationBackend

/-- `Status().Update`. -/
def updateStatus (status : ValidationStatus) : ValidationPass :=
  ⟨calls.updateStatus.err, if calls.updateStatus.applied then status else ds.status, objects⟩

/-- Store the status of a finished Job and delete its objects. -/
def completeValidation (status : ValidationStatus) : ValidationPass :=
  let stored := ds.updateStatus calls objects status
  match stored.err with
  | some _ => stored
  | none =>
    let cleaned := objects.cleanupValidationResources calls.cleanup (ds.jobName texts)
      (ds.pvcName texts)
    ⟨cleaned.1, stored.status, cleaned.2⟩

/-- The Job exists. -/
def observeJob (job : JobStatus) : ValidationPass :=
  let completed : ValidationStatus :=
    { ds.status with
      lastCompletedTime := some calls.now
      lastRunNonce := ds.spec.runNonce }
  if 0 < job.succeeded then
    ds.completeValidation texts calls objects
      { completed with
        phase := .succeeded
        message := "validation completed successfully"
        result := calls.logs.toOption.getD ds.status.result }
  else if 0 < job.failed then
    ds.completeValidation texts calls objects
      { completed with
        phase := .failed
        message := "validation failed" }
  else
    ds.updateStatus calls objects
      { ds.status with
        phase := .running
        jobName := ds.jobName texts }

/-- The claim exists. -/
def ensureJob : ValidationPass :=
  match calls.getJob with
  | some err => ⟨some err, ds.status, objects⟩
  | none =>
    match objects.jobs (ds.jobName texts) with
    | some job => ds.observeJob texts calls objects job.body
    | none =>
      let created : Objects :=
        { objects with
          jobs := objects.jobs.create calls.createJob (ds.jobName texts) ⟨0, 0⟩ }
      match calls.createJob.err with
      | some err => ⟨some err, ds.status, created⟩
      | none =>
        ds.updateStatus calls created
          { ds.status with
            lastRunTime := some calls.now
            lastRunNonce := ds.spec.runNonce
            phase := .running
            jobName := ds.jobName texts
            message := "validation job created" }

/-- The claim does not exist. -/
def ensurePVC : ValidationPass :=
  match ds.buildValidationPVC texts with
  | .refused message =>
    ds.updateStatus calls objects
      { ds.status with
        lastCompletedTime := some calls.now
        lastRunNonce := ds.spec.runNonce
        phase := .failed
        jobName := ds.jobName texts
        message }
  | .panics => ⟨some (.plain "panic: cannot parse the size of the claim"), ds.status, objects⟩
  | .built spec =>
    let created : Objects :=
      { objects with pvcs := objects.pvcs.create calls.createPVC (ds.pvcName texts) spec }
    match calls.createPVC.err with
    | some err => ⟨some err, ds.status, created⟩
    | none => ds.ensureJob texts calls created

def reconcileValidation : ValidationPass :=
  if ds.spec.mode ≠ .manual then ⟨none, ds.status, objects⟩
  else if trimSpace ds.spec.runNonce = "" then ⟨none, ds.status, objects⟩
  else if ds.spec.runNonce = ds.status.lastRunNonce ∧ ds.status.phase ≠ .running then
    ⟨none, ds.status, objects⟩
  else if ds.spec.runNonce = ds.status.lastRunNonce ∧
      isTerminalValidationPhase ds.status.phase then
    let cleaned := objects.cleanupValidationResources calls.cleanup (ds.jobName texts)
      (ds.pvcName texts)
    ⟨cleaned.1, ds.status, cleaned.2⟩
  else
    match calls.getPVC with
    | some err => ⟨some err, ds.status, objects⟩
    | none =>
      match objects.pvcs (ds.pvcName texts) with
      | none => ds.ensurePVC texts calls objects
      | some _ => ds.ensureJob texts calls objects

end ValidatedDatastore

/-! ## Histories -/

/-- A datastore and the objects in the namespace of the controller. -/
structure ValidationSystem where
  ds : ValidatedDatastore
  objects : Objects

inductive ValidationStep where
  | edit (spec : ValidationSpec)
  | reconcile (calls : ValidationCalls)
  | others (event : ObjectEvent)

namespace ValidationSystem

variable (texts : Texts)

def step (s : ValidationSystem) : ValidationStep → ValidationSystem
  | .edit spec => { s with ds := { s.ds with spec } }
  | .reconcile calls =>
    let pass := s.ds.reconcileValidation texts calls s.objects
    ⟨{ s.ds with status := pass.status }, pass.objects⟩
  | .others event => { s with objects := s.objects.after event }

/-- The nonce and the mode change only while nothing is open. A finished Job gets its status stored
only by a pass that can clean up as well. A claim that is missing and cannot be built has no open
Job. -/
def Orderly (s : ValidationSystem) : ValidationStep → Prop
  | .edit spec =>
    (spec.runNonce = s.ds.spec.runNonce ∧ spec.mode = s.ds.spec.mode) ∨ s.objects.Clean
  | .reconcile calls =>
    (∀ job, s.objects.jobs (s.ds.jobName texts) = some job → job.body.finished = true →
      calls.updateStatus.applied = true →
        calls.updateStatus.err = none ∧ calls.cleanup.Succeed) ∧
    ((∀ spec, s.ds.buildValidationPVC texts ≠ .built spec) →
      s.objects.pvcs (s.ds.pvcName texts) = none →
        ¬ s.objects.jobs.Open (s.ds.jobName texts))
  | .others _ => True

/-- A step that meets the condition. -/
def OrderlyStep (s s' : ValidationSystem) : Prop :=
  ∃ action, s.Orderly texts action ∧ s' = s.step texts action

/-- What an orderly history keeps: only objects of the present nonce are open, while that nonce is
to be validated, and none once its result is stored. -/
structure Tidy (s : ValidationSystem) : Prop where
  within : s.objects.Within (s.ds.jobName texts) (s.ds.pvcName texts)
  wanted : ¬ s.objects.Clean → s.ds.spec.mode = .manual ∧ trimSpace s.ds.spec.runNonce ≠ ""
  settled : s.ds.spec.runNonce = s.ds.status.lastRunNonce →
    isTerminalValidationPhase s.ds.status.phase = true → s.objects.Clean

end ValidationSystem

section Tidy

variable {texts : Texts} {calls : ValidationCalls} {ds : ValidatedDatastore} {objects : Objects}

/-- What `Tidy` asks for after a pass. -/
def ValidationPass.Settles (texts : Texts) (ds : ValidatedDatastore) (pass : ValidationPass) :
    Prop :=
  pass.objects.Within (ds.jobName texts) (ds.pvcName texts) ∧
    (ds.spec.runNonce = pass.status.lastRunNonce →
      isTerminalValidationPhase pass.status.phase = true → pass.objects.Clean)

/-- The result of the present nonce is not stored yet. -/
def ValidatedDatastore.Unsettled (ds : ValidatedDatastore) : Prop :=
  ds.spec.runNonce = ds.status.lastRunNonce → isTerminalValidationPhase ds.status.phase = false

namespace ValidatedDatastore

section Settles

variable {status : ValidationStatus} (h : ds.Unsettled)
  (hwithin : objects.Within (ds.jobName texts) (ds.pvcName texts))

include h hwithin

theorem Unsettled.settles {err : Option GoError} :
    ValidationPass.Settles texts ds ⟨err, ds.status, objects⟩ := by
  refine ⟨hwithin, fun hnonce hterminal => ?_⟩
  rw [h hnonce] at hterminal
  cases hterminal

theorem updateStatus_settles (hclean : calls.updateStatus.applied = true →
      isTerminalValidationPhase status.phase = true → objects.Clean) :
    (ds.updateStatus calls objects status).Settles texts ds := by
  unfold updateStatus
  split
  · rename_i happlied
    exact ⟨hwithin, fun _ hterminal => hclean happlied hterminal⟩
  · exact h.settles hwithin

theorem completeValidation_settles (hcalls : calls.updateStatus.applied = true →
      calls.updateStatus.err = none ∧ calls.cleanup.Succeed) :
    (ds.completeValidation texts calls objects status).Settles texts ds := by
  simp only [completeValidation]
  cases hwrite : calls.updateStatus with
  | ok =>
    rw [hwrite] at hcalls
    have hcleaned := Objects.cleanup_clean hwithin (validationResourceName_ne_empty _ _ _ _)
      (validationResourceName_ne_empty _ _ _ _) (hcalls rfl).2
    simp only [updateStatus, hwrite, WriteOutcome.err]
    exact ⟨hcleaned.within, fun _ _ => hcleaned⟩
  | lost err =>
    simp only [updateStatus, hwrite, WriteOutcome.err, WriteOutcome.applied, Bool.false_eq_true,
      if_false]
    exact h.settles hwithin
  | unconfirmed err =>
    rw [hwrite] at hcalls
    cases (hcalls rfl).1

theorem observeJob_settles {job : JobStatus}
    (hcalls : job.finished = true → calls.updateStatus.applied = true →
      calls.updateStatus.err = none ∧ calls.cleanup.Succeed) :
    (ds.observeJob texts calls objects job).Settles texts ds := by
  simp only [observeJob]
  split
  · rename_i hsucceeded
    exact completeValidation_settles h hwithin (hcalls (by simp [JobStatus.finished, hsucceeded]))
  split
  · rename_i hfailed
    exact completeValidation_settles h hwithin (hcalls (by simp [JobStatus.finished, hfailed]))
  · exact updateStatus_settles h hwithin fun _ hterminal => by cases hterminal

variable (hcalls : ∀ job, objects.jobs (ds.jobName texts) = some job → job.body.finished = true →
  calls.updateStatus.applied = true → calls.updateStatus.err = none ∧ calls.cleanup.Succeed)

include hcalls

theorem ensureJob_settles :
    (ds.ensureJob texts calls objects).Settles texts ds := by
  simp only [ensureJob]
  split
  · exact h.settles hwithin
  split
  · rename_i job hjob
    exact observeJob_settles h hwithin (hcalls job hjob)
  split
  · exact h.settles hwithin.createJob
  · exact updateStatus_settles h hwithin.createJob fun _ hterminal => by cases hterminal

theorem ensurePVC_settles (hmissing : objects.pvcs (ds.pvcName texts) = none)
    (hbuilt : (∀ spec, ds.buildValidationPVC texts ≠ .built spec) →
      ¬ objects.jobs.Open (ds.jobName texts)) :
    (ds.ensurePVC texts calls objects).Settles texts ds := by
  simp only [ensurePVC]
  split
  · rename_i message hrefused
    refine updateStatus_settles h hwithin fun _ _ => hwithin.clean (hbuilt fun spec hspec => ?_)
      (Store.not_open_of_none hmissing)
    rw [hrefused] at hspec
    cases hspec
  · exact h.settles hwithin
  · split
    · exact h.settles hwithin.createPVC
    · exact ensureJob_settles h hwithin.createPVC hcalls

end Settles

end ValidatedDatastore

namespace ValidationSystem

variable {s s' : ValidationSystem}

theorem Tidy.reconcile_settles (h : s.Tidy texts) (horderly : s.Orderly texts (.reconcile calls)) :
    (s.ds.reconcileValidation texts calls s.objects).Settles texts s.ds := by
  obtain ⟨hfinished, hbuilt⟩ := horderly
  have hunchanged {err : Option GoError} :
      ValidationPass.Settles texts s.ds ⟨err, s.ds.status, s.objects⟩ := ⟨h.within, h.settled⟩
  simp only [ValidatedDatastore.reconcileValidation]
  split
  · exact hunchanged
  split
  · exact hunchanged
  split
  · exact hunchanged
  -- The guard above has the same nonce and a terminal phase as a special case.
  rename_i hguard
  have hunsettled : s.ds.Unsettled := by
    intro hnonce
    by_contra hterminal
    apply hguard
    refine ⟨hnonce, ?_⟩
    intro hrunning
    rw [hrunning] at hterminal
    exact hterminal rfl
  split
  · rename_i hterminal
    rw [hunsettled hterminal.1] at hterminal
    cases hterminal.2
  split
  · exact hunchanged
  split
  · rename_i hmissing
    exact ValidatedDatastore.ensurePVC_settles hunsettled h.within hfinished hmissing
      fun hnone => hbuilt hnone hmissing
  · exact ValidatedDatastore.ensureJob_settles hunsettled h.within hfinished

theorem reconcile_objects_of_unwanted
    (h : ¬ (s.ds.spec.mode = .manual ∧ trimSpace s.ds.spec.runNonce ≠ "")) :
    (s.ds.reconcileValidation texts calls s.objects).objects = s.objects := by
  simp only [ValidatedDatastore.reconcileValidation]
  split
  · rfl
  rename_i hmode
  split
  · rfl
  · rename_i hnonce
    exact absurd ⟨not_not.1 hmode, hnonce⟩ h

theorem Tidy.step {action : ValidationStep} (h : s.Tidy texts) (horderly : s.Orderly texts action) :
    (s.step texts action).Tidy texts := by
  cases action with
  | edit spec =>
    rcases horderly with ⟨hnonce, hmode⟩ | hclean
    · -- The names depend on nothing else of the spec.
      have hjob : ({ s.ds with spec } : ValidatedDatastore).jobName texts = s.ds.jobName texts := by
        simp only [ValidatedDatastore.jobName, hnonce]
      have hpvc : ({ s.ds with spec } : ValidatedDatastore).pvcName texts = s.ds.pvcName texts := by
        simp only [ValidatedDatastore.pvcName, hnonce]
      constructor
      · simp only [ValidationSystem.step, hjob, hpvc]
        exact h.within
      · simp only [ValidationSystem.step, hnonce, hmode]
        exact h.wanted
      · simp only [ValidationSystem.step, hnonce]
        exact h.settled
    · exact ⟨hclean.within, fun hopen => absurd hclean hopen, fun _ _ => hclean⟩
  | reconcile calls =>
    have hsettles := h.reconcile_settles horderly
    refine ⟨hsettles.1, ?_, hsettles.2⟩
    intro hopen
    by_contra hunwanted
    have hsame : (s.step texts (.reconcile calls)).objects = s.objects :=
      reconcile_objects_of_unwanted hunwanted
    rw [hsame] at hopen
    exact hunwanted (h.wanted hopen)
  | others event =>
    have hshrinks : (s.objects.after event).Shrinks s.objects := Objects.after_shrinks event
    exact ⟨hshrinks.within h.within,
      fun hopen => h.wanted fun hclean => hopen (hshrinks.clean hclean),
      fun hnonce hterminal => hshrinks.clean (h.settled hnonce hterminal)⟩

theorem tidy_of_orderly {start : ValidationSystem} (hstart : start.objects.Clean)
    (hrun : Relation.ReflTransGen (OrderlyStep texts) start s) : s.Tidy texts := by
  induction hrun with
  | refl => exact ⟨hstart.within, fun hopen => absurd hstart hopen, fun _ _ => hstart⟩
  | tail _ hlast ih =>
    obtain ⟨action, horderly, rfl⟩ := hlast
    exact ih.step horderly

end ValidationSystem

end Tidy

/-! ## Quiescence -/

/-- Every call succeeds. -/
structure ValidationCalls.Succeed (calls : ValidationCalls) : Prop where
  getPVC : calls.getPVC = none
  createPVC : calls.createPVC = .ok
  getJob : calls.getJob = none
  createJob : calls.createJob = .ok
  updateStatus : calls.updateStatus = .ok
  cleanup : calls.cleanup = ⟨.ok, .ok⟩

section Quiescence

variable {texts : Texts} {calls : ValidationCalls} {ds : ValidatedDatastore} {objects : Objects}

/-- The pass stores the nonce, or finds a Job that runs. -/
def ValidationPass.Proceeds (ds : ValidatedDatastore) (pass : ValidationPass) : Prop :=
  pass.status.lastRunNonce = ds.spec.runNonce ∨ pass.status.phase = .running

namespace ValidatedDatastore

theorem observeJob_proceeds (hcalls : calls.Succeed) (job : JobStatus) :
    (ds.observeJob texts calls objects job).Proceeds ds := by
  simp only [observeJob, completeValidation, updateStatus, hcalls.updateStatus, WriteOutcome.err,
    WriteOutcome.applied, if_true]
  split
  · exact .inl rfl
  split
  · exact .inl rfl
  · exact .inr rfl

theorem ensureJob_proceeds (hcalls : calls.Succeed) :
    (ds.ensureJob texts calls objects).Proceeds ds := by
  simp only [ensureJob, hcalls.getJob, hcalls.createJob, WriteOutcome.err]
  split
  · exact observeJob_proceeds hcalls _
  · left
    simp only [updateStatus, hcalls.updateStatus, WriteOutcome.applied, if_true]

theorem ensurePVC_proceeds (hcalls : calls.Succeed)
    (hpanics : ds.buildValidationPVC texts ≠ .panics) :
    (ds.ensurePVC texts calls objects).Proceeds ds := by
  simp only [ensurePVC, hcalls.createPVC, WriteOutcome.err]
  split
  · left
    simp only [updateStatus, hcalls.updateStatus, WriteOutcome.applied, if_true]
  · rename_i hbuild
    exact absurd hbuild hpanics
  · exact ensureJob_proceeds hcalls

theorem reconcileValidation_proceeds (hcalls : calls.Succeed) (hmode : ds.spec.mode = .manual)
    (hnonce : trimSpace ds.spec.runNonce ≠ "") (hnew : ds.spec.runNonce ≠ ds.status.lastRunNonce)
    (hpanics : objects.pvcs (ds.pvcName texts) = none → ds.buildValidationPVC texts ≠ .panics) :
    (ds.reconcileValidation texts calls objects).Proceeds ds := by
  simp only [reconcileValidation, hmode, hnonce, hnew, hcalls.getPVC, ne_eq, not_true_eq_false,
    false_and, if_false]
  split
  · rename_i hmissing
    exact ensurePVC_proceeds hcalls (hpanics hmissing)
  · exact ensureJob_proceeds hcalls

end ValidatedDatastore

/-- In an orderly history, no object is left once a terminal phase is stored and passes whose calls
succeed change nothing any more. -/
theorem validation_leavesNothing {start s : ValidationSystem} (hstart : start.objects.Clean)
    (hrun : Relation.ReflTransGen (ValidationSystem.OrderlyStep texts) start s)
    (hphase : isTerminalValidationPhase s.ds.status.phase = true) (hcalls : calls.Succeed)
    (horderly : s.Orderly texts (.reconcile calls))
    (hquiet : s.step texts (.reconcile calls) = s) : s.objects.Clean := by
  have htidy := ValidationSystem.tidy_of_orderly hstart hrun
  by_contra hopen
  obtain ⟨hmode, hnonce⟩ := htidy.wanted hopen
  have hnew : s.ds.spec.runNonce ≠ s.ds.status.lastRunNonce := by
    intro hsame
    exact hopen (htidy.settled hsame hphase)
  have hpanics : s.objects.pvcs (s.ds.pvcName texts) = none →
      s.ds.buildValidationPVC texts ≠ .panics := by
    intro hmissing hbuild
    -- Neither the claim nor its Job is open then, so that nothing is.
    have hjob := horderly.2 (fun spec hspec => by rw [hbuild] at hspec; cases hspec) hmissing
    exact hopen (htidy.within.clean hjob (Store.not_open_of_none hmissing))
  have hstatus : (s.ds.reconcileValidation texts calls s.objects).status = s.ds.status :=
    congrArg (fun later => later.ds.status) hquiet
  rcases ValidatedDatastore.reconcileValidation_proceeds hcalls hmode hnonce hnew hpanics with
    hstored | hrunning
  · rw [hstatus] at hstored
    exact hnew hstored.symm
  rw [hstatus] at hrunning
  rw [hrunning] at hphase
  cases hphase

end Quiescence

/-! ## A cleanup that fails -/

/-- Digests of length eight; every text is a quantity. -/
def plainTexts : Texts where
  sha1Hex _ := "0123456789abcdef"
  quote text := "\"" ++ text ++ "\""
  isQuantity _ := true

/-- Nothing is known of a validation yet. -/
def newValidation (nonce : String) : ValidationSystem where
  ds :=
    { name := "ds-100"
      expectedBackend := "local"
      backend := "local"
      spec := ⟨.manual, nonce, "", []⟩
      status := ⟨none, none, "", .unset, "", "", ⟨none, none, none, none, none, none⟩⟩ }
  objects := ⟨fun _ => none, fun _ => none⟩

def successfulCalls : ValidationCalls where
  getPVC := none
  createPVC := .ok
  getJob := none
  createJob := .ok
  logs := .error (.plain "validation pod was not found")
  updateStatus := .ok
  cleanup := ⟨.ok, .ok⟩
  now := 0

theorem successfulCalls_succeed : successfulCalls.Succeed :=
  ⟨rfl, rfl, rfl, rfl, rfl, rfl⟩

theorem orderly_successfulCalls {texts : Texts} {s : ValidationSystem} {spec : PVCSpec}
    (hbuilt : s.ds.buildValidationPVC texts = .built spec) :
    s.Orderly texts (.reconcile successfulCalls) :=
  ⟨fun _ _ _ _ => ⟨rfl, rfl, rfl⟩, fun hnone _ => absurd hbuilt (hnone spec)⟩

/-- A validation from its nonce to the cleanup. -/
def finishedRun : List ValidationStep :=
  [.reconcile successfulCalls,
    .others (.jobProgress ((newValidation "1").ds.jobName plainTexts) ⟨1, 0⟩),
    .reconcile successfulCalls]

theorem finishedRun_leavesNothing :
    (finishedRun.foldl (·.step plainTexts) (newValidation "1")).objects.Clean := by
  have hstart : (newValidation "1").objects.Clean :=
    ⟨fun _ => Store.not_open_of_none rfl, fun _ => Store.not_open_of_none rfl⟩
  have hrun : Relation.ReflTransGen (ValidationSystem.OrderlyStep plainTexts) (newValidation "1")
      (finishedRun.foldl (·.step plainTexts) (newValidation "1")) :=
    ((Relation.ReflTransGen.refl.tail ⟨_, orderly_successfulCalls rfl, rfl⟩).tail
      ⟨.others (.jobProgress ((newValidation "1").ds.jobName plainTexts) ⟨1, 0⟩),
        trivial, rfl⟩).tail
      ⟨_, orderly_successfulCalls rfl, rfl⟩
  exact validation_leavesNothing hstart hrun rfl successfulCalls_succeed
    (orderly_successfulCalls rfl) rfl

/-- The pass after the Job has finished cannot delete it. -/
def failedCleanupRun : List ValidationStep :=
  [.reconcile successfulCalls,
    .others (.jobProgress ((newValidation "1").ds.jobName plainTexts) ⟨1, 0⟩),
    .reconcile { successfulCalls with cleanup := ⟨.lost (.plain "etcdserver: timeout"), .ok⟩ }]

/-- The Job stays for good. -/
theorem failedCleanup_leavesJob :
    (failedCleanupRun.foldl (·.step plainTexts) (newValidation "1")).ds.status.phase = .succeeded ∧
      (∀ calls, (failedCleanupRun.foldl (·.step plainTexts) (newValidation "1")).step plainTexts
        (.reconcile calls) = failedCleanupRun.foldl (·.step plainTexts) (newValidation "1")) ∧
      ¬ (failedCleanupRun.foldl (·.step plainTexts) (newValidation "1")).objects.Clean := by
  refine ⟨rfl, fun calls => rfl, ?_⟩
  intro hclean
  exact hclean.1 ((newValidation "1").ds.jobName plainTexts) ⟨⟨true, false, ⟨1, 0⟩⟩, rfl, rfl, rfl⟩

end OpenNebulaCSI.Inventory
