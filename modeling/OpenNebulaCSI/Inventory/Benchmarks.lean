import Mathlib.Logic.Relation
import OpenNebulaCSI.Inventory.Resources

/-!
# Benchmark runs

`reconcileBenchmarkRuns` runs a Job for each generation of a benchmark run. The names of the Job and
its claim depend on the generation, and only the status of the run remembers them. When the run is
deleted, the objects named in the status are cleaned up, and the finalizer is removed however that
ends. So an object is left behind if the generation changes while it is open, if the status names
other objects when the run is deleted, or if a cleanup fails; and only then.
-/

namespace OpenNebulaCSI.Inventory

open Go Controller

def benchmarkPVCPrefix : String :=
  "one-ds-bench-pvc-"

def benchmarkJobPrefix : String :=
  "one-ds-bench-job-"

def benchmarkFinalizer : String :=
  "storage-provider.opennebula.io/benchmark-cleanup"

structure BenchmarkThresholds where
  minReadIops : Option Int
  minWriteIops : Option Int
  minReadBwBytes : Option Int
  minWriteBwBytes : Option Int
  maxLatencyP99Micros : Option Int
  deriving DecidableEq

/-- The fields of the spec that decide on the calls; the template of the Job is left out. -/
structure BenchmarkSpec where
  datastoreID : Int
  profile : String
  size : String
  accessModes : List String
  thresholds : BenchmarkThresholds
  deriving DecidableEq

/-- The status, without the texts of its summary and its log. -/
structure BenchmarkStatus where
  observedGeneration : Int
  phase : ValidationPhase
  datastoreID : Int
  datastoreName : String
  backend : String
  jobName : String
  pvcName : String
  startedAt : Option Int
  completedAt : Option Int
  message : String
  result : ValidationResult
  deriving DecidableEq

/-- An `OpenNebulaDatastoreBenchmarkRun` object. -/
structure BenchmarkRun where
  name : String
  generation : Int
  deleting : Bool
  finalizers : List String
  spec : BenchmarkSpec
  status : BenchmarkStatus
  deriving DecidableEq

/-- A datastore of OpenNebula, with its normalized backend. -/
structure DiscoveredDatastore where
  name : String
  backend : String
  deriving DecidableEq

/-- What a pass finds in OpenNebula, how its calls end, and its clock. -/
structure BenchmarkCalls where
  discovered : Int → Option DiscoveredDatastore
  /-- The objects the status names. -/
  formerCleanup : CleanupCalls
  /-- The objects of the present generation. -/
  cleanup : CleanupCalls
  patchFinalizers : WriteOutcome
  getPVC : Option GoError
  createPVC : WriteOutcome
  getJob : Option GoError
  createJob : WriteOutcome
  /-- `parseValidationJobLogs`. -/
  logs : Except GoError ValidationResult
  patchStatus : WriteOutcome
  /-- `Create` and `Delete` in `expandAutoBenchmarkRun`. -/
  createRun : WriteOutcome
  deleteRun : WriteOutcome
  now : Int

/-- What handling a run that is not deleted comes to. -/
structure BenchmarkOutcome where
  err : Option GoError
  status : BenchmarkStatus
  objects : Objects

structure BenchmarkPass where
  err : Option GoError
  run : BenchmarkRun
  objects : Objects

/-! ## Thresholds -/

/-- `pointerInt64Display`. -/
def pointerInt64Display : Option Int → String
  | none => "<missing>"
  | some value => toString value

/-- A check of `benchmarkThresholdFailure`: the message if a limit is given and the value is missing
or breaks it. -/
def thresholdCheck (label sign : String) (broken : Int → Int → Bool) (got want : Option Int) :
    Option String :=
  want.bind fun limit =>
    if got.all fun value => broken value limit then
      some (label ++ " threshold: got " ++ pointerInt64Display got ++ ", want " ++ sign ++ " " ++
        toString limit)
    else none

/-- The message of the first check that fails; an empty one if none does. -/
def benchmarkThresholdFailure (result : ValidationResult) (thresholds : BenchmarkThresholds) :
    String :=
  let below (value limit : Int) : Bool := value < limit
  ((thresholdCheck "read IOPS below" ">=" below result.readIops thresholds.minReadIops).or <|
    (thresholdCheck "write IOPS below" ">=" below result.writeIops thresholds.minWriteIops).or <|
    (thresholdCheck "read bandwidth below" ">=" below result.readBwBytes
      thresholds.minReadBwBytes).or <|
    (thresholdCheck "write bandwidth below" ">=" below result.writeBwBytes
      thresholds.minWriteBwBytes).or <|
    thresholdCheck "p99 latency above" "<=" (fun value limit => value > limit)
      result.latencyP99Micros thresholds.maxLatencyP99Micros).getD ""

/-! ## A pass -/

namespace BenchmarkRun

variable (texts : Texts) (calls : BenchmarkCalls) (run : BenchmarkRun) (objects : Objects)

/-- `benchmarkResourceName`. -/
def resourceName (start : String) : String :=
  validationResourceName texts start run.name
    (toString run.spec.datastoreID ++ "-gen-" ++ toString run.generation)

def jobName : String :=
  run.resourceName texts benchmarkJobPrefix

def pvcName : String :=
  run.resourceName texts benchmarkPVCPrefix

/-- The sizes of `applyBenchmarkProfileDefaults`. -/
def profileSize (profile : String) : String :=
  if profile = "throughput" then "8Gi"
  else if profile ∈ ["latency", "metadata", "rwx-contention"] then "4Gi"
  else "1Gi"

/-- `resolveBenchmarkRun`, for the fields the claim is built from. -/
def resolveBenchmarkRun (ds : DiscoveredDatastore) : BenchmarkSpec :=
  let profile := CaseTables.ascii.toLower (trimSpace run.spec.profile)
  let modes :=
    if run.spec.accessModes = [] ∧ profile = "rwx-contention" then ["ReadWriteMany"]
    else run.spec.accessModes
  { run.spec with
    size := if trimSpace run.spec.size = "" then profileSize profile else run.spec.size
    accessModes := if modes = [] then defaultPVCAccessModes ds.backend else modes }

def buildBenchmarkPVC (ds : DiscoveredDatastore) : PVCBuild :=
  let resolved := run.resolveBenchmarkRun ds
  buildPVC texts resolved.size "1Gi" resolved.accessModes ds.backend

/-- `Status().Patch`. -/
def patchStatus (status : BenchmarkStatus) : BenchmarkOutcome :=
  ⟨calls.patchStatus.err, if calls.patchStatus.applied then status else run.status, objects⟩

/-- Store the status of a finished Job and delete its objects, whether or not that succeeds. -/
def completeBenchmark (status : BenchmarkStatus) : BenchmarkOutcome :=
  let stored := run.patchStatus calls objects status
  match stored.err with
  | some _ => stored
  | none =>
    ⟨none, stored.status, (objects.cleanupValidationResources calls.cleanup (run.jobName texts)
      (run.pvcName texts)).2⟩

/-- The Job exists. -/
def observeJob (ds : DiscoveredDatastore) (job : JobStatus) : BenchmarkOutcome :=
  let next : BenchmarkStatus :=
    { run.status with
      observedGeneration := run.generation
      datastoreID := run.spec.datastoreID
      datastoreName := ds.name
      backend := ds.backend
      jobName := run.jobName texts
      pvcName := run.pvcName texts
      startedAt := some (run.status.startedAt.getD calls.now)
      phase := .running
      message := "benchmark job is running" }
  if 0 < job.succeeded then
    let succeeded : BenchmarkStatus :=
      { next with
        completedAt := some calls.now
        phase := .succeeded
        message := "benchmark completed successfully" }
    match calls.logs with
    | .error _ => run.completeBenchmark texts calls objects succeeded
    | .ok result =>
      let failure := benchmarkThresholdFailure result run.spec.thresholds
      if failure ≠ "" then
        run.completeBenchmark texts calls objects
          { succeeded with result, phase := .failed, message := failure }
      else run.completeBenchmark texts calls objects { succeeded with result }
  else if 0 < job.failed then
    run.completeBenchmark texts calls objects
      { next with
        completedAt := some calls.now
        phase := .failed
        message := "benchmark failed" }
  else run.patchStatus calls objects next

/-- A status that only knows the run, the datastore and the names. -/
def freshStatus (ds : DiscoveredDatastore) : BenchmarkStatus where
  observedGeneration := run.generation
  phase := .unset
  datastoreID := run.spec.datastoreID
  datastoreName := ds.name
  backend := ds.backend
  jobName := run.jobName texts
  pvcName := run.pvcName texts
  startedAt := none
  completedAt := none
  message := ""
  result := ⟨none, none, none, none, none, none⟩

/-- The claim exists. -/
def ensureJob (ds : DiscoveredDatastore) : BenchmarkOutcome :=
  match calls.getJob with
  | some err => ⟨some err, run.status, objects⟩
  | none =>
    match objects.jobs (run.jobName texts) with
    | some job => run.observeJob texts calls objects ds job.body
    | none =>
      let created : Objects :=
        { objects with
          jobs := objects.jobs.create calls.createJob (run.jobName texts) ⟨0, 0⟩ }
      match calls.createJob.err with
      | some err => ⟨some err, run.status, created⟩
      | none =>
        run.patchStatus calls created
          { run.freshStatus texts ds with
            phase := .running
            startedAt := some calls.now
            message := "benchmark job created" }

/-- The claim does not exist. -/
def ensurePVC (ds : DiscoveredDatastore) : BenchmarkOutcome :=
  match run.buildBenchmarkPVC texts ds with
  | .refused message =>
    run.patchStatus calls objects
      { run.freshStatus texts ds with
        phase := .failed
        completedAt := some calls.now
        message }
  | .panics => ⟨some (.plain "panic: cannot parse the size of the claim"), run.status, objects⟩
  | .built spec =>
    let created : Objects :=
      { objects with pvcs := objects.pvcs.create calls.createPVC (run.pvcName texts) spec }
    match calls.createPVC.err with
    | some err => ⟨some err, run.status, created⟩
    | none => run.ensureJob texts calls created ds

def ensureObjects (ds : DiscoveredDatastore) : BenchmarkOutcome :=
  match calls.getPVC with
  | some err => ⟨some err, run.status, objects⟩
  | none =>
    match objects.pvcs (run.pvcName texts) with
    | none => run.ensurePVC texts calls objects ds
    | some _ => run.ensureJob texts calls objects ds

/-- The run has its finalizer and is not being deleted. -/
def reconcileActive : BenchmarkOutcome :=
  match calls.discovered run.spec.datastoreID with
  | none =>
    -- The names of the objects are lost here.
    run.patchStatus calls objects
      { observedGeneration := run.generation
        phase := .failed
        datastoreID := run.spec.datastoreID
        datastoreName := ""
        backend := ""
        jobName := ""
        pvcName := ""
        startedAt := none
        completedAt := none
        message := "OpenNebula datastore " ++ toString run.spec.datastoreID ++ " was not found"
        result := ⟨none, none, none, none, none, none⟩ }
  | some ds =>
    if isTerminalValidationPhase run.status.phase then
      if run.status.observedGeneration = run.generation then
        ⟨none, run.status, (objects.cleanupValidationResources calls.cleanup (run.jobName texts)
          (run.pvcName texts)).2⟩
      else
        run.ensureObjects texts calls (objects.cleanupValidationResources calls.formerCleanup
          run.status.jobName run.status.pvcName).2 ds
    else run.ensureObjects texts calls objects ds

/-- `expandAutoBenchmarkRun`: another run is created in place of this one. -/
def expandAutoBenchmarkRun : BenchmarkPass :=
  if run.spec.datastoreID ≤ 0 then
    let patched := run.patchStatus calls objects
      { observedGeneration := run.generation
        phase := .failed
        datastoreID := run.spec.datastoreID
        datastoreName := ""
        backend := ""
        jobName := ""
        pvcName := ""
        startedAt := none
        completedAt := none
        message := "auto benchmark runs require spec.datastoreID"
        result := ⟨none, none, none, none, none, none⟩ }
    ⟨patched.err, { run with status := patched.status }, objects⟩
  else
    match calls.createRun.err with
    | some err => ⟨some err, run, objects⟩
    | none =>
      ⟨calls.deleteRun.err,
        if calls.deleteRun.applied then { run with deleting := true } else run, objects⟩

/-- The body of the loop of `reconcileBenchmarkRuns`. -/
def reconcile : BenchmarkPass :=
  if equalFold run.name "auto" then run.expandAutoBenchmarkRun calls objects
  else if run.deleting then
    let cleaned := objects.cleanupValidationResources calls.formerCleanup run.status.jobName
      run.status.pvcName
    if benchmarkFinalizer ∈ run.finalizers then
      ⟨calls.patchFinalizers.err, if calls.patchFinalizers.applied then
          { run with finalizers := run.finalizers.filter (· ≠ benchmarkFinalizer) }
        else run, cleaned.2⟩
    else ⟨none, run, cleaned.2⟩
  else if benchmarkFinalizer ∈ run.finalizers then
    let handled := run.reconcileActive texts calls objects
    ⟨handled.err, { run with status := handled.status }, handled.objects⟩
  else
    let marked : BenchmarkRun :=
      if calls.patchFinalizers.applied then
        { run with finalizers := run.finalizers ++ [benchmarkFinalizer] }
      else run
    match calls.patchFinalizers.err with
    | some err => ⟨some err, marked, objects⟩
    | none =>
      let handled := marked.reconcileActive texts calls objects
      ⟨handled.err, { marked with status := handled.status }, handled.objects⟩

end BenchmarkRun

/-! ## Histories -/

structure BenchmarkSystem where
  run : BenchmarkRun
  objects : Objects

inductive BenchmarkStep where
  | edit (spec : BenchmarkSpec)
  | delete
  | reconcile (calls : BenchmarkCalls)
  | others (event : ObjectEvent)

namespace BenchmarkSystem

variable (texts : Texts)

/-- The API server has removed the run. -/
def gone (s : BenchmarkSystem) : Bool :=
  s.run.deleting && s.run.finalizers.isEmpty

/-- A change of the spec and a deletion get a new generation. -/
def step (s : BenchmarkSystem) : BenchmarkStep → BenchmarkSystem
  | .edit spec =>
    if s.gone then s
    else { s with run := { s.run with spec, generation := s.run.generation + 1 } }
  | .delete =>
    if s.run.deleting then s
    else { s with run := { s.run with deleting := true, generation := s.run.generation + 1 } }
  | .reconcile calls =>
    if s.gone then s
    else
      let pass := s.run.reconcile texts calls s.objects
      ⟨pass.run, pass.objects⟩
  | .others event => { s with objects := s.objects.after event }

/-- The spec changes only while nothing is open. The run is deleted only if nothing is open or the
status names the objects of the present generation. A pass that removes the finalizer can clean
up. -/
def Orderly (s : BenchmarkSystem) : BenchmarkStep → Prop
  | .edit _ => s.run.deleting = true ∨ s.objects.Clean
  | .delete =>
    s.run.deleting = true ∨ s.objects.Clean ∨
      (s.run.status.jobName = s.run.jobName texts ∧ s.run.status.pvcName = s.run.pvcName texts)
  | .reconcile calls =>
    s.run.deleting = true → calls.patchFinalizers.applied = true →
      s.objects.Clean ∨ calls.formerCleanup.Succeed
  | .others _ => True

/-- A step that meets the condition. -/
def OrderlyStep (s s' : BenchmarkSystem) : Prop :=
  ∃ action, s.Orderly texts action ∧ s' = s.step texts action

/-- What an orderly history keeps: only objects of the present generation are open, and once the run
is being deleted, the status names them. -/
structure Tidy (s : BenchmarkSystem) : Prop where
  active : s.run.deleting = false → s.objects.Within (s.run.jobName texts) (s.run.pvcName texts)
  deleted : s.run.deleting = true → s.objects.Clean ∨
    (s.objects.Within s.run.status.jobName s.run.status.pvcName ∧ s.run.status.jobName ≠ "" ∧
      s.run.status.pvcName ≠ "")
  auto : equalFold s.run.name "auto" = true → s.objects.Clean

end BenchmarkSystem

/-! ## Tidy histories -/

section Tidy

variable {texts : Texts} {calls : BenchmarkCalls} {run : BenchmarkRun} {objects : Objects}

namespace BenchmarkRun

variable {ds : DiscoveredDatastore}

theorem completeBenchmark_shrinks (status : BenchmarkStatus) :
    (run.completeBenchmark texts calls objects status).objects.Shrinks objects := by
  simp only [completeBenchmark]
  split
  · exact Objects.Shrinks.rfl
  · exact Objects.cleanup_shrinks

theorem observeJob_shrinks (job : JobStatus) :
    (run.observeJob texts calls objects ds job).objects.Shrinks objects := by
  simp only [observeJob]
  split
  · split
    · exact completeBenchmark_shrinks _
    split
    · exact completeBenchmark_shrinks _
    · exact completeBenchmark_shrinks _
  · split
    · exact completeBenchmark_shrinks _
    · exact Objects.Shrinks.rfl

/-- Only objects of the present generation are open. -/
abbrev Owns (texts : Texts) (run : BenchmarkRun) (objects : Objects) : Prop :=
  objects.Within (run.jobName texts) (run.pvcName texts)

theorem ensureJob_owns (h : run.Owns texts objects) :
    run.Owns texts (run.ensureJob texts calls objects ds).objects := by
  simp only [ensureJob]
  split
  · exact h
  split
  · exact (observeJob_shrinks _).within h
  split
  · exact h.createJob
  · exact h.createJob

theorem ensurePVC_owns (h : run.Owns texts objects) :
    run.Owns texts (run.ensurePVC texts calls objects ds).objects := by
  simp only [ensurePVC]
  split
  · exact h
  · exact h
  split
  · exact h.createPVC
  · exact ensureJob_owns h.createPVC

theorem ensureObjects_owns (h : run.Owns texts objects) :
    run.Owns texts (run.ensureObjects texts calls objects ds).objects := by
  simp only [ensureObjects]
  split
  · exact h
  split
  · exact ensurePVC_owns h
  · exact ensureJob_owns h

theorem reconcileActive_owns (h : run.Owns texts objects) :
    run.Owns texts (run.reconcileActive texts calls objects).objects := by
  simp only [reconcileActive]
  split
  · exact h
  split
  · split
    · exact Objects.cleanup_shrinks.within h
    · exact ensureObjects_owns (Objects.cleanup_shrinks.within h)
  · exact ensureObjects_owns h

theorem expandAutoBenchmarkRun_frame :
    (run.expandAutoBenchmarkRun calls objects).objects = objects ∧
      (run.expandAutoBenchmarkRun calls objects).run.finalizers = run.finalizers := by
  simp only [expandAutoBenchmarkRun]
  split
  · exact ⟨rfl, rfl⟩
  split
  · exact ⟨rfl, rfl⟩
  split
  · exact ⟨rfl, rfl⟩
  · exact ⟨rfl, rfl⟩

/-- What a pass does to a run that is not deleted: the finalizer may be added, the status may
change, and only objects of the present generation are opened. -/
theorem reconcile_of_active (calls : BenchmarkCalls) (hauto : equalFold run.name "auto" = false)
    (hactive : run.deleting = false) (h : run.Owns texts objects) :
    ∃ finalizers status, run.finalizers ⊆ finalizers ∧
      (run.reconcile texts calls objects).run = { run with finalizers, status } ∧
      run.Owns texts (run.reconcile texts calls objects).objects := by
  rw [reconcile, if_neg (by simp [hauto]), if_neg (by simp [hactive])]
  split
  · exact ⟨_, _, List.Subset.refl _, rfl, reconcileActive_owns h⟩
  cases hpatch : calls.patchFinalizers with
  | ok =>
    refine ⟨run.finalizers ++ [benchmarkFinalizer], _, List.subset_append_left _ _, rfl, ?_⟩
    exact @reconcileActive_owns texts calls
      { run with finalizers := run.finalizers ++ [benchmarkFinalizer] } objects h
  | lost err => exact ⟨_, _, List.Subset.refl _, rfl, h⟩
  | unconfirmed err => exact ⟨_, _, List.subset_append_left _ _, rfl, h⟩

theorem reconcile_of_deleting (texts : Texts) (calls : BenchmarkCalls) (objects : Objects)
    (hauto : equalFold run.name "auto" = false) (hdeleting : run.deleting = true) :
    ∃ finalizers, (run.reconcile texts calls objects).run = { run with finalizers } ∧
      (run.reconcile texts calls objects).objects =
        (objects.cleanupValidationResources calls.formerCleanup run.status.jobName
          run.status.pvcName).2 := by
  rw [reconcile, if_neg (by simp [hauto]), if_pos hdeleting]
  split
  · cases hpatch : calls.patchFinalizers with
    | ok => exact ⟨_, rfl, rfl⟩
    | lost err => exact ⟨_, rfl, rfl⟩
    | unconfirmed err => exact ⟨_, rfl, rfl⟩
  · exact ⟨_, rfl, rfl⟩

end BenchmarkRun

namespace BenchmarkSystem

variable {s : BenchmarkSystem}

theorem tidy_of_clean (h : s.objects.Clean) : s.Tidy texts :=
  ⟨fun _ => h.within, fun _ => .inl h, fun _ => h⟩

/-- Objects that are named in the status of a deleted run stay so. -/
theorem Tidy.reconcile (h : s.Tidy texts) :
    Tidy texts ⟨(s.run.reconcile texts calls s.objects).run,
      (s.run.reconcile texts calls s.objects).objects⟩ := by
  cases hauto : equalFold s.run.name "auto" with
  | true =>
    apply tidy_of_clean
    simp only [BenchmarkRun.reconcile, hauto, if_true, BenchmarkRun.expandAutoBenchmarkRun_frame]
    exact h.auto hauto
  | false =>
    cases hdeleting : s.run.deleting with
    | true =>
      obtain ⟨finalizers, hrun, hobjects⟩ :=
        BenchmarkRun.reconcile_of_deleting texts calls s.objects hauto hdeleting
      have hshrinks := @Objects.cleanup_shrinks s.objects s.run.status.jobName
        s.run.status.pvcName calls.formerCleanup
      rw [hrun, hobjects]
      refine ⟨?_, fun _ => ?_, ?_⟩
      · intro hactive
        rw [hdeleting] at hactive
        cases hactive
      · rcases h.deleted hdeleting with hclean | ⟨hwithin, hnames⟩
        · exact .inl (hshrinks.clean hclean)
        · exact .inr ⟨hshrinks.within hwithin, hnames⟩
      · intro hname
        rw [hauto] at hname
        cases hname
    | false =>
      obtain ⟨finalizers, status, -, hrun, hwithin⟩ :=
        BenchmarkRun.reconcile_of_active calls hauto hdeleting (h.active hdeleting)
      rw [hrun]
      refine ⟨fun _ => hwithin, ?_, ?_⟩
      · intro hdeleted
        rw [hdeleting] at hdeleted
        cases hdeleted
      · intro hname
        rw [hauto] at hname
        cases hname

theorem Tidy.step {action : BenchmarkStep} (h : s.Tidy texts) (horderly : s.Orderly texts action) :
    (s.step texts action).Tidy texts := by
  cases action with
  | edit spec =>
    rw [BenchmarkSystem.step]
    split
    · exact h
    rcases horderly with hdeleting | hclean
    · refine ⟨?_, h.deleted, h.auto⟩
      intro hactive
      rw [hdeleting] at hactive
      cases hactive
    · exact tidy_of_clean hclean
  | delete =>
    rw [BenchmarkSystem.step]
    split
    · exact h
    rename_i hactive
    rw [Bool.not_eq_true] at hactive
    rcases horderly with hdeleting | hclean | ⟨hjob, hpvc⟩
    · exact absurd hdeleting (by simp [hactive])
    · exact tidy_of_clean hclean
    -- The deletion changes the generation, but the status keeps the names.
    refine ⟨fun hfalse => (by cases hfalse), fun _ => .inr ⟨?_, ?_, ?_⟩, h.auto⟩
    · show s.objects.Within s.run.status.jobName s.run.status.pvcName
      rw [hjob, hpvc]
      exact h.active hactive
    · show s.run.status.jobName ≠ ""
      rw [hjob]
      exact validationResourceName_ne_empty _ _ _ _
    · show s.run.status.pvcName ≠ ""
      rw [hpvc]
      exact validationResourceName_ne_empty _ _ _ _
  | reconcile calls =>
    rw [BenchmarkSystem.step]
    split
    · exact h
    · exact h.reconcile
  | others event =>
    have hshrinks : (s.objects.after event).Shrinks s.objects := Objects.after_shrinks event
    refine ⟨fun hactive => hshrinks.within (h.active hactive), fun hdeleting => ?_,
      fun hauto => hshrinks.clean (h.auto hauto)⟩
    rcases h.deleted hdeleting with hclean | ⟨hwithin, hnames⟩
    · exact .inl (hshrinks.clean hclean)
    · exact .inr ⟨hshrinks.within hwithin, hnames⟩

theorem tidy_of_orderly {start : BenchmarkSystem} (hstart : start.objects.Clean)
    (hrun : Relation.ReflTransGen (OrderlyStep texts) start s) : s.Tidy texts := by
  induction hrun with
  | refl => exact tidy_of_clean hstart
  | tail _ hlast ih =>
    obtain ⟨action, horderly, rfl⟩ := hlast
    exact ih.step horderly

theorem deleting_of_finalizer_removed (h : s.Tidy texts)
    (hbefore : benchmarkFinalizer ∈ s.run.finalizers)
    (hafter : benchmarkFinalizer ∉ (s.step texts (.reconcile calls)).run.finalizers) :
    s.gone = false ∧ equalFold s.run.name "auto" = false ∧ s.run.deleting = true ∧
      calls.patchFinalizers.applied = true := by
  rw [BenchmarkSystem.step] at hafter
  split at hafter
  · exact absurd hbefore hafter
  rename_i hgone
  replace hafter : benchmarkFinalizer ∉ (s.run.reconcile texts calls s.objects).run.finalizers :=
    hafter
  refine ⟨Bool.not_eq_true _ ▸ hgone, ?_⟩
  cases hauto : equalFold s.run.name "auto" with
  | true =>
    exfalso
    simp only [BenchmarkRun.reconcile, hauto, if_true,
      BenchmarkRun.expandAutoBenchmarkRun_frame] at hafter
    exact hafter hbefore
  | false =>
    cases hdeleting : s.run.deleting with
    | false =>
      obtain ⟨finalizers, status, hkept, hrun, -⟩ :=
        BenchmarkRun.reconcile_of_active calls hauto hdeleting (h.active hdeleting)
      rw [hrun] at hafter
      exact absurd (hkept hbefore) hafter
    | true =>
      refine ⟨rfl, rfl, ?_⟩
      by_contra hlost
      rw [BenchmarkRun.reconcile, if_neg (by simp [hauto]), if_pos hdeleting, if_pos hbefore,
        if_neg hlost] at hafter
      exact hafter hbefore

end BenchmarkSystem

end Tidy

/-! ## A generation that is overtaken -/

/-- Digests that tell generations apart; every text is a quantity. -/
def reversingTexts : Texts where
  sha1Hex text := String.ofList text.toList.reverse
  quote text := "\"" ++ text ++ "\""
  isQuantity _ := true

/-- A benchmark of the datastore 100. -/
def smokeSpec : BenchmarkSpec :=
  ⟨100, "smoke", "", [], ⟨none, none, none, none, none⟩⟩

/-- A benchmark run the controller has not seen yet. -/
def newBenchmark : BenchmarkSystem where
  run :=
    { name := "nightly"
      generation := 1
      deleting := false
      finalizers := []
      spec := smokeSpec
      status := ⟨0, .unset, 0, "", "", "", "", none, none, "",
        ⟨none, none, none, none, none, none⟩⟩ }
  objects := ⟨fun _ => none, fun _ => none⟩

/-- The datastore is there, and every call succeeds. -/
def successfulBenchmarkCalls : BenchmarkCalls where
  discovered id := if id = 100 then some ⟨"ssd", "local"⟩ else none
  formerCleanup := ⟨.ok, .ok⟩
  cleanup := ⟨.ok, .ok⟩
  patchFinalizers := .ok
  getPVC := none
  createPVC := .ok
  getJob := none
  createJob := .ok
  logs := .error (.plain "validation pod was not found")
  patchStatus := .ok
  createRun := .ok
  deleteRun := .ok
  now := 0

theorem newBenchmark_clean : newBenchmark.objects.Clean :=
  ⟨fun _ => Store.not_open_of_none rfl, fun _ => Store.not_open_of_none rfl⟩

/-- A run that is deleted while its Job runs. -/
def deletedRun : List BenchmarkStep :=
  [.reconcile successfulBenchmarkCalls, .delete]

/-- The spec is edited while the Job runs, and the run is deleted later. -/
def overtakenRun : List BenchmarkStep :=
  [.reconcile successfulBenchmarkCalls, .edit { smokeSpec with profile := "latency" },
    .reconcile successfulBenchmarkCalls, .delete, .reconcile successfulBenchmarkCalls]

end OpenNebulaCSI.Inventory
