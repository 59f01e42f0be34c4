import Mathlib.Logic.Function.Basic
import OpenNebulaCSI.Controller.Types

/-!
# Jobs and claims of the inventory controller

Validations and benchmarks run fio in a Job that writes to a PersistentVolumeClaim. The controller
creates both under names that depend on what the run is for, and deletes both under such names. An
object is open while the controller has created it and no `Delete` for it has succeeded.
-/

namespace OpenNebulaCSI.Inventory

open Go Controller

/-! ## Names and templates -/

/-- Functions of the Go libraries that only make texts or read them. -/
structure Texts where
  /-- The hexadecimal digits of `sha1.Sum`. -/
  sha1Hex : String → String
  /-- `strconv.Quote`. -/
  quote : String → String
  /-- `resource.ParseQuantity` accepts the text. -/
  isQuantity : String → Bool

/-- `validationResourceName`; names of objects are ASCII. -/
def validationResourceName (texts : Texts) (start name nonce : String) : String :=
  let suffix := String.ofList ((texts.sha1Hex (name ++ ":" ++ nonce)).toList.take 8)
  let trimmed := trimDashes (String.ofList (name.toList.take 40))
  start ++ trimmed ++ "-" ++ suffix

theorem validationResourceName_ne_empty (texts : Texts) (start name nonce : String) :
    validationResourceName texts start name nonce ≠ "" := by
  intro hempty
  have hlist := congrArg String.toList hempty
  simp [validationResourceName] at hlist

def defaultPVCAccessModes (backend : String) : List String :=
  if equalFold (trimSpace backend) "cephfs" then ["ReadWriteMany"] else ["ReadWriteOnce"]

/-- A step of the loop of `normalizePVCAccessModes`. -/
def normalizePVCAccessMode (texts : Texts) (normalized : List String) (mode : String) :
    Except String (List String) :=
  let trimmed := trimSpace mode
  if trimmed ∉ ["ReadWriteOnce", "ReadOnlyMany", "ReadWriteMany"] then
    .error ("unsupported PVC access mode " ++ texts.quote mode ++
      "; allowed values are ReadWriteOnce, ReadOnlyMany, ReadWriteMany")
  else if trimmed ∈ normalized then .ok normalized
  else .ok (normalized ++ [trimmed])

def normalizePVCAccessModes (texts : Texts) (modes : List String) (backend : String) :
    Except String (List String) :=
  if modes = [] then .ok (defaultPVCAccessModes backend)
  else modes.foldlM (normalizePVCAccessMode texts) []

/-- The fields of a claim that are built from a template; its storage class is left out. -/
structure PVCSpec where
  accessModes : List String
  size : String
  deriving DecidableEq

/-- What building a claim comes to; a size that is no quantity makes `resource.MustParse` panic. -/
inductive PVCBuild where
  | refused (message : String)
  | panics
  | built (spec : PVCSpec)
  deriving DecidableEq

/-- The common part of `buildValidationPVC` and `buildBenchmarkPVC`. -/
def buildPVC (texts : Texts) (size defaultSize : String) (modes : List String) (backend : String) :
    PVCBuild :=
  let size := if trimSpace size = "" then defaultSize else size
  match normalizePVCAccessModes texts modes backend with
  | .error message => .refused message
  | .ok accessModes => if texts.isQuantity size then .built ⟨accessModes, size⟩ else .panics

/-- The fio results of a Job. -/
structure ValidationResult where
  readIops : Option Int
  writeIops : Option Int
  readBwBytes : Option Int
  writeBwBytes : Option Int
  latencyP50Micros : Option Int
  latencyP99Micros : Option Int
  deriving DecidableEq

inductive ValidationPhase where
  | unset | idle | running | succeeded | failed
  deriving DecidableEq

def isTerminalValidationPhase : ValidationPhase → Bool
  | .succeeded | .failed => true
  | _ => false

/-! ## Stores of objects -/

/-- An object with its contents, whether the controller has created it, and whether a `Delete` for
it has succeeded. -/
structure Tracked (Body : Type) where
  made : Bool
  deleting : Bool
  body : Body

/-- The objects of a kind in the namespace of the controller, by name. -/
abbrev Store (Body : Type) :=
  String → Option (Tracked Body)

namespace Store

variable {Body : Type}

/-- The controller has created the object, and it exists undeleted. -/
def Open (store : Store Body) (name : String) : Prop :=
  ∃ object, store name = some object ∧ object.made = true ∧ object.deleting = false

/-- A `Create` of the controller for a name that is free. -/
def create (store : Store Body) (outcome : WriteOutcome) (name : String) (body : Body) :
    Store Body :=
  if outcome.applied then Function.update store name (some ⟨true, false, body⟩) else store

/-- A `Delete` leaves an object that waits for its finalizers. -/
def delete (store : Store Body) (name : String) : Store Body :=
  Function.update store name ((store name).map fun object => { object with deleting := true })

/-- `cleanupValidationResource`, for which a missing object is no error. -/
def cleanup (store : Store Body) (outcome : WriteOutcome) (name : String) :
    Option GoError × Store Body :=
  if name = "" then (some (.plain "resource name may not be empty"), store)
  else (outcome.err, if outcome.applied then store.delete name else store)

variable {store : Store Body} {name other : String} {outcome : WriteOutcome} {body : Body}

theorem open_create (h : (store.create outcome name body).Open other) :
    store.Open other ∨ other = name := by
  unfold create at h
  split at h
  · by_cases hname : other = name
    · exact .inr hname
    · left
      simpa only [Open, Function.update_of_ne hname] using h
  · exact .inl h

theorem open_delete_iff : (store.delete name).Open other ↔ store.Open other ∧ other ≠ name := by
  by_cases hname : other = name
  · subst hname
    simp only [Open, delete, Function.update_self, Option.map_eq_some_iff, ne_eq, not_true_eq_false,
      and_false, iff_false]
    rintro ⟨_, ⟨object, _, rfl⟩, _, hopen⟩
    cases hopen
  · simp only [Open, delete, Function.update_of_ne hname, ne_eq, hname, not_false_eq_true, and_true]

theorem open_cleanup (h : (store.cleanup outcome name).2.Open other) : store.Open other := by
  unfold cleanup at h
  split at h
  · exact h
  split at h
  · exact (open_delete_iff.1 h).1
  · exact h

theorem not_open_cleanup (hok : (store.cleanup outcome name).1 = none) :
    ¬ (store.cleanup outcome name).2.Open name := by
  intro hopen
  unfold cleanup at hok hopen
  split at hok
  · cases hok
  cases outcome with
  | ok =>
    rename_i hname
    rw [if_neg hname] at hopen
    exact (open_delete_iff.1 hopen).2 rfl
  | lost err => cases hok
  | unconfirmed err => cases hok

/-- A new entry for a name opens nothing if the controller has made its object before, and it is
deleted only if it has been. -/
theorem open_of_update {entry : Option (Tracked Body)}
    (hentry : ∀ object, entry = some object → object.made = true →
      ∃ old, store name = some old ∧ old.made = true ∧ old.deleting = object.deleting)
    (hopen : Open (Function.update store name entry) other) : store.Open other := by
  by_cases hname : other = name
  · subst hname
    obtain ⟨object, hobject, hmade, hundeleted⟩ := hopen
    rw [Function.update_self] at hobject
    obtain ⟨old, hold, hwas, hsame⟩ := hentry object hobject hmade
    exact ⟨old, hold, hwas, hsame.trans hundeleted⟩
  · simpa only [Open, Function.update_of_ne hname] using hopen

theorem open_of_appears
    (hopen : Open (Function.update store name ((store name).or (some ⟨false, false, body⟩)))
      other) :
    store.Open other := by
  refine open_of_update ?_ hopen
  intro object hobject hmade
  cases hold : store name with
  | some old =>
    rw [hold, Option.some_or] at hobject
    obtain rfl := Option.some.inj hobject
    exact ⟨_, rfl, hmade, rfl⟩
  | none =>
    rw [hold, Option.none_or] at hobject
    obtain rfl := Option.some.inj hobject
    cases hmade

theorem not_open_of_none (h : store name = none) : ¬ store.Open name := by
  rintro ⟨object, hobject, -⟩
  rw [h] at hobject
  cases hobject

end Store

/-! ## The objects of runs -/

structure JobStatus where
  succeeded : Int
  failed : Int
  deriving DecidableEq

def JobStatus.finished (status : JobStatus) : Bool :=
  0 < status.succeeded || 0 < status.failed

structure Objects where
  jobs : Store JobStatus
  pvcs : Store PVCSpec

structure CleanupCalls where
  deleteJob : WriteOutcome
  deletePVC : WriteOutcome

/-- Both deletions succeed. -/
def CleanupCalls.Succeed (calls : CleanupCalls) : Prop :=
  calls.deleteJob.err = none ∧ calls.deletePVC.err = none

/-- What others do to the objects: the Job controller counts pods, objects disappear, and new ones
appear under free names. -/
inductive ObjectEvent where
  | jobProgress (name : String) (status : JobStatus)
  | jobGone (name : String)
  | pvcGone (name : String)
  | jobAppears (name : String) (status : JobStatus)
  | pvcAppears (name : String) (spec : PVCSpec)

namespace Objects

variable (objects : Objects)

/-- `cleanupValidationResources`: a Job that cannot be deleted keeps its claim. -/
def cleanupValidationResources (calls : CleanupCalls) (jobName pvcName : String) :
    Option GoError × Objects :=
  let job := objects.jobs.cleanup calls.deleteJob jobName
  let pvc := objects.pvcs.cleanup calls.deletePVC pvcName
  match job.1 with
  | some err => (some err, { objects with jobs := job.2 })
  | none => (pvc.1, ⟨job.2, pvc.2⟩)

def after : ObjectEvent → Objects
  | .jobProgress name status =>
    { objects with
      jobs := Function.update objects.jobs name
        ((objects.jobs name).map fun job => { job with body := status }) }
  | .jobGone name => { objects with jobs := Function.update objects.jobs name none }
  | .pvcGone name => { objects with pvcs := Function.update objects.pvcs name none }
  | .jobAppears name status =>
    { objects with
      jobs := Function.update objects.jobs name
        ((objects.jobs name).or (some ⟨false, false, status⟩)) }
  | .pvcAppears name spec =>
    { objects with
      pvcs := Function.update objects.pvcs name
        ((objects.pvcs name).or (some ⟨false, false, spec⟩)) }

/-- Only the objects with these names are open. -/
def Within (jobName pvcName : String) : Prop :=
  (∀ name, objects.jobs.Open name → name = jobName) ∧
    ∀ name, objects.pvcs.Open name → name = pvcName

/-- No object is open. -/
def Clean : Prop :=
  (∀ name, ¬ objects.jobs.Open name) ∧ ∀ name, ¬ objects.pvcs.Open name

/-- No more objects are open than in `earlier`. -/
def Shrinks (earlier : Objects) : Prop :=
  (∀ name, objects.jobs.Open name → earlier.jobs.Open name) ∧
    ∀ name, objects.pvcs.Open name → earlier.pvcs.Open name

variable {objects} {earlier : Objects} {jobName pvcName : String} {calls : CleanupCalls}

theorem Shrinks.rfl : objects.Shrinks objects :=
  ⟨fun _ h => h, fun _ h => h⟩

theorem Shrinks.clean (h : objects.Shrinks earlier) (hclean : earlier.Clean) : objects.Clean :=
  ⟨fun name hopen => hclean.1 name (h.1 name hopen),
    fun name hopen => hclean.2 name (h.2 name hopen)⟩

theorem Shrinks.within (h : objects.Shrinks earlier) (hwithin : earlier.Within jobName pvcName) :
    objects.Within jobName pvcName :=
  ⟨fun name hopen => hwithin.1 name (h.1 name hopen),
    fun name hopen => hwithin.2 name (h.2 name hopen)⟩

theorem Clean.within (h : objects.Clean) : objects.Within jobName pvcName :=
  ⟨fun name hopen => absurd hopen (h.1 name), fun name hopen => absurd hopen (h.2 name)⟩

theorem Within.clean (h : objects.Within jobName pvcName) (hjob : ¬ objects.jobs.Open jobName)
    (hpvc : ¬ objects.pvcs.Open pvcName) : objects.Clean :=
  ⟨fun name hopen => hjob (h.1 name hopen ▸ hopen), fun name hopen => hpvc (h.2 name hopen ▸ hopen)⟩

theorem Within.createJob {outcome : WriteOutcome} {status : JobStatus}
    (h : objects.Within jobName pvcName) :
    Within { objects with jobs := objects.jobs.create outcome jobName status } jobName pvcName := by
  refine ⟨fun name hopen => ?_, h.2⟩
  rcases Store.open_create hopen with hold | hnew
  · exact h.1 name hold
  · exact hnew

theorem Within.createPVC {outcome : WriteOutcome} {spec : PVCSpec}
    (h : objects.Within jobName pvcName) :
    Within { objects with pvcs := objects.pvcs.create outcome pvcName spec } jobName pvcName := by
  refine ⟨h.1, fun name hopen => ?_⟩
  rcases Store.open_create hopen with hold | hnew
  · exact h.2 name hold
  · exact hnew

theorem cleanup_shrinks :
    (objects.cleanupValidationResources calls jobName pvcName).2.Shrinks objects := by
  simp only [cleanupValidationResources]
  split
  · exact ⟨fun _ hopen => Store.open_cleanup hopen, fun _ hopen => hopen⟩
  · exact ⟨fun _ hopen => Store.open_cleanup hopen, fun _ hopen => Store.open_cleanup hopen⟩

theorem cleanup_clean (hwithin : objects.Within jobName pvcName) (hjob : jobName ≠ "")
    (hpvc : pvcName ≠ "") (hcalls : calls.Succeed) :
    (objects.cleanupValidationResources calls jobName pvcName).2.Clean := by
  have hdeleted : (objects.jobs.cleanup calls.deleteJob jobName).1 = none := by
    rw [Store.cleanup, if_neg hjob]
    exact hcalls.1
  have hreleased : (objects.pvcs.cleanup calls.deletePVC pvcName).1 = none := by
    rw [Store.cleanup, if_neg hpvc]
    exact hcalls.2
  have hkept := (@cleanup_shrinks objects jobName pvcName calls).within hwithin
  simp only [cleanupValidationResources, hdeleted] at hkept ⊢
  exact hkept.clean (Store.not_open_cleanup hdeleted) (Store.not_open_cleanup hreleased)

theorem after_shrinks (event : ObjectEvent) : (objects.after event).Shrinks objects := by
  cases event with
  | jobProgress name status =>
    refine ⟨fun _ hopen => Store.open_of_update ?_ hopen, fun _ h => h⟩
    intro object hobject hmade
    obtain ⟨old, hold, rfl⟩ := Option.map_eq_some_iff.1 hobject
    exact ⟨old, hold, hmade, rfl⟩
  | jobGone name => exact ⟨fun _ hopen => Store.open_of_update (by simp) hopen, fun _ h => h⟩
  | pvcGone name => exact ⟨fun _ h => h, fun _ hopen => Store.open_of_update (by simp) hopen⟩
  | jobAppears name status => exact ⟨fun _ hopen => Store.open_of_appears hopen, fun _ h => h⟩
  | pvcAppears name spec => exact ⟨fun _ h => h, fun _ hopen => Store.open_of_appears hopen⟩

end Objects

end OpenNebulaCSI.Inventory
