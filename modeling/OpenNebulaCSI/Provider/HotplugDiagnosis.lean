import OpenNebulaCSI.Provider.Datastores

/-!
# Diagnosis of hotplug operations

`ClassifyHotplugObservation` compares an observation of a VM with the one that was persisted before
and calls a VM in HOTPLUG **stuck** if it is old and has not changed. The age counts from the first
observation that was ever persisted for the node, whatever state the VM has been in since, while the
time of the last change starts again with every change. So the age of a VM that was RUNNING for
hours and entered HOTPLUG a minute ago is hours.

The main theorem is about whole histories of observations: if no observation of HOTPLUG follows one
of another state, or a stuck VM has to be unchanged for as long as it has to be old, a stuck VM has
been in HOTPLUG for that time.
-/

namespace OpenNebulaCSI.Provider

open Go

/-- The LCM states the diagnosis tells apart. -/
inductive LCMState where
  | running | hotplug
  | other (raw : Int)
  deriving DecidableEq

/-- `vm.VM`, as far as it is observed: the texts of the states, and the disks of the template. -/
structure VMInfo where
  id : Int
  name : String
  state : String
  lcmState : String
  lcmStateRaw : LCMState
  lastPoll : Int
  disks : List Template

/-- The times are absent where Go has the zero time. -/
structure HotplugObservation where
  node : String
  vmID : Int := 0
  vmName : String := ""
  state : String := ""
  lcmState : String := ""
  lcmStateRaw : LCMState := .other 0
  lastPoll : Int := 0
  signature : String := ""
  firstObservedAt : Option Int := none
  lastObservedAt : Option Int := none
  lastChangedAt : Option Int := none
  operation : String
  volumeHandle : String := ""
  persistentDiskID : Int := 0
  vmDiskID : Int := 0
  diskTarget : String := ""
  diskAttachFlag : String := ""
  pendingDiskSignature : String := ""
  deriving DecidableEq

/-- `disk.GetI`. -/
def Template.getI (t : Template) (key : String) : Option Int :=
  (t.getStr key).bind atoi

/-! ## Building an observation -/

def observationFromDisk (node : String) (disk : Template) : HotplugObservation where
  node
  operation := "unknown"
  volumeHandle := trimSpace ((disk.getStr "IMAGE").getD "")
  persistentDiskID := (disk.getI "IMAGE_ID").getD 0
  vmDiskID := (disk.getI "DISK_ID").getD 0
  diskTarget := trimSpace ((disk.getStr "TARGET").getD "")
  diskAttachFlag := trimSpace ((disk.getStr "ATTACH").getD "")

def diskObservationSignature (obs : HotplugObservation) : String :=
  let signature := joinWith ":"
    [itoa obs.persistentDiskID, itoa obs.vmDiskID, obs.volumeHandle, obs.diskTarget,
      obs.diskAttachFlag]
  if signature.toList.all fun c => c = ':' || c = '0' then "" else signature

/-- An observation of a VM, with what it says about one of its disks. -/
def HotplugObservation.withDisk (obs disk : HotplugObservation) : HotplugObservation :=
  { obs with
    volumeHandle := disk.volumeHandle
    persistentDiskID := disk.persistentDiskID
    vmDiskID := disk.vmDiskID
    diskTarget := disk.diskTarget
    diskAttachFlag := disk.diskAttachFlag
    pendingDiskSignature := diskObservationSignature disk }

/-- The loop of `BuildHotplugObservation`, with the signatures and the fallback it collects. -/
def observeDisks (tables : LetterTables) :
    List Template → HotplugObservation → List String → Option HotplugObservation →
      HotplugObservation × List String × Option HotplugObservation
  | [], obs, signatures, fallback => (obs, signatures, fallback)
  | disk :: rest, obs, signatures, fallback =>
    let diskObs := observationFromDisk obs.node disk
    let signature := diskObservationSignature diskObs
    let signatures := if signature ≠ "" then signatures ++ [signature] else signatures
    if tables.equalFold diskObs.diskAttachFlag "YES" then
      observeDisks tables rest { obs.withDisk diskObs with operation := "attach" } signatures
        fallback
    else if fallback = none ∧ hasPrefix diskObs.volumeHandle "pvc-" then
      observeDisks tables rest obs signatures (some diskObs)
    else observeDisks tables rest obs signatures fallback

/-- The disk of a volume is reported if no disk is being attached. -/
def HotplugObservation.orFallback (obs : HotplugObservation)
    (fallback : Option HotplugObservation) : HotplugObservation :=
  match fallback with
  | some disk => if obs.volumeHandle = "" then obs.withDisk disk else obs
  | none => obs

/-- A VM in HOTPLUG with a volume is taken to attach it. -/
def HotplugObservation.guessOperation (obs : HotplugObservation) : HotplugObservation :=
  if obs.operation = "unknown" ∧ obs.lcmStateRaw = .hotplug ∧ obs.volumeHandle ≠ "" then
    { obs with operation := "attach" }
  else obs

def buildHotplugObservation (tables : LetterTables) (node : String) (vmInfo : Option VMInfo)
    (now : Int) : HotplugObservation :=
  let obs : HotplugObservation :=
    { node := trimSpace node
      operation := "unknown"
      firstObservedAt := some now
      lastObservedAt := some now
      lastChangedAt := some now }
  match vmInfo with
  | none => { obs with lcmState := "UNKNOWN" }
  | some vm =>
    let obs :=
      { obs with
        vmID := vm.id
        vmName := vm.name
        state := vm.state
        lcmState := vm.lcmState
        lcmStateRaw := vm.lcmStateRaw
        lastPoll := vm.lastPoll }
    let (obs, signatures, fallback) := observeDisks tables vm.disks obs [] none
    { (obs.orFallback fallback).guessOperation with
      signature := joinWith "|" (signatures.insertionSort (· ≤ ·)) }

/-! ## Classification -/

/-- The settings in nanoseconds, and Go's formatting of a duration in whole seconds. -/
structure HotplugDiagnosisConfig where
  stuckAfter : Int
  progressWindow : Int
  formatDuration : Int → String

def HotplugDiagnosisConfig.effectiveStuckAfter (cfg : HotplugDiagnosisConfig) : Int :=
  if cfg.stuckAfter ≤ 0 then 5 * 60 * 1000000000 else cfg.stuckAfter

def HotplugDiagnosisConfig.effectiveProgressWindow (cfg : HotplugDiagnosisConfig) : Int :=
  if cfg.progressWindow ≤ 0 then 60 * 1000000000 else cfg.progressWindow

inductive HotplugClassification where
  | ready | progressing | stuck | unknown
  deriving DecidableEq

/-- The diagnosis: the classification with its texts, and the ages in seconds. Its other fields are
copies of fields of the observation. -/
structure HotplugDiagnosis where
  observation : HotplugObservation
  classification : HotplugClassification
  ageSeconds : Int
  stuckAfterSeconds : Int
  reason : String
  message : String
  recommendedAction : String := ""
  deriving DecidableEq

/-- What is persisted of an observation at a time `now`. -/
def updatedObservation (current : HotplugObservation) (previous : Option HotplugObservation)
    (now : Int) : HotplugObservation :=
  let updated :=
    match previous with
    | none => current
    | some previous =>
      if previous.signature = current.signature ∧
          previous.lcmStateRaw = current.lcmStateRaw then
        { current with
          firstObservedAt := previous.firstObservedAt
          lastChangedAt := previous.lastChangedAt }
      else if previous.firstObservedAt ≠ none then
        { current with
          firstObservedAt := previous.firstObservedAt
          lastChangedAt := some now }
      else current
  { updated with
    firstObservedAt := some (updated.firstObservedAt.getD now)
    lastChangedAt := some (updated.lastChangedAt.getD now) }

/-- The clock is read as `clock` if the observation has no time. -/
def classifyHotplugObservation (cfg : HotplugDiagnosisConfig) (clock : Int)
    (current : HotplugObservation) (previous : Option HotplugObservation) :
    HotplugDiagnosis × HotplugObservation :=
  let now := current.lastObservedAt.getD clock
  let updated := updatedObservation { current with lastObservedAt := some now } previous now
  let age := now - updated.firstObservedAt.getD now
  let unchangedFor := now - updated.lastChangedAt.getD now
  let diagnosis (classification : HotplugClassification) (reason message : String)
      (recommendedAction : String) : HotplugDiagnosis :=
    { observation := updated
      classification
      ageSeconds := age.tdiv 1000000000
      stuckAfterSeconds := cfg.effectiveStuckAfter.tdiv 1000000000
      reason, message, recommendedAction }
  match updated.lcmStateRaw with
  | .running =>
    (diagnosis .ready "vm_running"
      "OpenNebula VM is running and available for hotplug operations" "", updated)
  | .hotplug =>
    if cfg.effectiveStuckAfter ≤ age ∧ cfg.effectiveProgressWindow ≤ unchangedFor then
      (diagnosis .stuck "hotplug_signature_unchanged"
        ("OpenNebula VM has remained in HOTPLUG for " ++ cfg.formatDuration age ++
          " without observable disk-state progress")
        ("Inspect the OpenNebula VM and complete or recover the stuck hotplug operation before " ++
          "retrying CSI attachment work."), updated)
    else
      (diagnosis .progressing "hotplug_recent_or_changing"
        ("OpenNebula VM is in HOTPLUG for " ++ cfg.formatDuration age ++
          " and is still within the configured progress window") "", updated)
  | .other _ =>
    (diagnosis .unknown "vm_lcm_not_running"
      ("OpenNebula VM LCM state is " ++
        (if trimSpace updated.lcmState ≠ "" then trimSpace updated.lcmState else "UNKNOWN")) "",
      updated)

/-! ## Histories of observations -/

/-- A VM as it is seen at a time. -/
structure Sighting where
  vm : Option VMInfo
  now : Int

section Histories

variable (tables : LetterTables) (cfg : HotplugDiagnosisConfig) (node : String)

def Sighting.observation (s : Sighting) : HotplugObservation :=
  buildHotplugObservation tables node s.vm s.now

/-- The diagnosis of a sighting, given the persisted observation. -/
def Sighting.diagnose (s : Sighting) (previous : Option HotplugObservation) :
    HotplugDiagnosis × HotplugObservation :=
  classifyHotplugObservation cfg s.now (s.observation tables node) previous

/-- The observation that is persisted after a history, which has the newest sighting first. -/
def persisted : List Sighting → Option HotplugObservation
  | [] => none
  | s :: older => some (s.diagnose tables cfg node (persisted older)).2

/-- The state a sighting has seen. -/
def Sighting.lcmState (s : Sighting) : LCMState :=
  (s.observation tables node).lcmStateRaw

/-- The disk signature a sighting has seen. -/
def Sighting.signature (s : Sighting) : String :=
  (s.observation tables node).signature

/-- The newest sightings of a history, back to one that is at least `duration` older than the
newest, all have a property. -/
def HeldFor (duration : Int) (P : Sighting → Prop) (history : List Sighting) : Prop :=
  ∃ recent oldest past newest, history = recent ++ oldest :: past ∧
    history.head? = some newest ∧ (∀ s ∈ recent ++ [oldest], P s) ∧
    duration ≤ newest.now - oldest.now

/-- No sighting of HOTPLUG follows one of another state. -/
def Uninterrupted : List Sighting → Prop
  | [] => True
  | s :: older =>
    (s.lcmState tables node = .hotplug →
      ∀ previous ∈ older.head?, previous.lcmState tables node = .hotplug) ∧
    Uninterrupted older

end Histories

variable {tables : LetterTables} {cfg : HotplugDiagnosisConfig} {node : String}

/-- The first, last and last changed time of an observation. -/
def HotplugObservation.times (obs : HotplugObservation) : Option Int × Option Int × Option Int :=
  (obs.firstObservedAt, obs.lastObservedAt, obs.lastChangedAt)

theorem observeDisks_times (disks : List Template) (obs : HotplugObservation)
    (signatures : List String) (fallback : Option HotplugObservation) :
    (observeDisks tables disks obs signatures fallback).1.times = obs.times := by
  induction disks generalizing obs signatures fallback with
  | nil => rfl
  | cons disk rest ih =>
    simp only [observeDisks]
    split
    · exact ih _ _ _
    · split <;> exact ih _ _ _

theorem orFallback_times (obs : HotplugObservation) (fallback : Option HotplugObservation) :
    (obs.orFallback fallback).times = obs.times := by
  unfold HotplugObservation.orFallback
  split
  · split <;> rfl
  · rfl

theorem guessOperation_times (obs : HotplugObservation) :
    obs.guessOperation.times = obs.times := by
  unfold HotplugObservation.guessOperation
  split <;> rfl

theorem observation_times (s : Sighting) :
    (s.observation tables node).times = (some s.now, some s.now, some s.now) := by
  unfold Sighting.observation buildHotplugObservation
  cases s.vm with
  | none => rfl
  | some vm => ?_
  dsimp only
  show (HotplugObservation.guessOperation (HotplugObservation.orFallback _ _)).times = _
  rw [guessOperation_times, orFallback_times, observeDisks_times]
  rfl

theorem observation_firstObservedAt (s : Sighting) :
    (s.observation tables node).firstObservedAt = some s.now :=
  congrArg Prod.fst (observation_times s)

theorem observation_lastObservedAt (s : Sighting) :
    (s.observation tables node).lastObservedAt = some s.now :=
  congrArg (fun times => times.2.1) (observation_times s)

theorem observation_lastChangedAt (s : Sighting) :
    (s.observation tables node).lastChangedAt = some s.now :=
  congrArg (fun times => times.2.2) (observation_times s)

theorem observation_now (s : Sighting) :
    (s.observation tables node).lastObservedAt.getD s.now = s.now := by
  rw [observation_lastObservedAt]
  rfl

theorem observation_current (s : Sighting) :
    { s.observation tables node with lastObservedAt := some s.now } =
      s.observation tables node := by
  rw [← observation_lastObservedAt s]

/-! ## What is persisted -/

/-- What is persisted of the sighting `s`. -/
theorem diagnose_snd (s : Sighting) (previous : Option HotplugObservation) :
    (s.diagnose tables cfg node previous).2 =
      updatedObservation (s.observation tables node) previous s.now := by
  simp only [Sighting.diagnose, classifyHotplugObservation, observation_now, observation_current]
  split
  · rfl
  · split <;> rfl
  · rfl

/-- What the observation that is persisted after a history says about the history. -/
structure Persisted (tables : LetterTables) (node : String) (history : List Sighting)
    (p : HotplugObservation) : Prop where
  newest : ∀ s ∈ history.head?, p.signature = s.signature tables node ∧
    p.lcmStateRaw = s.lcmState tables node
  first : ∃ past oldest, history = past ++ [oldest] ∧ p.firstObservedAt = some oldest.now
  changed : ∃ recent oldest past, history = recent ++ oldest :: past ∧
    p.lastChangedAt = some oldest.now ∧
    ∀ x ∈ recent ++ [oldest],
      x.signature tables node = p.signature ∧ x.lcmState tables node = p.lcmStateRaw

theorem updatedObservation_seen (current : HotplugObservation)
    (previous : Option HotplugObservation) (now : Int) :
    (updatedObservation current previous now).signature = current.signature ∧
      (updatedObservation current previous now).lcmStateRaw = current.lcmStateRaw := by
  unfold updatedObservation
  cases previous with
  | none => exact ⟨rfl, rfl⟩
  | some previous => ?_
  dsimp only
  split
  · exact ⟨rfl, rfl⟩
  · split <;> exact ⟨rfl, rfl⟩

theorem persisted_step {s : Sighting} {older : List Sighting} {p : HotplugObservation}
    (h : Persisted tables node older p) :
    Persisted tables node (s :: older)
      (updatedObservation (s.observation tables node) (some p) s.now) := by
  obtain ⟨past, oldest, holder, hfirst⟩ := h.first
  obtain ⟨hsignature, hstate⟩ := updatedObservation_seen (s.observation tables node) (some p) s.now
  have hnewest : ∀ x ∈ (s :: older).head?,
      (updatedObservation (s.observation tables node) (some p) s.now).signature =
          x.signature tables node ∧
        (updatedObservation (s.observation tables node) (some p) s.now).lcmStateRaw =
          x.lcmState tables node := by
    intro x hx
    obtain rfl : s = x := Option.some.inj hx
    exact ⟨hsignature, hstate⟩
  by_cases hsame : p.signature = (s.observation tables node).signature ∧
      p.lcmStateRaw = (s.observation tables node).lcmStateRaw
  · -- Nothing has changed, and both times are taken over.
    obtain ⟨recent, changed, before, hhistory, hchanged, hheld⟩ := h.changed
    refine ⟨hnewest, ⟨s :: past, oldest, ?_, ?_⟩, ⟨s :: recent, changed, before, ?_, ?_, ?_⟩⟩
    · rw [holder]
      rfl
    · simp [updatedObservation, hsame, hfirst]
    · rw [hhistory]
      rfl
    · simp [updatedObservation, hsame, hchanged]
    · intro x hx
      rw [hsignature, hstate]
      rcases List.mem_cons.1 hx with rfl | hx
      · exact ⟨rfl, rfl⟩
      · rw [← hsame.1, ← hsame.2]
        exact hheld x hx
  · -- Something has changed, but the first time is taken over all the same.
    refine ⟨hnewest, ⟨s :: past, oldest, ?_, ?_⟩, ⟨[], s, older, rfl, ?_, ?_⟩⟩
    · rw [holder]
      rfl
    · simp [updatedObservation, hsame, hfirst]
    · simp [updatedObservation, hsame, hfirst]
    · intro x hx
      obtain rfl : x = s := by simpa using hx
      rw [hsignature, hstate]
      exact ⟨rfl, rfl⟩

theorem persisted_spec (s : Sighting) (older : List Sighting) :
    Persisted tables node (s :: older)
      (s.diagnose tables cfg node (persisted tables cfg node older)).2 := by
  induction older generalizing s with
  | nil =>
    rw [diagnose_snd]
    refine ⟨?_, ⟨[], s, rfl, ?_⟩, ⟨[], s, [], rfl, ?_, ?_⟩⟩
    · intro x hx
      obtain rfl : s = x := Option.some.inj hx
      exact ⟨rfl, rfl⟩
    · simp [updatedObservation, persisted, observation_firstObservedAt]
    · simp [updatedObservation, persisted, observation_lastChangedAt]
    · intro x hx
      obtain rfl : x = s := by simpa using hx
      exact ⟨rfl, rfl⟩
  | cons previous older ih =>
    rw [diagnose_snd]
    exact persisted_step (ih previous)

/-! ## Stuck VMs -/

theorem Uninterrupted.all_hotplug {s : Sighting} {older : List Sighting}
    (h : Uninterrupted tables node (s :: older)) (hs : s.lcmState tables node = .hotplug) :
    ∀ x ∈ s :: older, x.lcmState tables node = .hotplug := by
  induction older generalizing s with
  | nil =>
    intro x hx
    obtain rfl : x = s := by simpa using hx
    exact hs
  | cons previous older ih =>
    have hprevious := h.1 hs previous rfl
    intro x hx
    rcases List.mem_cons.1 hx with rfl | hx
    · exact hs
    · exact ih h.2 hprevious x hx

theorem stuck_ages {s : Sighting} {previous : Option HotplugObservation}
    (h : (s.diagnose tables cfg node previous).1.classification = .stuck) :
    s.lcmState tables node = .hotplug ∧
      cfg.effectiveStuckAfter ≤
        s.now - (s.diagnose tables cfg node previous).2.firstObservedAt.getD s.now ∧
      cfg.effectiveProgressWindow ≤
        s.now - (s.diagnose tables cfg node previous).2.lastChangedAt.getD s.now := by
  have hstate := (updatedObservation_seen (s.observation tables node) previous s.now).2
  rw [diagnose_snd]
  simp only [Sighting.diagnose, classifyHotplugObservation, observation_now,
    observation_current] at h
  split at h
  · cases h
  · rename_i hhotplug
    split at h
    · rename_i hages
      exact ⟨hstate.symm.trans hhotplug, hages⟩
    · cases h
  · cases h

/-- A VM that is classified as stuck has been seen in HOTPLUG, and in no other state, for the time
after which it counts as stuck, and its disks have been seen unchanged for the progress window. -/
theorem stuck_heldFor {s : Sighting} {older : List Sighting}
    (hhistory : cfg.effectiveStuckAfter ≤ cfg.effectiveProgressWindow ∨
      Uninterrupted tables node (s :: older))
    (hstuck : (s.diagnose tables cfg node (persisted tables cfg node older)).1.classification =
      .stuck) :
    HeldFor cfg.effectiveStuckAfter (fun x => x.lcmState tables node = .hotplug) (s :: older) ∧
      HeldFor cfg.effectiveProgressWindow
        (fun x => x.signature tables node = s.signature tables node) (s :: older) := by
  obtain ⟨hhotplug, hage, hunchanged⟩ := stuck_ages hstuck
  have hspec := @persisted_spec tables cfg node s older
  obtain ⟨hsignature, hstate⟩ := hspec.newest s rfl
  obtain ⟨past, first, hwhole, hfirst⟩ := hspec.first
  obtain ⟨recent, changed, before, hsplit, hchanged, hheld⟩ := hspec.changed
  rw [hfirst, Option.getD_some] at hage
  rw [hchanged, Option.getD_some] at hunchanged
  constructor
  · rcases hhistory with hwindow | huninterrupted
    · -- The VM has not changed its state for the progress window.
      refine ⟨recent, changed, before, s, hsplit, rfl, ?_, by omega⟩
      intro x hx
      rw [(hheld x hx).2, hstate, hhotplug]
    · -- The VM has never been in another state.
      refine ⟨past, first, [], s, hwhole, rfl, ?_, hage⟩
      rw [← hwhole]
      exact huninterrupted.all_hotplug hhotplug
  · refine ⟨recent, changed, before, s, hsplit, rfl, ?_, hunchanged⟩
    intro x hx
    rw [(hheld x hx).1, hsignature]

/-- A sighting of a VM without disks, at a time in seconds. -/
def seen (lcmStateRaw : LCMState) (seconds : Int) : Sighting where
  vm := some ⟨5, "n5", "ACTIVE", "", lcmStateRaw, 0, []⟩
  now := seconds * 1000000000

/-- The default settings: stuck after five minutes, with a progress window of one minute. -/
def defaultDiagnosis : HotplugDiagnosisConfig :=
  ⟨0, 0, fun _ => ""⟩

/-- A VM that has been in HOTPLUG for five minutes. -/
theorem stuck_heldFor_fiveMinutes :
    HeldFor 300000000000 (fun x => x.lcmState .ascii "n5" = .hotplug)
        [seen .hotplug 300, seen .hotplug 0] ∧
      HeldFor 60000000000
        (fun x => x.signature .ascii "n5" = (seen .hotplug 300).signature .ascii "n5")
        [seen .hotplug 300, seen .hotplug 0] := by
  have hstuck : ((seen .hotplug 300).diagnose .ascii defaultDiagnosis "n5"
      (persisted .ascii defaultDiagnosis "n5" [seen .hotplug 0])).1.classification = .stuck := by
    decide +kernel
  refine stuck_heldFor (.inr ⟨fun _ previous hprevious => ?_, ?_⟩) hstuck
  · obtain rfl : seen .hotplug 0 = previous := Option.some.inj hprevious
    rfl
  · refine ⟨fun _ previous hprevious => ?_, trivial⟩
    cases hprevious

/-- A VM that has been RUNNING since the first observation and entered HOTPLUG one minute ago. -/
def enteredHotplug : List Sighting :=
  [seen .hotplug 400, seen .running 0]

/-- It is classified as stuck after one minute. -/
theorem running_counts :
    ((seen .hotplug 460).diagnose .ascii defaultDiagnosis "n5"
        (persisted .ascii defaultDiagnosis "n5" enteredHotplug)).1.classification = .stuck ∧
      ¬ HeldFor defaultDiagnosis.effectiveStuckAfter
        (fun x => x.lcmState .ascii "n5" = .hotplug) (seen .hotplug 460 :: enteredHotplug) := by
  refine ⟨by decide +kernel, ?_⟩
  rintro ⟨recent, oldest, past, newest, hsplit, hhead, hheld, hduration⟩
  obtain rfl : seen .hotplug 460 = newest := Option.some.inj hhead
  have holdest := hheld oldest (by simp)
  rcases recent with _ | ⟨first, _ | ⟨second, _ | ⟨third, rest⟩⟩⟩
  · obtain rfl := (List.cons.inj hsplit).1
    exact absurd hduration (by decide)
  · obtain rfl := (List.cons.inj (List.cons.inj hsplit).2).1
    exact absurd hduration (by decide)
  · obtain rfl := (List.cons.inj (List.cons.inj (List.cons.inj hsplit).2).2).1
    exact absurd holdest (by decide +kernel)
  · have hlength := congrArg List.length hsplit
    simp [enteredHotplug] at hlength

end OpenNebulaCSI.Provider
