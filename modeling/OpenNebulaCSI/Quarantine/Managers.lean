import Mathlib.Data.List.AList
import Mathlib.Data.List.Sort
import OpenNebulaCSI.Controller.Types

/-!
# The quarantine managers

`VolumeQuarantineManager` and `HostArtifactQuarantineManager` count failures per key and put a key
into **quarantine** once its count has reached a threshold. An entry belongs to a series of
failures. A failure that does not match the stored entry starts a new series, and the entry of the
new series replaces the old one, whether or not that one is in force. So one more failure can end a
quarantine (`failure_lifts_quarantine`).
-/

namespace OpenNebulaCSI.Quarantine

open Go Controller

/-- A Go map with string keys. -/
abbrev Entries (σ : Type) :=
  AList fun _ : String => σ

/-- What the entries of both managers have in common. Times are absent where Go has the zero
time. -/
structure Observations where
  failureCount : Int := 0
  firstObservedAt : Option Int := none
  lastObservedAt : Option Int := none
  expiresAt : Option Int := none
  deriving DecidableEq

structure VolumeQuarantineState extends Observations where
  volumeID : String
  reason : String
  classification : String
  message : String
  requestedNode : String
  ownerVMIDs : List Int
  deriving DecidableEq

structure HostArtifactQuarantineState extends Observations where
  key : String
  classification : String
  reason : String
  message : String
  volumeID : String
  imageID : Int
  nodeName : String
  vmID : Int
  hostID : Int
  hostName : String
  systemDatastoreID : Int
  systemDatastoreName : String
  systemDatastoreTM : String
  diskID : Int
  target : String
  lvName : String
  repairHint : String
  deriving DecidableEq

/-- Whether the quarantine is in force. -/
def Observations.active (o : Observations) (now : Int) : Bool :=
  match o.expiresAt with
  | none => false
  | some expiresAt => now < expiresAt

/-- The count after one more failure. `previous` is what was stored of the same series. -/
def countFailure (previous : Option Observations) (now threshold ttl : Int) : Observations :=
  let failureCount :=
    match previous with
    | some previous => previous.failureCount + 1
    | none => 1
  { failureCount
    firstObservedAt :=
      match previous with
      | some previous => previous.firstObservedAt
      | none => some now
    lastObservedAt := some now
    expiresAt := if threshold ≤ failureCount then some (now + ttl) else none }

/-- An entry with observations, and when two of them belong to one series. -/
structure EntryKind (σ : Type) where
  observations : σ → Observations
  observed : σ → Observations → σ
  sameSeries : σ → σ → Bool
  observations_observed : ∀ state o, observations (observed state o) = o

namespace EntryKind

variable {σ : Type} (K : EntryKind σ)

/-- The entry that a failure puts in place of the one that is stored under its key. -/
def record (previous : Option σ) (state : σ) (now threshold ttl : Int) : σ :=
  let same := previous.filter (K.sameSeries · state)
  K.observed state (countFailure (same.map K.observations) now threshold ttl)

/-- The entry under a key while it is in force. -/
def find (entries : Entries σ) (key : String) (now : Int) : Option σ :=
  (entries.lookup key).filter fun state => (K.observations state).active now

end EntryKind

/-! ## Volume quarantine -/

def sameQuarantineSeries (previous next : VolumeQuarantineState) : Bool :=
  trimSpace previous.reason = trimSpace next.reason &&
    trimSpace previous.classification = trimSpace next.classification &&
    trimSpace previous.requestedNode = trimSpace next.requestedNode

def volumeKind : EntryKind VolumeQuarantineState where
  observations := VolumeQuarantineState.toObservations
  observed state o := { state with toObservations := o }
  sameSeries := sameQuarantineSeries
  observations_observed _ _ := rfl

namespace VolumeQuarantineManager

def getActive (entries : Entries VolumeQuarantineState) (volumeID : String) (now : Int) :
    Option VolumeQuarantineState :=
  if trimSpace volumeID = "" then none else volumeKind.find entries volumeID now

/-- The failure as `MarkFailure` records it, before it is counted. -/
def normalize (state : VolumeQuarantineState) (now : Int) : VolumeQuarantineState :=
  { state with
    volumeID := trimSpace state.volumeID
    reason := trimSpace state.reason
    classification := trimSpace state.classification
    requestedNode := trimSpace state.requestedNode
    ownerVMIDs := state.ownerVMIDs.insertionSort (· ≤ ·)
    lastObservedAt := some now }

def effectiveThreshold (threshold : Int) : Int :=
  if threshold ≤ 0 then 2 else threshold

def effectiveTTL (ttl : Int) : Int :=
  if ttl ≤ 0 then 30 * 60 * 1000000000 else ttl

/-- `MarkFailure` up to its call of `persistEntry`: the recorded entry and whether it is active. -/
def markFailure (entries : Entries VolumeQuarantineState) (state : VolumeQuarantineState)
    (threshold ttl now : Int) : (VolumeQuarantineState × Bool) × Entries VolumeQuarantineState :=
  if trimSpace state.volumeID = "" then ((state, false), entries)
  else
    let threshold := effectiveThreshold threshold
    let state := normalize state now
    let state := volumeKind.record (entries.lookup state.volumeID) state now threshold
      (effectiveTTL ttl)
    ((state, threshold ≤ state.failureCount), entries.insert state.volumeID state)

/-- `Clear` up to the deletion of the key from the ConfigMap. -/
def clear (entries : Entries VolumeQuarantineState) (volumeID : String) :
    Entries VolumeQuarantineState :=
  if trimSpace volumeID = "" then entries else entries.erase (trimSpace volumeID)

end VolumeQuarantineManager

/-! ## Host artifact quarantine -/

def hostArtifactConflictClassification : String :=
  "host_local_lv_conflict"

def hostArtifactReason : String :=
  "external_host_artifact_repair_required"

def sameHostArtifactSeries (previous next : HostArtifactQuarantineState) : Bool :=
  trimSpace previous.classification = trimSpace next.classification &&
    previous.vmID = next.vmID && previous.diskID = next.diskID &&
    trimSpace previous.lvName = trimSpace next.lvName

def hostArtifactKind : EntryKind HostArtifactQuarantineState where
  observations := HostArtifactQuarantineState.toObservations
  observed state o := { state with toObservations := o }
  sameSeries := sameHostArtifactSeries
  observations_observed _ _ := rfl

namespace HostArtifactQuarantineManager

def getActive (entries : Entries HostArtifactQuarantineState) (key : String) (now : Int) :
    Option HostArtifactQuarantineState :=
  if trimSpace key = "" then none else hostArtifactKind.find entries (trimSpace key) now

/-- The failure as `MarkFailure` records it, before it is counted. -/
def normalize (state : HostArtifactQuarantineState) (now : Int) : HostArtifactQuarantineState :=
  let classification := trimSpace state.classification
  let reason := trimSpace state.reason
  { state with
    key := trimSpace state.key
    classification :=
      if classification = "" then hostArtifactConflictClassification else classification
    reason := if reason = "" then hostArtifactReason else reason
    lastObservedAt := some now }

def effectiveThreshold (threshold : Int) : Int :=
  if threshold ≤ 0 then 1 else threshold

def effectiveTTL (ttl : Int) : Int :=
  if ttl ≤ 0 then 60 * 60 * 1000000000 else ttl

/-- `MarkFailure` up to its call of `persistEntry`: the recorded entry and whether it is active. -/
def markFailure (entries : Entries HostArtifactQuarantineState)
    (state : HostArtifactQuarantineState) (threshold ttl now : Int) :
    (HostArtifactQuarantineState × Bool) × Entries HostArtifactQuarantineState :=
  -- The key is trimmed before it is checked, so the failure comes back with a trimmed key.
  if trimSpace state.key = "" then (({ state with key := trimSpace state.key }, false), entries)
  else
    let threshold := effectiveThreshold threshold
    let state := normalize state now
    let state := hostArtifactKind.record (entries.lookup state.key) state now threshold
      (effectiveTTL ttl)
    ((state, threshold ≤ state.failureCount), entries.insert state.key state)

/-- `Clear` up to the deletion of the key from the ConfigMap. -/
def clear (entries : Entries HostArtifactQuarantineState) (key : String) :
    Entries HostArtifactQuarantineState :=
  if trimSpace key = "" then entries else entries.erase (trimSpace key)

end HostArtifactQuarantineManager

/-! ## Sequences of failures -/

/-- The entries of both managers. -/
structure Quarantines where
  volume : Entries VolumeQuarantineState
  hostArtifact : Entries HostArtifactQuarantineState

/-- The failure that one call of a `MarkFailure` records. -/
inductive Failure where
  | volume (state : VolumeQuarantineState)
  | hostArtifact (state : HostArtifactQuarantineState)

/-- One call of a `MarkFailure`, with the clock reading it makes. -/
structure FailureCall where
  failure : Failure
  threshold : Int
  ttl : Int
  now : Int

def FailureCall.exec (call : FailureCall) (q : Quarantines) : Quarantines :=
  match call.failure with
  | .volume state =>
    { q with volume :=
        (VolumeQuarantineManager.markFailure q.volume state call.threshold call.ttl call.now).2 }
  | .hostArtifact state =>
    { q with hostArtifact :=
        (HostArtifactQuarantineManager.markFailure q.hostArtifact state call.threshold call.ttl
          call.now).2 }

/-- Every quarantine of the entries before that is in force is in force afterwards, and not for a
shorter time. -/
def EntryKind.Sustained {σ : Type} (K : EntryKind σ) (get : Entries σ → String → Int → Option σ)
    (now : Int) (before after : Entries σ) : Prop :=
  ∀ key state, get before key now = some state →
    ∃ state', get after key now = some state' ∧
      ∀ expiresAt ∈ (K.observations state).expiresAt,
        ∃ expiresAt' ∈ (K.observations state').expiresAt, expiresAt ≤ expiresAt'

def Quarantines.Sustained (now : Int) (before after : Quarantines) : Prop :=
  volumeKind.Sustained VolumeQuarantineManager.getActive now before.volume after.volume ∧
  hostArtifactKind.Sustained HostArtifactQuarantineManager.getActive now before.hostArtifact
    after.hostArtifact

/-- Every failure of the sequence sustains the quarantines it finds. -/
def SustainedAlong : List FailureCall → Quarantines → Prop
  | [], _ => True
  | call :: calls, q => q.Sustained call.now (call.exec q) ∧ SustainedAlong calls (call.exec q)

/-- The number of the failure in its series. -/
def EntryKind.nextCount {σ : Type} (K : EntryKind σ) (previous state : σ) : Int :=
  if K.sameSeries previous state then (K.observations previous).failureCount + 1 else 1

/-- A failure whose key is in force reaches the threshold, with the failures before it if it belongs
to their series and by itself if not, and its time to live does not end earlier. -/
def EntryKind.prolongs {σ : Type} (K : EntryKind σ) (entries : Entries σ) (key : String)
    (state : σ) (threshold ttl now : Int) : Bool :=
  (K.find entries key now).all fun previous =>
    threshold ≤ K.nextCount previous state &&
    (K.observations previous).expiresAt.all (· ≤ now + ttl)

/-- The entry under the key of the failure is not in force, or the failure prolongs it. -/
def FailureCall.prolongs (call : FailureCall) (q : Quarantines) : Bool :=
  match call.failure with
  | .volume state =>
    let state := VolumeQuarantineManager.normalize state call.now
    state.volumeID = "" ||
      volumeKind.prolongs q.volume state.volumeID state
        (VolumeQuarantineManager.effectiveThreshold call.threshold)
        (VolumeQuarantineManager.effectiveTTL call.ttl) call.now
  | .hostArtifact state =>
    let state := HostArtifactQuarantineManager.normalize state call.now
    state.key = "" ||
      hostArtifactKind.prolongs q.hostArtifact state.key state
        (HostArtifactQuarantineManager.effectiveThreshold call.threshold)
        (HostArtifactQuarantineManager.effectiveTTL call.ttl) call.now

/-- Every failure of the sequence prolongs the quarantine it finds. -/
def ProlongedAlong : List FailureCall → Quarantines → Bool
  | [], _ => true
  | call :: calls, q => call.prolongs q && ProlongedAlong calls (call.exec q)

namespace EntryKind

variable {σ : Type} {K : EntryKind σ} {entries : Entries σ} {key : String} {previous state : σ}
  {threshold ttl now : Int}

theorem find_eq_some :
    K.find entries key now = some state ↔
      entries.lookup key = some state ∧ (K.observations state).active now = true := by
  simp [find, Option.filter_eq_some_iff]

theorem active_iff {o : Observations} :
    o.active now = true ↔ ∃ expiresAt, o.expiresAt = some expiresAt ∧ now < expiresAt := by
  cases h : o.expiresAt with
  | none => simp [Observations.active, h]
  | some expiresAt => simp [Observations.active, h]

theorem record_expiresAt :
    (K.observations (K.record (some previous) state now threshold ttl)).expiresAt =
      if threshold ≤ K.nextCount previous state then some (now + ttl) else none := by
  rw [record, K.observations_observed]
  cases hsame : K.sameSeries previous state with
  | true => simp [countFailure, nextCount, Option.filter, hsame]
  | false => simp [countFailure, nextCount, Option.filter, hsame]

/-- Recording a failure sustains the quarantines exactly if it prolongs the one of its key. The two
managers look keys up in different ways, which `name` stands for. -/
theorem sustained_insert_iff {get : Entries σ → String → Int → Option σ}
    (name : String → String)
    (hget : ∀ entries key now,
      get entries key now = if trimSpace key = "" then none else K.find entries (name key) now)
    (hblank : trimSpace key ≠ "") (hname : name key = key) (httl : 0 < ttl) :
    K.Sustained get now entries
        (entries.insert key (K.record (entries.lookup key) state now threshold ttl)) ↔
      K.prolongs entries key state threshold ttl now = true := by
  have hafter : ∀ k,
      get (entries.insert key (K.record (entries.lookup key) state now threshold ttl))
      k now = if trimSpace k = "" then none else
        if name k = key then
          (some (K.record (entries.lookup key) state now threshold ttl)).filter
            fun state => (K.observations state).active now
        else K.find entries (name k) now := by
    intro k
    rw [hget, find]
    by_cases hk : name k = key
    · rw [if_pos hk, hk, AList.lookup_insert]
    · rw [if_neg hk, AList.lookup_insert_ne hk, find]
  constructor
  · intro hsustained
    rw [prolongs, Option.all_eq_true]
    intro previous hprevious
    obtain ⟨hlookup, hactive⟩ := find_eq_some.1 hprevious
    obtain ⟨expiresAt, hexpires, -⟩ := active_iff.1 hactive
    -- The entry that replaces `previous` has to be in force as well.
    obtain ⟨state', hstate', hlater⟩ := hsustained key previous (by
      rw [hget, if_neg hblank, hname]
      exact hprevious)
    rw [hafter, if_neg hblank, if_pos hname, Option.filter_eq_some_iff, hlookup] at hstate'
    obtain rfl := Option.some.inj hstate'.1
    obtain ⟨expiresAt', hexpires', hle⟩ := hlater expiresAt hexpires
    rw [Option.mem_def, record_expiresAt] at hexpires'
    split at hexpires'
    · rename_i hcount
      obtain rfl := Option.some.inj hexpires'
      simpa [hcount, hexpires] using hle
    · cases hexpires'
  · intro hprolongs k previous hprevious
    rw [hget] at hprevious
    split at hprevious
    · cases hprevious
    rename_i hk
    rw [hafter, if_neg hk]
    by_cases hkey : name k = key
    · rw [if_pos hkey]
      rw [hkey] at hprevious
      obtain ⟨hlookup, hactive⟩ := find_eq_some.1 hprevious
      have hboth := (Option.all_eq_true _ _).1 hprolongs previous hprevious
      rw [Bool.and_eq_true, decide_eq_true_eq] at hboth
      have hexpiresAt := @record_expiresAt σ K previous state threshold ttl now
      rw [if_pos hboth.1] at hexpiresAt
      refine ⟨K.record (some previous) state now threshold ttl, ?_, fun expiresAt hexpires => ?_⟩
      · rw [hlookup, Option.filter_eq_some_iff]
        exact ⟨rfl, active_iff.2 ⟨_, hexpiresAt, by omega⟩⟩
      · refine ⟨now + ttl, hexpiresAt, ?_⟩
        exact of_decide_eq_true ((Option.all_eq_true _ _).1 hboth.2 expiresAt hexpires)
    · rw [if_neg hkey]
      exact ⟨previous, hprevious, fun expiresAt hexpires => ⟨expiresAt, hexpires, le_rfl⟩⟩

theorem sustained_refl {get : Entries σ → String → Int → Option σ} :
    K.Sustained get now entries entries :=
  fun _ state hstate => ⟨state, hstate, fun expiresAt hexpires => ⟨expiresAt, hexpires, le_rfl⟩⟩

end EntryKind

namespace VolumeQuarantineManager

theorem sustained_markFailure_iff {entries : Entries VolumeQuarantineState}
    {state : VolumeQuarantineState} {threshold ttl now : Int} :
    volumeKind.Sustained getActive now entries (markFailure entries state threshold ttl now).2 ↔
      (decide ((normalize state now).volumeID = "") ||
        volumeKind.prolongs entries (normalize state now).volumeID (normalize state now)
          (effectiveThreshold threshold) (effectiveTTL ttl) now) = true := by
  by_cases hblank : trimSpace state.volumeID = ""
  · have hnormal : (normalize state now).volumeID = "" := hblank
    rw [markFailure, if_pos hblank]
    simp [hnormal, EntryKind.sustained_refl]
  have hnormal : (normalize state now).volumeID ≠ "" := hblank
  have hkey : trimSpace (normalize state now).volumeID ≠ "" := by
    simpa [normalize] using hblank
  have httl : 0 < effectiveTTL ttl := by
    unfold effectiveTTL
    split <;> omega
  rw [markFailure, if_neg hblank]
  simp only [hnormal, decide_false, Bool.false_or]
  exact EntryKind.sustained_insert_iff id (fun _ _ _ => rfl) hkey rfl httl

end VolumeQuarantineManager

namespace HostArtifactQuarantineManager

theorem sustained_markFailure_iff {entries : Entries HostArtifactQuarantineState}
    {state : HostArtifactQuarantineState} {threshold ttl now : Int} :
    hostArtifactKind.Sustained getActive now entries
        (markFailure entries state threshold ttl now).2 ↔
      (decide ((normalize state now).key = "") ||
        hostArtifactKind.prolongs entries (normalize state now).key (normalize state now)
          (effectiveThreshold threshold) (effectiveTTL ttl) now) = true := by
  by_cases hblank : trimSpace state.key = ""
  · have hnormal : (normalize state now).key = "" := hblank
    rw [markFailure, if_pos hblank]
    simp [hnormal, EntryKind.sustained_refl]
  have hnormal : (normalize state now).key ≠ "" := hblank
  have htrim : trimSpace (normalize state now).key = (normalize state now).key := by
    simp [normalize]
  have hkey : trimSpace (normalize state now).key ≠ "" := by
    rw [htrim]
    exact hnormal
  have httl : 0 < effectiveTTL ttl := by
    unfold effectiveTTL
    split <;> omega
  rw [markFailure, if_neg hblank]
  simp only [hnormal, decide_false, Bool.false_or]
  exact EntryKind.sustained_insert_iff trimSpace (fun _ _ _ => rfl) hkey htrim httl

end HostArtifactQuarantineManager

theorem FailureCall.sustained_iff_prolongs {call : FailureCall} {q : Quarantines} :
    q.Sustained call.now (call.exec q) ↔ call.prolongs q = true := by
  unfold Quarantines.Sustained FailureCall.exec FailureCall.prolongs
  cases call.failure with
  | volume state =>
    simp only [EntryKind.sustained_refl, and_true]
    exact VolumeQuarantineManager.sustained_markFailure_iff
  | hostArtifact state =>
    simp only [EntryKind.sustained_refl, true_and]
    exact HostArtifactQuarantineManager.sustained_markFailure_iff

/-- A sequence of failures keeps all quarantines in force, none of them for a shorter time, exactly
if every failure prolongs the quarantine it finds. -/
theorem sustainedAlong_iff_prolongedAlong (calls : List FailureCall) (q : Quarantines) :
    SustainedAlong calls q ↔ ProlongedAlong calls q = true := by
  induction calls generalizing q with
  | nil => simp [SustainedAlong, ProlongedAlong]
  | cons call calls ih =>
    rw [SustainedAlong, ProlongedAlong, Bool.and_eq_true, FailureCall.sustained_iff_prolongs, ih]

/-- A metadata drift of the volume "v", found while it is published to a node. -/
def driftOn (node : String) (now : Int) : FailureCall where
  failure := .volume
    { volumeID := "v"
      reason := "external_repair_required"
      classification := "opennebula_metadata_drift"
      message := "OpenNebula metadata drift detected"
      requestedNode := node
      ownerVMIDs := [7] }
  threshold := 2
  ttl := 1800 * 1000000000
  now

/-- Two failed publishes to "n1" put the volume into quarantine, and a failed publish to "n2" one
second later starts a new series and with it lifts the quarantine. -/
theorem failure_lifts_quarantine :
    ¬ SustainedAlong [driftOn "n1" 0, driftOn "n1" 1000000000, driftOn "n2" 2000000000] ⟨∅, ∅⟩ ∧
    (let quarantined := (driftOn "n1" 1000000000).exec ((driftOn "n1" 0).exec ⟨∅, ∅⟩)
     (VolumeQuarantineManager.getActive quarantined.volume "v" 2000000000).isSome ∧
     VolumeQuarantineManager.getActive ((driftOn "n2" 2000000000).exec quarantined).volume "v"
       2000000000 = none) := by
  have hfound : (VolumeQuarantineManager.getActive ((driftOn "n1" 1000000000).exec
      ((driftOn "n1" 0).exec ⟨∅, ∅⟩)).volume "v" 2000000000).isSome := by
    decide +kernel
  have hlifted : VolumeQuarantineManager.getActive ((driftOn "n2" 2000000000).exec
      ((driftOn "n1" 1000000000).exec ((driftOn "n1" 0).exec ⟨∅, ∅⟩))).volume "v" 2000000000 =
        none := by
    decide +kernel
  refine ⟨fun hsustained => ?_, hfound, hlifted⟩
  obtain ⟨-, -, ⟨hvolume, -⟩, -⟩ := hsustained
  obtain ⟨state, hstate⟩ := Option.isSome_iff_exists.1 hfound
  obtain ⟨state', hstate', -⟩ := hvolume "v" state hstate
  exact absurd (hlifted.symm.trans hstate') (by simp)

end OpenNebulaCSI.Quarantine
