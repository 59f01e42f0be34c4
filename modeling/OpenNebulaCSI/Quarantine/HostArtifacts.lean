import OpenNebulaCSI.Controller.Handlers
import OpenNebulaCSI.Quarantine.Managers

/-!
# Host artifact quarantine along publishes

A stale logical volume on a host makes every attach fail that OpenNebula places in the **slot**
(VM, disk id) it belongs to. `ControllerPublishVolume` therefore puts such a slot into quarantine
and refuses publishes that would use it. The entries are keyed by slot but cleared by volume: a
publish that finds its volume attached, or attaches it, clears every entry which that volume once
caused, also entries of other slots and other VMs (`quarantine_of_other_vm_cleared`).
-/

namespace OpenNebulaCSI.Quarantine

open Go Controller

/-- `opennebula.HostArtifactAttachmentTarget`. -/
structure HostArtifactAttachmentTarget where
  volumeHandle : String := ""
  imageID : Int := 0
  nodeName : String := ""
  vmID : Int := 0
  hostID : Int := 0
  hostName : String := ""
  systemDatastoreID : Int := 0
  systemDatastoreName : String := ""
  systemDatastoreTM : String := ""
  diskID : Int := 0
  target : String := ""
  lvName : String := ""
  deriving DecidableEq

/-- The key of the slot of a VM's disk. -/
def slotKey (vmID diskID : Int) : String :=
  "vm-" ++ toString vmID ++ ".disk-" ++ toString diskID

def HostArtifactAttachmentTarget.key (t : HostArtifactAttachmentTarget) : String :=
  if 0 < t.vmID ∧ 0 < t.diskID then slotKey t.vmID t.diskID
  else if trimSpace t.nodeName ≠ "" ∧ 0 < t.diskID then
    "node-" ++ trimSpace t.nodeName ++ ".disk-" ++ toString t.diskID
  else if 0 < t.vmID then "vm-" ++ toString t.vmID
  else trimSpace t.nodeName

/-- `opennebula.HostArtifactConflictError`; `cause` is the text of the wrapped error. -/
structure HostArtifactConflictError where
  classification : String
  target : HostArtifactAttachmentTarget
  rawMessage : String
  cause : Option String
  deriving DecidableEq

/-- The `Error` method. -/
def HostArtifactConflictError.message (e : HostArtifactConflictError) : String :=
  let classification :=
    if trimSpace e.classification = "" then hostArtifactConflictClassification
    else trimSpace e.classification
  let detail := if trimSpace e.rawMessage = "" then e.cause.getD "" else trimSpace e.rawMessage
  let fields :=
    ["classification=" ++ classification] ++
    (if 0 < e.target.vmID then ["vm=" ++ toString e.target.vmID] else []) ++
    (if trimSpace e.target.nodeName ≠ "" then ["node=" ++ e.target.nodeName] else []) ++
    (if 0 < e.target.diskID then ["disk=" ++ toString e.target.diskID] else []) ++
    (if trimSpace e.target.target ≠ "" then ["target=" ++ e.target.target] else []) ++
    (if trimSpace e.target.lvName ≠ "" then ["lv=" ++ e.target.lvName] else []) ++
    (if detail ≠ "" then ["error=" ++ detail] else [])
  "OpenNebula local host artifact conflict detected: " ++ " ".intercalate fields

/-- The settings of the host artifact quarantine, and Go's formatting of a time. -/
structure HostArtifactConfig where
  enabled : Bool
  failureThreshold : Int
  ttl : Int
  formatTime : Option Int → String

def hostArtifactStateConfigMapName : String :=
  "opennebula-csi-host-artifact-state"

/-- What an operator is told to do about an artifact. -/
def repairHint (lvName key : String) : String :=
  let retry := hostArtifactStateConfigMapName ++ " key " ++ key ++
    " or wait for the TTL before retrying"
  if lvName ≠ "" then
    "read-only quarantine: inspect the OpenNebula VM log and host-local LV " ++ lvName ++
      "; after an operator confirms it is stale and not attached to the VM, repair the host " ++
      "artifact externally, then delete ConfigMap " ++ retry
  else
    "read-only quarantine: inspect the OpenNebula VM log and host-local LVM artifacts; after an " ++
      "operator confirms the artifact is stale, repair it externally, then delete ConfigMap " ++
      retry

def hostArtifactStateFromConflict (volumeID : String) (conflict : HostArtifactConflictError) :
    HostArtifactQuarantineState :=
  let target := conflict.target
  let key := if target.key = "" then trimSpace volumeID else target.key
  { key
    classification :=
      if trimSpace conflict.classification = "" then hostArtifactConflictClassification
      else trimSpace conflict.classification
    reason := hostArtifactReason
    message := conflict.message
    volumeID := trimSpace volumeID
    imageID := target.imageID
    nodeName := target.nodeName
    vmID := target.vmID
    hostID := target.hostID
    hostName := target.hostName
    systemDatastoreID := target.systemDatastoreID
    systemDatastoreName := target.systemDatastoreName
    systemDatastoreTM := target.systemDatastoreTM
    diskID := target.diskID
    target := target.target
    lvName := target.lvName
    repairHint := repairHint target.lvName key }

def hostArtifactQuarantineMessage (cfg : HostArtifactConfig)
    (state : HostArtifactQuarantineState) : String :=
  let period := " until " ++ cfg.formatTime state.expiresAt ++ " after " ++
    toString state.failureCount ++ " matching failure(s)"
  if trimSpace state.message ≠ "" then
    if trimSpace state.repairHint ≠ "" then
      state.message ++ "; " ++ state.repairHint ++ "; host artifact quarantine active" ++ period
    else state.message ++ "; host artifact quarantine active" ++ period
  else "host artifact quarantine active for " ++ state.key ++ period

/-! ## The steps of a publish -/

abbrev HostArtifacts :=
  Entries HostArtifactQuarantineState

/-- The target is the answer of `InspectHostArtifactAttachmentTarget`. -/
def rejectIfHostArtifactQuarantineActive (cfg : HostArtifactConfig) (entries : HostArtifacts)
    (target : Except GoError (Option HostArtifactAttachmentTarget)) (now : Int) : Option GoError :=
  if !cfg.enabled then none
  else if entries.keys.isEmpty then none
  else
    match target with
    | .error _ | .ok none => none
    | .ok (some target) =>
      match HostArtifactQuarantineManager.getActive entries target.key now with
      | none => none
      | some state => some (.status .failedPrecondition (hostArtifactQuarantineMessage cfg state))

def handleHostArtifactConflict (cfg : HostArtifactConfig) (entries : HostArtifacts)
    (volumeID : String) (conflict : HostArtifactConflictError) (now : Int) :
    GoError × HostArtifacts :=
  if !cfg.enabled then (.status .failedPrecondition conflict.message, entries)
  else
    let state := hostArtifactStateFromConflict volumeID conflict
    let ((state, active), entries) := HostArtifactQuarantineManager.markFailure entries state
      cfg.failureThreshold cfg.ttl now
    let message := if active then hostArtifactQuarantineMessage cfg state else state.message
    (.status .failedPrecondition message, entries)

/-- The deletions commute, so the order in which Go ranges over the map does not matter. -/
def clearHostArtifactQuarantineForVolume (entries : HostArtifacts) (volumeID : String) :
    HostArtifacts :=
  if trimSpace volumeID = "" then entries
  else
    entries.entries.foldl (fun rest entry =>
      if trimSpace entry.2.volumeID ≠ trimSpace volumeID then rest
      else HostArtifactQuarantineManager.clear rest entry.1) entries

/-- What the queue makes of a request: it fails it, it finds the work done, or it runs it. -/
inductive QueueAnswer where
  | refused (err : GoError)
  | completed
  | executed

/-- The answer of `AttachVolume`. The disk id of a new disk is chosen by OpenNebula. -/
inductive AttachAnswer where
  | attached (diskID : Int)
  | conflict (err : HostArtifactConflictError)
  | failed (err : ProviderError)

/-- Everything a publish of a disk is answered on its way. -/
structure PublishAnswers where
  volumeExists : Except LookupError Int
  nodeExists : Except LookupError Int
  /-- Whether the first `GetVolumeInNode` finds the volume. -/
  attached : Bool
  /-- The refusal of `maintenanceBlocksPublish` or `hotplugCooldownState`. -/
  blocked : Option GoError
  queue : QueueAnswer
  /-- The result of `reuseStickyAttachment` if it settles the request. -/
  reused : Option (Option GoError)
  /-- Whether `GetVolumeInNode` finds the volume under the locks. -/
  attachedUnderLocks : Bool
  drift : Option GoError
  target : Except GoError (Option HostArtifactAttachmentTarget)
  checkedAt : Int
  sizeBytes : Except LookupError Int
  attach : AttachAnswer
  markedAt : Int
  /-- Whether `GetVolumeInNode` finds the volume after the attach. -/
  confirmed : Bool
  finishedAt : Int

/-- What a publish leaves behind: its error, the slot of a disk it has attached, and the entries. -/
structure Published where
  err : Option GoError
  used : Option (Int × Int)
  entries : HostArtifacts

/-- The queued attach, below its two locks. -/
def attachUnderLocks (cfg : HostArtifactConfig) (volumeId : String) (nodeID : Int)
    (ans : PublishAnswers) (entries : HostArtifacts) : Published :=
  match ans.reused with
  | some err => { err, used := none, entries }
  | none =>
    if ans.attachedUnderLocks then
      { err := none, used := none
        entries := clearHostArtifactQuarantineForVolume entries volumeId }
    else
      match ans.drift with
      | some err => { err := some err, used := none, entries }
      | none =>
        match rejectIfHostArtifactQuarantineActive cfg entries ans.target ans.checkedAt with
        | some err => { err := some err, used := none, entries }
        | none =>
          match ans.sizeBytes with
          | .error _ =>
            { err := some (.status .internal "failed to resolve volume size")
              used := none, entries }
          | .ok _ =>
            match ans.attach with
            | .conflict conflict =>
              let (err, entries) :=
                handleHostArtifactConflict cfg entries volumeId conflict ans.markedAt
              { err := some err, used := none, entries }
            | .failed err =>
              { err := some (providerStatus "failed to attach volume" err)
                used := none, entries }
            | .attached diskID =>
              { err :=
                  if ans.confirmed then none
                  else some (.status .internal "failed to get volume in node")
                used := some (nodeID, diskID)
                entries := clearHostArtifactQuarantineForVolume entries volumeId }

/-- `ControllerPublishVolume` for a disk, as far as it concerns the host artifact quarantine. -/
def publishDisk (cfg : HostArtifactConfig) (volumeId : String) (ans : PublishAnswers)
    (entries : HostArtifacts) : Published :=
  match ans.volumeExists with
  | .error _ => { err := some (.status .notFound "volume not found"), used := none, entries }
  | .ok volumeID =>
    if volumeID = -1 then
      { err := some (.status .notFound "volume not found"), used := none, entries }
    else
      match ans.nodeExists with
      | .error _ => { err := some (.status .notFound "node not found"), used := none, entries }
      | .ok nodeID =>
        if nodeID = -1 then
          { err := some (.status .notFound "node not found"), used := none, entries }
        else if ans.attached then
          { err := none, used := none
            entries := clearHostArtifactQuarantineForVolume entries volumeId }
        else
          match ans.blocked with
          | some err => { err := some err, used := none, entries }
          | none =>
            match ans.queue with
            | .refused err => { err := some (queueStatus err), used := none, entries }
            | .completed => { err := none, used := none, entries }
            | .executed =>
              let published := attachUnderLocks cfg volumeId nodeID ans entries
              { published with err := published.err.map queueStatus }

/-! ## Sequences of publishes -/

/-- Every slot in quarantine that the publish has not used is still in quarantine when it
returns. -/
def Published.Keeps (published : Published) (entries : HostArtifacts) (now : Int) : Prop :=
  ∀ vmID diskID, 0 < vmID → 0 < diskID → published.used ≠ some (vmID, diskID) →
    (HostArtifactQuarantineManager.getActive entries (slotKey vmID diskID) now).isSome →
    (HostArtifactQuarantineManager.getActive published.entries (slotKey vmID diskID) now).isSome

/-- A publish of a volume, with what it is answered. -/
structure PublishCall where
  volumeId : String
  answers : PublishAnswers

def PublishCall.exec (cfg : HostArtifactConfig) (call : PublishCall) (entries : HostArtifacts) :
    Published :=
  publishDisk cfg call.volumeId call.answers entries

/-- Every publish of the sequence keeps the slots it has not used in quarantine. -/
def KeptAlong (cfg : HostArtifactConfig) : List PublishCall → HostArtifacts → Prop
  | [], _ => True
  | call :: calls, entries =>
    (call.exec cfg entries).Keeps entries call.answers.finishedAt ∧
      KeptAlong cfg calls (call.exec cfg entries).entries

/-- The volume and the node exist; the id is the node's. -/
def PublishAnswers.node? (ans : PublishAnswers) : Option Int :=
  match ans.volumeExists, ans.nodeExists with
  | .ok volumeID, .ok nodeID => if volumeID = -1 ∨ nodeID = -1 then none else some nodeID
  | _, _ => none

/-- The request runs through the queue and reuses no sticky attachment. -/
def PublishAnswers.reachesLocks (ans : PublishAnswers) : Bool :=
  ans.node?.isSome && !ans.attached && ans.blocked.isNone &&
    (match ans.queue with | .executed => true | _ => false) && ans.reused.isNone

/-- The volume is found on the node. -/
def PublishAnswers.findsVolume (ans : PublishAnswers) : Bool :=
  ans.node?.isSome && ans.attached || ans.reachesLocks && ans.attachedUnderLocks

/-- No check before `AttachVolume` fails. -/
def PublishCall.attaches (cfg : HostArtifactConfig) (call : PublishCall)
    (entries : HostArtifacts) : Bool :=
  call.answers.reachesLocks && !call.answers.attachedUnderLocks && call.answers.drift.isNone &&
    (rejectIfHostArtifactQuarantineActive cfg entries call.answers.target
      call.answers.checkedAt).isNone &&
    (match call.answers.sizeBytes with | .ok _ => true | .error _ => false)

/-- Some entry under the key, up to blanks around it, was caused by the volume. -/
def causedBy (entries : HostArtifacts) (volumeID key : String) : Prop :=
  trimSpace volumeID ≠ "" ∧ ∃ entry ∈ entries.entries,
    trimSpace entry.2.volumeID = trimSpace volumeID ∧ trimSpace entry.1 = key

/-- The slots in quarantine that the publish may end without using them: where the volume is found,
none of them was caused by it; where it is attached, only the slot of the new disk was; and where
the attach meets a conflict, the conflict of a slot in quarantine prolongs the quarantine. -/
def PublishCall.Spares (cfg : HostArtifactConfig) (call : PublishCall)
    (entries : HostArtifacts) : Prop :=
  ∀ vmID diskID, 0 < vmID → 0 < diskID →
    (HostArtifactQuarantineManager.getActive entries (slotKey vmID diskID)
      call.answers.finishedAt).isSome →
    (call.answers.findsVolume = true →
      ¬ causedBy entries call.volumeId (trimSpace (slotKey vmID diskID))) ∧
    (call.attaches cfg entries = true → match call.answers.attach with
      | .attached newDisk =>
        call.answers.node? = some vmID ∧ newDisk = diskID ∨
          ¬ causedBy entries call.volumeId (trimSpace (slotKey vmID diskID))
      | .conflict conflict =>
        cfg.enabled = true →
        trimSpace (hostArtifactStateFromConflict call.volumeId conflict).key =
          trimSpace (slotKey vmID diskID) →
        ∀ previous ∈ entries.lookup (trimSpace (slotKey vmID diskID)),
          HostArtifactQuarantineManager.effectiveThreshold cfg.failureThreshold ≤
            hostArtifactKind.nextCount previous (HostArtifactQuarantineManager.normalize
              (hostArtifactStateFromConflict call.volumeId conflict) call.answers.markedAt) ∧
          call.answers.finishedAt <
            call.answers.markedAt + HostArtifactQuarantineManager.effectiveTTL cfg.ttl
      | .failed _ => True)

/-- Every publish of the sequence spares the slots it has not used. -/
def SparedAlong (cfg : HostArtifactConfig) : List PublishCall → HostArtifacts → Prop
  | [], _ => True
  | call :: calls, entries =>
    call.Spares cfg entries ∧ SparedAlong cfg calls (call.exec cfg entries).entries

/-! ## One publish -/

namespace HostArtifactQuarantineManager

theorem getActive_isSome {entries : HostArtifacts} {key : String} {now : Int} :
    (getActive entries key now).isSome ↔
      trimSpace key ≠ "" ∧
        ∃ state, entries.lookup (trimSpace key) = some state ∧ state.active now = true := by
  unfold getActive
  split
  · rename_i hblank
    simp [hblank]
  rename_i hblank
  rw [Option.isSome_iff_exists]
  simp only [EntryKind.find_eq_some, ne_eq, hblank, not_false_eq_true, true_and]
  exact Iff.rfl

theorem lookup_clear {entries : HostArtifacts} {key other : String} (hother : other ≠ "") :
    (clear entries key).lookup other =
      if trimSpace key = other then none else entries.lookup other := by
  unfold clear
  split
  · rename_i hblank
    rw [if_neg (by rw [hblank]; exact Ne.symm hother)]
  by_cases hkey : trimSpace key = other
  · rw [if_pos hkey, hkey, AList.lookup_erase]
  · rw [if_neg hkey, AList.lookup_erase_ne (Ne.symm hkey)]

end HostArtifactQuarantineManager

section Clear

variable {entries : HostArtifacts} {volumeID key : String}

/-- Clearing the entries of a list that were caused by a volume. The induction is over the list,
with the entries that are left so far. -/
theorem lookup_foldl_clear (hkey : key ≠ "") (list : List (Sigma fun _ : String =>
      HostArtifactQuarantineState)) (rest : HostArtifacts) :
    (list.foldl (fun rest entry =>
      if trimSpace entry.2.volumeID ≠ trimSpace volumeID then rest
      else HostArtifactQuarantineManager.clear rest entry.1) rest).lookup key =
    if list.any (fun entry => trimSpace entry.2.volumeID = trimSpace volumeID &&
        trimSpace entry.1 = key) then none else rest.lookup key := by
  induction list generalizing rest with
  | nil => rfl
  | cons entry list ih =>
    rw [List.foldl_cons, ih, List.any_cons]
    generalize list.any _ = later
    by_cases hvolume : trimSpace entry.2.volumeID = trimSpace volumeID
    · rw [if_neg (not_not.2 hvolume), HostArtifactQuarantineManager.lookup_clear hkey]
      by_cases hentry : trimSpace entry.1 = key <;> cases later <;> simp [hvolume, hentry]
    · rw [if_pos hvolume]
      cases later <;> simp [hvolume]

theorem lookup_clearHostArtifactQuarantineForVolume (hkey : key ≠ "") :
    (causedBy entries volumeID key →
      (clearHostArtifactQuarantineForVolume entries volumeID).lookup key = none) ∧
    (¬ causedBy entries volumeID key →
      (clearHostArtifactQuarantineForVolume entries volumeID).lookup key = entries.lookup key) := by
  unfold clearHostArtifactQuarantineForVolume causedBy
  by_cases hblank : trimSpace volumeID = ""
  · rw [if_pos hblank]
    exact ⟨fun h => absurd hblank h.1, fun _ => rfl⟩
  rw [if_neg hblank, lookup_foldl_clear hkey]
  constructor
  · intro h
    refine if_pos ?_
    simpa using h.2
  · intro h
    refine if_neg fun hany => h ⟨hblank, ?_⟩
    simpa using hany

/-- A slot stays in quarantine exactly if the volume did not cause its entry. -/
theorem getActive_clear_iff {vmID diskID now : Int}
    (hactive : (HostArtifactQuarantineManager.getActive entries (slotKey vmID diskID) now).isSome) :
    (HostArtifactQuarantineManager.getActive
        (clearHostArtifactQuarantineForVolume entries volumeID) (slotKey vmID diskID) now).isSome ↔
      ¬ causedBy entries volumeID (trimSpace (slotKey vmID diskID)) := by
  obtain ⟨hblank, state, hlookup, hstate⟩ :=
    HostArtifactQuarantineManager.getActive_isSome.1 hactive
  obtain ⟨hgone, hkept⟩ := @lookup_clearHostArtifactQuarantineForVolume entries volumeID _ hblank
  rw [HostArtifactQuarantineManager.getActive_isSome]
  constructor
  · rintro ⟨-, state', hlookup', -⟩ hcaused
    rw [hgone hcaused] at hlookup'
    cases hlookup'
  · intro hcaused
    exact ⟨hblank, state, (hkept hcaused).trans hlookup, hstate⟩

end Clear

namespace HostArtifactQuarantineManager

variable {entries : HostArtifacts} {state : HostArtifactQuarantineState} {key : String}
  {threshold ttl now later : Int}

theorem lookup_markFailure (hkey : key ≠ "") :
    (markFailure entries state threshold ttl now).2.lookup key =
      if trimSpace state.key = key then
        some (hostArtifactKind.record (entries.lookup key) (normalize state now) now
          (effectiveThreshold threshold) (effectiveTTL ttl))
      else entries.lookup key := by
  unfold markFailure
  by_cases hstate : trimSpace state.key = key
  · subst hstate
    rw [if_neg hkey, if_pos rfl]
    exact AList.lookup_insert _
  rw [if_neg hstate]
  split
  · rfl
  · exact AList.lookup_insert_ne (Ne.symm hstate)

/-- A key in quarantine stays so exactly if the failure is about another key or prolongs it. -/
theorem getActive_markFailure_iff (hactive : (getActive entries key later).isSome) :
    (getActive (markFailure entries state threshold ttl now).2 key later).isSome ↔
      (trimSpace state.key = trimSpace key → ∀ previous ∈ entries.lookup (trimSpace key),
        effectiveThreshold threshold ≤ hostArtifactKind.nextCount previous (normalize state now) ∧
        later < now + effectiveTTL ttl) := by
  obtain ⟨hblank, previous, hlookup, hprevious⟩ := getActive_isSome.1 hactive
  rw [getActive_isSome, lookup_markFailure hblank]
  by_cases hkey : trimSpace state.key = trimSpace key
  · have hexpiresAt := @EntryKind.record_expiresAt _ hostArtifactKind previous
      (normalize state now) (effectiveThreshold threshold) (effectiveTTL ttl) now
    simp only [hkey, if_true, hlookup, Option.mem_def, Option.some.injEq, forall_eq', forall_const,
      ne_eq, hblank, not_false_eq_true, true_and, exists_eq_left']
    rw [EntryKind.active_iff]
    constructor
    · rintro ⟨expiresAt, hexpires, hlater⟩
      have hexpires := hexpiresAt.symm.trans hexpires
      split at hexpires
      · rename_i hcount
        obtain rfl := Option.some.inj hexpires
        exact ⟨hcount, hlater⟩
      · cases hexpires
    · rintro ⟨hcount, hlater⟩
      rw [if_pos hcount] at hexpiresAt
      exact ⟨_, hexpiresAt, hlater⟩
  · rw [if_neg hkey]
    exact ⟨fun _ h => absurd h hkey, fun _ => ⟨hblank, previous, hlookup, hprevious⟩⟩

end HostArtifactQuarantineManager

/-! ## Which way a publish takes -/

namespace PublishCall

variable {cfg : HostArtifactConfig} {call : PublishCall} {entries : HostArtifacts} {nodeID : Int}

theorem exec_of_node (hnode : call.answers.node? = some nodeID) :
    call.exec cfg entries =
      if call.answers.attached then
        { err := none, used := none
          entries := clearHostArtifactQuarantineForVolume entries call.volumeId }
      else
        match call.answers.blocked with
        | some err => { err := some err, used := none, entries }
        | none =>
          match call.answers.queue with
          | .refused err => { err := some (queueStatus err), used := none, entries }
          | .completed => { err := none, used := none, entries }
          | .executed =>
            let published := attachUnderLocks cfg call.volumeId nodeID call.answers entries
            { published with err := published.err.map queueStatus } := by
  unfold PublishAnswers.node? at hnode
  split at hnode
  · rename_i volumeID node hvolume hfound
    split at hnode
    · cases hnode
    rename_i hne
    obtain rfl := Option.some.inj hnode
    rw [not_or] at hne
    simp only [exec, publishDisk, hvolume, hfound, if_neg hne.1, if_neg hne.2]
  · cases hnode

theorem exec_of_no_node (hnode : call.answers.node? = none) :
    (call.exec cfg entries).used = none ∧ (call.exec cfg entries).entries = entries := by
  unfold PublishAnswers.node? at hnode
  unfold exec publishDisk
  split at hnode
  · rename_i volumeID node hvolume hfound
    split at hnode
    · rename_i hor
      simp only [hvolume, hfound]
      by_cases hvol : volumeID = -1
      · simp [hvol]
      · simp [hvol, hor.resolve_left hvol]
    · cases hnode
  · rename_i hnone
    cases hvolume : call.answers.volumeExists with
    | error err => exact ⟨rfl, rfl⟩
    | ok volumeID => ?_
    cases hfound : call.answers.nodeExists with
    | error err => by_cases hvol : volumeID = -1 <;> simp [hvol]
    | ok node => exact (hnone volumeID node hvolume hfound).elim

/-- The slot a publish has used and the entries it leaves, by the way it takes. -/
theorem exec_effect (hnode : call.answers.node? = some nodeID) :
    ((call.exec cfg entries).used, (call.exec cfg entries).entries) =
      if call.answers.findsVolume then
        (none, clearHostArtifactQuarantineForVolume entries call.volumeId)
      else if call.attaches cfg entries then
        match call.answers.attach with
        | .attached diskID =>
          (some (nodeID, diskID), clearHostArtifactQuarantineForVolume entries call.volumeId)
        | .conflict conflict =>
          (none, (handleHostArtifactConflict cfg entries call.volumeId conflict
            call.answers.markedAt).2)
        | .failed _ => (none, entries)
      else (none, entries) := by
  rw [exec_of_node hnode]
  unfold PublishAnswers.findsVolume attaches PublishAnswers.reachesLocks
  cases call.answers.attached with
  | true => simp [hnode]
  | false => ?_
  cases call.answers.blocked with
  | some err => simp
  | none => ?_
  cases call.answers.queue with
  | refused err => simp
  | completed => simp
  | executed => ?_
  unfold attachUnderLocks
  cases call.answers.reused with
  | some err => simp
  | none => ?_
  cases call.answers.attachedUnderLocks with
  | true => simp [hnode]
  | false => ?_
  cases call.answers.drift with
  | some err => simp
  | none => ?_
  cases rejectIfHostArtifactQuarantineActive cfg entries
      call.answers.target call.answers.checkedAt with
  | some err => simp
  | none =>
    cases call.answers.sizeBytes with
    | error err => simp
    | ok sizeBytes => cases call.answers.attach <;> simp [hnode]

theorem not_findsVolume_of_no_node (hnode : call.answers.node? = none) :
    call.answers.findsVolume = false ∧ call.attaches cfg entries = false := by
  simp [PublishAnswers.findsVolume, attaches, PublishAnswers.reachesLocks, hnode]

theorem not_findsVolume_of_attaches (h : call.attaches cfg entries = true) :
    call.answers.findsVolume = false := by
  simp only [attaches, PublishAnswers.reachesLocks, Bool.and_eq_true, Bool.not_eq_true'] at h
  simp [PublishAnswers.findsVolume, h]

/-- A publish keeps the slots it has not used in quarantine exactly if it spares them. -/
theorem keeps_iff_spares :
    (call.exec cfg entries).Keeps entries call.answers.finishedAt ↔ call.Spares cfg entries := by
  unfold Published.Keeps Spares
  -- Both sides speak of one slot at a time.
  refine forall_congr' fun vmID => forall_congr' fun diskID => forall_congr' fun hvm =>
    forall_congr' fun hdisk => ?_
  rw [imp.swap]
  refine forall_congr' fun hactive => ?_
  cases hnode : call.answers.node? with
  | none =>
    obtain ⟨hused, hentries⟩ := @exec_of_no_node cfg call entries hnode
    obtain ⟨hfinds, hattaches⟩ := @not_findsVolume_of_no_node cfg call entries hnode
    simp [hused, hentries, hfinds, hattaches, hactive]
  | some nodeID =>
    have heffect := @exec_effect cfg call entries nodeID hnode
    by_cases hfinds : call.answers.findsVolume = true
    · have hattaches : ¬ call.attaches cfg entries = true := by
        intro h
        simp [not_findsVolume_of_attaches h] at hfinds
      rw [if_pos hfinds] at heffect
      obtain ⟨hused, hentries⟩ := Prod.mk.inj heffect
      simp only [hused, hentries, hfinds, hattaches, forall_const, false_implies, and_true, ne_eq,
        reduceCtorEq, not_false_eq_true]
      exact getActive_clear_iff hactive
    · rw [if_neg hfinds] at heffect
      rw [Bool.not_eq_true] at hfinds
      simp only [hfinds, Bool.false_eq_true, false_implies, true_and]
      by_cases hattaches : call.attaches cfg entries = true
      · rw [if_pos hattaches] at heffect
        simp only [hattaches, forall_const]
        cases hattach : call.answers.attach with
        | attached newDisk =>
          rw [hattach] at heffect
          obtain ⟨hused, hentries⟩ := Prod.mk.inj heffect
          simp only [hused, hentries, getActive_clear_iff hactive, ne_eq, Option.some.injEq,
            Prod.mk.injEq]
          exact Decidable.imp_iff_not_or.trans (or_congr Decidable.not_not Iff.rfl)
        | conflict conflict =>
          rw [hattach] at heffect
          obtain ⟨hused, hentries⟩ := Prod.mk.inj heffect
          simp only [hused, hentries, ne_eq, reduceCtorEq, not_false_eq_true, forall_const]
          unfold handleHostArtifactConflict
          cases cfg.enabled with
          | false => simpa using hactive
          | true =>
            simp only [Bool.not_true, Bool.false_eq_true, if_false, forall_const]
            exact HostArtifactQuarantineManager.getActive_markFailure_iff hactive
        | failed err =>
          rw [hattach] at heffect
          obtain ⟨hused, hentries⟩ := Prod.mk.inj heffect
          simpa [hused, hentries] using hactive
      · rw [if_neg hattaches] at heffect
        obtain ⟨hused, hentries⟩ := Prod.mk.inj heffect
        simpa [hused, hentries, hattaches] using hactive

end PublishCall

def defaultHostArtifacts : HostArtifactConfig where
  enabled := true
  failureThreshold := 1
  ttl := 3600 * 1000000000
  formatTime time := toString (time.getD 0)

/-- A publish that gets as far as `AttachVolume` on the VM. -/
def publishOn (vmID : Int) (attach : AttachAnswer) (now : Int) : PublishCall where
  volumeId := "v"
  answers :=
    { volumeExists := .ok 12
      nodeExists := .ok vmID
      attached := false
      blocked := none
      queue := .executed
      reused := none
      attachedUnderLocks := false
      drift := none
      target := .ok none
      checkedAt := now
      sizeBytes := .ok 1073741824
      attach
      markedAt := now
      confirmed := true
      finishedAt := now }

/-- The attach of "v" to VM 5 meets a stale logical volume in the slot of disk 3. -/
def staleVolume : HostArtifactConflictError where
  classification := hostArtifactConflictClassification
  target :=
    { volumeHandle := "v", nodeName := "n5", vmID := 5, diskID := 3, lvName := "lv-one-5-3" }
  rawMessage := "lvcreate failed: logical volume already exists"
  cause := none

end OpenNebulaCSI.Quarantine
