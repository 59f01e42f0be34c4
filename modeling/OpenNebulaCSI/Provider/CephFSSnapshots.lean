import Mathlib.Logic.Function.Basic
import OpenNebulaCSI.Provider.Datastores
import OpenNebulaCSI.Provider.Listing

/-!
# Snapshots of CephFS volumes

The id of a CephFS snapshot is an encoding of a record about it. `CreateSharedSnapshot` puts the
creation time and the current size of the volume into that record, `ListSharedSnapshots` leaves both
out. So one snapshot has several ids: after the volume has been resized, and in every listing.
`snapshotIDs_agree_iff` says so for whole histories of calls: the reports identify the snapshots if
and only if the two numbers agree in all reports of each snapshot.
-/

namespace OpenNebulaCSI.Provider

open Go Controller Listing List Option

/-- The fields of `SharedVolumeMetadata` the snapshot calls read. -/
structure SharedVolumeMetadata where
  datastoreID : Int
  mode : String
  fsName : String
  subvolumeGroup : String
  subpath : String
  subvolumeName : String
  deriving DecidableEq

structure SharedVolumeSnapshotMetadata where
  datastoreID : Int
  backend : String
  fsName : String
  subvolumeGroup : String
  subvolumeName : String
  snapshotName : String
  sourceVolumeID : String
  creationUnix : Int
  sizeBytes : Int
  deriving DecidableEq

/-- The JSON and base64 encodings of ids, with their prefixes. -/
structure SharedIDCodec where
  parseVolumeID : String → Except GoError SharedVolumeMetadata
  parseSnapshotID : String → Except GoError SharedVolumeSnapshotMetadata
  encodeSharedVolumeSnapshotID : SharedVolumeSnapshotMetadata → String
  encode_injective : Function.Injective encodeSharedVolumeSnapshotID

/-! ## The Ceph cluster -/

/-- A subvolume as the commands name it. -/
structure SubvolumeRef where
  datastoreID : Int
  fsName : String
  subvolumeGroup : String
  subvolumeName : String
  deriving DecidableEq

/-- A subvolume: its quota, which is 0 if there is none, and its snapshots with their creation times
in nanoseconds, if these can be read. -/
structure Subvolume where
  bytesQuota : Int
  bytesUsed : Int
  snapshots : List (String × Option Int)
  deriving DecidableEq

abbrev Cluster :=
  SubvolumeRef → Option Subvolume

/-- What a call finds besides the cluster: the datastores, the secrets, the time, and which commands
fail. -/
structure CallContext where
  datastores : Except GoError (List DatastoreSchema)
  secrets : StringMap
  now : Int
  /-- The creation time Ceph records for a new snapshot. -/
  created : Option Int
  snapshotCreate : Option GoError
  snapshotInfo : String → Option GoError
  subvolumeInfo : Option GoError
  snapshotList : Option GoError

/-- The error of a command on something that does not exist. -/
def cephNotFound : GoError :=
  .plain "ceph command failed: exit status 2: Error ENOENT"

def requireCephSecrets (secrets : StringMap) : Except ProviderError Unit :=
  if trimSpace (secrets.get "adminID") = "" ∨ trimSpace (secrets.get "adminKey") = "" then
    .error (.datastoreConfig (.plain
      "CephFS provisioning requires secret keys \"adminID\" and \"adminKey\""))
  else .ok ()

/-- A command that reads: it needs the secrets, may fail, and needs the subvolume. -/
def readSubvolume (ctx : CallContext) (failure : Option GoError) (cluster : Cluster)
    (ref : SubvolumeRef) : Except ProviderError Subvolume :=
  match requireCephSecrets ctx.secrets with
  | .error err => .error err
  | .ok () =>
    match failure with
    | some err => .error (.other err)
    | none =>
      match cluster ref with
      | none => .error (.other cephNotFound)
      | some subvolume => .ok subvolume

/-- `getSnapshotInfo`: the creation time, which is the current time if it cannot be read. -/
def getSnapshotInfo (ctx : CallContext) (cluster : Cluster) (ref : SubvolumeRef) (name : String) :
    Except ProviderError Int :=
  match readSubvolume ctx (ctx.snapshotInfo name) cluster ref with
  | .error err => .error err
  | .ok subvolume =>
    match subvolume.snapshots.lookup name with
    | none => .error (.other cephNotFound)
    | some createdAt => .ok (createdAt.getD ctx.now)

/-- The size a snapshot is reported with: the quota of the subvolume, or else the used bytes, and 0
if the subvolume cannot be inspected. -/
def reportedSize (ctx : CallContext) (cluster : Cluster) (ref : SubvolumeRef) : Int :=
  match readSubvolume ctx ctx.subvolumeInfo cluster ref with
  | .error _ => 0
  | .ok subvolume => if subvolume.bytesQuota = 0 then subvolume.bytesUsed else subvolume.bytesQuota

def listSnapshotNames (ctx : CallContext) (cluster : Cluster) (ref : SubvolumeRef) :
    Except ProviderError (List String) :=
  match readSubvolume ctx ctx.snapshotList cluster ref with
  | .error err => .error err
  | .ok subvolume =>
    .ok ((subvolume.snapshots.map Prod.fst).filter fun name => trimSpace name ≠ "")

def isCephAlreadyExistsError (tables : LetterTables) (err : GoError) : Bool :=
  contains (tables.toLower err.message) "already exists" ||
    contains (tables.toLower err.message) "eexist"

/-- The cluster once a snapshot has been made; a snapshot of that name is left as it is. -/
def addSnapshot (cluster : Cluster) (ref : SubvolumeRef) (name : String) (createdAt : Option Int) :
    Cluster :=
  fun other =>
    if other = ref then
      (cluster ref).map fun subvolume =>
        if (subvolume.snapshots.lookup name).isSome then subvolume
        else { subvolume with snapshots := subvolume.snapshots ++ [(name, createdAt)] }
    else cluster other

def createSubvolumeSnapshot (tables : LetterTables) (ctx : CallContext) (cluster : Cluster)
    (ref : SubvolumeRef) (name : String) : Except ProviderError Unit × Cluster :=
  match requireCephSecrets ctx.secrets with
  | .error err => (.error err, cluster)
  | .ok () =>
    match ctx.snapshotCreate with
    | some err =>
      if isCephAlreadyExistsError tables err then (.ok (), cluster)
      else (.error (.other err), cluster)
    | none =>
      match cluster ref with
      | none => (.error (.other cephNotFound), cluster)
      | some _ => (.ok (), addSnapshot cluster ref name ctx.created)

/-! ## The calls -/

/-- `invalidSubvolumeChars.ReplaceAllString`: a run of other characters becomes a dash. -/
def replaceInvalidRuns : Bool → List Char → List Char
  | _, [] => []
  | inRun, c :: rest =>
    if ('a' ≤ c ∧ c ≤ 'z') ∨ ('0' ≤ c ∧ c ≤ '9') ∨ c = '-' then c :: replaceInvalidRuns false rest
    else if inRun then replaceInvalidRuns true rest
    else '-' :: replaceInvalidRuns true rest

/-- The name is ASCII once the other characters are replaced, so 96 bytes are 96 characters. -/
def sanitizeCephFSSnapshotName (tables : LetterTables) (name : String) : String :=
  let normalized := trimDashes
    (String.ofList (replaceInvalidRuns false (tables.toLower (trimSpace name)).toList))
  if normalized = "" then "one-csi-snapshot"
  else
    let named :=
      if hasPrefix normalized "one-csi-snap-" then normalized else "one-csi-snap-" ++ normalized
    if 96 < named.length then trimDashes (String.ofList (named.toList.take 96)) else named

section Calls

variable (tables : LetterTables) (codec : SharedIDCodec)

def decodeSharedVolumeID (volumeID : String) : Except ProviderError SharedVolumeMetadata :=
  if !isSharedFilesystemVolumeID volumeID then
    .error (.datastoreConfig (.plain
      ("volume ID \"" ++ volumeID ++ "\" is not a shared filesystem volume")))
  else
    match codec.parseVolumeID volumeID with
    | .error err => .error (.datastoreConfig err)
    | .ok metadata =>
      if metadata.datastoreID ≤ 0 ∨ metadata.fsName = "" ∨ metadata.subpath = "" then
        .error (.datastoreConfig (.plain
          ("shared volume ID \"" ++ volumeID ++ "\" is missing required metadata")))
      else .ok metadata

def decodeSharedVolumeSnapshotID (value : String) :
    Except ProviderError SharedVolumeSnapshotMetadata :=
  if !hasPrefix (trimSpace value) "cephfs-snapshot:" then
    .error (.datastoreConfig (.plain
      ("invalid shared filesystem snapshot ID \"" ++ value ++ "\"")))
  else
    match codec.parseSnapshotID value with
    | .error err => .error (.datastoreConfig err)
    | .ok metadata =>
      if metadata.datastoreID ≤ 0 ∨ metadata.fsName = "" ∨ metadata.subvolumeName = "" ∨
          metadata.snapshotName = "" then
        .error (.datastoreConfig (.plain
          ("shared filesystem snapshot ID \"" ++ value ++ "\" is missing required metadata")))
      else
        .ok { metadata with
          backend := if metadata.backend = "" then "cephfs" else metadata.backend }

/-- The datastore of a shared volume or snapshot still exists and is a CephFS datastore. -/
def requireCephFSDatastore (ctx : CallContext) (what id : String) (datastoreID : Int) :
    Except ProviderError Unit :=
  match ctx.datastores with
  | .error err =>
    .error (.other (err.wrap
      ("failed to inspect datastores for shared " ++ what ++ " \"" ++ id ++ "\": ")))
  | .ok pool =>
    match pool.find? fun ds => ds.id = datastoreID with
    | none =>
      .error (.datastoreConfig (.plain ("datastore " ++ itoa datastoreID ++ " was not found")))
    | some source =>
      if (datastoreFromSchema tables source).cephFS then .ok ()
      else
        .error (.datastoreConfig (.plain ("datastore " ++ itoa datastoreID ++
          " no longer validates as a CephFS datastore")))

/-- `validateSharedVolume`. -/
def validateSharedVolume (ctx : CallContext) (volumeID : String) :
    Except ProviderError SharedVolumeMetadata :=
  match decodeSharedVolumeID codec volumeID with
  | .error err => .error err
  | .ok metadata =>
    (requireCephFSDatastore tables ctx "volume" volumeID metadata.datastoreID).map
      fun _ => metadata

/-- `validateSharedSnapshot`. -/
def validateSharedSnapshot (ctx : CallContext) (snapshotID : String) :
    Except ProviderError SharedVolumeSnapshotMetadata :=
  match decodeSharedVolumeSnapshotID codec snapshotID with
  | .error err => .error err
  | .ok metadata =>
    (requireCephFSDatastore tables ctx "snapshot" snapshotID metadata.datastoreID).map
      fun _ => metadata

def SharedVolumeMetadata.ref (metadata : SharedVolumeMetadata) : SubvolumeRef where
  datastoreID := metadata.datastoreID
  fsName := metadata.fsName
  subvolumeGroup := metadata.subvolumeGroup
  subvolumeName := metadata.subvolumeName

def SharedVolumeSnapshotMetadata.ref (metadata : SharedVolumeSnapshotMetadata) : SubvolumeRef where
  datastoreID := metadata.datastoreID
  fsName := metadata.fsName
  subvolumeGroup := metadata.subvolumeGroup
  subvolumeName := metadata.subvolumeName

/-- The record about a snapshot, before its creation time and size are filled in. -/
def SharedVolumeMetadata.snapshotMetadata (metadata : SharedVolumeMetadata)
    (sourceVolumeID snapshotName : String) : SharedVolumeSnapshotMetadata where
  datastoreID := metadata.datastoreID
  backend := "cephfs"
  fsName := metadata.fsName
  subvolumeGroup := metadata.subvolumeGroup
  subvolumeName := metadata.subvolumeName
  snapshotName
  sourceVolumeID
  creationUnix := 0
  sizeBytes := 0

/-- `Unix` of a time in nanoseconds. -/
def unixSeconds (time : Int) : Int :=
  time / 1000000000

def createSharedSnapshot (ctx : CallContext) (cluster : Cluster)
    (sourceVolumeID requestedName : String) : Except ProviderError VolumeSnapshot × Cluster :=
  match validateSharedVolume tables codec ctx sourceVolumeID with
  | .error err => (.error err, cluster)
  | .ok metadata =>
    if metadata.mode ≠ "dynamic" then
      (.error (.datastoreConfig (.plain ("shared volume \"" ++ sourceVolumeID ++
        "\" is static and cannot be snapshotted"))), cluster)
    else
      let snapshotName := sanitizeCephFSSnapshotName tables requestedName
      match createSubvolumeSnapshot tables ctx cluster metadata.ref snapshotName with
      | (.error err, cluster) => (.error err, cluster)
      | (.ok (), cluster) =>
        match getSnapshotInfo ctx cluster metadata.ref snapshotName with
        | .error err => (.error err, cluster)
        | .ok createdAt =>
          let size := reportedSize ctx cluster metadata.ref
          let snapshotMetadata :=
            { metadata.snapshotMetadata sourceVolumeID snapshotName with
              creationUnix := unixSeconds createdAt
              sizeBytes := size }
          (.ok { snapshotID := codec.encodeSharedVolumeSnapshotID snapshotMetadata
                 sourceVolumeID
                 creationTime := createdAt
                 sizeBytes := size
                 readyToUse := true }, cluster)

/-- The loop of `ListSharedSnapshots` over the names of the snapshots of a volume; each snapshot is
kept with its name. -/
def listNamedSnapshots (ctx : CallContext) (cluster : Cluster) (metadata : SharedVolumeMetadata)
    (sourceVolumeID : String) (size : Int) :
    List String → Except ProviderError (List (String × VolumeSnapshot))
  | [] => .ok []
  | name :: rest =>
    match getSnapshotInfo ctx cluster metadata.ref name with
    | .error err => .error err
    | .ok createdAt =>
      match listNamedSnapshots ctx cluster metadata sourceVolumeID size rest with
      | .error err => .error err
      | .ok snapshots =>
        .ok ((name,
          { snapshotID := codec.encodeSharedVolumeSnapshotID
              (metadata.snapshotMetadata sourceVolumeID name)
            sourceVolumeID
            creationTime := createdAt
            sizeBytes := size
            readyToUse := true }) :: snapshots)

/-- The snapshots of a volume. -/
def snapshotsOfVolume (ctx : CallContext) (cluster : Cluster) (sourceVolumeID : String) :
    Except ProviderError (List (String × VolumeSnapshot)) :=
  match validateSharedVolume tables codec ctx sourceVolumeID with
  | .error err => .error err
  | .ok metadata =>
    if metadata.mode ≠ "dynamic" then
      .error (.datastoreConfig (.plain ("shared volume \"" ++ sourceVolumeID ++
        "\" is static and does not support snapshots")))
    else
      match listSnapshotNames ctx cluster metadata.ref with
      | .error err => .error err
      | .ok names =>
        listNamedSnapshots codec ctx cluster metadata sourceVolumeID
          (reportedSize ctx cluster metadata.ref) names

/-- The snapshot with an id, as far as the id tells; what it does not tell is read from Ceph if
there are secrets. -/
def snapshotOfID (ctx : CallContext) (cluster : Cluster) (snapshotID : String) :
    Except ProviderError VolumeSnapshot :=
  match validateSharedSnapshot tables codec ctx snapshotID with
  | .error err => .error err
  | .ok metadata =>
    let createdAt :=
      if metadata.creationUnix = 0 ∧ ctx.secrets ≠ [] then
        getSnapshotInfo ctx cluster metadata.ref metadata.snapshotName
      else .ok (metadata.creationUnix * 1000000000)
    match createdAt with
    | .error err => .error err
    | .ok creationTime =>
      .ok { snapshotID
            sourceVolumeID := metadata.sourceVolumeID
            creationTime
            sizeBytes :=
              if metadata.sizeBytes = 0 ∧ ctx.secrets ≠ [] then
                reportedSize ctx cluster metadata.ref
              else metadata.sizeBytes
            readyToUse := true }

/-- The snapshots `ListSharedSnapshots` makes its pages from. -/
def collectSharedSnapshots (ctx : CallContext) (cluster : Cluster)
    (snapshotID sourceVolumeID : String) : Except ProviderError (List VolumeSnapshot) :=
  if trimSpace snapshotID ≠ "" then
    (snapshotOfID tables codec ctx cluster snapshotID).map fun snapshot => [snapshot]
  else if trimSpace sourceVolumeID ≠ "" then
    (snapshotsOfVolume tables codec ctx cluster sourceVolumeID).map fun named => named.map Prod.snd
  else
    .error (.datastoreConfig (.plain
      "listing all CephFS snapshots without a source volume is not supported"))

def listSharedSnapshots (ctx : CallContext) (cluster : Cluster) (snapshotID sourceVolumeID : String)
    (maxEntries : Int) (startingToken : String) :
    Except ProviderError (List VolumeSnapshot × String) :=
  match collectSharedSnapshots tables codec ctx cluster snapshotID sourceVolumeID with
  | .error err => .error err
  | .ok snapshots => pageOf snapshots maxEntries startingToken

end Calls

/-! ## Histories of calls -/

inductive SnapshotCall where
  | create (sourceVolumeID name : String)
  | list (sourceVolumeID : String) (maxEntries : Int) (startingToken : String)

/-- A step of a history: a call, or a change of the cluster, such as a resize or a write. -/
inductive SnapshotStep where
  | call (ctx : CallContext) (call : SnapshotCall)
  | change (cluster : Cluster)

/-- A snapshot as a response names it. -/
structure SnapshotReport where
  sourceVolumeID : String
  snapshotName : String
  snapshotID : String
  deriving DecidableEq

/-- The reports are about the same snapshot. -/
def SnapshotReport.SameSnapshot (r r' : SnapshotReport) : Prop :=
  r.sourceVolumeID = r'.sourceVolumeID ∧ r.snapshotName = r'.snapshotName

instance (r r' : SnapshotReport) : Decidable (r.SameSnapshot r') :=
  inferInstanceAs (Decidable (_ ∧ _))

/-- A call in the state of the cluster it is made in. -/
structure CallSite where
  cluster : Cluster
  ctx : CallContext
  call : SnapshotCall

section Histories

variable (tables : LetterTables) (codec : SharedIDCodec)

def SnapshotStep.after (cluster : Cluster) : SnapshotStep → Cluster
  | .call ctx (.create sourceVolumeID name) =>
    (createSharedSnapshot tables codec ctx cluster sourceVolumeID name).2
  | .call _ (.list ..) => cluster
  | .change cluster => cluster

/-- The calls of a history. -/
def callSites : List SnapshotStep → Cluster → List CallSite
  | [], _ => []
  | .call ctx call :: rest, cluster =>
    ⟨cluster, ctx, call⟩ ::
      callSites rest ((SnapshotStep.call ctx call).after tables codec cluster)
  | .change cluster :: rest, _ => callSites rest cluster

/-- The snapshots the response of a call names. -/
def CallSite.reports (site : CallSite) : List SnapshotReport :=
  match site.call with
  | .create sourceVolumeID name =>
    match (createSharedSnapshot tables codec site.ctx site.cluster sourceVolumeID name).1 with
    | .error _ => []
    | .ok snapshot =>
      [⟨sourceVolumeID, sanitizeCephFSSnapshotName tables name, snapshot.snapshotID⟩]
  | .list sourceVolumeID maxEntries startingToken =>
    match snapshotsOfVolume tables codec site.ctx site.cluster sourceVolumeID,
      listSharedSnapshots tables codec site.ctx site.cluster "" sourceVolumeID maxEntries
        startingToken with
    | .ok named, .ok (page, _) =>
      (named.filter fun entry => entry.2 ∈ page).map fun entry =>
        ⟨sourceVolumeID, entry.1, entry.2.snapshotID⟩
    | _, _ => []

/-- All reports of the same snapshot name it by the same id, and no others do. -/
def SnapshotIDsAgree (steps : List SnapshotStep) (cluster : Cluster) : Prop :=
  ∀ site ∈ callSites tables codec steps cluster, ∀ site' ∈ callSites tables codec steps cluster,
    ∀ r ∈ site.reports tables codec, ∀ r' ∈ site'.reports tables codec,
      r.SameSnapshot r' ↔ r.snapshotID = r'.snapshotID

/-- The creation time and the size of the volume at a creation, in the state before it; a listing
leaves them out. -/
def CallSite.stamp (site : CallSite) : Int × Int :=
  match site.call with
  | .list .. => (0, 0)
  | .create sourceVolumeID name =>
    match codec.parseVolumeID sourceVolumeID with
    | .error _ => (0, 0)
    | .ok metadata =>
      let recorded := (site.cluster metadata.ref).bind fun subvolume =>
        subvolume.snapshots.lookup (sanitizeCephFSSnapshotName tables name)
      (unixSeconds ((recorded.getD site.ctx.created).getD site.ctx.now),
        reportedSize site.ctx site.cluster metadata.ref)

/-- The record about a snapshot with a creation time and a size. -/
def SharedVolumeMetadata.stamped (metadata : SharedVolumeMetadata)
    (sourceVolumeID snapshotName : String) (stamp : Int × Int) : SharedVolumeSnapshotMetadata :=
  { metadata.snapshotMetadata sourceVolumeID snapshotName with
    creationUnix := stamp.1
    sizeBytes := stamp.2 }

/-- The calls that report a snapshot find the same creation time and size, or all leave them out. -/
def StampsAgree (steps : List SnapshotStep) (cluster : Cluster) : Prop :=
  ∀ site ∈ callSites tables codec steps cluster, ∀ site' ∈ callSites tables codec steps cluster,
    ∀ r ∈ site.reports tables codec, ∀ r' ∈ site'.reports tables codec,
      r.SameSnapshot r' → site.stamp tables codec = site'.stamp tables codec

end Histories

variable {tables : LetterTables} {codec : SharedIDCodec} {ctx : CallContext} {cluster : Cluster}
  {ref : SubvolumeRef}

theorem parseVolumeID_of_validateSharedVolume {volumeID : String} {metadata : SharedVolumeMetadata}
    (h : validateSharedVolume tables codec ctx volumeID = .ok metadata) :
    codec.parseVolumeID volumeID = .ok metadata := by
  unfold validateSharedVolume decodeSharedVolumeID at h
  split at h
  · cases h
  rename_i decoded hdecoded
  split at hdecoded
  · cases hdecoded
  split at hdecoded
  · cases hdecoded
  rename_i parsed hparsed
  split at hdecoded
  · cases hdecoded
  obtain rfl := Except.ok.inj hdecoded
  cases hrequire :
    requireCephFSDatastore tables ctx "volume" volumeID parsed.datastoreID with
  | error err =>
    rw [hrequire] at h
    cases h
  | ok _ =>
    rw [hrequire] at h
    obtain rfl := Except.ok.inj h
    exact hparsed

theorem reportedSize_addSnapshot (ref' : SubvolumeRef) (name : String) (createdAt : Option Int) :
    reportedSize ctx (addSnapshot cluster ref' name createdAt) ref =
      reportedSize ctx cluster ref := by
  unfold reportedSize readSubvolume
  by_cases href : ref = ref'
  · subst href
    cases hfound : cluster ref with
    | none => simp [addSnapshot, hfound]
    | some subvolume => ?_
    -- The subvolume is unchanged, or has one more snapshot.
    by_cases hknown : (subvolume.snapshots.lookup name).isSome = true
    · simp [addSnapshot, hfound, hknown]
    simp only [addSnapshot, hfound, hknown, if_true, map_some, if_false,
      Bool.false_eq_true]
    cases requireCephSecrets ctx.secrets <;> cases ctx.subvolumeInfo <;> rfl
  · simp [addSnapshot, href]

theorem getSnapshotInfo_eq_ok {name : String} {createdAt : Int}
    (h : getSnapshotInfo ctx cluster ref name = .ok createdAt) :
    ∃ subvolume recorded, cluster ref = some subvolume ∧
      subvolume.snapshots.lookup name = some recorded ∧ createdAt = recorded.getD ctx.now := by
  unfold getSnapshotInfo at h
  split at h
  · cases h
  rename_i subvolume hread
  split at h
  · cases h
  rename_i recorded hrecorded
  have hfound : cluster ref = some subvolume := by
    unfold readSubvolume at hread
    split at hread
    · cases hread
    split at hread
    · cases hread
    split at hread
    · cases hread
    · rename_i hfound
      rw [hfound, Except.ok.inj hread]
  exact ⟨subvolume, recorded, hfound, hrecorded, (Except.ok.inj h).symm⟩

/-- After a successful creation, the snapshot has the time recorded before, or else the new one. -/
theorem createdAt_of_createSubvolumeSnapshot {name : String} {cluster' : Cluster} {createdAt : Int}
    (hcreate : createSubvolumeSnapshot tables ctx cluster ref name = (.ok (), cluster'))
    (hinfo : getSnapshotInfo ctx cluster' ref name = .ok createdAt) :
    createdAt = ((((cluster ref).bind fun subvolume => subvolume.snapshots.lookup name).getD
        ctx.created).getD ctx.now) ∧
      reportedSize ctx cluster' ref = reportedSize ctx cluster ref := by
  obtain ⟨subvolume', recorded, hfound', hrecorded, rfl⟩ := getSnapshotInfo_eq_ok hinfo
  unfold createSubvolumeSnapshot at hcreate
  split at hcreate
  · cases hcreate
  split at hcreate
  · split at hcreate
    · -- The command has said that the snapshot exists.
      obtain rfl := (Prod.mk.inj hcreate).2
      rw [hfound', bind_some, hrecorded]
      exact ⟨rfl, rfl⟩
    · cases hcreate
  · split at hcreate
    · cases hcreate
    rename_i subvolume hfound
    obtain rfl := (Prod.mk.inj hcreate).2
    refine ⟨?_, reportedSize_addSnapshot ref name ctx.created⟩
    rw [hfound, bind_some]
    simp only [addSnapshot, if_true, hfound, map_some, Option.some.injEq] at hfound'
    cases hknown : subvolume.snapshots.lookup name with
    | some before =>
      rw [hknown, isSome_some, if_pos rfl] at hfound'
      rw [← hfound', hknown] at hrecorded
      rw [Option.some.inj hrecorded, getD_some]
    | none =>
      rw [hknown, isSome_none, if_neg Bool.false_ne_true] at hfound'
      rw [← hfound', lookup_append, hknown, none_or] at hrecorded
      have hnew : ctx.created = recorded := by simpa using hrecorded
      rw [hnew, getD_none]

theorem listNamedSnapshots_ids {metadata : SharedVolumeMetadata} {sourceVolumeID : String}
    {size : Int} {names : List String} {named : List (String × VolumeSnapshot)}
    (h : listNamedSnapshots codec ctx cluster metadata sourceVolumeID size names = .ok named) :
    (named.map fun entry => (entry.1, entry.2.snapshotID)) = names.map fun name =>
      (name, codec.encodeSharedVolumeSnapshotID
        (metadata.snapshotMetadata sourceVolumeID name)) := by
  induction names generalizing named with
  | nil =>
    obtain rfl := Except.ok.inj h
    rfl
  | cons name rest ih =>
    unfold listNamedSnapshots at h
    split at h
    · cases h
    split at h
    · cases h
    rename_i others hrest
    obtain rfl := Except.ok.inj h
    simp only [map_cons, ih hrest]

/-- The snapshots of a volume are named as Ceph lists them, and a name determines the id. -/
theorem snapshotsOfVolume_ids {sourceVolumeID : String} {named : List (String × VolumeSnapshot)}
    (h : snapshotsOfVolume tables codec ctx cluster sourceVolumeID = .ok named) :
    ∃ metadata names, validateSharedVolume tables codec ctx sourceVolumeID = .ok metadata ∧
      listSnapshotNames ctx cluster metadata.ref = .ok names ∧
      (named.map fun entry => (entry.1, entry.2.snapshotID)) = names.map fun name =>
        (name,
          codec.encodeSharedVolumeSnapshotID (metadata.snapshotMetadata sourceVolumeID name)) := by
  unfold snapshotsOfVolume at h
  split at h
  · cases h
  rename_i metadata hmetadata
  split at h
  · cases h
  split at h
  · cases h
  · rename_i names hnames
    exact ⟨metadata, names, hmetadata, hnames, listNamedSnapshots_ids h⟩

theorem snapshotID_of_mem_snapshotsOfVolume {sourceVolumeID : String}
    {named : List (String × VolumeSnapshot)}
    (h : snapshotsOfVolume tables codec ctx cluster sourceVolumeID = .ok named)
    {entry : String × VolumeSnapshot} (hentry : entry ∈ named) :
    ∃ metadata, codec.parseVolumeID sourceVolumeID = .ok metadata ∧
      entry.2.snapshotID = codec.encodeSharedVolumeSnapshotID
        (metadata.snapshotMetadata sourceVolumeID entry.1) := by
  obtain ⟨metadata, names, hmetadata, -, hids⟩ := snapshotsOfVolume_ids h
  obtain ⟨name, -, heq⟩ := mem_map.1 (hids ▸ mem_map_of_mem hentry)
  obtain ⟨rfl, hid⟩ := Prod.mk.inj heq
  exact ⟨metadata, parseVolumeID_of_validateSharedVolume hmetadata, hid.symm⟩

theorem snapshotID_of_createSharedSnapshot {sourceVolumeID name : String}
    {snapshot : VolumeSnapshot}
    (h : (createSharedSnapshot tables codec ctx cluster sourceVolumeID name).1 = .ok snapshot) :
    ∃ metadata, codec.parseVolumeID sourceVolumeID = .ok metadata ∧
      snapshot.snapshotID = codec.encodeSharedVolumeSnapshotID
        (metadata.stamped sourceVolumeID (sanitizeCephFSSnapshotName tables name)
          (CallSite.stamp tables codec ⟨cluster, ctx, .create sourceVolumeID name⟩)) := by
  simp only [createSharedSnapshot] at h
  split at h
  · cases h
  rename_i metadata hmetadata
  have hparse := parseVolumeID_of_validateSharedVolume hmetadata
  refine ⟨metadata, hparse, ?_⟩
  split at h
  · cases h
  split at h
  · cases h
  rename_i cluster' hcreate
  split at h
  · cases h
  rename_i createdAt hinfo
  obtain ⟨rfl, hsize⟩ := createdAt_of_createSubvolumeSnapshot hcreate hinfo
  obtain rfl := Except.ok.inj h
  simp only [CallSite.stamp, hparse, hsize, SharedVolumeMetadata.stamped]

/-- The id in a report encodes the source, the name and what `stamp` says of the call. -/
theorem CallSite.snapshotID_of_mem_reports {site : CallSite} {r : SnapshotReport}
    (h : r ∈ site.reports tables codec) :
    ∃ metadata, codec.parseVolumeID r.sourceVolumeID = .ok metadata ∧
      r.snapshotID = codec.encodeSharedVolumeSnapshotID
        (metadata.stamped r.sourceVolumeID r.snapshotName (site.stamp tables codec)) := by
  obtain ⟨cluster, ctx, call⟩ := site
  cases call with
  | create sourceVolumeID name =>
    simp only [CallSite.reports] at h
    split at h
    · cases h
    rename_i snapshot hsnapshot
    obtain rfl := mem_singleton.1 h
    obtain ⟨metadata, hparse, hid⟩ := snapshotID_of_createSharedSnapshot hsnapshot
    refine ⟨metadata, hparse, ?_⟩
    rw [hid]
  | list sourceVolumeID maxEntries startingToken =>
    simp only [CallSite.reports] at h
    split at h
    · rename_i named page _ hnamed _
      obtain ⟨entry, hentry, rfl⟩ := mem_map.1 h
      obtain ⟨metadata, hparse, hid⟩ :=
        snapshotID_of_mem_snapshotsOfVolume hnamed (mem_filter.1 hentry).1
      exact ⟨metadata, hparse, hid⟩
    · cases h

/-- In every history, the ids identify the snapshots if and only if the calls that report a snapshot
agree on its creation time and size. -/
theorem snapshotIDs_agree_iff (steps : List SnapshotStep) (cluster : Cluster) :
    SnapshotIDsAgree tables codec steps cluster ↔ StampsAgree tables codec steps cluster := by
  constructor
  · intro hagree site hsite site' hsite' r hr r' hr' hsame
    have hid := (hagree site hsite site' hsite' r hr r' hr').1 hsame
    obtain ⟨metadata, -, hencoded⟩ := CallSite.snapshotID_of_mem_reports hr
    obtain ⟨metadata', -, hencoded'⟩ := CallSite.snapshotID_of_mem_reports hr'
    rw [hencoded, hencoded'] at hid
    have hrecord := codec.encode_injective hid
    exact Prod.ext (congrArg SharedVolumeSnapshotMetadata.creationUnix hrecord)
      (congrArg SharedVolumeSnapshotMetadata.sizeBytes hrecord)
  · intro hstamps site hsite site' hsite' r hr r' hr'
    obtain ⟨metadata, hparse, hencoded⟩ := CallSite.snapshotID_of_mem_reports hr
    obtain ⟨metadata', hparse', hencoded'⟩ := CallSite.snapshotID_of_mem_reports hr'
    constructor
    · intro hsame
      have hstamp := hstamps site hsite site' hsite' r hr r' hr' hsame
      rw [hsame.1, hparse'] at hparse
      rw [hencoded, hencoded', hstamp, hsame.1, hsame.2, Except.ok.inj hparse]
    · intro hid
      rw [hencoded, hencoded'] at hid
      have hrecord := codec.encode_injective hid
      exact ⟨congrArg SharedVolumeSnapshotMetadata.sourceVolumeID hrecord,
        congrArg SharedVolumeSnapshotMetadata.snapshotName hrecord⟩

/-! ## A resized volume -/

/-- A text that ends where its first quotation mark does. -/
def quoted (text : List Char) : List Char :=
  text.flatMap (fun c => ['\\', c]) ++ ['"']

theorem quoted_append_inj {text text' rest rest' : List Char}
    (h : quoted text ++ rest = quoted text' ++ rest') : text = text' ∧ rest = rest' := by
  induction text generalizing text' with
  | nil =>
    cases text' with
    | nil => exact ⟨rfl, by simpa [quoted] using h⟩
    | cons c' tail' => simp [quoted] at h
  | cons c tail ih =>
    cases text' with
    | nil => simp [quoted] at h
    | cons c' tail' => ?_
    simp only [quoted, List.flatMap_cons, List.append_assoc, List.cons_append,
      List.nil_append, List.cons.injEq, true_and] at h
    obtain ⟨rfl, hrest⟩ := h
    obtain ⟨rfl, rfl⟩ := ih (by simpa [quoted] using hrest)
    exact ⟨rfl, rfl⟩

theorem flatMap_quoted_inj {texts texts' : List (List Char)}
    (hlength : texts.length = texts'.length)
    (h : texts.flatMap quoted = texts'.flatMap quoted) : texts = texts' := by
  induction texts generalizing texts' with
  | nil => exact (length_eq_zero_iff.1 hlength.symm).symm
  | cons text rest ih =>
    cases texts' with
    | nil => cases hlength
    | cons text' rest' =>
      obtain ⟨rfl, hrest⟩ := quoted_append_inj h
      rw [ih (Nat.succ.inj hlength) hrest]

/-- A number with its sign. -/
def signed (n : Int) : List Char :=
  (if n < 0 then '-' else '+') :: Nat.toDigits 10 n.natAbs

theorem signed_injective : Function.Injective signed := by
  intro n n' h
  obtain ⟨hsign, hdigits⟩ := List.cons.inj h
  have hnat : n.natAbs = n'.natAbs := by
    apply Option.some.inj
    rw [← digits?_toDigits, hdigits, digits?_toDigits]
  have hnegative : n < 0 ↔ n' < 0 := by
    split at hsign <;> split at hsign <;> first | omega | cases hsign
  omega

/-- The fields of a record. -/
def fieldTexts (m : SharedVolumeSnapshotMetadata) : List (List Char) :=
  [signed m.datastoreID, m.backend.toList, m.fsName.toList, m.subvolumeGroup.toList,
    m.subvolumeName.toList, m.snapshotName.toList, m.sourceVolumeID.toList, signed m.creationUnix,
    signed m.sizeBytes]

/-- The fields of a record in one text. -/
def plainSnapshotID (m : SharedVolumeSnapshotMetadata) : String :=
  String.ofList ((fieldTexts m).flatMap quoted)

theorem plainSnapshotID_injective : Function.Injective plainSnapshotID := by
  intro m m' h
  have htexts : fieldTexts m = fieldTexts m' :=
    flatMap_quoted_inj rfl (by simpa [plainSnapshotID] using congrArg String.toList h)
  obtain ⟨⟩ := m
  obtain ⟨⟩ := m'
  simpa [fieldTexts, signed_injective.eq_iff, String.toList_inj] using htexts

/-- Every volume id stands for one dynamic volume. -/
def plainCodec : SharedIDCodec where
  parseVolumeID _ := .ok ⟨100, "dynamic", "fs", "csi", "/volumes/csi/data", "data"⟩
  parseSnapshotID _ := .error (.plain "not read")
  encodeSharedVolumeSnapshotID := plainSnapshotID
  encode_injective := plainSnapshotID_injective

/-- A CephFS datastore, secrets, and a cluster that answers every command. -/
def healthyContext : CallContext where
  datastores := .ok [⟨100, "cephfs", "2", "fs", "shared", "0", 4096, 8192, 0,
    [("OPENNEBULA_CSI_SHARE_BACKEND", "cephfs")]⟩]
  secrets := [("adminID", "csi"), ("adminKey", "key")]
  now := 1700000000000000000
  created := some 1600000000000000000
  snapshotCreate := none
  snapshotInfo _ := none
  subvolumeInfo := none
  snapshotList := none

/-- A cluster with one subvolume of a quota. -/
def clusterOfQuota (bytesQuota : Int) (snapshots : List (String × Option Int)) : Cluster :=
  fun ref => if ref = ⟨100, "fs", "csi", "data"⟩ then some ⟨bytesQuota, 0, snapshots⟩ else none

/-- A snapshot is made, the volume is expanded, and the request for the snapshot is repeated. -/
def resizedHistory : List SnapshotStep :=
  [.call healthyContext (.create "cephfs:v" "s"),
    .change (clusterOfQuota 2147483648 [("one-csi-snap-s", some 1600000000000000000)]),
    .call healthyContext (.create "cephfs:v" "s")]

/-- The repeated request returns another id. -/
theorem resized_snapshotIDs_differ :
    ¬ SnapshotIDsAgree .ascii plainCodec resizedHistory (clusterOfQuota 1073741824 []) := by
  intro hagree
  have hsites : callSites .ascii plainCodec resizedHistory (clusterOfQuota 1073741824 []) =
      [⟨clusterOfQuota 1073741824 [], healthyContext, .create "cephfs:v" "s"⟩,
        ⟨clusterOfQuota 2147483648 [("one-csi-snap-s", some 1600000000000000000)], healthyContext,
          .create "cephfs:v" "s"⟩] := rfl
  unfold SnapshotIDsAgree at hagree
  rw [hsites] at hagree
  have hids := hagree _ mem_cons_self _ (mem_cons_of_mem _ mem_cons_self)
  exact absurd hids (by decide +kernel)

end OpenNebulaCSI.Provider
