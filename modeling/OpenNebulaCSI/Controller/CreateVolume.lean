import OpenNebulaCSI.Inventory.Eligibility
import OpenNebulaCSI.Provider.Provisioning

/-!
# Creating volumes

`CreateVolume` of the controller, for volumes on disks. The first request for a volume allocates an
image and answers with the datastore it lies on. A repeated request finds an image with the name and
answers without the datastore, and it compares the size of the image, which is in whole MiB, with
the requested bytes; with a source volume it clones once more. `createVolume_retry_iff` tells which
requests can be repeated.

A clone is as large as the image of its source. `clone_capacity_iff` says when that is enough: if
the source volume has not been expanded beyond its image and no more is requested.
-/

namespace OpenNebulaCSI.Controller

open Go Provider Inventory List

/-- The access mode of a request; the driver supports none of the other modes of CSI. -/
inductive RequestedMode where
  | known (mode : AccessMode)
  | other (name : String)
  deriving DecidableEq

def RequestedMode.text : RequestedMode → String
  | .known .singleNodeWriter => "SINGLE_NODE_WRITER"
  | .known .singleNodeReaderOnly => "SINGLE_NODE_READER_ONLY"
  | .known .multiNodeReaderOnly => "MULTI_NODE_READER_ONLY"
  | .known .multiNodeSingleWriter => "MULTI_NODE_SINGLE_WRITER"
  | .known .multiNodeMultiWriter => "MULTI_NODE_MULTI_WRITER"
  | .other name => name

structure VolumeCapability where
  accessMode : Option RequestedMode
  block : Bool
  /-- The filesystem of a mount capability. -/
  fsType : String
  deriving DecidableEq

inductive ContentSource where
  | volume (volumeId : String)
  | snapshot (snapshotId : String)
  | other
  deriving DecidableEq

/-- `csi.CreateVolumeRequest`; the size is an `int64`. -/
structure CreateVolumeRequest where
  name : String
  capabilities : List VolumeCapability
  capacityRange : Int
  capacityRange_le : capacityRange ≤ maxInt
  parameters : StringMap
  contentSource : Option ContentSource

/-- `csi.Volume`. -/
structure CreatedVolume where
  volumeId : String
  capacityBytes : Int
  volumeContext : StringMap
  accessibleTopology : List StringMap
  contentSource : Option ContentSource
  deriving DecidableEq

inductive VolumeAccessModel where
  | disk | sharedFS
  deriving DecidableEq

/-- What a call of the controller finds besides the images: the configuration, the calls that fail,
and the answer for a volume on a shared filesystem. -/
structure CreateContext where
  tables : LetterTables
  driver : DriverConfig
  topologyAccessibility : Bool
  call : CloudCall
  sharedFilesystem : CreateVolumeRequest → Except GoError CreatedVolume

def CreateVolumeRequest.requiredBytes (req : CreateVolumeRequest) : Int :=
  if req.capacityRange = 0 then 1024 * 1024 * 1024 else req.capacityRange

theorem CreateVolumeRequest.requiredBytes_le (req : CreateVolumeRequest) :
    req.requiredBytes ≤ maxInt := by
  unfold CreateVolumeRequest.requiredBytes
  split
  · decide
  · exact req.capacityRange_le

/-! ## Access modes -/

section AccessModes

variable (tables : LetterTables)

/-- `GetBackendCapabilityProfile`: the backend a name counts as; only CephFS supports RWX. -/
def capabilityBackend (backend : String) : String :=
  let normalized := normalizeAllowedDatastoreType tables backend
  if normalized ∈ ["ceph", "cephfs"] then normalized else "local"

def backendCapabilityProfiles (backends : List String) : List String :=
  ((if backends = [] then ["local", "ceph", "cephfs"] else backends).map
    (capabilityBackend tables)).eraseDups

def unsupportedRWXError (mode : RequestedMode) (profiles : List String) : GoError :=
  let unsupported := profiles.filter fun backend => backend ≠ "cephfs"
  let backends := if unsupported = [] then ["configured backends"] else unsupported
  .plain ("access mode \"" ++ mode.text ++ "\" is not supported: this driver provisions " ++
    "VM-attached block disks and does not provide a shared-filesystem publish path; true " ++
    "ReadWriteMany requires a shared-filesystem backend such as NFS or CephFS. Current backends " ++
    "without filesystem RWX support: " ++ joinWith ", " backends)

def isSharedFilesystemAccessMode (mode : RequestedMode) : Bool :=
  mode = .known .multiNodeMultiWriter || mode = .known .multiNodeSingleWriter

def storageClassRequestsSharedFilesystem (params : StringMap) : Bool :=
  trimSpace (params.get "sharedFilesystemPath") ≠ "" ||
    trimSpace (params.get "sharedFilesystemSubvolumeGroup") ≠ "" ||
    tables.equalFold (trimSpace (params.get "driver")) "cephfs"

/-- The candidate is a CephFS datastore. -/
def isCephFSCandidate (candidate : Datastore) : Bool :=
  tables.equalFold candidate.backend "cephfs" || tables.equalFold candidate.type "cephfs"

def candidateBackends (candidates : List Datastore) : List String :=
  (candidates.map fun candidate =>
    if trimSpace candidate.backend = "" then trimSpace candidate.type
    else trimSpace candidate.backend).filter fun backend => backend ≠ ""

def resolveVolumeAccessModel (capability : VolumeCapability) (allowedBackends : List String)
    (params : StringMap) (candidates : List Datastore) : Except GoError VolumeAccessModel :=
  let anyCephFS := candidates.any (isCephFSCandidate tables)
  let allCephFS := !candidates.isEmpty && candidates.all (isCephFSCandidate tables)
  match capability.accessMode with
  | none => .error (.plain "missing access mode")
  | some mode =>
    if anyCephFS && !allCephFS then
      .error (.plain ("storage class mixes CephFS and disk datastores; use separate " ++
        "StorageClasses for cephfs and image-backed datastores"))
    else if capability.block then
      if isSharedFilesystemAccessMode mode then
        .error (.plain ("access mode \"" ++ mode.text ++ "\" is not supported for block " ++
          "volumes; CephFS shared filesystem support requires a filesystem volume capability"))
      else .ok .disk
    else if isSharedFilesystemAccessMode mode then
      if anyCephFS || candidates.isEmpty then
        let profiles := backendCapabilityProfiles tables allowedBackends
        if "cephfs" ∈ profiles then .ok .sharedFS
        else .error (unsupportedRWXError mode profiles)
      else
        .error (unsupportedRWXError mode
          (backendCapabilityProfiles tables (candidateBackends candidates)))
    else if storageClassRequestsSharedFilesystem tables params || allCephFS then
      if !anyCephFS && !candidates.isEmpty then
        .error (.plain ("storage class requests CephFS shared filesystem provisioning but " ++
          "selected datastores do not resolve as cephfs"))
      else .ok .sharedFS
    else .ok .disk

def supportedAccessModes : List RequestedMode :=
  [.known .multiNodeReaderOnly, .known .singleNodeWriter, .known .singleNodeReaderOnly]

def validateAccessMode (allowedBackends : List String) :
    List VolumeCapability → Except GoError Unit
  | [] => .ok ()
  | capability :: rest =>
    match capability.accessMode with
    | none => .error (.plain "missing access mode")
    | some mode =>
      if mode ∈ supportedAccessModes then validateAccessMode allowedBackends rest
      else if isSharedFilesystemAccessMode mode then
        match resolveVolumeAccessModel tables capability allowedBackends [] [] with
        | .error err => .error err
        | .ok _ => validateAccessMode allowedBackends rest
      else
        .error (.plain ("unsupported access mode \"" ++ mode.text ++
          "\"; supported modes are " ++
          joinWith ", " (supportedAccessModes.map RequestedMode.text)))

end AccessModes

/-! ## The context of a volume -/

def filterProvisioningParams (params : StringMap) : StringMap :=
  params.filter fun entry =>
    !(entry.1 ∈ ["datastoreIDs", "datastoreSelectionPolicy", "fsType", "sharedFilesystemPath",
      "sharedFilesystemSubvolumeGroup", "cephfsMounter"] ||
        hasPrefix entry.1 "csi.storage.k8s.io/")

/-- `m[key] = value` for the keys whose value in the parameters is not blank. -/
def copyParams (params : StringMap) (keys : List String) (context : StringMap) : StringMap :=
  keys.foldl (fun context key =>
    if trimSpace (params.get key) ≠ "" then context.set key (trimSpace (params.get key))
    else context) context

def buildVolumeContext (params : StringMap) : StringMap :=
  copyParams params
    ["csi.storage.k8s.io/pvc/uid", "csi.storage.k8s.io/pvc/name",
      "csi.storage.k8s.io/pvc/namespace",
      "csi.storage.k8s.io/pv/name", "cephfsMounter"] (filterProvisioningParams params)

/-- The entries `setVolumeContextPlacement` writes. -/
def placementEntries (datastore : Datastore) (selectionPolicy : String) : List (String × String) :=
  (if trimSpace datastore.backend ≠ "" then
    [("storage-provider.opennebula.io/backend", trimSpace datastore.backend)] else []) ++
  (if 0 < datastore.id then
    [("storage-provider.opennebula.io/datastore-id", itoa datastore.id)] else []) ++
  (if trimSpace datastore.name ≠ "" then
    [("storage-provider.opennebula.io/datastore-name", trimSpace datastore.name)] else []) ++
  (if trimSpace selectionPolicy ≠ "" then
    [("storage-provider.opennebula.io/selection-policy", trimSpace selectionPolicy)] else [])

def setVolumeContextPlacement (context : StringMap) (datastore : Datastore)
    (selectionPolicy : String) : StringMap :=
  context.setAll (placementEntries datastore selectionPolicy)

def ensureVolumeContextUUID (context : StringMap) (volumeId requestedUUID : String) : StringMap :=
  if trimSpace (context.get "uuid") ≠ "" then context
  else if trimSpace requestedUUID ≠ "" then context.set "uuid" (trimSpace requestedUUID)
  else if trimSpace volumeId ≠ "" then context.set "uuid" (trimSpace volumeId)
  else context

def accessibleTopologyForDatastore (datastore : Datastore) : List StringMap :=
  datastore.compatibleSystemDatastores.map fun systemDSID =>
    [("topology.opennebula.io/system-ds", itoa systemDSID)]

/-! ## The handler -/

/-- The errors of the provider as the handler returns them. -/
def provisioningStatus (err : ProviderError) (internal : String) : GoError :=
  match err with
  | .datastoreConfig err => .status .invalidArgument err.message
  | .datastoreCapacity err => .status .resourceExhausted err.message
  | _ => .status .internal internal

namespace CreateVolumeRequest

variable (req : CreateVolumeRequest)

/-- The uuid goes into the context last. -/
def withUUID (context : StringMap) : StringMap :=
  ensureVolumeContextUUID context req.name (req.parameters.get "csi.storage.k8s.io/pvc/uid")

/-- The answer when the volume exists already. -/
def existingVolume : CreatedVolume where
  volumeId := req.name
  capacityBytes := req.requiredBytes
  volumeContext := req.withUUID (buildVolumeContext req.parameters)
  accessibleTopology := []
  contentSource := req.contentSource

/-- The answer when an image has been allocated. -/
def placedVolume (ctx : CreateContext) (policy : String) (result : VolumeCreateResult) :
    CreatedVolume where
  volumeId := req.name
  capacityBytes := if 0 < result.capacityBytes then result.capacityBytes else req.requiredBytes
  volumeContext := req.withUUID
    (setVolumeContextPlacement (buildVolumeContext req.parameters) result.datastore policy)
  accessibleTopology :=
    if ctx.topologyAccessibility then accessibleTopologyForDatastore result.datastore else []
  contentSource := req.contentSource

/-- `getRequestedFSType`. -/
def requestedFSType (capability : VolumeCapability) : String :=
  if trimSpace capability.fsType ≠ "" then capability.fsType
  else trimSpace (req.parameters.get "fsType")

/-- The template of the image the request asks for. -/
def template (capability : VolumeCapability) : Template :=
  volumeTemplate defaultDriverName (capability.accessMode = some (.known .multiNodeReaderOnly))
    (req.requestedFSType capability) (filterProvisioningParams req.parameters)

end CreateVolumeRequest

section Handler

variable (ctx : CreateContext) (cloud : Cloud) (req : CreateVolumeRequest)

/-- The checks of `CreateVolume`: the selection of datastores, the first capability and the access
model. -/
def checkedRequest :
    Except GoError (DatastoreSelectionConfig × VolumeCapability × VolumeAccessModel) :=
  if req.name = "" then .error (.status .invalidArgument "missing volume name")
  else
    match req.capabilities with
    | [] => .error (.status .invalidArgument "missing volume capabilities")
    | capability :: _ =>
      match ctx.driver.getDatastoreSelectionConfig ctx.tables req.parameters with
      | .error err => .error (.status .invalidArgument err.message)
      | .ok selection =>
        match validateAccessMode ctx.tables selection.allowedTypes req.capabilities with
        | .error err => .error (.status .invalidArgument err.message)
        | .ok () =>
          match cloud.provisioningDatastores ctx.call ctx.tables false selection with
          | .error err => .error (.status .invalidArgument err.err.message)
          | .ok candidates =>
            match resolveVolumeAccessModel ctx.tables capability selection.allowedTypes
              req.parameters candidates with
            | .error err => .error (.status .invalidArgument err.message)
            | .ok model => .ok (selection, capability, model)

/-- `VolumeExists` as the handler uses it: an error counts as no image. -/
def existingImage : Option Int :=
  match volumeExists (cloud.queries ctx.call) req.name with
  | .error _ => none
  | .ok (volumeID, volumeSize) => if volumeID = -1 then none else some volumeSize

def createDiskVolume (selection : DatastoreSelectionConfig) (capability : VolumeCapability) :
    Except GoError CreatedVolume × Cloud :=
  match req.contentSource with
  | some (.volume sourceVolume) =>
    match cloneVolume ctx.tables ctx.call cloud req.name sourceVolume selection with
    | (.error err, after) => (.error (provisioningStatus err "failed to clone volume"), after)
    | (.ok result, after) => (.ok (req.placedVolume ctx selection.policy result), after)
  | some (.snapshot _) =>
    (.error (.status .unimplemented ("restoring a volume from an OpenNebula image snapshot is " ++
      "not supported by the current backend")), cloud)
  | some .other => (.error (.status .invalidArgument "unsupported volume content source"), cloud)
  | none =>
    match existingImage ctx cloud req with
    | some volumeSize =>
      if volumeSize = req.requiredBytes then (.ok req.existingVolume, cloud)
      else
        (.error (.status .alreadyExists
          "volume with the same name already exists with different size"), cloud)
    | none =>
      match providerCreateVolume ctx.tables ctx.call cloud req.name req.requiredBytes
        (req.template capability) selection with
      | (.error err, after) =>
        (.error (provisioningStatus err "failed to create volume"), after)
      | (.ok result, after) => (.ok (req.placedVolume ctx selection.policy result), after)

/-- `ControllerServer.CreateVolume`: the answer, and OpenNebula afterwards. -/
def createVolume : Except GoError CreatedVolume × Cloud :=
  match checkedRequest ctx cloud req with
  | .error err => (.error err, cloud)
  | .ok (_, _, .sharedFS) => (ctx.sharedFilesystem req, cloud)
  | .ok (selection, capability, .disk) => createDiskVolume ctx cloud req selection capability

end Handler

/-! ## Clones -/

variable {volume : CreatedVolume}

section Clones

variable {ctx : CreateContext} {cloud : Cloud} {req : CreateVolumeRequest}

theorem createDiskVolume_of_createVolume {selection : DatastoreSelectionConfig}
    {capability : VolumeCapability}
    (hchecked : checkedRequest ctx cloud req = .ok (selection, capability, .disk)) :
    createVolume ctx cloud req = createDiskVolume ctx cloud req selection capability := by
  simp only [createVolume, hchecked]

theorem createDiskVolume_of_volume {selection : DatastoreSelectionConfig}
    {capability : VolumeCapability} {sourceVolume : String}
    (hsource : req.contentSource = some (.volume sourceVolume))
    (h : (createDiskVolume ctx cloud req selection capability).1 = .ok volume) :
    ∃ sourceID size sourceImage,
      volumeExists (cloud.queries ctx.call) sourceVolume = .ok (sourceID, size) ∧
        cloud.info sourceID = .ok sourceImage ∧
        (createDiskVolume ctx cloud req selection capability).2.images =
          cloud.images ++ [(cloneOf req.name sourceVolume sourceImage).image cloud] ∧
        volume.capacityBytes =
          if 0 < sourceImage.sizeBytes then sourceImage.sizeBytes else req.requiredBytes := by
  simp only [createDiskVolume, hsource] at h ⊢
  cases hclone : cloneVolume ctx.tables ctx.call cloud req.name sourceVolume selection with
  | mk outcome after =>
    cases outcome with
    | error err =>
      simp only [hclone] at h
      cases h
    | ok result => ?_
    simp only [hclone] at h ⊢
    obtain ⟨sourceID, size, sourceImage, hexists, hinfo, himages, hcapacity⟩ :=
      cloneVolume_eq_ok hclone
    refine ⟨sourceID, size, sourceImage, hexists, hinfo, himages, ?_⟩
    rw [← Except.ok.inj h, ← hcapacity]
    rfl

/-- A clone that has been made: the answer promises the requested size and the size of the source
volume, and the new image holds the latter, if and only if the image of the source is as large as
the source volume and as the request; of an image without a size, the requested size is reported. -/
theorem clone_capacity_iff {selection : DatastoreSelectionConfig} {capability : VolumeCapability}
    {sourceVolume : String} {volume : CreatedVolume}
    (hchecked : checkedRequest ctx cloud req = .ok (selection, capability, .disk))
    (hsource : req.contentSource = some (.volume sourceVolume))
    (hok : (createVolume ctx cloud req).1 = .ok volume) :
    ∃ sourceID effectiveSize sourceImage clone,
      volumeExists (cloud.queries ctx.call) sourceVolume = .ok (sourceID, effectiveSize) ∧
      cloud.info sourceID = .ok sourceImage ∧
      (createVolume ctx cloud req).2.images = cloud.images ++ [clone] ∧ clone.name = req.name ∧
      ((req.requiredBytes ≤ volume.capacityBytes ∧ effectiveSize ≤ volume.capacityBytes ∧
          effectiveSize ≤ clone.sizeBytes) ↔
        effectiveSize ≤ sourceImage.sizeBytes ∧
          if 0 < sourceImage.sizeBytes then req.requiredBytes ≤ sourceImage.sizeBytes
          else effectiveSize ≤ req.requiredBytes) := by
  rw [createDiskVolume_of_createVolume hchecked] at hok ⊢
  obtain ⟨sourceID, effectiveSize, sourceImage, hexists, hinfo, himages, hcapacity⟩ :=
    createDiskVolume_of_volume hsource hok
  refine ⟨sourceID, effectiveSize, sourceImage, _, hexists, hinfo, himages, rfl, ?_⟩
  have hclone : ((cloneOf req.name sourceVolume sourceImage).image cloud).sizeBytes =
      sourceImage.sizeBytes := rfl
  rw [hclone, hcapacity]
  by_cases hpos : 0 < sourceImage.sizeBytes
  · simp only [if_pos hpos]
    constructor
    · rintro ⟨hrequired, heffective, -⟩
      exact ⟨heffective, hrequired⟩
    · rintro ⟨heffective, hrequired⟩
      exact ⟨hrequired, heffective, heffective⟩
  · -- An image without a size is reported with the requested size.
    simp only [if_neg hpos]
    constructor
    · rintro ⟨-, hreported, heffective⟩
      exact ⟨heffective, hreported⟩
    · rintro ⟨heffective, hreported⟩
      exact ⟨Int.le_refl _, hreported, heffective⟩

end Clones

/-- OpenNebula with an image of 1 GiB on one datastore. -/
def oneImageCloud (template : Template) : Cloud where
  images := [⟨4, "pvc-a", 1024, template, []⟩]
  datastores := [localDatastore 7 "fast"]
  nextID := 5
  ids_nodup := nodup_singleton 4
  ids_lt := by simp
  nextID_nonneg := by decide

/-- A driver with the datastore 7, and an OpenNebula that answers every call. -/
def healthyContext : CreateContext where
  tables := .ascii
  driver := ⟨some ["7"], some "ordered", none, none⟩
  topologyAccessibility := false
  call := ⟨fun _ => none, none, none, none, fun _ => none, none, ⟨fun _ => 0, fun _ => 0⟩⟩
  sharedFilesystem _ := .error (.status .failedPrecondition
    "shared filesystem provider is not configured")

/-- A request for a filesystem volume. -/
def filesystemRequest (name : String) (capacityRange : Int)
    (capacityRange_le : capacityRange ≤ maxInt) (contentSource : Option ContentSource) :
    CreateVolumeRequest where
  name
  capabilities := [⟨some (.known .singleNodeWriter), false, "ext4"⟩]
  capacityRange
  capacityRange_le
  parameters := []
  contentSource

/-- The selection of `healthyContext`. -/
def healthySelection : DatastoreSelectionConfig :=
  ⟨["7"], "ordered", ["local", "ceph", "cephfs"]⟩

/-- The datastore 7, as the selection reads it. -/
def fastDatastore : Datastore :=
  { datastoreFromSchema .ascii (localDatastore 7 "fast") with backend := "local" }

/-- A request for a clone of 1 GiB. -/
def cloneRequest : CreateVolumeRequest :=
  filesystemRequest "pvc-b" 1073741824 (by decide) (some (.volume "pvc-a"))

/-- A clone of a volume that has not been expanded, of the same size. -/
theorem clone_capacity_sameSize :
    ∃ sourceID effectiveSize sourceImage clone,
      volumeExists ((oneImageCloud []).queries healthyContext.call) "pvc-a" =
          .ok (sourceID, effectiveSize) ∧
      (oneImageCloud []).info sourceID = .ok sourceImage ∧
      (createVolume healthyContext (oneImageCloud []) cloneRequest).2.images =
          (oneImageCloud []).images ++ [clone] ∧ clone.name = "pvc-b" ∧
      ((cloneRequest.requiredBytes ≤ 1073741824 ∧ effectiveSize ≤ 1073741824 ∧
          effectiveSize ≤ clone.sizeBytes) ↔
        effectiveSize ≤ sourceImage.sizeBytes ∧
          if 0 < sourceImage.sizeBytes then cloneRequest.requiredBytes ≤ sourceImage.sizeBytes
          else effectiveSize ≤ cloneRequest.requiredBytes) := by
  have hchecked : checkedRequest healthyContext (oneImageCloud []) cloneRequest =
      .ok (healthySelection, ⟨some (.known .singleNodeWriter), false, "ext4"⟩, .disk) := by
    decide +kernel
  have hok : (createVolume healthyContext (oneImageCloud []) cloneRequest).1 =
      .ok (cloneRequest.placedVolume healthyContext "ordered"
        ⟨fastDatastore, 1073741824, false, [7]⟩) := by
    decide +kernel
  exact clone_capacity_iff hchecked rfl hok

/-- A volume that has been expanded to 2 GiB while it was attached. -/
def expandedCloud : Cloud :=
  oneImageCloud [("CSI_REQUESTED_SIZE_BYTES", "2147483648")]

/-- Its clone is reported, and made, with the 1 GiB of the image. -/
theorem expanded_clone_tooSmall :
    volumeExists (expandedCloud.queries healthyContext.call) "pvc-a" = .ok (4, 2147483648) ∧
      ∃ volume, (createVolume healthyContext expandedCloud cloneRequest).1 = .ok volume ∧
        volume.capacityBytes < 2147483648 ∧
        (createVolume healthyContext expandedCloud cloneRequest).2.images.map Image.sizeBytes =
          [1073741824, 1073741824] := by
  refine ⟨by decide +kernel, _, rfl, by decide +kernel, by decide +kernel⟩

/-! ## Repeated requests -/

/-- The answers describe the same volume; the context is a map. -/
structure CreatedVolume.Same (volume volume' : CreatedVolume) : Prop where
  volumeId : volume.volumeId = volume'.volumeId
  capacityBytes : volume.capacityBytes = volume'.capacityBytes
  volumeContext : ∀ key, volume.volumeContext.lookup key = volume'.volumeContext.lookup key
  accessibleTopology : volume.accessibleTopology = volume'.accessibleTopology

/-- The datastore a new image for the request is allocated on. -/
def placement (ctx : CreateContext) (cloud : Cloud) (req : CreateVolumeRequest)
    (selection : DatastoreSelectionConfig) : Option Datastore :=
  match cloud.provisioningDatastores ctx.call ctx.tables true selection with
  | .error _ => none
  | .ok candidates => firstFit ctx.call req.requiredBytes candidates

/-- The answer does not show where the image lies: the parameters contain the same entries, and
there is no topology to report. -/
def PlacementUnseen (ctx : CreateContext) (req : CreateVolumeRequest) (policy : String)
    (datastore : Datastore) : Prop :=
  (∀ entry ∈ placementEntries datastore policy,
    (buildVolumeContext req.parameters).lookup entry.1 = some entry.2) ∧
    (ctx.topologyAccessibility = true → datastore.compatibleSystemDatastores = [])

/-- When a request can be repeated: it has no source, it is still accepted, and either the first
request has found the image, or the new image has exactly the requested size and the answer does not
show where it lies. -/
structure RetrySafe (ctx ctx' : CreateContext) (cloud cloud' : Cloud) (req : CreateVolumeRequest)
    (selection : DatastoreSelectionConfig) : Prop where
  noSource : req.contentSource = none
  accepted : ∃ answer, checkedRequest ctx' cloud' req = .ok answer
  image : existingImage ctx cloud req = some req.requiredBytes ∨
    req.requiredBytes % sizeConversion = 0 ∧
      ∃ datastore, placement ctx cloud req selection = some datastore ∧
        PlacementUnseen ctx req selection.policy datastore

section Context

variable {datastore : Datastore} {policy : String} {context : StringMap}

theorem placementEntries_keys :
    ((placementEntries datastore policy).map Prod.fst).Sublist
      ["storage-provider.opennebula.io/backend", "storage-provider.opennebula.io/datastore-id",
        "storage-provider.opennebula.io/datastore-name",
        "storage-provider.opennebula.io/selection-policy"] := by
  have part (c : Prop) [Decidable c] (key value : String) :
      ((if c then [(key, value)] else []).map Prod.fst).Sublist [key] := by
    split <;> simp
  simp only [placementEntries, map_append]
  exact (((part _ _ _).append (part _ _ _)).append (part _ _ _)).append (part _ _ _)

theorem uuid_notMem_placementEntries :
    "uuid" ∉ (placementEntries datastore policy).map Prod.fst := by
  intro hmem
  have hkey := placementEntries_keys.subset hmem
  exact absurd hkey (by decide)

theorem lookup_withUUID (req : CreateVolumeRequest) {context' : StringMap} {key : String}
    (hkey : context.lookup key = context'.lookup key)
    (huuid : context.lookup "uuid" = context'.lookup "uuid") :
    (req.withUUID context).lookup key = (req.withUUID context').lookup key := by
  have hget : context.get "uuid" = context'.get "uuid" := by
    rw [StringMap.get, StringMap.get, huuid]
  simp only [CreateVolumeRequest.withUUID, ensureVolumeContextUUID, hget]
  split
  · exact hkey
  split
  · rw [StringMap.lookup_set, StringMap.lookup_set, hkey]
  split
  · rw [StringMap.lookup_set, StringMap.lookup_set, hkey]
  · exact hkey

theorem lookup_withUUID_ne (req : CreateVolumeRequest) {key : String} (hkey : key ≠ "uuid") :
    (req.withUUID context).lookup key = context.lookup key := by
  simp only [CreateVolumeRequest.withUUID, ensureVolumeContextUUID]
  split
  · rfl
  split
  · rw [StringMap.lookup_set, if_neg hkey]
  split
  · rw [StringMap.lookup_set, if_neg hkey]
  · rfl

/-- The placement is not seen in the context if and only if its entries are there already. -/
theorem placed_context_iff (req : CreateVolumeRequest) :
    (∀ key, (req.withUUID (setVolumeContextPlacement context datastore policy)).lookup key =
        (req.withUUID context).lookup key) ↔
      ∀ entry ∈ placementEntries datastore policy, context.lookup entry.1 = some entry.2 := by
  have hnodup : ((placementEntries datastore policy).map Prod.fst).Nodup :=
    placementEntries_keys.nodup (by decide)
  constructor
  · intro hsame entry hentry
    have hkey : entry.1 ≠ "uuid" := by
      intro heq
      exact uuid_notMem_placementEntries (mem_map.2 ⟨entry, hentry, heq⟩)
    have hlookup := hsame entry.1
    rw [lookup_withUUID_ne req hkey, lookup_withUUID_ne req hkey] at hlookup
    rw [← hlookup, setVolumeContextPlacement]
    exact StringMap.lookup_setAll_of_mem hnodup hentry
  · intro hentries key
    have hunchanged (key : String) :
        (setVolumeContextPlacement context datastore policy).lookup key = context.lookup key := by
      by_cases hkey : key ∈ (placementEntries datastore policy).map Prod.fst
      · obtain ⟨entry, hentry, rfl⟩ := mem_map.1 hkey
        rw [hentries entry hentry]
        exact StringMap.lookup_setAll_of_mem hnodup hentry
      · exact StringMap.lookup_setAll hkey
    exact lookup_withUUID req (hunchanged key) (hunchanged "uuid")

end Context

section Retry

variable {ctx ctx' : CreateContext} {cloud cloud' : Cloud} {req : CreateVolumeRequest}
  {selection : DatastoreSelectionConfig} {capability : VolumeCapability} {image : Image}

theorem existingImage_of_unique
    (hunique : (cloud.images.filter fun image => image.name = req.name) = [image])
    (hhealthy : ctx.call.Healthy) :
    existingImage ctx cloud req = (image.effectiveSizeBytes req.name image.id).toOption := by
  obtain ⟨-, hbyName, hinfo, -⟩ := hhealthy
  have hmem : image ∈ cloud.images := by
    have hfiltered : image ∈ cloud.images.filter fun image => image.name = req.name := by
      rw [hunique]
      exact mem_cons_self
    exact (mem_filter.1 hfiltered).1
  have hid : ¬ image.id = -1 := by
    have hnonneg := (cloud.ids_lt image hmem).1
    omega
  rw [existingImage, volumeExists_of_unique hunique hbyName hinfo]
  cases image.effectiveSizeBytes req.name image.id with
  | error err => rfl
  | ok size => simp [Except.map, Except.toOption, hid]

theorem unique_of_existingImage {size : Int} (h : existingImage ctx cloud req = some size) :
    ∃ image, (cloud.images.filter fun image => image.name = req.name) = [image] ∧
      image.effectiveSizeBytes req.name image.id = .ok size := by
  unfold existingImage at h
  split at h
  · cases h
  rename_i id found hexists
  obtain ⟨image, hunique, -, hsize⟩ := volumeExists_eq_ok hexists
  split at h
  · cases h
  · obtain rfl := Option.some.inj h
    exact ⟨image, hunique, hsize⟩

theorem createDiskVolume_of_noSource (hsource : req.contentSource = none)
    (h : (createDiskVolume ctx cloud req selection capability).1 = .ok volume) :
    existingImage ctx cloud req = some req.requiredBytes ∧ volume = req.existingVolume ∧
        (createDiskVolume ctx cloud req selection capability).2.images = cloud.images ∨
      existingImage ctx cloud req = none ∧ 0 < req.requiredBytes ∧ ∃ result,
        volume = req.placedVolume ctx selection.policy result ∧
        result.capacityBytes = req.requiredBytes ∧
        placement ctx cloud req selection = some result.datastore ∧
        (createDiskVolume ctx cloud req selection capability).2.images = cloud.images ++
          [(newVolume req.name req.requiredBytes (req.template capability)).image cloud] := by
  simp only [createDiskVolume, hsource] at h ⊢
  cases hexisting : existingImage ctx cloud req with
  | some size =>
    simp only [hexisting] at h ⊢
    by_cases hsize : size = req.requiredBytes
    · subst hsize
      simp only [if_true, Except.ok.injEq] at h ⊢
      exact .inl ⟨trivial, h.symm, trivial⟩
    · simp [hsize] at h
  | none =>
    simp only [hexisting] at h ⊢
    cases hcreate : providerCreateVolume ctx.tables ctx.call cloud req.name req.requiredBytes
      (req.template capability) selection with
    | mk outcome after =>
      cases outcome with
      | error err =>
        simp only [hcreate] at h
        cases h
      | ok result => ?_
      simp only [hcreate] at h ⊢
      obtain ⟨hpos, himages, hcapacity, candidates, hcandidates, hfit⟩ :=
        providerCreateVolume_eq_ok hcreate
      refine .inr ⟨trivial, hpos, result, (Except.ok.inj h).symm, hcapacity, ?_, himages⟩
      simp only [placement, hcandidates, hfit]

theorem createDiskVolume_of_existingImage (hsource : req.contentSource = none)
    (hexisting : existingImage ctx cloud req = some req.requiredBytes) :
    createDiskVolume ctx cloud req selection capability = (.ok req.existingVolume, cloud) := by
  simp only [createDiskVolume, hsource, hexisting, if_true]

/-- The answer for a new image is that for an existing one, if the placement is not seen. -/
theorem placedVolume_same_iff {policy : String} {result : VolumeCreateResult}
    (hpos : 0 < req.requiredBytes) (hcapacity : result.capacityBytes = req.requiredBytes) :
    (req.placedVolume ctx policy result).Same req.existingVolume ↔
      PlacementUnseen ctx req policy result.datastore := by
  have hcontext : (∀ key, (req.placedVolume ctx policy result).volumeContext.lookup key =
      req.existingVolume.volumeContext.lookup key) ↔
        ∀ entry ∈ placementEntries result.datastore policy,
          (buildVolumeContext req.parameters).lookup entry.1 = some entry.2 := by
    simp only [CreateVolumeRequest.placedVolume, CreateVolumeRequest.existingVolume]
    exact placed_context_iff req
  have htopology : (req.placedVolume ctx policy result).accessibleTopology =
      req.existingVolume.accessibleTopology ↔
        (ctx.topologyAccessibility = true → result.datastore.compatibleSystemDatastores = []) := by
    simp only [CreateVolumeRequest.placedVolume, CreateVolumeRequest.existingVolume]
    split
    · rename_i htopology
      simp [accessibleTopologyForDatastore, htopology]
    · rename_i htopology
      simp [htopology]
  have hbytes : (req.placedVolume ctx policy result).capacityBytes = req.requiredBytes := by
    simp only [CreateVolumeRequest.placedVolume, hcapacity, if_pos hpos]
  unfold PlacementUnseen
  rw [← hcontext, ← htopology]
  constructor
  · intro hsame
    exact ⟨hsame.volumeContext, hsame.accessibleTopology⟩
  · intro hunseen
    exact ⟨rfl, hbytes, hunseen.1, hunseen.2⟩

theorem createDiskVolume_images_ne (hsource : req.contentSource ≠ none)
    (h : (createDiskVolume ctx cloud req selection capability).1 = .ok volume) :
    (createDiskVolume ctx cloud req selection capability).2.images ≠ cloud.images := by
  cases hcontent : req.contentSource with
  | none => exact absurd hcontent hsource
  | some source => ?_
  cases source with
  | volume sourceVolume =>
    obtain ⟨_, _, _, _, _, himages, _⟩ := createDiskVolume_of_volume hcontent h
    rw [himages]
    simp
  | snapshot snapshotId =>
    simp only [createDiskVolume, hcontent] at h
    cases h
  | other =>
    simp only [createDiskVolume, hcontent] at h
    cases h

theorem checkedRequest_of_createVolume (hdisk : ∀ selection capability,
      checkedRequest ctx cloud req ≠ .ok (selection, capability, .sharedFS))
    (h : (createVolume ctx cloud req).1 = .ok volume) :
    ∃ selection capability, checkedRequest ctx cloud req = .ok (selection, capability, .disk) := by
  cases hchecked : checkedRequest ctx cloud req with
  | error err =>
    simp only [createVolume, hchecked] at h
    cases h
  | ok answer => ?_
  obtain ⟨selection, capability, model⟩ := answer
  cases model with
  | disk => exact ⟨selection, capability, rfl⟩
  | sharedFS => exact absurd hchecked (hdisk selection capability)

theorem retry_noSource_iff (hsource : req.contentSource = none) (hdisk : ∀ selection capability,
      checkedRequest ctx cloud req ≠ .ok (selection, capability, .sharedFS)) :
    (∃ volume', (createVolume ctx cloud req).1 = .ok volume' ∧
        (createVolume ctx cloud req).2.images = cloud.images ∧ volume.Same volume') ↔
      (∃ answer, checkedRequest ctx cloud req = .ok answer) ∧
        existingImage ctx cloud req = some req.requiredBytes ∧ volume.Same req.existingVolume := by
  constructor
  · rintro ⟨volume', hok, himages, hsame⟩
    obtain ⟨selection, capability, hchecked⟩ := checkedRequest_of_createVolume hdisk hok
    rw [createDiskVolume_of_createVolume hchecked] at hok himages
    rcases createDiskVolume_of_noSource hsource hok with
      ⟨hexisting, rfl, -⟩ | ⟨-, -, result, -, -, -, hnew⟩
    · exact ⟨⟨_, hchecked⟩, hexisting, hsame⟩
    · rw [himages] at hnew
      simp at hnew
  · rintro ⟨⟨⟨selection, capability, model⟩, hchecked⟩, hexisting, hsame⟩
    cases model with
    | sharedFS => exact absurd hchecked (hdisk selection capability)
    | disk => ?_
    rw [createDiskVolume_of_createVolume hchecked,
      createDiskVolume_of_existingImage hsource hexisting]
    exact ⟨_, rfl, rfl, hsame⟩

/-- After a request has succeeded and while its image is unchanged, repeating it gives the same
answer and makes no image, if and only if the request is one that can be repeated. -/
theorem createVolume_retry_iff {volume : CreatedVolume}
    (hchecked : checkedRequest ctx cloud req = .ok (selection, capability, .disk))
    (hfirst : (createVolume ctx cloud req).1 = .ok volume)
    (himage : ((createVolume ctx cloud req).2.images.filter
      fun image => image.name = req.name) = [image])
    (hunchanged : (cloud'.images.filter fun image => image.name = req.name) = [image])
    (hhealthy : ctx'.call.Healthy)
    (hdisk : ∀ selection capability,
      checkedRequest ctx' cloud' req ≠ .ok (selection, capability, .sharedFS)) :
    (∃ volume', (createVolume ctx' cloud' req).1 = .ok volume' ∧
        (createVolume ctx' cloud' req).2.images = cloud'.images ∧ volume.Same volume') ↔
      RetrySafe ctx ctx' cloud cloud' req selection := by
  rw [createDiskVolume_of_createVolume hchecked] at hfirst himage
  by_cases hsource : req.contentSource = none
  · rw [retry_noSource_iff hsource hdisk, existingImage_of_unique hunchanged hhealthy]
    rcases createDiskVolume_of_noSource hsource hfirst with
      ⟨hexisting, rfl, himages⟩ | ⟨hexisting, hpos, result, rfl, hcapacity, hplacement, himages⟩
    · -- The first request has found the image.
      obtain ⟨found, hfound, hsize⟩ := unique_of_existingImage hexisting
      rw [himages, hfound] at himage
      obtain rfl := (List.cons.inj himage).1
      constructor
      · rintro ⟨haccepted, -, -⟩
        exact ⟨hsource, haccepted, .inl hexisting⟩
      · intro hsafe
        refine ⟨hsafe.accepted, ?_, ⟨rfl, rfl, fun _ => rfl, rfl⟩⟩
        rw [hsize]
        rfl
    · -- The first request has made the image.
      have hnew : (newVolume req.name req.requiredBytes (req.template capability)).image cloud =
          image := by
        rw [himages, filter_append, filter_singleton] at himage
        simp only [Allocation.image, newVolume, decide_true] at himage
        rcases append_eq_singleton_iff.1 himage with ⟨-, hsingle⟩ | ⟨-, hsingle⟩
        · exact (List.cons.inj hsingle).1
        · cases hsingle
      have hsize : image.effectiveSizeBytes req.name image.id =
          .ok (req.requiredBytes / sizeConversion * sizeConversion) := by
        rw [← hnew]
        exact effectiveSizeBytes_newVolume hpos req.requiredBytes_le _ _
      have hwhole : req.requiredBytes / sizeConversion * sizeConversion = req.requiredBytes ↔
          req.requiredBytes % sizeConversion = 0 := by
        have hmib : sizeConversion = 1048576 := rfl
        rw [hmib]
        omega
      rw [hsize, placedVolume_same_iff hpos hcapacity]
      simp only [Except.toOption, Option.some.injEq, hwhole]
      constructor
      · rintro ⟨haccepted, hmultiple, hunseen⟩
        exact ⟨hsource, haccepted, .inr ⟨hmultiple, _, hplacement, hunseen⟩⟩
      · rintro ⟨-, haccepted, hfound | ⟨hmultiple, datastore, hdatastore, hunseen⟩⟩
        · rw [hexisting] at hfound
          cases hfound
        · rw [hplacement] at hdatastore
          obtain rfl := Option.some.inj hdatastore
          exact ⟨haccepted, hmultiple, hunseen⟩
  · -- A source is cloned once more.
    constructor
    · rintro ⟨volume', hok, himages, -⟩
      obtain ⟨selection', capability', hchecked'⟩ := checkedRequest_of_createVolume hdisk hok
      rw [createDiskVolume_of_createVolume hchecked'] at hok himages
      exact absurd himages (createDiskVolume_images_ne hsource hok)
    · intro hsafe
      exact absurd hsafe.noSource hsource

end Retry

/-- A request for a volume of 1 GiB. -/
def volumeRequest (name : String) : CreateVolumeRequest :=
  filesystemRequest name 1073741824 (by decide) none

/-- A request of a storage class that spells out where its volumes lie. -/
def spelledOutRequest : CreateVolumeRequest :=
  { volumeRequest "pvc-b" with parameters := placementEntries fastDatastore "ordered" }

/-- Its first answer. -/
def spelledOutVolume : CreatedVolume :=
  spelledOutRequest.placedVolume healthyContext "ordered" ⟨fastDatastore, 1073741824, false, [7]⟩

/-- The images after the first request. -/
def spelledOutCloud : Cloud :=
  (createVolume healthyContext (oneImageCloud []) spelledOutRequest).2

/-- The request makes its image and can be repeated, and the second request, which finds the image,
can be repeated too. -/
theorem createVolume_retry_spelledOut :
    (createVolume healthyContext (oneImageCloud []) spelledOutRequest).1 = .ok spelledOutVolume ∧
      spelledOutCloud.images.length = 2 ∧
      (∃ volume', (createVolume healthyContext spelledOutCloud spelledOutRequest).1 = .ok volume' ∧
        (createVolume healthyContext spelledOutCloud spelledOutRequest).2.images =
          spelledOutCloud.images ∧ spelledOutVolume.Same volume') ∧
      ∃ volume', (createVolume healthyContext spelledOutCloud spelledOutRequest).1 = .ok volume' ∧
        (createVolume healthyContext spelledOutCloud spelledOutRequest).2.images =
          spelledOutCloud.images ∧ spelledOutRequest.existingVolume.Same volume' := by
  have hchecked : checkedRequest healthyContext (oneImageCloud []) spelledOutRequest =
      .ok (healthySelection, ⟨some (.known .singleNodeWriter), false, "ext4"⟩, .disk) := by
    decide +kernel
  have hchecked' : checkedRequest healthyContext spelledOutCloud spelledOutRequest =
      .ok (healthySelection, ⟨some (.known .singleNodeWriter), false, "ext4"⟩, .disk) := by
    decide +kernel
  have hfirst : (createVolume healthyContext (oneImageCloud []) spelledOutRequest).1 =
      .ok spelledOutVolume := by
    decide +kernel
  have hsecond : (createVolume healthyContext spelledOutCloud spelledOutRequest).1 =
      .ok spelledOutRequest.existingVolume := by
    decide +kernel
  let image : Image := (newVolume "pvc-b" 1073741824
    (spelledOutRequest.template ⟨some (.known .singleNodeWriter), false, "ext4"⟩)).image
      (oneImageCloud [])
  have hmade : (spelledOutCloud.images.filter
      fun image => image.name = spelledOutRequest.name) = [image] := by
    decide +kernel
  have hkept : ((createVolume healthyContext spelledOutCloud spelledOutRequest).2.images.filter
      fun image => image.name = spelledOutRequest.name) = [image] := by
    decide +kernel
  have hdisk : ∀ selection capability,
      checkedRequest healthyContext spelledOutCloud spelledOutRequest ≠
        .ok (selection, capability, .sharedFS) := by
    intro selection capability hshared
    rw [hchecked'] at hshared
    cases hshared
  have hhealthy : healthyContext.call.Healthy := ⟨fun _ => rfl, rfl, rfl, rfl, fun _ => rfl, rfl⟩
  refine ⟨hfirst, by decide +kernel, ?_, ?_⟩
  · refine (createVolume_retry_iff hchecked hfirst hmade hmade hhealthy hdisk).2
      ⟨rfl, ⟨_, hchecked'⟩, .inr ⟨by decide +kernel, fastDatastore, by decide +kernel, ?_, nofun⟩⟩
    decide +kernel
  · exact (createVolume_retry_iff hchecked' hsecond hkept hmade hhealthy hdisk).2
      ⟨rfl, ⟨_, hchecked'⟩, .inl (by decide +kernel)⟩

/-- The second answer for a new volume of 1 GiB lacks the datastore. -/
theorem createVolume_retry_losesPlacement :
    ∃ volume volume',
      (createVolume healthyContext (oneImageCloud []) (volumeRequest "pvc-b")).1 = .ok volume ∧
      (createVolume healthyContext
        (createVolume healthyContext (oneImageCloud []) (volumeRequest "pvc-b")).2
        (volumeRequest "pvc-b")).1 = .ok volume' ∧ ¬ volume.Same volume' := by
  refine ⟨_, _, rfl, rfl, fun hsame => ?_⟩
  have hbackend := hsame.volumeContext "storage-provider.opennebula.io/backend"
  exact absurd hbackend (by decide +kernel)

/-! ## Sizes of new images -/

section Sizes

variable {ctx : CreateContext} {cloud : Cloud} {req : CreateVolumeRequest}
  {selection : DatastoreSelectionConfig} {capability : VolumeCapability}

theorem sizeBytes_newVolume {name : String} {size : Int} {template : Template} (hpos : 0 < size)
    (hle : size ≤ maxInt) :
    ((newVolume name size template).image cloud).sizeBytes =
      size / sizeConversion * sizeConversion := by
  have hmib : sizeConversion = 1048576 := rfl
  have hwhole : 0 ≤ size / sizeConversion * sizeConversion ∧
      size / sizeConversion * sizeConversion ≤ size := by
    rw [hmib]
    omega
  show int64 (size / sizeConversion * sizeConversion) = size / sizeConversion * sizeConversion
  apply int64_eq
  · exact hwhole.1
  · omega

/-- A new volume has an image as large as its reported capacity, which is at least the requested
size, if and only if the requested size is a whole number of MiB: the rest is cut off. -/
theorem createVolume_allocated_iff {volume : CreatedVolume}
    (hchecked : checkedRequest ctx cloud req = .ok (selection, capability, .disk))
    (hsource : req.contentSource = none) (hnew : existingImage ctx cloud req = none)
    (hok : (createVolume ctx cloud req).1 = .ok volume) :
    ∃ image, (createVolume ctx cloud req).2.images = cloud.images ++ [image] ∧
      image.name = req.name ∧
      (volume.capacityBytes ≤ image.sizeBytes ∧ req.requiredBytes ≤ volume.capacityBytes ↔
        sizeConversion ∣ req.requiredBytes) := by
  rw [createDiskVolume_of_createVolume hchecked] at hok ⊢
  rcases createDiskVolume_of_noSource hsource hok with
    ⟨hexisting, -, -⟩ | ⟨-, hpos, result, rfl, hcapacity, -, himages⟩
  · rw [hnew] at hexisting
    cases hexisting
  refine ⟨_, himages, rfl, ?_⟩
  have hreported : (req.placedVolume ctx selection.policy result).capacityBytes =
      req.requiredBytes := by
    simp only [CreateVolumeRequest.placedVolume, hcapacity, if_pos hpos]
  have hmib : sizeConversion = 1048576 := rfl
  rw [hreported, sizeBytes_newVolume hpos req.requiredBytes_le, hmib]
  omega

end Sizes

/-- A new volume of 1 GiB gets all of it. -/
theorem createVolume_allocated_wholeMiB :
    ∃ image, (createVolume healthyContext (oneImageCloud []) (volumeRequest "pvc-b")).2.images =
        (oneImageCloud []).images ++ [image] ∧ image.name = "pvc-b" ∧
      (1073741824 ≤ image.sizeBytes ∧ (volumeRequest "pvc-b").requiredBytes ≤ 1073741824 ↔
        sizeConversion ∣ (volumeRequest "pvc-b").requiredBytes) := by
  have hchecked : checkedRequest healthyContext (oneImageCloud []) (volumeRequest "pvc-b") =
      .ok (healthySelection, ⟨some (.known .singleNodeWriter), false, "ext4"⟩, .disk) := by
    decide +kernel
  have hnew : existingImage healthyContext (oneImageCloud []) (volumeRequest "pvc-b") = none := by
    decide +kernel
  have hok : (createVolume healthyContext (oneImageCloud []) (volumeRequest "pvc-b")).1 =
      .ok ((volumeRequest "pvc-b").placedVolume healthyContext "ordered"
        ⟨fastDatastore, 1073741824, false, [7]⟩) := by
    decide +kernel
  exact createVolume_allocated_iff hchecked rfl hnew hok

/-- A request for a volume of one byte more than 1 GiB. -/
def oddRequest : CreateVolumeRequest :=
  filesystemRequest "pvc-b" 1073741825 (by decide) none

/-- The volume is reported with all bytes, and its image is one byte too small. -/
theorem oddRequest_cutOff :
    ∃ volume, (createVolume healthyContext (oneImageCloud []) oddRequest).1 = .ok volume ∧
      volume.capacityBytes = 1073741825 ∧
      (createVolume healthyContext (oneImageCloud []) oddRequest).2.images.map Image.sizeBytes =
        [1073741824, 1073741824] := by
  refine ⟨_, rfl, by decide +kernel, by decide +kernel⟩

end OpenNebulaCSI.Controller
