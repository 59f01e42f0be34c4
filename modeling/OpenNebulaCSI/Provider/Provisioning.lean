import OpenNebulaCSI.Provider.Datastores

/-!
# Creating and cloning images

`CreateVolume` and `CloneVolume` of the disk provider. Both try the datastores of the selection in
order and allocate an image on the first one with enough space. A new image has the requested size
in whole MiB; a clone has the size of its source image, whatever size has been requested and however
much the source volume has been expanded since.
-/

namespace OpenNebulaCSI.Provider

open Go Controller List

/-- The images and datastores of OpenNebula. Images have distinct ids that are not negative. -/
structure Cloud where
  images : List Image
  datastores : List DatastoreSchema
  nextID : Int
  ids_nodup : (images.map Image.id).Nodup
  ids_lt : ∀ image ∈ images, 0 ≤ image.id ∧ image.id < nextID
  nextID_nonneg : 0 ≤ nextID

/-- The calls to OpenNebula that fail, and what the driver remembers about the datastores. -/
structure CloudCall where
  /-- The datastores are listed by the handler and again by the provider. -/
  datastores : Bool → Option GoError
  byName : Option GoError
  info : Option GoError
  sourceInfo : Option GoError
  allocate : Int → Option GoError
  ready : Option GoError
  runtime : SelectionRuntime

/-- No call fails. -/
def CloudCall.Healthy (call : CloudCall) : Prop :=
  (∀ byProvider, call.datastores byProvider = none) ∧ call.byName = none ∧ call.info = none ∧
    call.sourceInfo = none ∧ (∀ datastoreID, call.allocate datastoreID = none) ∧ call.ready = none

namespace Cloud

/-- `Images().ByName`, which needs the name to be unique. -/
def byName (cloud : Cloud) (name : String) : Except GoError Int :=
  match cloud.images.filter fun image => image.name = name with
  | [] => .error (.plain "resource not found")
  | [image] => .ok image.id
  | _ => .error (.plain "multiple resources with that name")

/-- `Image(id).Info`. -/
def info (cloud : Cloud) (id : Int) : Except GoError Image :=
  match cloud.images.find? fun image => image.id = id with
  | none => .error (.plain ("Error getting image [" ++ itoa id ++ "]."))
  | some image => .ok image

/-- The answers of OpenNebula during a call. -/
def queries (cloud : Cloud) (call : CloudCall) : ImageQueries where
  byName name := (call.byName.map Except.error).getD (cloud.byName name)
  info id := (call.info.map Except.error).getD (cloud.info id)
  pool := .ok cloud.images

/-- The images once an image has been allocated. -/
def add (cloud : Cloud) (image : Image) (hid : image.id = cloud.nextID) : Cloud where
  images := cloud.images ++ [image]
  datastores := cloud.datastores
  nextID := cloud.nextID + 1
  ids_nodup := by
    rw [map_append, map_singleton, nodup_append]
    refine ⟨cloud.ids_nodup, nodup_singleton _, ?_⟩
    intro id hmem other hother hsame
    obtain ⟨old, hold, rfl⟩ := mem_map.1 hmem
    have hlt := (cloud.ids_lt old hold).2
    rw [hsame, mem_singleton.1 hother, hid] at hlt
    omega
  ids_lt := by
    intro other hother
    have hnext := cloud.nextID_nonneg
    rcases mem_append.1 hother with hold | hnew
    · have hlt := cloud.ids_lt other hold
      omega
    · rw [mem_singleton.1 hnew, hid]
      omega
  nextID_nonneg := by
    have hnext := cloud.nextID_nonneg
    omega

/-- The datastores of a selection, in the order of its policy. -/
def provisioningDatastores (cloud : Cloud) (call : CloudCall) (tables : LetterTables)
    (byProvider : Bool) (selection : DatastoreSelectionConfig) :
    Except ProviderError (List Datastore) :=
  match call.datastores byProvider with
  | some err => .error (.other (err.wrap "failed to get datastores info: "))
  | none =>
    match resolveDatastores tables cloud.datastores selection with
    | .error err => .error err
    | .ok resolved => orderDatastores tables call.runtime resolved selection.policy

end Cloud

def isInsufficientCapacityError (tables : LetterTables) (err : GoError) : Bool :=
  ["not enough space", "not enough free space", "insufficient space", "insufficient capacity",
    "no space left", "not enough capacity"].any fun fragment =>
      contains (tables.toLower err.message) fragment

structure VolumeCreateResult where
  datastore : Datastore
  capacityBytes : Int
  fallbackUsed : Bool
  attemptedDatastoreIDs : List Int
  deriving DecidableEq

/-- What an allocation needs and makes. -/
structure Allocation where
  neededBytes : Int
  name : String
  /-- In MiB. -/
  size : Int
  template : Template
  /-- The texts of the errors: of a failed allocation, of an image that does not get ready, and of
  too little space everywhere. -/
  failed : Int → String
  notReady : Int → String
  exhausted : String → String

/-- The image an allocation makes. -/
def Allocation.image (allocation : Allocation) (cloud : Cloud) : Image where
  id := cloud.nextID
  name := allocation.name
  size := allocation.size
  template := allocation.template
  snapshots := []

section Provider

variable (tables : LetterTables) (call : CloudCall)

/-- The loop over the datastores of `CreateVolume` and `CloneVolume`. -/
def allocateOn (cloud : Cloud) (allocation : Allocation) :
    List Datastore → List Int → List Int → Except ProviderError VolumeCreateResult × Cloud
  | [], _, insufficientCapacity =>
    (.error (.datastoreCapacity (.plain
      (allocation.exhausted (joinWith "," (insufficientCapacity.map itoa))))), cloud)
  | datastore :: rest, attempted, insufficientCapacity =>
    let attemptedDatastores := attempted ++ [datastore.id]
    if datastore.freeBytes < allocation.neededBytes then
      allocateOn cloud allocation rest attemptedDatastores (insufficientCapacity ++ [datastore.id])
    else
      match call.allocate datastore.id with
      | some err =>
        if isInsufficientCapacityError tables err then
          allocateOn cloud allocation rest attemptedDatastores
            (insufficientCapacity ++ [datastore.id])
        else (.error (.other (err.wrap (allocation.failed datastore.id))), cloud)
      | none =>
        let after := cloud.add (allocation.image cloud) rfl
        match call.ready with
        | some err => (.error (.other (err.wrap (allocation.notReady cloud.nextID))), after)
        | none =>
          (.ok { datastore
                 capacityBytes := allocation.neededBytes
                 fallbackUsed := 1 < attemptedDatastores.length
                 attemptedDatastoreIDs := attemptedDatastores }, after)

/-- The attributes OpenNebula keeps of the template of a new image. -/
def volumeTemplate (owner : String) (immutable : Bool) (fsType : String) (params : StringMap) :
    Template :=
  [("OWNER", owner)] ++ (if immutable then [("PERSISTENT_TYPE", "SHAREABLE")] else []) ++
    (if fsType ≠ "" then [("FS", fsType)] else []) ++
    (if params.get "devPrefix" ≠ "" then [("DEV_PREFIX", params.get "devPrefix")] else [])

/-- What `CreateVolume` allocates: an image of the size in whole MiB. -/
def newVolume (name : String) (size : Int) (template : Template) : Allocation where
  neededBytes := size
  name
  size := size / sizeConversion
  template
  failed id := "failed to create volume on datastore " ++ itoa id ++ ": "
  notReady _ := "failed to wait for volume readiness: "
  exhausted attempted :=
    "none of the configured datastores had enough free capacity for " ++ itoa size ++
      " bytes; attempted datastores: " ++ attempted

def providerCreateVolume (cloud : Cloud) (name : String) (size : Int) (template : Template)
    (selection : DatastoreSelectionConfig) : Except ProviderError VolumeCreateResult × Cloud :=
  if name = "" then (.error (.other (.plain "volume name cannot be empty")), cloud)
  else if size ≤ 0 then
    (.error (.other (.plain "invalid volume size: must be greater than 0")), cloud)
  else if size / sizeConversion ≤ 0 then
    (.error (.other (.plain "invalid volume size: must be greater than 0 MB")), cloud)
  else
    match cloud.provisioningDatastores call tables true selection with
    | .error err => (.error err, cloud)
    | .ok candidates => allocateOn tables call cloud (newVolume name size template) candidates [] []

/-- What `CloneVolume` allocates: an image like the source image. -/
def cloneOf (name sourceVolume : String) (sourceImage : Image) : Allocation where
  neededBytes := sourceImage.sizeBytes
  name
  size := sourceImage.size
  template := sourceImage.template
  failed id :=
    "failed to clone volume \"" ++ sourceVolume ++ "\" into datastore " ++ itoa id ++ ": "
  notReady id := "failed waiting for clone " ++ itoa id ++ " to become ready: "
  exhausted attempted :=
    "none of the configured datastores had enough free capacity to clone \"" ++ sourceVolume ++
      "\"; attempted datastores: " ++ attempted

def cloneVolume (cloud : Cloud) (name sourceVolume : String)
    (selection : DatastoreSelectionConfig) :
    Except ProviderError VolumeCreateResult × Cloud :=
  if trimSpace name = "" then (.error (.other (.plain "clone name cannot be empty")), cloud)
  else if trimSpace sourceVolume = "" then
    (.error (.other (.plain "source volume cannot be empty")), cloud)
  else
    match volumeExists (cloud.queries call) sourceVolume with
    | .error err =>
      (.error (.other (err.wrap ("failed to resolve source volume \"" ++ sourceVolume ++ "\": "))),
        cloud)
    | .ok (sourceVolumeID, _) =>
      if sourceVolumeID = -1 then
        (.error (.other (.plain ("source volume \"" ++ sourceVolume ++ "\" was not found"))), cloud)
      else
        match (call.sourceInfo.map Except.error).getD (cloud.info sourceVolumeID) with
        | .error err =>
          (.error (.other (err.wrap
            ("failed to inspect source volume \"" ++ sourceVolume ++ "\": "))), cloud)
        | .ok sourceImage =>
          match cloud.provisioningDatastores call tables true selection with
          | .error err => (.error err, cloud)
          | .ok candidates =>
            allocateOn tables call cloud (cloneOf name sourceVolume sourceImage) candidates
              [] []

end Provider

variable {tables : LetterTables} {call : CloudCall} {cloud : Cloud}

/-- The datastore an allocation takes: the first one with enough space that accepts the image. -/
def firstFit (call : CloudCall) (neededBytes : Int) (candidates : List Datastore) :
    Option Datastore :=
  candidates.find? fun datastore =>
    neededBytes ≤ datastore.freeBytes && (call.allocate datastore.id).isNone

variable {result : VolumeCreateResult} {after : Cloud}

theorem allocateOn_eq_ok {allocation : Allocation} {candidates : List Datastore}
    {attempted insufficient : List Int}
    (h : allocateOn tables call cloud allocation candidates attempted insufficient =
      (.ok result, after)) :
    after.images = cloud.images ++ [allocation.image cloud] ∧
      result.capacityBytes = allocation.neededBytes ∧
      firstFit call allocation.neededBytes candidates = some result.datastore := by
  unfold firstFit
  induction candidates generalizing attempted insufficient with
  | nil => cases h
  | cons datastore rest ih =>
    simp only [allocateOn] at h
    rw [find?_cons]
    split at h
    · -- The datastore is too full.
      rename_i hfull
      have hfit : ¬ allocation.neededBytes ≤ datastore.freeBytes := by omega
      simpa [hfit] using ih h
    · split at h
      · rename_i err hrefused
        split at h
        · simpa [hrefused] using ih h
        · cases h
      · rename_i hfull haccepted
        have hfit : allocation.neededBytes ≤ datastore.freeBytes := by omega
        split at h
        · cases h
        obtain ⟨hresult, hafter⟩ := Prod.mk.inj h
        obtain rfl := Except.ok.inj hresult
        subst hafter
        refine ⟨rfl, rfl, ?_⟩
        simp [hfit, haccepted]

variable {name : String}

theorem cloneVolume_eq_ok {sourceVolume : String} {selection : DatastoreSelectionConfig}
    (h : cloneVolume tables call cloud name sourceVolume selection = (.ok result, after)) :
    ∃ sourceID size sourceImage,
      volumeExists (cloud.queries call) sourceVolume = .ok (sourceID, size) ∧
      cloud.info sourceID = .ok sourceImage ∧
      after.images = cloud.images ++ [(cloneOf name sourceVolume sourceImage).image cloud] ∧
      result.capacityBytes = sourceImage.sizeBytes := by
  simp only [cloneVolume] at h
  split at h
  · cases h
  split at h
  · cases h
  split at h
  · cases h
  rename_i sourceID size hexists
  split at h
  · cases h
  split at h
  · cases h
  rename_i sourceImage hinfo
  split at h
  · cases h
  obtain ⟨himages, hcapacity, -⟩ := allocateOn_eq_ok h
  refine ⟨sourceID, size, sourceImage, hexists, ?_, himages, hcapacity⟩
  cases hsource : call.sourceInfo with
  | none => rwa [hsource] at hinfo
  | some err =>
    rw [hsource] at hinfo
    cases hinfo

variable {size : Int}

theorem providerCreateVolume_eq_ok {template : Template} {selection : DatastoreSelectionConfig}
    (h : providerCreateVolume tables call cloud name size template selection =
      (.ok result, after)) :
    0 < size ∧ after.images = cloud.images ++ [(newVolume name size template).image cloud] ∧
      result.capacityBytes = size ∧
      ∃ candidates, cloud.provisioningDatastores call tables true selection = .ok candidates ∧
        firstFit call size candidates = some result.datastore := by
  simp only [providerCreateVolume] at h
  split at h
  · cases h
  split at h
  · cases h
  rename_i hpos
  split at h
  · cases h
  split at h
  · cases h
  rename_i candidates hcandidates
  obtain ⟨himages, hcapacity, hfit⟩ := allocateOn_eq_ok h
  exact ⟨by omega, himages, hcapacity, candidates, hcandidates, hfit⟩

/-! ## Finding images -/

theorem Cloud.info_of_mem {image : Image} (h : image ∈ cloud.images) :
    cloud.info image.id = .ok image := by
  have hfind : (cloud.images.find? fun other => other.id = image.id) = some image := by
    cases hfound : cloud.images.find? fun other => other.id = image.id with
    | none =>
      have hnone := find?_eq_none.1 hfound image h
      simp at hnone
    | some other =>
      have hsame : other.id = image.id := by simpa using find?_some hfound
      rw [inj_on_of_nodup_map cloud.ids_nodup (mem_of_find?_eq_some hfound) h hsame]
  simp only [Cloud.info, hfind]

theorem volumeExists_of_unique {image : Image}
    (hunique : (cloud.images.filter fun image => image.name = name) = [image])
    (hbyName : call.byName = none) (hinfo : call.info = none) :
    volumeExists (cloud.queries call) name =
      (image.effectiveSizeBytes name image.id).map fun size => (image.id, size) := by
  have hmem : image ∈ cloud.images := by
    have hfiltered : image ∈ cloud.images.filter fun image => image.name = name := by
      rw [hunique]
      exact mem_cons_self
    exact (mem_filter.1 hfiltered).1
  have hname : cloud.byName name = .ok image.id := by
    simp only [Cloud.byName, hunique]
  simp only [volumeExists, Cloud.queries, hbyName, hinfo, Option.map_none, Option.getD_none, hname,
    Cloud.info_of_mem hmem]
  cases image.effectiveSizeBytes name image.id <;> rfl

theorem volumeExists_eq_ok {id : Int}
    (h : volumeExists (cloud.queries call) name = .ok (id, size)) :
    ∃ image, (cloud.images.filter fun image => image.name = name) = [image] ∧ image.id = id ∧
      image.effectiveSizeBytes name image.id = .ok size := by
  cases hbyName : call.byName with
  | some err => simp [volumeExists, Cloud.queries, hbyName] at h
  | none => ?_
  cases hinfo : call.info with
  | some err =>
    simp only [volumeExists, Cloud.queries, hbyName, hinfo, Option.map_none, Option.map_some,
      Option.getD_none, Option.getD_some] at h
    split at h <;> cases h
  | none =>
    -- The name is unique, or else `ByName` fails.
    cases hfilter : cloud.images.filter fun image => image.name = name with
    | nil => simp [volumeExists, Cloud.queries, hbyName, Cloud.byName, hfilter] at h
    | cons image rest => ?_
    cases rest with
    | cons other rest =>
      simp [volumeExists, Cloud.queries, hbyName, Cloud.byName, hfilter] at h
    | nil => ?_
    rw [volumeExists_of_unique hfilter hbyName hinfo] at h
    cases hsize : image.effectiveSizeBytes name image.id with
    | error err =>
      rw [hsize] at h
      cases h
    | ok effective => ?_
    rw [hsize] at h
    obtain ⟨rfl, rfl⟩ := Prod.mk.inj (Except.ok.inj h)
    exact ⟨image, rfl, rfl, hsize⟩

theorem Template.getStrs_eq_nil {t : Template} {key : String} (h : ∀ pair ∈ t, pair.1 ≠ key) :
    t.getStrs key = [] := by
  have hfilter : (t.filter fun pair => pair.1 = key) = [] :=
    filter_eq_nil_iff.2 fun pair hpair => by simpa using h pair hpair
  rw [Template.getStrs, hfilter, map_nil]

theorem Template.getStr_eq_none {t : Template} {key : String} (h : ∀ pair ∈ t, pair.1 ≠ key) :
    t.getStr key = none := by
  rw [Template.getStr, lookup_eq_none_iff]
  intro pair hpair
  simpa using fun hsame => h pair hpair hsame.symm

theorem key_of_mem_volumeTemplate {owner fsType : String} {immutable : Bool} {params : StringMap}
    {pair : String × String} (h : pair ∈ volumeTemplate owner immutable fsType params) :
    pair.1 ∈ ["OWNER", "PERSISTENT_TYPE", "FS", "DEV_PREFIX"] := by
  simp only [volumeTemplate, mem_append, mem_singleton, mem_ite_nil_right] at h
  rcases h with ((rfl | ⟨-, rfl⟩) | ⟨-, rfl⟩) | ⟨-, rfl⟩ <;> simp

/-- A new image has the requested size in whole MiB. -/
theorem effectiveSizeBytes_newVolume {owner fsType : String} {immutable : Bool} {params : StringMap}
    (hpos : 0 < size) (hle : size ≤ maxInt) (volume : String) (id : Int) :
    ((newVolume name size (volumeTemplate owner immutable fsType params)).image
        cloud).effectiveSizeBytes volume id = .ok (size / sizeConversion * sizeConversion) := by
  have habsent (key : String) (hkey : key ∉ ["OWNER", "PERSISTENT_TYPE", "FS", "DEV_PREFIX"]) :
      ∀ pair ∈ volumeTemplate owner immutable fsType params, pair.1 ≠ key := by
    intro pair hpair hsame
    exact hkey (hsame ▸ key_of_mem_volumeTemplate hpair)
  have hrequested : csiRequestedSizeBytesFromTemplate
      (volumeTemplate owner immutable fsType params) = .ok 0 := by
    simp only [csiRequestedSizeBytesFromTemplate,
      Template.getStrs_eq_nil (habsent "CSI_REQUESTED_SIZE_BYTES" (by decide)),
      Template.getStrs_eq_nil (habsent "CSI_REQUESTED_SIZE_MB" (by decide)), readRequestedSizes]
    rfl
  have hmarker : hasCSIExpansionMarker (volumeTemplate owner immutable fsType params) = false := by
    simp only [hasCSIExpansionMarker,
      Template.getStr_eq_none (habsent "CSI_EXPANDED_BY" (by decide)),
      Template.getStr_eq_none (habsent "CSI_EXPANDED_AT" (by decide)), Option.any_none,
      Bool.or_self]
  have hwhole : 0 ≤ size / sizeConversion * sizeConversion ∧
      size / sizeConversion * sizeConversion ≤ size := by
    have hmib : sizeConversion = 1048576 := rfl
    rw [hmib]
    omega
  have hbytes : int64 (size / sizeConversion * sizeConversion) =
      size / sizeConversion * sizeConversion := by
    apply int64_eq <;> omega
  simp only [Image.effectiveSizeBytes, Image.sizeBytes, Allocation.image, newVolume, hrequested,
    hmarker, Bool.false_eq_true, and_false, if_false, hbytes, effectiveVolumeSizeBytes]
  rw [if_neg (by omega)]

end OpenNebulaCSI.Provider
