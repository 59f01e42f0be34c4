import OpenNebulaCSI.Provider.Images
import Mathlib.Data.List.Sort

/-!
# Datastores

How the identifiers of a storage class become the datastores a volume may be provisioned on.
`resolveDatastores` looks each identifier up in the pool, by its number or by the alias `default`,
checks the datastore, and drops repetitions; `orderDatastores` sorts the result by the selection
policy. `resolveDatastores_eq_ok` says what is resolved, in terms of the datastores the identifiers
stand for.
-/

namespace OpenNebulaCSI.Provider

open Go Controller List

/-- The case tables, with the upper-case letter of each letter. -/
structure LetterTables extends CaseTables where
  upper : Char → Char

namespace LetterTables

/-- The tables on ASCII letters. -/
def ascii : LetterTables where
  toCaseTables := CaseTables.ascii
  upper := Char.toUpper

/-- `strings.ToUpper`. -/
def toUpper (tables : LetterTables) (s : String) : String :=
  String.ofList (s.toList.map tables.upper)

end LetterTables

/-- `strings.Fields`. -/
def fields (s : String) : List String :=
  ((s.toList.splitOnP isSpace).filter fun part => part ≠ []).map String.ofList

/-- A comma or a semicolon becomes a blank. -/
def separatorsToBlanks (s : String) : String :=
  String.ofList (s.toList.map fun c => if c = ',' ∨ c = ';' then ' ' else c)

/-- A datastore as OpenNebula describes it. -/
structure DatastoreSchema where
  id : Int
  name : String
  type : String
  dsMad : String
  tmMad : String
  diskType : String
  freeMB : Int
  totalMB : Int
  stateRaw : Int
  template : Template
  deriving DecidableEq

/-- A datastore as the driver uses it. -/
structure Datastore where
  id : Int
  name : String
  type : String
  backend : String
  freeBytes : Int
  totalBytes : Int
  enabled : Bool
  compatibleSystemDatastores : List Int
  /-- The datastore has the attributes of a CephFS datastore. -/
  cephFS : Bool
  deriving DecidableEq

/-! ## Attributes -/

def isNumericDatastoreField (value : String) : Bool :=
  value ≠ "" && value.toList.all Char.isDigit

/-- `getDatastoreAttribute`, for a key in upper case. -/
def getDatastoreAttribute (ds : DatastoreSchema) (key : String) : String :=
  if key = "DS_MAD" then trimSpace ds.dsMad
  else if key = "TM_MAD" then trimSpace ds.tmMad
  else
    let raw := trimSpace ds.diskType
    if key = "DISK_TYPE" ∧ raw ≠ "" ∧ isNumericDatastoreField raw = false then raw
    else trimSpace ((ds.template.getStr key).getD "")

def requireDatastoreAttributes (ds : DatastoreSchema) (keys : List String) :
    Except ProviderError Unit :=
  match keys.find? fun key => getDatastoreAttribute ds key = "" with
  | some key =>
    .error (.datastoreConfig (.plain ("datastore " ++ itoa ds.id ++
      " is missing required attribute " ++ key)))
  | none => .ok ()

def normalizeMonitorList (value : String) : List String :=
  fields (separatorsToBlanks (trimSpace value))

def compatibleSystemDatastores (ds : DatastoreSchema) : List Int :=
  (fields (separatorsToBlanks (getDatastoreAttribute ds "COMPATIBLE_SYS_DS"))).filterMap atoi

section Types

variable (tables : LetterTables)

def normalizeDiskType (ds : DatastoreSchema) : String :=
  tables.toUpper (getDatastoreAttribute ds "DISK_TYPE")

/-- The category a text stands for. -/
def datastoreCategory (candidate : String) : Option String :=
  let value := tables.toUpper (trimSpace candidate)
  if value ∈ ["IMAGE", "IMAGE_DS", "IMG", "0"] then some "IMAGE"
  else if value ∈ ["SYSTEM", "SYSTEM_DS", "SYS", "1"] then some "SYSTEM"
  else if value ∈ ["FILE", "FILE_DS", "FILES", "FIL", "2"] then some "FILE"
  else none

def normalizeDatastoreCategory (source : DatastoreSchema) : String :=
  ([source.type, getDatastoreAttribute source "TYPE"].findSome? (datastoreCategory tables)).getD
    (tables.toUpper (trimSpace source.type))

def validateProvisioningDatastoreCategory (source : DatastoreSchema) : Except ProviderError Unit :=
  if normalizeDatastoreCategory tables source ∈ ["", "IMAGE", "FILE"] then .ok ()
  else
    .error (.datastoreConfig (.plain ("datastore " ++ itoa source.id ++ " has OpenNebula type \"" ++
      source.type ++ "\" (template TYPE=\"" ++ getDatastoreAttribute source "TYPE" ++
      "\") and cannot be used for CSI provisioning; select an IMAGE or FILE datastore")))

def normalizeAllowedDatastoreType (value : String) : String :=
  let normalized := tables.toLower (trimSpace value)
  if normalized ∈ ["", "nas"] then "nfs"
  else if normalized ∈ ["fs", "fs_lvm", "fs_lvm_ssh"] then "local"
  else normalized

def inferDatastoreType (source : DatastoreSchema) : String :=
  let dsMad := tables.toLower (trimSpace source.dsMad)
  let tmMad := tables.toLower (trimSpace source.tmMad)
  let category := normalizeDatastoreCategory tables source
  let values := [tmMad, dsMad, tables.toLower (trimSpace source.type)]
  if tables.equalFold (getDatastoreAttribute source "OPENNEBULA_CSI_SHARE_BACKEND") "cephfs" then
    "cephfs"
  else if dsMad ∈ ["fs", "fs_lvm", "fs_lvm_ssh"] ∧
      (category ∈ ["IMAGE", "FILE"] ∨ tmMad ∈ ["ssh", "shared", "local"]) then "local"
  else if dsMad = "ceph" then "ceph"
  else
    let known := values.findSome? fun value =>
      if value ∈ ["local", "ceph", "nfs", "nas", "fs_lvm", "fs_lvm_ssh", "cephfs"] then some value
      else if value = "fs" ∧ tables.equalFold source.tmMad "local" then some "local"
      else none
    known.getD ((values.find? fun value => value ≠ "").getD "unknown")

/-! ## Backends -/

def validateCephImageDatastore (ds : DatastoreSchema) : Except ProviderError Unit :=
  if !tables.equalFold (trimSpace ds.dsMad) "ceph" then
    .error (.datastoreConfig (.plain ("datastore " ++ itoa ds.id ++ " must use DS_MAD=ceph")))
  else if !tables.equalFold (trimSpace ds.tmMad) "ceph" then
    .error (.datastoreConfig (.plain ("datastore " ++ itoa ds.id ++ " must use TM_MAD=ceph")))
  else if normalizeDiskType tables ds ≠ "RBD" then
    .error (.datastoreConfig (.plain ("datastore " ++ itoa ds.id ++ " must use DISK_TYPE=RBD")))
  else
    requireDatastoreAttributes ds
      ["POOL_NAME", "CEPH_HOST", "CEPH_USER", "CEPH_SECRET", "BRIDGE_LIST"]

def validateCephFSDatastore (ds : DatastoreSchema) : Except ProviderError Unit :=
  if !tables.equalFold (getDatastoreAttribute ds "OPENNEBULA_CSI_SHARE_BACKEND") "cephfs" then
    .error (.datastoreConfig (.plain ("datastore " ++ itoa ds.id ++
      " must define OPENNEBULA_CSI_SHARE_BACKEND=cephfs")))
  else if !tables.equalFold (normalizeDatastoreCategory tables ds) "FILE" then
    .error (.datastoreConfig (.plain ("datastore " ++ itoa ds.id ++
      " must be an OpenNebula FILE datastore for CephFS RWX")))
  else
    match requireDatastoreAttributes ds ["OPENNEBULA_CSI_CEPHFS_FS_NAME",
      "OPENNEBULA_CSI_CEPHFS_ROOT_PATH", "OPENNEBULA_CSI_CEPHFS_SUBVOLUME_GROUP", "CEPH_HOST"] with
    | .error err => .error err
    | .ok () =>
      if normalizeMonitorList (getDatastoreAttribute ds "CEPH_HOST") = [] then
        .error (.datastoreConfig (.plain ("datastore " ++ itoa ds.id ++
          " must define at least one Ceph monitor in CEPH_HOST")))
      else .ok ()

/-- `GetDatastoreBackendProfile` and `ValidateDatastore`: the backend of a type, once its checks
have passed. -/
def validatedBackend (typ : String) (ds : DatastoreSchema) : Except ProviderError String :=
  let backend := normalizeAllowedDatastoreType tables typ
  if backend = "local" then .ok backend
  else if backend = "ceph" then (validateCephImageDatastore tables ds).map fun _ => backend
  else if backend = "cephfs" then (validateCephFSDatastore tables ds).map fun _ => backend
  else .error (.datastoreConfig (.plain ("unsupported datastore backend \"" ++ typ ++ "\"")))

/-! ## Resolving identifiers -/

/-- `Ready` is state 0 and `Disable` state 1; a datastore in any other state counts as enabled. -/
def datastoreFromSchema (source : DatastoreSchema) : Datastore :=
  let type := normalizeAllowedDatastoreType tables (inferDatastoreType tables source)
  { id := source.id
    name := source.name
    type
    backend := type
    freeBytes := int64 (source.freeMB * sizeConversion)
    totalBytes := int64 (source.totalMB * sizeConversion)
    enabled := source.stateRaw ≠ 1
    compatibleSystemDatastores := compatibleSystemDatastores source
    cephFS := type = "cephfs" }

/-- The datastore the alias stands for: the last one of the pool with that name. -/
def defaultDatastore (pool : List DatastoreSchema) : Option DatastoreSchema :=
  (pool.filter fun candidate => candidate.name = "default").getLast?

/-- The datastore with an id; the last one of the pool counts. -/
def poolByID (pool : List DatastoreSchema) (id : Int) : Option DatastoreSchema :=
  (pool.filter fun candidate => candidate.id = id).getLast?

/-- The identifier is the alias of the default datastore. -/
def isDefaultAlias (identifier : String) : Bool :=
  tables.equalFold (trimSpace identifier) "default"

def resolveDatastoreIdentifier (identifier : String) (pool : List DatastoreSchema) :
    Except ProviderError DatastoreSchema :=
  let trimmed := trimSpace identifier
  if trimmed = "" then
    .error (.datastoreConfig (.plain "datastore identifier cannot be empty"))
  else if isDefaultAlias tables identifier then
    match defaultDatastore pool with
    | none =>
      .error (.datastoreConfig (.plain
        "default datastore alias was requested but no datastore named \"default\" exists"))
    | some candidate => .ok candidate
  else
    match atoi trimmed with
    | none =>
      .error (.datastoreConfig (.plain ("unsupported datastore identifier \"" ++ trimmed ++
        "\": use datastore IDs or the default alias")))
    | some id =>
      match poolByID pool id with
      | none =>
        .error (.datastoreConfig (.plain ("datastore " ++ itoa id ++ " was not found")))
      | some candidate => .ok candidate

structure DatastoreSelectionConfig where
  identifiers : List String
  policy : String
  allowedTypes : List String
  deriving DecidableEq

def normalizeAllowedDatastoreTypes (values : List String) : List String :=
  (if values = [] then ["local"] else values).map (normalizeAllowedDatastoreType tables)

/-- The checks `ResolveDatastores` makes for one identifier. -/
def provisioningDatastore (pool : List DatastoreSchema) (allowedTypes : List String)
    (identifier : String) : Except ProviderError Datastore :=
  match resolveDatastoreIdentifier tables identifier pool with
  | .error err => .error err
  | .ok candidate =>
    let normalized := datastoreFromSchema tables candidate
    if !normalized.enabled then
      .error (.datastoreConfig (.plain ("datastore \"" ++ identifier ++ "\" is not enabled")))
    else
      match validateProvisioningDatastoreCategory tables candidate with
      | .error err => .error err
      | .ok () =>
        if normalized.type ∉ allowedTypes then
          .error (.datastoreConfig (.plain ("datastore " ++ itoa normalized.id ++
            " resolved as type \"" ++ normalized.type ++ "\", which is not allowed")))
        else
          match validatedBackend tables normalized.type candidate with
          | .error err => .error err
          | .ok backend => .ok { normalized with backend }

/-- The loop of `ResolveDatastores`, over the datastores found so far. -/
def resolveEach (pool : List DatastoreSchema) (allowedTypes : List String) :
    List String → List Datastore → Except ProviderError (List Datastore)
  | [], resolved => .ok resolved
  | identifier :: rest, resolved =>
    match provisioningDatastore tables pool allowedTypes identifier with
    | .error err => .error err
    | .ok datastore =>
      if resolved.any fun other => other.id = datastore.id then
        resolveEach pool allowedTypes rest resolved
      else resolveEach pool allowedTypes rest (resolved ++ [datastore])

def resolveDatastores (pool : List DatastoreSchema) (selection : DatastoreSelectionConfig) :
    Except ProviderError (List Datastore) :=
  if selection.identifiers = [] then
    .error (.datastoreConfig (.plain "no datastores configured for provisioning"))
  else
    match resolveEach tables pool (normalizeAllowedDatastoreTypes tables selection.allowedTypes)
      selection.identifiers [] with
    | .error err => .error err
    | .ok resolved =>
      if resolved = [] then
        .error (.datastoreConfig (.plain "no eligible datastores found for provisioning"))
      else .ok resolved

/-! ## Selection policies -/

def normalizeDatastoreSelectionPolicy (policy : String) : String :=
  let value := tables.toLower (trimSpace policy)
  if value = "" then "least-used" else value

/-- What the driver remembers about a datastore: its recent failures and the attempts in progress.
-/
structure SelectionRuntime where
  failures : Int → ℕ
  inFlight : Int → ℕ

/-- `value / largest`, and zero if nothing is larger than zero. -/
def share (value largest : Float) : Float :=
  if largest > 0 then value / largest else 0

/-- The score of a candidate among all candidates. -/
def autopilotScore (runtime : SelectionRuntime) (candidates : List Datastore)
    (candidate : Datastore) : Float :=
  let largest (value : Datastore → Float) : Float :=
    candidates.foldl (fun most other => if value other > most then value other else most) 0
  let free (d : Datastore) : Float := Float.ofInt d.freeBytes
  let failures (d : Datastore) : Float := Float.ofNat (runtime.failures d.id)
  let inFlight (d : Datastore) : Float := Float.ofNat (runtime.inFlight d.id)
  let freeRatio :=
    if 0 < candidate.totalBytes then free candidate / Float.ofInt candidate.totalBytes else 0
  freeRatio * 0.4 + share (free candidate) (largest free) * 0.3 -
    share (failures candidate) (largest failures) * 0.2 -
    share (inFlight candidate) (largest inFlight) * 0.1

/-- `OrderDatastores`; the sorts are stable and descending. -/
def orderDatastores (runtime : SelectionRuntime) (candidates : List Datastore) (policy : String) :
    Except ProviderError (List Datastore) :=
  let normalized := normalizeDatastoreSelectionPolicy tables policy
  if normalized = "least-used" then
    .ok (candidates.mergeSort fun left right => right.freeBytes ≤ left.freeBytes)
  else if normalized = "ordered" then .ok candidates
  else if normalized = "autopilot" then
    let score := autopilotScore runtime candidates
    .ok (candidates.mergeSort fun left right => !(score right > score left))
  else
    .error (.datastoreConfig (.plain
      ("unsupported datastore selection policy \"" ++ policy ++ "\"")))

end Types

variable {tables : LetterTables} {pool : List DatastoreSchema} {allowedTypes : List String}

theorem toOption_resolveDatastoreIdentifier (identifier : String) :
    (resolveDatastoreIdentifier tables identifier pool).toOption =
      if isDefaultAlias tables identifier then defaultDatastore pool
      else (atoi (trimSpace identifier)).bind (poolByID pool) := by
  unfold resolveDatastoreIdentifier
  by_cases hblank : trimSpace identifier = ""
  · simp [hblank, isDefaultAlias, CaseTables.equalFold, equalFoldBy, atoi, digits?, Except.toOption]
  rw [if_neg hblank]
  split
  · cases defaultDatastore pool <;> rfl
  · cases atoi (trimSpace identifier) with
    | none => rfl
    | some id => cases hfound : poolByID pool id <;> simp [hfound, Except.toOption]

theorem resolveDatastoreIdentifier_eq_ok {identifier : String} {candidate : DatastoreSchema}
    (h : resolveDatastoreIdentifier tables identifier pool = .ok candidate) :
    isDefaultAlias tables identifier = true ∧ defaultDatastore pool = some candidate ∨
      isDefaultAlias tables identifier = false ∧
        ∃ id, atoi (trimSpace identifier) = some id ∧ poolByID pool id = some candidate := by
  have hsome := @toOption_resolveDatastoreIdentifier tables pool identifier
  rw [h] at hsome
  cases halias : isDefaultAlias tables identifier with
  | true =>
    rw [halias, if_pos rfl] at hsome
    exact .inl ⟨rfl, hsome.symm⟩
  | false =>
    rw [halias, if_neg (by decide)] at hsome
    exact .inr ⟨rfl, Option.bind_eq_some_iff.1 hsome.symm⟩

theorem id_of_poolByID {id : Int} {candidate : DatastoreSchema}
    (h : poolByID pool id = some candidate) : candidate.id = id := by
  have hmem := mem_of_getLast? h
  simpa using (mem_filter.1 hmem).2

/-! ## What is resolved -/

/-- The conditions on a datastore: it is not disabled, an image or file datastore, and of an allowed
type whose requirements it meets. -/
structure DatastoreSchema.Eligible (tables : LetterTables) (allowedTypes : List String)
    (source : DatastoreSchema) : Prop where
  state : source.stateRaw ≠ 1
  category : normalizeDatastoreCategory tables source ∈ ["", "IMAGE", "FILE"]
  type : (datastoreFromSchema tables source).type ∈ allowedTypes
  backend : ∃ backend,
    validatedBackend tables (datastoreFromSchema tables source).type source = .ok backend

/-- The datastore as it is used for provisioning, with the backend of its type. -/
def provisioned (tables : LetterTables) (source : DatastoreSchema) : Datastore :=
  let normalized := datastoreFromSchema tables source
  { normalized with backend := normalizeAllowedDatastoreType tables normalized.type }

theorem validatedBackend_eq_ok {type backend : String} {source : DatastoreSchema}
    (h : validatedBackend tables type source = .ok backend) :
    backend = normalizeAllowedDatastoreType tables type := by
  simp only [validatedBackend, Except.map] at h
  grind

theorem provisioningDatastore_eq_ok {identifier : String} {datastore : Datastore} :
    provisioningDatastore tables pool allowedTypes identifier = .ok datastore ↔
      ∃ source, resolveDatastoreIdentifier tables identifier pool = .ok source ∧
        source.Eligible tables allowedTypes ∧ datastore = provisioned tables source := by
  unfold provisioningDatastore
  cases resolveDatastoreIdentifier tables identifier pool with
  | error err => simp
  | ok source => ?_
  simp only [Except.ok.injEq, exists_eq_left']
  constructor
  · intro h
    split at h
    · cases h
    split at h
    · cases h
    split at h
    · cases h
    split at h
    · cases h
    rename_i hstate _ hcategory htype _ backend hbackend
    refine ⟨⟨?_, ?_, not_not.1 htype, backend, hbackend⟩, ?_⟩
    · simpa [datastoreFromSchema] using hstate
    · by_contra hnot
      simp [validateProvisioningDatastoreCategory, hnot] at hcategory
    · rw [← Except.ok.inj h, validatedBackend_eq_ok hbackend]
      rfl
  · rintro ⟨⟨hstate, hcategory, htype, backend, hbackend⟩, rfl⟩
    have henabled : (datastoreFromSchema tables source).enabled = true := by
      simpa [datastoreFromSchema] using hstate
    simp [henabled, validateProvisioningDatastoreCategory, hcategory, htype, hbackend,
      validatedBackend_eq_ok hbackend, provisioned]

/-- The first datastore of each id. -/
def firstByID : List Datastore → List Datastore
  | [] => []
  | datastore :: rest =>
    datastore :: (firstByID rest).filter fun other => other.id ≠ datastore.id

theorem firstByID_eq_nil {datastores : List Datastore} :
    firstByID datastores = [] ↔ datastores = [] := by
  cases datastores <;> simp [firstByID]

theorem mem_of_mem_firstByID {datastores : List Datastore} {datastore : Datastore}
    (h : datastore ∈ firstByID datastores) : datastore ∈ datastores := by
  induction datastores with
  | nil => exact h
  | cons first rest ih =>
    refine mem_cons.2 ((mem_cons.1 h).imp_right fun hrest => ?_)
    exact ih (mem_of_mem_filter hrest)

theorem exists_mem_firstByID {datastores : List Datastore} {id : Int} :
    (∃ datastore ∈ firstByID datastores, datastore.id = id) ↔
      ∃ datastore ∈ datastores, datastore.id = id := by
  induction datastores with
  | nil => rfl
  | cons first rest ih =>
    simp only [firstByID, exists_mem_cons_iff, ← ih, mem_filter, decide_eq_true_eq]
    grind

theorem resolveEach_eq_ok {identifiers : List String} {found resolved : List Datastore} :
    resolveEach tables pool allowedTypes identifiers found = .ok resolved ↔
      (∀ identifier ∈ identifiers, ∃ source, source.Eligible tables allowedTypes ∧
        resolveDatastoreIdentifier tables identifier pool = .ok source) ∧
      resolved = found ++ (firstByID (identifiers.filterMap fun identifier =>
          (resolveDatastoreIdentifier tables identifier pool).toOption.map
            (provisioned tables))).filter
        fun datastore => !found.any fun other => other.id = datastore.id := by
  induction identifiers generalizing found with
  | nil => simp [resolveEach, firstByID, eq_comm]
  | cons identifier rest ih =>
    rw [resolveEach, forall_mem_cons, filterMap_cons]
    cases hone : provisioningDatastore tables pool allowedTypes identifier with
    | error err =>
      have hnone : ∀ datastore, provisioningDatastore tables pool allowedTypes identifier ≠
          .ok datastore := by simp [hone]
      simp only [Ne, provisioningDatastore_eq_ok] at hnone
      grind
    | ok datastore => ?_
    obtain ⟨source, hsource, heligible, rfl⟩ := provisioningDatastore_eq_ok.1 hone
    have hhead : (resolveDatastoreIdentifier tables identifier pool).toOption.map
        (provisioned tables) = some (provisioned tables source) := by rw [hsource]; rfl
    have hexists : ∃ source, source.Eligible tables allowedTypes ∧
        resolveDatastoreIdentifier tables identifier pool = .ok source :=
      ⟨source, heligible, hsource⟩
    simp only [hhead, hexists, true_and, firstByID, filter_cons, filter_filter]
    split
    · -- A datastore that has been found before is dropped, and it drops nothing else.
      rename_i hseen
      rw [ih, hseen]
      have hsame : ∀ other : Datastore, (!found.any fun old => old.id = other.id) =
          ((!found.any fun old => old.id = other.id) &&
            !decide (other.id = (provisioned tables source).id)) := by
        intro other
        by_cases hother : other.id = (provisioned tables source).id
        · simp [hother, hseen]
        · simp [hother]
      simp [← hsame]
    · rename_i hnew
      simp [ih, hnew, eq_comm (a := (provisioned tables source).id)]

theorem resolveDatastores_eq_ok {selection : DatastoreSelectionConfig}
    {resolved : List Datastore} :
    resolveDatastores tables pool selection = .ok resolved ↔ selection.identifiers ≠ [] ∧
      (∀ identifier ∈ selection.identifiers, ∃ source, source.Eligible tables
        (normalizeAllowedDatastoreTypes tables selection.allowedTypes) ∧
          resolveDatastoreIdentifier tables identifier pool = .ok source) ∧
      resolved = firstByID (selection.identifiers.filterMap fun identifier =>
        (resolveDatastoreIdentifier tables identifier pool).toOption.map (provisioned tables)) := by
  have heach := @resolveEach_eq_ok tables pool
    (normalizeAllowedDatastoreTypes tables selection.allowedTypes) selection.identifiers []
  simp only [nil_append, any_nil, Bool.not_false, filter_true] at heach
  simp only [← heach]
  unfold resolveDatastores
  by_cases hempty : selection.identifiers = []
  · simp [hempty]
  rw [if_neg hempty]
  cases hfound : resolveEach tables pool
      (normalizeAllowedDatastoreTypes tables selection.allowedTypes) selection.identifiers [] with
  | error err => simp
  | ok found => ?_
  -- The first identifier has added its datastore.
  have hne : found ≠ [] := by
    obtain ⟨hall, rfl⟩ := heach.1 hfound
    obtain ⟨first, rest, hfirst⟩ := exists_cons_of_ne_nil hempty
    obtain ⟨source, -, hsource⟩ := hall first (by simp [hfirst])
    simp [hfirst, hsource, Except.toOption, firstByID]
  simp [hne, hempty]

theorem mem_resolveDatastores_iff {selection : DatastoreSelectionConfig}
    {resolved : List Datastore} (h : resolveDatastores tables pool selection = .ok resolved)
    (id : Int) :
    (∃ datastore ∈ resolved, datastore.id = id) ↔
      ∃ identifier ∈ selection.identifiers, ∃ candidate,
        resolveDatastoreIdentifier tables identifier pool = .ok candidate ∧ candidate.id = id := by
  obtain ⟨-, hall, rfl⟩ := resolveDatastores_eq_ok.1 h
  simp only [exists_mem_firstByID, mem_filterMap, Option.map_eq_some_iff]
  constructor
  · rintro ⟨datastore, ⟨identifier, hmem, source, hsource, rfl⟩, rfl⟩
    obtain ⟨found, -, hfound⟩ := hall identifier hmem
    obtain rfl : found = source := by simpa [hfound, Except.toOption] using hsource
    exact ⟨identifier, hmem, found, hfound, rfl⟩
  · rintro ⟨identifier, hmem, candidate, hcandidate, rfl⟩
    exact ⟨_, ⟨identifier, hmem, candidate, by rw [hcandidate]; rfl, rfl⟩, rfl⟩

/-- The datastore an identifier names: the default one by its alias, or the one with its number. -/
def namedDatastore (tables : LetterTables) (pool : List DatastoreSchema) (identifier : String) :
    Option DatastoreSchema :=
  if isDefaultAlias tables identifier then defaultDatastore pool
  else (atoi (trimSpace identifier)).bind fun id => pool.find? fun source => source.id = id

theorem mem_of_namedDatastore {identifier : String} {source : DatastoreSchema}
    (h : namedDatastore tables pool identifier = some source) : source ∈ pool := by
  unfold namedDatastore at h
  split at h
  · exact mem_of_mem_filter (mem_of_getLast? h)
  · obtain ⟨id, -, hfind⟩ := Option.bind_eq_some_iff.1 h
    exact mem_of_find?_eq_some hfind

theorem poolByID_eq_find? (hunique : (pool.map DatastoreSchema.id).Nodup) (id : Int) :
    poolByID pool id = pool.find? fun source => source.id = id := by
  cases hpool : poolByID pool id with
  | none =>
    rw [poolByID, getLast?_eq_none_iff, filter_eq_nil_iff] at hpool
    exact (find?_eq_none.2 hpool).symm
  | some source => ?_
  have hmem := mem_filter.1 (mem_of_getLast? hpool)
  cases hfind : pool.find? fun source => source.id = id with
  | none => exact absurd hmem.2 (find?_eq_none.1 hfind source hmem.1)
  | some other => ?_
  have hother : source.id = other.id := by
    simpa [id_of_poolByID hpool, eq_comm] using find?_some hfind
  exact congrArg some (inj_on_of_nodup_map hunique hmem.1 (mem_of_find?_eq_some hfind) hother)

/-- What `ResolveDatastores` returns: one datastore for each id that is named, in the order of the
identifiers, if all of them name eligible datastores, and else an error. -/
theorem resolveDatastores_spec (hunique : (pool.map DatastoreSchema.id).Nodup)
    (selection : DatastoreSelectionConfig) :
    (∀ resolved, resolveDatastores tables pool selection = .ok resolved → resolved ≠ [] ∧
      resolved = firstByID ((selection.identifiers.filterMap (namedDatastore tables pool)).map
        (provisioned tables)) ∧
      ∀ datastore ∈ resolved, ∃ source ∈ pool, datastore = provisioned tables source ∧
        source.Eligible tables (normalizeAllowedDatastoreTypes tables selection.allowedTypes)) ∧
    ((∃ err, resolveDatastores tables pool selection = .error err) ↔
      selection.identifiers = [] ∨ ∃ identifier ∈ selection.identifiers, ∀ source,
        namedDatastore tables pool identifier = some source →
        ¬ source.Eligible tables
          (normalizeAllowedDatastoreTypes tables selection.allowedTypes)) := by
  have hok := @resolveDatastores_eq_ok tables pool selection
  have hoption : ∀ identifier, (resolveDatastoreIdentifier tables identifier pool).toOption =
      namedDatastore tables pool identifier := by
    intro identifier
    simp only [toOption_resolveDatastoreIdentifier, namedDatastore, ← poolByID_eq_find? hunique]
  have hnamed : ∀ {identifier source}, resolveDatastoreIdentifier tables identifier pool =
      .ok source ↔ namedDatastore tables pool identifier = some source := by
    intro identifier source
    rw [← hoption]
    cases resolveDatastoreIdentifier tables identifier pool <;> simp [Except.toOption]
  simp only [hoption, hnamed, ← map_filterMap] at hok
  constructor
  · intro resolved h
    obtain ⟨hne, hall, rfl⟩ := hok.1 h
    refine ⟨?_, rfl, fun datastore hdatastore => ?_⟩
    · obtain ⟨identifier, hmem⟩ := exists_mem_of_ne_nil _ hne
      obtain ⟨source, -, hsource⟩ := hall identifier hmem
      simpa [firstByID_eq_nil] using ⟨identifier, hmem, by simp [hsource]⟩
    · obtain ⟨source, hsource, rfl⟩ := mem_map.1 (mem_of_mem_firstByID hdatastore)
      obtain ⟨identifier, hmem, hidentifier⟩ := mem_filterMap.1 hsource
      obtain ⟨other, heligible, hother⟩ := hall identifier hmem
      obtain rfl := Option.mem_unique hother hidentifier
      exact ⟨other, mem_of_namedDatastore hother, rfl, heligible⟩
  · cases hresult : resolveDatastores tables pool selection with
    | ok resolved =>
      obtain ⟨hne, hall, -⟩ := hok.1 hresult
      grind
    | error err =>
      refine ⟨fun _ => ?_, fun _ => ⟨err, rfl⟩⟩
      by_contra hnone
      push Not at hnone
      cases hresult.symm.trans (hok.2 ⟨hnone.1, by grind, rfl⟩)

/-- The default datastore and another one. -/
def aliasPool : List DatastoreSchema :=
  [⟨1, "default", "IMAGE_DS", "fs", "ssh", "", 1024, 2048, 0, []⟩,
    ⟨7, "fast", "IMAGE_DS", "fs", "ssh", "", 1024, 2048, 0, []⟩]

/-- The default datastore is named twice, and is used once. -/
theorem resolveDatastores_alias :
    resolveDatastores .ascii aliasPool ⟨["7", "default", "1"], "ordered", []⟩ =
        .ok (aliasPool.reverse.map (provisioned .ascii)) ∧
      aliasPool.reverse.map (provisioned .ascii) =
        firstByID ((["7", "default", "1"].filterMap (namedDatastore .ascii aliasPool)).map
          (provisioned .ascii)) := by
  have hok : resolveDatastores .ascii aliasPool ⟨["7", "default", "1"], "ordered", []⟩ =
      .ok (aliasPool.reverse.map (provisioned .ascii)) := by decide +kernel
  exact ⟨hok, ((resolveDatastores_spec (by decide) _).1 _ hok).2.1⟩

end OpenNebulaCSI.Provider
