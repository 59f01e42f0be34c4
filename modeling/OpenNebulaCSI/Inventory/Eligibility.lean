import Mathlib.Data.List.Induction
import OpenNebulaCSI.Node.Sessions
import OpenNebulaCSI.Provider.Datastores

/-!
# The authority of the inventory

With the authority of the inventory, a storage class can only name datastores that an
`OpenNebulaDatastore` object admits. `filterIdentifiers` checks the identifiers before they are
resolved. Two things escape it: the alias `default` is no number and passes, and of several objects
with one id only the last one is remembered. `selected_admitted_iff` says that nothing else does.
-/

namespace OpenNebulaCSI.Inventory

open Go Controller Provider List

/-- The fields of an `OpenNebulaDatastore` object the cache reads. -/
structure OpenNebulaDatastore where
  openNebulaDatastoreID : Int
  enabled : Bool
  allowed : Bool
  phase : String
  deriving DecidableEq

structure DatastoreEligibility where
  id : Int
  enabled : Bool
  allowed : Bool
  phase : String
  deriving DecidableEq

/-- Provisioning is possible: enabled, allowed, and in phase `Enabled`, `Available` or none. -/
def DatastoreEligibility.admits (entry : DatastoreEligibility) : Bool :=
  entry.enabled && entry.allowed &&
    (entry.phase = "" || entry.phase = "Enabled" || entry.phase = "Available")

def OpenNebulaDatastore.eligibility (item : OpenNebulaDatastore) : DatastoreEligibility where
  id := item.openNebulaDatastoreID
  enabled := item.enabled
  allowed := item.allowed
  phase := item.phase

/-- The eligibility provider: its mode and the entries of the last refresh. -/
structure EligibilityProvider where
  authorityMode : String
  enabled : Bool
  entries : Int → Option DatastoreEligibility

/-- The loop of `refresh`: an entry per object, where a later object replaces an earlier one. -/
def entriesOf (items : List OpenNebulaDatastore) : Int → Option DatastoreEligibility :=
  items.foldl (fun entries item id =>
    if id = item.openNebulaDatastoreID then some item.eligibility else entries id) fun _ => none

/-- `refresh`; a failed list leaves the entries as they are. -/
def EligibilityProvider.refresh (provider : EligibilityProvider)
    (list : Except GoError (List OpenNebulaDatastore)) :
    Except GoError Unit × EligibilityProvider :=
  match list with
  | .error err => (.error err, provider)
  | .ok items => (.ok (), { provider with entries := entriesOf items })

/-- What `FilterIdentifiers` does with one identifier; `none` drops it. -/
def EligibilityProvider.filterIdentifier (provider : EligibilityProvider) (identifier : String) :
    Except GoError (Option String) :=
  let trimmed := trimSpace identifier
  if trimmed = "" then .ok none
  else
    match atoi trimmed with
    | none => .ok (some trimmed)
    | some id =>
      match provider.entries id with
      | none =>
        if provider.authorityMode = "strict" then
          .error (.plain ("inventory authority rejected datastore " ++ itoa id ++
            " because no OpenNebulaDatastore object exists"))
        else .ok (some trimmed)
      | some entry =>
        if entry.admits then .ok (some trimmed)
        else
          .error (.plain ("inventory authority rejected datastore " ++ itoa id ++
            " because provisioning is disabled"))

/-- The loop of `FilterIdentifiers`. -/
def EligibilityProvider.filterEach (provider : EligibilityProvider) :
    List String → Except GoError (List String)
  | [] => .ok []
  | identifier :: rest =>
    match provider.filterIdentifier identifier with
    | .error err => .error err
    | .ok kept =>
      match provider.filterEach rest with
      | .error err => .error err
      | .ok filtered => .ok (kept.toList ++ filtered)

def EligibilityProvider.filterIdentifiers (provider : EligibilityProvider)
    (identifiers : List String) : Except GoError (List String) :=
  if !provider.enabled then .ok identifiers else provider.filterEach identifiers

/-- The configuration of the driver; a value that is not set is `none`. -/
structure DriverConfig where
  defaultDatastores : Option (List String)
  datastorePolicy : Option String
  allowedDatastoreTypes : Option (List String)
  inventoryEligibility : Option EligibilityProvider

/-- The identifiers of the storage class, or else those of the configuration. -/
def DriverConfig.requestedIdentifiers (driver : DriverConfig) (params : StringMap) : List String :=
  let rawIdentifiers := trimSpace (params.get "datastoreIDs")
  if rawIdentifiers ≠ "" then Node.splitCSV rawIdentifiers else driver.defaultDatastores.getD []

def DriverConfig.selectionPolicy (tables : LetterTables) (driver : DriverConfig)
    (params : StringMap) : String :=
  let rawPolicy := trimSpace (params.get "datastoreSelectionPolicy")
  normalizeDatastoreSelectionPolicy tables
    (if rawPolicy ≠ "" then rawPolicy else driver.datastorePolicy.getD "least-used")

/-- The identifiers the authority of the inventory leaves. -/
def DriverConfig.authorizedIdentifiers (driver : DriverConfig) (identifiers : List String) :
    Except GoError (List String) :=
  match driver.inventoryEligibility with
  | none => .ok identifiers
  | some provider =>
    if provider.enabled then provider.filterIdentifiers identifiers else .ok identifiers

def DriverConfig.getDatastoreSelectionConfig (tables : LetterTables) (driver : DriverConfig)
    (params : StringMap) : Except GoError DatastoreSelectionConfig :=
  let identifiers := driver.requestedIdentifiers params
  if identifiers = [] then
    .error (.plain ("no datastores configured; set ONE_CSI_DEFAULT_DATASTORES or storage class " ++
      "parameter datastoreIDs"))
  else
    match driver.authorizedIdentifiers identifiers with
    | .error err => .error err
    | .ok [] =>
      .error (.plain "no eligible datastores remain after inventory authority filtering")
    | .ok (first :: rest) =>
      .ok { identifiers := first :: rest
            policy := driver.selectionPolicy tables params
            allowedTypes := driver.allowedDatastoreTypes.getD ["local", "ceph", "cephfs"] }

/-! ## What the filter lets through -/

section Filter

variable {provider : EligibilityProvider}

theorem entriesOf_eq (items : List OpenNebulaDatastore) (id : Int) :
    entriesOf items id =
      ((items.filter fun item => item.openNebulaDatastoreID = id).getLast?).map
        OpenNebulaDatastore.eligibility := by
  induction items using List.reverseRecOn with
  | nil => rfl
  | append_singleton items last ih =>
    have hstep : entriesOf (items ++ [last]) id =
        if id = last.openNebulaDatastoreID then some last.eligibility else entriesOf items id := by
      rw [entriesOf, foldl_append]
      rfl
    rw [hstep, filter_append]
    by_cases hid : id = last.openNebulaDatastoreID
    · simp [hid]
    · have hid' : ¬ last.openNebulaDatastoreID = id := fun h => hid h.symm
      simp [hid, hid', ih]

/-- What is kept of an identifier, and what the strict mode has checked. -/
theorem filterIdentifier_eq_ok {identifier : String} {kept : Option String}
    (h : provider.filterIdentifier identifier = .ok kept) :
    (kept = if trimSpace identifier = "" then none else some (trimSpace identifier)) ∧
      (provider.authorityMode = "strict" → ∀ id, atoi (trimSpace identifier) = some id →
        ∃ entry, provider.entries id = some entry ∧ entry.admits = true) := by
  unfold EligibilityProvider.filterIdentifier at h
  by_cases hempty : trimSpace identifier = ""
  · rw [if_pos hempty] at h ⊢
    refine ⟨(Except.ok.inj h).symm, fun _ id hid => ?_⟩
    rw [hempty] at hid
    cases hid
  rw [if_neg hempty] at h ⊢
  cases hid : atoi (trimSpace identifier) with
  | none =>
    simp only [hid, Except.ok.injEq] at h
    exact ⟨h.symm, fun _ id hsome => by cases hsome⟩
  | some id => ?_
  cases hentry : provider.entries id with
  | none =>
    simp only [hid, hentry] at h
    split at h
    · cases h
    · rename_i hmode
      exact ⟨(Except.ok.inj h).symm, fun hstrict => absurd hstrict hmode⟩
  | some entry =>
    simp only [hid, hentry] at h
    split at h
    · rename_i hadmits
      refine ⟨(Except.ok.inj h).symm, fun _ id' hsome => ?_⟩
      obtain rfl := Option.some.inj hsome
      exact ⟨entry, hentry, hadmits⟩
    · cases h

/-- The filter keeps the trimmed identifiers, and the strict mode has admitted the numbers. -/
theorem filterEach_eq_ok {identifiers filtered : List String}
    (h : provider.filterEach identifiers = .ok filtered) :
    filtered = (identifiers.map trimSpace).filter (fun identifier => identifier ≠ "") ∧
      (provider.authorityMode = "strict" → ∀ identifier ∈ identifiers, ∀ id,
        atoi (trimSpace identifier) = some id →
          ∃ entry, provider.entries id = some entry ∧ entry.admits = true) := by
  induction identifiers generalizing filtered with
  | nil =>
    obtain rfl := Except.ok.inj h
    exact ⟨rfl, fun _ identifier hmem => absurd hmem not_mem_nil⟩
  | cons identifier rest ih =>
    unfold EligibilityProvider.filterEach at h
    cases hone : provider.filterIdentifier identifier with
    | error err => simp [hone] at h
    | ok kept => ?_
    cases hrest : provider.filterEach rest with
    | error err => simp [hone, hrest] at h
    | ok others => ?_
    simp only [hone, hrest, Except.ok.injEq] at h
    obtain ⟨hkept, hchecked⟩ := filterIdentifier_eq_ok hone
    obtain ⟨hothers, hall⟩ := ih hrest
    constructor
    · rw [← h, hkept, hothers]
      by_cases hempty : trimSpace identifier = ""
      · simp [hempty]
      · simp [hempty]
    · intro hstrict other hmem id hid
      rcases mem_cons.1 hmem with rfl | hmem
      · exact hchecked hstrict id hid
      · exact hall hstrict other hmem id hid

end Filter

/-! ## The selected datastores -/

/-- There are objects with the id, and all of them admit provisioning. -/
def Admitted (objects : List OpenNebulaDatastore) (id : Int) : Prop :=
  (∃ object ∈ objects, object.openNebulaDatastoreID = id) ∧
    ∀ object ∈ objects, object.openNebulaDatastoreID = id → object.eligibility.admits = true

instance (objects : List OpenNebulaDatastore) (id : Int) : Decidable (Admitted objects id) :=
  inferInstanceAs (Decidable (_ ∧ _))

/-- The objects with an id that a later object with the id hides. -/
def hiddenObjects (objects : List OpenNebulaDatastore) (id : Int) : List OpenNebulaDatastore :=
  (objects.filter fun object => object.openNebulaDatastoreID = id).dropLast

/-- The alias is not used for a datastore that is not admitted, and no number for a datastore with a
hidden object that does not admit it. -/
def Unambiguous (tables : LetterTables) (objects : List OpenNebulaDatastore)
    (pool : List DatastoreSchema) (identifiers : List String) : Prop :=
  ∀ identifier ∈ identifiers,
    (isDefaultAlias tables identifier = true →
      ∀ datastore ∈ defaultDatastore pool, Admitted objects datastore.id) ∧
    (isDefaultAlias tables identifier = false → ∀ id ∈ atoi (trimSpace identifier),
      ∀ object ∈ hiddenObjects objects id, object.eligibility.admits = true)

instance (tables : LetterTables) (objects : List OpenNebulaDatastore)
    (pool : List DatastoreSchema) (identifiers : List String) :
    Decidable (Unambiguous tables objects pool identifiers) :=
  inferInstanceAs (Decidable (∀ identifier ∈ identifiers, _))

theorem admitted_of_last {objects : List OpenNebulaDatastore} {id : Int}
    {entry : DatastoreEligibility} (hentry : entriesOf objects id = some entry)
    (hadmits : entry.admits = true)
    (hhidden : ∀ object ∈ hiddenObjects objects id, object.eligibility.admits = true) :
    Admitted objects id := by
  rw [entriesOf_eq] at hentry
  obtain ⟨last, hlast, rfl⟩ := Option.map_eq_some_iff.1 hentry
  have hmem := mem_filter.1 (mem_of_getLast? hlast)
  have hid : last.openNebulaDatastoreID = id := of_decide_eq_true hmem.2
  refine ⟨⟨last, hmem.1, hid⟩, ?_⟩
  intro object hobject hsame
  have hfiltered : object ∈ objects.filter fun object => object.openNebulaDatastoreID = id :=
    mem_filter.2 ⟨hobject, decide_eq_true hsame⟩
  rw [← dropLast_append_getLast? last hlast] at hfiltered
  rcases mem_append.1 hfiltered with hdropped | hkept
  · exact hhidden object hdropped
  · rwa [mem_singleton.1 hkept]

theorem mem_of_mem_hiddenObjects {objects : List OpenNebulaDatastore} {id : Int}
    {object : OpenNebulaDatastore} (h : object ∈ hiddenObjects objects id) :
    object ∈ objects ∧ object.openNebulaDatastoreID = id := by
  have hmem := mem_filter.1 (dropLast_subset _ h)
  exact ⟨hmem.1, of_decide_eq_true hmem.2⟩

theorem isDefaultAlias_trimSpace (tables : LetterTables) (identifier : String) :
    isDefaultAlias tables (trimSpace identifier) = isDefaultAlias tables identifier := by
  rw [isDefaultAlias, isDefaultAlias, trimSpace_trimSpace]

theorem trimSpace_ne_empty_of_isDefaultAlias {tables : LetterTables} {identifier : String}
    (h : isDefaultAlias tables identifier = true) : trimSpace identifier ≠ "" := by
  intro hempty
  rw [isDefaultAlias, hempty] at h
  cases h

theorem trimSpace_ne_empty_of_atoi {identifier : String} {id : Int}
    (h : atoi (trimSpace identifier) = some id) : trimSpace identifier ≠ "" := by
  intro hempty
  rw [hempty] at h
  cases h

section Selection

variable {tables : LetterTables} {driver : DriverConfig} {params : StringMap}
  {provider : EligibilityProvider} {objects : List OpenNebulaDatastore}
  {selection : DatastoreSelectionConfig}

theorem identifiers_of_getDatastoreSelectionConfig
    (h : driver.getDatastoreSelectionConfig tables params = .ok selection) :
    driver.authorizedIdentifiers (driver.requestedIdentifiers params) =
      .ok selection.identifiers := by
  simp only [DriverConfig.getDatastoreSelectionConfig] at h
  split at h
  · cases h
  split at h
  · cases h
  · cases h
  rename_i first rest hauthorized
  obtain rfl := Except.ok.inj h
  exact hauthorized

/-- With the authority in strict mode, the identifiers of a selection are the requested ones that
are not blank, and their numbers have been admitted. -/
theorem identifiers_of_strict
    (hauthority : driver.inventoryEligibility = some (provider.refresh (.ok objects)).2)
    (henabled : provider.enabled = true) (hstrict : provider.authorityMode = "strict")
    (h : driver.getDatastoreSelectionConfig tables params = .ok selection) :
    selection.identifiers = ((driver.requestedIdentifiers params).map trimSpace).filter
        (fun identifier => identifier ≠ "") ∧
      ∀ identifier ∈ driver.requestedIdentifiers params, ∀ id,
        atoi (trimSpace identifier) = some id →
          ∃ entry, entriesOf objects id = some entry ∧ entry.admits = true := by
  have hauthorized := identifiers_of_getDatastoreSelectionConfig h
  have hfilter : (provider.refresh (.ok objects)).2.filterEach
      (driver.requestedIdentifiers params) =
      .ok selection.identifiers := by
    simpa [DriverConfig.authorizedIdentifiers, hauthority, EligibilityProvider.refresh, henabled,
      EligibilityProvider.filterIdentifiers] using hauthorized
  obtain ⟨hkept, hchecked⟩ := filterEach_eq_ok hfilter
  exact ⟨hkept, hchecked hstrict⟩

/-- Every selected datastore is admitted if and only if the requested identifiers are unambiguous.
-/
theorem selected_admitted_iff {pool : List DatastoreSchema} {datastores : List Datastore}
    (hauthority : driver.inventoryEligibility = some (provider.refresh (.ok objects)).2)
    (henabled : provider.enabled = true) (hstrict : provider.authorityMode = "strict")
    (hselect : driver.getDatastoreSelectionConfig tables params = .ok selection)
    (hresolve : resolveDatastores tables pool selection = .ok datastores) :
    (∀ datastore ∈ datastores, Admitted objects datastore.id) ↔
      Unambiguous tables objects pool (driver.requestedIdentifiers params) := by
  obtain ⟨hidentifiers, hchecked⟩ := identifiers_of_strict hauthority henabled hstrict hselect
  constructor
  · intro hadmitted identifier hmem
    -- The identifier is resolved, so the datastore it stands for is in the result.
    have hselected : trimSpace identifier ≠ "" → ∃ candidate,
        resolveDatastoreIdentifier tables (trimSpace identifier) pool = .ok candidate ∧
          Admitted objects candidate.id := by
      intro hne
      have hkept : trimSpace identifier ∈ selection.identifiers := by
        rw [hidentifiers]
        exact mem_filter.2 ⟨mem_map_of_mem hmem, decide_eq_true hne⟩
      obtain ⟨candidate, -, hcandidate⟩ := (resolveDatastores_eq_ok.1 hresolve).2.1 _ hkept
      obtain ⟨datastore, hdatastore, hid⟩ := (mem_resolveDatastores_iff hresolve candidate.id).2
        ⟨_, hkept, candidate, hcandidate, rfl⟩
      exact ⟨candidate, hcandidate, hid ▸ hadmitted datastore hdatastore⟩
    constructor
    · intro halias datastore hdefault
      obtain ⟨candidate, hcandidate, hok⟩ := hselected (trimSpace_ne_empty_of_isDefaultAlias halias)
      rcases resolveDatastoreIdentifier_eq_ok hcandidate with ⟨-, hfound⟩ | ⟨hother, -⟩
      · obtain rfl := Option.mem_unique hdefault hfound
        exact hok
      · rw [isDefaultAlias_trimSpace, halias] at hother
        cases hother
    · intro halias id hnumber object hobject
      obtain ⟨candidate, hcandidate, hok⟩ := hselected (trimSpace_ne_empty_of_atoi hnumber)
      rcases resolveDatastoreIdentifier_eq_ok hcandidate with ⟨hother, -⟩ | ⟨-, id', hid', hfound⟩
      · rw [isDefaultAlias_trimSpace, halias] at hother
        cases hother
      rw [trimSpace_trimSpace, Option.mem_def.1 hnumber] at hid'
      obtain rfl := Option.some.inj hid'
      rw [id_of_poolByID hfound] at hok
      obtain ⟨hobjects, hsame⟩ := mem_of_mem_hiddenObjects hobject
      exact hok.2 object hobjects hsame
  · intro hunambiguous datastore hdatastore
    obtain ⟨identifier, hkept, candidate, hcandidate, hid⟩ :=
      (mem_resolveDatastores_iff hresolve datastore.id).1 ⟨datastore, hdatastore, rfl⟩
    rw [hidentifiers] at hkept
    obtain ⟨requested, hrequested, rfl⟩ := mem_map.1 (mem_filter.1 hkept).1
    obtain ⟨haliases, hnumbers⟩ := hunambiguous requested hrequested
    rw [← hid]
    rcases resolveDatastoreIdentifier_eq_ok hcandidate with
      ⟨halias, hfound⟩ | ⟨halias, id, hnumber, hfound⟩
    · rw [isDefaultAlias_trimSpace] at halias
      exact haliases halias candidate hfound
    rw [isDefaultAlias_trimSpace] at halias
    rw [trimSpace_trimSpace] at hnumber
    obtain ⟨entry, hentry, hadmits⟩ := hchecked requested hrequested id hnumber
    rw [id_of_poolByID hfound]
    exact admitted_of_last hentry hadmits (hnumbers halias id hnumber)

end Selection

/-- A driver that takes its datastores from the storage class, with the authority in strict mode. -/
def strictDriver (objects : List OpenNebulaDatastore) : DriverConfig where
  defaultDatastores := none
  datastorePolicy := none
  allowedDatastoreTypes := none
  inventoryEligibility := some ((EligibilityProvider.mk "strict" true fun _ => none).refresh
    (.ok objects)).2

/-- An enabled image datastore on local files. -/
def localDatastore (id : Int) (name : String) : DatastoreSchema where
  id
  name
  type := "0"
  dsMad := "fs"
  tmMad := "ssh"
  diskType := "0"
  freeMB := 4096
  totalMB := 8192
  stateRaw := 0
  template := []

/-- The selection made for a storage class. -/
def selectionOf (identifiers : List String) : DatastoreSelectionConfig where
  identifiers
  policy := "least-used"
  allowedTypes := ["local", "ceph", "cephfs"]

/-- A numbered datastore whose one object admits it. -/
theorem numbered_datastore_admitted :
    Admitted [⟨7, true, true, "Enabled"⟩]
      (datastoreFromSchema .ascii (localDatastore 7 "fast")).id := by
  have hauthority : (strictDriver [⟨7, true, true, "Enabled"⟩]).inventoryEligibility =
      some ((EligibilityProvider.mk "strict" true fun _ => none).refresh
        (.ok [⟨7, true, true, "Enabled"⟩])).2 := rfl
  have hselect : (strictDriver [⟨7, true, true, "Enabled"⟩]).getDatastoreSelectionConfig .ascii
      [("datastoreIDs", "7")] = .ok (selectionOf ["7"]) := by decide +kernel
  have hresolve : resolveDatastores .ascii [localDatastore 7 "fast"] (selectionOf ["7"]) =
      .ok [datastoreFromSchema .ascii (localDatastore 7 "fast")] := by decide +kernel
  have hadmitted := (selected_admitted_iff hauthority rfl rfl hselect hresolve).2
    (by decide +kernel)
  exact hadmitted _ (mem_singleton.2 rfl)

/-- The alias selects a datastore that no object describes. -/
theorem default_datastore_notAdmitted :
    ∃ selection datastores,
      (strictDriver []).getDatastoreSelectionConfig .ascii [("datastoreIDs", "default")] =
          .ok selection ∧
        resolveDatastores .ascii [localDatastore 1 "default"] selection = .ok datastores ∧
        ¬ ∀ datastore ∈ datastores, Admitted [] datastore.id :=
  ⟨selectionOf ["default"], [datastoreFromSchema .ascii (localDatastore 1 "default")],
    by decide +kernel, by decide +kernel, by decide +kernel⟩

end OpenNebulaCSI.Inventory
