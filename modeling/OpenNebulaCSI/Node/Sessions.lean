import OpenNebulaCSI.Controller.Types
import Mathlib.Data.List.Sort

/-!
# Sessions of shared filesystem volumes

The record the node service keeps about a staged CephFS volume, and how it is made from a stage
request or from the mount table. A session lists the targets the volume is published at, so that the
recovery can bind them again after it has mounted the stage anew.
-/

namespace OpenNebulaCSI.Node

open Go Controller

/-- An entry of the mount table. -/
structure MountPoint where
  device : String
  path : String
  fsType : String
  opts : List String
  deriving DecidableEq

/-- `sharedFilesystemMounter`; a session file may hold any other text. -/
inductive SharedFilesystemMounter where
  | fuse | kernel
  | other (name : String)
  deriving DecidableEq

structure SharedFilesystemPublishedTarget where
  targetPath : String
  mountOptions : List String
  deriving DecidableEq

structure SharedFilesystemSession where
  volumeID : String
  mounter : SharedFilesystemMounter
  userID : String
  stagingTargetPath : String
  monitors : List String
  fsName : String
  subpath : String
  stageMountOptions : List String
  keyringPath : String
  secretFilePath : String
  publishedTargets : List SharedFilesystemPublishedTarget
  deriving DecidableEq

structure SharedFilesystemSessionHealth where
  recoverStage : Bool
  targetsToRebind : List SharedFilesystemPublishedTarget

/-! ## Lists of options and targets -/

/-- The values without surrounding blanks, each once and none empty. -/
def uniqueStrings (values : List String) : List String :=
  ((values.map trimSpace).filter fun value => value ≠ "").eraseDups

def splitCSV (value : String) : List String :=
  ((split ',' value).map trimSpace).filter fun part => part ≠ ""

def firstNonEmpty (values : List String) : String :=
  ((values.map trimSpace).find? fun value => value ≠ "").getD ""

/-- The loop of `normalizeSharedFilesystemPublishedTargets`, over the paths it has seen. -/
def distinctTargets (seen : List String) :
    List SharedFilesystemPublishedTarget → List SharedFilesystemPublishedTarget
  | [] => []
  | target :: rest =>
    let targetPath := trimSpace target.targetPath
    if targetPath = "" ∨ targetPath ∈ seen then distinctTargets seen rest
    else
      { targetPath, mountOptions := uniqueStrings target.mountOptions } ::
        distinctTargets (targetPath :: seen) rest

/-- Targets in the order of their paths, each path once. -/
def normalizeSharedFilesystemPublishedTargets (targets : List SharedFilesystemPublishedTarget) :
    List SharedFilesystemPublishedTarget :=
  (distinctTargets [] targets).insertionSort fun target other =>
    target.targetPath ≤ other.targetPath

/-! ## Reading the mount table -/

def sharedFilesystemMountOptionsFromMountPoint (mountPoint : MountPoint) : List String :=
  uniqueStrings ((mountPoint.opts.map trimSpace).filter fun option =>
    option ∉ ["", "bind", "rw", "defaults"])

/-- Whether the code takes a mount for one made from the stage: another path with the stage's path
or the stage's device as its device. -/
def madeFromStage (stage mountPoint : MountPoint) : Bool :=
  mountPoint.path ≠ stage.path &&
    (mountPoint.device = stage.path || mountPoint.device = stage.device)

def sharedFilesystemPublishedTargetsFromMounts (mountPoints : List MountPoint)
    (stageMount : MountPoint) : List SharedFilesystemPublishedTarget :=
  normalizeSharedFilesystemPublishedTargets <|
    (mountPoints.filter (madeFromStage stageMount)).map fun mountPoint =>
      { targetPath := mountPoint.path
        mountOptions := sharedFilesystemMountOptionsFromMountPoint mountPoint }

def sharedFilesystemVolumeIDFromStagingPath (stagingTargetPath : String) : String :=
  let cleaned := Path.clean stagingTargetPath
  if Path.base cleaned ≠ "globalmount" then ""
  else
    let volumeID := Path.base (Path.dir cleaned)
    if isSharedFilesystemVolumeID volumeID then volumeID else ""

def sharedFilesystemMounterFromMountType (fsType : String) : SharedFilesystemMounter :=
  if equalFold (trimSpace fsType) "ceph" then .kernel else .fuse

/-- Whether `checkMountPoint` finds a mount at the path, which is never empty here. -/
def targetIsMountPoint (mountPoints : List MountPoint) (targetPath : String) : Bool :=
  mountPoints.any fun mountPoint => mountPoint.path = targetPath

/-- The component of the path after "pods". -/
def podUIDFromKubeletPath (path : String) : String :=
  match (split '/' (Path.clean path)).dropWhile fun part => part ≠ "pods" with
  | _ :: uid :: _ => uid
  | _ => ""

def isDisconnectedSharedFilesystemError (err : GoError) : Bool :=
  contains (String.ofList (err.message.toList.map Char.toLower))
    "transport endpoint is not connected"

def sharedCephFSKeyringDir (stagingTargetPath : String) : String :=
  stagingTargetPath ++ ".cephfs"

def sharedCephFSKeyringPath (stagingTargetPath : String) : String :=
  Path.join (sharedCephFSKeyringDir stagingTargetPath) "ceph.client.keyring"

def sharedCephFSSecretPath (stagingTargetPath : String) : String :=
  Path.join (sharedCephFSKeyringDir stagingTargetPath) "ceph.secret"

def sharedCephFSConfPath (stagingTargetPath : String) : String :=
  Path.join (sharedCephFSKeyringDir stagingTargetPath) "ceph.conf"

/-! ## Requests -/

/-- The access type of a volume capability, with the mount flags of a mount. -/
inductive AccessType where
  | unset | block
  | mount (flags : List String)
  deriving DecidableEq

def AccessType.mountFlags : AccessType → List String
  | .mount flags => flags
  | _ => []

/-- `csi.NodeStageVolumeRequest`. -/
structure NodeStageRequest where
  volumeId : String
  volumeCapability : Option AccessType
  publishContext : StringMap
  volumeContext : StringMap
  stagingTargetPath : String
  secrets : StringMap
  deriving DecidableEq

/-- `csi.NodeUnstageVolumeRequest`. -/
structure NodeUnstageRequest where
  volumeId : String
  stagingTargetPath : String
  deriving DecidableEq

/-- `csi.NodePublishVolumeRequest`. -/
structure NodePublishRequest where
  volumeId : String
  volumeCapability : Option AccessType
  stagingTargetPath : String
  targetPath : String
  readonly : Bool
  deriving DecidableEq

/-- `csi.NodeUnpublishVolumeRequest`. -/
structure NodeUnpublishRequest where
  volumeId : String
  targetPath : String
  deriving DecidableEq

def normalizeSharedFilesystemMounter (raw : String) : Except GoError SharedFilesystemMounter :=
  if trimSpace raw = "" ∨ equalFold (trimSpace raw) "fuse" then .ok .fuse
  else if equalFold (trimSpace raw) "kernel" then .ok .kernel
  else .error (.plain ("unsupported CephFS mounter \"" ++ raw ++ "\""))

def sharedFilesystemStageMountOptions (req : NodeStageRequest) : List String :=
  let options := splitCSV (req.publishContext.get "cephfsMountOptions") ++
    (req.volumeCapability.map AccessType.mountFlags).getD []
  if equalFold (trimSpace (req.publishContext.get "cephfsReadonly")) "true" then
    uniqueStrings (options ++ ["ro"])
  else uniqueStrings options

def sharedFilesystemBindMountOptions (req : NodePublishRequest) : List String :=
  uniqueStrings ((if req.readonly then ["ro"] else []) ++
    (req.volumeCapability.map AccessType.mountFlags).getD [])

def sharedFilesystemSessionFromStageRequest (req : NodeStageRequest) :
    Except GoError SharedFilesystemSession := do
  let mounter ← (normalizeSharedFilesystemMounter (firstNonEmpty
    [req.publishContext.get "cephfsMounter", req.volumeContext.get "cephfsMounter"])).mapError
      fun err => .status .invalidArgument err.message
  let monitors := splitCSV (req.publishContext.get "cephfsMonitors")
  let fsName := trimSpace (req.publishContext.get "cephfsFSName")
  let subpath := trimSpace (req.publishContext.get "cephfsSubpath")
  if monitors = [] ∨ fsName = "" ∨ subpath = "" then
    throw (.status .invalidArgument "CephFS publish context is incomplete")
  let userID := trimSpace (req.secrets.get "userID")
  if userID = "" then
    throw (.status .invalidArgument "CephFS node staging requires secret key \"userID\"")
  return { volumeID := req.volumeId
           mounter, userID
           stagingTargetPath := req.stagingTargetPath
           monitors, fsName, subpath
           stageMountOptions := sharedFilesystemStageMountOptions req
           keyringPath := sharedCephFSKeyringPath req.stagingTargetPath
           secretFilePath := sharedCephFSSecretPath req.stagingTargetPath
           publishedTargets := [] }

theorem sharedFilesystemSessionFromStageRequest_ok {req : NodeStageRequest}
    {session : SharedFilesystemSession}
    (h : sharedFilesystemSessionFromStageRequest req = .ok session) :
    session.volumeID = req.volumeId ∧ session.stagingTargetPath = req.stagingTargetPath ∧
      session.publishedTargets = [] := by
  unfold sharedFilesystemSessionFromStageRequest at h
  cases hmounter : normalizeSharedFilesystemMounter (firstNonEmpty
      [req.publishContext.get "cephfsMounter", req.volumeContext.get "cephfsMounter"]) with
  | error err =>
    rw [hmounter] at h
    cases h
  | ok mounter =>
    rw [hmounter] at h
    simp only [Except.mapError, bind, Except.bind] at h
    split at h
    · cases h
    simp only [pure, Except.pure] at h
    split at h
    · cases h
    · cases h
      exact ⟨rfl, rfl, rfl⟩

def sharedFilesystemTargetFromPublishRequest (req : NodePublishRequest) :
    SharedFilesystemPublishedTarget where
  targetPath := req.targetPath
  mountOptions := sharedFilesystemBindMountOptions req

/-! ## Changing the targets of a session -/

/-- The session with its lists in the form in which it is stored. -/
def SharedFilesystemSession.normalize (session : SharedFilesystemSession) :
    SharedFilesystemSession :=
  { session with
    stageMountOptions := uniqueStrings session.stageMountOptions
    publishedTargets := normalizeSharedFilesystemPublishedTargets session.publishedTargets }

/-- `updateSharedFilesystemPublishedTarget`: replace the target of the same path, or add it. -/
def SharedFilesystemSession.withTarget (session : SharedFilesystemSession)
    (target : SharedFilesystemPublishedTarget) : SharedFilesystemSession :=
  let replaced := session.publishedTargets.map fun existing =>
    if existing.targetPath = target.targetPath then target else existing
  { session with
    publishedTargets :=
      if session.publishedTargets.any fun existing => existing.targetPath = target.targetPath then
        replaced
      else replaced ++ [target] }

/-- `removeSharedFilesystemPublishedTarget`. -/
def SharedFilesystemSession.withoutTarget (session : SharedFilesystemSession)
    (targetPath : String) :
    SharedFilesystemSession :=
  { session with
    publishedTargets := session.publishedTargets.filter fun target =>
      target.targetPath ≠ targetPath }

/-! ## Where targets come from -/

section Targets

variable {targets : List SharedFilesystemPublishedTarget} {target : SharedFilesystemPublishedTarget}

theorem mem_distinctTargets {seen : List String} (h : target ∈ distinctTargets seen targets) :
    ∃ original ∈ targets, target.targetPath = trimSpace original.targetPath := by
  induction targets generalizing seen with
  | nil => cases h
  | cons first rest ih =>
    have hrest : ∀ seen, target ∈ distinctTargets seen rest →
        ∃ original ∈ first :: rest, target.targetPath = trimSpace original.targetPath := by
      intro seen hmem
      obtain ⟨original, horiginal, hpath⟩ := ih hmem
      exact ⟨original, List.mem_cons_of_mem _ horiginal, hpath⟩
    simp only [distinctTargets] at h
    split at h
    · exact hrest _ h
    rcases List.mem_cons.1 h with rfl | h
    · exact ⟨first, by simp, rfl⟩
    · exact hrest _ h

theorem mem_normalizeSharedFilesystemPublishedTargets
    (h : target ∈ normalizeSharedFilesystemPublishedTargets targets) :
    ∃ original ∈ targets, target.targetPath = trimSpace original.targetPath :=
  mem_distinctTargets ((List.mem_insertionSort _).1 h)

theorem mem_sharedFilesystemPublishedTargetsFromMounts {mountPoints : List MountPoint}
    {stage : MountPoint}
    (h : target ∈ sharedFilesystemPublishedTargetsFromMounts mountPoints stage) :
    ∃ mountPoint ∈ mountPoints, madeFromStage stage mountPoint = true ∧
      target.targetPath = trimSpace mountPoint.path := by
  obtain ⟨original, horiginal, hpath⟩ := mem_normalizeSharedFilesystemPublishedTargets h
  obtain ⟨mountPoint, hmem, rfl⟩ := List.mem_map.1 horiginal
  obtain ⟨hmount, hstage⟩ := List.mem_filter.1 hmem
  exact ⟨mountPoint, hmount, hstage, hpath⟩

theorem mem_withTarget {session : SharedFilesystemSession}
    {added : SharedFilesystemPublishedTarget}
    (h : target ∈ (session.withTarget added).publishedTargets) :
    target ∈ session.publishedTargets ∨ target = added := by
  have hreplaced : ∀ candidate ∈ session.publishedTargets.map (fun existing =>
      if existing.targetPath = added.targetPath then added else existing),
      candidate ∈ session.publishedTargets ∨ candidate = added := by
    intro candidate hcandidate
    obtain ⟨existing, hexisting, rfl⟩ := List.mem_map.1 hcandidate
    split
    · exact .inr rfl
    · exact .inl hexisting
  simp only [SharedFilesystemSession.withTarget] at h
  split at h
  · exact hreplaced _ h
  rcases List.mem_append.1 h with h | h
  · exact hreplaced _ h
  · exact .inr (List.mem_singleton.1 h)

end Targets

end OpenNebulaCSI.Node
