import OpenNebulaCSI.Controller.Types

/-!
# Images

OpenNebula images, and what the disk provider reads from them: the size of a volume, which is the
larger one of the size of its image and of the size that an expansion has recorded in the template,
and the ids of its snapshots. Sizes of images are in MiB; `int64` arithmetic wraps around.
-/

namespace OpenNebulaCSI.Provider

open Go Controller

/-- A result of `int64` arithmetic. -/
def int64 (n : Int) : Int :=
  n.bmod (2 * (maxInt + 1))

theorem int64_eq {n : Int} (hlow : 0 ≤ n) (hhigh : n ≤ maxInt) : int64 n = n := by
  have hmax : maxInt = 9223372036854775807 := rfl
  rw [hmax] at hhigh
  rw [int64, hmax, Int.bmod_def]
  omega

def sizeConversion : Int :=
  1024 * 1024

/-- The pairs of a template, in order. -/
abbrev Template :=
  List (String × String)

namespace Template

/-- `GetStr`: the value of the first pair with the key. -/
def getStr (t : Template) (key : String) : Option String :=
  t.lookup key

/-- `GetStrs`: the values of all pairs with the key. -/
def getStrs (t : Template) (key : String) : List String :=
  (t.filter fun pair => pair.1 = key).map Prod.snd

end Template

structure ImageSnapshot where
  id : Int
  date : Int
  deriving DecidableEq

/-- An OpenNebula image; the size is in MiB. -/
structure Image where
  id : Int
  name : String
  size : Int
  template : Template
  snapshots : List ImageSnapshot
  deriving DecidableEq

/-- The answers of OpenNebula to the queries about images. -/
structure ImageQueries where
  byName : String → Except GoError Int
  info : Int → Except GoError Image
  pool : Except GoError (List Image)

/-! ## Sizes -/

/-- A loop over the values of a tag: the largest size, and the values that are no positive number.
-/
def readRequestedSizes (unit : Int) : List String → Int → List String → Int × List String
  | [], requestedSizeBytes, parseErrs => (requestedSizeBytes, parseErrs)
  | raw :: rest, requestedSizeBytes, parseErrs =>
    let value := trimSpace raw
    if value = "" then readRequestedSizes unit rest requestedSizeBytes parseErrs
    else
      match atoi value with
      | none => readRequestedSizes unit rest requestedSizeBytes (parseErrs ++ [value])
      | some parsed =>
        if parsed ≤ 0 then
          readRequestedSizes unit rest requestedSizeBytes (parseErrs ++ [value])
        else
          let sizeBytes := int64 (parsed * unit)
          let larger := if requestedSizeBytes < sizeBytes then sizeBytes else requestedSizeBytes
          readRequestedSizes unit rest larger parseErrs

def csiRequestedSizeBytesFromTemplate (t : Template) : Except GoError Int :=
  let fromBytes := readRequestedSizes 1 (t.getStrs "CSI_REQUESTED_SIZE_BYTES") 0 []
  if 0 < fromBytes.1 then .ok fromBytes.1
  else
    let fromMB :=
      readRequestedSizes sizeConversion (t.getStrs "CSI_REQUESTED_SIZE_MB") fromBytes.1 fromBytes.2
    if 0 < fromMB.1 then .ok fromMB.1
    else if fromMB.2 ≠ [] then
      .error (.plain ("invalid CSI requested size values: " ++ joinWith "," fromMB.2))
    else .ok 0

def hasCSIExpansionMarker (t : Template) : Bool :=
  (t.getStr "CSI_EXPANDED_BY").any (fun value => trimSpace value ≠ "") ||
    (t.getStr "CSI_EXPANDED_AT").any fun value => trimSpace value ≠ ""

def effectiveVolumeSizeBytes (canonicalSizeBytes requestedSizeBytes : Int) : Int :=
  if canonicalSizeBytes < requestedSizeBytes then requestedSizeBytes else canonicalSizeBytes

/-- The size of an image in bytes. -/
def Image.sizeBytes (image : Image) : Int :=
  int64 (image.size * sizeConversion)

/-- The size `VolumeExists` reports for the image it has found for a volume. -/
def Image.effectiveSizeBytes (image : Image) (volume : String) (imgID : Int) :
    Except GoError Int :=
  match csiRequestedSizeBytesFromTemplate image.template with
  | .error err =>
    .error (err.wrap ("volume " ++ volume ++ " image " ++ itoa imgID ++
      " has invalid CSI requested size metadata: "))
  | .ok requestedSizeBytes =>
    if requestedSizeBytes ≤ 0 ∧ hasCSIExpansionMarker image.template then
      .error (.plain ("volume " ++ volume ++ " image " ++ itoa imgID ++
        " has incomplete CSI expansion metadata: CSI_REQUESTED_SIZE_BYTES or " ++
        "CSI_REQUESTED_SIZE_MB is missing"))
    else .ok (effectiveVolumeSizeBytes image.sizeBytes requestedSizeBytes)

/-- `VolumeExists`: the image of a volume and the size of the volume. -/
def volumeExists (queries : ImageQueries) (volume : String) : Except GoError (Int × Int) :=
  match queries.byName volume with
  | .error err => .error (err.wrap "failed to get volume by name: ")
  | .ok imgID =>
    match queries.info imgID with
    | .error err => .error (err.wrap "failed to get volume info: ")
    | .ok image =>
      match image.effectiveSizeBytes volume imgID with
      | .error err => .error err
      | .ok effectiveSizeBytes => .ok (imgID, effectiveSizeBytes)

/-! ## Snapshots -/

structure VolumeSnapshot where
  snapshotID : String
  sourceVolumeID : String
  /-- In nanoseconds since 1970. -/
  creationTime : Int
  sizeBytes : Int
  readyToUse : Bool
  deriving DecidableEq

def encodeVolumeSnapshotID (imageID snapshotID : Int) : String :=
  "image-snapshot:" ++ itoa imageID ++ ":" ++ itoa snapshotID

/-- `strings.Cut` at the first colon. -/
def cutColon (s : String) : Option (String × String) :=
  let chars := s.toList
  if ':' ∈ chars then
    some (String.ofList (chars.takeWhile fun c => c ≠ ':'),
      String.ofList ((chars.dropWhile fun c => c ≠ ':').drop 1))
  else none

def decodeVolumeSnapshotID (value : String) : Except ProviderError (Int × Int) :=
  let trimmed := trimSpace value
  if !hasPrefix trimmed "image-snapshot:" then
    .error (.datastoreConfig (.plain ("invalid OpenNebula snapshot ID \"" ++ value ++ "\"")))
  else
    match cutColon (String.ofList (trimmed.toList.drop 15)) with
    | none =>
      .error (.datastoreConfig (.plain ("invalid OpenNebula snapshot ID \"" ++ value ++ "\"")))
    | some (imageIDRaw, snapshotIDRaw) =>
      match atoi imageIDRaw with
      | none =>
        .error (.datastoreConfig (.plain
          ("invalid image ID in snapshot reference \"" ++ value ++ "\"")))
      | some imageID =>
        match atoi snapshotIDRaw with
        | none =>
          .error (.datastoreConfig (.plain
            ("invalid snapshot ID in snapshot reference \"" ++ value ++ "\"")))
        | some snapshotID => .ok (imageID, snapshotID)

def imageSnapshotByID (imageInfo : Image) (snapshotID : Int) : Except GoError ImageSnapshot :=
  match imageInfo.snapshots.find? fun snapshot => snapshot.id = snapshotID with
  | some snapshot => .ok snapshot
  | none =>
    .error (.plain ("snapshot " ++ itoa snapshotID ++ " was not found in image " ++
      itoa imageInfo.id))

def convertImageSnapshot (imageInfo : Image) (snapshot : ImageSnapshot) : VolumeSnapshot where
  snapshotID := encodeVolumeSnapshotID imageInfo.id snapshot.id
  sourceVolumeID := imageInfo.name
  creationTime := snapshot.date * 1000000000
  sizeBytes := imageInfo.sizeBytes
  readyToUse := true

def convertImageSnapshots (imageInfo : Image) : List VolumeSnapshot :=
  imageInfo.snapshots.map (convertImageSnapshot imageInfo)

example : decodeVolumeSnapshotID (encodeVolumeSnapshotID 12 3) = .ok (12, 3) := by decide +kernel

end OpenNebulaCSI.Provider
