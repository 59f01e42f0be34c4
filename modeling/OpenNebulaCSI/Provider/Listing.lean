import OpenNebulaCSI.Listing.Pages
import OpenNebulaCSI.Provider.Images

/-!
# Listing volumes and snapshots

`ListSnapshots` makes the whole list of snapshots at every call and returns a part of it; its tokens
are positions in that list. `ListVolumes` asks OpenNebula for a part of the image pool and then
drops the images of other owners. Its response never has a token, so what is not on the first page
is never listed: `listVolumes_complete_iff`.
-/

namespace OpenNebulaCSI.Provider

open Go Controller Listing List

/-! ## Snapshots -/

/-- Where a page starts. -/
def startOf (startingToken : String) : Option ℕ :=
  if trimSpace startingToken = "" then some 0
  else (atoi startingToken).bind fun value => if value < 0 then none else some value.toNat

/-- The end of `ListSnapshots` and of `ListSharedSnapshots`, over all snapshots. -/
def pageOf (snapshots : List VolumeSnapshot) (maxEntries : Int) (startingToken : String) :
    Except ProviderError (List VolumeSnapshot × String) :=
  match startOf startingToken with
  | none => .error (.other (.plain ("invalid starting token \"" ++ startingToken ++ "\"")))
  | some start =>
    if snapshots.length < start then
      .error (.other (.plain ("starting token \"" ++ startingToken ++ "\" is out of range")))
    else if 0 < maxEntries ∧ start + maxEntries < snapshots.length then
      .ok ((snapshots.drop start).take maxEntries.toNat, itoa (start + maxEntries))
    else .ok (snapshots.drop start, "")

/-- The snapshots `ListSnapshots` makes its pages from: one snapshot, those of one volume, or those
of all images. -/
def collectSnapshots (queries : ImageQueries) (snapshotID sourceVolumeID : String) :
    Except ProviderError (List VolumeSnapshot) :=
  if trimSpace snapshotID ≠ "" then
    match decodeVolumeSnapshotID snapshotID with
    | .error err => .error err
    | .ok (imageID, imageSnapshotID) =>
      match queries.info imageID with
      | .error err =>
        .error (.other (err.wrap ("failed to inspect image " ++ itoa imageID ++
          " while listing snapshot \"" ++ snapshotID ++ "\": ")))
      | .ok imageInfo =>
        match imageSnapshotByID imageInfo imageSnapshotID with
        | .error err => .error (.other err)
        | .ok snapshot => .ok [convertImageSnapshot imageInfo snapshot]
  else if trimSpace sourceVolumeID ≠ "" then
    match volumeExists queries sourceVolumeID with
    | .error err =>
      .error (.other (err.wrap ("failed to resolve source volume \"" ++ sourceVolumeID ++ "\": ")))
    | .ok (imageID, _) =>
      if imageID = -1 then
        .error (.other (.plain ("source volume \"" ++ sourceVolumeID ++ "\" was not found")))
      else
        match queries.info imageID with
        | .error err =>
          .error (.other (err.wrap ("failed to inspect source volume \"" ++ sourceVolumeID ++
            "\": ")))
        | .ok imageInfo => .ok (convertImageSnapshots imageInfo)
  else
    match queries.pool with
    | .error err =>
      .error (.other (err.wrap "failed to list images while enumerating snapshots: "))
    | .ok images => .ok (images.flatMap convertImageSnapshots)

def listSnapshots (queries : ImageQueries) (snapshotID sourceVolumeID : String) (maxEntries : Int)
    (startingToken : String) : Except ProviderError (List VolumeSnapshot × String) :=
  match collectSnapshots queries snapshotID sourceVolumeID with
  | .error err => .error err
  | .ok snapshots => pageOf snapshots maxEntries startingToken

/-! ## Volumes -/

/-- The image has been made by the driver. -/
def Image.isOwnedBy (image : Image) (owner : String) : Bool :=
  image.template.getStr "OWNER" = some owner

/-- `ListVolumes` of the disk provider, over the call that returns a part of the image pool. The
handler below does not show its errors. -/
def providerListVolumes (images : Int → Int → Except GoError (List Image)) (owner : String)
    (maxEntries : Int) (startingToken : String) : Except GoError (List String) :=
  let offset :=
    if startingToken = "" then some (-1)
    else (atoi startingToken).bind fun startIndex =>
      if startIndex < 0 then none else some (-startIndex)
  match offset with
  | none => .error (.plain "invalid starting token: ")
  | some offset =>
    if maxEntries < 0 then .error (.plain "maxEntries must be non-negative")
    else
      match images offset (if 0 < maxEntries then maxEntries else -1) with
      | .error err => .error (err.wrap "failed to list volumes: ")
      | .ok page => .ok ((page.filter fun image => image.isOwnedBy owner).map Image.name)

/-- `ControllerServer.ListVolumes`: the ids of the entries, and the next token, which the response
leaves empty. -/
def listVolumes (images : Int → Int → Except GoError (List Image)) (maxEntries : Int)
    (startingToken : String) : Except GoError (List String × String) :=
  let validToken := startingToken = "" || (atoi startingToken).any fun startIndex => 0 ≤ startIndex
  if maxEntries < 0 then .error (.status .aborted "invalid max_entries")
  else if !validToken then .error (.status .aborted "invalid starting_token")
  else
    match providerListVolumes images defaultDriverName maxEntries startingToken with
    | .error _ => .error (.status .internal "failed to list volumes")
    | .ok volumes => .ok (volumes, "")

/-- The part of the pool for an offset and a page size. The images are counted from `first`, which
is 0 or 1; a negative page size asks for all images. -/
def poolPage (first : ℕ) (pool : List Image) (offset size : Int) : Except GoError (List Image) :=
  let rest := pool.drop ((-offset).toNat - first)
  .ok (if size < 0 then rest else rest.take size.toNat)

/-- The volumes that should be listed. -/
def ownedVolumes (pool : List Image) : List String :=
  (pool.filter fun image => image.isOwnedBy defaultDriverName).map Image.name

section ListVolumes

variable (first : ℕ) (pool : List Image)

/-- The images that are not on the first page of size `m`. -/
def beyondFirstPage (m : ℕ) : List Image :=
  pool.take (1 - first) ++ pool.drop (1 - first + m)

theorem listVolumes_first {m : ℕ} (hm : 0 < m) :
    listVolumes (poolPage first pool) m "" =
      .ok (ownedVolumes ((pool.drop (1 - first)).take m), "") := by
  have hsize : ¬ (m : Int) < 0 := by omega
  simp [listVolumes, providerListVolumes, poolPage, hsize, hm, ownedVolumes]

theorem length_ownedVolumes_le (pool : List Image) : (ownedVolumes pool).length ≤ pool.length := by
  rw [ownedVolumes, length_map]
  exact length_filter_le _ _

theorem ownedVolumes_append (pool rest : List Image) :
    ownedVolumes (pool ++ rest) = ownedVolumes pool ++ ownedVolumes rest := by
  simp [ownedVolumes]

theorem ownedVolumes_eq_nil_iff {pool : List Image} :
    ownedVolumes pool = [] ↔ ∀ image ∈ pool, image.isOwnedBy defaultDriverName = false := by
  simp [ownedVolumes, filter_eq_nil_iff]

theorem ownedVolumes_perm (m : ℕ) :
    (ownedVolumes pool).Perm
      (ownedVolumes (beyondFirstPage first pool m) ++
        ownedVolumes ((pool.drop (1 - first)).take m)) := by
  have hsplit : ownedVolumes pool = ownedVolumes (pool.take (1 - first)) ++
      (ownedVolumes ((pool.drop (1 - first)).take m) ++
        ownedVolumes (pool.drop (1 - first + m))) := by
    rw [← ownedVolumes_append, ← ownedVolumes_append, ← drop_drop, take_append_drop,
      take_append_drop]
  rw [hsplit, beyondFirstPage, ownedVolumes_append, append_assoc]
  exact List.Perm.append_left _ perm_append_comm

/-- Following the tokens lists every volume of the driver exactly once, if and only if all of them
are on the first page. -/
theorem listVolumes_complete_iff {m : ℕ} (hm : 0 < m) :
    (∃ pages,
        Chain (fun size token => listVolumes (poolPage first pool) size token) (fun _ => m) 0 ""
          pages ∧ pages.flatten.Perm (ownedVolumes pool) ∧ ∀ page ∈ pages, page.length ≤ m) ↔
      ∀ image ∈ beyondFirstPage first pool m, image.isOwnedBy defaultDriverName = false := by
  have hfirst := listVolumes_first first pool hm
  have hperm := ownedVolumes_perm first pool m
  constructor
  · rintro ⟨pages, hchain, hall, -⟩
    rw [hchain.eq_of_last hfirst, flatten_singleton] at hall
    have hlength := (hall.trans hperm).length_eq
    rw [length_append] at hlength
    have hnone : ownedVolumes (beyondFirstPage first pool m) = [] := by
      apply length_eq_zero_iff.1
      omega
    exact ownedVolumes_eq_nil_iff.1 hnone
  · intro hnone
    have hempty : ownedVolumes (beyondFirstPage first pool m) = [] :=
      ownedVolumes_eq_nil_iff.2 hnone
    rw [hempty, nil_append] at hperm
    refine ⟨_, .last hfirst, ?_, ?_⟩
    · rw [flatten_singleton]
      exact hperm.symm
    · intro page hpage
      rw [mem_singleton.1 hpage]
      calc (ownedVolumes ((pool.drop (1 - first)).take m)).length
          ≤ ((pool.drop (1 - first)).take m).length := length_ownedVolumes_le _
        _ ≤ m := length_take_le _ _

end ListVolumes

/-- An image of the driver. -/
def driverImage (id : Int) (name : String) : Image where
  id
  name
  size := 1024
  template := [("OWNER", "csi.opennebula.io")]
  snapshots := []

/-- With two volumes and one entry a page, the second volume is not listed. -/
theorem listVolumes_misses_secondVolume :
    ¬ ∃ pages, Chain (fun size token =>
        listVolumes (poolPage 1 [driverImage 4 "pvc-a", driverImage 5 "pvc-b"]) size token)
        (fun _ => 1) 0 "" pages ∧
      pages.flatten.Perm (ownedVolumes [driverImage 4 "pvc-a", driverImage 5 "pvc-b"]) ∧
      ∀ page ∈ pages, page.length ≤ 1 := by
  rintro ⟨pages, hchain, hall, -⟩
  have hfirst : listVolumes (poolPage 1 [driverImage 4 "pvc-a", driverImage 5 "pvc-b"]) 1 "" =
      .ok (["pvc-a"], "") := by decide +kernel
  rw [hchain.eq_of_last hfirst] at hall
  exact absurd hall.length_eq (by decide +kernel)

/-- A pool whose only volume of the driver is on the first page. -/
theorem listVolumes_complete_onePage :
    (∃ pages, Chain (fun size token =>
        listVolumes (poolPage 1 [driverImage 4 "pvc-a",
          { driverImage 5 "other" with template := [] }])
          size token) (fun _ => 1) 0 "" pages ∧
      pages.flatten.Perm (ownedVolumes [driverImage 4 "pvc-a",
        { driverImage 5 "other" with template := [] }]) ∧
      ∀ page ∈ pages, page.length ≤ 1) :=
  (listVolumes_complete_iff 1 _ Nat.one_pos).2 (by decide +kernel)

end OpenNebulaCSI.Provider
