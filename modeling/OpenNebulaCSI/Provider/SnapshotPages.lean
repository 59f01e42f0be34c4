import OpenNebulaCSI.Provider.CephFSSnapshots

/-!
# Pages of snapshots

`ListSnapshots` and `ListSharedSnapshots` end alike: a page is a part of the list that the provider
assembles, and a token is a position in it. `ImageSnapshots` and `SharedSnapshots` say what these
lists are.
-/

namespace OpenNebulaCSI.Provider

open Go Controller Listing List

/-! ## The lists -/

/-- The snapshot with the id, those of the volume, or those of all images in the order of the
pool. -/
inductive ImageSnapshots (queries : ImageQueries) (snapshotID sourceVolumeID : String) :
    List VolumeSnapshot → Prop where
  | one {imageID : Int} {image : Image} {snapshot : ImageSnapshot}
      (hid : trimSpace snapshotID ≠ "")
      (hdecode : decodeVolumeSnapshotID snapshotID = .ok (imageID, snapshot.id))
      (hinfo : queries.info imageID = .ok image) (hmem : snapshot ∈ image.snapshots) :
      ImageSnapshots queries snapshotID sourceVolumeID [convertImageSnapshot image snapshot]
  | ofVolume {imageID size : Int} {image : Image} (hid : trimSpace snapshotID = "")
      (hsource : trimSpace sourceVolumeID ≠ "")
      (hexists : volumeExists queries sourceVolumeID = .ok (imageID, size))
      (hinfo : queries.info imageID = .ok image) :
      ImageSnapshots queries snapshotID sourceVolumeID
        (image.snapshots.map (convertImageSnapshot image))
  | ofPool {images : List Image} (hid : trimSpace snapshotID = "")
      (hsource : trimSpace sourceVolumeID = "") (hpool : queries.pool = .ok images) :
      ImageSnapshots queries snapshotID sourceVolumeID
        (images.flatMap fun image => image.snapshots.map (convertImageSnapshot image))

theorem imageSnapshots_of_collect {queries : ImageQueries} {snapshotID sourceVolumeID : String}
    {snapshots : List VolumeSnapshot}
    (h : collectSnapshots queries snapshotID sourceVolumeID = .ok snapshots) :
    ImageSnapshots queries snapshotID sourceVolumeID snapshots := by
  unfold collectSnapshots at h
  split at h
  · rename_i hid
    split at h
    · cases h
    rename_i imageID imageSnapshotID hdecode
    split at h
    · cases h
    rename_i image hinfo
    unfold imageSnapshotByID at h
    cases hfind : image.snapshots.find? fun snapshot => snapshot.id = imageSnapshotID with
    | none =>
      rw [hfind] at h
      cases h
    | some snapshot =>
      rw [hfind] at h
      cases h
      obtain rfl : snapshot.id = imageSnapshotID := by simpa using find?_some hfind
      exact .one hid hdecode hinfo (mem_of_find?_eq_some hfind)
  rename_i hid
  split at h
  · rename_i hsource
    split at h
    · cases h
    rename_i imageID size hexists
    split at h
    · cases h
    split at h
    · cases h
    rename_i image hinfo
    cases h
    exact .ofVolume (not_not.1 hid) hsource hexists hinfo
  · rename_i hsource
    split at h
    · cases h
    rename_i images hpool
    cases h
    exact .ofPool (not_not.1 hid) (not_not.1 hsource) hpool

/-- The snapshot with the id, or those of the volume in the order Ceph lists their names, each under
an id made from its name. -/
inductive SharedSnapshots (tables : LetterTables) (codec : SharedIDCodec) (ctx : CallContext)
    (cluster : Cluster) (snapshotID sourceVolumeID : String) : List VolumeSnapshot → Prop where
  | one {snapshot : VolumeSnapshot} (hid : trimSpace snapshotID ≠ "")
      (hfound : snapshotOfID tables codec ctx cluster snapshotID = .ok snapshot) :
      SharedSnapshots tables codec ctx cluster snapshotID sourceVolumeID [snapshot]
  | ofVolume {metadata : SharedVolumeMetadata} {names : List String}
      {snapshots : List VolumeSnapshot} (hid : trimSpace snapshotID = "")
      (hsource : validateSharedVolume tables codec ctx sourceVolumeID = .ok metadata)
      (hnames : listSnapshotNames ctx cluster metadata.ref = .ok names)
      (hids : snapshots.map VolumeSnapshot.snapshotID = names.map fun name =>
        codec.encodeSharedVolumeSnapshotID (metadata.snapshotMetadata sourceVolumeID name)) :
      SharedSnapshots tables codec ctx cluster snapshotID sourceVolumeID snapshots

theorem sharedSnapshots_of_collect {tables : LetterTables} {codec : SharedIDCodec}
    {ctx : CallContext} {cluster : Cluster} {snapshotID sourceVolumeID : String}
    {snapshots : List VolumeSnapshot}
    (h : collectSharedSnapshots tables codec ctx cluster snapshotID sourceVolumeID =
      .ok snapshots) :
    SharedSnapshots tables codec ctx cluster snapshotID sourceVolumeID snapshots := by
  unfold collectSharedSnapshots at h
  split at h
  · rename_i hid
    cases hfound : snapshotOfID tables codec ctx cluster snapshotID with
    | error err =>
      rw [hfound] at h
      cases h
    | ok snapshot =>
      rw [hfound] at h
      cases h
      exact .one hid hfound
  rename_i hid
  split at h
  · cases hnamed : snapshotsOfVolume tables codec ctx cluster sourceVolumeID with
    | error err =>
      rw [hnamed] at h
      cases h
    | ok named =>
      rw [hnamed] at h
      cases h
      obtain ⟨metadata, names, hmetadata, hnames, hids⟩ := snapshotsOfVolume_ids hnamed
      have hsnd := congrArg (List.map Prod.snd) hids
      rw [map_map, map_map] at hsnd
      exact .ofVolume (not_not.1 hid) hmetadata hnames (by rwa [map_map])
  · cases h

/-! ## The pages -/

/-- The token for a position. -/
def tokenOf (start : ℕ) : String :=
  if start = 0 then "" else itoa start

theorem tokenOf_ne_empty {start : ℕ} (h : start ≠ 0) : tokenOf start ≠ "" := by
  rw [tokenOf, if_neg h]
  exact itoa_ne_empty start

theorem startOf_tokenOf {start : ℕ} (h : start ≤ maxInt) :
    startOf (tokenOf start) = some start := by
  by_cases hzero : start = 0
  · subst hzero
    rfl
  · rw [tokenOf, if_neg hzero, startOf, if_neg (trimSpace_itoa_ne_empty start), atoi_itoa h]
    simp

/-- The tokens of `pageOf` are positions; a Go slice has at most `maxInt` elements. -/
theorem pageOf_pagesAt {snapshots : List VolumeSnapshot} (h : snapshots.length ≤ maxInt) :
    PagesAt (fun size token => pageOf snapshots size token) tokenOf snapshots := by
  constructor
  · intro start size hsize hmore
    have hstart : startOf (tokenOf start) = some start := startOf_tokenOf (by omega)
    have hin : ¬ snapshots.length < start := by omega
    have hnext : (0 : Int) < size ∧ (start : Int) + size < snapshots.length := by omega
    have htoken : itoa ((start : Int) + size) = tokenOf (start + size) := by
      rw [tokenOf, if_neg (by omega), Int.natCast_add]
    refine ⟨?_, tokenOf_ne_empty (by omega)⟩
    simp only [pageOf, hstart, if_neg hin, if_pos hnext, htoken, Int.toNat_natCast]
  · intro start size _ hstart hlast
    have hposition : startOf (tokenOf start) = some start := startOf_tokenOf (by omega)
    have hin : ¬ snapshots.length < start := by omega
    have hnext : ¬ ((0 : Int) < size ∧ (start : Int) + size < snapshots.length) := by omega
    simp only [pageOf, hposition, if_neg hin, if_neg hnext]

/-- Following the tokens gives the whole list of snapshots, of images as well as of CephFS volumes,
for every sequence of page sizes. -/
theorem snapshot_pages_complete {sizes : ℕ → ℕ} (hsizes : ∀ i, 0 < sizes i)
    {snapshots : List VolumeSnapshot} (hlength : snapshots.length ≤ maxInt) :
    (∀ (queries : ImageQueries) (snapshotID sourceVolumeID : String),
      collectSnapshots queries snapshotID sourceVolumeID = .ok snapshots →
        ImageSnapshots queries snapshotID sourceVolumeID snapshots ∧
        ∃ pages,
          Chain (fun size token => listSnapshots queries snapshotID sourceVolumeID size token)
            sizes 0 "" pages ∧ pages.flatten = snapshots ∧
          ∀ (i : ℕ) page, pages[i]? = some page → page.length ≤ sizes i) ∧
    (∀ (tables : LetterTables) (codec : SharedIDCodec) (ctx : CallContext) (cluster : Cluster)
      (snapshotID sourceVolumeID : String),
      collectSharedSnapshots tables codec ctx cluster snapshotID sourceVolumeID = .ok snapshots →
        SharedSnapshots tables codec ctx cluster snapshotID sourceVolumeID snapshots ∧
        ∃ pages, Chain (fun size token =>
            listSharedSnapshots tables codec ctx cluster snapshotID sourceVolumeID size token)
            sizes 0 "" pages ∧ pages.flatten = snapshots ∧
          ∀ (i : ℕ) page, pages[i]? = some page → page.length ≤ sizes i) := by
  have hpages := (pageOf_pagesAt hlength).exists_chain hsizes 0 (Nat.zero_le _)
  simp only [drop_zero, Nat.zero_add] at hpages
  constructor
  · intro queries snapshotID sourceVolumeID hcollect
    refine ⟨imageSnapshots_of_collect hcollect, ?_⟩
    simp only [listSnapshots, hcollect]
    exact hpages
  · intro tables codec ctx cluster snapshotID sourceVolumeID hcollect
    refine ⟨sharedSnapshots_of_collect hcollect, ?_⟩
    simp only [listSharedSnapshots, hcollect]
    exact hpages

/-- An image with two snapshots. -/
def snapshotImage : Image :=
  { driverImage 4 "pvc-a" with snapshots := [⟨0, 10⟩, ⟨1, 20⟩] }

/-- The pages have one snapshot each. -/
theorem snapshot_pages_two :
    ∃ pages, Chain (fun size token =>
        listSnapshots ⟨fun _ => .ok 4, fun _ => .ok snapshotImage, .ok [snapshotImage]⟩ "" "pvc-a"
          size token) (fun _ => 1) 0 "" pages ∧
      pages.flatten = [⟨"image-snapshot:4:0", "pvc-a", 10000000000, 1073741824, true⟩,
        ⟨"image-snapshot:4:1", "pvc-a", 20000000000, 1073741824, true⟩] ∧
      ∀ (i : ℕ) page, pages[i]? = some page → page.length ≤ 1 :=
  ((snapshot_pages_complete (fun _ => Nat.one_pos) (by decide +kernel)).1 _ _ _
    (by decide +kernel)).2

end OpenNebulaCSI.Provider
