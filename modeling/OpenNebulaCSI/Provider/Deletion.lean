import OpenNebulaCSI.Provider.Images

/-!
# Deleting volumes

`DeleteVolume` looks the image up, deletes it and polls until it is gone. Errors stand for two
opposite things on the way. To `VolumeExists` and to the polls any error means that there is no
image, also an error of the query. And a poll that finds the image returns an error, with which the
loop ends, so that the image has to be gone at the first poll.
-/

namespace OpenNebulaCSI.Provider

open Go Controller

/-- What the select statement of a polling loop chooses: the deadline, or a tick with its answer. -/
inductive ResourcePoll (α : Type) where
  | expired
  | tick (answer : α)

/-- `waitForResourceStatus`. There is no result if the answers do not suffice. -/
def waitForResourceStatus {α : Type} (volumeID : Int) (check : α → Except GoError Bool) :
    List (ResourcePoll α) → Option (Except GoError Unit)
  | [] => none
  | .expired :: _ =>
    some (.error (.plain ("timeout waiting for volume " ++ itoa volumeID ++ " to be ready")))
  | .tick answer :: rest =>
    match check answer with
    | .error err => some (.error (err.wrap "error checking volume readiness: "))
    | .ok true => some (.ok ())
    | .ok false => waitForResourceStatus volumeID check rest

/-- The answers of the ticks that the loop has waited for. -/
def pollsMade {α : Type} (check : α → Except GoError Bool) : List (ResourcePoll α) → List α
  | [] => []
  | .expired :: _ => []
  | .tick answer :: rest =>
    match check answer with
    | .ok false => answer :: pollsMade check rest
    | _ => [answer]

def volumeDeleted (volumeID : Int) (info : Except LookupError Image) : Except GoError Bool :=
  match info with
  | .error _ => .ok true
  | .ok _ => .error (.plain ("volume " ++ itoa volumeID ++ " still exists: %!w(<nil>)"))

/-- What `DeleteVolume` is answered: the lookup of the name and of the image by `VolumeExists`, then
whether the image is in use, and the polls. -/
structure DeleteAnswers where
  byName : Except LookupError Int
  info : Except LookupError Image
  inUse : Except LookupError (Except GoError Bool)
  polls : List (ResourcePoll (Except LookupError Image))

/-- `VolumeExists`. -/
def DeleteAnswers.volumeExists (ans : DeleteAnswers) (volume : String) :
    Except GoError (Int × Int) :=
  Provider.volumeExists
    { byName _ := ans.byName.mapError LookupError.err
      info _ := ans.info.mapError LookupError.err
      pool := .ok [] } volume

def deleteVolume (ans : DeleteAnswers) (volume : String) : Option (Except GoError Unit) :=
  match ans.volumeExists volume with
  | .error _ => some (.ok ())
  | .ok (volumeID, _) =>
    if volumeID = -1 then some (.ok ())
    else
      match ans.inUse with
      | .ok (.ok true) =>
        some (.error (.plain ("cannot delete volume " ++ volume ++
          ", it is currently in use")))
      | _ =>
        (waitForResourceStatus volumeID (volumeDeleted volumeID) ans.polls).map fun result =>
          result.mapError fun err => err.wrap "failed to wait for volume deletion: "

/-! ## What the answers show -/

/-- The answer says that there is no such object. -/
def Absent {α : Type} (answer : Except LookupError α) : Prop :=
  ∃ err, answer = .error (.notFound err)

/-- The image disappears at a tick before the deadline. -/
def Disappears (polls : List (ResourcePoll (Except LookupError Image))) : Prop :=
  ∃ (ticks : List (Except LookupError Image)) (answer : Except LookupError Image)
    (rest : List (ResourcePoll (Except LookupError Image))),
    polls = ticks.map .tick ++ .tick answer :: rest ∧ Absent answer

theorem Disappears.first {polls : List (ResourcePoll (Except LookupError Image))}
    (h : Disappears polls) :
    ∃ (ticks : List (Except LookupError Image)) (answer : Except LookupError Image)
      (rest : List (ResourcePoll (Except LookupError Image))),
      polls = ticks.map .tick ++ .tick answer :: rest ∧ Absent answer ∧
        ∀ tick ∈ ticks, ¬ Absent tick := by
  obtain ⟨ticks, answer, rest, rfl, habsent⟩ := h
  induction ticks with
  | nil => exact ⟨[], answer, rest, rfl, habsent, by simp⟩
  | cons tick ticks ih =>
    by_cases htick : Absent tick
    · exact ⟨[], tick, ticks.map .tick ++ .tick answer :: rest, rfl, htick, by simp⟩
    obtain ⟨before, first, after, hsplit, hfirst, hbefore⟩ := ih
    refine ⟨tick :: before, first, after, ?_, hfirst, ?_⟩
    · rw [List.map_cons, List.cons_append, hsplit]
      rfl
    · intro other hother
      rcases List.mem_cons.1 hother with rfl | hother
      · exact htick
      · exact hbefore other hother

namespace DeleteAnswers

variable (ans : DeleteAnswers) (volume : String)

/-- The id of the image, if `VolumeExists` finds one that is not in use. -/
def deletes : Option Int :=
  match ans.volumeExists volume with
  | .error _ => none
  | .ok (volumeID, _) =>
    if volumeID = -1 then none
    else
      match ans.inUse with
      | .ok (.ok true) => none
      | _ => some volumeID

/-- `VolumeExists` was answered that there is no image. -/
def LookupAbsent : Prop :=
  Absent ans.byName ∨ ans.byName = .ok (-1) ∨ Absent ans.info ∧ ∃ id, ans.byName = .ok id

/-- Some answer of the call has said that there is no image. -/
def ObservedAbsent : Prop :=
  ans.LookupAbsent ∨
    ∃ volumeID, ans.deletes volume = some volumeID ∧
      (Absent ans.inUse ∨ ∃ answer ∈ pollsMade (volumeDeleted volumeID) ans.polls, Absent answer)

/-- The call returns nil only if the image was seen to be absent, and an image that disappears
before the deadline is waited for. -/
structure Faithful : Prop where
  absent : deleteVolume ans volume = some (.ok ()) → ans.ObservedAbsent volume
  waits : ∀ volumeID, ans.deletes volume = some volumeID →
    ∀ (ticks : List (Except LookupError Image)) (answer : Except LookupError Image)
      (rest : List (ResourcePoll (Except LookupError Image))),
      ans.polls = ticks.map .tick ++ .tick answer :: rest →
      (∀ tick ∈ ticks, ¬ Absent tick) → Absent answer →
      deleteVolume ans volume = some (.ok ()) ∧
        pollsMade (volumeDeleted volumeID) ans.polls = ticks ++ [answer]

/-- A failed lookup says that there is no image. If the image is deleted and the first tick does not
find it absent, then no later tick does before the deadline, and an error of that tick comes after
an answer that the image is absent. -/
structure Unambiguous : Prop where
  lookup : (∀ found, ans.volumeExists volume ≠ .ok found) → ans.LookupAbsent
  firstTick : ∀ volumeID answer rest, ans.deletes volume = some volumeID →
    ans.polls = .tick answer :: rest → ¬ Absent answer →
    ¬ Disappears rest ∧ ((∀ image, answer ≠ .ok image) → Absent ans.inUse)

end DeleteAnswers

/-! ## Polls -/

section Polls

variable {volumeID : Int} {rest : List (ResourcePoll (Except LookupError Image))}

theorem waitForResourceStatus_deleted_error (err : LookupError) :
    waitForResourceStatus volumeID (volumeDeleted volumeID) (.tick (.error err) :: rest) =
      some (.ok ()) :=
  rfl

theorem pollsMade_deleted (answer : Except LookupError Image) :
    pollsMade (volumeDeleted volumeID) (.tick answer :: rest) = [answer] := by
  cases answer <;> rfl

theorem waitForResourceStatus_deleted_iff
    {polls : List (ResourcePoll (Except LookupError Image))} :
    waitForResourceStatus volumeID (volumeDeleted volumeID) polls = some (.ok ()) ↔
      ∃ err rest, polls = .tick (.error err) :: rest := by
  cases polls with
  | nil => simp [waitForResourceStatus]
  | cons poll rest => ?_
  cases poll with
  | expired => simp [waitForResourceStatus]
  | tick answer => ?_
  cases answer with
  | error err => simp [waitForResourceStatus_deleted_error]
  | ok image => simp [waitForResourceStatus, volumeDeleted]

end Polls

namespace DeleteAnswers

variable {ans : DeleteAnswers} {volume : String} {volumeID : Int}

theorem deleteVolume_of_deletes (h : ans.deletes volume = some volumeID) :
    deleteVolume ans volume = some (.ok ()) ↔
      ∃ err rest, ans.polls = .tick (.error err) :: rest := by
  rw [← @waitForResourceStatus_deleted_iff volumeID]
  unfold deletes at h
  unfold deleteVolume
  cases hexists : ans.volumeExists volume with
  | error err =>
    simp only [hexists] at h
    cases h
  | ok found => ?_
  obtain ⟨id, size⟩ := found
  simp only [hexists] at h ⊢
  split at h
  · cases h
  rename_i hid
  rw [if_neg hid]
  split at h
  · cases h
  rename_i hinUse
  obtain rfl := Option.some.inj h
  rw [Option.map_eq_some_iff]
  constructor
  · rintro ⟨result, hresult, hok⟩
    cases result with
    | error err => cases hok
    | ok value => exact hresult
  · intro hresult
    exact ⟨_, hresult, rfl⟩

theorem volumeExists_of_deleteVolume (hnone : ans.deletes volume = none)
    (h : deleteVolume ans volume = some (.ok ())) :
    (∀ found, ans.volumeExists volume ≠ .ok found) ∨ ans.byName = .ok (-1) := by
  unfold deletes at hnone
  unfold deleteVolume at h
  cases hexists : ans.volumeExists volume with
  | error err =>
    left
    intro found hfound
    cases hfound
  | ok found =>
    obtain ⟨id, size⟩ := found
    right
    simp only [hexists] at hnone h
    split at hnone
    · rename_i hid
      subst hid
      -- The id is that of the lookup by name.
      unfold DeleteAnswers.volumeExists Provider.volumeExists at hexists
      cases hbyName : ans.byName with
      | error err =>
        simp only [hbyName] at hexists
        cases hexists
      | ok imgID => ?_
      simp only [hbyName] at hexists
      split at hexists
      · cases hexists
      rename_i imgID' hid'
      split at hexists
      · cases hexists
      split at hexists
      · cases hexists
      · obtain ⟨rfl, -⟩ := Prod.mk.inj (Except.ok.inj hexists)
        exact congrArg Except.ok (Except.ok.inj hid')
    · rename_i hid
      rw [if_neg hid] at h
      split at hnone
      · rename_i hused
        simp only [hused] at h
        cases h
      · cases hnone

/-- A call that deletes an image was not answered by `VolumeExists` that there is none. -/
theorem not_lookupAbsent (h : ans.deletes volume = some volumeID) : ¬ ans.LookupAbsent := by
  unfold deletes DeleteAnswers.volumeExists Provider.volumeExists at h
  rintro (⟨err, hbyName⟩ | hbyName | ⟨⟨err, hinfo⟩, id, hbyName⟩)
  · simp [hbyName, Except.mapError] at h
  · simp only [hbyName, Except.mapError] at h
    split at h
    · cases h
    rename_i hexists
    split at hexists
    · cases hexists
    split at hexists
    · cases hexists
    obtain ⟨rfl, -⟩ := Prod.mk.inj (Except.ok.inj hexists)
    rw [if_pos rfl] at h
    cases h
  · simp [hbyName, hinfo, Except.mapError] at h

/-- The call returns nil only for an image that was seen to be absent, and waits for an image that
disappears before the deadline, if and only if its answers are unambiguous. -/
theorem deleteVolume_faithful_iff (ans : DeleteAnswers) (volume : String) :
    ans.Faithful volume ↔ ans.Unambiguous volume := by
  constructor
  · intro h
    constructor
    · intro hfailed
      have hnone : ans.deletes volume = none := by
        unfold deletes
        cases hexists : ans.volumeExists volume with
        | error err => rfl
        | ok found => exact absurd hexists (hfailed found)
      have hok : deleteVolume ans volume = some (.ok ()) := by
        unfold deleteVolume
        cases hexists : ans.volumeExists volume with
        | error err => rfl
        | ok found => exact absurd hexists (hfailed found)
      rcases h.absent hok with hlookup | ⟨volumeID, hdeletes, -⟩
      · exact hlookup
      · rw [hnone] at hdeletes
        cases hdeletes
    · intro volumeID answer rest hdeletes hpolls hfound
      constructor
      · intro hdisappears
        -- The loop ends with its first tick, too early for an image that disappears later.
        obtain ⟨ticks, last, after, hrest, hlast, hticks⟩ := hdisappears.first
        have hwaits := h.waits volumeID hdeletes (answer :: ticks) last after
          (by rw [hpolls, hrest]; rfl)
          (fun tick htick => (List.mem_cons.1 htick).elim (fun h => h ▸ hfound) (hticks tick)) hlast
        have hlength := congrArg List.length hwaits.2
        rw [hpolls, pollsMade_deleted] at hlength
        simp at hlength
      · intro herror
        cases answer with
        | ok image => exact absurd rfl (herror image)
        | error err => ?_
        have hok := (deleteVolume_of_deletes hdeletes).2 ⟨err, rest, hpolls⟩
        rcases h.absent hok with hlookup | ⟨id, hid, hinUse | ⟨tick, hmade, htick⟩⟩
        · exact absurd hlookup (not_lookupAbsent hdeletes)
        · exact hinUse
        rw [hpolls, pollsMade_deleted] at hmade
        rw [List.mem_singleton.1 hmade] at htick
        exact absurd htick hfound
  · intro h
    constructor
    · intro hok
      cases hdeletes : ans.deletes volume with
      | none =>
        rcases volumeExists_of_deleteVolume hdeletes hok with hfailed | hbyName
        · exact .inl (h.lookup hfailed)
        · exact .inl (.inr (.inl hbyName))
      | some volumeID =>
        obtain ⟨err, rest, hpolls⟩ := (deleteVolume_of_deletes hdeletes).1 hok
        refine .inr ⟨volumeID, hdeletes, ?_⟩
        by_cases habsent : Absent (Except.error err : Except LookupError Image)
        · right
          refine ⟨.error err, ?_, habsent⟩
          rw [hpolls, pollsMade_deleted]
          exact List.mem_singleton_self _
        · exact .inl ((h.firstTick volumeID _ rest hdeletes hpolls habsent).2 (by simp))
    · intro volumeID hdeletes ticks answer rest hpolls hticks habsent
      cases ticks with
      | nil =>
        obtain ⟨err, rfl⟩ := habsent
        refine ⟨(deleteVolume_of_deletes hdeletes).2 ⟨_, rest, hpolls⟩, ?_⟩
        rw [hpolls]
        exact pollsMade_deleted _
      | cons tick ticks =>
        have hlater := h.firstTick volumeID tick _ hdeletes hpolls (hticks tick List.mem_cons_self)
        exact absurd ⟨ticks, answer, rest, rfl, habsent⟩ hlater.1

end DeleteAnswers

/-- The lookup of the name fails, although the image exists. -/
def lookupFailure : DeleteAnswers where
  byName := .error (.queryFailed (.plain "connection refused"))
  info := .ok ⟨4, "pvc-a", 1024, [], []⟩
  inUse := .ok (.ok false)
  polls := []

/-- The image is still there at the first poll and gone at the second one. -/
def slowDeletion : DeleteAnswers where
  byName := .ok 4
  info := .ok ⟨4, "pvc-a", 1024, [], []⟩
  inUse := .ok (.ok false)
  polls := [.tick (.ok ⟨4, "pvc-a", 1024, [], []⟩), .tick (.error (.notFound (.plain "not found")))]

/-- A failed query counts as the absence of the image, and an image that takes longer than one poll
to delete as a failure. -/
theorem deleteVolume_unfaithful :
    deleteVolume lookupFailure "pvc-a" = some (.ok ()) ∧ ¬ lookupFailure.ObservedAbsent "pvc-a" ∧
      deleteVolume slowDeletion "pvc-a" ≠ some (.ok ()) := by
  refine ⟨rfl, ?_, fun hok => ?_⟩
  · rintro ((⟨err, herr⟩ | hid | ⟨-, id, hid⟩) | ⟨volumeID, hdeletes, -⟩)
    · cases herr
    · cases hid
    · cases hid
    · cases hdeletes
  · have hdeletes : slowDeletion.deletes "pvc-a" = some 4 := by decide +kernel
    obtain ⟨err, rest, hpolls⟩ := (DeleteAnswers.deleteVolume_of_deletes hdeletes).1 hok
    cases hpolls

end OpenNebulaCSI.Provider
