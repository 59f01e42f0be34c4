import OpenNebulaCSI.Concurrency.Program
import OpenNebulaCSI.Controller.Types

/-!
# Whether the device that is found has the serial

`Resolve` is given the serial of the disk, but only some of its sources look at it, and the names of
links are searched for the serial as a part: a link named after `onecsi-12` passes for `onecsi-1`
(`resolve_finds_other_disk`).

A `Host` is what does not change while the call waits: the devices that may appear, with their true
serials, and the links to them. Which of them have appeared when, and which commands work, is left
open.
-/

namespace OpenNebulaCSI.Node.DeviceResolver

open Go Concurrency Controller

/-! ## Finding the device of a volume

`NodeDeviceResolver.Resolve` as a program. It looks for the device of an attached disk in its cache,
among the links of `/dev/disk/by-id`, and under the names the disk may have, and repeats the last
two after a rescan until the time is over. Log lines and the context of the rescan are left out; the
resolver always has a way to run commands.
-/

/-- `nodeDeviceCacheEntry`. -/
structure CacheEntry where
  volumeID : String
  imageID : String
  serial : String
  devicePath : String
  byIDPath : String
  lastConfirmedAt : Int
  deriving DecidableEq

/-- The settings of the resolver. -/
structure Settings where
  cacheEnabled : Bool
  cacheTTL : Int
  deriving DecidableEq

inductive StatError where
  | notExist
  | other (err : GoError)

inductive ResolvedBy where
  | cache | byID | byIDRecovery | exact | exactRecovery | alias | aliasRecovery
  deriving DecidableEq

/-- `deviceResolutionResult`. -/
structure Resolution where
  resolvedBy : ResolvedBy
  latency : Int
  deriving DecidableEq

/-- `resolvedDevicePath`. -/
structure ResolvedDevicePath where
  devicePath : String
  byIDPath : String

inductive Op where
  | now
  | cacheGet (volumeID : String)
  | cachePut (volumeID : String) (entry : CacheEntry)
  | cacheDelete (volumeID : String)
  | stat (path : String)
  /-- The paths that match `/dev/disk/by-id/*`. -/
  | globByID
  | evalSymlinks (path : String)
  | readlink (path : String)
  /-- The lines of `udevadm info --query=property`. -/
  | udevInfo (path : String)
  /-- The output of `lsblk -ndo SERIAL`. -/
  | lsblk (path : String)
  /-- Wait for udev and rescan the SCSI hosts. -/
  | recover
  | sleep

@[reducible]
def Op.Answer : Op → Type
  | .now => Int
  | .cacheGet _ => Option CacheEntry
  | .stat _ => Option StatError
  | .globByID => Option (List String)
  | .evalSymlinks _ | .readlink _ | .lsblk _ => Option String
  | .udevInfo _ => Option (List String)
  | .cachePut _ _ | .cacheDelete _ | .recover | .sleep => Unit

abbrev Prog :=
  Program Op Op.Answer

abbrev History :=
  List (Event Op Op.Answer)

abbrev perform (op : Op) : Prog op.Answer :=
  Program.perform op

/-! ## Names of devices -/

/-- `getDeviceName`. -/
def getDeviceName (volumeName : String) : String :=
  Path.join "/dev/" volumeName

/-- The rest of a name after its first letters. -/
def suffixAfter (start name : String) : String :=
  String.ofList (name.toList.drop start.length)

/-- The names a disk may have: its own, and those of the other disk drivers. -/
def deviceCandidates (volumeName : String) : List String :=
  let baseName := Path.base volumeName
  let others :=
    if hasPrefix baseName "sd" then
      ["vd" ++ suffixAfter "sd" baseName, "xvd" ++ suffixAfter "sd" baseName]
    else if hasPrefix baseName "vd" then
      ["sd" ++ suffixAfter "vd" baseName, "xvd" ++ suffixAfter "vd" baseName]
    else if hasPrefix baseName "xvd" then
      ["vd" ++ suffixAfter "xvd" baseName, "sd" ++ suffixAfter "xvd" baseName]
    else []
  ((baseName :: others).map getDeviceName).eraseDups

/-! ## Checking a serial -/

section Serials

variable (tables : CaseTables)

/-- The serials that the properties of a device name. -/
def udevSerials (lines : List String) : List String :=
  (lines.filter fun line => hasPrefix line "ID_SERIAL=" || hasPrefix line "ID_SERIAL_SHORT=").map
    fun line => trimSpace (String.ofList ((line.toList.dropWhile fun c => c ≠ '=').drop 1))

/-- The last resort of `deviceMatchesSerial`: the name of the link, or where the path points to. -/
def nameMatchesSerial (devicePath serial byIDPath : String) : Prog Bool := do
  if trimSpace byIDPath ≠ "" ∧ tables.containsLower (Path.base byIDPath) serial then return true
  else
    match ← perform (.readlink devicePath) with
    | some linkTarget => return tables.containsLower linkTarget serial
    | none => return false

def lsblkMatchesSerial (devicePath serial byIDPath : String) : Prog Bool := do
  match ← perform (.lsblk devicePath) with
  | some output =>
    if tables.equalFold (trimSpace output) serial then return true
    else nameMatchesSerial tables devicePath serial byIDPath
  | none => nameMatchesSerial tables devicePath serial byIDPath

def deviceMatchesSerial (devicePath serial byIDPath : String) : Prog Bool := do
  if trimSpace serial = "" then return true
  else
    match ← perform (.udevInfo devicePath) with
    | some lines =>
      if (udevSerials lines).any fun value => tables.equalFold value (trimSpace serial) then
        return true
      else lsblkMatchesSerial tables devicePath (trimSpace serial) byIDPath
    | none => lsblkMatchesSerial tables devicePath (trimSpace serial) byIDPath

/-! ## The sources -/

def invalidate (volumeID : String) : Prog Unit := do
  if trimSpace volumeID = "" then return ()
  else perform (.cacheDelete volumeID)

/-- Drop the entry of a volume that is of no use. -/
def discard (volumeID : String) : Prog (Option ResolvedDevicePath) := do
  invalidate volumeID
  return none

def cacheExpired (settings : Settings) (entry : CacheEntry) : Prog Bool := do
  if 0 < settings.cacheTTL then do
    let now ← perform .now
    return settings.cacheTTL < now - entry.lastConfirmedAt
  else return false

/-- The part of `resolveFromCache` with an entry that has not expired. -/
def resolveFromEntry (volumeID serial : String) (entry : CacheEntry) :
    Prog (Option ResolvedDevicePath) := do
  if serial ≠ "" ∧ entry.serial ≠ "" ∧
      !tables.equalFold (trimSpace serial) (trimSpace entry.serial) then discard volumeID
  else if entry.devicePath = "" then discard volumeID
  else
    match ← perform (.stat entry.devicePath) with
    | some _ => discard volumeID
    | none => do
        if serial = "" then return some ⟨entry.devicePath, entry.byIDPath⟩
        else if ← deviceMatchesSerial tables entry.devicePath serial entry.byIDPath then
          return some ⟨entry.devicePath, entry.byIDPath⟩
        else discard volumeID

def resolveFromCache (settings : Settings) (volumeID serial : String) :
    Prog (Option ResolvedDevicePath) := do
  if !settings.cacheEnabled ∨ trimSpace volumeID = "" then return none
  else
    match ← perform (.cacheGet volumeID) with
    | none => return none
    | some entry => do
        if ← cacheExpired settings entry then discard volumeID
        else resolveFromEntry tables volumeID serial entry

/-- The loop of `resolveByID` over the links. -/
def resolveLinks (serial : String) : List String → Prog (Option ResolvedDevicePath)
  | [] => return none
  | candidate :: rest => do
      if !tables.containsLower (Path.base candidate) serial then resolveLinks serial rest
      else
        match ← perform (.evalSymlinks candidate) with
        | none => resolveLinks serial rest
        | some resolved => do
            match ← perform (.stat resolved) with
            | some _ => resolveLinks serial rest
            | none => do
                if ← deviceMatchesSerial tables resolved serial candidate then
                  return some ⟨resolved, candidate⟩
                else resolveLinks serial rest

def resolveByID (serial : String) : Prog (Option ResolvedDevicePath) := do
  if trimSpace serial = "" then return none
  else
    match ← perform .globByID with
    | none => return none
    | some candidates => resolveLinks tables serial candidates

end Serials

/-- The loop of `resolveAlias` over the names; the serial of the device is not looked at. -/
def resolveNames (expected : String) (started : Int) :
    List String → Option GoError → Prog (Except GoError (String × Resolution))
  | [], lastErr => return .error (lastErr.getD (.plain "device not found"))
  | candidate :: rest, lastErr => do
      match ← perform (.stat candidate) with
      | none => do
          let now ← perform .now
          let resolvedBy : ResolvedBy := if candidate = expected then .exact else .alias
          return .ok (candidate, { resolvedBy, latency := now - started })
      | some .notExist => resolveNames expected started rest lastErr
      | some (.other err) => resolveNames expected started rest (some err)

def resolveAlias (volumeName : String) (started : Int) :
    Prog (Except GoError (String × Resolution)) :=
  resolveNames (getDeviceName (Path.base volumeName)) started (deviceCandidates volumeName) none

def remember (settings : Settings) (volumeID imageID serial devicePath byIDPath : String) :
    Prog Unit := do
  if !settings.cacheEnabled ∨ trimSpace volumeID = "" ∨ trimSpace devicePath = "" then return ()
  else do
    let now ← perform .now
    perform (.cachePut volumeID
      { volumeID, imageID, serial, devicePath, byIDPath, lastConfirmedAt := now })

/-! ## Resolving -/

/-- How a device was found after a rescan. -/
def ResolvedBy.afterRecovery : ResolvedBy → ResolvedBy
  | .exact => .exactRecovery
  | _ => .aliasRecovery

/-- What a call of `Resolve` looks for, and when it was started. -/
structure Search where
  volumeID : String
  volumeName : String
  serial : String
  imageID : String
  started : Int

/-- One attempt with the links and the names, before or after a rescan. -/
def attempt (tables : CaseTables) (settings : Settings) (recovery : Bool) (search : Search) :
    Prog (Option (String × Resolution)) := do
  match ← resolveByID tables search.serial with
  | some path => do
      remember settings search.volumeID search.imageID search.serial path.devicePath path.byIDPath
      let now ← perform .now
      let resolvedBy : ResolvedBy := if recovery then .byIDRecovery else .byID
      return some (path.devicePath, { resolvedBy, latency := now - search.started })
  | none => do
      match ← resolveAlias search.volumeName search.started with
      | .error _ => return none
      | .ok (devicePath, result) => do
          remember settings search.volumeID search.imageID search.serial devicePath ""
          let resolvedBy := if recovery then result.resolvedBy.afterRecovery else result.resolvedBy
          return some (devicePath, { result with resolvedBy })

/-- The error at the end of the time. -/
def timedOut (search : Search) (timeout : Int) : GoError :=
  let serial := if search.serial ≠ "" then "serial " ++ search.serial ++ ", " else ""
  .plain ("timed out after " ++ toString timeout ++ " waiting for device path for volume \"" ++
    search.volumeName ++ "\" (" ++ serial ++ "checked " ++
    joinWith ", " (deviceCandidates search.volumeName) ++ ")")

/-- Whether the deadline of a wait with a timeout has passed. -/
def timeOver (timeout deadline : Int) : Prog Bool := do
  if 0 < timeout then do
    let now ← perform .now
    return deadline < now
  else return false

/-- The wait loop, for at most `fuel` rounds; the result is absent while it goes on. -/
def waitLoop (tables : CaseTables) (settings : Settings) (search : Search)
    (timeout deadline : Int) :
    ℕ → Prog (Option (Except GoError (String × Resolution)))
  | 0 => return none
  | fuel + 1 => do
      if ← timeOver timeout deadline then return some (.error (timedOut search timeout))
      else do
        perform .recover
        match ← attempt tables settings true search with
        | some found => return some (.ok found)
        | none => do
            if timeout ≤ 0 then return some (.error (timedOut search timeout))
            else do
              perform .sleep
              waitLoop tables settings search timeout deadline fuel

/-- `Resolve`. -/
def resolve (tables : CaseTables) (settings : Settings) (volumeID volumeName : String)
    (publishContext : StringMap) (timeout : Int) (fuel : ℕ) :
    Prog (Option (Except GoError (String × Resolution))) := do
  let started ← perform .now
  let serial := trimSpace (publishContext.get "deviceSerial")
  let imageID := trimSpace (publishContext.get "opennebulaImageID")
  let search : Search := { volumeID, volumeName, serial, imageID, started }
  match ← resolveFromCache tables settings volumeID serial with
  | some path => do
      let now ← perform .now
      return some (.ok (path.devicePath, { resolvedBy := .cache, latency := now - started }))
  | none => do
      match ← attempt tables settings false search with
      | some found => return some (.ok found)
      | none => do
          let now ← perform .now
          waitLoop tables settings search timeout (now + timeout) fuel

/-! ## Serials -/

open Program List

/-- The path of a link in `/dev/disk/by-id`. -/
def byIDPath (name : String) : String :=
  "/dev/disk/by-id/" ++ name

theorem toList_byIDPath (name : String) :
    (byIDPath name).toList = "/dev/disk/by-id/".toList ++ name.toList :=
  String.toList_append

/-- The devices of a machine, each with its serial, and the links to them by their names. A link is
named after the serial of its device. -/
structure Host (tables : CaseTables) where
  serial : String → Option String
  byID : List (String × String)
  readlink : String → Option String
  consistent : ∀ link ∈ byID, ∃ actual ∈ serial link.2,
    tables.containsLower (Path.base (byIDPath link.1)) actual = true

variable {tables : CaseTables}

namespace Host

variable (host : Host tables)

def HasDevice (path : String) : Prop :=
  (host.serial path).isSome = true

/-- The path is that of a device with the serial. -/
def HasSerial (serial path : String) : Prop :=
  ∃ actual ∈ host.serial path, tables.equalFold actual serial = true

/-- The answers a call that looks for the serial may get. Any device and any link may be there or
not, and any command may fail, but what they say about serials is true. -/
def Answers (cache : Option CacheEntry) (serial : String) : (op : Op) → op.Answer → Prop
  | .cacheGet _, entry => entry = cache
  | .stat path, none => host.HasDevice path
  | .globByID, some links => links.Sublist (host.byID.map fun link => byIDPath link.1)
  | .evalSymlinks path, some device => ∃ link ∈ host.byID, byIDPath link.1 = path ∧ link.2 = device
  | .readlink path, some target => host.readlink path = some target
  | .udevInfo path, some lines => ∀ value ∈ udevSerials lines,
      tables.equalFold value serial = true → host.HasSerial serial path
  | .lsblk path, some output => tables.equalFold (trimSpace output) serial = true →
      host.HasSerial serial path
  | _, _ => True

def contract (cache : Option CacheEntry) (serial : String) : Contract Op Op.Answer where
  rely _ op ans := host.Answers cache serial op ans
  guar _ _ := True

/-- A returned device has the serial. -/
def Finds (serial : String) (result : Option (Except GoError (String × Resolution))) : Prop :=
  ∀ path resolution, result = some (.ok (path, resolution)) → host.HasSerial serial path

/-- The name of the link, or what the path points to, contains the serial. -/
def Named (serial path link : String) : Prop :=
  (trimSpace link ≠ "" ∧ tables.containsLower (Path.base link) serial = true) ∨
    ∃ target, host.readlink path = some target ∧ tables.containsLower target serial = true

/-- Whatever may be taken for the device with the serial is that device: the device of a cache entry
that fits by name, the device of every link whose name contains the serial, and every device with a
name the disk may have. -/
structure Agrees (settings : Settings) (cache : Option CacheEntry)
    (volumeID volumeName serial : String) : Prop where
  cached : ∀ entry, settings.cacheEnabled = true → trimSpace volumeID ≠ "" → cache = some entry →
    (entry.serial = "" ∨ tables.equalFold serial (trimSpace entry.serial) = true) →
    entry.devicePath ≠ "" → host.HasDevice entry.devicePath →
    host.Named serial entry.devicePath entry.byIDPath → host.HasSerial serial entry.devicePath
  links : ∀ link ∈ host.byID, tables.containsLower (Path.base (byIDPath link.1)) serial = true →
    host.HasSerial serial link.2
  names : ∀ candidate ∈ deviceCandidates volumeName, host.HasDevice candidate →
    host.HasSerial serial candidate

theorem hasDevice_of_link {link : String × String} (hlink : link ∈ host.byID) :
    host.HasDevice link.2 := by
  obtain ⟨actual, hactual, -⟩ := host.consistent link hlink
  exact Option.isSome_iff_exists.2 ⟨actual, hactual⟩

end Host

variable {host : Host tables} {cache : Option CacheEntry} {serial : String} {past : History}

/-! ## Hosts on which the right device is found -/

section Sound

theorem nameMatchesSerial_meets (devicePath link : String) :
    (nameMatchesSerial tables devicePath serial link).Meets (host.contract cache serial)
      (fun _ found => found = true → host.Named serial devicePath link) past := by
  unfold nameMatchesSerial
  split
  · rename_i hname
    exact meets_pure.2 fun _ => .inl hname
  refine .perform trivial fun target htarget => ?_
  cases target with
  | none => exact meets_pure.2 fun h => by cases h
  | some target => exact meets_pure.2 fun h => .inr ⟨target, htarget, h⟩

theorem lsblkMatchesSerial_meets (devicePath link : String) :
    (lsblkMatchesSerial tables devicePath serial link).Meets (host.contract cache serial)
      (fun _ found => found = true →
        host.HasSerial serial devicePath ∨ host.Named serial devicePath link) past := by
  have hname : ∀ past, (nameMatchesSerial tables devicePath serial link).Meets
      (host.contract cache serial) (fun _ found => found = true →
        host.HasSerial serial devicePath ∨ host.Named serial devicePath link) past :=
    fun past => (nameMatchesSerial_meets devicePath link).mono fun _ _ h hfound => .inr (h hfound)
  unfold lsblkMatchesSerial
  refine .perform trivial fun output houtput => ?_
  cases output with
  | none => exact hname _
  | some output => ?_
  dsimp only
  split
  · rename_i hequal
    exact meets_pure.2 fun _ => .inl (houtput hequal)
  · exact hname _

/-- A device passes the check only if it has the serial, or fits by name. -/
theorem deviceMatchesSerial_meets (hserial : trimSpace serial = serial) (hne : serial ≠ "")
    (devicePath link : String) :
    (deviceMatchesSerial tables devicePath serial link).Meets (host.contract cache serial)
      (fun _ found => found = true →
        host.HasSerial serial devicePath ∨ host.Named serial devicePath link) past := by
  unfold deviceMatchesSerial
  rw [hserial, if_neg hne]
  refine .perform trivial fun lines hlines => ?_
  cases lines with
  | none => exact lsblkMatchesSerial_meets devicePath link
  | some lines => ?_
  dsimp only
  split
  · rename_i hany
    obtain ⟨value, hvalue, hequal⟩ := any_eq_true.1 hany
    exact meets_pure.2 fun _ => .inl (hlines value hvalue hequal)
  · exact lsblkMatchesSerial_meets devicePath link

theorem cacheExpired_meets (settings : Settings) (entry : CacheEntry) :
    (cacheExpired settings entry).Meets (host.contract cache serial) (fun _ _ => True) past := by
  unfold cacheExpired
  split
  · exact .perform trivial fun _ _ => meets_pure.2 trivial
  · exact meets_pure.2 trivial

theorem timeOver_meets (timeout deadline : Int) :
    (timeOver timeout deadline).Meets (host.contract cache serial) (fun _ _ => True) past := by
  unfold timeOver
  split
  · exact .perform trivial fun _ _ => meets_pure.2 trivial
  · exact meets_pure.2 trivial

theorem remember_meets (settings : Settings) (volumeID imageID devicePath link : String) :
    (remember settings volumeID imageID serial devicePath link).Meets (host.contract cache serial)
      (fun _ _ => True) past := by
  unfold remember
  split
  · exact meets_pure.2 trivial
  · exact .perform trivial fun _ _ => meets_perform.2 ⟨trivial, fun _ _ => trivial⟩

/-- The device that was found, if any, has the serial. -/
def FoundDevice (host : Host tables) (serial : String) (found : Option ResolvedDevicePath) : Prop :=
  ∀ path, found = some path → host.HasSerial serial path.devicePath

theorem foundDevice_none : FoundDevice host serial none :=
  fun _ h => by cases h

theorem discard_meets (volumeID : String) :
    (discard volumeID).Meets (host.contract cache serial)
      (fun _ found => FoundDevice host serial found) past := by
  unfold discard invalidate
  refine meets_bind.2 ?_
  split
  · exact meets_pure.2 (meets_pure.2 foundDevice_none)
  · exact meets_perform.2 ⟨trivial, fun _ _ => meets_pure.2 foundDevice_none⟩

variable {settings : Settings} {volumeID volumeName : String}
  (hserial : trimSpace serial = serial) (hne : serial ≠ "")
  (hagrees : host.Agrees settings cache volumeID volumeName serial)

include hserial hne hagrees

theorem resolveFromEntry_meets {entry : CacheEntry} (henabled : settings.cacheEnabled = true)
    (hvolume : trimSpace volumeID ≠ "") (hentry : cache = some entry) :
    (resolveFromEntry tables volumeID serial entry).Meets (host.contract cache serial)
      (fun _ found => FoundDevice host serial found) past := by
  unfold resolveFromEntry
  split
  · exact discard_meets volumeID
  rename_i hmatch
  split
  · exact discard_meets volumeID
  rename_i hpath
  refine .perform trivial fun err hdevice => ?_
  cases err with
  | some err => exact discard_meets volumeID
  | none => ?_
  refine (deviceMatchesSerial_meets hserial hne _ _).bind fun _ found hfound => ?_
  split
  · rename_i htrue
    refine meets_pure.2 fun path hpath' => ?_
    obtain rfl := Option.some.inj hpath'
    rcases hfound htrue with hhas | hnamed
    · exact hhas
    refine hagrees.cached entry henabled hvolume hentry ?_ hpath hdevice hnamed
    by_contra hother
    rw [not_or] at hother
    exact hmatch ⟨hne, hother.1, by simpa [hserial] using hother.2⟩
  · exact discard_meets volumeID

theorem resolveFromCache_meets :
    (resolveFromCache tables settings volumeID serial).Meets (host.contract cache serial)
      (fun _ found => FoundDevice host serial found) past := by
  unfold resolveFromCache
  split
  · exact meets_pure.2 foundDevice_none
  rename_i huse
  rw [not_or] at huse
  have henabled : settings.cacheEnabled = true := by simpa using huse.1
  refine .perform trivial fun answer hanswer => ?_
  cases answer with
  | none => exact meets_pure.2 foundDevice_none
  | some entry => ?_
  have hentry : cache = some entry := Eq.symm hanswer
  refine (cacheExpired_meets settings entry).bind fun _ expired _ => ?_
  split
  · exact discard_meets volumeID
  · exact resolveFromEntry_meets hserial hne hagrees henabled huse.2 hentry

theorem resolveLinks_meets {links : List String}
    (hlinks : ∀ link ∈ links, ∃ entry ∈ host.byID, byIDPath entry.1 = link) :
    (resolveLinks tables serial links).Meets (host.contract cache serial)
      (fun _ found => FoundDevice host serial found) past := by
  induction links generalizing past with
  | nil => exact meets_pure.2 foundDevice_none
  | cons candidate rest ih =>
    have hrest : ∀ past, (resolveLinks tables serial rest).Meets (host.contract cache serial)
        (fun _ found => FoundDevice host serial found) past :=
      fun past => ih fun link hlink => hlinks link (mem_cons_of_mem _ hlink)
    unfold resolveLinks
    split
    · exact hrest _
    rename_i hname
    refine .perform trivial fun resolved hresolved => ?_
    cases resolved with
    | none => exact hrest _
    | some device => ?_
    obtain ⟨link, hlink, rfl, rfl⟩ := hresolved
    have hhas : host.HasSerial serial link.2 := hagrees.links link hlink (by simpa using hname)
    refine .perform trivial fun err _ => ?_
    cases err with
    | some err => exact hrest _
    | none => ?_
    refine (deviceMatchesSerial_meets hserial hne _ _).bind fun _ found _ => ?_
    split
    · refine meets_pure.2 fun path hpath => ?_
      obtain rfl := Option.some.inj hpath
      exact hhas
    · exact hrest _

theorem resolveByID_meets :
    (resolveByID tables serial).Meets (host.contract cache serial)
      (fun _ found => FoundDevice host serial found) past := by
  unfold resolveByID
  split
  · exact meets_pure.2 foundDevice_none
  refine .perform trivial fun answer hanswer => ?_
  cases answer with
  | none => exact meets_pure.2 foundDevice_none
  | some links => ?_
  refine resolveLinks_meets hserial hne hagrees fun link hlink => ?_
  have hsub : links.Sublist (host.byID.map fun link => byIDPath link.1) := hanswer
  obtain ⟨entry, hentry, hpath⟩ := mem_map.1 (hsub.subset hlink)
  exact ⟨entry, hentry, hpath⟩

omit hserial hne in
theorem resolveAlias_meets (started : Int) :
    (resolveAlias volumeName started).Meets (host.contract cache serial)
      (fun _ result => ∀ path resolution, result = .ok (path, resolution) →
        host.HasSerial serial path) past := by
  have hnames : ∀ (names : List String) (lastErr : Option GoError) past,
      names ⊆ deviceCandidates volumeName →
      (resolveNames (getDeviceName (Path.base volumeName)) started names lastErr).Meets
        (host.contract cache serial) (fun _ result => ∀ path resolution,
          result = .ok (path, resolution) → host.HasSerial serial path) past := by
    intro names
    induction names with
    | nil =>
      intro lastErr past _
      refine meets_pure.2 ?_
      rintro path resolution ⟨⟩
    | cons candidate rest ih =>
      intro lastErr past hsub
      have hrest : rest ⊆ deviceCandidates volumeName := fun _ h => hsub (mem_cons_of_mem _ h)
      unfold resolveNames
      refine .perform trivial fun err hdevice => ?_
      rcases err with _ | _ | err
      · refine .perform trivial fun now _ => meets_pure.2 ?_
        rintro path resolution ⟨⟩
        exact hagrees.names candidate (hsub (mem_cons_self ..)) hdevice
      · exact ih _ _ hrest
      · exact ih _ _ hrest
  exact hnames _ _ _ (List.Subset.refl _)

theorem attempt_meets (recovery : Bool) (imageID : String) (started : Int) :
    (attempt tables settings recovery { volumeID, volumeName, serial, imageID, started }).Meets
      (host.contract cache serial) (fun _ found => ∀ path resolution,
        found = some (path, resolution) → host.HasSerial serial path) past := by
  refine (resolveByID_meets hserial hne hagrees).bind fun _ found hfound => ?_
  cases found with
  | some path =>
    have hhas := hfound path rfl
    refine (remember_meets _ _ _ _ _).bind fun _ _ _ => ?_
    refine .perform trivial fun now _ => meets_pure.2 ?_
    rintro path resolution ⟨⟩
    exact hhas
  | none =>
    refine (resolveAlias_meets hagrees started).bind fun _ result hresult => ?_
    rcases result with err | ⟨path, resolution⟩
    · refine meets_pure.2 ?_
      rintro path resolution ⟨⟩
    have hhas := hresult path resolution rfl
    refine (remember_meets _ _ _ _ _).bind fun _ _ _ => ?_
    refine meets_pure.2 ?_
    rintro path resolution ⟨⟩
    exact hhas

theorem waitLoop_meets (imageID : String) (started timeout deadline : Int) (fuel : ℕ) :
    (waitLoop tables settings { volumeID, volumeName, serial, imageID, started } timeout deadline
      fuel).Meets (host.contract cache serial) (fun _ result => host.Finds serial result) past := by
  induction fuel generalizing past with
  | zero =>
    refine meets_pure.2 ?_
    rintro path resolution ⟨⟩
  | succ fuel ih =>
    have herror : ∀ err, host.Finds serial (some (.error err)) := by
      rintro err path resolution ⟨⟩
    refine (timeOver_meets timeout deadline).bind fun _ late _ => ?_
    split
    · exact meets_pure.2 (herror _)
    refine .perform trivial fun _ _ => meets_bind.2
      ((attempt_meets hserial hne hagrees _ _ _).mono fun _ found hfound => ?_)
    cases found with
    | some found =>
      refine meets_pure.2 ?_
      rintro path resolution ⟨⟩
      exact hfound path resolution rfl
    | none =>
      dsimp only
      split
      · exact meets_pure.2 (herror _)
      · exact .perform trivial fun _ _ => ih

theorem resolve_meets {publishContext : StringMap}
    (hcontext : trimSpace (publishContext.get "deviceSerial") = serial) (timeout : Int) (fuel : ℕ) :
    (resolve tables settings volumeID volumeName publishContext timeout fuel).Meets
      (host.contract cache serial) (fun _ result => host.Finds serial result) past := by
  unfold resolve
  rw [hcontext]
  refine .perform trivial fun started _ => meets_bind.2
    ((resolveFromCache_meets hserial hne hagrees).mono fun _ found hfound => ?_)
  cases found with
  | some path =>
    have hhas := hfound path rfl
    refine .perform trivial fun now _ => meets_pure.2 ?_
    rintro path resolution ⟨⟩
    exact hhas
  | none =>
    refine (attempt_meets hserial hne hagrees _ _ _).bind fun _ found hfound => ?_
    cases found with
    | some found =>
      refine meets_pure.2 ?_
      rintro path resolution ⟨⟩
      exact hfound path resolution rfl
    | none =>
      exact .perform trivial fun now _ => waitLoop_meets hserial hne hagrees _ _ _ _ _

end Sound

/-! ## Courses of events that find a given device -/

/-- Only one device is there, at most one link is listed, no command works and time stands still. -/
def onlyDevice (host : Host tables) (cache : Option CacheEntry) (now : Int)
    (link : Option (String × String)) (device : String) : (op : Op) → op.Answer
  | .now => now
  | .cacheGet _ => cache
  | .stat path => if path = device then none else some .notExist
  | .globByID => some (link.toList.map fun entry => byIDPath entry.1)
  | .evalSymlinks path =>
    link.bind fun entry => if byIDPath entry.1 = path then some entry.2 else none
  | .readlink path => host.readlink path
  | .udevInfo _ | .lsblk _ => none
  | .cachePut _ _ | .cacheDelete _ | .recover | .sleep => ()

section Complete

variable {now : Int} {link : Option (String × String)} {device : String}

theorem answers_onlyDevice (hlink : ∀ entry, link = some entry → entry ∈ host.byID)
    (hdevice : host.HasDevice device) (op : Op) :
    host.Answers cache serial op (onlyDevice host cache now link device op) := by
  cases op with
  | cacheGet volumeID => rfl
  | globByID =>
    cases link with
    | none => exact nil_sublist _
    | some entry =>
      exact singleton_sublist.2 (mem_map.2 ⟨entry, hlink entry rfl, rfl⟩)
  | evalSymlinks path =>
    cases link with
    | none => trivial
    | some entry => ?_
    simp only [onlyDevice, Option.bind_some]
    split
    · rename_i hpath
      exact ⟨entry, hlink entry rfl, hpath, rfl⟩
    · trivial
  | readlink path =>
    cases htarget : host.readlink path with
    | none =>
      simp only [onlyDevice, htarget]
      trivial
    | some target =>
      simp only [onlyDevice, htarget]
      exact htarget
  | stat path =>
    simp only [onlyDevice]
    split
    · rename_i hpath
      rw [hpath]
      exact hdevice
    · trivial
  | now => trivial
  | _ => trivial

theorem eval_deviceMatchesSerial {path entry : String} (hserial : trimSpace serial = serial)
    (hnamed : host.Named serial path entry) :
    (deviceMatchesSerial tables path serial entry).eval (onlyDevice host cache now link device) =
      true := by
  have hname : (nameMatchesSerial tables path serial entry).eval
      (onlyDevice host cache now link device) = true := by
    unfold nameMatchesSerial
    split
    · rfl
    rename_i hnot
    obtain ⟨target, htarget, hcontains⟩ := hnamed.resolve_left hnot
    simp [onlyDevice, htarget, hcontains]
  unfold deviceMatchesSerial
  split
  · rfl
  · simpa [onlyDevice, lsblkMatchesSerial, hserial] using hname

theorem eval_discard (volumeID : String) :
    (discard volumeID).eval (onlyDevice host cache now link device) = none := by
  unfold discard
  simp

theorem eval_resolveFromCache {settings : Settings} {volumeID : String} {path : ResolvedDevicePath}
    (h : (resolveFromCache tables settings volumeID serial).eval
      (onlyDevice host cache now link device) = some path) : path.devicePath = device := by
  unfold resolveFromCache at h
  split at h
  · cases h
  simp only [eval_bind, eval_perform, onlyDevice] at h
  cases cache with
  | none => cases h
  | some entry => ?_
  simp only [eval_bind] at h
  split at h
  · rw [eval_discard] at h
    cases h
  unfold resolveFromEntry at h
  split at h
  · rw [eval_discard] at h
    cases h
  split at h
  · rw [eval_discard] at h
    cases h
  simp only [eval_bind, eval_perform, onlyDevice] at h
  by_cases hdevice : entry.devicePath = device
  · rw [if_pos hdevice] at h
    dsimp only at h
    split at h
    · cases h
      exact hdevice
    simp only [eval_bind] at h
    split at h
    · cases h
      exact hdevice
    · rw [eval_discard] at h
      cases h
  · rw [if_neg hdevice] at h
    dsimp only at h
    rw [eval_discard] at h
    cases h

variable {settings : Settings} {volumeID volumeName : String} {publishContext : StringMap}
  {timeout : Int} (hserial : trimSpace serial = serial) (hne : serial ≠ "")
  (hcontext : trimSpace (publishContext.get "deviceSerial") = serial)

/-- The call returns the device. -/
def Returns (device : String) (result : Option (Except GoError (String × Resolution))) : Prop :=
  ∃ resolution, result = some (.ok (device, resolution))

include hcontext in
theorem returns_of_attempt
    (h : ∀ imageID started, ∃ resolution, (attempt tables settings false
      { volumeID, volumeName, serial, imageID, started }).eval
        (onlyDevice host cache now link device) = some (device, resolution)) :
    Returns device ((resolve tables settings volumeID volumeName publishContext timeout 0).eval
      (onlyDevice host cache now link device)) := by
  unfold resolve
  rw [hcontext]
  simp only [eval_bind, eval_perform]
  cases hcache : (resolveFromCache tables settings volumeID serial).eval
      (onlyDevice host cache now link device) with
  | some path =>
    simp only [eval_bind, eval_perform, eval_pure]
    rw [eval_resolveFromCache hcache]
    exact ⟨_, rfl⟩
  | none =>
    obtain ⟨resolution, hattempt⟩ := h (trimSpace (publishContext.get "opennebulaImageID"))
      (onlyDevice host cache now link device .now)
    simp only [eval_bind, hattempt]
    exact ⟨resolution, rfl⟩

include hserial hne hcontext

theorem returns_link {entry : String × String}
    (hname : tables.containsLower (Path.base (byIDPath entry.1)) serial = true) :
    Returns entry.2 ((resolve tables settings volumeID volumeName publishContext timeout 0).eval
      (onlyDevice host cache now (some entry) entry.2)) := by
  refine returns_of_attempt hcontext fun imageID started => ?_
  have hnamed : host.Named serial entry.2 (byIDPath entry.1) := by
    refine .inl ⟨trimSpace_ne_empty (c := '/') ?_ (by decide), hname⟩
    rw [toList_byIDPath]
    exact mem_append_left _ (by decide)
  have hfound : (resolveByID tables serial).eval (onlyDevice host cache now (some entry) entry.2) =
      some ⟨entry.2, byIDPath entry.1⟩ := by
    unfold resolveByID
    rw [hserial, if_neg hne]
    simp [onlyDevice, resolveLinks, hname, eval_deviceMatchesSerial hserial hnamed]
  simp only [attempt, eval_bind, hfound, eval_perform, eval_pure]
  exact ⟨_, rfl⟩

omit hserial hne in
theorem returns_name {candidate : String} (hcandidate : candidate ∈ deviceCandidates volumeName) :
    Returns candidate ((resolve tables settings volumeID volumeName publishContext timeout 0).eval
      (onlyDevice host cache now none candidate)) := by
  refine returns_of_attempt hcontext fun imageID started => ?_
  have hlinks : (resolveByID tables serial).eval (onlyDevice host cache now none candidate) =
      none := by
    unfold resolveByID
    split
    · rfl
    · simp [onlyDevice, resolveLinks]
  have hnames : ∀ (names : List String) (lastErr : Option GoError), candidate ∈ names →
      ∃ resolution, (resolveNames (getDeviceName (Path.base volumeName)) started names lastErr).eval
        (onlyDevice host cache now none candidate) = .ok (candidate, resolution) := by
    intro names
    induction names with
    | nil => intro _ hmem; cases hmem
    | cons name rest ih =>
      intro lastErr hmem
      by_cases hname : name = candidate
      · subst hname
        simp [resolveNames, onlyDevice]
      · have hrest : candidate ∈ rest := (mem_cons.1 hmem).resolve_left (Ne.symm hname)
        simpa [resolveNames, onlyDevice, hname] using ih lastErr hrest
  obtain ⟨resolution, hresolution⟩ := hnames (deviceCandidates volumeName) none hcandidate
  simp only [attempt, eval_bind, hlinks, resolveAlias, hresolution, eval_pure]
  exact ⟨_, rfl⟩

theorem returns_cached {entry : CacheEntry} (henabled : settings.cacheEnabled = true)
    (hvolume : trimSpace volumeID ≠ "") (hcache : cache = some entry)
    (hmatch : entry.serial = "" ∨ tables.equalFold serial (trimSpace entry.serial) = true)
    (hpath : entry.devicePath ≠ "")
    (hnamed : host.Named serial entry.devicePath entry.byIDPath) :
    Returns entry.devicePath
      ((resolve tables settings volumeID volumeName publishContext timeout 0).eval
        (onlyDevice host cache entry.lastConfirmedAt none entry.devicePath)) := by
  have hexpired : (cacheExpired settings entry).eval
      (onlyDevice host cache entry.lastConfirmedAt none entry.devicePath) = false := by
    unfold cacheExpired
    split
    · simp [onlyDevice]
      omega
    · rfl
  have hentry : (resolveFromEntry tables volumeID serial entry).eval
      (onlyDevice host cache entry.lastConfirmedAt none entry.devicePath) =
      some ⟨entry.devicePath, entry.byIDPath⟩ := by
    have hsame : ¬ (serial ≠ "" ∧ entry.serial ≠ "" ∧
        (!tables.equalFold (trimSpace serial) (trimSpace entry.serial)) = true) := by
      rintro ⟨-, hother, hdiffer⟩
      rw [hserial, hmatch.resolve_left hother] at hdiffer
      cases hdiffer
    unfold resolveFromEntry
    rw [if_neg hsame, if_neg hpath]
    simp [onlyDevice, hne, eval_deviceMatchesSerial hserial hnamed]
  have hfound : (resolveFromCache tables settings volumeID serial).eval
      (onlyDevice host cache entry.lastConfirmedAt none entry.devicePath) =
      some ⟨entry.devicePath, entry.byIDPath⟩ := by
    unfold resolveFromCache
    rw [if_neg (by simp [henabled, hvolume])]
    simp only [eval_bind, eval_perform]
    rw [show onlyDevice host cache entry.lastConfirmedAt none entry.devicePath
      (.cacheGet volumeID) =
      some entry from hcache]
    simp only [eval_bind, hexpired]
    exact hentry
  unfold resolve
  rw [hcontext]
  simp only [eval_bind, eval_perform, hfound, eval_pure]
  exact ⟨_, rfl⟩

end Complete

/-- Whatever devices and links appear in whatever order, a call with a serial returns only devices
that have it, if and only if whatever may be taken for such a device is one. -/
theorem resolve_finds_iff_agrees (tables : CaseTables) (settings : Settings) (host : Host tables)
    (cache : Option CacheEntry) (volumeID volumeName : String) (publishContext : StringMap)
    (timeout : Int) (hserial : trimSpace (publishContext.get "deviceSerial") ≠ "") :
    (∀ fuel, (resolve tables settings volumeID volumeName publishContext timeout fuel).Meets
      (host.contract cache (trimSpace (publishContext.get "deviceSerial")))
      (fun _ result => host.Finds (trimSpace (publishContext.get "deviceSerial")) result) []) ↔
    host.Agrees settings cache volumeID volumeName
      (trimSpace (publishContext.get "deviceSerial")) := by
  have htrim := trimSpace_trimSpace (publishContext.get "deviceSerial")
  constructor
  · intro hmeets
    -- In each case only the device in question is there, and the call returns it.
    have hreturns : ∀ (now : Int) (link : Option (String × String)) (device : String),
        (∀ entry, link = some entry → entry ∈ host.byID) → host.HasDevice device →
        Returns device ((resolve tables settings volumeID volumeName publishContext timeout 0).eval
          (onlyDevice host cache now link device)) →
        host.HasSerial (trimSpace (publishContext.get "deviceSerial")) device := by
      intro now link device hlink hdevice hresult
      obtain ⟨resolution, hresult⟩ := hresult
      exact (hmeets 0).eval (fun _ op => answers_onlyDevice hlink hdevice op) device resolution
        hresult
    refine ⟨fun entry henabled hvolume hcache hmatch hpath hdevice hnamed => ?_,
      fun link hlink hname => ?_, fun candidate hcandidate hdevice => ?_⟩
    · exact hreturns entry.lastConfirmedAt none _ (fun _ h => by cases h) hdevice
        (returns_cached htrim hserial rfl henabled hvolume hcache hmatch hpath hnamed)
    · refine hreturns 0 (some link) _ ?_ (host.hasDevice_of_link hlink)
        (returns_link htrim hserial rfl hname)
      rintro entry ⟨⟩
      exact hlink
    · exact hreturns 0 none _ (fun _ h => by cases h) hdevice (returns_name rfl hcandidate)
  · intro hagrees fuel
    exact resolve_meets htrim hserial hagrees rfl timeout fuel

/-! ## A serial that is the beginning of another -/

/-- The settings when nothing is configured: a cache for ten minutes. -/
def defaultSettings : Settings where
  cacheEnabled := true
  cacheTTL := 600000000000

/-- The only disk is "/dev/sdb", whose serial is "onecsi-12". -/
def diskTwelve : Host .ascii where
  serial path := if path = "/dev/sdb" then some "onecsi-12" else none
  byID := [("scsi-0QEMU_QEMU_HARDDISK_onecsi-12", "/dev/sdb")]
  readlink _ := none
  consistent := by decide +kernel

theorem eq_of_mem_diskTwelve {path actual : String} (hactual : actual ∈ diskTwelve.serial path) :
    path = "/dev/sdb" ∧ actual = "onecsi-12" := by
  simp only [diskTwelve, Option.mem_def] at hactual
  split at hactual
  · rename_i hpath
    exact ⟨hpath, (Option.some.inj hactual).symm⟩
  · cases hactual

/-- The disk is there, and udev and `lsblk` tell its serial. -/
def truthful : (op : Op) → op.Answer
  | .udevInfo _ => some ["DEVNAME=/dev/sdb", "ID_SERIAL=0QEMU_QEMU_HARDDISK_onecsi-12",
      "ID_SERIAL_SHORT=onecsi-12"]
  | .lsblk _ => some "onecsi-12"
  | op => onlyDevice diskTwelve none 0 (some ("scsi-0QEMU_QEMU_HARDDISK_onecsi-12", "/dev/sdb"))
      "/dev/sdb" op

/-- A call that looks for the disk "onecsi-1" returns the disk "onecsi-12", against what udev and
`lsblk` say. -/
theorem resolve_finds_other_disk :
    (∀ op, diskTwelve.Answers none "onecsi-1" op (truthful op)) ∧
    (resolve .ascii defaultSettings "volume-1" "sda" [("deviceSerial", "onecsi-1")] 30000000000
      0).eval truthful = some (.ok ("/dev/sdb", { resolvedBy := .byID, latency := 0 })) ∧
    ¬ diskTwelve.HasSerial "onecsi-1" "/dev/sdb" := by
  have hother : CaseTables.ascii.equalFold "onecsi-12" "onecsi-1" ≠ true := by
    decide +kernel
  refine ⟨fun op => ?_, by decide +kernel, ?_⟩
  case refine_2 =>
    rintro ⟨actual, hactual, hequal⟩
    rw [(eq_of_mem_diskTwelve hactual).2] at hequal
    exact hother hequal
  have hanswers : ∀ op, diskTwelve.Answers none "onecsi-1" op
      (onlyDevice diskTwelve none 0 (some ("scsi-0QEMU_QEMU_HARDDISK_onecsi-12", "/dev/sdb"))
        "/dev/sdb" op) := by
    refine answers_onlyDevice ?_ rfl
    rintro entry ⟨⟩
    exact mem_singleton_self _
  cases op with
  | udevInfo path =>
    intro value hvalue hequal
    have hall : ∀ value ∈ udevSerials ["DEVNAME=/dev/sdb",
        "ID_SERIAL=0QEMU_QEMU_HARDDISK_onecsi-12", "ID_SERIAL_SHORT=onecsi-12"],
        CaseTables.ascii.equalFold value "onecsi-1" = false := by
      decide +kernel
    rw [hall value hvalue] at hequal
    cases hequal
  | lsblk path =>
    intro hequal
    have htrim : trimSpace "onecsi-12" = "onecsi-12" := by
      decide +kernel
    rw [htrim] at hequal
    exact absurd hequal hother
  | _ => exact hanswers _

/-- On the same machine a call that looks for "ONECSI-12" returns only the right disk. -/
theorem resolve_finds_own_disk :
    (resolve .ascii defaultSettings "volume-12" "sdb" [("deviceSerial", "ONECSI-12")] 30000000000
      100).Meets (diskTwelve.contract none "ONECSI-12")
      (fun _ result => diskTwelve.Finds "ONECSI-12" result) [] := by
  have hserial : trimSpace (StringMap.get [("deviceSerial", "ONECSI-12")] "deviceSerial") =
      "ONECSI-12" := by
    decide +kernel
  have hagrees : diskTwelve.Agrees defaultSettings none "volume-12" "sdb" "ONECSI-12" := by
    have hhas : ∀ path, diskTwelve.HasDevice path → diskTwelve.HasSerial "ONECSI-12" path := by
      intro path hdevice
      obtain ⟨actual, hactual⟩ := Option.isSome_iff_exists.1 hdevice
      refine ⟨actual, hactual, ?_⟩
      rw [(eq_of_mem_diskTwelve hactual).2]
      decide +kernel
    exact ⟨fun _ _ _ _ _ _ hdevice _ => hhas _ hdevice,
      fun _ hlink _ => hhas _ (diskTwelve.hasDevice_of_link hlink), fun _ _ => hhas _⟩
  have hiff := resolve_finds_iff_agrees .ascii defaultSettings diskTwelve none "volume-12" "sdb"
    [("deviceSerial", "ONECSI-12")] 30000000000 (by rw [hserial]; decide)
  rw [hserial] at hiff
  exact hiff.2 hagrees 100

end OpenNebulaCSI.Node.DeviceResolver
