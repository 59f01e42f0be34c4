import OpenNebulaCSI.Concurrency.Pool
import OpenNebulaCSI.Go.Strings

/-!
# Writing to a ConfigMap

Replicas of the controller and the nodes keep their shared state in ConfigMaps, one key per entry.
`UpsertConfigMapData`, `DeleteConfigMapKey` and `updateLocalDeviceReport` each read the whole
object, change the data and send the whole object back, and try again when the API server reports a
conflict. This file shows that such a call still acts on its own keys only, and at one instant.

The API server is modelled by what it promises: `Update` is refused unless the resource version is
the current one, `Create` is refused if the object exists, and what is refused has no effect. Any
call may fail for other reasons as well.

The instant of a call is the `Create` or `Update` that succeeds, or the `Get` by which a deletion
sees that there is nothing to delete (`point`). `ReadsCurrent` is the invariant behind it: whoever
has read the current version has read the current data.
-/

namespace OpenNebulaCSI.KubeRuntime

open Go Concurrency Program Option

/-! ## The code -/

/-- `Data`, in which a nil map has no keys. -/
abbrev Data :=
  String → Option String

structure ConfigMap where
  resourceVersion : ℕ
  data : Data

inductive ApiError where
  | notFound
  | alreadyExists
  | conflict
  | other (message : String)
  deriving DecidableEq

inductive ApiOp where
  | get
  | create (data : Data)
  | update (current : ConfigMap)

/-- A successful `Create` or `Update` has no error. -/
abbrev ApiOp.Answer : ApiOp → Type
  | .get => Except ApiError ConfigMap
  | .create _ => Option ApiError
  | .update _ => Option ApiError

abbrev ApiProg (α : Type) :=
  Program ApiOp ApiOp.Answer α

abbrev ApiHistory :=
  List (Event ApiOp ApiOp.Answer)

abbrev call (op : ApiOp) : ApiProg op.Answer :=
  perform op

/-- `retry.RetryOnConflict`, with the number of times it tries again. -/
def retryOnConflict (attempt : ApiProg (Option ApiError)) : ℕ → ApiProg (Option ApiError)
  | 0 => attempt
  | retries + 1 => do
      match ← attempt with
      | some .conflict => retryOnConflict attempt retries
      | result => return result

/-- `Create`, where an object that has appeared in the meantime is a conflict. -/
def createOrConflict (data : Data) : ApiProg (Option ApiError) := do
  match ← call (.create data) with
  | some .alreadyExists => return some .conflict
  | result => return result

/-- `current.Data` with the entries of `data` written over it. -/
def merge (current data : Data) : Data :=
  fun key => (data key).or (current key)

def upsertAttempt (data : Data) : ApiProg (Option ApiError) := do
  match ← call .get with
  | .error .notFound => createOrConflict data
  | .error err => return some err
  | .ok current => call (.update { current with data := merge current.data data })

def deleteAttempt (key : String) : ApiProg (Option ApiError) := do
  match ← call .get with
  | .error .notFound => return none
  | .error err => return some err
  | .ok current =>
    if (current.data key).isNone then return none
    else call (.update { current with data := Function.update current.data key none })

/-- How a `LocalDeviceMissingReport` is written to a string and read back. -/
structure ReportCodec (Report : Type) where
  zero : Report
  marshal : Report → Except String String
  unmarshal : String → Except String Report

variable {Report : Type}

/-- The report under a key; a missing or malformed one is the zero report. -/
def ReportCodec.read (codec : ReportCodec Report) (value : Option String) : Report :=
  let raw := trimSpace (value.getD "")
  if raw = "" then codec.zero
  else
    match codec.unmarshal raw with
    | .ok report => report
    | .error _ => codec.zero

def reportAttempt (codec : ReportCodec Report) (key : String) (mutate : Report → Report) :
    ApiProg (Option ApiError) := do
  match ← call .get with
  | .error .notFound =>
    match codec.marshal (mutate codec.zero) with
    | .error err => return some (.other err)
    | .ok payload => createOrConflict (Function.update (fun _ => none) key (some payload))
  | .error err => return some err
  | .ok current =>
    match codec.marshal (mutate (codec.read (current.data key))) with
    | .error err => return some (.other err)
    | .ok payload =>
      call (.update { current with data := Function.update current.data key (some payload) })

/-! ## Any number of calls at once -/

inductive ConfigCall (Report : Type) where
  | upsertConfigMapData (data : Data)
  | deleteConfigMapKey (key : String)
  | updateLocalDeviceReport (key : String) (mutate : Report → Report)

structure RuntimeConfig (Report : Type) where
  enabled : Bool
  /-- How often `retry.DefaultRetry` tries again. -/
  retries : ℕ
  codec : ReportCodec Report

variable (cfg : RuntimeConfig Report)

def ConfigCall.attempt : ConfigCall Report → ApiProg (Option ApiError)
  | .upsertConfigMapData data => upsertAttempt data
  | .deleteConfigMapKey key => deleteAttempt key
  | .updateLocalDeviceReport key mutate => reportAttempt cfg.codec key mutate

/-- The three functions, on the same ConfigMap. -/
def ConfigCall.program (c : ConfigCall Report) : ApiProg (Option ApiError) :=
  if !cfg.enabled then return some (.other "kubernetes runtime is not enabled")
  else retryOnConflict (c.attempt cfg) cfg.retries

/-- The object, if there is one. -/
abbrev Server :=
  Option ConfigMap

/-- A failure for a reason of its own. -/
abbrev Outage :=
  Option String

def actServer (outage : Outage) (server : Server) : (op : ApiOp) → Option (op.Answer × Server)
  | .get =>
    match outage, server with
    | some message, _ => some (.error (.other message), server)
    | none, none => some (.error .notFound, server)
    | none, some object => some (.ok object, server)
  | .create data =>
    match outage, server with
    | some message, _ => some (some (.other message), server)
    | none, none => some (none, some { resourceVersion := 1, data })
    | none, some _ => some (some .alreadyExists, server)
  | .update current =>
    match outage, server with
    | some message, _ => some (some (.other message), server)
    | none, none => some (some .notFound, server)
    | none, some object =>
      if current.resourceVersion = object.resourceVersion then
        some (none, some { resourceVersion := object.resourceVersion + 1, data := current.data })
      else some (some .conflict, server)

def configMaps : Machine ApiOp ApiOp.Answer (ConfigCall Report) (Option ApiError) Server Outage
    Empty where
  start server c := some (c.program cfg, server)
  act outage server _ op := actServer outage server op
  change := nofun

abbrev ConfigPool (Report : Type) :=
  Pool ApiOp ApiOp.Answer (ConfigCall Report) (Option ApiError) Server

/-- The states that any interleaving of the calls leads to. -/
abbrev ReachableFrom (server : Server) : ConfigPool Report → Prop :=
  (configMaps cfg).Reachable (Eq server) fun _ _ => True

/-! ## The calls as atomic updates -/

/-- The data of the object. -/
def content (server : Server) : Option Data :=
  server.map (·.data)

/-- The value of a key. -/
def value (state : Option Data) (key : String) : Option String :=
  state.bind fun data => data key

/-- The report that a value stands for: what its text decodes to, and the zero report if there is no
value or if it is blank or malformed. -/
def ReportCodec.decoded (codec : ReportCodec Report) (value : Option String) : Report :=
  (((value.map trimSpace).filter fun text => text ≠ "").bind fun text =>
    (codec.unmarshal text).toOption).getD codec.zero

/-- The whole call at one instant. -/
def ConfigCall.apply : ConfigCall Report → Option Data → Option Data
  | .upsertConfigMapData data, state => some (merge (state.getD fun _ => none) data)
  | .deleteConfigMapKey key, state => state.map fun data => Function.update data key none
  | .updateLocalDeviceReport key mutate, state =>
    match cfg.codec.marshal (mutate (cfg.codec.decoded (value state key))) with
    | .error _ => state
    | .ok payload => some (Function.update (state.getD fun _ => none) key (some payload))

/-- The keys a call is about. -/
def ConfigCall.Touches : ConfigCall Report → String → Prop
  | .upsertConfigMapData data, key => (data key).isSome
  | .deleteConfigMapKey own, key => key = own
  | .updateLocalDeviceReport own _, key => key = own

variable {key : String}

theorem value_apply_of_not_touches {c : ConfigCall Report} (hkey : ¬ c.Touches key)
    (state : Option Data) : value (c.apply cfg state) key = value state key := by
  cases c with
  | upsertConfigMapData data =>
    have hnone : data key = none := by simpa [ConfigCall.Touches] using hkey
    cases state <;> simp [ConfigCall.apply, value, merge, hnone]
  | deleteConfigMapKey own =>
    cases state with
    | none => rfl
    | some data => simp [ConfigCall.apply, value, Function.update_of_ne hkey]
  | updateLocalDeviceReport own mutate =>
    simp only [ConfigCall.apply]
    split
    · rfl
    · cases state <;> simp [value, Function.update_of_ne hkey]

/-- The step at which a call takes effect. -/
def point : ConfigCall Report → Event ApiOp ApiOp.Answer → Bool
  | _, ⟨.create _, result⟩ => result.isNone
  | _, ⟨.update _, result⟩ => result.isNone
  | .deleteConfigMapKey _, ⟨.get, .error err⟩ => err = .notFound
  | .deleteConfigMapKey key, ⟨.get, .ok object⟩ => (object.data key).isNone
  | _, ⟨.get, _⟩ => false

theorem point_get {c : ConfigCall Report} {ans : Except ApiError ConfigMap}
    (h : point c ⟨.get, ans⟩ = true) :
    ∃ key, c = .deleteConfigMapKey key ∧
      (ans = .error .notFound ∨ ∃ object, ans = .ok object ∧ object.data key = none) := by
  match c, ans with
  | .deleteConfigMapKey key, .ok object =>
    exact ⟨key, rfl, .inr ⟨object, rfl, isNone_iff_eq_none.1 h⟩⟩
  | .deleteConfigMapKey key, .error err =>
    have herr : err = .notFound := of_decide_eq_true h
    exact ⟨key, rfl, .inl (herr ▸ rfl)⟩
  | .upsertConfigMapData data, .ok _ | .upsertConfigMapData data, .error _ => cases h
  | .updateLocalDeviceReport key mutate, .ok _ | .updateLocalDeviceReport key mutate, .error _ =>
    cases h

/-! ## The programs -/

/-- A call writes what it would write as a whole, for the object it has read, and only before it has
taken effect. -/
def configContract (c : ConfigCall Report) : Contract ApiOp ApiOp.Answer where
  rely _ _ _ := True
  guar past op :=
    past.countP (point c) = 0 ∧
    match op with
    | .get => True
    | .create data => c.apply cfg none = some data
    | .update current => ∃ object, ⟨.get, .ok object⟩ ∈ past ∧
        current.resourceVersion = object.resourceVersion ∧
        c.apply cfg (some object.data) = some current.data

/-- A call has taken effect once if it has succeeded, and else not at all. -/
def Settled (c : ConfigCall Report) (past : ApiHistory) (result : Option ApiError) : Prop :=
  past.countP (point c) = if result.isNone then 1 else 0

variable {data : Data}

section Programs

variable {cfg} {c : ConfigCall Report} {past : ApiHistory}

theorem merge_empty (data : Data) : merge (fun _ => none) data = data :=
  funext fun _ => or_none

/-- An attempt reads what is stored. -/
theorem ReportCodec.read_eq_decoded (codec : ReportCodec Report) (value : Option String) :
    codec.read value = codec.decoded value := by
  have hblank : trimSpace "" = "" := by decide
  cases value with
  | none => simp [read, decoded, hblank]
  | some text => ?_
  rw [read, decoded, getD_some, map_some]
  by_cases htext : trimSpace text = ""
  · simp [htext, Option.filter]
  · simp only [htext, if_false, ne_eq, not_false_eq_true, decide_true, filter_some_pos, bind_some]
    cases codec.unmarshal (trimSpace text) <;> rfl

variable (hpast : past.countP (point c) = 0)

include hpast

theorem countP_append {event : Event ApiOp ApiOp.Answer} :
    (past ++ [event]).countP (point c) = if point c event then 1 else 0 := by
  rw [List.countP_append, hpast, Nat.zero_add, List.countP_singleton]

theorem meets_update {current object : ConfigMap} (hread : ⟨.get, .ok object⟩ ∈ past)
    (hversion : current.resourceVersion = object.resourceVersion)
    (hdata : c.apply cfg (some object.data) = some current.data) :
    (call (.update current)).Meets (configContract cfg c) (Settled c) past := by
  refine meets_perform.2 ⟨⟨hpast, object, hread, hversion, hdata⟩, fun result _ => ?_⟩
  rw [Settled, countP_append hpast]
  rfl

theorem meets_createOrConflict (hdata : c.apply cfg none = some data) :
    (createOrConflict data).Meets (configContract cfg c) (Settled c) past := by
  unfold createOrConflict
  refine .perform ⟨hpast, hdata⟩ fun result _ => ?_
  split
  · exact meets_pure.2 (countP_append hpast)
  refine meets_pure.2 ?_
  rw [Settled, countP_append hpast]
  rfl

/-- The rule for an attempt, by the answer to its `Get`. -/
theorem meets_get {next : Except ApiError ConfigMap → ApiProg (Option ApiError)}
    (hnext : ∀ ans, (next ans).Meets (configContract cfg c) (Settled c) (past ++ [⟨.get, ans⟩])) :
    (call .get >>= next).Meets (configContract cfg c) (Settled c) past :=
  meets_bind.2 (meets_perform.2 ⟨⟨hpast, trivial⟩, fun ans _ => hnext ans⟩)

theorem meets_upsertAttempt (hc : c = .upsertConfigMapData data) :
    (upsertAttempt data).Meets (configContract cfg c) (Settled c) past := by
  subst hc
  refine meets_get hpast fun ans => ?_
  have hlater := @countP_append _ _ _ hpast ⟨.get, ans⟩
  split
  · exact meets_createOrConflict hlater (congrArg some (merge_empty data))
  · exact meets_pure.2 hlater
  · exact meets_update hlater (List.mem_append_right _ (List.mem_singleton.2 rfl)) rfl rfl

theorem meets_deleteAttempt (hc : c = .deleteConfigMapKey key) :
    (deleteAttempt key).Meets (configContract cfg c) (Settled c) past := by
  subst hc
  refine meets_get hpast fun ans => ?_
  have hlater := @countP_append _ _ _ hpast ⟨.get, ans⟩
  split
  · exact meets_pure.2 hlater
  · rename_i err hne
    refine meets_pure.2 (hlater.trans (if_neg ?_))
    simpa [point] using hne
  rename_i current
  split
  · rename_i hnone
    exact meets_pure.2 (hlater.trans (if_pos hnone))
  rename_i hsome
  exact meets_update (hlater.trans (if_neg hsome))
    (List.mem_append_right _ (List.mem_singleton.2 rfl)) rfl rfl

theorem meets_reportAttempt {mutate : Report → Report}
    (hc : c = .updateLocalDeviceReport key mutate) :
    (reportAttempt cfg.codec key mutate).Meets (configContract cfg c) (Settled c) past := by
  subst hc
  refine meets_get hpast fun ans => ?_
  have hlater := @countP_append _ _ _ hpast ⟨.get, ans⟩
  split
  · split
    · exact meets_pure.2 hlater
    rename_i payload hmarshal
    refine meets_createOrConflict hlater ?_
    simp [ConfigCall.apply, value, ReportCodec.decoded, hmarshal]
  · exact meets_pure.2 hlater
  · split
    · exact meets_pure.2 hlater
    rename_i payload hmarshal
    refine meets_update hlater (List.mem_append_right _ (List.mem_singleton.2 rfl)) rfl ?_
    rw [ReportCodec.read_eq_decoded] at hmarshal
    simp [ConfigCall.apply, value, hmarshal]

theorem meets_attempt : (c.attempt cfg).Meets (configContract cfg c) (Settled c) past := by
  cases c with
  | upsertConfigMapData data => exact meets_upsertAttempt hpast rfl
  | deleteConfigMapKey key => exact meets_deleteAttempt hpast rfl
  | updateLocalDeviceReport key mutate => exact meets_reportAttempt hpast rfl

theorem meets_retryOnConflict {attempt : ApiProg (Option ApiError)} {retries : ℕ}
    (hattempt : ∀ past, past.countP (point c) = 0 →
      attempt.Meets (configContract cfg c) (Settled c) past) :
    (retryOnConflict attempt retries).Meets (configContract cfg c) (Settled c) past := by
  induction retries generalizing past with
  | zero => exact hattempt past hpast
  | succ retries ih =>
    refine (hattempt past hpast).bind fun later result hlater => ?_
    split
    · exact ih hlater
    · exact meets_pure.2 hlater

omit hpast in
theorem ConfigCall.meets (c : ConfigCall Report) :
    (c.program cfg).Meets (configContract cfg c) (Settled c) [] := by
  unfold ConfigCall.program
  split
  · exact meets_pure.2 rfl
  · exact meets_retryOnConflict rfl fun past => meets_attempt

end Programs

/-! ## Runs -/

/-- Whoever has read the current version has read the current data. -/
def ReadsCurrent (s : ConfigPool Report) : Prop :=
  ∀ t object, (t, ⟨.get, .ok object⟩) ∈ s.log → ∃ now, s.world = some now ∧
    object.resourceVersion ≤ now.resourceVersion ∧
    (object.resourceVersion = now.resourceVersion → object = now)

section Runs

variable {cfg} {server : Server} {s s' : ConfigPool Report} {t : ℕ}
  {outage : Outage} {w w' : Server}

theorem actServer_get {ans : Except ApiError ConfigMap}
    (hact : actServer outage w .get = some (ans, w')) :
    w' = w ∧ (∀ object, ans = .ok object → w = some object) ∧
      (ans = .error .notFound → w = none) := by
  simp only [actServer] at hact
  split at hact
  all_goals
    obtain ⟨rfl, rfl⟩ := answer_inj hact
    simp

theorem actServer_create {ans : Option ApiError}
    (hact : actServer outage w (.create data) = some (ans, w')) :
    (ans = none ∧ w = none ∧ w' = some { resourceVersion := 1, data }) ∨
      (ans ≠ none ∧ w' = w) := by
  simp only [actServer] at hact
  split at hact
  all_goals
    obtain ⟨rfl, rfl⟩ := answer_inj hact
    simp

theorem actServer_update {current : ConfigMap} {ans : Option ApiError}
    (hact : actServer outage w (.update current) = some (ans, w')) :
    (ans = none ∧ ∃ object, w = some object ∧
      current.resourceVersion = object.resourceVersion ∧
      w' = some { resourceVersion := object.resourceVersion + 1, data := current.data }) ∨
      (ans ≠ none ∧ w' = w) := by
  simp only [actServer] at hact
  split at hact
  · obtain ⟨rfl, rfl⟩ := answer_inj hact
    exact .inr ⟨nofun, rfl⟩
  · obtain ⟨rfl, rfl⟩ := answer_inj hact
    exact .inr ⟨nofun, rfl⟩
  rename_i object
  split at hact
  · rename_i hversion
    obtain ⟨rfl, rfl⟩ := answer_inj hact
    exact .inl ⟨rfl, object, rfl, hversion, rfl⟩
  · obtain ⟨rfl, rfl⟩ := answer_inj hact
    exact .inr ⟨nofun, rfl⟩

theorem reachable_configContract (hs : ReachableFrom cfg server s) :
    s.Conforms (configContract cfg) Settled := by
  refine (hs.conforms_and_kept ?_ fun _ _ _ _ _ _ _ _ _ _ _ _ _ => trivial).1
  intro w c prog w' hstart
  obtain ⟨rfl, -⟩ := answer_inj hstart
  exact c.meets

/-- Versions only grow, and a version is written once. -/
theorem reachable_readsCurrent (hs : ReachableFrom cfg server s) : ReadsCurrent s := by
  refine hs.invariant (fun w _ t object hmem => ?_) fun s l s' _ ih _ h => ?_
  · cases hmem
  · rcases Machine.step_cases h with ⟨hstart⟩ | @⟨t, outage, thread, op, next, ans, w, -, -, hact⟩ |
      @⟨c⟩
    · obtain ⟨-, rfl⟩ := answer_inj hstart
      exact ih
    · intro t' object hmem
      replace hmem := List.mem_append.1 hmem
      change actServer outage s.world op = some (ans, w) at hact
      show ∃ now, w = some now ∧ _
      cases op with
      | get =>
        obtain ⟨rfl, hok, -⟩ := actServer_get hact
        rcases hmem with hold | hnew
        · exact ih t' object hold
        · cases List.mem_singleton.1 hnew
          exact ⟨object, hok object rfl, le_rfl, fun _ => rfl⟩
      | create data =>
        have hold : (t', ⟨.get, .ok object⟩) ∈ s.log :=
          hmem.resolve_right fun hnew => by cases List.mem_singleton.1 hnew
        obtain ⟨now, hnow, hle, hsame⟩ := ih t' object hold
        -- An object that somebody has read exists.
        rcases actServer_create hact with ⟨-, hnone, -⟩ | ⟨-, rfl⟩
        · rw [hnow] at hnone
          cases hnone
        · exact ⟨now, hnow, hle, hsame⟩
      | update current =>
        have hold : (t', ⟨.get, .ok object⟩) ∈ s.log :=
          hmem.resolve_right fun hnew => by cases List.mem_singleton.1 hnew
        obtain ⟨now, hnow, hle, hsame⟩ := ih t' object hold
        rcases actServer_update hact with ⟨-, found, hfound, -, rfl⟩ | ⟨-, rfl⟩
        · obtain rfl : now = found := Option.mem_unique hnow hfound
          refine ⟨_, rfl, ?_, fun heq => ?_⟩
          · show object.resourceVersion ≤ now.resourceVersion + 1
            omega
          · have heq : object.resourceVersion = now.resourceVersion + 1 := heq
            omega
        · exact ⟨now, hnow, hle, hsame⟩
    · cases c

/-- A step has the effect of its whole call if it is the point of the call, and none else. -/
theorem content_act {thread : Thread ApiOp ApiOp.Answer (ConfigCall Report) _} {op : ApiOp}
    {next : op.Answer → ApiProg (Option ApiError)} {ans : op.Answer}
    (hs : ReachableFrom cfg server s) (hthread : s.threads[t]? = some thread)
    (hprog : thread.prog = .call op next) (hact : actServer outage s.world op = some (ans, w)) :
    content w = if point thread.kind ⟨op, ans⟩ then thread.kind.apply cfg (content s.world)
      else content s.world := by
  obtain ⟨-, hguar⟩ := (reachable_configContract hs).guar hthread hprog
  cases op with
  | get =>
    obtain ⟨rfl, hok, hmissing⟩ := actServer_get hact
    split
    · rename_i hpoint
      obtain ⟨key, hkind, rfl | ⟨object, rfl, hnone⟩⟩ := point_get hpoint
      · rw [hkind, hmissing rfl]
        rfl
      · rw [hkind, hok object rfl]
        simp [content, ConfigCall.apply, ← hnone]
    · rfl
  | create data =>
    show content w = if ans.isNone then _ else _
    rcases actServer_create hact with ⟨rfl, hnone, rfl⟩ | ⟨hfailed, rfl⟩
    · rw [hnone, if_pos isNone_none]
      exact hguar.symm
    · rw [if_neg fun h => hfailed (isNone_iff_eq_none.1 h)]
  | update current =>
    show content w = if ans.isNone then _ else _
    rcases actServer_update hact with ⟨rfl, object, hobject, hversion, rfl⟩ | ⟨hfailed, rfl⟩
    · obtain ⟨read, hread, hsame, hdata⟩ := hguar
      obtain ⟨now, hnow, -, hcurrent⟩ := reachable_readsCurrent hs t read (Pool.mem_history.1 hread)
      obtain rfl : now = object := Option.mem_unique hnow hobject
      obtain rfl : read = now := hcurrent (hsame.symm.trans hversion)
      rw [hobject, if_pos isNone_none]
      exact hdata.symm
    · rw [if_neg fun h => hfailed (isNone_iff_eq_none.1 h)]

theorem result_of_point {thread : Thread ApiOp ApiOp.Answer (ConfigCall Report) _}
    (hs : ReachableFrom cfg server s) (hthread : s.threads[t]? = some thread)
    (hcount : (s.history t).countP (point thread.kind) ≠ 0) : s.result? t = some none := by
  rw [Pool.result?, hthread, bind_some]
  cases hprog : thread.prog with
  | call op next => exact absurd ((reachable_configContract hs).guar hthread hprog).1 hcount
  | ret result => ?_
  have hsettled := (reachable_configContract hs).result hthread hprog
  cases result with
  | none => rfl
  | some err => exact absurd hsettled hcount

end Runs

/-- The calls on a ConfigMap act one after the other. -/
structure Linearizable (cfg : RuntimeConfig Report) (server : Server) (s : ConfigPool Report) :
    Prop where
  /-- The data are those of the calls performed one by one, each as a whole, at their points. -/
  sequential : content s.world = s.sequential point (ConfigCall.apply cfg) (content server)
  /-- A call that has returned without an error is one of them, once. -/
  succeeded : ∀ t, s.result? t = some none → (s.points point).count t = 1
  /-- A call that has returned an error, or not returned, is none of them. -/
  others : ∀ t, s.result? t ≠ some none → t ∉ s.points point
  /-- A call that had returned before another one was started comes before it. -/
  order : ∀ earlier a b, ReachableFrom cfg server earlier → (configMaps cfg).Leads earlier s →
    (earlier.result? a).isSome → earlier.threads.length ≤ b →
    ∃ before after, s.points point = before ++ after ∧ b ∉ before ∧ a ∉ after
  /-- A value changes only in the step in which a call for its key gets its success. -/
  changes : ∀ l s' key, (configMaps cfg).step l s = some s' →
    value (content s'.world) key ≠ value (content s.world) key →
    ∃ t outage c, l = .act t outage ∧ s'.result? t = some none ∧ s.kind? t = some c ∧
      c.Touches key

/-- Reports that are their own text. -/
def textConfig : RuntimeConfig String where
  enabled := true
  retries := 4
  codec := { zero := "", marshal := .ok, unmarshal := .ok }

end OpenNebulaCSI.KubeRuntime
