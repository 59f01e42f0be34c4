import OpenNebulaCSI.Controller.Frames
import OpenNebulaCSI.Reconciler.Pass

/-!
# What a pass calls

A pass goes through its lists once, and three properties of it are read off its calls: which
attachments it detaches, which VolumeAttachments it deletes, and for how long each of them has been
suspect. `reconcileOnce_meets_passContract` is the one walk through the program.

A pass sees a key (`Sighted`) if its own lists make the key suspect and the volume was not skipped.
It asks `due` only for keys it sees, prunes to keys it has seen, and removes only what was due; and
it detaches only what its lists do not spare.
-/

namespace OpenNebulaCSI.Reconciler

open Go Concurrency Controller Program Function List Pool Option

/-! ## The lists of a pass -/

/-- The pass detaches the attachment if it is due. -/
def Lists.detaches (lists : Lists) (attachment : ObservedAttachment) : Bool :=
  (lists.pvByHandle attachment.volumeHandle).any fun pv =>
    !lists.hasMatchingVA attachment && !lists.activePodUsingPVC pv

variable {past : History} {lists : Lists} {event : Event Op Op.Answer} {pv : PersistentVolume}
  {attachments : List ObservedAttachment} {attachment : ObservedAttachment}

theorem listed?_eq_some {vas : List VolumeAttachment} :
    listed? past = some (attachments, vas) ↔
      ∃ rest, past = ⟨.listCurrentAttachments, .ok attachments⟩ ::
        ⟨.listVolumeAttachments, .ok vas⟩ :: rest := by
  constructor
  · intro h
    unfold listed? at h
    split at h
    · rename_i rest
      obtain ⟨rfl, rfl⟩ : _ = attachments ∧ _ = vas := by simpa using h
      exact ⟨rest, rfl⟩
    · cases h
  · rintro ⟨rest, rfl⟩
    rfl

theorem lists?_eq_some :
    lists? past = some lists ↔
      ∃ rest, past = ⟨.listCurrentAttachments, .ok lists.attachments⟩ ::
        ⟨.listVolumeAttachments, .ok lists.vas⟩ :: ⟨.listPersistentVolumes, .ok lists.pvs⟩ ::
        ⟨.listPods, .ok lists.pods⟩ :: rest := by
  constructor
  · intro h
    unfold lists? at h
    split at h
    · rename_i rest
      obtain rfl := Option.some.inj h
      exact ⟨rest, rfl⟩
    · cases h
  · rintro ⟨rest, rfl⟩
    rfl

theorem listed?_concat {vas : List VolumeAttachment}
    (h : listed? (past ++ [event]) = some (attachments, vas)) :
    listed? past = some (attachments, vas) ∨
      past = [⟨.listCurrentAttachments, .ok attachments⟩] ∧
        event = ⟨.listVolumeAttachments, .ok vas⟩ := by
  obtain ⟨rest, hrest⟩ := listed?_eq_some.1 h
  match past, hrest with
  | [first], hrest =>
    simp only [cons_append, nil_append, List.cons.injEq] at hrest
    obtain ⟨rfl, rfl, -⟩ := hrest
    exact .inr ⟨rfl, rfl⟩
  | first :: second :: past, hrest =>
    simp only [cons_append, List.cons.injEq] at hrest
    exact .inl (listed?_eq_some.2 ⟨past, by rw [hrest.1, hrest.2.1]⟩)

theorem lists?_concat (h : lists? (past ++ [event]) = some lists) :
    lists? past = some lists ∨
      past = [⟨.listCurrentAttachments, .ok lists.attachments⟩,
        ⟨.listVolumeAttachments, .ok lists.vas⟩, ⟨.listPersistentVolumes, .ok lists.pvs⟩] ∧
      event = ⟨.listPods, .ok lists.pods⟩ := by
  obtain ⟨rest, hrest⟩ := lists?_eq_some.1 h
  match past, hrest with
  | [first, second, third], hrest =>
    simp only [cons_append, nil_append, List.cons.injEq] at hrest
    obtain ⟨rfl, rfl, rfl, rfl, -⟩ := hrest
    exact .inr ⟨rfl, rfl⟩
  | first :: second :: third :: fourth :: past, hrest =>
    simp only [cons_append, List.cons.injEq] at hrest
    obtain ⟨rfl, rfl, rfl, rfl, -⟩ := hrest
    exact .inl (lists?_eq_some.2 ⟨past, rfl⟩)

theorem lists?_append (h : lists? past = some lists) (tail : History) :
    lists? (past ++ tail) = some lists := by
  obtain ⟨rest, rfl⟩ := lists?_eq_some.1 h
  exact lists?_eq_some.2 ⟨rest ++ tail, rfl⟩

theorem detaches_of_finding (hpv : lists.pvByHandle attachment.volumeHandle = some pv)
    (hmatched : lists.finding pv attachment ≠ .matched)
    (hinUse : lists.finding pv attachment ≠ .inUse) : lists.detaches attachment = true := by
  unfold Lists.finding at hmatched hinUse
  split at hmatched
  · exact absurd rfl hmatched
  rename_i hva
  rw [if_neg hva] at hinUse
  split at hinUse
  · exact absurd rfl hinUse
  · rename_i hpod
    simp [Lists.detaches, hpv, hva, hpod]

/-! ## Sightings -/

/-- An attachment of the volume, under this key, of which the pass makes this finding. -/
def Finds (lists : Lists) (volume key : String) (finding : Finding) : Prop :=
  ∃ pv, lists.pvByHandle volume = some pv ∧ ∃ attachment ∈ lists.attachmentsByVolume volume,
    volumeNodeKey volume attachment.nodeName = key ∧ lists.finding pv attachment = finding

/-- The condition of a map of sightings, for an object of the volume under this key. -/
def Suspect (lists : Lists) (volume key : String) : Store → Prop
  | .orphan => Finds lists volume key .orphan
  | .divergent => Finds lists volume key .divergent
  | .staleVA => ∃ va ∈ lists.vas, va.name = key ∧ va.attached = true ∧
      ∃ source, va.pvName.bind (csiByName lists.pvs) = some source ∧
        source.volumeHandle = volume ∧
        attachmentByVolumeNode lists.attachments (volumeNodeKey volume va.nodeName) = false

/-- The question to the hotplug queue, the second one of `skipVolume`. -/
def Op.AsksQueue : Op → Prop
  | .hasVolume _ => True
  | _ => False

/-- The last `skipVolume` was about this volume, and the answer was no. -/
def NotSkipped (past : History) (volume : String) : Prop :=
  ∃ before after, past = before ++ ⟨.controller (.stickyGet .other volume), none⟩ ::
      ⟨.hasVolume volume, false⟩ :: after ∧ ∀ event ∈ after, ¬ event.op.AsksQueue

/-- In a pass with this history the key was suspect and its volume not skipped. -/
def Sighted (past : History) (store : Store) (key : String) : Prop :=
  ∃ lists volume before now answer after, lists? past = some lists ∧
    Suspect lists volume key store ∧ past = before ++ ⟨.due store key now, answer⟩ :: after ∧
    NotSkipped before volume

/-- The clock reading of a pass. -/
def clock? (past : History) : Option Int :=
  past.findSome? fun event =>
    match event with
    | ⟨.now, now⟩ => some now
    | _ => none

/-- The map a detach is decided by. -/
def storeOf (priority : Priority) : Store :=
  if priority = .critical then .divergent else .orphan

variable {store : Store} {key volume : String} {now : Int}

theorem Sighted.append (h : Sighted past store key) (tail : History) :
    Sighted (past ++ tail) store key := by
  obtain ⟨lists, volume, before, now, answer, after, hlists, hsuspect, rfl, hskip⟩ := h
  refine ⟨lists, volume, before, now, answer, after ++ tail, lists?_append hlists tail,
    hsuspect, ?_,
    hskip⟩
  rw [append_assoc]
  rfl

theorem clock?_append (h : clock? past = some now) (tail : History) :
    clock? (past ++ tail) = some now := by
  unfold clock? at h ⊢
  rw [findSome?_append, h, some_or]

theorem NotSkipped.concat (h : NotSkipped past volume) (hop : ¬ event.op.AsksQueue) :
    NotSkipped (past ++ [event]) volume := by
  obtain ⟨before, after, rfl, hafter⟩ := h
  refine ⟨before, after ++ [event], ?_, fun other hother => ?_⟩
  · rw [append_assoc]
    rfl
  · rcases mem_append.1 hother with hold | hnew
    · exact hafter other hold
    · rw [mem_singleton.1 hnew]
      exact hop

/-! ## One pass -/

/-- What a pass knows between its list calls and its pruning. -/
structure InPass (lists : Lists) (now : Int) (past : History) : Prop where
  lists : lists? past = some lists
  clock : clock? past = some now
  unpruned : ∀ store current, ⟨.prune store current, ()⟩ ∉ past

/-- The key is suspect in the lists of a pass that has not pruned, and its volume is not skipped. -/
def Considered (past : History) (store : Store) (key : String) (now : Int) : Prop :=
  ∃ lists volume, InPass lists now past ∧ Suspect lists volume key store ∧ NotSkipped past volume

/-- The grace time of the key has passed, at the time of this pass. -/
def Granted (past : History) (store : Store) (key : String) : Prop :=
  ∃ now, clock? past = some now ∧ ⟨.due store key now, true⟩ ∈ past

def graceContract : Contract Op Op.Answer where
  rely _ _ _ := True
  guar past op :=
    match op with
    | .due store key now => Considered past store key now
    | .prune store current => ∀ key ∈ current, Sighted past store key
    | .controller (.query (.detachVolume volume node)) =>
      ∃ store ∈ [Store.orphan, .divergent], Granted past store (volumeNodeKey volume node)
    | .deleteVolumeAttachment name => Granted past .staleVA name
    | _ => True

/-- The operation is no detach, or the detach of an attachment that the lists do not spare. -/
def Lists.Allows (lists : Lists) : Op → Prop
  | .controller (.query (.detachVolume volume node)) => ∃ attachment ∈ lists.attachments,
      attachment.volumeHandle = volume ∧ attachment.nodeName = node ∧
        lists.detaches attachment = true
  | _ => True

/-- Once a pass has its lists, it detaches only what they do not spare. -/
def detachContract : Contract Op Op.Answer where
  rely _ _ _ := True
  guar past op :=
    match op with
    | .controller (.query (.detachVolume _ _)) =>
      ∃ lists, lists? past = some lists ∧ lists.Allows op
    | _ => True

/-- What a pass calls. -/
def passContract : Contract Op Op.Answer where
  rely _ _ _ := True
  guar past op := graceContract.guar past op ∧ detachContract.guar past op

theorem Granted.append (h : Granted past store key) (tail : History) :
    Granted (past ++ tail) store key := by
  obtain ⟨now, hclock, hmem⟩ := h
  exact ⟨now, clock?_append hclock tail, mem_append_left _ hmem⟩

/-- A pass that has completed has pruned all maps. -/
def Pruned (past : History) (result : Option GoError) : Prop :=
  result = none → ∀ store, ∃ current, ⟨.prune store current, ()⟩ ∈ past

theorem Considered.sighted {answer : Bool} (h : Considered past store key now) :
    Sighted (past ++ [⟨.due store key now, answer⟩]) store key := by
  obtain ⟨lists, volume, hpass, hsuspect, hskip⟩ := h
  exact ⟨lists, volume, past, now, answer, [], lists?_append hpass.lists _, hsuspect, rfl, hskip⟩

theorem InPass.concat (h : InPass lists now past)
    (hop : ∀ store current, event.op ≠ .prune store current) :
    InPass lists now (past ++ [event]) := by
  refine ⟨lists?_append h.lists _, clock?_append h.clock _, fun store current hmem => ?_⟩
  rcases mem_append.1 hmem with hold | hnew
  · exact h.unpruned store current hold
  · exact hop store current (congrArg Event.op (mem_singleton.1 hnew)).symm

/-- The keys collected so far have been seen. -/
def Current.Seen (current : Current) (past : History) : Prop :=
  (∀ key ∈ current.orphans, Sighted past .orphan key) ∧
    ∀ key ∈ current.divergent, Sighted past .divergent key

theorem Current.Seen.append {current : Current} (h : current.Seen past) (tail : History) :
    current.Seen (past ++ tail) :=
  ⟨fun key hkey => (h.1 key hkey).append tail, fun key hkey => (h.2 key hkey).append tail⟩

/-- What a pass knows while it goes through the attachments of a volume. -/
structure AtVolume (lists : Lists) (now : Int) (volume : String) (current : Current)
    (past : History) : Prop where
  pass : InPass lists now past
  notSkipped : NotSkipped past volume
  seen : current.Seen past

variable {op : Op} {ans : op.Answer}

section Pass

variable {cfg : Config} {priority : Priority} {current : Current}

/-- Neither a question to the queue nor pruning. -/
def Op.Inert : Op → Prop
  | .hasVolume _ | .prune _ _ => False
  | _ => True

theorem AtVolume.concat (h : AtVolume lists now volume current past) (hop : op.Inert) :
    AtVolume lists now volume current (past ++ [⟨op, ans⟩]) := by
  refine ⟨h.pass.concat fun store current heq => ?_, h.notSkipped.concat fun hasks => ?_,
    h.seen.append _⟩
  · have heq : op = .prune store current := heq
    rw [heq] at hop
    exact hop
  · cases op <;> first | exact hop | exact hasks

theorem only_detachBody {allowed : Op → Prop} (cfg : Config) (attachment : ObservedAttachment)
    (hother : ∀ op : Controller.Op, (∀ volume node, op ≠ .query (.detachVolume volume node)) →
      allowed (.controller op))
    (hdetach : allowed
      (.controller (.query (.detachVolume attachment.volumeHandle attachment.nodeName)))) :
    (inController ((Closure.detachObservedAttachment attachment).body cfg)).Only allowed := by
  have hlocks : ∀ op : Controller.Op, op.OnLocks → allowed (.controller op) := by
    intro op hop
    refine hother op fun volume node heq => ?_
    rw [heq] at hop
    cases hop
  refine Only.lift (only_locked hlocks (only_locked hlocks ?_))
  refine Only.perform (hother _ fun _ _ h => by cases h) fun entry => ?_
  cases entry with
  | some state => exact only_pure
  | none => ?_
  refine Only.perform (hother _ fun _ _ h => by cases h) fun cooldown => ?_
  cases cooldown with
  | some cooldown => exact only_pure
  | none => ?_
  refine Only.perform (hother _ fun _ _ h => by cases h) fun target => ?_
  cases target with
  | error err => exact only_pure
  | ok target => exact only_perform.2 hdetach

theorem storeOf_mem (priority : Priority) : storeOf priority ∈ [Store.orphan, .divergent] := by
  cases priority <;> decide

theorem passContract_controller {inner : Controller.Op}
    (hinner : ∀ volume node, inner = .query (.detachVolume volume node) →
      passContract.guar past (.controller (.query (.detachVolume volume node)))) :
    passContract.guar past (.controller inner) := by
  cases inner with
  | query query =>
    cases query with
    | detachVolume volume node => exact hinner volume node rfl
    | _ => exact ⟨trivial, trivial⟩
  | _ => exact ⟨trivial, trivial⟩

/-- An operation of the controller that detaches nothing but this attachment. -/
def DetachedBy (attachment : ObservedAttachment) (op : Op) : Prop :=
  ∃ inner, op = .controller inner ∧ ∀ volume node, inner = .query (.detachVolume volume node) →
    volume = attachment.volumeHandle ∧ node = attachment.nodeName

section Volume

variable (h : AtVolume lists now volume current past)

include h

theorem meets_detachObservedAttachment (hmem : attachment ∈ lists.attachments)
    (hdetaches : lists.detaches attachment = true)
    (hgranted : Granted past (storeOf priority)
      (volumeNodeKey attachment.volumeHandle attachment.nodeName)) :
    (detachObservedAttachment cfg attachment priority).Meets passContract
      (fun later _ => AtVolume lists now volume current later) past := by
  unfold detachObservedAttachment
  refine .perform ⟨trivial, trivial⟩ fun answer _ => ?_
  have hnext : AtVolume lists now volume current
      (past ++ [⟨.runQueued attachment priority, answer⟩]) := h.concat trivial
  cases answer with
  | answered err => exact meets_pure.2 hnext
  | execute => ?_
  have honly : (inController ((Closure.detachObservedAttachment attachment).body cfg)).Only
      (DetachedBy attachment) := by
    refine only_detachBody cfg attachment (fun op hop => ⟨op, rfl, fun volume node heq => ?_⟩) ?_
    · exact absurd heq (hop volume node)
    · refine ⟨_, rfl, fun volume node heq => ?_⟩
      cases heq
      exact ⟨rfl, rfl⟩
  -- What the queued function detaches stays granted.
  have hbody : (inController ((Closure.detachObservedAttachment attachment).body cfg)).Meets
      passContract (fun later _ => AtVolume lists now volume current later ∧
        Granted later (storeOf priority)
          (volumeNodeKey attachment.volumeHandle attachment.nodeName))
      (past ++ [⟨.runQueued attachment priority, .execute⟩]) := by
    refine honly.meets ⟨hnext, hgranted.append _⟩ ?_ ?_
    · rintro earlier _ ⟨inner, rfl, hown⟩ hearlier
      refine passContract_controller fun volume node hinner => ?_
      obtain ⟨rfl, rfl⟩ := hown volume node hinner
      exact ⟨⟨_, storeOf_mem priority, hearlier.2⟩, lists, hearlier.1.pass.lists, attachment, hmem,
        rfl, rfl, hdetaches⟩
    · rintro earlier _ ans ⟨inner, rfl, -⟩ hearlier
      exact ⟨hearlier.1.concat trivial, hearlier.2.append _⟩
  exact hbody.mono fun later _ hlater => hlater.1

theorem meets_detachWhenDue {next : Current} (hmem : attachment ∈ lists.attachments)
    (hdetaches : lists.detaches attachment = true)
    (hkey : volumeNodeKey attachment.volumeHandle attachment.nodeName = key)
    (hsuspect : Suspect lists volume key (storeOf priority))
    (hnext : ∀ later, current.Seen later → Sighted later (storeOf priority) key → next.Seen later) :
    (detachWhenDue cfg attachment (storeOf priority) priority now next).Meets passContract
      (fun later next => AtVolume lists now volume next later) past := by
  subst hkey
  set key := volumeNodeKey attachment.volumeHandle attachment.nodeName
  have hconsidered : Considered past (storeOf priority) key now :=
    ⟨lists, volume, h.pass, hsuspect, h.notSkipped⟩
  refine .perform ⟨hconsidered, trivial⟩ fun answer _ => ?_
  have hafter : AtVolume lists now volume current
      (past ++ [⟨.due (storeOf priority) key now, answer⟩]) := h.concat trivial
  have hcollected : AtVolume lists now volume next
      (past ++ [⟨.due (storeOf priority) key now, answer⟩]) :=
    ⟨hafter.pass, hafter.notSkipped, hnext _ hafter.seen hconsidered.sighted⟩
  cases answer with
  | false => exact meets_pure.2 hcollected
  | true => ?_
  have hgranted : Granted (past ++ [⟨.due (storeOf priority) key now, true⟩])
      (storeOf priority) key :=
    ⟨now, hafter.pass.clock, mem_append_right _ (mem_singleton.2 rfl)⟩
  refine (meets_detachObservedAttachment hcollected hmem hdetaches hgranted).bind ?_
  exact fun later _ hlater => meets_pure.2 hlater

theorem meets_reconcileAttachment (hpv : lists.pvByHandle volume = some pv)
    (hmem : attachment ∈ lists.attachmentsByVolume volume) :
    (reconcileAttachment cfg lists pv now attachment current).Meets passContract
      (fun later next => AtVolume lists now volume next later) past := by
  obtain ⟨hlisted, hvolume⟩ :
      attachment ∈ lists.attachments ∧ attachment.volumeHandle = volume := by
    simpa [Lists.attachmentsByVolume] using hmem
  have hdetaches := detaches_of_finding (hvolume ▸ hpv)
  have hfinds : ∀ finding, lists.finding pv attachment = finding →
      Finds lists volume (volumeNodeKey attachment.volumeHandle attachment.nodeName) finding :=
    fun finding hfinding => ⟨pv, hpv, attachment, hmem, by rw [hvolume], hfinding⟩
  unfold reconcileAttachment
  split
  · exact meets_pure.2 h
  · exact meets_pure.2 h
  · rename_i hfinding
    have hthis := hdetaches (by simp [hfinding]) (by simp [hfinding])
    refine @meets_detachWhenDue _ _ _ _ _ _ cfg .critical current h _ hlisted hthis rfl
      (hfinds _ hfinding) fun later hseen hsighted => ⟨hseen.1, fun key hkey => ?_⟩
    rcases mem_cons.1 hkey with rfl | hold
    · exact hsighted
    · exact hseen.2 key hold
  · rename_i hfinding
    have hthis := hdetaches (by simp [hfinding]) (by simp [hfinding])
    refine @meets_detachWhenDue _ _ _ _ _ _ cfg .background current h _ hlisted hthis rfl
      (hfinds _ hfinding) fun later hseen hsighted => ⟨fun key hkey => ?_, hseen.2⟩
    rcases mem_cons.1 hkey with rfl | hold
    · exact hsighted
    · exact hseen.1 key hold

theorem meets_reconcileAttachments {attachments : List ObservedAttachment}
    (hpv : lists.pvByHandle volume = some pv)
    (hsub : attachments ⊆ lists.attachmentsByVolume volume) :
    (reconcileAttachments cfg lists pv now attachments current).Meets passContract
      (fun later next => AtVolume lists now volume next later) past := by
  induction attachments generalizing current past with
  | nil => exact meets_pure.2 h
  | cons attachment rest ih =>
    have hmem := hsub (mem_cons_self ..)
    refine (meets_reconcileAttachment h hpv hmem).bind fun later next hlater => ?_
    exact ih hlater fun other hother => hsub (mem_cons_of_mem _ hother)

end Volume

/-- What the second loop keeps: the keys of both loops. -/
def SeenAll (current : Current) (stale : List String) (past : History) : Prop :=
  current.Seen past ∧ ∀ key ∈ stale, Sighted past .staleVA key

variable {stale : List String}

theorem SeenAll.append (h : SeenAll current stale past) (tail : History) :
    SeenAll current stale (past ++ tail) :=
  ⟨h.1.append tail, fun key hkey => (h.2 key hkey).append tail⟩

section Loops

variable (hpass : InPass lists now past)

include hpass

theorem meets_skipVolume {seen : History → Prop}
    (hseen : ∀ past event, seen past → seen (past ++ [event])) (hpast : seen past) :
    (skipVolume volume).Meets passContract (fun later skip => InPass lists now later ∧
      seen later ∧ (skip = false → NotSkipped later volume)) past := by
  have hask : (inController (Controller.perform (.stickyGet .other volume)) : Prog _) =
      perform (.controller (.stickyGet .other volume)) := rfl
  unfold skipVolume
  rw [hask]
  refine .perform ⟨trivial, trivial⟩ fun entry _ => ?_
  have hpass' := @InPass.concat _ _ ⟨.controller (.stickyGet .other volume), entry⟩ _ hpass
    (fun _ _ heq => by cases heq)
  cases entry with
  | some state => exact meets_pure.2 ⟨hpass', hseen _ _ hpast, fun h => by cases h⟩
  | none => ?_
  refine meets_perform.2 ⟨⟨trivial, trivial⟩, fun busy _ => ⟨?_, hseen _ _ (hseen _ _ hpast), ?_⟩⟩
  · exact hpass'.concat fun _ _ heq => by cases heq
  · rintro rfl
    refine ⟨past, [], ?_, fun _ h => absurd h not_mem_nil⟩
    rw [append_assoc]
    rfl

theorem meets_reconcileVolume (hseen : current.Seen past) :
    (reconcileVolume cfg lists now volume current).Meets passContract
      (fun later next => InPass lists now later ∧ next.Seen later) past := by
  unfold reconcileVolume
  split
  · exact meets_pure.2 ⟨hpass, hseen⟩
  rename_i pv hpv
  refine (meets_skipVolume hpass (fun _ event h => h.append [event]) hseen).bind ?_
  rintro later skip ⟨hpass', hseen', hskip⟩
  cases skip with
  | true => exact meets_pure.2 ⟨hpass', hseen'⟩
  | false => ?_
  have hat : AtVolume lists now volume current later := ⟨hpass', hskip rfl, hseen'⟩
  refine (meets_reconcileAttachments hat hpv (List.Subset.refl _)).mono ?_
  exact fun last next hlast => ⟨hlast.pass, hlast.seen⟩

theorem meets_reconcileVolumes {order : List String} (hseen : current.Seen past) :
    (reconcileVolumes cfg lists now order current).Meets passContract
      (fun later next => InPass lists now later ∧ next.Seen later) past := by
  induction order generalizing current past with
  | nil => exact meets_pure.2 ⟨hpass, hseen⟩
  | cons volume rest ih =>
    refine (meets_reconcileVolume hpass hseen).bind ?_
    exact fun later next hlater => ih hlater.1 hlater.2

theorem meets_reconcileVolumeAttachment {va : VolumeAttachment} (hmem : va ∈ lists.vas)
    (hseen : SeenAll current stale past) :
    (reconcileVolumeAttachment lists now va stale).Meets passContract
      (fun later next => InPass lists now later ∧ SeenAll current next later) past := by
  unfold reconcileVolumeAttachment
  split
  · exact meets_pure.2 ⟨hpass, hseen⟩
  rename_i hattached
  split
  · exact meets_pure.2 ⟨hpass, hseen⟩
  rename_i source hsource
  refine meets_bind.2 ((meets_skipVolume hpass (fun _ event h => h.append [event]) hseen).mono ?_)
  rintro later skip ⟨hpass', hseen', hskip⟩
  cases skip with
  | true => exact meets_pure.2 ⟨hpass', hseen'⟩
  | false => ?_
  rw [if_neg Bool.false_ne_true]
  split
  · exact meets_pure.2 ⟨hpass', hseen'⟩
  rename_i hindex
  have hsuspect : Suspect lists source.volumeHandle va.name .staleVA :=
    ⟨va, hmem, rfl, by simpa using hattached, source, hsource, rfl, Bool.eq_false_iff.2 hindex⟩
  have hconsidered : Considered later .staleVA va.name now :=
    ⟨lists, source.volumeHandle, hpass', hsuspect, hskip rfl⟩
  refine .perform ⟨hconsidered, trivial⟩ fun answer _ => ?_
  have hpass'' : InPass lists now (later ++ [⟨.due .staleVA va.name now, answer⟩]) :=
    hpass'.concat fun _ _ heq => by cases heq
  have hseen'' : SeenAll current (va.name :: stale)
      (later ++ [⟨.due .staleVA va.name now, answer⟩]) := by
    refine ⟨hseen'.1.append _, fun key hkey => ?_⟩
    rcases mem_cons.1 hkey with rfl | hold
    · exact hconsidered.sighted
    · exact (hseen'.2 key hold).append _
  cases answer with
  | false => exact meets_pure.2 ⟨hpass'', hseen''⟩
  | true => ?_
  refine .perform ⟨⟨now, hpass''.clock, ?_⟩, trivial⟩ fun err _ => ?_
  · exact mem_append_right _ (mem_singleton.2 rfl)
  · exact meets_pure.2 ⟨hpass''.concat (fun _ _ heq => by cases heq), hseen''.append _⟩

theorem meets_reconcileVolumeAttachments {vas : List VolumeAttachment} (hsub : vas ⊆ lists.vas)
    (hseen : SeenAll current stale past) :
    (reconcileVolumeAttachments lists now vas stale).Meets passContract
      (fun later next => InPass lists now later ∧ SeenAll current next later) past := by
  induction vas generalizing stale past with
  | nil => exact meets_pure.2 ⟨hpass, hseen⟩
  | cons va rest ih =>
    have hmem := hsub (mem_cons_self ..)
    refine (meets_reconcileVolumeAttachment hpass hmem hseen).bind ?_
    exact fun later next hlater =>
      ih hlater.1 (fun other hother => hsub (mem_cons_of_mem _ hother)) hlater.2

end Loops

theorem meets_pruneStores (hseen : SeenAll current stale past) :
    (pruneStores current stale).Meets passContract Pruned past := by
  refine .perform ⟨hseen.1.1, trivial⟩ fun _ _ => ?_
  refine .perform ⟨(hseen.append _).2, trivial⟩ fun _ _ => ?_
  refine .perform ⟨((hseen.append _).append _).1.2, trivial⟩ fun _ _ => ?_
  refine meets_pure.2 fun _ store => ?_
  cases store with
  | orphan => exact ⟨current.orphans, by simp⟩
  | staleVA => exact ⟨stale, by simp⟩
  | divergent => exact ⟨current.divergent, by simp⟩

theorem meets_reconcileLists (hlists : lists? past = some lists)
    (hfirst : ∀ event ∈ past, ∀ store current, event.op ≠ .now ∧ event.op ≠ .prune store current) :
    (reconcileLists cfg lists).Meets passContract Pruned past := by
  unfold reconcileLists
  refine .perform ⟨trivial, trivial⟩ fun now _ => ?_
  have hpass : InPass lists now (past ++ [⟨.now, now⟩]) := by
    refine ⟨lists?_append hlists _, ?_, fun store current hmem => ?_⟩
    · -- None of the list calls reads the clock.
      have hnone : clock? past = none := by
        refine findSome?_eq_none_iff.2 fun event hevent => ?_
        obtain ⟨op, ans⟩ := event
        cases op with
        | now => exact absurd rfl (hfirst _ hevent .orphan []).1
        | _ => rfl
      unfold clock? at hnone ⊢
      rw [findSome?_append, hnone]
      rfl
    · rcases mem_append.1 hmem with hold | hnew
      · exact (hfirst _ hold store current).2 rfl
      · cases mem_singleton.1 hnew
  refine .perform ⟨trivial, trivial⟩ fun order _ => ?_
  have hpass' : InPass lists now (past ++ [⟨.now, now⟩] ++ [⟨.rangeKeys _, order⟩]) :=
    hpass.concat fun _ _ heq => by cases heq
  have hempty : ({ orphans := [], divergent := [] } : Current).Seen
      (past ++ [⟨.now, now⟩] ++ [⟨.rangeKeys _, order⟩]) :=
    ⟨fun _ h => absurd h not_mem_nil, fun _ h => absurd h not_mem_nil⟩
  refine (meets_reconcileVolumes hpass' hempty).bind fun later current hlater => ?_
  have hseen : SeenAll current [] later := ⟨hlater.2, fun _ h => absurd h not_mem_nil⟩
  refine (meets_reconcileVolumeAttachments hlater.1 (List.Subset.refl _) hseen).bind ?_
  exact fun last stale hlast => meets_pruneStores hlast.2

theorem reconcileOnce_meets_passContract (cfg : Config) :
    (reconcileOnce cfg).Meets passContract Pruned [] := by
  unfold reconcileOnce
  refine .perform ⟨trivial, trivial⟩ fun attachments _ => ?_
  cases attachments with
  | error err => exact meets_pure.2 fun h => by cases h
  | ok attachments => ?_
  refine .perform ⟨trivial, trivial⟩ fun vas _ => ?_
  cases vas with
  | error err => exact meets_pure.2 fun h => by cases h
  | ok vas => ?_
  refine .perform ⟨trivial, trivial⟩ fun pvs _ => ?_
  cases pvs with
  | error err => exact meets_pure.2 fun h => by cases h
  | ok pvs => ?_
  refine .perform ⟨trivial, trivial⟩ fun pods _ => ?_
  cases pods with
  | error err => exact meets_pure.2 fun h => by cases h
  | ok pods => exact meets_reconcileLists rfl (by simp)

theorem reconcileOnce_meets_graceContract (cfg : Config) :
    (reconcileOnce cfg).Meets graceContract Pruned [] :=
  ((reconcileOnce_meets_passContract cfg).refine (fun _ => True) trivial (fun _ _ _ _ _ => trivial)
    (fun _ _ _ h => h.1) fun _ _ _ _ _ _ => trivial).mono fun _ _ h => h.2

theorem reconcileOnce_meets_detachContract (cfg : Config) :
    (reconcileOnce cfg).Meets detachContract (fun _ _ => True) [] :=
  ((reconcileOnce_meets_passContract cfg).refine (fun _ => True) trivial (fun _ _ _ _ _ => trivial)
    (fun _ _ _ h => h.2) fun _ _ _ _ _ _ => trivial).mono fun _ _ _ => trivial

end Pass

end OpenNebulaCSI.Reconciler
