import OpenNebulaCSI.KubeRuntime.ConfigMaps

/-!
# Names, and keys made of them

The report about a device that a node does not find is kept under a key that joins the name of the
node and the handle of the volume by a dot. Both may contain dots, and several characters of a
handle become an underscore, so two volumes may share a report (`reports_of_two_nodes_clash`).
`localDeviceReports_apart_iff` says when they do not.
-/

namespace OpenNebulaCSI.KubeRuntime

open Go List

def isAlphanumeric (char : Char) : Bool :=
  'a' ≤ char && char ≤ 'z' || '0' ≤ char && char ≤ '9'

/-- A DNS-1123 subdomain. Its labels, between the dots and the ends, start and end with a letter or
a digit. -/
def IsSubdomain (name : String) : Prop :=
  name.length ≤ 253 ∧
    (name.toList.all fun char => isAlphanumeric char || char = '-' || char = '.') ∧
    ('.' :: name.toList ++ ['.']).IsChain fun left right =>
      (left = '.' → isAlphanumeric right) ∧ (right = '.' → isAlphanumeric left)

instance (name : String) : Decidable (IsSubdomain name) := by
  unfold IsSubdomain
  infer_instance

/-! ## The keys of reports -/

def sanitizeLocalDeviceReportKey (value : String) : String :=
  let value := trimSpace value
  if value = "" then "unknown"
  else String.ofList (value.toList.map fun char =>
    if char ∈ ['/', '\\', ':', ' '] then '_' else char)

def localDeviceReportKey (node volumeID : String) : String :=
  sanitizeLocalDeviceReportKey node ++ "." ++ sanitizeLocalDeviceReportKey volumeID

theorem trimSpace_eq_self {s : String} (h : ∀ char ∈ s.toList, isSpace char = false) :
    trimSpace s = s := by
  have hdrop {l : List Char} (hl : ∀ char ∈ l, isSpace char = false) : l.dropWhile isSpace = l := by
    cases l with
    | nil => rfl
    | cons first rest => simp [hl first (mem_cons_self ..)]
  rw [trimSpace, hdrop h, hdrop (by simpa using h), reverse_reverse, String.ofList_toList]

theorem plain_of_isAlphanumeric {char : Char} (h : isAlphanumeric char = true) :
    isSpace char = false ∧ char ∉ ['/', '\\', ':', ' '] := by
  simp [isAlphanumeric, Char.le_def, UInt32.le_iff_toNat_le] at h
  simp [isSpace, Char.ext_iff, UInt32.le_iff_toNat_le, ← UInt32.toNat_inj]
  omega

/-- The name of a node stays as it is. -/
theorem sanitize_of_isSubdomain {name : String} (h : IsSubdomain name) :
    sanitizeLocalDeviceReportKey name = name := by
  obtain ⟨-, hchars, hlabels⟩ := h
  simp only [all_eq_true, Bool.or_eq_true, decide_eq_true_eq] at hchars
  have hplain (char : Char) (hchar : char ∈ name.toList) :
      isSpace char = false ∧ char ∉ ['/', '\\', ':', ' '] := by
    rcases hchars char hchar with (halphanumeric | rfl) | rfl
    · exact plain_of_isAlphanumeric halphanumeric
    · decide
    · decide
  have hne : name ≠ "" := by
    rintro rfl
    simp [isAlphanumeric] at hlabels
  rw [sanitizeLocalDeviceReportKey, trimSpace_eq_self fun char hchar => (hplain char hchar).1,
    if_neg hne, map_congr_left fun char hchar => if_neg (hplain char hchar).2]
  simp

/-- Where a text is cut at one of its separators. -/
theorem append_cons_eq_iff {α : Type} {sep : α} {a b c d : List α} :
    a ++ sep :: b = c ++ sep :: d ↔ (a = c ∧ b = d) ∨
      (∃ rest, c = a ++ sep :: rest ∧ b = rest ++ sep :: d) ∨
      ∃ rest, a = c ++ sep :: rest ∧ d = rest ++ sep :: b := by
  rw [append_eq_append_iff]
  constructor
  · rintro (⟨cut, hc, hb⟩ | ⟨cut, ha, hd⟩)
    · cases cut with
      | nil => exact .inl ⟨by simpa using hc.symm, (cons.inj hb).2⟩
      | cons first rest =>
        obtain ⟨rfl, hrest⟩ := cons.inj hb
        exact .inr (.inl ⟨rest, hc, hrest⟩)
    · cases cut with
      | nil => exact .inl ⟨by simpa using ha, (cons.inj hd).2.symm⟩
      | cons first rest =>
        obtain ⟨rfl, hrest⟩ := cons.inj hd
        exact .inr (.inr ⟨rest, ha, hrest⟩)
  · rintro (⟨rfl, rfl⟩ | ⟨rest, rfl, rfl⟩ | ⟨rest, rfl, rfl⟩)
    · exact .inl ⟨[], by simp⟩
    · exact .inl ⟨sep :: rest, rfl, rfl⟩
    · exact .inr ⟨sep :: rest, rfl, rfl⟩

/-- The key of the second report is that of the first one, cut at a later dot. -/
def CutLater (node volume node' volume' : String) : Prop :=
  ∃ rest, node' = node ++ "." ++ rest ∧
    sanitizeLocalDeviceReportKey volume = rest ++ "." ++ sanitizeLocalDeviceReportKey volume'

theorem localDeviceReportKey_eq_iff {node node' : String} (hnode : IsSubdomain node)
    (hnode' : IsSubdomain node') (volume volume' : String) :
    localDeviceReportKey node volume = localDeviceReportKey node' volume' ↔
      (node = node' ∧ sanitizeLocalDeviceReportKey volume = sanitizeLocalDeviceReportKey volume') ∨
        CutLater node volume node' volume' ∨ CutLater node' volume' node volume := by
  rw [localDeviceReportKey, localDeviceReportKey, sanitize_of_isSubdomain hnode,
    sanitize_of_isSubdomain hnode']
  have hcut {node volume node' volume' : String} : CutLater node volume node' volume' ↔
      ∃ rest, node'.toList = node.toList ++ '.' :: rest ∧
        (sanitizeLocalDeviceReportKey volume).toList =
          rest ++ '.' :: (sanitizeLocalDeviceReportKey volume').toList := by
    constructor
    · rintro ⟨rest, rfl, hvolume⟩
      exact ⟨rest.toList, by simp, by simp [hvolume]⟩
    · rintro ⟨rest, hnode, hvolume⟩
      refine ⟨String.ofList rest, ?_, ?_⟩
      · simp [← String.toList_inj, hnode]
      · simp [← String.toList_inj, hvolume]
  rw [hcut, hcut, ← String.toList_inj, ← String.toList_inj, ← String.toList_inj]
  simpa using append_cons_eq_iff

variable {Report : Type}

/-- The calls that write and clear the report of a volume on a node. -/
def ConfigCall.IsReport (node volume : String) (c : ConfigCall Report) : Prop :=
  c = .deleteConfigMapKey (localDeviceReportKey node volume) ∨
    ∃ mutate, c = .updateLocalDeviceReport (localDeviceReportKey node volume) mutate

/-- The reports of two volumes have different keys, and writing or clearing one leaves the other as
it is, if and only if the keys are not the same or cut at another dot. -/
theorem localDeviceReports_apart_iff (cfg : RuntimeConfig Report) {node node' : String}
    (hnode : IsSubdomain node) (hnode' : IsSubdomain node') (volume volume' : String) :
    (localDeviceReportKey node volume ≠ localDeviceReportKey node' volume' ∧
      ∀ c : ConfigCall Report, c.IsReport node volume → ∀ state,
        value (c.apply cfg state) (localDeviceReportKey node' volume') =
          value state (localDeviceReportKey node' volume')) ↔
    ¬ (node = node' ∧
        sanitizeLocalDeviceReportKey volume = sanitizeLocalDeviceReportKey volume') ∧
      ¬ CutLater node volume node' volume' ∧ ¬ CutLater node' volume' node volume := by
  rw [← not_or, ← not_or, ← localDeviceReportKey_eq_iff hnode hnode']
  refine ⟨And.left, fun hne => ⟨hne, fun c hc state => value_apply_of_not_touches cfg ?_ state⟩⟩
  rcases hc with rfl | ⟨mutate, rfl⟩
  · exact Ne.symm hne
  · exact Ne.symm hne

/-- Two volumes of one node. -/
theorem reports_of_two_volumes_apart :
    localDeviceReportKey "n1" "v1" ≠ localDeviceReportKey "n1" "v2" ∧
      ∀ c : ConfigCall String, c.IsReport "n1" "v1" → ∀ state,
        value (c.apply textConfig state) (localDeviceReportKey "n1" "v2") =
          value state (localDeviceReportKey "n1" "v2") := by
  have hcut {volume volume' : String} : ¬ CutLater "n1" volume "n1" volume' := by
    rintro ⟨rest, hnode, -⟩
    simpa using congrArg String.toList hnode
  exact (localDeviceReports_apart_iff textConfig (by decide +kernel) (by decide +kernel) _ _).2
    ⟨by decide +kernel, hcut, hcut⟩

/-- The report of volume "b.c" on node "a" is that of volume "c" on node "a.b": whoever clears one
clears the other. -/
theorem reports_of_two_nodes_clash :
    IsSubdomain "a" ∧ IsSubdomain "a.b" ∧
      localDeviceReportKey "a" "b.c" = localDeviceReportKey "a.b" "c" ∧
      value ((ConfigCall.deleteConfigMapKey (localDeviceReportKey "a" "b.c")).apply textConfig
        (some fun _ => some "report")) (localDeviceReportKey "a.b" "c") = none := by
  decide +kernel

end OpenNebulaCSI.KubeRuntime
