import OpenNebulaCSI.Provider.Images

/-!
# Paths of static CephFS volumes

A storage class may name a path below the root path of its datastore. `normalizeSharedSubpath`
cleans both, but before it looks at the request: `cleanSharedPath` has put a slash in front of a
relative path, so that the branch for relative paths is dead. What it accepts leads, from the root
of the file system, to the root path of the datastore or below it. But a relative request is not
joined to the root path, and it may be returned with dots in it.
-/

namespace OpenNebulaCSI.Provider

open Go Controller List

def cleanSharedPath (value : String) : String :=
  let trimmed := trimSpace value
  if trimmed = "" then ""
  else
    let cleaned := Path.clean trimmed
    if hasPrefix cleaned "/" then cleaned else "/" ++ cleaned

def normalizeSharedSubpath (rootPath requestedPath : String) : Except ProviderError String :=
  let root := cleanSharedPath rootPath
  let requested := cleanSharedPath requestedPath
  if requested = "" then
    .error (.datastoreConfig (.plain "sharedFilesystemPath cannot be empty"))
  else if hasPrefix requested "/" then
    if root = "" ∨ root = "/" then .ok requested
    else if requested = root ∨ hasPrefix requested (root ++ "/") then .ok requested
    else
      .error (.datastoreConfig (.plain ("sharedFilesystemPath \"" ++ requested ++
        "\" must stay under datastore root path \"" ++ root ++ "\"")))
  else .ok (cleanSharedPath (Path.join (if root = "" then "/" else root) requested))

/-! ## Cleaned paths -/

variable {path : String}

theorem cleanSharedPath_eq (hpath : trimSpace path ≠ "") :
    ∃ dots, Path.Cleaned dots (Path.resolve (trimSpace path)) ∧
      cleanSharedPath path = "/" ++ joinWith "/" (dots ++ Path.resolve (trimSpace path)) ∧
      Path.CleansTo (trimSpace path) dots := by
  obtain ⟨dots, hcleaned, hcleans⟩ := Path.exists_cleansTo (trimSpace path)
  refine ⟨dots, hcleaned, ?_, hcleans⟩
  simp only [cleanSharedPath, if_neg hpath]
  rcases hcleans with ⟨hrooted, rfl⟩ | ⟨-, hne, hclean, -⟩
  · rw [Path.clean_of_rooted hrooted, if_pos (hasPrefix_append _ _), nil_append]
  rw [hclean, if_neg]
  -- The first component of a cleaned relative path is not empty.
  intro hslash
  obtain ⟨rest, hrest⟩ := hasPrefix_iff.1 hslash
  have hsplit := split_joinWith hne hcleaned.noSlash
  rw [hrest, split_slash_append] at hsplit
  exact hcleaned.empty_notMem (hsplit ▸ mem_cons_self)

theorem resolve_cleanSharedPath (path : String) :
    Path.resolve (cleanSharedPath path) = Path.resolve (trimSpace path) := by
  by_cases hpath : trimSpace path = ""
  · simp [cleanSharedPath, hpath]
  · obtain ⟨dots, hcleaned, hclean, -⟩ := cleanSharedPath_eq hpath
    rw [hclean, hcleaned.resolve_eq]

theorem trimSpace_ne_of_clean (h : cleanSharedPath path ≠ "") : trimSpace path ≠ "" := by
  intro hempty
  simp [cleanSharedPath, hempty] at h

theorem hasPrefix_cleanSharedPath (h : cleanSharedPath path ≠ "") :
    hasPrefix (cleanSharedPath path) "/" = true := by
  obtain ⟨dots, -, hclean, -⟩ := cleanSharedPath_eq (trimSpace_ne_of_clean h)
  rw [hclean]
  exact hasPrefix_append _ _

/-- The root path does not keep the request out. -/
def Covers (root requested : String) : Prop :=
  cleanSharedPath root = "" ∨ cleanSharedPath root = "/" ∨
    cleanSharedPath requested = cleanSharedPath root ∨
    hasPrefix (cleanSharedPath requested) (cleanSharedPath root ++ "/") = true

variable {root requested : String}

theorem normalizeSharedSubpath_eq_ok :
    normalizeSharedSubpath root requested = .ok path ↔
      path = cleanSharedPath requested ∧ path ≠ "" ∧ Covers root requested := by
  unfold normalizeSharedSubpath Covers
  dsimp only
  by_cases hempty : cleanSharedPath requested = ""
  · rw [if_pos hempty]
    refine ⟨nofun, ?_⟩
    rintro ⟨rfl, hne, -⟩
    exact absurd hempty hne
  rw [if_neg hempty, if_pos (hasPrefix_cleanSharedPath hempty), ← or_assoc]
  have hok : Except.ok (cleanSharedPath requested) = (.ok path : Except ProviderError String) ↔
      path = cleanSharedPath requested ∧ path ≠ "" := by
    rw [Except.ok.injEq, eq_comm]
    refine ⟨fun h => ⟨h, h ▸ hempty⟩, And.left⟩
  rw [← and_assoc, ← hok]
  split
  · rename_i hroot
    simp only [hroot, true_or, and_true]
  rename_i hroot
  split
  · rename_i hbelow
    simp only [hbelow, or_true, and_true]
  · rename_i hbelow
    simp only [hroot, hbelow, or_self, and_false, reduceCtorEq]

/-! ## Containment -/

/-- Whatever a storage class requests, the path it gets leads to the root path of the datastore or
to a place below it. -/
theorem sharedSubpath_below_root {root requested path : String}
    (h : normalizeSharedSubpath root requested = .ok path) :
    Path.resolve (trimSpace root) <+: Path.resolve path := by
  obtain ⟨rfl, hne, hcovers⟩ := normalizeSharedSubpath_eq_ok.1 h
  rw [← resolve_cleanSharedPath root]
  rcases hcovers with hroot | hroot | hsame | hbelow
  · rw [hroot]
    exact nil_prefix
  · rw [hroot]
    exact nil_prefix
  · exact hsame ▸ prefix_rfl
  by_cases hblank : trimSpace root = ""
  · rw [resolve_cleanSharedPath, hblank]
    exact nil_prefix
  obtain ⟨rest, hrest⟩ := hasPrefix_iff.1 hbelow
  obtain ⟨dots, hcleaned, hroot, -⟩ := cleanSharedPath_eq hblank
  obtain ⟨dots', hcleaned', hrequested, -⟩ := cleanSharedPath_eq (trimSpace_ne_of_clean hne)
  rw [resolve_cleanSharedPath, resolve_cleanSharedPath]
  exact hcleaned.names_prefix hcleaned' (by rw [← hrequested, ← hroot, ← hrest])

theorem sharedSubpath_below_data :
    Path.resolve (trimSpace "/data") <+: Path.resolve "/data/a" := by
  have hok : normalizeSharedSubpath "/data" " /data/./a//b/.. " = .ok "/data/a" := by
    decide +kernel
  exact sharedSubpath_below_root hok

/-! ## Relative requests -/

def IsRelative (requested : String) : Prop :=
  trimSpace requested ≠ "" ∧ hasPrefix (trimSpace requested) "/" = false

/-- An absolute path as `Clean` returns it, without dots. -/
def Canonical (path : String) : Prop :=
  hasPrefix path "/" = true ∧ Path.clean path = path ∧ Path.Dotless path

theorem canonical_iff {dots names : List String} (h : Path.Cleaned dots names) :
    Canonical ("/" ++ joinWith "/" (dots ++ names)) ↔ dots = [] := by
  unfold Canonical
  rw [h.dotless_iff]
  refine ⟨fun hcanonical => hcanonical.2.2, ?_⟩
  rintro rfl
  have hrooted := hasPrefix_append "/" (joinWith "/" ([] ++ names))
  exact ⟨hrooted, by rw [Path.clean_of_rooted hrooted, h.resolve_eq, nil_append], rfl⟩

/-- The root path, or the root of the file system if there is none. -/
def rootOrSlash (root : String) : String :=
  if cleanSharedPath root = "" then "/" else cleanSharedPath root

/-- The request is accepted as the path of the join, which is below the root path. -/
def Joined (root requested : String) : Prop :=
  ∃ path, normalizeSharedSubpath root requested = .ok path ∧
    path = Path.join (rootOrSlash root) (trimSpace requested) ∧
    Path.resolve (trimSpace root) <+: Path.resolve path

theorem join_rootOrSlash (root path : String) :
    Path.join (rootOrSlash root) path =
      "/" ++ joinWith "/" (Path.resolve (rootOrSlash root ++ "/" ++ path)) := by
  have hrooted : hasPrefix (rootOrSlash root) "/" = true := by
    unfold rootOrSlash
    split
    · decide
    · rename_i hne
      exact hasPrefix_cleanSharedPath hne
  obtain ⟨rest, hrest⟩ := hasPrefix_iff.1 hrooted
  rw [hrest, Path.join, if_neg (by simp)]
  refine Path.clean_of_rooted (hasPrefix_iff.2 ⟨rest ++ "/" ++ path, ?_⟩)
  simp only [String.append_assoc]

theorem Covers.dotless (h : Covers root requested) (hempty : cleanSharedPath root ≠ "")
    (hslash : cleanSharedPath root ≠ "/") (hdotless : Path.Dotless (cleanSharedPath requested)) :
    Path.Dotless (cleanSharedPath root) := by
  have hparts : split '/' (cleanSharedPath root) ⊆ split '/' (cleanSharedPath requested) := by
    rcases h with hroot | hroot | hsame | hbelow
    · exact absurd hroot hempty
    · exact absurd hroot hslash
    · rw [hsame]
      exact List.Subset.refl _
    · obtain ⟨rest, hrest⟩ := hasPrefix_iff.1 hbelow
      rw [hrest, split_append_slash]
      exact subset_append_left _ _
  exact ⟨fun hdot => hdotless.1 (hparts hdot), fun hdot => hdotless.2 (hparts hdot)⟩

/-- A relative request without dots is joined to the root path only if that is the root of the file
system. -/
theorem joined_iff (hcleaned : Path.Cleaned [] (Path.resolve (trimSpace requested)))
    (hclean : cleanSharedPath requested =
      "/" ++ joinWith "/" ([] ++ Path.resolve (trimSpace requested)))
    (hbase : ∀ base, Path.resolve (base ++ "/" ++ trimSpace requested) =
      Path.resolve base ++ Path.resolve (trimSpace requested)) :
    Joined root requested ↔ cleanSharedPath root = "" ∨ cleanSharedPath root = "/" := by
  unfold Joined
  simp only [normalizeSharedSubpath_eq_ok, join_rootOrSlash, hbase]
  constructor
  · rintro ⟨path, ⟨rfl, -, hcovers⟩, hjoin, -⟩
    by_contra hroot
    obtain ⟨hempty, hslash⟩ := not_or.1 hroot
    -- The join has as many names as the request, so the root path has none and is one of dots.
    have hnames : Path.resolve (cleanSharedPath root) = [] := by
      have hall : Path.Cleaned [] (Path.resolve (cleanSharedPath root) ++
          Path.resolve (trimSpace requested)) :=
        ⟨.inr ⟨0, rfl⟩, fun name hname => (mem_append.1 hname).elim
          Path.isName_of_mem_resolve Path.isName_of_mem_resolve⟩
      have hresolve := congrArg Path.resolve hjoin
      rw [rootOrSlash, if_neg hempty, ← nil_append (_ ++ _), hall.resolve_eq,
        resolve_cleanSharedPath] at hresolve
      exact self_eq_append_left.1 hresolve
    have hdotless := hcovers.dotless hempty hslash <| by
      rw [hclean]
      exact hcleaned.dotless_iff.2 rfl
    obtain ⟨dots, hdots, heq, -⟩ := cleanSharedPath_eq (trimSpace_ne_of_clean hempty)
    rw [heq] at hdotless
    rw [hdots.dotless_iff.1 hdotless, ← resolve_cleanSharedPath, hnames] at heq
    exact hslash (heq.trans (by decide))
  · intro hroot
    have hslash : rootOrSlash root = "/" := by
      unfold rootOrSlash
      rcases hroot with hempty | hslash
      · rw [if_pos hempty]
      · rw [hslash, if_neg (by decide)]
    have hnil : Path.resolve (trimSpace root) = [] := by
      rw [← resolve_cleanSharedPath]
      rcases hroot with h | h
      · rw [h]
        decide
      · rw [h]
        decide
    refine ⟨_, ⟨rfl, ?_, hroot.imp_right .inl⟩, ?_, by rw [hnil]; exact nil_prefix⟩
    · rw [hclean]
      simp
    · rw [hslash, hclean, show Path.resolve "/" = [] by decide]

/-- A relative request is joined to the root path, unless it leads above its start, and all that is
accepted is canonical, if and only if the root path is the root of the file system and something is
left of the request, or, for a request that leads above its start, if the root path keeps it out. -/
theorem normalizeSharedSubpath_joins_iff (root requested : String) :
    (IsRelative requested → hasPrefix (Path.clean (trimSpace requested)) ".." = false →
        Joined root requested) ∧
      (∀ path, normalizeSharedSubpath root requested = .ok path → Canonical path) ↔
    (IsRelative requested → if hasPrefix (Path.clean (trimSpace requested)) ".." = true then
        ".." ∈ split '/' (Path.clean (trimSpace requested)) → ¬ Covers root requested
      else Path.clean (trimSpace requested) ≠ "." ∧
        (cleanSharedPath root = "" ∨ cleanSharedPath root = "/")) := by
  by_cases hblank : trimSpace requested = ""
  · have hrelative : ¬ IsRelative requested := fun h => h.1 hblank
    simp [hrelative, normalizeSharedSubpath_eq_ok, cleanSharedPath, hblank]
  obtain ⟨dots, hcleaned, hclean, hcases⟩ := cleanSharedPath_eq hblank
  have hcanonical : (∀ path, normalizeSharedSubpath root requested = .ok path → Canonical path) ↔
      (Covers root requested → dots = []) := by
    have hne : cleanSharedPath requested ≠ "" := by simp [hclean]
    simp [normalizeSharedSubpath_eq_ok, hne, ← canonical_iff hcleaned, ← hclean]
  rw [hcanonical]
  rcases hcases with ⟨hrooted, rfl⟩ | ⟨hrelative, hne, hcl, hbase⟩
  · simp [IsRelative, hrooted]
  have hsplit := split_joinWith hne hcleaned.noSlash
  rw [← hcl] at hsplit
  simp only [IsRelative, hrelative, hblank, ne_eq, not_false_eq_true, and_self, forall_const]
  rcases hcleaned.dots with ⟨rfl, hnil⟩ | ⟨n, rfl⟩
  · -- The request is the dot, which is returned or refused, but never joined.
    rw [hnil] at hcl
    have hdot : Path.clean (trimSpace requested) = "." := hcl.trans (by decide)
    rw [hdot]
    refine iff_of_false ?_ (by simp [show hasPrefix "." ".." = false by decide])
    rintro ⟨hjoined, hcovers⟩
    obtain ⟨path, hok, -⟩ := hjoined (by decide)
    exact absurd (hcovers (normalizeSharedSubpath_eq_ok.1 hok).2.2) (by simp)
  cases n with
  | succ n =>
    -- The request leads above its start.
    have hup : ".." ∈ split '/' (Path.clean (trimSpace requested)) := by
      rw [hsplit]
      simp [replicate_succ]
    have hpre : hasPrefix (Path.clean (trimSpace requested)) ".." = true := by
      rw [hcl]
      exact hasPrefix_joinWith ".." _
    simp [hup, hpre]
  | zero => ?_
  rw [replicate_zero, nil_append] at hsplit
  have hup : ".." ∉ split '/' (Path.clean (trimSpace requested)) := by
    rw [hsplit]
    exact fun hmem => (hcleaned.names ".." hmem).ne_dots rfl
  have hdot : Path.clean (trimSpace requested) ≠ "." := by
    intro hdot
    rw [hdot, show split '/' "." = ["."] by decide] at hsplit
    exact (hcleaned.names "." (hsplit ▸ mem_singleton_self _)).ne_dot rfl
  rw [joined_iff hcleaned hclean (hbase rfl)]
  cases hpre : hasPrefix (Path.clean (trimSpace requested)) ".." with
  | true => simp [hup]
  | false => simp [hdot]

/-- Below the root path "/data" the request "sub" is refused, and without a root path "../x" is
accepted as it is. -/
theorem relative_request_not_joined :
    normalizeSharedSubpath "/data" "sub" = .error (.datastoreConfig (.plain
      "sharedFilesystemPath \"/sub\" must stay under datastore root path \"/data\"")) ∧
    Path.join "/data" "sub" = "/data/sub" ∧
    normalizeSharedSubpath "" "../x" = .ok "/../x" := by
  decide +kernel

end OpenNebulaCSI.Provider
