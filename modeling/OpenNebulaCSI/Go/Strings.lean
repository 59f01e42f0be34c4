import Mathlib.Data.List.Basic
import Mathlib.Data.List.TakeWhile

/-!
# Go's string helpers

The functions of Go's `strings` package that the driver uses, on Lean strings (sequences of code
points), and string maps with Go's default for a missing key.
-/

namespace OpenNebulaCSI.Go

open List

/-- `unicode.IsSpace`. -/
def isSpace (c : Char) : Bool :=
  c = ' ' || c = '\t' || c = '\n' || c.val = 0x0B || c.val = 0x0C || c = '\r' ||
    c.val = 0x85 || c.val = 0xA0 || c.val = 0x1680 || (0x2000 ≤ c.val && c.val ≤ 0x200A) ||
    c.val = 0x2028 || c.val = 0x2029 || c.val = 0x202F || c.val = 0x205F || c.val = 0x3000

/-- `strings.TrimSpace`. -/
def trimSpace (s : String) : String :=
  String.ofList (((s.toList.dropWhile isSpace).reverse.dropWhile isSpace).reverse)

/-- `strings.Trim(s, "-")`. -/
def trimDashes (s : String) : String :=
  String.ofList (((s.toList.dropWhile (· = '-')).reverse.dropWhile (· = '-')).reverse)

/-- `strings.HasPrefix`. -/
def hasPrefix (s start : String) : Bool :=
  start.toList.isPrefixOf s.toList

/-- `strings.Contains`. -/
def contains (s part : String) : Bool :=
  s.toList.tails.any (part.toList.isPrefixOf ·)

/-- `strings.EqualFold`, for a choice of representatives of the case-folding classes. -/
def equalFoldBy (fold : Char → Char) (s t : String) : Bool :=
  s.toList.map fold == t.toList.map fold

/-- `strings.EqualFold` between ASCII strings. -/
def equalFold (s t : String) : Bool :=
  equalFoldBy Char.toLower s t

/-- The case tables of the Unicode version Go is built with: a representative of each case-folding
class, and the lower-case letter of each letter. -/
structure CaseTables where
  fold : Char → Char
  lower : Char → Char

namespace CaseTables

/-- The tables on ASCII letters. -/
def ascii : CaseTables where
  fold := Char.toLower
  lower := Char.toLower

variable (tables : CaseTables)

/-- `strings.EqualFold`. -/
def equalFold (s t : String) : Bool :=
  equalFoldBy tables.fold s t

/-- `strings.ToLower`. -/
def toLower (s : String) : String :=
  String.ofList (s.toList.map tables.lower)

/-- `strings.Contains` of the lower-case strings. -/
def containsLower (s part : String) : Bool :=
  contains (tables.toLower s) (tables.toLower part)

end CaseTables

theorem dropWhile_of_isPrefix {α : Type} {p : α → Bool} {part rest : List α}
    (h : part <+: rest.dropWhile p) : part.dropWhile p = part := by
  cases part with
  | nil => rfl
  | cons first tail => ?_
  obtain ⟨after, hafter⟩ := h
  have hne : rest.dropWhile p ≠ [] := by simp [← hafter]
  have hfirst : p first = false := by
    simpa [← hafter] using head_dropWhile_not p hne
  simp [hfirst]

@[simp]
theorem trimSpace_trimSpace (s : String) : trimSpace (trimSpace s) = trimSpace s := by
  have hleft : ((s.toList.dropWhile isSpace).reverse.dropWhile isSpace).reverse <+:
      s.toList.dropWhile isSpace := by
    simpa using reverse_prefix.2
      (dropWhile_suffix isSpace (l := (s.toList.dropWhile isSpace).reverse))
  simp only [trimSpace, String.toList_ofList]
  rw [dropWhile_of_isPrefix hleft, reverse_reverse, dropWhile_of_isPrefix prefix_rfl]

theorem trimSpace_ne_empty {s : String} {c : Char} (hc : c ∈ s.toList)
    (hspace : isSpace c = false) :
    trimSpace s ≠ "" := by
  intro hempty
  have hnil : (s.toList.dropWhile isSpace).reverse.dropWhile isSpace = [] := by
    simpa [trimSpace] using congrArg String.toList hempty
  have hall : ∀ x ∈ s.toList.dropWhile isSpace, isSpace x = true := by
    simpa [dropWhile_eq_nil_iff] using hnil
  cases hrest : s.toList.dropWhile isSpace with
  | nil =>
    have := dropWhile_eq_nil_iff.1 hrest c hc
    simp [hspace] at this
  | cons first rest => ?_
  have hne : s.toList.dropWhile isSpace ≠ [] := by simp [hrest]
  have hfirst := head_dropWhile_not isSpace hne
  rw [hall _ (head_mem hne)] at hfirst
  cases hfirst

theorem hasPrefix_append (start s : String) : hasPrefix (start ++ s) start = true := by
  simp [hasPrefix]

/-- A Go `map[string]string`, as the list of its entries with the latest first. -/
abbrev StringMap :=
  List (String × String)

namespace StringMap

/-- `m[key]`, which is empty when the key is absent. -/
def get (m : StringMap) (key : String) : String :=
  (m.lookup key).getD ""

/-- `m[key] = value`. -/
def set (m : StringMap) (key value : String) : StringMap :=
  (key, value) :: m

theorem lookup_set (m : StringMap) (key value key' : String) :
    (m.set key value).lookup key' = if key' = key then some value else m.lookup key' := by
  by_cases h : key' = key
  · simp [set, h]
  · simp [set, lookup_cons, beq_false_of_ne h, h]

/-- `m[key] = value` for one entry after the other. -/
def setAll (m : StringMap) (entries : List (String × String)) : StringMap :=
  entries.foldl (fun m entry => m.set entry.1 entry.2) m

theorem lookup_setAll {entries : List (String × String)} {m : StringMap} {key : String}
    (h : key ∉ entries.map Prod.fst) : (m.setAll entries).lookup key = m.lookup key := by
  induction entries generalizing m with
  | nil => rfl
  | cons entry rest ih =>
    rw [map_cons, mem_cons, not_or] at h
    show ((m.set entry.1 entry.2).setAll rest).lookup key = m.lookup key
    rw [ih h.2, lookup_set, if_neg h.1]

theorem lookup_setAll_of_mem {entries : List (String × String)} {m : StringMap}
    (hnodup : (entries.map Prod.fst).Nodup) {entry : String × String} (h : entry ∈ entries) :
    (m.setAll entries).lookup entry.1 = some entry.2 := by
  induction entries generalizing m with
  | nil => cases h
  | cons first rest ih =>
    rw [map_cons, nodup_cons] at hnodup
    show ((m.set first.1 first.2).setAll rest).lookup entry.1 = some entry.2
    rcases mem_cons.1 h with rfl | hrest
    · rw [lookup_setAll hnodup.1, lookup_set, if_pos rfl]
    · exact ih hnodup.2 hrest

end StringMap

/-! ## Numbers in texts

`strconv.Atoi` and `strconv.Itoa` for the 64-bit `int` of Go.
-/

/-- The largest `int`, which has 63 bits beside the sign. -/
def maxInt : ℕ :=
  9223372036854775807

/-- The value of a non-empty sequence of decimal digits. -/
def digits? (digits : List Char) : Option ℕ :=
  if digits ≠ [] ∧ digits.all Char.isDigit then some (Nat.ofDigitChars 10 digits 0) else none

/-- `strconv.Atoi`, and `strconv.ParseInt` in base 10 with 64 bits. -/
def atoi (s : String) : Option Int :=
  match s.toList with
  | '-' :: digits =>
    (digits? digits).bind fun n => if n ≤ maxInt + 1 then some (-(n : Int)) else none
  | '+' :: digits => (digits? digits).bind fun n => if n ≤ maxInt then some (n : Int) else none
  | digits => (digits? digits).bind fun n => if n ≤ maxInt then some (n : Int) else none

/-- `strconv.Itoa`. -/
def itoa (n : Int) : String :=
  toString n

theorem isDigit_of_mem_toDigits {n : ℕ} {c : Char} (h : c ∈ Nat.toDigits 10 n) :
    c.isDigit = true :=
  Nat.isDigit_of_mem_toDigits (by decide) (by decide) h

theorem toList_itoa (n : ℕ) : (itoa n).toList = Nat.toDigits 10 n := by
  show (toString n).toList = Nat.toDigits 10 n
  rw [Nat.toString_eq_ofList_toDigits, String.toList_ofList]

theorem digits?_toDigits (n : ℕ) : digits? (Nat.toDigits 10 n) = some n := by
  have hne : Nat.toDigits 10 n ≠ [] := Nat.toDigits_ne_nil
  have hall : (Nat.toDigits 10 n).all Char.isDigit = true := by
    rw [List.all_eq_true]
    intro c hc
    exact isDigit_of_mem_toDigits hc
  rw [digits?, if_pos ⟨hne, hall⟩, Nat.ofDigitChars_toDigits (by decide) (by decide)]

theorem atoi_itoa {n : ℕ} (h : n ≤ maxInt) : atoi (itoa n) = some (n : Int) := by
  have hdigits := digits?_toDigits n
  unfold atoi
  rw [toList_itoa]
  split
  · -- A decimal numeral does not start with a sign.
    rename_i digits hlist
    have hminus := isDigit_of_mem_toDigits (hlist ▸ List.mem_cons_self ..)
    exact absurd hminus (by decide)
  · rename_i digits hlist
    have hplus := isDigit_of_mem_toDigits (hlist ▸ List.mem_cons_self ..)
    exact absurd hplus (by decide)
  · rw [hdigits, Option.bind_some, if_pos h]

theorem itoa_ne_empty (n : ℕ) : itoa n ≠ "" := by
  intro hempty
  have hnil : Nat.toDigits 10 n = [] := by rw [← toList_itoa, hempty, String.toList_empty]
  exact Nat.toDigits_ne_nil hnil

theorem isSpace_of_isDigit {c : Char} (h : c.isDigit = true) : isSpace c = false := by
  have hspaces : ∀ n < 10, isSpace (Nat.digitChar n) = false := by decide
  obtain ⟨hlow, hhigh⟩ : 48 ≤ c.toNat ∧ c.toNat ≤ 57 := by
    simpa [Char.isDigit, UInt32.le_iff_toNat_le] using h
  have hvalue : c.toNat - 48 < 10 := by omega
  have htoNat : (Nat.digitChar (c.toNat - 48)).toNat = c.toNat := by
    rw [Nat.toNat_digitChar_of_lt_ten hvalue]
    omega
  have hdigit := hspaces _ hvalue
  rwa [Char.toNat_inj.1 htoNat] at hdigit

theorem trimSpace_itoa_ne_empty (n : ℕ) : trimSpace (itoa n) ≠ "" := by
  have hne : Nat.toDigits 10 n ≠ [] := Nat.toDigits_ne_nil
  obtain ⟨c, hc⟩ := List.exists_mem_of_ne_nil _ hne
  have hmem : c ∈ (itoa n).toList := by rwa [toList_itoa]
  exact trimSpace_ne_empty hmem (isSpace_of_isDigit (isDigit_of_mem_toDigits hc))

/-! ## Go's `filepath` helpers

`filepath.Clean`, `Base`, `Dir` and `Join` on Unix, where a path is a string of components separated
by slashes. `Clean` works lexically on a stack of components.
-/

/-- `strings.Split` by a single character. -/
def split (sep : Char) (s : String) : List String :=
  (s.toList.splitOn sep).map String.ofList

/-- `strings.Join`. -/
def joinWith (sep : String) (parts : List String) : String :=
  String.ofList (List.intercalate sep.toList (parts.map String.toList))

namespace Path

/-- The components of a cleaned path; the stack has the last component first. -/
def cleanParts (rooted : Bool) : List String → List String → List String
  | stack, [] => stack.reverse
  | stack, part :: rest =>
    if part = "" ∨ part = "." then cleanParts rooted stack rest
    else if part = ".." then
      match stack with
      | [] => cleanParts rooted (if rooted then [] else [".."]) rest
      | top :: below =>
        if top = ".." then cleanParts rooted (".." :: stack) rest
        else cleanParts rooted below rest
    else cleanParts rooted (part :: stack) rest

/-- `filepath.Clean`. -/
def clean (path : String) : String :=
  let rooted := hasPrefix path "/"
  let body := joinWith "/" (cleanParts rooted [] (split '/' path))
  if rooted then "/" ++ body else if body = "" then "." else body

/-- `filepath.Base`: the last component, without trailing slashes. -/
def base (path : String) : String :=
  if path = "" then "."
  else (((split '/' path).filter fun part => part ≠ "").getLast?).getD "/"

/-- `filepath.Dir`: what stands before the last component, cleaned. -/
def dir (path : String) : String :=
  clean (String.ofList ((path.toList.reverse.dropWhile fun c => c ≠ '/').reverse))

/-- `filepath.Join` of two elements. -/
def join (first second : String) : String :=
  if first = "" then (if second = "" then "" else clean second)
  else clean (first ++ "/" ++ second)

example : clean "/a/./b//../c/" = "/a/c" := by decide +kernel

example : base (dir "/plugins/cephfs:v/globalmount") = "cephfs:v" := by decide +kernel

end Path

/-! ## Paths as lists of names

What `Clean` leaves of a path: some `..` at the start of a relative path, and then names. Started at
the root of the file system, where `..` stays, a path leads to the same names before and after it
has been cleaned (`exists_cleansTo`).
-/

theorem hasPrefix_iff {s start : String} :
    hasPrefix s start = true ↔ ∃ rest, s = start ++ rest := by
  constructor
  · intro h
    obtain ⟨rest, hrest⟩ := isPrefixOf_iff_prefix.1 h
    exact ⟨String.ofList rest, String.toList_inj.1 (by simp [hrest])⟩
  · rintro ⟨rest, rfl⟩
    exact hasPrefix_append start rest

theorem split_append_slash (first second : String) :
    split '/' (first ++ "/" ++ second) = split '/' first ++ split '/' second := by
  simp [split, splitOn_append_cons_self]

theorem split_slash_append (s : String) : split '/' ("/" ++ s) = "" :: split '/' s := by
  have hempty : split '/' "" = [""] := by decide
  have happend := split_append_slash "" s
  rwa [hempty, String.empty_append, singleton_append] at happend

theorem notMem_of_mem_splitOn {sep : Char} {text part : List Char}
    (h : part ∈ text.splitOn sep) : sep ∉ part := by
  induction text generalizing part with
  | nil => simp_all
  | cons c rest ih =>
    rw [splitOn_cons_eq_if_modifyHead] at h
    split at h
    · rcases mem_cons.1 h with rfl | hrest
      · exact not_mem_nil
      · exact ih hrest
    cases hsplit : rest.splitOn sep with
    | nil => exact absurd hsplit (splitOn_ne_nil _ _)
    | cons first others => ?_
    rw [hsplit] at h ih
    rcases mem_cons.1 h with rfl | hother
    · have hfirst := ih mem_cons_self
      rename_i hne
      exact fun hmem => (mem_cons.1 hmem).elim (fun h => hne (by simp [h])) hfirst
    · exact ih (mem_cons_of_mem _ hother)

theorem split_joinWith {parts : List String} (hne : parts ≠ [])
    (hparts : ∀ part ∈ parts, '/' ∉ part.toList) : split '/' (joinWith "/" parts) = parts := by
  have hsplit : (['/'].intercalate (parts.map String.toList)).splitOn '/' =
      parts.map String.toList :=
    splitOn_intercalate '/' (by simpa using hparts) (by simpa using hne)
  simp [split, joinWith, hsplit, Function.comp_def]

theorem hasPrefix_joinWith (first : String) (rest : List String) :
    hasPrefix (joinWith "/" (first :: rest)) first = true := by
  refine isPrefixOf_iff_prefix.2 ?_
  cases rest with
  | nil => simp [joinWith]
  | cons second others => simp [joinWith, List.intercalate]

namespace Path

/-- A component that leads into a directory. -/
structure IsName (part : String) : Prop where
  ne_empty : part ≠ ""
  ne_dot : part ≠ "."
  ne_dots : part ≠ ".."
  noSlash : '/' ∉ part.toList

/-- Where a path leads from the root of the file system. -/
def resolve (path : String) : List String :=
  cleanParts true [] (split '/' path)

variable {rooted : Bool} {stack names rest : List String} {part : String}

theorem cleanParts_skip (h : part = "" ∨ part = ".") :
    cleanParts rooted stack (part :: rest) = cleanParts rooted stack rest := by
  rw [cleanParts.eq_def]
  exact if_pos h

theorem cleanParts_up_nil (n : ℕ) :
    cleanParts false (List.replicate n "..") (".." :: rest) =
      cleanParts false (List.replicate (n + 1) "..") rest := by
  cases n with
  | zero => rfl
  | succ n => rfl

theorem cleanParts_up_name (h : IsName part) :
    cleanParts rooted (part :: stack) (".." :: rest) = cleanParts rooted stack rest := by
  rw [cleanParts.eq_def]
  exact if_neg h.ne_dots

theorem cleanParts_name (h : IsName part) :
    cleanParts rooted stack (part :: rest) = cleanParts rooted (part :: stack) rest := by
  rw [cleanParts.eq_def]
  exact (if_neg (by simp [h.ne_empty, h.ne_dot])).trans (if_neg h.ne_dots)

theorem cleanParts_append (first : List String) :
    cleanParts rooted stack (first ++ rest) =
      cleanParts rooted (cleanParts rooted stack first).reverse rest := by
  induction first generalizing stack with
  | nil => simp [cleanParts]
  | cons part parts ih =>
    rw [cons_append, cleanParts.eq_def, cleanParts.eq_def rooted stack (part :: parts)]
    dsimp only
    split
    · exact ih
    split
    · split
      · exact ih
      · split
        · exact ih
        · exact ih
    · exact ih

/-- What is left of a path after names and `n` unresolved `..`: the same names with and without the
root, after `m` unresolved `..`. If there are none, the names are reached from every directory. -/
structure Leaves (names : List String) (n : ℕ) (parts : List String) (m : ℕ) (left : List String) :
    Prop where
  isName : ∀ name ∈ left, IsName name
  le : n ≤ m
  rooted : cleanParts true names parts = left
  free : cleanParts false (names ++ List.replicate n "..") parts = List.replicate m ".." ++ left
  base : m = 0 → ∀ base, cleanParts true (names ++ base) parts = base.reverse ++ left

/-- The rest of the path goes on from another stack of names over the unresolved `..`. -/
theorem Leaves.cons {left : List String} {n k m : ℕ} (h : Leaves stack k rest m left) (hk : n ≤ k)
    (hfree : cleanParts false (names ++ List.replicate n "..") (part :: rest) =
      cleanParts false (stack ++ List.replicate k "..") rest)
    (hrooted : cleanParts true names (part :: rest) = cleanParts true stack rest)
    (hbase : k = 0 → ∀ base, cleanParts true (names ++ base) (part :: rest) =
      cleanParts true (stack ++ base) rest) : Leaves names n (part :: rest) m left where
  isName := h.isName
  le := hk.trans h.le
  rooted := hrooted.trans h.rooted
  free := hfree.trans h.free
  base hzero base := (hbase (Nat.le_zero.1 (hzero ▸ h.le)) base).trans (h.base hzero base)

theorem exists_leaves {parts : List String} (hparts : ∀ part ∈ parts, '/' ∉ part.toList)
    (hnames : ∀ name ∈ names, IsName name) (n : ℕ) : ∃ m left, Leaves names n parts m left := by
  induction parts generalizing names n with
  | nil =>
    refine ⟨n, names.reverse, ⟨fun name hname => hnames name (mem_reverse.1 hname),
      Nat.le_refl n, rfl, by simp [cleanParts], by simp [cleanParts]⟩⟩
  | cons part rest ih =>
    obtain ⟨hslash, hrest⟩ := forall_mem_cons.1 hparts
    by_cases hskip : part = "" ∨ part = "."
    · obtain ⟨m, left, h⟩ := ih hrest hnames n
      exact ⟨m, left, h.cons (Nat.le_refl n) (cleanParts_skip hskip) (cleanParts_skip hskip)
        fun _ _ => cleanParts_skip hskip⟩
    by_cases hup : part = ".."
    · subst hup
      cases names with
      | nil =>
        obtain ⟨m, left, h⟩ := ih hrest hnames (n + 1)
        exact ⟨m, left, h.cons n.le_succ (cleanParts_up_nil n) rfl nofun⟩
      | cons top below => ?_
      obtain ⟨htop, hbelow⟩ := forall_mem_cons.1 hnames
      obtain ⟨m, left, h⟩ := ih hrest hbelow n
      exact ⟨m, left, h.cons (Nat.le_refl n) (cleanParts_up_name htop) (cleanParts_up_name htop)
        fun _ _ => cleanParts_up_name htop⟩
    · have hname : IsName part := ⟨fun h => hskip (.inl h), fun h => hskip (.inr h), hup, hslash⟩
      obtain ⟨m, left, h⟩ := ih hrest (forall_mem_cons.2 ⟨hname, hnames⟩) n
      exact ⟨m, left, h.cons (Nat.le_refl n) (cleanParts_name hname) (cleanParts_name hname)
        fun _ _ => cleanParts_name hname⟩

theorem leaves_resolve (path : String) : ∃ m, Leaves [] 0 (split '/' path) m (resolve path) := by
  have hparts : ∀ part ∈ split '/' path, '/' ∉ part.toList := by
    intro part hpart
    obtain ⟨chars, hchars, rfl⟩ := mem_map.1 hpart
    simpa using notMem_of_mem_splitOn hchars
  obtain ⟨m, left, h⟩ := exists_leaves hparts (forall_mem_nil IsName) 0
  obtain rfl : resolve path = left := h.rooted
  exact ⟨m, h⟩

theorem isName_of_mem_resolve {path name : String} (h : name ∈ resolve path) : IsName name := by
  obtain ⟨m, hleaves⟩ := leaves_resolve path
  exact hleaves.isName name h

theorem cleanParts_dots (hdots : ∀ dot ∈ dots, dot = "." ∨ dot = "..") :
    cleanParts true [] (dots ++ rest) = cleanParts true [] rest := by
  induction dots with
  | nil => rfl
  | cons dot others ih =>
    have hothers := ih fun other hother => hdots other (mem_cons_of_mem _ hother)
    rcases hdots dot mem_cons_self with rfl | rfl
    · exact (cleanParts_skip (.inr rfl)).trans hothers
    · exact hothers

theorem cleanParts_names (hnames : ∀ name ∈ names, IsName name) :
    cleanParts rooted stack names = stack.reverse ++ names := by
  induction names generalizing stack with
  | nil => simp [cleanParts]
  | cons name others ih =>
    rw [cleanParts_name (hnames name mem_cons_self),
      ih fun other hother => hnames other (mem_cons_of_mem _ hother)]
    simp

theorem split_slash_joinWith {parts : List String}
    (hparts : ∀ part ∈ parts, '/' ∉ part.toList) :
    split '/' ("/" ++ joinWith "/" parts) = "" :: if parts = [] then [""] else parts := by
  rw [split_slash_append]
  split
  · rename_i hnil
    subst hnil
    decide
  · rename_i hne
    rw [split_joinWith hne hparts]

/-- Components as `Clean` leaves them. -/
structure Cleaned (dots names : List String) : Prop where
  dots : dots = ["."] ∧ names = [] ∨ ∃ n, dots = List.replicate n ".."
  names : ∀ name ∈ names, IsName name

variable {dots : List String}

theorem Cleaned.eq_of_mem (h : Cleaned dots names) :
    ∀ dot ∈ dots, dot = "." ∨ dot = ".." := by
  intro dot hdot
  rcases h.dots with ⟨rfl, -⟩ | ⟨n, rfl⟩
  · exact .inl (mem_singleton.1 hdot)
  · exact .inr (eq_of_mem_replicate hdot)

theorem Cleaned.noSlash (h : Cleaned dots names) :
    ∀ part ∈ dots ++ names, '/' ∉ part.toList := by
  intro part hpart
  rcases mem_append.1 hpart with hdot | hname
  · rcases h.eq_of_mem part hdot with rfl | rfl
    · decide
    · decide
  · exact (h.names part hname).noSlash

theorem Cleaned.empty_notMem (h : Cleaned dots names) : "" ∉ dots ++ names := by
  intro hmem
  rcases mem_append.1 hmem with hdot | hname
  · exact absurd (h.eq_of_mem _ hdot) (by decide)
  · exact (h.names _ hname).ne_empty rfl

theorem Cleaned.resolve_eq (h : Cleaned dots names) :
    resolve ("/" ++ joinWith "/" (dots ++ names)) = names := by
  have hall : cleanParts true [] (dots ++ names) = names :=
    (cleanParts_dots h.eq_of_mem).trans (cleanParts_names h.names)
  rw [resolve, split_slash_joinWith h.noSlash, cleanParts_skip (.inl rfl)]
  split
  · rename_i hnil
    rw [← hall, hnil]
    rfl
  · exact hall

theorem Cleaned.dropWhile_eq (h : Cleaned dots names) :
    (dots ++ names).dropWhile (fun part => part = "." || part = "..") = names := by
  rw [dropWhile_append_of_pos (by simpa using h.eq_of_mem)]
  cases names with
  | nil => rfl
  | cons name rest =>
    have hname := h.names name mem_cons_self
    simp [hname.ne_dot, hname.ne_dots]

theorem Cleaned.names_prefix {dots dots' names' : List String} {more : String}
    (h : Cleaned dots names) (h' : Cleaned dots' names')
    (hpath : "/" ++ joinWith "/" (dots' ++ names') =
      "/" ++ joinWith "/" (dots ++ names) ++ "/" ++ more) : names <+: names' := by
  by_cases hnil : names = []
  · rw [hnil]
    exact nil_prefix
  have hsplit := congrArg (split '/') hpath
  rw [split_append_slash, split_slash_joinWith h.noSlash, split_slash_joinWith h'.noSlash,
    cons_append, List.cons.injEq, if_neg (append_ne_nil_of_right_ne_nil _ hnil)] at hsplit
  split at hsplit
  · -- The other path is not the root, since a name is not empty.
    have hmem := mem_append_left (split '/' more) (mem_append_right dots (head_mem hnil))
    rw [← hsplit.2, mem_singleton] at hmem
    exact absurd hmem (h.names _ (head_mem hnil)).ne_empty
  · have hparts := congrArg (List.dropWhile fun part => part = "." || part = "..") hsplit.2
    rw [h'.dropWhile_eq, dropWhile_append, h.dropWhile_eq, if_neg (by simpa using hnil)] at hparts
    exact ⟨_, hparts.symm⟩

/-- No component is `.` or `..`. -/
def Dotless (path : String) : Prop :=
  "." ∉ split '/' path ∧ ".." ∉ split '/' path

theorem Cleaned.dotless_iff (h : Cleaned dots names) :
    Dotless ("/" ++ joinWith "/" (dots ++ names)) ↔ dots = [] := by
  unfold Dotless
  rw [split_slash_joinWith h.noSlash]
  constructor
  · intro hdotless
    rcases h.dots with ⟨rfl, rfl⟩ | ⟨n, rfl⟩
    · simp at hdotless
    · cases n with
      | zero => rfl
      | succ n => simp [replicate_succ] at hdotless
  · rintro rfl
    have hdot : "." ∉ names := fun hmem => (h.names _ hmem).ne_dot rfl
    have hup : ".." ∉ names := fun hmem => (h.names _ hmem).ne_dots rfl
    split
    · simp
    · simp [hdot, hup]

theorem clean_of_rooted {path : String} (h : hasPrefix path "/" = true) :
    clean path = "/" ++ joinWith "/" (resolve path) := by
  rw [clean, h]
  rfl

/-- `Clean` leaves dots before the names only in a relative path. Without dots, a relative path
leads to its names from everywhere. -/
def CleansTo (path : String) (dots : List String) : Prop :=
  hasPrefix path "/" = true ∧ dots = [] ∨
    hasPrefix path "/" = false ∧ dots ++ resolve path ≠ [] ∧
      clean path = joinWith "/" (dots ++ resolve path) ∧
      (dots = [] → ∀ base, resolve (base ++ "/" ++ path) = resolve base ++ resolve path)

theorem exists_cleansTo (path : String) :
    ∃ dots, Cleaned dots (resolve path) ∧ CleansTo path dots := by
  obtain ⟨m, hleaves⟩ := leaves_resolve path
  cases hrooted : hasPrefix path "/" with
  | true => exact ⟨[], ⟨.inr ⟨0, rfl⟩, hleaves.isName⟩, .inl ⟨hrooted, rfl⟩⟩
  | false => ?_
  have hclean : clean path = if joinWith "/" (List.replicate m ".." ++ resolve path) = ""
      then "." else joinWith "/" (List.replicate m ".." ++ resolve path) := by
    rw [clean, hrooted, ← hleaves.free]
    rfl
  have hups : Cleaned (List.replicate m "..") (resolve path) := ⟨.inr ⟨m, rfl⟩, hleaves.isName⟩
  by_cases hnil : List.replicate m ".." ++ resolve path = []
  · -- Nothing is left, which is written as a dot.
    have hresolve := (append_eq_nil_iff.1 hnil).2
    refine ⟨["."], ⟨.inl ⟨rfl, hresolve⟩, hleaves.isName⟩, .inr ⟨hrooted, by simp, ?_, nofun⟩⟩
    rw [hclean, hnil, hresolve]
    decide
  · refine ⟨_, hups, .inr ⟨hrooted, hnil, ?_, fun hdots base => ?_⟩⟩
    · rw [hclean, if_neg]
      intro hempty
      have hsplit := split_joinWith hnil hups.noSlash
      rw [hempty, show split '/' "" = [""] by decide] at hsplit
      exact hups.empty_notMem (hsplit ▸ mem_singleton_self _)
    · have hzero : m = 0 := by simpa using hdots
      have hbase := hleaves.base hzero (resolve base).reverse
      rwa [nil_append, reverse_reverse, resolve, ← cleanParts_append, ← split_append_slash] at hbase

end Path

end OpenNebulaCSI.Go
