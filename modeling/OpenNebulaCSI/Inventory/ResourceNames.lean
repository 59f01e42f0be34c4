import Mathlib.Data.List.Chain
import Mathlib.Data.List.DropRight
import Mathlib.Data.Nat.Digits.Defs
import OpenNebulaCSI.Inventory.Benchmarks
import OpenNebulaCSI.Inventory.Validation
import OpenNebulaCSI.KubeRuntime.Names

/-!
# Names and labels of Jobs and claims

Kubernetes takes DNS-1123 subdomains as names, of a Job not more than 63 characters, and not more
than 63 characters as the value of a label. A name of a Job or claim has up to 40 characters of the
name of its object between a prefix and nine characters of a hash, and a dot may be the last one of
the 40. `resourceNames_valid_iff` says for which objects all names and labels are accepted.
-/

namespace OpenNebulaCSI.Inventory

open Go KubeRuntime List

/-- The hash starts with eight letters or digits; SHA-1 has 40 hexadecimal ones. -/
def Texts.Hashes (texts : Texts) : Prop :=
  ∀ s, 8 ≤ (texts.sha1Hex s).length ∧ (texts.sha1Hex s).toList.all isAlphanumeric

def benchmarkResourceLabels (run : Option BenchmarkRun) : List (String × String) :=
  ("app.kubernetes.io/component", "datastore-benchmark") ::
    match run with
    | none => []
    | some run => ("storage-provider.opennebula.io/benchmark-run", run.name) ::
      if 0 < run.spec.datastoreID then
        [("storage-provider.opennebula.io/datastore-id", itoa run.spec.datastoreID)]
      else []

/-- A value of a label of Kubernetes. -/
def IsLabelValue (value : String) : Prop :=
  value.length ≤ 63 ∧
    (value.toList.all fun char => char.isAlphanum || char = '-' || char = '_' || char = '.') ∧
    value.toList.head?.all Char.isAlphanum ∧ value.toList.getLast?.all Char.isAlphanum

/-- What the name of a Job or claim keeps of the name of its object. -/
def keptName (name : String) : String :=
  trimDashes (String.ofList (name.toList.take 40))

def resourcePrefixes : List String :=
  [validationPVCPrefix, validationJobPrefix, benchmarkPVCPrefix, benchmarkJobPrefix]

variable {texts : Texts} {start name nonce : String}

theorem toList_validationResourceName : (validationResourceName texts start name nonce).toList =
    start.toList ++ ((keptName name).toList ++
      '-' :: (texts.sha1Hex (name ++ ":" ++ nonce)).toList.take 8) := by
  simp [validationResourceName, keptName]

theorem length_validationResourceName (htexts : texts.Hashes) :
    (validationResourceName texts start name nonce).length =
      start.length + (keptName name).length + 9 := by
  have hhash := (htexts (name ++ ":" ++ nonce)).1
  simp only [← String.length_toList] at hhash ⊢
  rw [toList_validationResourceName, length_append, length_append, length_cons,
    length_take_of_le hhash]
  omega

/-- The first character of a name is no dash, so only the end is trimmed. -/
theorem keptName_start (hname : IsSubdomain name) :
    (keptName name).toList <+: name.toList.take 40 := by
  obtain ⟨-, -, hlabels⟩ := hname
  have hhead : (name.toList.take 40).dropWhile (· = '-') = name.toList.take 40 := by
    cases hlist : name.toList with
    | nil => rfl
    | cons first rest =>
      have hfirst : first ≠ '-' := by
        rintro rfl
        simp [hlist, isAlphanumeric] at hlabels
      simp [hfirst]
  rw [keptName, trimDashes, String.toList_ofList, String.toList_ofList, hhead]
  exact rdropWhile_prefix _ _

/-- What two neighbours in a subdomain are to each other. -/
abbrev Neighbours (left right : Char) : Prop :=
  (left = '.' → isAlphanumeric right) ∧ (right = '.' → isAlphanumeric left)

theorem ne_dot_of_isAlphanumeric {char : Char} (h : isAlphanumeric char) : char ≠ '.' := by
  rintro rfl
  exact absurd h (by decide)

theorem isChain_of_isAlphanumeric (first : Char) {l : List Char} (hne : l ≠ [])
    (hl : ∀ char ∈ l, isAlphanumeric char) : (first :: (l ++ ['.'])).IsChain Neighbours := by
  refine isChain_cons.2 ⟨fun right hright => ?_, isChain_append.2 ⟨?_, .singleton _, ?_⟩⟩
  · rw [head?_append_of_ne_nil _ hne] at hright
    have hright := hl right (mem_of_head? hright)
    exact ⟨fun _ => hright, fun h => absurd h (ne_dot_of_isAlphanumeric hright)⟩
  · exact (pairwise_of_forall_mem_list fun left hleft right hright =>
      ⟨fun _ => hl right hright, fun _ => hl left hleft⟩).isChain
  · intro left hleft right _
    have hleft := hl left (mem_of_getLast? hleft)
    exact ⟨fun h => absurd h (ne_dot_of_isAlphanumeric hleft), fun _ => hleft⟩

theorem isSubdomain_validationResourceName_iff (htexts : texts.Hashes) (hname : IsSubdomain name)
    (hstart : start ∈ resourcePrefixes) :
    IsSubdomain (validationResourceName texts start name nonce) ↔
      '.' ∉ (keptName name).toList.getLast? := by
  have hkept := keptName_start hname
  obtain ⟨hlast, hlength, hall, hfirst⟩ : ('.' :: start.toList).getLast? = some '-' ∧
      start.length ≤ 20 ∧ (start.toList.all fun char => isAlphanumeric char || char = '-') ∧
      ('.' :: start.toList).IsChain Neighbours := by
    simp only [resourcePrefixes, mem_cons, not_mem_nil, or_false] at hstart
    rcases hstart with rfl | rfl | rfl | rfl <;>
      exact ⟨by decide, by decide, by decide +kernel, by decide +kernel⟩
  obtain ⟨-, hchars, hlabels⟩ := hname
  have hsize : start.length + (keptName name).length + 9 ≤ 253 := by
    have := hkept.length_le
    rw [length_take, String.length_toList] at this
    omega
  have hhash : ∀ char ∈ (texts.sha1Hex (name ++ ":" ++ nonce)).toList.take 8,
      isAlphanumeric char :=
    fun char hchar => all_eq_true.1 (htexts _).2 char (mem_of_mem_take hchar)
  have hend := isChain_of_isAlphanumeric '-' (ne_nil_of_length_pos (by
    rw [length_take_of_le (by rw [String.length_toList]; exact (htexts _).1)]
    decide)) hhash
  have hmiddle : ('.' :: (keptName name).toList).IsChain Neighbours := by
    have htaken : name.toList.take 40 <+: name.toList := take_prefix ..
    exact IsChain.prefix hlabels <| (prefix_cons_inj _).2 <|
      (hkept.trans htaken).trans (prefix_append ..)
  rw [isChain_cons] at hmiddle
  rw [IsSubdomain, length_validationResourceName htexts, toList_validationResourceName]
  simp only [all_eq_true, Bool.or_eq_true, decide_eq_true_eq, ← cons_append, append_assoc]
    at hchars hall ⊢
  rw [isChain_append, isChain_append, hlast]
  refine ⟨fun h hdot => ?_,
    fun h => ⟨hsize, fun char hchar => ?_, hfirst, ⟨hmiddle.2, hend, ?_⟩, ?_⟩⟩
  · exact absurd ((h.2.2.2.1.2.2 _ hdot '-' rfl).1 rfl) (by decide)
  · simp only [mem_append, mem_cons] at hchar
    rcases hchar with hchar | hchar | rfl | hchar
    · exact .inl (hall char hchar)
    · exact hchars char (mem_of_mem_take (hkept.mem hchar))
    · simp
    · exact .inl (.inl (hhash char hchar))
  · rintro left hleft _ ⟨⟩
    exact ⟨fun hdot => absurd (hdot ▸ hleft) h, fun hdot => absurd hdot (by decide)⟩
  · rintro _ ⟨⟩ right hright
    refine ⟨fun hdot => absurd hdot (by decide), ?_⟩
    rintro rfl
    cases hlist : (keptName name).toList with
    | nil => simp [hlist] at hright
    | cons first rest =>
      have := hmiddle.1
      simp_all [isAlphanumeric]

theorem isAlphanum_of_isAlphanumeric {char : Char} (h : isAlphanumeric char) : char.isAlphanum := by
  show (char.isUpper || (decide ('a' ≤ char) && decide (char ≤ 'z')) ||
    (decide ('0' ≤ char) && decide (char ≤ '9'))) = true
  rw [Bool.or_assoc]
  exact Bool.or_eq_true_iff.2 (.inr h)

theorem isLabelValue_iff (hname : IsSubdomain name) : IsLabelValue name ↔ name.length ≤ 63 := by
  obtain ⟨-, hchars, hlabels⟩ := hname
  simp only [all_eq_true, Bool.or_eq_true, decide_eq_true_eq] at hchars
  refine ⟨And.left, fun h => ⟨h, all_eq_true.2 fun char hchar => ?_, ?_, ?_⟩⟩
  · rcases hchars char hchar with (hchar | rfl) | rfl
    · simp [isAlphanum_of_isAlphanumeric hchar]
    · rfl
    · rfl
  · have hfirst := (isChain_cons.1 hlabels).1
    cases hlist : name.toList with
    | nil => rfl
    | cons first rest =>
      exact isAlphanum_of_isAlphanumeric ((hfirst first (by simp [hlist])).1 rfl)
  · have hlast := (isChain_append.1 hlabels).2.2
    cases hlist : name.toList.getLast? with
    | none => rfl
    | some last =>
      exact isAlphanum_of_isAlphanumeric ((hlast last (mem_getLast?_cons hlist) '.' rfl).2 rfl)

theorem isLabelValue_itoa {n : ℕ} (h : n ≤ maxInt) : IsLabelValue (itoa n) := by
  have hdigits : ∀ char ∈ (itoa n).toList, isAlphanumeric char := by
    intro char hchar
    rw [toList_itoa] at hchar
    have hdigit := isDigit_of_mem_toDigits hchar
    simp only [Char.isDigit, ge_iff_le] at hdigit
    simpa [isAlphanumeric, Char.le_def] using .inr (by simpa using hdigit)
  have hlength : (itoa n).length ≤ 20 := by
    rw [← String.length_toList, toList_itoa]
    exact Nat.toDigits_length _ _ _ (by decide) (h.trans_lt (by decide))
  refine (isLabelValue_iff ⟨by omega, all_eq_true.2 fun char hchar => ?_,
    isChain_of_isAlphanumeric '.' ?_ hdigits⟩).2 (by omega)
  · simp [hdigits char hchar]
  · rw [toList_itoa]
    exact Nat.toDigits_ne_nil

/-- A name of a Job or claim is accepted unless a dot is the last character kept of the name of its
object; Jobs need a shorter one, and the label of a run needs the name of the run to be short. -/
theorem resourceNames_valid_iff (htexts : texts.Hashes) {run : BenchmarkRun} (nonce : String)
    (hrun : IsSubdomain run.name) (hid : run.spec.datastoreID ≤ maxInt) :
    (∀ start ∈ resourcePrefixes,
        IsSubdomain (validationResourceName texts start run.name nonce)) ∧
      (∀ start ∈ [validationJobPrefix, benchmarkJobPrefix],
        (validationResourceName texts start run.name nonce).length ≤ 63) ∧
      (∀ label ∈ benchmarkResourceLabels (some run), IsLabelValue label.2) ↔
    '.' ∉ (keptName run.name).toList.getLast? ∧ (keptName run.name).length ≤ 34 ∧
      run.name.length ≤ 63 := by
  have hstarts : ∀ start ∈ resourcePrefixes,
      (IsSubdomain (validationResourceName texts start run.name nonce) ↔
        '.' ∉ (keptName run.name).toList.getLast?) := fun start hstart =>
    isSubdomain_validationResourceName_iff htexts hrun hstart
  have hlengths : validationJobPrefix.length = 20 ∧ benchmarkJobPrefix.length = 17 := by decide
  have hlabels : (∀ label ∈ benchmarkResourceLabels (some run), IsLabelValue label.2) ↔
      run.name.length ≤ 63 := by
    have hcomponent : IsLabelValue "datastore-benchmark" :=
      (isLabelValue_iff (by decide +kernel)).2 (by decide)
    have hitoa (hpos : 0 < run.spec.datastoreID) : IsLabelValue (itoa run.spec.datastoreID) := by
      rw [← Int.toNat_of_nonneg hpos.le]
      exact isLabelValue_itoa (by omega)
    by_cases hpos : 0 < run.spec.datastoreID <;>
      simp [benchmarkResourceLabels, hpos, hcomponent, isLabelValue_iff hrun, hitoa]
  simp only [resourcePrefixes, forall_mem_cons, not_mem_nil, false_implies, implies_true,
    and_true] at hstarts ⊢
  simp only [hstarts, hlabels, length_validationResourceName htexts, hlengths, and_self]
  exact and_congr_right fun _ => by omega

theorem plainTexts_hashes : plainTexts.Hashes := by
  intro s
  simp only [plainTexts]
  decide

theorem nightly_names_valid :
    (∀ start ∈ resourcePrefixes,
        IsSubdomain (validationResourceName plainTexts start newBenchmark.run.name "1")) ∧
      (∀ start ∈ [validationJobPrefix, benchmarkJobPrefix],
        (validationResourceName plainTexts start newBenchmark.run.name "1").length ≤ 63) ∧
      ∀ label ∈ benchmarkResourceLabels (some newBenchmark.run), IsLabelValue label.2 :=
  (resourceNames_valid_iff plainTexts_hashes "1" (by decide +kernel) (by decide +kernel)).2
    (by decide +kernel)

/-- A dot is the last of the characters kept, the name of the Job has 66 characters and the label of
the run 70. -/
theorem longName_not_valid :
    ∃ run : BenchmarkRun, IsSubdomain run.name ∧ ¬ IsSubdomain (run.jobName plainTexts) ∧
      (run.jobName plainTexts).length = 66 ∧
      ∃ label ∈ benchmarkResourceLabels (some run), ¬ IsLabelValue label.2 := by
  refine ⟨{ newBenchmark.run with
      name := String.ofList (replicate 39 'a' ++ '.' :: replicate 30 'b') },
    by decide +kernel, by decide +kernel, by decide +kernel, _,
    mem_cons_of_mem _ (mem_cons_self ..), fun h => ?_⟩
  exact absurd h.1 (by decide +kernel)

end OpenNebulaCSI.Inventory
