import Mathlib.Data.List.Range
import OpenNebulaCSI.Go.Strings

/-!
# Targets of disks

A disk is attached under a free target of the VM: `sda` to `sdz`, then `sdaa` and so on. The letters
are numerals without a zero, so that every non-empty text over a to z is the numeral of one index
(`lettersFrom_indexFrom`). The free target is the first one by index.
-/

namespace OpenNebulaCSI.Provider

open Go List

/-- The loop of `linuxDiskLetters`, with the letters so far. -/
def lettersFrom (index : ℕ) (letters : List Char) : List Char :=
  let letters := Char.ofNat ('a'.toNat + index % 26) :: letters
  if index / 26 = 0 then letters else lettersFrom (index / 26 - 1) letters

def linuxDiskLetters (index : Int) : String :=
  String.ofList (lettersFrom index.toNat [])

/-- The character is not one of a to z. -/
def noLetter (char : Char) : Bool :=
  char.toNat < 'a'.toNat || char.toNat > 'z'.toNat

/-- The loop of `linuxDiskTargetIndex`; the index is not bounded. -/
def indexFrom (index : ℕ) : List Char → Option ℕ
  | [] => some index
  | char :: rest =>
    if noLetter char then none else indexFrom (index * 26 + (char.toNat - 'a'.toNat + 1)) rest

def linuxDiskTargetIndex (target start : String) : Option ℕ :=
  if start = "" ∨ !hasPrefix target start then none
  else
    let suffix := target.toList.drop start.toList.length
    if suffix = [] then none else (indexFrom 0 suffix).map (· - 1)

/-- The start of the targets of `nextAvailableDiskTarget`. -/
def targetStart (params : StringMap) : String :=
  let devPrefix := trimSpace (params.get "devPrefix")
  if devPrefix ≠ "" then devPrefix else "sd"

/-- `nextAvailableDiskTarget`; a disk may be without a target. -/
def nextAvailableDiskTarget (disks : List (Option String)) (params : StringMap) : String :=
  let start := targetStart params
  let used := disks.filterMap fun disk =>
    disk.bind fun target => linuxDiskTargetIndex (trimSpace target) start
  ((List.range 512).find? fun index => !used.contains index).elim "" fun index =>
    start ++ linuxDiskLetters index

theorem toNat_letter {digit : ℕ} (h : digit < 26) :
    (Char.ofNat ('a'.toNat + digit)).toNat = 'a'.toNat + digit := by
  have hall : ∀ digit < 26, (Char.ofNat ('a'.toNat + digit)).toNat = 'a'.toNat + digit := by decide
  exact hall digit h

theorem indexFrom_isSome {index : ℕ} {suffix : List Char} :
    (indexFrom index suffix).isSome ↔ ∀ char ∈ suffix, noLetter char = false := by
  induction suffix generalizing index with
  | nil => simp [indexFrom]
  | cons char rest ih =>
    rw [indexFrom, forall_mem_cons]
    cases noLetter char with
    | true => simp
    | false => simpa using ih

theorem indexFrom_lettersFrom (index : ℕ) (rest : List Char) :
    indexFrom 0 (lettersFrom index rest) = indexFrom (index + 1) rest := by
  induction index using Nat.strong_induction_on generalizing rest with
  | _ index ih =>
    have hlt : index % 26 < 26 := Nat.mod_lt _ (by decide)
    have hread : ∀ higher, indexFrom higher (Char.ofNat ('a'.toNat + index % 26) :: rest) =
        indexFrom (higher * 26 + index % 26 + 1) rest := by
      intro higher
      have hletter : noLetter (Char.ofNat ('a'.toNat + index % 26)) = false := by
        have hz : 'z'.toNat = 'a'.toNat + 25 := rfl
        simp only [noLetter, toNat_letter hlt, Bool.or_eq_false_iff, decide_eq_false_iff_not]
        omega
      rw [indexFrom, hletter, toNat_letter hlt, Nat.add_sub_cancel_left]
      rfl
    rw [lettersFrom]
    split
    · rw [hread]
      congr 1
      omega
    · rw [ih _ (by omega), hread]
      congr 1
      omega

/-- The letters of an index give back what the index was read from. -/
theorem lettersFrom_indexFrom {index value : ℕ} {suffix : List Char} (rest : List Char)
    (h : indexFrom index suffix = some value) (hpos : 0 < index ∨ suffix ≠ []) :
    lettersFrom (value - 1) rest =
      if index = 0 then suffix ++ rest else lettersFrom (index - 1) (suffix ++ rest) := by
  induction suffix generalizing index with
  | nil =>
    obtain rfl := Option.some.inj h
    rw [if_neg (hpos.resolve_right (· rfl)).ne', nil_append]
  | cons char suffix ih =>
    rw [indexFrom] at h
    cases hletter : noLetter char with
    | true => simp [hletter] at h
    | false => ?_
    rw [hletter] at h
    rw [ih h (.inl (by omega)), if_neg (by omega), lettersFrom]
    have hrange : char.toNat - 'a'.toNat < 26 ∧ 'a'.toNat ≤ char.toNat := by
      have hz : 'z'.toNat = 'a'.toNat + 25 := rfl
      simp only [noLetter, Bool.or_eq_false_iff, decide_eq_false_iff_not] at hletter
      omega
    have hdigit : (index * 26 + (char.toNat - 'a'.toNat + 1) - 1) % 26 =
        char.toNat - 'a'.toNat := by omega
    have hhigher : (index * 26 + (char.toNat - 'a'.toNat + 1) - 1) / 26 = index := by omega
    rw [hdigit, hhigher, Nat.add_sub_cancel' hrange.2, Char.ofNat_toNat]
    rfl

theorem indexFrom_linuxDiskLetters (index : ℕ) :
    indexFrom 0 (linuxDiskLetters index).toList = some (index + 1) := by
  simp only [linuxDiskLetters, String.toList_ofList, Int.toNat_natCast]
  exact indexFrom_lettersFrom index []

theorem linuxDiskLetters_ne_empty (index : ℕ) : linuxDiskLetters index ≠ "" := by
  intro hempty
  have hread := indexFrom_linuxDiskLetters index
  rw [hempty] at hread
  cases hread

section Targets

variable {start : String} (hstart : start ≠ "")
include hstart

theorem linuxDiskTargetIndex_append {suffix : String} (hsuffix : suffix ≠ "") :
    linuxDiskTargetIndex (start ++ suffix) start = (indexFrom 0 suffix.toList).map (· - 1) := by
  have hlist : suffix.toList ≠ [] := by simpa using hsuffix
  rw [linuxDiskTargetIndex, if_neg (by simp [hstart, hasPrefix_append]), String.toList_append,
    drop_left]
  exact if_neg hlist

/-- A target has an index exactly if it is the start with the letters of the index. -/
theorem linuxDiskTargetIndex_eq_some {target : String} {index : ℕ} :
    linuxDiskTargetIndex target start = some index ↔ target = start ++ linuxDiskLetters index := by
  constructor
  · intro h
    rw [linuxDiskTargetIndex] at h
    split at h
    · cases h
    rename_i hhas
    have hprefixed : hasPrefix target start = true := by simpa [hstart] using hhas
    obtain ⟨suffix, hsuffix⟩ := isPrefixOf_iff_prefix.1 hprefixed
    rw [← hsuffix, drop_left] at h
    dsimp only at h
    split at h
    · cases h
    rename_i hne
    obtain ⟨value, hvalue, rfl⟩ := Option.map_eq_some_iff.1 h
    have hread := lettersFrom_indexFrom [] hvalue (.inr hne)
    rw [← String.toList_inj, String.toList_append, ← hsuffix]
    simp [linuxDiskLetters, hread]
  · rintro rfl
    rw [linuxDiskTargetIndex_append hstart (linuxDiskLetters_ne_empty index),
      indexFrom_linuxDiskLetters]
    rfl

end Targets

theorem targetStart_ne_empty (params : StringMap) : targetStart params ≠ "" := by
  rw [targetStart]
  split
  · assumption
  · decide

/-- The first number below a bound with a property, if there is one. -/
theorem find?_range (p : ℕ → Bool) (bound : ℕ) :
    ((range bound).find? p = none ∧ ∀ i < bound, p i = false) ∨
      ∃ i < bound, (range bound).find? p = some i ∧ p i = true ∧ ∀ j < i, p j = false := by
  cases hfind : (range bound).find? p with
  | none => exact .inl ⟨rfl, fun i hi => by simpa using find?_eq_none.1 hfind i (mem_range.2 hi)⟩
  | some found =>
    obtain ⟨hp, i, hi, hfound, hbefore⟩ := find?_eq_some_iff_getElem.1 hfind
    simp only [getElem_range, length_range, Bool.not_eq_true'] at hi hfound hbefore
    subst hfound
    exact .inr ⟨i, hi, rfl, hp, hbefore⟩

/-- The disks have a target for the index. -/
def TargetUsed (disks : List (Option String)) (start : String) (index : ℕ) : Prop :=
  ∃ target, some target ∈ disks ∧ trimSpace target = start ++ linuxDiskLetters index

/-- Indices and non-empty texts over a to z correspond to each other, and the free target is the one
with the least index below 512 that no disk has. -/
theorem diskTargets_numbered :
    (∀ start, start ≠ "" → ∀ index : ℕ,
      linuxDiskTargetIndex (start ++ linuxDiskLetters index) start = some index) ∧
    (∀ start suffix, start ≠ "" → suffix ≠ "" → (∀ char ∈ suffix.toList, noLetter char = false) →
      ∃ index : ℕ, linuxDiskTargetIndex (start ++ suffix) start = some index ∧
        linuxDiskLetters index = suffix) ∧
    (∀ index : ℕ, linuxDiskLetters index ≠ "" ∧
      ∀ char ∈ (linuxDiskLetters index).toList, noLetter char = false) ∧
    ∀ disks params, ((∀ index < 512, TargetUsed disks (targetStart params) index) ∧
        nextAvailableDiskTarget disks params = "") ∨
      ∃ index < 512, ¬ TargetUsed disks (targetStart params) index ∧
        (∀ lower < index, TargetUsed disks (targetStart params) lower) ∧
        nextAvailableDiskTarget disks params = targetStart params ++ linuxDiskLetters index ∧
        nextAvailableDiskTarget disks params ≠ "" := by
  refine ⟨fun start hstart index => (linuxDiskTargetIndex_eq_some hstart).2 rfl, ?_,
    fun index => ?_,
    fun disks params => ?_⟩
  · intro start suffix hstart hsuffix hletters
    obtain ⟨value, hvalue⟩ := Option.isSome_iff_exists.1 ((@indexFrom_isSome 0 _).2 hletters)
    have hindex : linuxDiskTargetIndex (start ++ suffix) start = some (value - 1) := by
      rw [linuxDiskTargetIndex_append hstart hsuffix, hvalue, Option.map_some]
    refine ⟨value - 1, hindex, ?_⟩
    have happend := (linuxDiskTargetIndex_eq_some hstart).1 hindex
    simpa using happend.symm
  · have hread := indexFrom_linuxDiskLetters index
    exact ⟨linuxDiskLetters_ne_empty index, indexFrom_isSome.1 (Option.isSome_of_eq_some hread)⟩
  · have hstart := targetStart_ne_empty params
    have hused : ∀ index : ℕ, index ∈ (disks.filterMap fun disk => disk.bind fun target =>
        linuxDiskTargetIndex (trimSpace target) (targetStart params)) ↔
          TargetUsed disks (targetStart params) index := by
      intro index
      simp only [mem_filterMap, Option.bind_eq_some_iff, linuxDiskTargetIndex_eq_some hstart]
      constructor
      · rintro ⟨_, hdisk, target, rfl, htarget⟩
        exact ⟨target, hdisk, htarget⟩
      · rintro ⟨target, hdisk, htarget⟩
        exact ⟨_, hdisk, target, rfl, htarget⟩
    rcases find?_range (fun index => !(disks.filterMap fun disk => disk.bind fun target =>
        linuxDiskTargetIndex (trimSpace target) (targetStart params)).contains index) 512
      with ⟨hfind, hall⟩ | ⟨index, hindex, hfind, hfree, hlower⟩
    · simp only [Bool.not_eq_false', contains_iff_mem, hused] at hall
      refine .inl ⟨hall, ?_⟩
      rw [nextAvailableDiskTarget, hfind, Option.elim_none]
    · simp only [Bool.not_eq_false', contains_iff_mem, hused] at hlower
      have hnext : nextAvailableDiskTarget disks params =
          targetStart params ++ linuxDiskLetters index := by
        rw [nextAvailableDiskTarget, hfind, Option.elim_some]
      refine .inr ⟨index, hindex, fun h => ?_, hlower, hnext, by simp [hnext, hstart]⟩
      rw [contains_iff_mem.2 ((hused index).2 h)] at hfree
      cases hfree

end OpenNebulaCSI.Provider
