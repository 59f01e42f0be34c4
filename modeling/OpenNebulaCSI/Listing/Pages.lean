import Mathlib.Data.Nat.Notation
import Mathlib.Order.Basic
import Mathlib.Tactic.Basic

/-!
# Listing page by page

A listing call takes the number of entries that are asked for and a token, and returns a page and
the token of the next page; the empty token is the first one to send and the last one to receive.
`Chain` follows the tokens: it holds of the pages that are returned until the token is empty, so a
chain exists only if that happens after finitely many calls.

`PagesAt` says that the tokens are positions in one list. Then the chain exists, and its pages are
the list in order, whatever page sizes are asked for (`PagesAt.exists_chain`).
-/

namespace OpenNebulaCSI.Listing

variable {ε α : Type}

/-- The pages from a token on, where the `i`-th call asks for `sizes i` entries. -/
inductive Chain (list : ℕ → String → Except ε (List α × String)) (sizes : ℕ → ℕ) :
    ℕ → String → List (List α) → Prop
  | last {i : ℕ} {token : String} {page : List α} :
      list (sizes i) token = .ok (page, "") → Chain list sizes i token [page]
  | next {i : ℕ} {token nextToken : String} {page : List α} {pages : List (List α)} :
      list (sizes i) token = .ok (page, nextToken) → nextToken ≠ "" →
        Chain list sizes (i + 1) nextToken pages → Chain list sizes i token (page :: pages)

variable {list : ℕ → String → Except ε (List α × String)} {sizes : ℕ → ℕ} {i : ℕ} {token : String}

theorem Chain.eq_of_last {page : List α} {pages : List (List α)}
    (h : Chain list sizes i token pages)
    (hlist : list (sizes i) token = .ok (page, "")) : pages = [page] := by
  cases h with
  | last hpage =>
    rw [hpage] at hlist
    obtain ⟨rfl, -⟩ := Prod.mk.inj (Except.ok.inj hlist)
    rfl
  | next hpage hne _ =>
    rw [hpage] at hlist
    exact absurd (Prod.mk.inj (Except.ok.inj hlist)).2 hne

/-- The call with the token of position `start` returns the entries from there on, as many as are
asked for, and the token of the position after them if entries remain. -/
structure PagesAt (list : ℕ → String → Except ε (List α × String)) (tokenOf : ℕ → String)
    (all : List α) : Prop where
  more : ∀ start size, 0 < size → start + size < all.length →
    list size (tokenOf start) = .ok ((all.drop start).take size, tokenOf (start + size)) ∧
      tokenOf (start + size) ≠ ""
  last : ∀ start size, 0 < size → start ≤ all.length → all.length ≤ start + size →
    list size (tokenOf start) = .ok (all.drop start, "")

theorem PagesAt.exists_chain {tokenOf : ℕ → String} {all : List α}
    (h : PagesAt list tokenOf all) (hsizes : ∀ i, 0 < sizes i) (i : ℕ) {start : ℕ}
    (hstart : start ≤ all.length) :
    ∃ pages, Chain list sizes i (tokenOf start) pages ∧ pages.flatten = all.drop start ∧
      ∀ (j : ℕ) page, pages[j]? = some page → page.length ≤ sizes (i + j) := by
  -- By induction on the number of entries that remain.
  induction hrest : all.length - start using Nat.strongRecOn generalizing i start with
  | _ rest ih =>
    by_cases hmore : start + sizes i < all.length
    · obtain ⟨hpage, hne⟩ := h.more start (sizes i) (hsizes i) hmore
      have hpos := hsizes i
      obtain ⟨pages, hchain, hflatten, hlengths⟩ :=
        ih (all.length - (start + sizes i)) (by omega) (i + 1) (by omega) rfl
      refine ⟨_, .next hpage hne hchain, ?_, ?_⟩
      · calc ((all.drop start).take (sizes i) :: pages).flatten
            = (all.drop start).take (sizes i) ++ all.drop (start + sizes i) := by
              rw [List.flatten_cons, hflatten]
          _ = (all.drop start).take (sizes i) ++ (all.drop start).drop (sizes i) := by
              rw [List.drop_drop]
          _ = all.drop start := List.take_append_drop _ _
      · intro j page hj
        cases j with
        | zero =>
          obtain rfl := Option.some.inj hj
          exact List.length_take_le _ _
        | succ j => ?_
        rw [List.getElem?_cons_succ] at hj
        have hle := hlengths j page hj
        rwa [Nat.add_assoc, Nat.add_comm 1 j] at hle
    · have hlast := h.last start (sizes i) (hsizes i) hstart (by omega)
      refine ⟨_, .last hlast, by rw [List.flatten_singleton], ?_⟩
      intro j page hj
      cases j with
      | zero =>
        obtain rfl := Option.some.inj hj
        rw [List.length_drop, Nat.add_zero]
        omega
      | succ j => cases hj

end OpenNebulaCSI.Listing
