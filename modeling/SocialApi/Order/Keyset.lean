/-
Module: SocialApi.Order.Keyset
Purpose: Keyset pagination over rows with a linearly ordered key: pages of bounded
  size, each starting below the last row of the page before, over tables that may
  change from page to page.
Trusted boundary: none
Main exports:
  Keyset.remaining, Keyset.page, Keyset.Walk, Keyset.Walk.decreasing,
  Keyset.Walk.complete, Keyset.Walk.exists_whole
-/
import Mathlib

namespace Keyset

variable {ρ κ : Type} [LinearOrder κ] (key : ρ → κ)

/-- The row lies below the bound, if there is one. -/
def Below (bound : Option κ) (row : ρ) : Prop := ∀ k ∈ bound, key row < k

instance (bound : Option κ) : DecidablePred (Below key bound) :=
  fun row => inferInstanceAs (Decidable (∀ k ∈ bound, key row < k))

/-- Rows with the larger key first. -/
def Descending : List ρ → Prop := List.Pairwise fun a b => key b < key a

/-- What is left to be shown: the rows below the bound, largest key first. -/
def remaining (bound : Option κ) (rows : List ρ) : List ρ :=
  (rows.filter fun row => Below key bound row).insertionSort fun a b => key b ≤ key a

/-- The next page.  One row more than the limit is asked for; if it comes, it is
left out and the last row kept bounds the page after. -/
def page (limit : Nat) (bound : Option κ) (rows : List ρ) : List ρ × Option κ :=
  let found := (remaining key bound rows).take (limit + 1)
  if limit < found.length then (found.take limit, found[limit - 1]?.map key)
  else (found, none)

/-- A walk from a bound: every page is taken from the table there is at that time,
below the bound the page before gave.  The last index is the bound the walk has
reached, `none` when there is no page after. -/
inductive Walk (limit : Nat) :
    Option κ → List (List ρ) → List (List ρ) → Option κ → Prop where
  | one (bound : Option κ) (rows : List ρ) :
      Walk limit bound [rows] [(page key limit bound rows).1]
        (page key limit bound rows).2
  | more {bound : Option κ} {rows : List ρ} {k : κ} {tables pages : List (List ρ)}
      {last : Option κ} (next : (page key limit bound rows).2 = some k)
      (rest : Walk limit (some k) tables pages last) :
      Walk limit bound (rows :: tables) ((page key limit bound rows).1 :: pages) last

variable {key} {limit : Nat} {bound : Option κ} {rows : List ρ}

/-! ### What is left below a bound -/

theorem mem_remaining {row : ρ} :
    row ∈ remaining key bound rows ↔ row ∈ rows ∧ Below key bound row := by
  simp [remaining]

theorem remaining_perm :
    (remaining key bound rows).Perm (rows.filter fun row => Below key bound row) :=
  List.perm_insertionSort _ _

/-- Without a bound nothing is left out. -/
theorem remaining_none_perm (rows : List ρ) : (remaining key none rows).Perm rows := by
  have whole : (rows.filter fun row => Below key none row) = rows := by simp [Below]
  have perm : (remaining key none rows).Perm
      (rows.filter fun row => Below key none row) := remaining_perm
  rwa [whole] at perm

/-- Rows with different keys come in strictly decreasing order. -/
theorem remaining_descending (distinct : (rows.map key).Nodup) :
    Descending key (remaining key bound rows) := by
  have sorted : (remaining key bound rows).Pairwise fun a b => key b ≤ key a := by
    have total : Std.Total fun a b : ρ => key b ≤ key a := ⟨fun a b => le_total _ _⟩
    have transitive : IsTrans ρ fun a b => key b ≤ key a :=
      ⟨fun a b c ba cb => le_trans cb ba⟩
    exact List.pairwise_insertionSort _ _
  have apart : (remaining key bound rows).Pairwise fun a b => key a ≠ key b := by
    have filtered : ((rows.filter fun row => Below key bound row).map key).Nodup :=
      distinct.sublist (List.filter_sublist.map key)
    have kept : ((remaining key bound rows).map key).Nodup :=
      (remaining_perm.map key).nodup_iff.mpr filtered
    exact List.pairwise_map.mp kept
  apply List.Pairwise.imp₂ _ sorted apart
  intro a b le ne
  exact lt_of_le_of_ne le ne.symm

theorem Descending.nodup {shown : List ρ} (descending : Descending key shown) :
    shown.Nodup := by
  apply List.Pairwise.imp _ descending
  rintro a _ less rfl
  exact lt_irrefl _ less

/-- Descending lists with the same rows are the same list. -/
theorem Descending.eq_of_mem_iff {left right : List ρ}
    (leftDescending : Descending key left) (rightDescending : Descending key right)
    (same : ∀ row, row ∈ left ↔ row ∈ right) : left = right := by
  have perm : left.Perm right :=
    (List.perm_ext_iff_of_nodup leftDescending.nodup rightDescending.nodup).mpr same
  apply perm.eq_of_pairwise _ leftDescending rightDescending
  intro a b _ _ below above
  exact absurd (lt_trans below above) (lt_irrefl _)

/-! ### One page -/

/-- A page shows a front part of what is left. -/
theorem page_startsRemaining : (page key limit bound rows).1 <+: remaining key bound rows := by
  unfold page
  dsimp only
  split
  · rw [List.take_take]
    exact List.take_prefix _ _
  · exact List.take_prefix _ _

theorem mem_of_mem_page {row : ρ} (shown : row ∈ (page key limit bound rows).1) :
    row ∈ rows ∧ Below key bound row :=
  mem_remaining.mp (page_startsRemaining.subset shown)

theorem page_descending (distinct : (rows.map key).Nodup) :
    Descending key (page key limit bound rows).1 :=
  (remaining_descending distinct).sublist page_startsRemaining.sublist

/-- A page without a page after shows everything that is left. -/
theorem page_last (positive : 0 < limit) (ended : (page key limit bound rows).2 = none) :
    (page key limit bound rows).1 = remaining key bound rows := by
  unfold page at ended ⊢
  dsimp only at ended ⊢
  split at ended
  · next more =>
      have inside : limit - 1 < ((remaining key bound rows).take (limit + 1)).length := by
        omega
      rw [List.getElem?_eq_getElem inside] at ended
      cases ended
  · next fits =>
      rw [if_neg fits]
      apply List.take_of_length_le
      rw [List.length_take] at fits
      omega

/-- A page with a page after ends in the row that bounds the page after, and
something is left behind it. -/
theorem page_more {k : κ} (positive : 0 < limit)
    (next : (page key limit bound rows).2 = some k) :
    ∃ front last behind,
      (page key limit bound rows).1 = front ++ [last] ∧ key last = k ∧
        remaining key bound rows = front ++ last :: behind := by
  obtain ⟨count, rfl⟩ := Nat.exists_eq_add_one.mpr positive
  unfold page at next ⊢
  dsimp only at next ⊢
  generalize remaining key bound rows = left at next ⊢
  split at next
  · next more =>
      rw [if_pos more]
      obtain ⟨last, at_last, sameKey⟩ := Option.map_eq_some_iff.mp next
      rw [Nat.add_sub_cancel, List.getElem?_take_of_lt (by omega)] at at_last
      obtain ⟨inside, rfl⟩ := List.getElem?_eq_some_iff.mp at_last
      refine ⟨left.take count, left[count], left.drop (count + 1), ?_, sameKey, ?_⟩
      · rw [List.take_take, Nat.min_eq_left (by omega), List.take_append_getElem]
      · rw [List.getElem_cons_drop, List.take_append_drop]
  · cases next

section Bounded

variable {k : κ} (positive : 0 < limit) (distinct : (rows.map key).Nodup)
  (next : (page key limit bound rows).2 = some k)
include positive distinct next

/-- A page splits what is left at the bound of the page after: it shows the rows
down to there, and the others are what is left next. -/
theorem page_split :
    (∀ row ∈ (page key limit bound rows).1, k ≤ key row) ∧
      remaining key bound rows =
        (page key limit bound rows).1 ++ remaining key (some k) rows := by
  obtain ⟨front, last, behind, shown, rfl, left⟩ := page_more positive next
  have descending : Descending key (remaining key bound rows) :=
    remaining_descending distinct
  rw [left] at descending
  obtain ⟨_, fromLast, above⟩ := List.pairwise_append.mp descending
  obtain ⟨below, tail⟩ := List.pairwise_cons.mp fromLast
  constructor
  · intro row member
    rw [shown, List.mem_append, List.mem_singleton] at member
    rcases member with inFront | rfl
    · exact le_of_lt (above row inFront last (by simp))
    · exact le_refl _
  · have rest : behind = remaining key (some (key last)) rows := by
      apply Descending.eq_of_mem_iff tail (remaining_descending distinct)
      intro row
      rw [mem_remaining]
      constructor
      · intro member
        have kept : row ∈ remaining key bound rows := by simp [left, member]
        refine ⟨(mem_remaining.mp kept).1, ?_⟩
        intro other same
        obtain rfl := Option.some.inj same
        exact below row member
      · rintro ⟨member, under⟩
        have underLast : key row < key last := under _ rfl
        have lastLeft : last ∈ remaining key bound rows := by simp [left]
        have underBound : Below key bound row := by
          intro other same
          exact lt_trans underLast ((mem_remaining.mp lastLeft).2 other same)
        have kept := mem_remaining.mpr ⟨member, underBound⟩
        rw [left, List.mem_append, List.mem_cons] at kept
        rcases kept with inFront | rfl | inBehind
        · exact absurd (lt_trans underLast (above row inFront last (by simp)))
            (lt_irrefl _)
        · exact absurd underLast (lt_irrefl _)
        · exact inBehind
    rw [left, shown, ← rest, List.append_assoc, List.singleton_append]

end Bounded

/-! ### Whole walks -/

section Walks

variable {tables pages : List (List ρ)} {last : Option κ}

/-- Every page shows rows of its own table. -/
theorem Walk.sound (walk : Walk key limit bound tables pages last) :
    List.Forall₂ (fun table shown => ∀ row ∈ shown, row ∈ table) tables pages := by
  induction walk with
  | one bound rows => exact .cons (fun row member => (mem_of_mem_page member).1) .nil
  | more next rest inductionHypothesis =>
      exact .cons (fun row member => (mem_of_mem_page member).1) inductionHypothesis

/-- A walk shows its rows in strictly decreasing order, all below its bound. -/
theorem Walk.decreasing (positive : 0 < limit)
    (walk : Walk key limit bound tables pages last)
    (distinct : ∀ table ∈ tables, (table.map key).Nodup) :
    Descending key pages.flatten ∧ ∀ row ∈ pages.flatten, Below key bound row := by
  induction walk with
  | one bound rows =>
      rw [List.flatten_singleton]
      exact ⟨page_descending (distinct rows (by simp)),
        fun row member => (mem_of_mem_page member).2⟩
  | @more bound rows k tables pages last next rest inductionHypothesis =>
      obtain ⟨descending, below⟩ :=
        inductionHypothesis fun table member => distinct table (by simp [member])
      have here := distinct rows (by simp)
      have above := (page_split positive here next).1
      rw [List.flatten_cons]
      constructor
      · refine List.pairwise_append.mpr ⟨page_descending here, descending, ?_⟩
        intro row inPage other inRest
        exact lt_of_lt_of_le (below other inRest k rfl) (above row inPage)
      · intro row member
        rcases List.mem_append.mp member with inPage | inRest
        · exact (mem_of_mem_page inPage).2
        · obtain ⟨_, last, _, shown, rfl, _⟩ := page_more positive next
          have lastShown : last ∈ (page key limit bound rows).1 := by simp [shown]
          intro other same
          exact lt_trans (below row inRest _ rfl)
            ((mem_of_mem_page lastShown).2 other same)

/-- A row that is there all the time is shown, if the walk has come past it. -/
theorem Walk.complete (positive : 0 < limit)
    (walk : Walk key limit bound tables pages last)
    (distinct : ∀ table ∈ tables, (table.map key).Nodup) {row : ρ}
    (below : Below key bound row) (persistent : ∀ table ∈ tables, row ∈ table)
    (passed : ∀ k ∈ last, k ≤ key row) : row ∈ pages.flatten := by
  induction walk with
  | one bound rows =>
      rw [List.flatten_singleton]
      have left := mem_remaining.mpr ⟨persistent rows (by simp), below⟩
      cases next : (page key limit bound rows).2 with
      | none => exact page_last positive next ▸ left
      | some k =>
          rw [(page_split positive (distinct rows (by simp)) next).2] at left
          rcases List.mem_append.mp left with shown | behind
          · exact shown
          · have under := (mem_remaining.mp behind).2 k rfl
            exact absurd (lt_of_lt_of_le under (passed k next)) (lt_irrefl _)
  | @more bound rows k tables pages last next rest inductionHypothesis =>
      rw [List.flatten_cons, List.mem_append]
      have left := mem_remaining.mpr ⟨persistent rows (by simp), below⟩
      rw [(page_split positive (distinct rows (by simp)) next).2] at left
      rcases List.mem_append.mp left with shown | behind
      · exact .inl shown
      · exact .inr (inductionHypothesis
          (fun table member => distinct table (by simp [member]))
          (mem_remaining.mp behind).2
          (fun table member => persistent table (by simp [member])) passed)

end Walks

/-- Over a table that does not change, a page with a page after leaves less to be
shown. -/
theorem remaining_shrinks {k : κ} (positive : 0 < limit)
    (distinct : (rows.map key).Nodup)
    (next : (page key limit bound rows).2 = some k) :
    (remaining key (some k) rows).length < (remaining key bound rows).length := by
  obtain ⟨front, last, _, shown, _⟩ := page_more positive next
  rw [(page_split positive distinct next).2, shown]
  simp
  omega

/-- Over a table that does not change the walk ends, and shows exactly what is left
at its start, in order. -/
theorem Walk.exists_whole (positive : 0 < limit) (distinct : (rows.map key).Nodup)
    (bound : Option κ) :
    ∃ n pages, Walk key limit bound (List.replicate (n + 1) rows) pages none ∧
      pages.flatten = remaining key bound rows := by
  generalize size : (remaining key bound rows).length = left
  induction left using Nat.strong_induction_on generalizing bound with
  | _ left inductionHypothesis =>
      cases next : (page key limit bound rows).2 with
      | none =>
          refine ⟨0, [(page key limit bound rows).1], ?_, ?_⟩
          · exact next ▸ Walk.one bound rows
          · rw [List.flatten_singleton]
            exact page_last positive next
      | some k =>
          obtain ⟨n, pages, walk, whole⟩ := inductionHypothesis _
            (size ▸ remaining_shrinks positive distinct next) (some k) rfl
          refine ⟨n + 1, (page key limit bound rows).1 :: pages, .more next walk, ?_⟩
          rw [List.flatten_cons, whole]
          exact (page_split positive distinct next).2.symm

end Keyset
