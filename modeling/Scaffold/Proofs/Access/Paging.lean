import Scaffold.Access.Paging

/-!
# Fetching page after page

The actions of a collection fetch a first page of records and then one page after another, as long as the last
page came back full. A full page may be the last one, and then an empty page follows it: it has no last record
that another page could start after, and it is not full.

* `Fetches`: the listings that are reached by fetching pages;
* `fetches_end`: fetching ends, after a number of pages that is known beforehand, with all records in order.
-/

namespace Scaffold.Paging

variable {α : Type}

/-! ## Listings -/

/-- What was fetched so far. The cursor is the last record of the last page, told by the number of records up to
it, so that records that are alike are different cursors. An empty page has none. -/
structure Listing (α : Type) where
  items : List α
  cursor : Option Nat
  hasMore : Bool
  pageSize : Nat

/-- The records after a place, at most as many as a page holds. -/
def pageAfter (records : List α) (place pageSize : Nat) : List α := (records.drop place).take pageSize

/-- The listing of the items before a place and of a page that starts there. -/
def received (before : List α) (place : Nat) (page : List α) (pageSize : Nat) : Listing α where
  items := before ++ page
  cursor := if 0 < page.length then some (place + page.length) else none
  hasMore := hasMore (.int page.length) (.int pageSize)
  pageSize := pageSize

/-- The listing of the first page. -/
def firstPage (records : List α) (pageSize : Nat) : Listing α :=
  received [] 0 (pageAfter records 0 pageSize) pageSize

/-- The listing with the page after the cursor, or the listing itself if no page is taken to follow. -/
def nextPage (records : List α) (l : Listing α) : Listing α :=
  match l.cursor with
  | some place =>
    if l.hasMore then received l.items place (pageAfter records place l.pageSize) l.pageSize else l
  | none => l

/-- The listings after a number of fetches, where a page is fetched as long as one is taken to follow. -/
inductive Fetches (records : List α) (pageSize : Nat) : Nat → Listing α → Prop where
  | first : Fetches records pageSize 1 (firstPage records pageSize)
  | next {n : Nat} {l : Listing α} (h : Fetches records pageSize n l) (hmore : l.hasMore = true) :
    Fetches records pageSize (n + 1) (nextPage records l)

/-! ## One page -/

variable {records : List α} {pageSize n : Nat} {l : Listing α}

theorem hasMore_int_iff (returned pageSize : Nat) :
    hasMore (.int returned) (.int pageSize) = true ↔ returned = pageSize := by
  rw [hasMore, Value.same, beq_iff_eq, Int.natCast_inj]

/-- An empty page is not full. -/
theorem hasMore_of_cursor_none {before : List α} {place : Nat} {page : List α} (hsize : 0 < pageSize)
    (h : (received before place page pageSize).cursor = none) :
    (received before place page pageSize).hasMore = false := by
  have hempty : page.length = 0 := by
    by_cases hpage : 0 < page.length
    · rw [received, if_pos hpage] at h
      cases h
    · omega
  rw [← Bool.not_eq_true]
  intro hmore
  have hfull := (hasMore_int_iff page.length pageSize).1 hmore
  omega

/-- A listing holds the records of the first `n` pages. It is taken to go on exactly if there are as many records
as `n` full pages hold, and then its cursor stands after these. -/
structure IsAfter (records : List α) (pageSize n : Nat) (l : Listing α) : Prop where
  items_eq : l.items = records.take (n * pageSize)
  hasMore_iff : l.hasMore = true ↔ n * pageSize ≤ records.length
  cursor_eq : l.hasMore = true → l.cursor = some (n * pageSize)
  hasMore_of_none : l.cursor = none → l.hasMore = false
  pageSize_eq : l.pageSize = pageSize

/-- What one fetch does: a page that starts after `n` full pages is the next one. -/
theorem isAfter_received (hsize : 0 < pageSize) (h : n * pageSize ≤ records.length) :
    IsAfter records pageSize (n + 1)
      (received (records.take (n * pageSize)) (n * pageSize) (pageAfter records (n * pageSize) pageSize)
        pageSize) := by
  have hlength : (pageAfter records (n * pageSize) pageSize).length
      = min pageSize (records.length - n * pageSize) := by
    simp [pageAfter]
  have hsucc : (n + 1) * pageSize = n * pageSize + pageSize := Nat.succ_mul n pageSize
  have hmore : (received (records.take (n * pageSize)) (n * pageSize) (pageAfter records (n * pageSize) pageSize)
      pageSize).hasMore = true ↔ (n + 1) * pageSize ≤ records.length := by
    -- The page is full exactly if one more page fits into the records.
    refine (hasMore_int_iff _ _).trans ?_
    rw [hlength, hsucc]
    omega
  constructor
  case items_eq => rw [received, pageAfter, hsucc, List.take_add]
  case hasMore_iff => exact hmore
  case cursor_eq =>
    intro hfull
    have hpage := (hasMore_int_iff _ _).1 hfull
    rw [received, hpage, if_pos hsize, hsucc]
  case hasMore_of_none => exact hasMore_of_cursor_none hsize
  case pageSize_eq => rfl

/-- The page after a listing that goes on is fetched from its cursor. -/
theorem IsAfter.next (hsize : 0 < pageSize) (h : IsAfter records pageSize n l) (hmore : l.hasMore = true) :
    IsAfter records pageSize (n + 1) (nextPage records l) := by
  have hnext : nextPage records l = received (records.take (n * pageSize)) (n * pageSize)
      (pageAfter records (n * pageSize) pageSize) pageSize := by
    simp only [nextPage, h.cursor_eq hmore]
    rw [if_pos hmore, h.items_eq, h.pageSize_eq]
  rw [hnext]
  exact isAfter_received hsize (h.hasMore_iff.1 hmore)

/-! ## Page after page -/

theorem Fetches.isAfter (hsize : 0 < pageSize) (h : Fetches records pageSize n l) :
    IsAfter records pageSize n l := by
  induction h with
  | first =>
    have hfirst := @isAfter_received α records pageSize 0 hsize (by simp)
    rwa [Nat.zero_mul, List.take_zero] at hfirst
  | next _ hmore ih => exact ih.next hsize hmore

/-- A page is fetched as long as the records fill the pages before it. -/
theorem exists_fetches (hsize : 0 < pageSize) {n : Nat} (h : n * pageSize ≤ records.length) :
    ∃ l, Fetches records pageSize (n + 1) l := by
  induction n with
  | zero => exact ⟨_, .first⟩
  | succ n ih =>
    have hsucc : (n + 1) * pageSize = n * pageSize + pageSize := Nat.succ_mul n pageSize
    obtain ⟨l, hl⟩ := ih (by omega)
    exact ⟨_, hl.next ((hl.isAfter hsize).hasMore_iff.2 h)⟩

/-- Fetching pages of a size ends after as many fetches as there are full pages and one more, with all records in
their order. Before that it always goes on with the next records, and a listing without a cursor never does. -/
theorem fetches_end (records : List α) {pageSize : Nat} (hsize : 0 < pageSize) :
    (∃ l, Fetches records pageSize (records.length / pageSize + 1) l ∧ l.hasMore = false ∧ l.items = records)
      ∧ ∀ n l, Fetches records pageSize n l →
        n ≤ records.length / pageSize + 1
          ∧ (l.hasMore = true ↔ n < records.length / pageSize + 1)
          ∧ l.items = records.take (n * pageSize)
          ∧ (l.cursor = none → l.hasMore = false) := by
  -- there is more exactly while the fetched pages do not reach the end of the records
  have hgoes : ∀ {n l}, Fetches records pageSize n l → (l.hasMore = true ↔ n < records.length / pageSize + 1) := by
    intro n l hl
    rw [(hl.isAfter hsize).hasMore_iff, Nat.lt_succ_iff, Nat.le_div_iff_mul_le hsize]
  constructor
  · obtain ⟨l, hl⟩ := exists_fetches hsize (Nat.div_mul_le_self records.length pageSize)
    refine ⟨l, hl, ?_, ?_⟩
    · rw [← Bool.not_eq_true, hgoes hl]
      exact Nat.lt_irrefl _
    · rw [(hl.isAfter hsize).items_eq]
      refine List.take_of_length_le (Nat.le_of_lt ?_)
      rw [Nat.mul_comm]
      exact Nat.lt_mul_div_succ records.length hsize
  · intro n l hl
    refine ⟨?_, hgoes hl, (hl.isAfter hsize).items_eq, (hl.isAfter hsize).hasMore_of_none⟩
    cases hl with
    | first => exact Nat.le_add_left 1 _
    | next hl hmore => exact (hgoes hl).1 hmore

/-- Two full pages are followed by an empty one. -/
theorem fetches_end_of_two_full_pages : 0 < 2
    ∧ ∃ l, Fetches [31, 41, 59, 26] 2 3 l ∧ l.hasMore = false ∧ l.items = [31, 41, 59, 26] :=
  ⟨by decide, (fetches_end [31, 41, 59, 26] (by decide)).1⟩

end Scaffold.Paging
