import FacetedQuery.Page
import Mathlib.Logic.ExistsUnique
import Mathlib.Order.Nat

/-!
# Windows of pages

The windows of the pages of one size follow each other without gap and overlap.  They reach every
row whose index is an unsigned integer of 64 bits; pages that would start behind these rows have no
window.
-/

namespace FacetedQuery

namespace Window

/-- The row with this index stands on the page. -/
def Holds (window : Window) (row : Nat) : Prop :=
  window.offset ≤ row ∧ row < window.offset + window.limit

/-- The stretch of rows that the window leaves. -/
def cut (window : Window) (rows : List α) : List α :=
  (rows.drop window.offset).take window.limit

end Window

namespace Page

variable {page : Page} {window : Window} {size : UInt64}

theorem toNat_size_pos (nonzero : size ≠ 0) : 0 < size.toNat :=
  Nat.pos_of_ne_zero fun zero => nonzero (UInt64.toNat_inj.mp zero)

theorem window_eq_ok_iff : page.window = .ok window ↔
    page.size ≠ 0 ∧ page.number.toNat * page.size.toNat < UInt64.size ∧
      window = ⟨page.size.toNat, page.number.toNat * page.size.toNat⟩ := by
  have zero : page.size.toNat = 0 ↔ page.size = 0 := ⟨fun zero => UInt64.toNat_inj.mp zero, by
    intro zero
    rw [zero]
    rfl⟩
  unfold Page.window
  simp only
  split
  · next empty => simp [zero.mp empty]
  · next nonzero =>
    rw [zero] at nonzero
    split
    · next fits =>
      simp only [Except.ok.injEq, ne_eq, nonzero, not_false_eq_true, fits, true_and]
      exact eq_comm
    · next long => simp [long]

theorem window_eq_error_iff : (∃ fault, page.window = .error fault) ↔
    page.size = 0 ∨ UInt64.size ≤ page.number.toNat * page.size.toNat := by
  have opposite : (∃ fault, page.window = .error fault) ↔ ¬∃ window, page.window = .ok window := by
    cases page.window <;> simp
  rw [opposite]
  simp only [window_eq_ok_iff]
  constructor
  · intro fails
    by_contra neither
    exact fails ⟨_, fun empty => neither (.inl empty),
      not_le.mp fun long => neither (.inr long), rfl⟩
  · rintro (empty | long) ⟨_, nonzero, fits, -⟩
    · exact nonzero empty
    · exact absurd fits (not_lt.mpr long)

/-- Every row that can be numbered stands on exactly one page. -/
theorem existsUnique_holds (nonzero : size ≠ 0) {row : Nat} (numbered : row < UInt64.size) :
    ∃! number : UInt64, ∃ window, Page.window ⟨number, size⟩ = .ok window ∧ window.Holds row := by
  have positive := toNat_size_pos nonzero
  have start := Nat.div_mul_le_self row size.toNat
  have small : row / size.toNat < UInt64.size :=
    lt_of_le_of_lt (Nat.div_le_self row size.toNat) numbered
  have isNumber : (UInt64.ofNat (row / size.toNat)).toNat = row / size.toNat :=
    UInt64.toNat_ofNat_of_lt small
  refine ⟨.ofNat (row / size.toNat),
    ⟨⟨size.toNat, row / size.toNat * size.toNat⟩, ?_, start, Nat.lt_div_mul_add positive⟩, ?_⟩
  · rw [window_eq_ok_iff]
    exact ⟨nonzero, by simpa only [isNumber] using lt_of_le_of_lt start numbered,
      by simp only [isNumber]⟩
  · rintro number ⟨window, made, first, last⟩
    obtain ⟨-, -, rfl⟩ := window_eq_ok_iff.mp made
    rw [← UInt64.toNat_inj, isNumber]
    exact (Nat.div_eq_of_lt_le first (by rw [Nat.add_mul, Nat.one_mul]; exact last)).symm

/-- The rows that stand on a page; a page without a window has none. -/
def rows (page : Page) (rows : List α) : List α :=
  match page.window with
  | .ok window => window.cut rows
  | .error _ => []

/-- The rows of the first pages of a size, one page behind the other. -/
def firstRows (size : UInt64) (count : Nat) (rows : List α) : List α :=
  (List.range count).flatMap fun number => Page.rows ⟨.ofNat number, size⟩ rows

/-- The rows of all pages of a size, one page behind the other. -/
def allRows (size : UInt64) (rows : List α) : List α :=
  firstRows size UInt64.size rows

/-- The number of rows that stand on pages of a size: all that can be numbered, and what else stands
on the page of the last of these. -/
def reach (size : UInt64) : Nat :=
  (UInt64.size + size.toNat - 1) / size.toNat * size.toNat

theorem le_reach (nonzero : size ≠ 0) : UInt64.size ≤ reach size := by
  have positive := toNat_size_pos nonzero
  have close := Nat.lt_div_mul_add (a := UInt64.size + size.toNat - 1) positive
  unfold reach
  omega

theorem rows_of_lt (nonzero : size ≠ 0) {number : Nat} (small : number < UInt64.size)
    (fits : number * size.toNat < UInt64.size) (rows : List α) :
    Page.rows ⟨.ofNat number, size⟩ rows = (rows.drop (number * size.toNat)).take size.toNat := by
  have isNumber : (UInt64.ofNat number).toNat = number := UInt64.toNat_ofNat_of_lt small
  have made : Page.window ⟨.ofNat number, size⟩ = .ok ⟨size.toNat, number * size.toNat⟩ :=
    window_eq_ok_iff.mpr ⟨nonzero, by simpa only [isNumber] using fits, by simp only [isNumber]⟩
  simp only [Page.rows, made, Window.cut]

theorem rows_of_le {number : Nat} (small : number < UInt64.size)
    (long : UInt64.size ≤ number * size.toNat) (rows : List α) :
    Page.rows ⟨.ofNat number, size⟩ rows = [] := by
  have isNumber : (UInt64.ofNat number).toNat = number := UInt64.toNat_ofNat_of_lt small
  obtain ⟨fault, failed⟩ : ∃ fault, Page.window ⟨.ofNat number, size⟩ = .error fault :=
    window_eq_error_iff.mpr (.inr (by simpa only [isNumber] using long))
  simp only [Page.rows, failed]

/-- The pages that have a window show the rows up to the end of the last of them. -/
theorem firstRows_eq_take (nonzero : size ≠ 0) {count : Nat} (few : count ≤ UInt64.size)
    (rows : List α) :
    firstRows size count rows = rows.take (min (count * size.toNat) (reach size)) := by
  have positive := toNat_size_pos nonzero
  induction count with
  | zero => simp [firstRows]
  | succ count induction =>
      have before := induction (by omega)
      unfold firstRows at before ⊢
      rw [List.range_succ, List.flatMap_append, List.flatMap_singleton, before]
      by_cases fits : count * size.toNat < UInt64.size
      · have within : (count + 1) * size.toNat ≤ reach size := by
          refine Nat.mul_le_mul_right _ ((Nat.le_div_iff_mul_le positive).mpr ?_)
          rw [Nat.add_mul]
          omega
        have grows : (count + 1) * size.toNat = count * size.toNat + size.toNat := by
          rw [Nat.add_mul, Nat.one_mul]
        rw [rows_of_lt nonzero (by omega) fits, min_eq_left within, min_eq_left (by omega), grows,
          List.take_add]
      · have beyond : reach size ≤ count * size.toNat := by
          refine Nat.mul_le_mul_right _
            (Nat.lt_succ_iff.mp ((Nat.div_lt_iff_lt_mul positive).mpr ?_))
          rw [Nat.succ_mul]
          omega
        rw [rows_of_le (by omega) (by omega), List.append_nil, min_eq_right beyond,
          min_eq_right (le_trans beyond (Nat.mul_le_mul_right _ (Nat.le_succ count)))]

theorem allRows_eq_take (nonzero : size ≠ 0) (rows : List α) :
    allRows size rows = rows.take (reach size) := by
  have positive := toNat_size_pos nonzero
  unfold allRows
  rw [firstRows_eq_take nonzero (Nat.le_refl _), min_eq_right]
  unfold reach
  refine Nat.mul_le_mul_right _ (Nat.lt_succ_iff.mp ((Nat.div_lt_iff_lt_mul positive).mpr ?_))
  have grows : UInt64.size ≤ UInt64.size * size.toNat := Nat.le_mul_of_pos_right _ positive
  rw [Nat.succ_mul]
  omega

/-- All pages together show every row once, if the rows can be numbered. -/
theorem allRows_eq_self (nonzero : size ≠ 0) {rows : List α}
    (numbered : rows.length ≤ UInt64.size) :
    allRows size rows = rows := by
  rw [allRows_eq_take nonzero, List.take_of_length_le (le_trans numbered (le_reach nonzero))]

end Page

end FacetedQuery
