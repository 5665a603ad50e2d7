import Mathlib.Data.List.Sort

/-! Pages of a table cut by offset and limit, and what an insertion or a deletion does to the places of the other rows. -/
namespace OffsetPaging
variable {ι : Type} [LinearOrder ι]

/-- `ORDER BY id LIMIT take OFFSET skip`. -/
def page (rows : List ι) (skip take : Nat) : List ι := ((rows.insertionSort (· ≤ ·)).drop skip).take take

/-- How many rows sort before `x`. -/
def rank (rows : List ι) (x : ι) : Nat := rows.countP (· < x)

variable {rows : List ι} {x q : ι} {skip take passed : Nat}

theorem rank_perm {l : List ι} (same : l.Perm rows) : rank l x = rank rows x := same.countP_eq _

theorem rank_lt_length (member : x ∈ rows) : rank rows x < rows.length := by
  rw [rank]
  apply lt_of_le_of_ne List.countP_le_length
  intro all
  have below := List.countP_eq_length.mp all x member
  simp at below

theorem rank_getElem {l : List ι} (sorted : l.Pairwise (· < ·)) {i : Nat} (small : i < l.length) : rank l l[i] = i := by
  induction l generalizing i with
  | nil => simp at small
  | cons a l ih =>
    obtain ⟨above, sorted⟩ := List.pairwise_cons.mp sorted
    cases i with
    | zero =>
      have none_ : ∀ y ∈ a :: l, ¬ y < a := by
        intro y member
        rcases List.mem_cons.mp member with rfl | later
        · exact lt_irrefl y
        · exact not_lt.mpr (le_of_lt (above y later))
      simpa [rank] using none_
    | succ i =>
      have inside : i < l.length := by simpa using small
      have less : a < l[i] := above _ (List.getElem_mem inside)
      have place := ih sorted inside
      simp only [rank, List.getElem_cons_succ, List.countP_cons] at place ⊢
      simp [place, less]

/-- A page holds the rows whose places it covers. -/
theorem mem_page (unique : rows.Nodup) : x ∈ page rows skip take ↔ x ∈ rows ∧ skip ≤ rank rows x ∧ rank rows x < skip + take := by
  have perm := List.perm_insertionSort (· ≤ ·) rows
  have sorted : (rows.insertionSort (· ≤ ·)).Pairwise (· < ·) := by
    have ordered := List.pairwise_insertionSort (· ≤ ·) rows
    exact (ordered.and (perm.nodup_iff.mpr unique)).imp fun pair => lt_of_le_of_ne pair.1 pair.2
  rw [← rank_perm perm, ← perm.mem_iff, page]
  generalize rows.insertionSort (· ≤ ·) = l at sorted
  constructor
  · intro member
    obtain ⟨i, small, rfl⟩ := List.mem_iff_getElem.mp member
    simp only [List.length_take, List.length_drop] at small
    rw [List.getElem_take, List.getElem_drop, rank_getElem sorted]
    exact ⟨List.getElem_mem _, by omega, by omega⟩
  · rintro ⟨member, low, high⟩
    obtain ⟨i, small, rfl⟩ := List.mem_iff_getElem.mp member
    rw [rank_getElem sorted] at low high
    apply List.mem_iff_getElem.mpr
    refine ⟨i - skip, ?_, ?_⟩
    · simp only [List.length_take, List.length_drop]
      omega
    · simp only [List.getElem_take, List.getElem_drop]
      congr 1
      omega

theorem page_subset (member : x ∈ page rows skip take) : x ∈ rows :=
  (List.mem_insertionSort _).mp (List.mem_of_mem_drop (List.mem_of_mem_take member))

/-- No row sorts at or behind the offset of an empty page. -/
theorem rank_lt_of_page_nil (positive : 0 < take) (empty : page rows skip take = []) (member : x ∈ rows) :
    rank rows x < skip := by
  have short : rows.length ≤ skip := by
    have lengths := congrArg List.length empty
    simp only [page, List.length_take, List.length_drop, List.length_insertionSort, List.length_nil] at lengths
    omega
  have small := rank_lt_length member
  omega

theorem rank_append (new : List ι) : rank rows x ≤ rank (rows ++ new) x := by
  rw [rank, rank, List.countP_append]
  omega

theorem rank_le (less : q ≤ x) : rank rows q ≤ rank rows x := by
  apply List.countP_mono_left
  intro y _ below
  exact decide_eq_true (lt_of_lt_of_le (of_decide_eq_true below) less)

/-- A deletion moves the rows behind it one place forward and no other. -/
theorem rank_filter (unique : rows.Nodup) (there : q ∈ rows) :
    rank rows x = rank (rows.filter (· ≠ q)) x + if q < x then 1 else 0 := by
  have erased : rows.filter (· ≠ q) = rows.erase q := by
    rw [unique.erase_eq_filter]
    exact List.filter_congr fun y _ => by simp [bne, BEq.beq]
  rw [erased, rank_perm (List.perm_cons_erase there).symm |>.symm, rank, List.countP_cons]
  simp [rank]

/-- A deletion at or behind place `passed`, or with every row before it, brings none to a place before `passed`. -/
theorem rank_lt_of_filter (unique : rows.Nodup) (member : x ∈ rows)
    (behind : q ∈ rows → passed ≤ rank rows q ∨ rows.length ≤ passed)
    (before : rank (rows.filter (· ≠ q)) x < passed) : rank rows x < passed := by
  by_cases there : q ∈ rows
  · rcases behind there with behind | none_
    · by_cases less : q < x
      · have own := rank_filter (x := q) unique there
        have other := rank_filter (x := x) unique there
        have order : rank (rows.filter (· ≠ q)) q ≤ rank (rows.filter (· ≠ q)) x := rank_le less.le
        simp only [lt_irrefl, if_false, less, if_true] at own other
        omega
      · have other := rank_filter (x := x) unique there
        simp only [less, if_false] at other
        omega
    · have small := rank_lt_length member
      omega
  · have same : rows.filter (· ≠ q) = rows := List.filter_eq_self.mpr fun y inside =>
      decide_eq_true fun eq => there (eq ▸ inside)
    rwa [same] at before

end OffsetPaging
