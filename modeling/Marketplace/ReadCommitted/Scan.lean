import Mathlib.Data.List.Nodup
import Mathlib.Data.List.Perm.Subperm

/-! Scans of a table: the keys of the rows that match, and how many there are. -/
namespace ReadCommitted

/-- The keys of the rows that match; `space` lists the keys there can be, in the order of the scan. -/
def scan {Key R : Type} (space : List Key) (p : R → Bool) (d : Key → Option R) : List Key :=
  space.filter fun k => (d k).any p

variable {Key R : Type} {space : List Key} {p : R → Bool} {c d : Key → Option R} {k : Key}

theorem mem_scan : k ∈ scan space p d ↔ k ∈ space ∧ (d k).any p = true := List.mem_filter

theorem scan_congr (same : ∀ k ∈ space, (d k).any p = (c k).any p) : scan space p d = scan space p c :=
  List.filter_congr same

theorem length_scan_le (fewer : ∀ k, (d k).any p = true → (c k).any p = true) :
    (scan space p d).length ≤ (scan space p c).length := by
  unfold scan
  rw [← List.countP_eq_length_filter, ← List.countP_eq_length_filter]
  exact List.countP_mono_left fun k _ => fewer k

theorem length_scan_le_succ (nodup : space.Nodup) (added : ∀ j, (d j).any p = true → (c j).any p = true ∨ j = k) :
    (scan space p d).length ≤ (scan space p c).length + 1 := by
  have inside : scan space p d ⊆ k :: scan space p c := by
    intro j member
    obtain ⟨listed, found⟩ := mem_scan.mp member
    rcases added j found with old | same
    · exact List.mem_cons_of_mem _ (mem_scan.mpr ⟨listed, old⟩)
    · exact same ▸ List.mem_cons_self
  exact (List.subperm_of_subset (nodup.filter _) inside).length_le

/-- Exactly one row matches. -/
theorem length_scan_one [DecidableEq Key] (nodup : space.Nodup) :
    (scan space p d).length = 1 ↔ ∃ k ∈ space, ∀ j ∈ space, (d j).any p = true ↔ j = k := by
  constructor
  · intro one
    obtain ⟨k, only⟩ := List.length_eq_one_iff.mp one
    have member : k ∈ scan space p d := only ▸ List.mem_singleton.mpr rfl
    refine ⟨k, (mem_scan.mp member).1, fun j listed => ⟨fun matched => ?_, ?_⟩⟩
    · have other : j ∈ scan space p d := mem_scan.mpr ⟨listed, matched⟩
      rw [only] at other
      exact List.mem_singleton.mp other
    · rintro rfl
      exact (mem_scan.mp member).2
  · rintro ⟨k, listed, only⟩
    have same : scan space p d = space.filter (· = k) := by
      refine List.filter_congr fun j member => ?_
      rw [Bool.eq_iff_iff, only j member, decide_eq_true_iff]
    rw [same, ← List.countP_eq_length_filter]
    exact List.count_eq_one_of_mem nodup listed

end ReadCommitted
