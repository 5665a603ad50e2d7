import Mathlib.Data.List.Nodup
import Mathlib.Data.List.Perm.Basic
import Mathlib.Data.List.Sort

/-! Pages cut by offset from answers that put rows with equal keys in any order: when the pages
together hold every row once. -/
namespace TiedPages
variable {α : Type}

/-- An order whose ties are the rows with equal keys. -/
structure TotalPreorder (le : α → α → Bool) : Prop where
  total : ∀ a b, le a b = true ∨ le b a = true
  trans : ∀ a b c, le a b = true → le b c = true → le a c = true

/-- What a database may answer to a query sorted by `le`. -/
def IsAnswer (le : α → α → Bool) (rows answer : List α) : Prop :=
  answer.Perm rows ∧ answer.Pairwise fun a b => le a b = true

def slice (answer : List α) (limit n : Nat) : List α := (answer.drop (n * limit)).take limit

/-- `Math.ceil(total / limit)` -/
def pageCount (total limit : Nat) : Nat := (total + limit - 1) / limit

/-- How many rows are sorted before `x` in every answer. -/
def before (le : α → α → Bool) (rows : List α) (x : α) : Nat := rows.countP fun y => !le x y

def upto (le : α → α → Bool) (rows : List α) (x : α) : Nat := rows.countP fun y => le y x

/-- No page boundary falls between two rows that tie. -/
def TiesFit (le : α → α → Bool) (rows : List α) (limit : Nat) : Prop :=
  ∀ x ∈ rows, before le rows x / limit = (upto le rows x - 1) / limit

/-- However the ties fall on each page, the pages together hold each row once. -/
def PagesComplete (le : α → α → Bool) (rows : List α) (limit : Nat) : Prop :=
  ∀ answers : Nat → List α, (∀ n, IsAnswer le rows (answers n)) →
    ((List.range (pageCount rows.length limit)).flatMap fun n => slice (answers n) limit n).Perm rows

variable {le : α → α → Bool} {rows answer : List α} {limit : Nat}

theorem before_perm (same : answer.Perm rows) (x : α) : before le answer x = before le rows x := same.countP_eq _

theorem upto_perm (same : answer.Perm rows) (x : α) : upto le answer x = upto le rows x := same.countP_eq _

theorem TotalPreorder.self (ordered : TotalPreorder le) (a : α) : le a a = true := (ordered.total a a).elim id id

theorem before_le (sorted : answer.Pairwise fun a b => le a b = true) (ordered : TotalPreorder le) {i : Nat}
    (inside : i < answer.length) : before le answer answer[i] ≤ i := by
  have behind : (answer.drop i).countP (fun y => !le answer[i] y) = 0 := by
    refine List.countP_eq_zero.mpr fun y mem => ?_
    obtain ⟨j, small, rfl⟩ := List.mem_iff_getElem.mp mem
    rw [List.getElem_drop]
    rcases Nat.eq_zero_or_pos j with rfl | positive
    · simp [ordered.self]
    · have later := List.pairwise_iff_getElem.mp sorted i (i + j) inside
        (by rw [List.length_drop] at small; omega) (by omega)
      simp [later]
  have split := congrArg (List.countP fun y => !le answer[i] y) (List.take_append_drop i answer)
  rw [List.countP_append, behind] at split
  have short : (answer.take i).countP (fun y => !le answer[i] y) ≤ (answer.take i).length := List.countP_le_length
  rw [List.length_take] at short
  unfold before
  omega

theorem lt_upto (sorted : answer.Pairwise fun a b => le a b = true) (ordered : TotalPreorder le) {i : Nat}
    (inside : i < answer.length) : i < upto le answer answer[i] := by
  have ahead : (answer.take (i + 1)).countP (fun y => le y answer[i]) = (answer.take (i + 1)).length := by
    refine List.countP_eq_length.mpr fun y mem => ?_
    obtain ⟨j, small, rfl⟩ := List.mem_iff_getElem.mp mem
    rw [List.getElem_take]
    rw [List.length_take] at small
    rcases Nat.lt_or_ge j i with earlier | last
    · exact List.pairwise_iff_getElem.mp sorted j i (by omega) inside earlier
    · have same : j = i := by omega
      subst same
      exact ordered.self _
  have split := congrArg (List.countP fun y => le y answer[i]) (List.take_append_drop (i + 1) answer)
  rw [List.countP_append, ahead, List.length_take] at split
  unfold upto
  omega

theorem slice_eq_filter (kept : α → Bool) (l : List α) (start length : Nat)
    (places : ∀ i (inside : i < l.length), kept l[i] = true ↔ start ≤ i ∧ i < start + length) :
    (l.drop start).take length = l.filter kept := by
  have split : l = l.take start ++ ((l.drop start).take length ++ (l.drop start).drop length) := by
    rw [List.take_append_drop, List.take_append_drop]
  have first : (l.take start).filter kept = [] := by
    refine List.filter_eq_nil_iff.mpr fun y mem => ?_
    obtain ⟨i, small, rfl⟩ := List.mem_iff_getElem.mp mem
    rw [List.length_take] at small
    rw [List.getElem_take, places]
    omega
  have middle : ((l.drop start).take length).filter kept = (l.drop start).take length := by
    refine List.filter_eq_self.mpr fun y mem => ?_
    obtain ⟨i, small, rfl⟩ := List.mem_iff_getElem.mp mem
    rw [List.length_take, List.length_drop] at small
    rw [List.getElem_take, List.getElem_drop, places]
    omega
  have last : ((l.drop start).drop length).filter kept = [] := by
    refine List.filter_eq_nil_iff.mpr fun y mem => ?_
    obtain ⟨i, small, rfl⟩ := List.mem_iff_getElem.mp mem
    rw [List.length_drop, List.length_drop] at small
    rw [List.getElem_drop, List.getElem_drop, places]
    omega
  conv => rhs; rw [split, List.filter_append, List.filter_append, first, middle, last]
  rw [List.nil_append, List.append_nil]

def pageOf (le : α → α → Bool) (rows : List α) (limit : Nat) (x : α) : Nat := before le rows x / limit

theorem pageOf_getElem (ordered : TotalPreorder le) (given : IsAnswer le rows answer) (fit : TiesFit le rows limit) {i : Nat}
    (inside : i < answer.length) : pageOf le rows limit answer[i] = i / limit := by
  have low := before_le given.2 ordered inside
  have high := lt_upto given.2 ordered inside
  rw [before_perm given.1] at low
  rw [upto_perm given.1] at high
  have equal := fit answer[i] (given.1.mem_iff.mp (List.getElem_mem inside))
  have left : pageOf le rows limit answer[i] ≤ i / limit := Nat.div_le_div_right low
  have right : i / limit ≤ (upto le rows answer[i] - 1) / limit := Nat.div_le_div_right (by omega)
  rw [← equal] at right
  exact Nat.le_antisymm left right

theorem slice_perm (ordered : TotalPreorder le) (positive : 0 < limit) (given : IsAnswer le rows answer)
    (fit : TiesFit le rows limit) (n : Nat) :
    (slice answer limit n).Perm (rows.filter fun x => pageOf le rows limit x = n) := by
  refine List.Perm.trans (List.Perm.of_eq ?_) (given.1.filter _)
  refine slice_eq_filter _ answer _ _ fun i inside => ?_
  rw [decide_eq_true_eq, pageOf_getElem ordered given fit inside, Nat.div_eq_iff positive]
  omega

theorem flatMap_filter_perm (number : α → Nat) (rows : List α) (count : Nat) :
    ((List.range count).flatMap fun n => rows.filter fun x => number x = n).Perm
      (rows.filter fun x => number x < count) := by
  induction count with
  | zero => simp
  | succ count ih =>
    rw [List.range_succ, List.flatMap_append, List.flatMap_singleton]
    refine (ih.append_right _).trans ?_
    have parts := List.filter_append_perm (fun x => decide (number x < count))
      (rows.filter fun x => number x < count + 1)
    rw [List.filter_filter, List.filter_filter] at parts
    refine List.Perm.trans (List.Perm.of_eq (congrArg₂ List.append ?_ ?_)) parts
    · refine List.filter_congr fun x _ => ?_
      rw [← Bool.decide_and, decide_eq_decide]
      omega
    · refine List.filter_congr fun x _ => ?_
      rw [← decide_not, ← Bool.decide_and, decide_eq_decide]
      omega

theorem before_lt_length (ordered : TotalPreorder le) {x : α} (mem : x ∈ rows) : before le rows x < rows.length := by
  refine Nat.lt_of_le_of_ne List.countP_le_length fun all => ?_
  have itself := List.countP_eq_length.mp all x mem
  rw [ordered.self] at itself
  cases itself

theorem complete_of_fit (ordered : TotalPreorder le) (positive : 0 < limit) (fit : TiesFit le rows limit) :
    PagesComplete le rows limit := by
  intro answers given
  have each : ((List.range (pageCount rows.length limit)).flatMap fun n => slice (answers n) limit n).Perm
      ((List.range (pageCount rows.length limit)).flatMap fun n => rows.filter fun x => pageOf le rows limit x = n) :=
    List.Perm.flatMap_left _ fun n _ => slice_perm ordered positive (given n) fit n
  refine each.trans ((flatMap_filter_perm _ _ _).trans (List.Perm.of_eq ?_))
  refine List.filter_eq_self.mpr fun x mem => ?_
  have inside := before_lt_length ordered mem
  rw [decide_eq_true_eq, pageOf, pageCount, Nat.div_lt_iff_lt_mul positive]
  have whole : rows.length + limit - 1 < (rows.length + limit - 1) / limit * limit + limit := Nat.lt_div_mul_add positive
  omega

theorem exists_answer (ordered : TotalPreorder le) (rows : List α) : ∃ answer, IsAnswer le rows answer := by
  have total : Std.Total fun a b => le a b = true := ⟨ordered.total⟩
  have trans : IsTrans α fun a b => le a b = true := ⟨ordered.trans⟩
  exact ⟨rows.insertionSort fun a b => le a b = true, List.perm_insertionSort _ rows, List.pairwise_insertionSort _ rows⟩

theorem upto_le_before (ordered : TotalPreorder le) {x y : α} (less : le y x = false) : upto le rows x ≤ before le rows y := by
  refine List.countP_mono_left fun w _ below => ?_
  rw [Bool.not_eq_true']
  by_contra reaches
  rw [Bool.not_eq_false] at reaches
  rw [ordered.trans y w x reaches below] at less
  cases less

/-- What stands in the place of a tie with `x` ties with it. -/
theorem tie_of_place (ordered : TotalPreorder le) (given : IsAnswer le rows answer) {x : α} {i : Nat}
    (inside : i < answer.length) (low : before le rows x ≤ i) (high : i < upto le rows x) :
    le x answer[i] = true ∧ le answer[i] x = true := by
  have own := before_le given.2 ordered inside
  have last := lt_upto given.2 ordered inside
  rw [before_perm given.1] at own
  rw [upto_perm given.1] at last
  constructor
  · by_contra below
    have counts : upto le rows answer[i] ≤ before le rows x := upto_le_before ordered (Bool.eq_false_iff.mpr below)
    omega
  · by_contra above
    have counts : upto le rows x ≤ before le rows answer[i] := upto_le_before ordered (Bool.eq_false_iff.mpr above)
    omega

/-- Two neighbours that tie may as well come in the other order. -/
theorem swap_answer (given : IsAnswer le rows answer) {i : Nat} (inside : i + 1 < answer.length)
    (tie : le answer[i + 1] answer[i] = true) :
    ∃ other, IsAnswer le rows other ∧ other.length = answer.length ∧ other[i + 1]? = some answer[i] := by
  generalize held : answer[i] = y at tie
  generalize next : answer[i + 1] = z at tie
  have split : answer = answer.take i ++ y :: z :: answer.drop (i + 1 + 1) := by
    rw [← held, ← next, ← List.drop_eq_getElem_cons inside, ← List.drop_eq_getElem_cons (Nat.lt_of_succ_lt inside),
      List.take_append_drop]
  have size : (answer.take i).length = i := List.length_take_of_le (by omega)
  generalize answer.take i = front at split size
  generalize answer.drop (i + 1 + 1) = back at split
  subst split
  have swapped : (front ++ z :: y :: back).Perm (front ++ y :: z :: back) := (List.Perm.swap y z back).append_left front
  refine ⟨front ++ z :: y :: back, ⟨swapped.trans given.1, ?_⟩, swapped.length_eq, ?_⟩
  · have sorted := given.2
    rw [List.pairwise_append, List.pairwise_cons, List.pairwise_cons] at sorted ⊢
    obtain ⟨fronts, ⟨afterY, afterZ, backs⟩, across⟩ := sorted
    refine ⟨fronts, ⟨?_, ?_, backs⟩, ?_⟩
    · intro w mem
      rcases List.mem_cons.mp mem with rfl | later
      · exact tie
      · exact afterZ w later
    · exact fun w mem => afterY w (List.mem_cons_of_mem _ mem)
    · intro v first w mem
      refine across v first w ?_
      simp only [List.mem_cons] at mem ⊢
      tauto
  · rw [List.getElem?_append_right (by omega), size, Nat.add_sub_cancel_left]
    rfl

theorem mem_slice {i : Nat} (inside : i < answer.length) {n : Nat} (low : n * limit ≤ i) (high : i < n * limit + limit) :
    answer[i] ∈ slice answer limit n := by
  unfold slice
  refine List.mem_iff_getElem.mpr ⟨i - n * limit, ?_, ?_⟩
  · rw [List.length_take, List.length_drop]
    omega
  · rw [List.getElem_take, List.getElem_drop]
    congr 1
    omega

theorem before_lt_upto (ordered : TotalPreorder le) (given : IsAnswer le rows answer) {x : α} (mem : x ∈ rows) :
    before le rows x < upto le rows x := by
  obtain ⟨i, inside, rfl⟩ := List.mem_iff_getElem.mp (given.1.mem_iff.mpr mem)
  have low := before_le given.2 ordered inside
  have high := lt_upto given.2 ordered inside
  rw [before_perm given.1] at low
  rw [upto_perm given.1] at high
  omega

/-- A boundary that cuts ties shows the row before it again, when the page behind it has the
ties in another order. -/
theorem fit_of_complete (ordered : TotalPreorder le) (positive : 0 < limit) (unique : rows.Nodup)
    (complete : PagesComplete le rows limit) : TiesFit le rows limit := by
  intro x mem
  obtain ⟨answer, given⟩ := exists_answer ordered rows
  have nonempty := before_lt_upto ordered given mem
  by_contra cut
  have pages : before le rows x / limit < (upto le rows x - 1) / limit :=
    Nat.lt_of_le_of_ne (Nat.div_le_div_right (by omega)) cut
  generalize number : before le rows x / limit = k at pages
  have ahead : before le rows x < (k + 1) * limit := by
    rw [← number]
    exact Nat.lt_mul_of_div_lt (Nat.lt_succ_self _) positive
  have behind : (k + 1) * limit ≤ upto le rows x - 1 := (Nat.le_div_iff_mul_le positive).mp pages
  have bound : upto le rows x ≤ rows.length := List.countP_le_length
  have length := given.1.length_eq
  have page : k * limit + limit = (k + 1) * limit := (Nat.succ_mul k limit).symm
  -- `i` is the last place of page `k`
  obtain ⟨i, place⟩ : ∃ i, (k + 1) * limit = i + 1 := ⟨(k + 1) * limit - 1, by omega⟩
  have inside : i + 1 < answer.length := by omega
  have first := tie_of_place ordered given (Nat.lt_of_succ_lt inside) (x := x) (by omega) (by omega)
  have second := tie_of_place ordered given inside (x := x) (by omega) (by omega)
  obtain ⟨other, otherGiven, size, moved⟩ := swap_answer given inside (ordered.trans _ _ _ second.2 first.1)
  have once : answer[i] ∈ slice answer limit k := mem_slice (Nat.lt_of_succ_lt inside) (by omega) (by omega)
  have stillInside : i + 1 < other.length := by omega
  have again : other[i + 1] ∈ slice other limit (k + 1) := mem_slice stillInside (by omega) (by omega)
  rw [List.getElem?_eq_getElem stillInside] at moved
  rw [Option.some.inj moved] at again
  have whole := complete (fun n => if n ≤ k then answer else other) (fun n => by split <;> assumption)
  have apart := (List.nodup_flatMap.mp (whole.nodup_iff.mpr unique)).2
  have counted : k + 1 < pageCount rows.length limit := by
    unfold pageCount
    rw [Nat.lt_div_iff_mul_lt positive]
    omega
  have disjoint := List.pairwise_iff_getElem.mp apart k (k + 1) (by rw [List.length_range]; omega)
    (by rw [List.length_range]; omega) (Nat.lt_succ_self k)
  rw [List.getElem_range, List.getElem_range] at disjoint
  refine disjoint (a := answer[i]) ?_ ?_
  · show answer[i] ∈ slice (if k ≤ k then answer else other) limit k
    rw [if_pos (Nat.le_refl k)]
    exact once
  · show answer[i] ∈ slice (if k + 1 ≤ k then answer else other) limit (k + 1)
    rw [if_neg (by omega)]
    exact again

/-- The pages are complete just when no boundary cuts a tie. -/
theorem complete_iff_fit (ordered : TotalPreorder le) (positive : 0 < limit) (unique : rows.Nodup) :
    PagesComplete le rows limit ↔ TiesFit le rows limit :=
  ⟨fit_of_complete ordered positive unique, complete_of_fit ordered positive⟩

/-- Rows that do not tie fit every page size. -/
theorem fit_of_antisymm (ordered : TotalPreorder le) (unique : rows.Nodup)
    (antisymm : ∀ a ∈ rows, ∀ b ∈ rows, le a b = true → le b a = true → a = b) : TiesFit le rows limit := by
  intro x mem
  obtain ⟨answer, given⟩ := exists_answer ordered rows
  have nonempty := before_lt_upto ordered given mem
  have bound : upto le rows x ≤ rows.length := List.countP_le_length
  have length := given.1.length_eq
  have alone (i : Nat) (inside : i < answer.length) (low : before le rows x ≤ i) (high : i < upto le rows x) :
      answer[i] = x := by
    have tie := tie_of_place ordered given inside low high
    exact antisymm _ (given.1.mem_iff.mp (List.getElem_mem inside)) x mem tie.2 tie.1
  have first := alone (before le rows x) (by omega) (Nat.le_refl _) nonempty
  have last := alone (upto le rows x - 1) (by omega) (by omega) (by omega)
  have same := (given.1.nodup_iff.mpr unique).getElem_inj_iff.mp (first.trans last.symm)
  rw [← same]

/-! ### Orders made of several keys -/

/-- `ORDER BY` two keys: `next` decides between rows that tie in `le`. -/
def thenBy (le next : α → α → Bool) (a b : α) : Bool := le a b && (!le b a || next a b)

theorem TotalPreorder.flip (ordered : TotalPreorder le) : TotalPreorder fun a b => le b a :=
  ⟨fun a b => ordered.total b a, fun a b c first second => ordered.trans c b a second first⟩

theorem TotalPreorder.onKey {κ : Type} {le : κ → κ → Bool} (ordered : TotalPreorder le) (key : α → κ) :
    TotalPreorder fun a b => le (key a) (key b) :=
  ⟨fun a b => ordered.total (key a) (key b), fun a b c => ordered.trans (key a) (key b) (key c)⟩

theorem TotalPreorder.ofLinear (κ : Type) [LinearOrder κ] : TotalPreorder fun a b : κ => decide (a ≤ b) := by
  refine ⟨fun a b => ?_, fun a b c first second => ?_⟩
  · rw [decide_eq_true_eq, decide_eq_true_eq]
    exact le_total a b
  · rw [decide_eq_true_eq] at first second ⊢
    exact first.trans second

theorem TotalPreorder.thenBy {next : α → α → Bool} (ordered : TotalPreorder le) (second : TotalPreorder next) :
    TotalPreorder (thenBy le next) := by
  unfold TiedPages.thenBy
  refine ⟨fun a b => ?_, fun a b c => ?_⟩
  · have first := ordered.total a b
    have decided := second.total a b
    cases up : le a b <;> cases down : le b a <;> simp_all
  · simp only [Bool.and_eq_true, Bool.or_eq_true, Bool.not_eq_true']
    rintro ⟨ab, nextAb⟩ ⟨bc, nextBc⟩
    refine ⟨ordered.trans a b c ab bc, ?_⟩
    by_cases ca : le c a = true
    · have ba := ordered.trans b c a bc ca
      have cb := ordered.trans c a b ca ab
      refine .inr (second.trans a b c ?_ ?_)
      · exact nextAb.resolve_left (by rw [ba]; nofun)
      · exact nextBc.resolve_left (by rw [cb]; nofun)
    · exact .inl (Bool.eq_false_iff.mpr ca)

theorem tie_of_thenBy {next : α → α → Bool} {a b : α} (up : thenBy le next a b = true) (down : thenBy le next b a = true) :
    next a b = true := by
  unfold thenBy at up down
  rw [Bool.and_eq_true, Bool.or_eq_true, Bool.not_eq_true'] at up down
  exact up.2.resolve_left (by rw [down.1]; nofun)

end TiedPages
