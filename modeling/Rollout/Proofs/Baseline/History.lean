/-
The order of revisions and the history that a walk goes back through. Comparing revisions is a
total order up to number and name (`compare_swap`, `compare_eq_iff`, `compare_trans`), so sorting
gives a permutation in that order. `History` says what the history of a target is, without saying
how it is sorted; where names are distinct there is exactly one (`history_sorted`,
`History.unique`).
-/
import Rollout.Baseline
import Mathlib.Tactic

namespace Rollout

/-! ## Names -/

theorem compareNames_swap (a b : Option String) : (compareNames a b).swap = compareNames b a := by
  rcases a with _ | a <;> rcases b with _ | b
  · rfl
  · rfl
  · rfl
  · simp only [compareNames]
    by_cases hab : a < b
    · have hba : ¬ b < a := String.lt_asymm hab
      have hne : b ≠ a := fun h => hba (h ▸ hab)
      rw [if_pos hab, if_neg hba, if_neg hne]; rfl
    · by_cases hba : b < a
      · have hne : a ≠ b := fun h => hab (h ▸ hba)
        rw [if_neg hab, if_neg hne, if_pos hba]; rfl
      · have heq : a = b := String.le_antisymm (String.not_lt.1 hba) (String.not_lt.1 hab)
        rw [if_neg hab, if_pos heq, if_neg hba, if_pos heq.symm]; rfl

theorem compareNames_eq_iff {a b : Option String} : compareNames a b = .eq ↔ a = b := by
  rcases a with _ | a <;> rcases b with _ | b
  · simp [compareNames]
  · simp [compareNames]
  · simp [compareNames]
  · simp only [compareNames, Option.some.injEq]
    split
    · rename_i h
      simp only [reduceCtorEq, false_iff]
      rintro rfl; exact String.lt_irrefl _ h
    · split <;> simp_all

theorem compareNames_some_lt_iff {a b : String} : compareNames (some a) (some b) = .lt ↔ a < b := by
  simp only [compareNames]
  split
  · simp_all
  · split <;> simp_all

theorem compareNames_lt_trans {a b c : Option String} (hab : compareNames a b = .lt) (hbc : compareNames b c = .lt) :
    compareNames a c = .lt := by
  rcases b with _ | b
  · rcases a with _ | a <;> simp [compareNames] at hab
  rcases c with _ | c
  · simp [compareNames] at hbc
  rcases a with _ | a
  · rfl
  · rw [compareNames_some_lt_iff] at hab hbc ⊢
    exact String.lt_trans hab hbc

namespace Revision

/-! ## Revisions -/

theorem compare_lt_iff {a b : Revision} : a.compare b = .lt ↔
    b.number < a.number ∨ a.number = b.number ∧ compareNames a.metadata.name b.metadata.name = .lt := by
  unfold compare
  split
  · rename_i h; simp [h]
  · split
    · rename_i h₁ h₂
      have hne : a.number ≠ b.number := fun h => h₁ (h ▸ h₂)
      simp [h₁, hne]
    · rename_i h₁ h₂
      have heq : a.number = b.number := Int64.le_antisymm (Int64.not_lt.1 h₁) (Int64.not_lt.1 h₂)
      simp [heq]

theorem compare_swap (a b : Revision) : (a.compare b).swap = b.compare a := by
  unfold compare
  by_cases h₁ : b.number < a.number
  · have h₂ : ¬ a.number < b.number := Int64.lt_asymm h₁
    rw [if_pos h₁, if_neg h₂, if_pos h₁]; rfl
  · by_cases h₂ : a.number < b.number
    · rw [if_neg h₁, if_pos h₂, if_pos h₂]; rfl
    · rw [if_neg h₁, if_neg h₂, if_neg h₂, if_neg h₁, compareNames_swap]

/-- Only number and name count. -/
theorem compare_eq_iff {a b : Revision} :
    a.compare b = .eq ↔ a.number = b.number ∧ a.metadata.name = b.metadata.name := by
  unfold compare
  split
  · rename_i h
    have hne : a.number ≠ b.number := fun heq => Int64.lt_irrefl (heq ▸ h)
    simp [hne]
  · split
    · rename_i h
      have hne : a.number ≠ b.number := fun heq => Int64.lt_irrefl (heq ▸ h)
      simp [hne]
    · rename_i h₁ h₂
      have heq : a.number = b.number := Int64.le_antisymm (Int64.not_lt.1 h₁) (Int64.not_lt.1 h₂)
      rw [compareNames_eq_iff]; simp [heq]

theorem compare_lt_trans {a b c : Revision} (hab : a.compare b = .lt) (hbc : b.compare c = .lt) :
    a.compare c = .lt := by
  rw [compare_lt_iff] at hab hbc ⊢
  rcases hab with hab | ⟨hab, hn⟩ <;> rcases hbc with hbc | ⟨hbc, hn'⟩
  · exact .inl (Int64.lt_trans hbc hab)
  · exact .inl (hbc ▸ hab)
  · exact .inl (hab ▸ hbc)
  · exact .inr ⟨hab.trans hbc, compareNames_lt_trans hn hn'⟩

/-- Revisions that compare equal compare alike with any other. -/
theorem compare_congr {a b : Revision} (h : a.compare b = .eq) (c : Revision) : a.compare c = b.compare c := by
  obtain ⟨hnumber, hname⟩ := compare_eq_iff.1 h
  unfold compare
  rw [hnumber, hname]

theorem compare_ne_gt_iff {a b : Revision} : (a.compare b != .gt) = true ↔ a.compare b = .lt ∨ a.compare b = .eq := by
  cases a.compare b <;> simp

theorem compare_trans (a b c : Revision) (hab : (a.compare b != .gt) = true) (hbc : (b.compare c != .gt) = true) :
    (a.compare c != .gt) = true := by
  rw [compare_ne_gt_iff] at hab hbc ⊢
  rcases hab with hab | hab
  · rcases hbc with hbc | hbc
    · exact .inl (compare_lt_trans hab hbc)
    · -- the other way round, so that the equal ones stand on the left
      have hcb : c.compare b = .eq := by rw [← compare_swap, hbc]; rfl
      rw [← compare_swap c a, compare_congr hcb, compare_swap]
      exact .inl hab
  · rw [compare_congr hab]; exact hbc

theorem compare_total (a b : Revision) : (a.compare b != .gt || b.compare a != .gt) = true := by
  rw [← compare_swap a b]
  cases a.compare b <;> rfl

/-! ## Sorting -/

theorem sort_perm (revisions : List Revision) : (sort revisions).Perm revisions := List.mergeSort_perm _ _

theorem pairwise_sort (revisions : List Revision) :
    (sort revisions).Pairwise fun a b => a.compare b = .lt ∨ a.compare b = .eq := by
  have h := List.pairwise_mergeSort compare_trans compare_total revisions
  exact h.imp fun hab => compare_ne_gt_iff.1 hab

/-! ## The history -/

/-- One revision comes before another: it has the higher number or, of two with one number, the
smaller name. -/
def Newer (a b : Revision) : Prop :=
  b.number < a.number ∨
    a.number = b.number ∧ ∃ m n, a.metadata.name = some m ∧ b.metadata.name = some n ∧ m < n

/-- Whether the walk looks at a revision: it has a name, and not the target's. -/
def isCandidate (target : WorkloadRef) (r : Revision) : Bool :=
  match r.metadata.name with
  | none => false
  | some name => name ≠ target.name

/-- The history of a target: the listed revisions that the walk looks at, the newest first. -/
structure History (target : WorkloadRef) (listed history : List Revision) : Prop where
  perm : history.Perm (listed.filter (isCandidate target))
  newer : history.Pairwise Newer

theorem Newer.asymm {a b : Revision} (hab : Newer a b) (hba : Newer b a) : False := by
  rcases hab with hab | ⟨hab, m, n, hm, hn, hlt⟩ <;> rcases hba with hba | ⟨hba, n', m', hn', hm', hgt⟩
  · exact Int64.lt_asymm hab hba
  · exact Int64.lt_irrefl (hba ▸ hab)
  · exact Int64.lt_irrefl (hab ▸ hba)
  · rw [hm] at hm'; rw [hn] at hn'
    cases hm'; cases hn'
    exact String.lt_asymm hlt hgt

/-- There is no more than one history. -/
theorem History.unique {target : WorkloadRef} {listed listed' h h' : List Revision} (hh : History target listed h)
    (hh' : History target listed' h') (hp : listed.Perm listed') : h = h' := by
  refine List.Perm.eq_of_pairwise ?_ hh.newer hh'.newer
    (hh.perm.trans ((hp.filter _).trans hh'.perm.symm))
  intro a b _ _ hab hba
  exact (hab.asymm hba).elim

theorem isCandidate_iff {target : WorkloadRef} {r : Revision} :
    isCandidate target r = true ↔ ∃ name, r.metadata.name = some name ∧ name ≠ target.name := by
  unfold isCandidate
  cases r.metadata.name with
  | none => simp
  | some name => simp

/-- Where names are distinct, the sorted revisions hold the history. -/
theorem history_sorted {listed : List Revision} (hnames : (listed.filterMap (·.metadata.name)).Nodup)
    (target : WorkloadRef) : History target listed ((sort listed).filter (isCandidate target)) where
  perm := (sort_perm listed).filter _
  newer := by
    -- the sort leaves room for revisions that compare equal; distinct names do not
    have hdistinct : (sort listed).Pairwise fun a b =>
        ∀ m, a.metadata.name = some m → ∀ n, b.metadata.name = some n → m ≠ n := by
      rw [← List.pairwise_filterMap, ← List.nodup_iff_pairwise_ne]
      exact ((sort_perm listed).filterMap _).nodup_iff.2 hnames
    have h := ((pairwise_sort listed).and hdistinct).filter (isCandidate target)
    refine List.Pairwise.imp_of_mem ?_ h
    intro a b ha hb ⟨hab, hne⟩
    obtain ⟨m, hm, -⟩ := isCandidate_iff.1 (List.mem_filter.1 ha).2
    obtain ⟨n, hn, -⟩ := isCandidate_iff.1 (List.mem_filter.1 hb).2
    rcases hab with hab | hab
    · rcases compare_lt_iff.1 hab with hab | ⟨heq, hlt⟩
      · exact .inl hab
      · rw [hm, hn, compareNames_some_lt_iff] at hlt
        exact .inr ⟨heq, m, n, hm, hn, hlt⟩
    · obtain ⟨-, hname⟩ := compare_eq_iff.1 hab
      rw [hm] at hname
      exact absurd rfl (hne m hm m hname.symm)

end Revision

end Rollout
