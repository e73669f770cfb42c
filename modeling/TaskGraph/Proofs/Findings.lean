import Mathlib.Data.List.Induction
import Mathlib.Data.String.Basic
import TaskGraph.Schema.Violation
set_option autoImplicit false

/-! How violations are reported. Where every step of the ways to them can be shown each violation
becomes one finding, and sorting them by their places keeps them all. -/

namespace TaskGraph.Schema

theorem exists_stepsText {path : List Step}
    (shown : ∀ step ∈ path, ∃ content, step.text = .ok content) :
    ∃ content, Violation.stepsText path = .ok content := by
  induction path with
  | nil => exact ⟨"", rfl⟩
  | cons step rest ih =>
      obtain ⟨⟨first, isFirst⟩, later⟩ := List.forall_mem_cons.mp shown
      obtain ⟨others, areOthers⟩ := ih later
      exact ⟨first ++ others, by rw [Violation.stepsText, isFirst, areOthers]⟩

namespace Finding

theorem exists_ofViolations {violations : List Violation}
    (shown : ∀ violation ∈ violations, ∀ step ∈ violation.path, ∃ content,
      step.text = .ok content) :
    ∃ found, ofViolations violations = .ok found ∧ found.length = violations.length := by
  induction violations with
  | nil => exact ⟨[], rfl, rfl⟩
  | cons violation rest ih =>
      obtain ⟨first, later⟩ := List.forall_mem_cons.mp shown
      obtain ⟨content, isContent⟩ := exists_stepsText first
      obtain ⟨others, areOthers, same⟩ := ih later
      refine ⟨⟨"$" ++ content, violation.message⟩ :: others, ?_, congrArg Nat.succ same⟩
      rw [ofViolations, ofViolation, Violation.pathText, isContent, areOthers]
      rfl

theorem insert_perm (finding : Finding) (row : List Finding) :
    (insert finding row).Perm (finding :: row) := by
  induction row with
  | nil => exact .refl _
  | cons first rest ih =>
      rw [insert]
      split
      · exact .refl _
      · exact (ih.cons first).trans (.swap finding first rest)

/-- Sorting neither drops nor repeats a finding. -/
theorem sort_perm (found : List Finding) : (sort found).Perm found := by
  induction found using List.reverseRecOn with
  | nil => exact .refl _
  | append_singleton before last ih =>
      rw [sort, List.foldl_append]
      exact (insert_perm last _).trans
        ((ih.cons last).trans (List.perm_append_singleton last before).symm)

theorem insert_pairwise {finding : Finding} {row : List Finding}
    (rising : row.Pairwise fun earlier later => earlier.place ≤ later.place) :
    (insert finding row).Pairwise fun earlier later => earlier.place ≤ later.place := by
  induction row with
  | nil => exact List.pairwise_singleton _ _
  | cons first rest ih =>
      obtain ⟨least, others⟩ := List.pairwise_cons.mp rising
      rw [insert]
      split
      · rename_i smaller
        refine List.pairwise_cons.mpr ⟨fun other member => ?_, rising⟩
        rcases List.mem_cons.mp member with isFirst | isOther
        · exact isFirst ▸ smaller.le
        · exact smaller.le.trans (least other isOther)
      · rename_i notSmaller
        refine List.pairwise_cons.mpr ⟨fun other member => ?_, ih others⟩
        rcases List.mem_cons.mp ((insert_perm finding rest).mem_iff.mp member) with
          isFinding | isOther
        · exact isFinding ▸ not_lt.mp notSmaller
        · exact least other isOther

/-- Findings that are sorted rise by the texts of their places. -/
theorem sort_pairwise (found : List Finding) :
    (sort found).Pairwise fun earlier later => earlier.place ≤ later.place := by
  induction found using List.reverseRecOn with
  | nil => exact .nil
  | append_singleton before last ih =>
      rw [sort, List.foldl_append]
      exact insert_pairwise ih

end Finding
end TaskGraph.Schema
