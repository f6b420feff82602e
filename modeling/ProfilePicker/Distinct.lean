/-!
# First occurrences

A list without its repetitions: every member once, where it occurs first. The order of
sections in a file and the order of profiles in a catalog are both of this kind.
-/
namespace ProfilePicker

/-- Each member once, at its first occurrence. -/
def distinct {α : Type} [DecidableEq α] : List α → List α
  | [] => []
  | a :: rest => a :: (distinct rest).filter (· ≠ a)

variable {α : Type} [DecidableEq α]

/-- Leaving out repetitions leaves out no member. -/
@[simp]
theorem mem_distinct {a : α} {l : List α} : a ∈ distinct l ↔ a ∈ l := by
  induction l with
  | nil => simp [distinct]
  | cons b l ih => by_cases same : a = b <;> simp [distinct, ih, same]

/-- No member is repeated. -/
theorem nodup_distinct (l : List α) : (distinct l).Nodup := by
  induction l with
  | nil => simp [distinct]
  | cons b l ih =>
    have rest : ((distinct l).filter (· ≠ b)).Nodup := List.Pairwise.filter _ ih
    simpa [distinct] using rest

/-- A member added at the end stays out when it is there already. -/
theorem distinct_concat (l : List α) (a : α) :
    distinct (l ++ [a]) = if a ∈ l then distinct l else distinct l ++ [a] := by
  induction l with
  | nil => simp [distinct]
  | cons b l ih =>
    simp only [List.cons_append, distinct, ih, List.mem_cons]
    by_cases member : a ∈ l
    · simp [member]
    · by_cases same : a = b
      · subst same
        simp [member, List.filter_append]
      · simp [member, same, List.filter_append]

end ProfilePicker
