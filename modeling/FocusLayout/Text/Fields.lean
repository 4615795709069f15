/-!
# Splitting at separators

`fields isSep` cuts a list at each element that `isSep` accepts: there is one field more than there are separators,
and the fields hold everything else in order (`fields_length`, `flatten_fields`).
-/

namespace FocusLayout.Text

variable {α : Type}

/-- The stretches between separators, empty ones included. -/
def fields (isSep : α → Bool) : List α → List (List α)
  | [] => [[]]
  | a :: rest =>
    if isSep a then [] :: fields isSep rest
    else
      match fields isSep rest with
      | [] => [[a]]
      | first :: others => (a :: first) :: others

theorem fields_ne_nil (isSep : α → Bool) (l : List α) : fields isSep l ≠ [] := by
  cases l with
  | nil => simp [fields]
  | cons a rest =>
    unfold fields
    split
    · simp
    · split <;> simp

/-- There is one field more than there are separators. -/
theorem fields_length (isSep : α → Bool) (l : List α) :
    (fields isSep l).length = (l.filter isSep).length + 1 := by
  induction l with
  | nil => rfl
  | cons a rest ih =>
    unfold fields
    split
    next h => simp [h, ih]
    next h =>
      split
      next h' => exact absurd h' (fields_ne_nil isSep rest)
      next first others h' => simp [h, ← ih, h']

/-- The fields hold everything but the separators, in order. -/
theorem flatten_fields (isSep : α → Bool) (l : List α) :
    (fields isSep l).flatten = l.filter (fun a => !isSep a) := by
  induction l with
  | nil => rfl
  | cons a rest ih =>
    unfold fields
    split
    next h => simp [h, ih]
    next h =>
      split
      next h' => exact absurd h' (fields_ne_nil isSep rest)
      next first others h' => simp_all

end FocusLayout.Text
