import FocusLayout.Text.Blank
import FocusLayout.Text.Fields
import Mathlib.Data.List.DropRight

/-!
# Cutting and trimming

`fields` cuts as the library's `splitOnP` does (`fields_eq_splitOnP`), so

- the fields on the two sides of a separator have nothing to do with each other (`fields_append_cons`);
- what has no separator is one field (`fields_of_forall`), and no field has one (`not_sep_of_mem_fields`);
- a field is known as soon as its end is (`getElem?_fields_append`).

Neither cutting nor trimming looks at more than which elements are separators or blanks (`fields_map`, `trim_map`).

`trim` leaves a text that neither starts nor ends with a blank (`Bare`, `bare_trim`), and of such a text between blanks
just that text (`trim_padded`).
-/

namespace FocusLayout.Text

/-! ## Fields -/

section Fields

variable {α : Type} {isSep : α → Bool} {a : α} {l field : List α}

theorem fields_eq_splitOnP (isSep : α → Bool) (l : List α) : fields isSep l = l.splitOnP isSep := by
  induction l with
  | nil => rfl
  | cons a rest ih =>
    have hne := List.splitOnP_ne_nil isSep rest
    rw [List.splitOnP_cons_eq_if_modifyHead, fields, ih]
    split
    · rfl
    · cases h : rest.splitOnP isSep with
      | nil => exact absurd h hne
      | cons first others => rfl

/-- At a separator the fields before it and those after it are apart. -/
theorem fields_append_cons (h : isSep a = true) (l r : List α) :
    fields isSep (l ++ a :: r) = fields isSep l ++ fields isSep r := by
  simp only [fields_eq_splitOnP]
  exact List.splitOnP_append_cons l r h

theorem fields_append_cons_self [BEq α] [LawfulBEq α] (a : α) (l r : List α) :
    fields (· == a) (l ++ a :: r) = fields (· == a) l ++ fields (· == a) r := by
  apply fields_append_cons
  exact beq_self_eq_true a

/-- Without a separator there is one field. -/
theorem fields_of_forall (h : ∀ a ∈ l, isSep a = false) : fields isSep l = [l] := by
  rw [fields_eq_splitOnP]
  exact List.splitOnP_eq_singleton h

theorem mem_filter_of_mem_fields (h : field ∈ fields isSep l) (ha : a ∈ field) : a ∈ l.filter fun a => !isSep a := by
  rw [← flatten_fields]
  exact List.mem_flatten.mpr ⟨field, h, ha⟩

theorem mem_of_mem_fields (h : field ∈ fields isSep l) (ha : a ∈ field) : a ∈ l :=
  (List.mem_filter.mp (mem_filter_of_mem_fields h ha)).1

/-- No field has a separator. -/
theorem not_sep_of_mem_fields (h : field ∈ fields isSep l) (ha : a ∈ field) : isSep a = false := by
  simpa using (List.mem_filter.mp (mem_filter_of_mem_fields h ha)).2

/-- Changing what is no separator and becomes none does not change the cuts. -/
theorem fields_map {f : α → α} (h : ∀ a, isSep (f a) = isSep a) (l : List α) :
    fields isSep (l.map f) = (fields isSep l).map (List.map f) := by
  induction l with
  | nil => rfl
  | cons a rest ih =>
    rw [List.map_cons, fields, fields, h, ih]
    split
    · rfl
    · cases fields isSep rest <;> rfl

/-- A field that ends within a part of a list is the same in the whole. -/
theorem getElem?_fields_append {k : Nat} (h : k < l.countP isSep) (r : List α) :
    (fields isSep (l ++ r))[k]? = (fields isSep l)[k]? := by
  induction l generalizing k with
  | nil => exact absurd h (Nat.not_lt_zero k)
  | cons a rest ih =>
    by_cases ha : isSep a = true
    · rw [List.cons_append, fields, fields, if_pos ha, if_pos ha]
      rw [List.countP_cons_of_pos ha] at h
      cases k with
      | zero => rfl
      | succ k => exact ih (Nat.lt_of_succ_lt_succ h)
    · rw [List.countP_cons_of_neg ha] at h
      have hsame := ih h
      obtain ⟨first, others, hrest⟩ := List.exists_cons_of_ne_nil (fields_ne_nil isSep rest)
      obtain ⟨first', others', hwhole⟩ := List.exists_cons_of_ne_nil (fields_ne_nil isSep (rest ++ r))
      rw [hrest, hwhole] at hsame
      rw [List.cons_append, fields, fields, if_neg ha, if_neg ha, hrest, hwhole]
      cases k with
      | zero => exact congrArg (Option.map (a :: ·)) hsame
      | succ k => exact hsame

end Fields

/-! ## Trimming -/

/-- A text neither starts nor ends with a blank. -/
structure Bare (cs : List Char) : Prop where
  head : ∀ c ∈ cs.head?, isBlank c = false
  last : ∀ c ∈ cs.getLast?, isBlank c = false

section Trim

variable {cs before after : List Char}

theorem dropBlankEnd_eq (cs : List Char) : dropBlankEnd cs = cs.rdropWhile isBlank := rfl

/-- Of blanks nothing is left. -/
theorem trim_of_forall_blank (h : ∀ c ∈ cs, isBlank c = true) : trim cs = [] := by
  have hnone : cs.dropWhile isBlank = [] := List.dropWhile_eq_nil_iff.mpr h
  rw [trim, hnone]
  rfl

theorem dropBlankEnd_append (hlast : ∀ c ∈ cs.getLast?, isBlank c = false) (hafter : ∀ c ∈ after, isBlank c = true) :
    dropBlankEnd (cs ++ after) = cs := by
  rw [dropBlankEnd_eq]
  induction after using List.reverseRecOn with
  | nil =>
    rw [List.append_nil, List.rdropWhile_eq_self_iff]
    exact fun hne => by simp [hlast _ (List.getLast_mem_getLast? hne)]
  | append_singleton front c ih =>
    rw [← List.append_assoc, List.rdropWhile_concat_pos _ _ _ (hafter c (by simp))]
    exact ih fun d hd => hafter d (List.mem_append_left _ hd)

/-- **A text between blanks is what trimming leaves of them.** -/
theorem trim_padded (hne : cs ≠ []) (h : Bare cs) (hbefore : ∀ c ∈ before, isBlank c = true)
    (hafter : ∀ c ∈ after, isBlank c = true) : trim (before ++ cs ++ after) = cs := by
  have hstart : (before ++ cs ++ after).dropWhile isBlank = cs ++ after := by
    obtain ⟨first, tail, rfl⟩ := List.exists_cons_of_ne_nil hne
    rw [List.append_assoc, List.dropWhile_append_of_pos hbefore, List.cons_append,
      List.dropWhile_cons_of_neg (by simp [h.head first rfl])]
  rw [trim, hstart, dropBlankEnd_append h.last hafter]

/-- What trimming leaves of a text is bare. -/
theorem bare_trim (cs : List Char) : Bare (trim cs) := by
  rw [trim, dropBlankEnd_eq]
  constructor
  · intro c hc
    -- the first character left is the first one after the blanks at the beginning
    obtain ⟨after, hafter⟩ := List.rdropWhile_prefix isBlank (cs.dropWhile isBlank)
    have hfirst : (cs.dropWhile isBlank).head? = some c := by
      rw [← hafter, List.head?_append, hc]
      rfl
    have hnot := List.head?_dropWhile_not isBlank cs
    rwa [hfirst] at hnot
  · intro c hc
    obtain ⟨hne, rfl⟩ := List.mem_getLast?_eq_getLast hc
    simpa using List.rdropWhile_last_not isBlank _ hne

/-- Trimming adds nothing. -/
theorem mem_of_mem_trim {c : Char} (h : c ∈ trim cs) : c ∈ cs := by
  have hstart := List.rdropWhile_prefix isBlank (cs.dropWhile isBlank)
  exact (List.dropWhile_sublist isBlank).subset (hstart.subset h)

/-- Changing characters into others that are blank just if they are does not change what is trimmed. -/
theorem trim_map {f : Char → Char} (h : ∀ c, isBlank (f c) = isBlank c) (cs : List Char) :
    trim (cs.map f) = (trim cs).map f := by
  have hf : isBlank ∘ f = isBlank := funext h
  simp only [trim, dropBlankEnd, List.dropWhile_map, hf, ← List.map_reverse]

end Trim

end FocusLayout.Text
