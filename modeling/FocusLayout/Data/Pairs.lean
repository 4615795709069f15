/-!
# Pairs

Settings come as values under keys: the variables of an environment, the entries of a dictionary, the nodes of a table
in the making. `Pairs.lookup?` is the value of a key, the first one if there are several, and `Pairs.set` sets a key in
its place or adds it at the end.

- `lookup?_set`: what setting a key does to each key;
- `nodup_keys_set`: keys that are different stay so.
-/

namespace FocusLayout.Data

/-- Values under their keys. -/
abbrev Pairs (α : Type) := List (String × α)

namespace Pairs

variable {α : Type} {pairs : Pairs α} {key : String} {a : α}

/-- The keys in their order. -/
def keys (pairs : Pairs α) : List String := pairs.map (·.1)

/-- The value of a key. -/
def lookup? (pairs : Pairs α) (key : String) : Option α :=
  (pairs.find? (·.1 == key)).map (·.2)

/-- The pairs with a key set, in its place if it is there already. -/
def set (pairs : Pairs α) (key : String) (a : α) : Pairs α :=
  match pairs with
  | [] => [(key, a)]
  | (k, b) :: rest => if k == key then (key, a) :: rest else (k, b) :: set rest key a

/-! ## The value of a key -/

theorem lookup?_cons (k : String) (b : α) (rest : Pairs α) (key : String) :
    lookup? ((k, b) :: rest) key = if k = key then some b else lookup? rest key := by
  by_cases h : k = key <;> simp [lookup?, h]

theorem mem_of_lookup? (h : pairs.lookup? key = some a) : (key, a) ∈ pairs := by
  obtain ⟨⟨k, b⟩, hfound, rfl⟩ := Option.map_eq_some_iff.mp h
  obtain rfl : k = key := by simpa using List.find?_some hfound
  exact List.mem_of_find?_eq_some hfound

theorem lookup?_eq_none_iff : pairs.lookup? key = none ↔ key ∉ pairs.keys := by
  simp only [lookup?, keys, Option.map_eq_none_iff, List.find?_eq_none, List.mem_map, not_exists, not_and, beq_iff_eq]

/-! ## Setting a key -/

theorem set_cons (k : String) (b : α) (rest : Pairs α) (key : String) (a : α) :
    set ((k, b) :: rest) key a = if k = key then (key, a) :: rest else (k, b) :: set rest key a := by
  by_cases h : k = key <;> simp [set, h]

/-- **Setting a key** changes its value and no other. -/
theorem lookup?_set (pairs : Pairs α) (key other : String) (a : α) :
    (pairs.set key a).lookup? other = if other = key then some a else pairs.lookup? other := by
  induction pairs with
  | nil => simp only [set, lookup?_cons, eq_comm]
  | cons e rest ih =>
    obtain ⟨k, b⟩ := e
    rw [set_cons]
    split <;> grind [lookup?_cons]

/-- Setting a key keeps the keys, or adds this one at the end. -/
theorem keys_set (pairs : Pairs α) (key : String) (a : α) :
    (pairs.set key a).keys = if key ∈ pairs.keys then pairs.keys else pairs.keys ++ [key] := by
  induction pairs with
  | nil => rfl
  | cons e rest ih =>
    obtain ⟨k, b⟩ := e
    rw [set_cons]
    by_cases h : k = key
    · rw [if_pos h]
      simp [keys, h]
    · have hmem : key ∈ keys ((k, b) :: rest) ↔ key ∈ keys rest := by simp [keys, Ne.symm h]
      rw [if_neg h, keys, List.map_cons, ← keys, ih]
      simp only [hmem]
      split <;> rfl

/-- A new key at the end is different from the others. -/
theorem nodup_keys_concat (h : pairs.keys.Nodup) (hnew : key ∉ pairs.keys) (a : α) :
    (keys (pairs ++ [(key, a)])).Nodup := by
  have hne : ∀ k ∈ pairs.keys, k ≠ key := fun k hk heq => hnew (heq ▸ hk)
  rw [keys, List.map_append, List.nodup_append]
  exact ⟨h, by simp, by simpa [keys] using hne⟩

theorem nodup_keys_set (h : pairs.keys.Nodup) (key : String) (a : α) : (pairs.set key a).keys.Nodup := by
  rw [keys_set]
  split
  next => exact h
  next hnew => simpa [keys] using nodup_keys_concat h hnew a

theorem mem_set {e : String × α} (h : e ∈ pairs.set key a) : e = (key, a) ∨ e ∈ pairs := by
  induction pairs with
  | nil => exact .inl (List.mem_singleton.mp h)
  | cons e' rest ih =>
    obtain ⟨k, b⟩ := e'
    rw [set_cons] at h
    split at h
    · exact (List.mem_cons.mp h).imp_right (List.mem_cons_of_mem _)
    · rcases List.mem_cons.mp h with rfl | h
      · exact .inr List.mem_cons_self
      · exact (ih h).imp_right (List.mem_cons_of_mem _)

end Pairs

end FocusLayout.Data
