import FocusLayout.Data.Value

/-!
# What is found in merged values

`Value.at?` follows a path of keys. If the path leads through dictionaries with different keys (`Leads`), then what it
leads to in a merged value is what it leads to in the later one laid over what it leads to in the earlier one
(`at?_merge`): the later value as it stands, unless both are dictionaries (`merge_eq_later`).
-/

namespace FocusLayout.Data

namespace Value

variable {earlier later : Value} {below entries : Entries} {key : String} {path : List String}

/-- A value that merges key by key. -/
def IsDict (v : Value) : Prop := ∃ entries, v = .dict entries

instance : DecidablePred IsDict
  | .dict entries => isTrue ⟨entries, rfl⟩
  | .absent | .bool _ | .signed _ | .unsigned _ | .float _ | .string _ | .char _ | .array _ => isFalse nofun

theorem isDict_dict (entries : Entries) : (Value.dict entries).IsDict := ⟨entries, rfl⟩

/-! ## Merging -/

theorem merge_dict_dict (below entries : Entries) :
    (Value.dict below).merge (.dict entries) = .dict (mergeEntries below entries) := by
  rw [merge]

/-- What is no dictionary replaces everything. -/
theorem merge_of_not_isDict (earlier : Value) (h : ¬later.IsDict) : earlier.merge later = later := by
  cases later with
  | dict entries => exact absurd (isDict_dict entries) h
  | _ => rw [merge]; exact nofun

/-- A dictionary replaces what is none. -/
theorem merge_dict_of_not_isDict (h : ¬earlier.IsDict) (entries : Entries) :
    earlier.merge (.dict entries) = .dict entries := by
  cases earlier with
  | dict below => exact absurd (isDict_dict below) h
  | _ => rw [merge]; exact nofun

/-- A value laid on what may have been there before. -/
def laidOn (earlier : Option Value) (later : Value) : Value :=
  match earlier with
  | some v => v.merge later
  | none => later

theorem laidOn_none : laidOn none = id := rfl

/-- Unless both are dictionaries the later value stands as it is. -/
theorem merge_eq_later (h : ¬earlier.IsDict ∨ ¬later.IsDict) : earlier.merge later = later := by
  by_cases hlater : later.IsDict
  · obtain ⟨entries, rfl⟩ := hlater
    exact merge_dict_of_not_isDict (h.resolve_right (not_not_intro (isDict_dict entries))) entries
  · exact merge_of_not_isDict earlier hlater

theorem mergeEntries_cons (below : Entries) (key : String) (value : Value) (rest : Entries) :
    mergeEntries below ((key, value) :: rest) =
      mergeEntries (below.set key (laidOn (below.lookup? key) value)) rest := by
  rw [mergeEntries]
  rfl

/-- **Merged entries**: at each key the later value over the earlier one. -/
theorem lookup?_mergeEntries (h : entries.keys.Nodup) (below : Entries) (key : String) :
    (mergeEntries below entries).lookup? key =
      ((entries.lookup? key).map (laidOn (below.lookup? key))).or (below.lookup? key) := by
  induction entries generalizing below with
  | nil =>
    rw [mergeEntries]
    rfl
  | cons e rest ih =>
    obtain ⟨k, v⟩ := e
    obtain ⟨hk, hrest⟩ := List.nodup_cons.mp h
    rw [mergeEntries_cons, ih hrest, Pairs.lookup?_cons, Pairs.lookup?_set]
    by_cases hkey : k = key
    · subst hkey
      have hnone : Pairs.lookup? rest k = none := Pairs.lookup?_eq_none_iff.mpr hk
      rw [hnone]
      simp
    · rw [if_neg hkey, if_neg (fun heq => hkey heq.symm)]

theorem nodup_keys_mergeEntries (h : below.keys.Nodup) (entries : Entries) :
    (mergeEntries below entries).keys.Nodup := by
  induction entries generalizing below with
  | nil => rwa [mergeEntries]
  | cons e rest ih =>
    rw [mergeEntries_cons]
    exact ih (Pairs.nodup_keys_set h _ _)

/-! ## Paths -/

/-- What a path of keys leads to. -/
def at? : List String → Value → Option Value
  | [], v => some v
  | key :: path, .dict entries => (Pairs.lookup? entries key).bind (at? path)
  | _ :: _, _ => none

/-- The path leads through dictionaries with different keys, as far as it leads anywhere. -/
def Leads : List String → Value → Prop
  | [], _ => True
  | key :: path, v =>
    ∃ entries : Entries, v = .dict entries ∧ entries.keys.Nodup ∧
      ∀ inner, entries.lookup? key = some inner → Leads path inner

theorem at?_cons_dict (key : String) (path : List String) (entries : Entries) :
    at? (key :: path) (.dict entries) = (entries.lookup? key).bind (at? path) := rfl

theorem at?_cons_of_not_isDict {v : Value} (h : ¬v.IsDict) : at? (key :: path) v = none := by
  cases v with
  | dict entries => exact absurd (isDict_dict entries) h
  | _ => rfl

/-- **Merged values**: where a path leads, there is the later value over the earlier one. -/
theorem at?_merge (earlier : Value) (h : later.Leads path) :
    at? path (earlier.merge later) =
      ((at? path later).map (laidOn (at? path earlier))).or (at? path earlier) := by
  induction path generalizing earlier later with
  | nil => rfl
  | cons key path ih =>
    obtain ⟨entries, rfl, hnodup, hinner⟩ := h
    by_cases hdict : earlier.IsDict
    · obtain ⟨below, rfl⟩ := hdict
      rw [merge_dict_dict, at?_cons_dict, at?_cons_dict, at?_cons_dict, lookup?_mergeEntries hnodup]
      cases hlater : entries.lookup? key with
      | none => rfl
      | some v =>
        cases Pairs.lookup? below key with
        | none => simp [laidOn_none]
        | some u => exact ih u (hinner v hlater)
    · rw [merge_dict_of_not_isDict hdict, at?_cons_of_not_isDict hdict, laidOn_none, Option.map_id, Option.or_none]
      rfl

/-- A path leads through the merged value if it leads through both. -/
theorem Leads.merge (h : earlier.Leads path) (h' : later.Leads path) : (earlier.merge later).Leads path := by
  induction path generalizing earlier later with
  | nil => trivial
  | cons key path ih =>
    obtain ⟨below, rfl, hbelow, hinner⟩ := h
    obtain ⟨entries, rfl, hnodup, hinner'⟩ := h'
    refine ⟨_, merge_dict_dict below entries, nodup_keys_mergeEntries hbelow entries, fun inner hfound => ?_⟩
    rw [lookup?_mergeEntries hnodup] at hfound
    cases hlater : entries.lookup? key with
    | none =>
      rw [hlater] at hfound
      exact hinner inner hfound
    | some v =>
      rw [hlater] at hfound
      cases hearlier : below.lookup? key with
      | none =>
        rw [hearlier] at hfound
        cases hfound
        exact hinner' v hlater
      | some u =>
        rw [hearlier] at hfound
        cases hfound
        exact ih (hinner u hearlier) (hinner' v hlater)

end Value

end FocusLayout.Data
