import FocusLayout.Config.Environment
import FocusLayout.Proofs.Data.Merge
import FocusLayout.Proofs.Text.Fields
import Mathlib.Data.List.Nodup

/-!
# What variables set

The keys that a variable's name stands for do not depend on letter case (`settingOf_congr`). A value nested under keys
is found under them and under no other ones (`at?_nest`), so that it can be laid over other values without touching
them (`leads_nest`).
-/

namespace FocusLayout.Environment

open Data (Value Entries)
open Data.Value (at?)

/-! ## Letter case -/

/-- A capital letter is either what it was before, or one of those from A to Z. -/
theorem toUpper_eq_self_or (c : Char) : c.toUpper = c ∨ ∃ n < 26, c = Char.ofNat (97 + n) := by
  by_cases h : 'a'.val ≤ c.val ∧ c.val ≤ 'z'.val
  · have hlow : 97 ≤ c.toNat := UInt32.le_iff_toNat_le.mp h.1
    have hhigh : c.toNat ≤ 122 := UInt32.le_iff_toNat_le.mp h.2
    refine .inr ⟨c.toNat - 97, by omega, ?_⟩
    rw [Nat.add_sub_cancel' hlow, Char.ofNat_toNat]
  · exact .inl (dif_neg h)

/-- What does not tell the letters from their capitals does not tell any character from its capital. -/
theorem apply_toUpper {β : Type} (f : Char → β)
    (h : ∀ n < 26, f (Char.ofNat (97 + n)).toUpper = f (Char.ofNat (97 + n))) (c : Char) : f c.toUpper = f c := by
  rcases toUpper_eq_self_or c with hself | ⟨n, hn, rfl⟩
  · rw [hself]
  · exact h n hn

theorem dotted_map_toUpper (cs : List Char) : dotted (cs.map Char.toUpper) = (dotted cs).map Char.toUpper := by
  have hmark (c : Char) : (c.toUpper == '_') = (c == '_') := apply_toUpper (· == '_') (by decide) c
  induction cs using dotted.induct with
  | case1 rest ih =>
    rw [List.map_cons, List.map_cons, dotted, List.map_cons, ← ih]
    rfl
  | case2 c rest h ih =>
    rw [dotted, List.map_cons, List.map_cons, ← ih]
    · rw [dotted]
      intro after hc hafter
      rw [← beq_iff_eq, hmark, beq_iff_eq] at hc
      cases rest with
      | nil => cases hafter
      | cons d rest =>
        obtain ⟨hd, -⟩ := List.cons.inj hafter
        rw [← beq_iff_eq, hmark, beq_iff_eq] at hd
        exact h rest hc (hd ▸ rfl)
    · exact h
  | case3 => rfl

/-- A name in capitals stands for the same setting. -/
theorem settingOf_toUpper (name : String) :
    settingOf (String.ofList (name.toList.map Char.toUpper)) = settingOf name := by
  have hblank : ∀ c, Text.isBlank c.toUpper = Text.isBlank c := apply_toUpper Text.isBlank (by decide)
  have hdot (cs : List Char) :
      Text.fields (· == '.') (cs.map Char.toUpper) = (Text.fields (· == '.') cs).map (List.map Char.toUpper) :=
    Text.fields_map (apply_toUpper (· == '.') (by decide)) cs
  have hupper : Char.toUpper ∘ Char.toUpper = Char.toUpper := funext (apply_toUpper Char.toUpper (by decide))
  have hlower : Char.toLower ∘ Char.toUpper = Char.toLower := funext (apply_toUpper Char.toLower (by decide))
  have hempty : List.isEmpty ∘ List.map Char.toUpper = List.isEmpty := funext fun part => List.isEmpty_map
  have hpart : (fun part => String.ofList (part.map Char.toLower)) ∘ List.map Char.toUpper =
      fun part => String.ofList (part.map Char.toLower) := by
    funext part
    rw [Function.comp_apply, List.map_map, hlower]
  unfold settingOf
  simp only [String.toList_ofList, ← List.map_take, ← List.map_drop, dotted_map_toUpper, Text.trim_map hblank,
    hdot, List.any_map, List.map_map, hupper, hempty, hpart]

/-- **Letter case does not count.** -/
theorem settingOf_congr {a b : String} (h : a.toList.map Char.toUpper = b.toList.map Char.toUpper) :
    settingOf a = settingOf b := by
  rw [← settingOf_toUpper a, h, settingOf_toUpper]

/-! ## Nested values -/

variable {keys path : List String} {value : Value}

theorem nest_cons (key : String) (keys : List String) (value : Value) :
    nest (key :: keys) value = .dict [(key, nest keys value)] := rfl

/-- A path leads through a nested value unless it goes on where the value stands. -/
theorem leads_nest (h : keys <+: path → keys = path) : (nest keys value).Leads path := by
  induction keys generalizing path with
  | nil =>
    rw [← h List.nil_prefix]
    trivial
  | cons key keys ih =>
    cases path with
    | nil => trivial
    | cons key' path =>
      refine ⟨_, nest_cons key keys value, List.nodup_singleton key, fun inner hinner => ?_⟩
      rw [Data.Pairs.lookup?_cons] at hinner
      split at hinner
      next heq =>
        cases hinner
        exact ih fun hprefix => (List.cons.inj (h (heq ▸ (List.prefix_cons_inj key).mpr hprefix))).2
      next => cases hinner

/-- **A nested value is found under its keys**, and nothing under others. -/
theorem at?_nest (h : keys <+: path → keys = path) (h' : path <+: keys → path = keys) :
    at? path (nest keys value) = if keys = path then some value else none := by
  induction keys generalizing path with
  | nil =>
    obtain rfl := h List.nil_prefix
    rfl
  | cons key keys ih =>
    cases path with
    | nil => exact absurd (h' List.nil_prefix) nofun
    | cons key' path =>
      rw [nest_cons, Value.at?_cons_dict, Data.Pairs.lookup?_cons]
      by_cases heq : key = key'
      · subst heq
        rw [if_pos rfl, Option.bind_some,
          ih (fun hprefix => (List.cons.inj (h ((List.prefix_cons_inj key).mpr hprefix))).2)
            (fun hprefix => (List.cons.inj (h' ((List.prefix_cons_inj key).mpr hprefix))).2)]
        simp
      · rw [if_neg heq, if_neg fun hcons => heq (List.cons.inj hcons).1]
        rfl

end FocusLayout.Environment
