import FocusLayout.Proofs.Layout.Switching

/-!
# Faithful backends

A backend is faithful (`Backend.Faithful`) if, seen through a view of its device, it answers as a device in memory
would: no call fails, the group in effect is told and locked as asked, the names stay. `Backend.dryRun` is one
(`faithful_dryRun`).

On such a backend a switcher whose remembered names are those of the device (`Truthful`) keeps them so, and its
operations do to the view what they say:

- `Switcher.set` takes the groups below `groupsAvailable` (`set_faithful_of_lt`) and refuses the others
  (`set_faithful_of_le`); with fewer than 2 ^ 32 names these are the groups below `groupsNamed`
  (`groupsAvailable_eq_groupsNamed`);
- `Switcher.apply` leaves the group that is asked for in effect, unless it refuses it (`apply_faithful_same`,
  `apply_faithful_of_lt`, `apply_faithful_of_le`).
-/

namespace FocusLayout.Layout

variable {S T : Type}

/-- Through the view, the backend answers as a device in memory. -/
structure Backend.Faithful (b : Backend S) (view : S → Backend.Memory) : Prop where
  current_result (s : S) : (b.current.run s).result = .ok (view s).group
  current_view (s : S) : view (b.current.run s).state = view s
  lock_result (s : S) (group : Nat) : ((b.lock group).run s).result = .ok group
  lock_view (s : S) (group : Nat) : view ((b.lock group).run s).state = { view s with group := group }
  names_result (s : S) : (b.names.run s).result = .ok (view s).names
  names_view (s : S) : view (b.names.run s).state = view s

/-- A device in memory is its own view. -/
theorem faithful_dryRun : Backend.dryRun.Faithful id where
  current_result _ := rfl
  current_view _ := rfl
  lock_result _ _ := rfl
  lock_view _ _ := rfl
  names_result _ := rfl
  names_view _ := rfl

/-- A backend for a part of a device is as faithful as the backend of that part. -/
theorem Backend.Faithful.within {b : Backend S} {view : S → Backend.Memory} (hb : b.Faithful view) (get : T → S)
    (put : S → T → T) (hput : ∀ s t, get (put s t) = s) : (b.within get put).Faithful fun t => view (get t) where
  current_result t := hb.current_result (get t)
  current_view t := by
    show view (get (put _ t)) = _
    rw [hput]
    exact hb.current_view (get t)
  lock_result t group := hb.lock_result (get t) group
  lock_view t group := by
    show view (get (put _ t)) = _
    rw [hput]
    exact hb.lock_view (get t) group
  names_result t := hb.names_result (get t)
  names_view t := by
    show view (get (put _ t)) = _
    rw [hput]
    exact hb.names_view (get t)

/-- How many groups the names stand for. -/
def groupsNamed (names : List String) : Nat :=
  if names = [] then maxGroups else min names.length maxGroups

/-- The names that the switcher remembers are those of the device. -/
def Truthful (view : S → Backend.Memory) (bench : Bench S) : Prop :=
  ∀ names, bench.switcher.known = some names → names = (view bench.device).names

namespace Switcher

variable {b : Backend S} {view : S → Backend.Memory} {bench : Bench S} {g : Nat}

/-- The number of names is taken with 32 bits, which never makes more groups available. -/
theorem groupsAvailable_le_groupsNamed (names : List String) : groupsAvailable names ≤ groupsNamed names := by
  have hcount : names.length % Nat.pow 2 32 ≤ names.length := Nat.mod_le _ _
  unfold groupsAvailable groupsNamed
  split <;> rename_i h
  · -- the count is zero for no names and for so many that all groups are named
    split
    · exact Nat.le_refl _
    · rename_i hne
      have hpos : names.length ≠ 0 := fun hzero => hne (List.length_eq_zero_iff.mp hzero)
      have hmany : Nat.pow 2 32 ≤ names.length := Nat.le_of_dvd (Nat.pos_of_ne_zero hpos) (Nat.dvd_of_mod_eq_zero h)
      exact Nat.le_min.mpr ⟨Nat.le_trans (by decide) hmany, Nat.le_refl _⟩
  · rw [if_neg (by rintro rfl; exact h rfl)]
    omega

/-- Up to that many names it makes no difference. -/
theorem groupsAvailable_eq_groupsNamed {names : List String} (h : names.length < Nat.pow 2 32) :
    groupsAvailable names = groupsNamed names := by
  simp only [groupsAvailable, groupsNamed, Nat.mod_eq_of_lt h, List.length_eq_zero_iff]

/-- The names are read right and change nothing. -/
theorem names_faithful (hb : b.Faithful view) (hk : Truthful view bench) :
    ((names b).run bench).result = .ok (view bench.device).names ∧
      view ((names b).run bench).state.device = view bench.device ∧ Truthful view ((names b).run bench).state := by
  cases hn : bench.switcher.known with
  | some names =>
    rw [run_names_known hn, hk names hn]
    exact ⟨rfl, rfl, hk⟩
  | none =>
    obtain ⟨hr, hstate⟩ := run_names_ok hn (hb.names_result bench.device)
    rw [hr, hstate]
    refine ⟨rfl, hb.names_view bench.device, fun names h => ?_⟩
    cases h
    exact congrArg Backend.Memory.names (hb.names_view bench.device).symm

/-- As many groups are available as the names stand for. -/
theorem available_faithful (hb : b.Faithful view) (hk : Truthful view bench) :
    ((available b).run bench).result = .ok (groupsAvailable (view bench.device).names) ∧
      view ((available b).run bench).state.device = view bench.device ∧
      Truthful view ((available b).run bench).state := by
  obtain ⟨hr, hview, hk'⟩ := names_faithful hb hk
  rw [run_available, hr]
  exact ⟨rfl, hview, hk'⟩

/-- A group that there is gets locked. -/
theorem set_faithful_of_lt (hb : b.Faithful view) (hk : Truthful view bench)
    (hg : g < groupsAvailable (view bench.device).names) :
    ((set b g).run bench).result = .ok g ∧
      view ((set b g).run bench).state.device = { view bench.device with group := g } ∧
      Truthful view ((set b g).run bench).state := by
  obtain ⟨hr, hview, hk'⟩ := available_faithful hb hk
  have hl : ((onDevice (b.lock g)).run ((available b).run bench).state).result = .ok g := hb.lock_result _ g
  have hlock := hb.lock_view ((available b).run bench).state.device g
  unfold set
  rw [Step.run_bind_ok _ hr]
  simp only [Nat.not_le.mpr hg, if_false]
  rw [Step.run_bind_ok _ hl]
  simp only [ne_eq, not_true_eq_false, if_false]
  refine ⟨rfl, hlock.trans (by rw [hview]), fun names h => (hk' names h).trans ?_⟩
  exact (congrArg Backend.Memory.names hlock).symm

/-- A group that there is not is refused. -/
theorem set_faithful_of_le (hb : b.Faithful view) (hk : Truthful view bench)
    (hg : groupsAvailable (view bench.device).names ≤ g) :
    ((set b g).run bench).result = .error (.invalidLayout g (groupsAvailable (view bench.device).names)) ∧
      view ((set b g).run bench).state.device = view bench.device ∧ Truthful view ((set b g).run bench).state := by
  obtain ⟨hr, hview, hk'⟩ := available_faithful hb hk
  unfold set
  rw [Step.run_bind_ok _ hr]
  simp only [hg, if_true, Step.run_fail]
  exact ⟨trivial, hview, hk'⟩

/-- The current group is told and nothing changes. -/
theorem current_faithful (hb : b.Faithful view) (hk : Truthful view bench) :
    ((current b).run bench).result = .ok (view bench.device).group ∧
      view ((current b).run bench).state.device = view bench.device ∧
      Truthful view ((current b).run bench).state := by
  have hview : view ((current b).run bench).state.device = view bench.device := hb.current_view bench.device
  refine ⟨hb.current_result bench.device, hview, fun names h => ?_⟩
  rw [hview]
  exact hk names h

/-- A group in effect stays in effect, whether or not it is named. -/
theorem apply_faithful_same (hb : b.Faithful view) (hk : Truthful view bench) (hg : (view bench.device).group = g) :
    ((apply b g).run bench).result = .ok false ∧ view ((apply b g).run bench).state.device = view bench.device ∧
      Truthful view ((apply b g).run bench).state := by
  obtain ⟨hr, hview, hk'⟩ := current_faithful hb hk
  rw [hg] at hr
  rw [run_apply_same hr]
  exact ⟨rfl, hview, hk'⟩

/-- Another group that there is comes into effect. -/
theorem apply_faithful_of_lt (hb : b.Faithful view) (hk : Truthful view bench)
    (hn : (view bench.device).names.length < Nat.pow 2 32) (hc : (view bench.device).group ≠ g)
    (hg : g < groupsNamed (view bench.device).names) :
    ((apply b g).run bench).result = .ok true ∧
      view ((apply b g).run bench).state.device = { view bench.device with group := g } ∧
      Truthful view ((apply b g).run bench).state := by
  obtain ⟨hr, hview, hk'⟩ := current_faithful hb hk
  rw [← hview] at hn hg
  rw [← groupsAvailable_eq_groupsNamed hn] at hg
  obtain ⟨hset, hview', hk''⟩ := set_faithful_of_lt hb hk' hg
  rw [run_apply_other hr hc, hset]
  exact ⟨rfl, hview'.trans (by rw [hview]), hk''⟩

/-- Another group that there is not is refused. -/
theorem apply_faithful_of_le (hb : b.Faithful view) (hk : Truthful view bench)
    (hn : (view bench.device).names.length < Nat.pow 2 32) (hc : (view bench.device).group ≠ g)
    (hg : groupsNamed (view bench.device).names ≤ g) :
    ((apply b g).run bench).result = .error (.invalidLayout g (groupsNamed (view bench.device).names)) ∧
      view ((apply b g).run bench).state.device = view bench.device ∧
      Truthful view ((apply b g).run bench).state := by
  obtain ⟨hr, hview, hk'⟩ := current_faithful hb hk
  rw [← hview] at hn hg
  rw [← groupsAvailable_eq_groupsNamed hn] at hg
  obtain ⟨hset, hview', hk''⟩ := set_faithful_of_le hb hk' hg
  rw [run_apply_other hr hc, hset, groupsAvailable_eq_groupsNamed hn, ← hview]
  exact ⟨rfl, hview', hk''⟩

end Switcher

end FocusLayout.Layout
