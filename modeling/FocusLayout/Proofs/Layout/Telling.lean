import FocusLayout.Proofs.Focus.Invariant
import FocusLayout.Proofs.Layout.Operations
import FocusLayout.Proofs.Layout.Switching

/-!
# What a switcher tells is true

A backend tells the truth (`Backend.Tells`) if the group that it gives is the one in effect then, both when it is asked
and after a lock. What a switcher gives is then the group in effect too (`set_true`, `next_true`), and it is described
by the names, if these can be read (`groupText`, `describe_ends`).

The names are read once: those that a switcher has used to set a group are those that it describes it by
(`names_of_set_ok`, `names_of_next_ok`).
-/

namespace FocusLayout.Layout

variable {S : Type}

/-- A group as it is described by the names, if these could be read. -/
def groupText (names : Except Failure (List String)) (group : Nat) : String :=
  match names with
  | .ok names =>
    match names[group]? with
    | some name => s!"{group} ({name})"
    | none => toString group
  | .error _ => toString group

/-- From states with `I`, the backend tells the group in effect, and reading the names leaves that. -/
structure Backend.Tells (I : S → Prop) (view : S → Nat) (b : Backend S) : Prop extends b.Preserves I where
  current_true : ∀ {s s' g}, I s → b.current.Ends s (.ok g) s' → view s' = g
  lock_true : ∀ {group s s' g}, I s → (b.lock group).Ends s (.ok g) s' → view s' = g
  names_still : ∀ {s}, I s → view (b.names.run s).state = view s

namespace Switcher

variable {b : Backend S} {bench bench' : Bench S} {cycle ring : List Nat} {told : List String} {device d : S}
  {g e : Nat} {f : Failure}

/-! ## Names -/

theorem names_fresh_error (h : b.names.Ends device (.error f) d) :
    (names b).Ends (.fresh cycle device) (.error f) (.fresh cycle d) := by
  unfold Step.Ends
  rw [run_names_error rfl h.1]
  exact ⟨rfl, congrArg (Bench.fresh cycle) h.2⟩

theorem names_fresh_ok (h : b.names.Ends device (.ok told) d) :
    (names b).Ends (.fresh cycle device) (.ok told) ⟨⟨cycle, some told⟩, d⟩ := by
  have hread : (b.names.run (Bench.fresh cycle device).device).result = .ok told := h.1
  obtain ⟨hresult, hstate⟩ := run_names_ok rfl hread
  exact ⟨hresult, hstate.trans (congrArg (Bench.mk ⟨cycle, some told⟩) h.2)⟩

/-- What the names are comes from the device, as long as they are not known. -/
theorem result_names_fresh : ((names b).run (.fresh cycle device)).result = (b.names.run device).result := by
  cases hr : (b.names.run device).result with
  | error f => exact (names_fresh_error ⟨hr, rfl⟩).1
  | ok told => exact (names_fresh_ok ⟨hr, rfl⟩).1

/-- Describing a group takes its names, and nothing else. -/
theorem describe_ends (b : Backend S) (group : Nat) (bench : Bench S) :
    (describe b group).Ends bench (.ok (groupText ((names b).run bench).result group)) ((names b).run bench).state := by
  unfold describe
  refine (Step.Ends.of_run (names b) bench).attempt.bind_ok ?_
  cases ((names b).run bench).result with
  | error f => exact .pure
  | ok names =>
    dsimp only [groupText]
    cases names[group]? with
    | none => exact .pure
    | some name => exact .pure

/-! ## Setting a group -/

/-- Without the names no group is set. -/
theorem set_without_names (h : (names b).Ends bench (.error f) bench') : (set b g).Ends bench (.error f) bench' := by
  have havailable : (available b).Ends bench (.error f) bench' := h.bind_error
  exact havailable.bind_error

/-- A group that is not available by the names is not set. -/
theorem set_unavailable (h : (names b).Ends bench (.ok told) bench') (hg : groupsAvailable told ≤ g) :
    (set b g).Ends bench (.error (.invalidLayout g (groupsAvailable told))) bench' := by
  have havailable : (available b).Ends bench (.ok (groupsAvailable told)) bench' := h.bind_ok .pure
  refine havailable.bind_ok ?_
  rw [if_pos hg]
  exact .fail

/-- The names that a group has been set by are those that it is described by. -/
theorem names_of_set_ok (h : (set b g).Ends bench (.ok e) bench') :
    ((names b).run bench').result = ((names b).run bench).result := by
  obtain ⟨told, bench₁, d, hnames, -, -, rfl⟩ := of_set_ok h
  have hknown : (Bench.mk bench₁.switcher d).switcher.known = some told := hnames.2 ▸ known_of_names_ok hnames.1
  rw [run_names_known hknown, hnames.1]

/-! ## Going on to the next group -/

/-- The next group has been set after the ring and the group in effect were found. -/
theorem of_next_ok (h : (next b).Ends bench (.ok e) bench') :
    ∃ ring bench₁ c d, (candidates b).Ends bench (.ok ring) bench₁ ∧ b.current.Ends bench₁.device (.ok c) d ∧
      (set b (following ring c)).Ends ⟨bench₁.switcher, d⟩ (.ok e) bench' := by
  unfold next at h
  obtain ⟨ring, bench₁, hring, h⟩ := h.of_bind
  obtain ⟨c, bench₂, hcurrent, h⟩ := h.of_bind
  obtain ⟨_, bench₃, hsaid, h⟩ := h.of_bind
  obtain rfl : bench₂ = bench₃ := hsaid.2
  obtain ⟨hresult, rfl⟩ := hcurrent
  exact ⟨ring, bench₁, c, _, hring, ⟨hresult, rfl⟩, h⟩

/-- A switcher that has its own groups to rotate through reads no names for that. -/
theorem of_candidates_ok_cycle (hcycle : bench.switcher.cycle.isEmpty = false)
    (h : (candidates b).Ends bench (.ok ring) bench') : bench' = bench := by
  unfold candidates Step.Ends at h
  rw [Step.run_bind_state] at h
  dsimp only at h
  rw [hcycle] at h
  exact h.2.symm

/-- One that has none reads the names. -/
theorem of_candidates_ok_names (hcycle : bench.switcher.cycle.isEmpty = true)
    (h : (candidates b).Ends bench (.ok ring) bench') : ∃ told, (names b).Ends bench (.ok told) bench' := by
  unfold candidates Step.Ends at h
  rw [Step.run_bind_state] at h
  dsimp only at h
  rw [if_pos hcycle] at h
  obtain ⟨told, bench₁, hnames, h⟩ := Step.Ends.of_bind h
  split at h
  · exact h.not_fail.elim
  · obtain ⟨-, rfl⟩ := h.of_pure
    exact ⟨told, hnames⟩

/-- The names that the next group has been set by are those that it is described by. They are read at first if there is
nothing else to rotate through, and otherwise after the group in effect. -/
theorem names_of_next_ok (h : (next b).Ends (.fresh cycle device) (.ok e) bench') :
    ((names b).run bench').result =
      (b.names.run (if cycle.isEmpty then device else (b.current.run device).state)).result := by
  obtain ⟨ring, bench₁, c, d, hring, hcurrent, hset⟩ := of_next_ok h
  rw [names_of_set_ok hset]
  -- without a ring of its own the switcher knows the names before it asks for the group in effect
  cases hcycle : cycle.isEmpty with
  | false =>
    obtain rfl := of_candidates_ok_cycle hcycle hring
    obtain ⟨-, rfl⟩ := hcurrent
    exact result_names_fresh
  | true =>
    obtain ⟨told, hnames⟩ := of_candidates_ok_names hcycle hring
    have hknown : (Bench.mk bench₁.switcher d).switcher.known = some told := hnames.2 ▸ known_of_names_ok hnames.1
    rw [run_names_known hknown, ← hnames.1]
    exact result_names_fresh

/-! ## The group in effect -/

section Tells

variable {I : S → Prop} {view : S → Nat} (h : b.Tells I view)

include h

/-- What has been set is in effect. -/
theorem set_true (hI : I bench.device) (hset : (set b g).Ends bench (.ok e) bench') : view bench'.device = e := by
  obtain ⟨told, bench₁, d, hnames, -, hlock, rfl⟩ := of_set_ok hset
  have hI₁ : I bench₁.device := hnames.2 ▸ preserves_names h.toPreserves bench hI
  exact h.lock_true hI₁ hlock

/-- What has been gone on to is in effect. -/
theorem next_true (hI : I bench.device) (hnext : (next b).Ends bench (.ok e) bench') : view bench'.device = e := by
  obtain ⟨ring, bench₁, c, d, hring, hcurrent, hset⟩ := of_next_ok hnext
  have hI₁ : I bench₁.device := hring.2 ▸ preserves_candidates h.toPreserves bench hI
  have hI₂ : I (Bench.mk bench₁.switcher d).device := hcurrent.2 ▸ h.current _ hI₁
  exact set_true h hI₂ hset

/-- Describing a group leaves the one in effect. -/
theorem names_still (hI : I bench.device) : view ((names b).run bench).state.device = view bench.device := by
  cases hk : bench.switcher.known with
  | some told => rw [run_names_known hk]
  | none =>
    cases hr : (b.names.run bench.device).result with
    | error f =>
      rw [run_names_error hk hr]
      exact h.names_still hI
    | ok told =>
      rw [(run_names_ok hk hr).2]
      exact h.names_still hI

end Tells

end Switcher

end FocusLayout.Layout
