import FocusLayout.Proofs.Steps
import FocusLayout.Layout.Switcher

/-!
# Switching on any backend

What holds of the operations of a switcher whatever its backend answers:

- each line is the switcher's own or one that the backend writes (`Backend.Writes`, `logs_apply`, `logs_describe`);
- the names are read until that succeeds once (`run_names_known`, `run_names_error`, `run_names_ok`), and as many groups
  are available as they stand for (`groupsAvailable`, `run_available`);
- describing a group never fails (`run_describe`), and bringing a group into effect runs as its parts do
  (`run_apply_current_error`, `run_apply_same`, `run_apply_other`), so that the names are known once another group has
  been brought into effect (`known_of_apply_true`).
-/

namespace FocusLayout.Layout

open Step (Logs)

variable {S : Type}

/-- The backend logs the line in some call. -/
def Backend.Writes (b : Backend S) (line : Log.Entry) : Prop :=
  ∃ s, line ∈ (b.current.run s).log ∨ (∃ group, line ∈ ((b.lock group).run s).log) ∨ line ∈ (b.names.run s).log

namespace Switcher

variable {b : Backend S}

/-! ## Lines -/

/-- The line is from the switcher or from its backend. -/
def Writes (b : Backend S) (line : Log.Entry) : Prop :=
  line.origin = .switcher ∨ b.Writes line

theorem logs_onDevice {α : Type} {t : Step S α} {P : Log.Entry → Prop} (h : t.Logs P) : (onDevice t).Logs P :=
  h.within Bench.device _

theorem logs_current : (current b).Logs (Writes b) :=
  logs_onDevice fun s _ hl => .inr ⟨s, .inl hl⟩

theorem logs_lock (g : Nat) : (onDevice (b.lock g)).Logs (Writes b) :=
  logs_onDevice fun s _ hl => .inr ⟨s, .inr (.inl ⟨g, hl⟩)⟩

theorem logs_names : (names b).Logs (Writes b) := by
  unfold names
  refine Logs.state.bind fun bench => ?_
  cases bench.switcher.known with
  | some names => exact Logs.pure _
  | none =>
    refine Logs.bind (logs_onDevice fun s _ hl => .inr ⟨s, .inr (.inr hl)⟩) fun names => ?_
    exact (Logs.say (.inl rfl)).bind fun _ => (Logs.update _).bind fun _ => Logs.pure _

theorem logs_available : (available b).Logs (Writes b) :=
  logs_names.bind fun _ => Logs.pure _

theorem logs_set (g : Nat) : (set b g).Logs (Writes b) := by
  unfold set
  refine logs_available.bind fun n => ?_
  split
  · exact Logs.fail _
  · refine (logs_lock g).bind fun effective => ?_
    split
    · exact (Logs.say (.inl rfl)).bind fun _ => Logs.pure _
    · exact Logs.pure _

theorem logs_apply (g : Nat) : (apply b g).Logs (Writes b) := by
  unfold apply
  refine logs_current.bind fun c => ?_
  split
  · exact Logs.pure _
  · exact (logs_set g).bind fun _ => Logs.pure _

theorem logs_describe (g : Nat) : (describe b g).Logs (Writes b) := by
  unfold describe
  refine logs_names.attempt.bind fun answer => ?_
  cases answer with
  | error f => exact Logs.pure _
  | ok names =>
    dsimp only
    split
    · exact Logs.pure _
    · exact Logs.pure _

/-! ## Names -/

/-- Names that are known are not read again. -/
theorem run_names_known {bench : Bench S} {names : List String} (h : bench.switcher.known = some names) :
    (Switcher.names b).run bench = ⟨.ok names, bench, []⟩ := by
  unfold Switcher.names
  rw [Step.run_bind_state, h]
  rfl

/-- Names that cannot be read stay unknown. -/
theorem run_names_error {bench : Bench S} {f : Failure} (h : bench.switcher.known = none)
    (hr : (b.names.run bench.device).result = .error f) :
    (names b).run bench =
      ⟨.error f, { bench with device := (b.names.run bench.device).state }, (b.names.run bench.device).log⟩ := by
  have hread : ((onDevice b.names).run bench).result = .error f := hr
  unfold names
  rw [Step.run_bind_state, h]
  dsimp only
  rw [Step.run_bind_error _ hread]
  rfl

/-- Names that have been read are known. -/
theorem run_names_ok {bench : Bench S} {names : List String} (h : bench.switcher.known = none)
    (hr : (b.names.run bench.device).result = .ok names) :
    ((Switcher.names b).run bench).result = .ok names ∧
      ((Switcher.names b).run bench).state =
        ⟨{ bench.switcher with known := some names }, (b.names.run bench.device).state⟩ := by
  have hread : ((onDevice b.names).run bench).result = .ok names := hr
  unfold Switcher.names
  rw [Step.run_bind_state, h]
  dsimp only
  rw [Step.run_bind_ok _ hread]
  exact ⟨rfl, rfl⟩

/-- Names that are told are known afterwards. -/
theorem known_of_names_ok {bench : Bench S} {told : List String} (h : ((names b).run bench).result = .ok told) :
    ((names b).run bench).state.switcher.known = some told := by
  cases hk : bench.switcher.known with
  | some known =>
    rw [run_names_known hk] at h ⊢
    cases h
    exact hk
  | none =>
    cases hr : (b.names.run bench.device).result with
    | error f =>
      rw [run_names_error hk hr] at h
      cases h
    | ok read =>
      obtain ⟨hresult, hstate⟩ := run_names_ok hk hr
      rw [hresult] at h
      cases h
      rw [hstate]

/-- How many groups are available with these names: as many as there are names, which are counted with 32 bits, but no
more than a keyboard can have, and all of these if the count is zero. -/
def groupsAvailable (names : List String) : Nat :=
  if names.length % Nat.pow 2 32 = 0 then maxGroups else min (names.length % Nat.pow 2 32) maxGroups

theorem groupsAvailable_le (names : List String) : groupsAvailable names ≤ maxGroups := by
  unfold groupsAvailable
  split
  · exact Nat.le_refl _
  · exact Nat.min_le_right _ _

/-- As many groups are available as the names stand for. -/
theorem run_available (b : Backend S) (bench : Bench S) :
    (available b).run bench =
      ⟨((names b).run bench).result.map groupsAvailable, ((names b).run bench).state, ((names b).run bench).log⟩ :=
  Step.run_bind_pure (names b) groupsAvailable bench

/-! ## Parts of an operation -/

/-- A group can always be described, and that takes no more than its names. -/
theorem run_describe (g : Nat) (bench : Bench S) :
    ∃ text, (describe b g).run bench = ⟨.ok text, ((names b).run bench).state, ((names b).run bench).log⟩ := by
  unfold describe
  rw [Step.run_bind_attempt]
  cases ((names b).run bench).result with
  | error f => exact ⟨toString g, by simp⟩
  | ok names =>
    dsimp only
    split
    · exact ⟨_, by rw [Step.run_pure, List.append_nil]⟩
    · exact ⟨_, by rw [Step.run_pure, List.append_nil]⟩

variable {g : Nat} {bench : Bench S}

/-- Without the current group nothing else is done. -/
theorem run_apply_current_error {f : Failure} (h : ((current b).run bench).result = .error f) :
    (apply b g).run bench = ⟨.error f, ((current b).run bench).state, ((current b).run bench).log⟩ := by
  unfold apply
  rw [Step.run_bind_error _ h]

/-- A group in effect already is left alone. -/
theorem run_apply_same (h : ((current b).run bench).result = .ok g) :
    (apply b g).run bench = ⟨.ok false, ((current b).run bench).state, ((current b).run bench).log⟩ := by
  unfold apply
  rw [Step.run_bind_ok _ h]
  simp

/-- Any other group is set. -/
theorem run_apply_other {c : Nat} (h : ((current b).run bench).result = .ok c) (hc : c ≠ g) :
    (apply b g).run bench =
      ⟨((set b g).run ((current b).run bench).state).result.map fun _ => true,
        ((set b g).run ((current b).run bench).state).state,
        ((current b).run bench).log ++ ((set b g).run ((current b).run bench).state).log⟩ := by
  unfold apply
  rw [Step.run_bind_ok _ h]
  simp only [hc, if_false, Step.run_bind_pure]

/-- A group that has been set is available by the names, and has been locked after these were read. -/
theorem of_set_ok {e : Nat} {bench' : Bench S} (h : (set b g).Ends bench (.ok e) bench') :
    ∃ told bench₁ d, (names b).Ends bench (.ok told) bench₁ ∧ g < groupsAvailable told ∧
      (b.lock g).Ends bench₁.device (.ok e) d ∧ bench' = ⟨bench₁.switcher, d⟩ := by
  unfold set at h
  obtain ⟨n, bench₁, hn, h⟩ := h.of_bind
  unfold Step.Ends at hn
  rw [run_available] at hn
  obtain ⟨told, htold, rfl⟩ : ∃ told, ((names b).run bench).result = .ok told ∧ groupsAvailable told = n := by
    cases hr : ((names b).run bench).result with
    | error f =>
      rw [hr] at hn
      cases hn.1
    | ok told =>
      rw [hr] at hn
      exact ⟨told, rfl, Except.ok.inj hn.1⟩
  split at h <;> rename_i hle
  · exact h.not_fail.elim
  · obtain ⟨effective, bench₂, hlock, h⟩ := h.of_bind
    have hsame : effective = e ∧ bench₂ = bench' := by
      split at h
      · obtain ⟨_, bench₃, hsaid, h⟩ := h.of_bind
        obtain rfl : bench₂ = bench₃ := hsaid.2
        exact h.of_pure
      · exact h.of_pure
    obtain ⟨rfl, rfl⟩ := hsame
    obtain ⟨hresult, hstate⟩ := hlock
    exact ⟨told, bench₁, _, ⟨htold, hn.2⟩, Nat.lt_of_not_le hle, ⟨hresult, rfl⟩, hstate.symm⟩

/-- Setting a group takes the names. -/
theorem known_of_set_ok {effective : Nat} (h : ((set b g).run bench).result = .ok effective) :
    ∃ told, ((set b g).run bench).state.switcher.known = some told := by
  obtain ⟨told, bench₁, d, hnames, -, -, hstate⟩ := of_set_ok ⟨h, rfl⟩
  rw [hstate]
  exact ⟨told, hnames.2 ▸ known_of_names_ok hnames.1⟩

/-- So does bringing another group into effect. -/
theorem known_of_apply_true (h : ((apply b g).run bench).result = .ok true) :
    ∃ told, ((apply b g).run bench).state.switcher.known = some told := by
  cases hc : ((current b).run bench).result with
  | error f =>
    rw [run_apply_current_error hc] at h
    cases h
  | ok c =>
    by_cases hg : c = g
    · subst hg
      rw [run_apply_same hc] at h
      cases h
    · rw [run_apply_other hc hg] at h ⊢
      cases hs : ((set b g).run ((current b).run bench).state).result with
      | error f =>
        rw [hs] at h
        cases h
      | ok effective => exact known_of_set_ok hs

end Switcher

end FocusLayout.Layout
