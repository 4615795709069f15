import FocusLayout.Layout.Script
import FocusLayout.Proofs.Layout.Course

/-!
# What a switch comes to on an honest backend

An honest backend tells the group in effect, but a lock may come to any group, as long as it tells which
(`Backend.Honest`). Bringing a group into effect then does nothing if the group is in effect already (`apply_false`). If
it says that it has switched, the group that the lock came to is in effect, and where that is another one there is a
warning of it (`apply_true`); the answer itself does not tell the two apart.
-/

namespace FocusLayout.Layout

open Backend (Exchange Recorded)

variable {S : Type} {I : S → Prop} {view : S → Nat}

/-- From states with `I`, the backend tells the group in effect when it is asked, and the one that a lock came to. -/
structure Backend.Honest (I : S → Prop) (view : S → Nat) (b : Backend S) : Prop extends b.Preserves I where
  current_true : ∀ {s s' g}, I s → b.current.Ends s (.ok g) s' → view s = g ∧ view s' = g
  lock_true : ∀ {group s s' g}, I s → (b.lock group).Ends s (.ok g) s' → view s' = g

namespace Backend

variable {b : Backend S}

/-- A backend that tells the truth is honest if asking for the group leaves it. -/
theorem Tells.honest (h : b.Tells I view) (hstill : ∀ {s}, I s → view (b.current.run s).state = view s) :
    b.Honest I view where
  toPreserves := h.toPreserves
  current_true hs hends := by
    have hafter := h.current_true hs hends
    rw [← hends.2, hstill hs] at hafter
    exact ⟨hafter, h.current_true hs hends⟩
  lock_true := h.lock_true

theorem preserves_recorded {α : Type} (exchange : Except Failure α → Exchange) {t : Step S α} (h : t.Preserves I) :
    (recorded exchange t).Preserves fun r => I r.device := by
  intro r hr
  rw [run_recorded]
  exact h r.device hr

theorem ends_recorded {α : Type} {exchange : Except Failure α → Exchange} {t : Step S α} {r r' : Recorded S}
    {answer : Except Failure α} (h : (recorded exchange t).Ends r answer r') :
    t.Ends r.device answer r'.device ∧ r'.exchanges = r.exchanges ++ [exchange answer] := by
  obtain ⟨rfl, rfl⟩ := h
  rw [run_recorded]
  exact ⟨⟨rfl, rfl⟩, rfl⟩

/-- An honest backend stays honest. -/
theorem Honest.recording (h : b.Honest I view) : b.recording.Honest (fun r => I r.device) fun r => view r.device where
  current := preserves_recorded .current h.current
  lock g := preserves_recorded (.lock g) (h.lock g)
  names := preserves_recorded .names h.names
  current_true hr hends := h.current_true hr (ends_recorded hends).1
  lock_true hr hends := h.lock_true hr (ends_recorded hends).1

end Backend

/-- The warning that a lock came to another group. -/
def divertedLine (asked effective : Nat) : Log.Entry :=
  ⟨.warn, .switcher, s!"Запрошена раскладка {asked}, но действует {effective}"⟩

namespace Switcher

variable {b : Backend S} {bench bench' : Bench S} {g e : Nat}

/-! ## Taking a switch apart -/

/-- A lock that came to another group has been warned of. -/
theorem warned_of_set_ok (h : (set b g).Ends bench (.ok e) bench') (he : e ≠ g) :
    divertedLine g e ∈ ((set b g).run bench).log := by
  unfold set at h ⊢
  obtain ⟨n, bench₁, havailable, h⟩ := h.of_bind
  rw [havailable.log_bind]
  refine List.mem_append_right _ ?_
  split at h <;> rename_i hn
  · exact h.not_fail.elim
  · rw [if_neg hn]
    obtain ⟨effective, bench₂, hlock, h⟩ := h.of_bind
    rw [hlock.log_bind]
    refine List.mem_append_right _ ?_
    obtain rfl : effective = e := by
      split at h
      · obtain ⟨_, _, _, h⟩ := h.of_bind
        exact h.of_pure.1
      · exact h.of_pure.1
    rw [if_pos he]
    exact List.mem_cons_self

/-- Nothing has been switched because the group was current. -/
theorem of_apply_false (h : (apply b g).Ends bench (.ok false) bench') : (current b).Ends bench (.ok g) bench' := by
  unfold apply at h
  obtain ⟨c, bench₁, hcurrent, h⟩ := h.of_bind
  split at h <;> rename_i hc
  · obtain ⟨-, rfl⟩ := h.of_pure
    rwa [hc] at hcurrent
  · obtain ⟨_, _, _, h⟩ := h.of_bind
    cases h.of_pure.1

/-- A group has been switched to because another one was current. -/
theorem of_apply_true (h : (apply b g).Ends bench (.ok true) bench') :
    ∃ c bench₁ e, c ≠ g ∧ (current b).Ends bench (.ok c) bench₁ ∧ (set b g).Ends bench₁ (.ok e) bench' := by
  unfold apply at h
  obtain ⟨c, bench₁, hcurrent, h⟩ := h.of_bind
  split at h <;> rename_i hc
  · cases h.of_pure.1
  · obtain ⟨e, bench₂, hset, h⟩ := h.of_bind
    obtain ⟨-, rfl⟩ := h.of_pure
    exact ⟨c, bench₁, e, hc, hcurrent, hset⟩

/-! ## What it comes to -/

variable (h : b.Honest I view)

include h

/-- A group that has not been switched to was in effect, and still is. -/
theorem apply_false (hI : I bench.device) (hfalse : (apply b g).Ends bench (.ok false) bench') :
    view bench.device = g ∧ view bench'.device = g := by
  have hcurrent := of_apply_false hfalse
  exact h.current_true hI ⟨hcurrent.1, congrArg Bench.device hcurrent.2⟩

/-- Where a group has been switched to, the one that the lock came to is in effect, and another one has been warned
of. -/
theorem apply_true (hI : I bench.device) (htrue : (apply b g).Ends bench (.ok true) bench') :
    ∃ e d, (b.lock g).Ends d (.ok e) bench'.device ∧ view bench'.device = e ∧
      (e = g ∨ divertedLine g e ∈ ((apply b g).run bench).log) := by
  obtain ⟨c, bench₁, e, hc, hcurrent, hset⟩ := of_apply_true htrue
  obtain ⟨told, bench₂, d, hnames, -, hlock, rfl⟩ := of_set_ok hset
  have hI₁ : I bench₁.device := hcurrent.2 ▸ preserves_current h.toPreserves bench hI
  have hI₂ : I bench₂.device := hnames.2 ▸ preserves_names h.toPreserves bench₁ hI₁
  refine ⟨e, bench₂.device, hlock, h.lock_true hI₂ hlock, ?_⟩
  by_cases he : e = g
  · exact .inl he
  · refine .inr ?_
    rw [run_apply_other hcurrent.1 hc, hcurrent.2]
    exact List.mem_append_right _ (warned_of_set_ok hset he)

omit h

/-! ## And with what calls -/

variable {q q' : Switcher} {made : List Exchange}

/-- A group that is left alone takes one question. -/
theorem Applying.of_false (h : Applying g q made (.ok false) q') : made = [.current (.ok g)] := by
  generalize hr : Except.ok false = r at h
  cases h with
  | lost f => cases hr
  | same => rfl
  | @other _ _ _ _ set _ _ => cases set <;> cases hr

/-- A group that is switched to is locked with the last call. -/
theorem Applying.of_true (h : Applying g q made (.ok true) q') : ∃ before e, made = before ++ [.lock g (.ok e)] := by
  generalize hr : Except.ok true = r at h
  cases h with
  | lost f => cases hr
  | same => cases hr
  | @other _ _ _ c set hc hset =>
    cases set with
    | error f => cases hr
    | ok e =>
      cases hset with
      | @locked _ _ reading _ _ _ _ => exact ⟨.current (.ok c) :: reading, e, rfl⟩

theorem exchanges_apply_false {bench : Bench (Recorded S)}
    (hfalse : ((apply b.recording g).run bench).result = .ok false) :
    ((apply b.recording g).run bench).state.device.exchanges = bench.device.exchanges ++ [.current (.ok g)] := by
  obtain ⟨made, hmade, hcourse⟩ := follows_apply b g bench
  rw [hfalse] at hcourse
  rw [hmade, hcourse.of_false]

/-- The answer to the lock is the group that is in effect after it. -/
theorem exchanges_apply_true (h : b.Honest I view) {bench : Bench (Recorded S)} (hI : I bench.device.device)
    (htrue : ((apply b.recording g).run bench).result = .ok true) :
    let ran := (apply b.recording g).run bench
    let effective := view ran.state.device.device
    (∃ before, ran.state.device.exchanges = bench.device.exchanges ++ before ++ [.lock g (.ok effective)]) ∧
      (effective = g ∨ divertedLine g effective ∈ ran.log) := by
  obtain ⟨made, hmade, hcourse⟩ := follows_apply b g bench
  rw [htrue] at hcourse
  obtain ⟨before, e, rfl⟩ := hcourse.of_true
  obtain ⟨e', d, hlock, rfl, hwarned⟩ := apply_true h.recording hI ⟨htrue, rfl⟩
  refine ⟨⟨before, ?_⟩, hwarned⟩
  -- the exchange of the lock is the last one of the operation
  have hlast := (Backend.ends_recorded hlock).2
  rw [hmade, ← List.append_assoc] at hlast
  rw [hmade, ← List.append_assoc, (List.append_inj' hlast rfl).2]

end Switcher

namespace Script

theorem of_failIf {failure : Option Failure} {s s' : Script} (h : (failIf failure).Ends s (.ok ()) s') : s = s' := by
  cases failure with
  | some f => exact (Step.Ends.not_fail h).elim
  | none => exact h.2

/-- The scripted backend is honest, whatever its script makes of a lock. -/
theorem honest_backend : backend.Honest (fun _ => True) group where
  current := fun _ _ => trivial
  lock := fun _ _ _ => trivial
  names := fun _ _ => trivial
  current_true := by
    intro s s' g _ hends
    obtain ⟨_, s₁, hstate, hends⟩ := hends.of_bind
    obtain ⟨_, s₂, hfail, hends⟩ := hends.of_bind
    obtain rfl : s = s₁ := hstate.2
    obtain rfl : s = s₂ := of_failIf hfail
    obtain ⟨hgroup, rfl⟩ := hends
    exact ⟨Except.ok.inj hgroup, Except.ok.inj hgroup⟩
  lock_true := by
    intro asked s s' g _ hends
    obtain ⟨_, s₁, hstate, hends⟩ := hends.of_bind
    obtain ⟨_, s₂, hfail, hends⟩ := hends.of_bind
    obtain ⟨hgroup, rfl⟩ := hends
    exact Except.ok.inj hgroup

theorem logs_failIf {P : Log.Entry → Prop} (failure : Option Failure) : (failIf failure).Logs P := by
  cases failure with
  | some f => exact Step.Logs.fail f
  | none => exact Step.Logs.pure ()

/-- And it writes no lines. -/
theorem not_writes_backend (line : Log.Entry) : ¬backend.Writes line := by
  have hcurrent : backend.current.Logs fun _ => False :=
    Step.Logs.state.bind fun s => (logs_failIf _).bind fun _ => Step.Logs.state.bind fun _ => Step.Logs.pure _
  have hlock (g : Nat) : (backend.lock g).Logs fun _ => False :=
    Step.Logs.state.bind fun s => (logs_failIf _).bind fun _ => (Step.Logs.update _).bind fun _ =>
      Step.Logs.state.bind fun _ => Step.Logs.pure _
  have hnames : backend.names.Logs fun _ => False :=
    Step.Logs.state.bind fun s => (logs_failIf _).bind fun _ => Step.Logs.state.bind fun _ => Step.Logs.pure _
  rintro ⟨s, hl | ⟨g, hl⟩ | hl⟩
  · exact hcurrent s line hl
  · exact hlock g s line hl
  · exact hnames s line hl

end Script

end FocusLayout.Layout
