import FocusLayout.Proofs.Layout.Telling

/-!
# How switching fails

On any backend, bringing a group into effect fails in one of four ways, and with the failure of just that way: the
current group cannot be told, the names cannot be read, the group is not available by the names, or it cannot be locked
(`FailsToSet`, `FailsToApply`). Nothing else fails (`result_set_eq_error_iff`, `result_apply_eq_error_iff`).
-/

namespace FocusLayout.Layout.Switcher

variable {S : Type} {b : Backend S} {g : Nat} {bench : Bench S} {f : Failure}

/-- Setting a group from here fails. -/
inductive FailsToSet (b : Backend S) (g : Nat) (bench : Bench S) : Failure → Prop
  /-- The names are not known and cannot be read. -/
  | names {f : Failure} : bench.switcher.known = none → (b.names.run bench.device).result = .error f →
      FailsToSet b g bench f
  /-- There is no such group by the names. -/
  | unavailable {told : List String} : ((names b).run bench).result = .ok told → groupsAvailable told ≤ g →
      FailsToSet b g bench (.invalidLayout g (groupsAvailable told))
  /-- There is, but it cannot be locked. -/
  | lock {told : List String} {f : Failure} : ((names b).run bench).result = .ok told → g < groupsAvailable told →
      ((b.lock g).run ((names b).run bench).state.device).result = .error f → FailsToSet b g bench f

/-- Bringing a group into effect from here fails. -/
inductive FailsToApply (b : Backend S) (g : Nat) (bench : Bench S) : Failure → Prop
  /-- The current group cannot be told. -/
  | current {f : Failure} : (b.current.run bench.device).result = .error f → FailsToApply b g bench f
  /-- Another group is current, and this one cannot be set. -/
  | set {c : Nat} {f : Failure} : (b.current.run bench.device).result = .ok c → c ≠ g →
      FailsToSet b g ⟨bench.switcher, (b.current.run bench.device).state⟩ f → FailsToApply b g bench f

/-- Only names that have to be read can fail. -/
theorem result_names_eq_error_iff :
    ((names b).run bench).result = .error f ↔
      bench.switcher.known = none ∧ (b.names.run bench.device).result = .error f := by
  cases hk : bench.switcher.known with
  | some told => simp [run_names_known hk]
  | none =>
    cases hr : (b.names.run bench.device).result with
    | error failure => simp [run_names_error hk hr]
    | ok told => simp [(run_names_ok hk hr).1]

/-- An available group fails to be set just if it cannot be locked; a warning about another one is no failure. -/
theorem result_set_eq_error_iff_of_lt {told : List String} (h : ((names b).run bench).result = .ok told)
    (hg : g < groupsAvailable told) :
    ((set b g).run bench).result = .error f ↔
      ((b.lock g).run ((names b).run bench).state.device).result = .error f := by
  have havailable : ((available b).run bench).result = .ok (groupsAvailable told) := by
    rw [run_available, h]
    rfl
  unfold set
  rw [Step.run_bind_ok _ havailable, if_neg (Nat.not_le.mpr hg), run_available]
  dsimp only
  rw [Step.result_bind_eq_error_iff]
  refine or_iff_left ?_
  rintro ⟨effective, -, hwarned⟩
  split at hwarned <;> cases hwarned

theorem result_set_eq_error_iff : ((set b g).run bench).result = .error f ↔ FailsToSet b g bench f := by
  constructor
  · intro hset
    cases hn : ((names b).run bench).result with
    | error failure =>
      obtain ⟨hknown, hread⟩ := result_names_eq_error_iff.mp hn
      obtain rfl := Except.error.inj ((set_without_names ⟨hn, rfl⟩).1.symm.trans hset)
      exact .names hknown hread
    | ok told =>
      rcases Nat.lt_or_ge g (groupsAvailable told) with hg | hg
      · exact .lock hn hg ((result_set_eq_error_iff_of_lt hn hg).mp hset)
      · obtain rfl := Except.error.inj ((set_unavailable ⟨hn, rfl⟩ hg).1.symm.trans hset)
        exact .unavailable hn hg
  · rintro (⟨hknown, hread⟩ | ⟨hn, hg⟩ | ⟨hn, hg, hlock⟩)
    · exact (set_without_names ⟨result_names_eq_error_iff.mpr ⟨hknown, hread⟩, rfl⟩).1
    · exact (set_unavailable ⟨hn, rfl⟩ hg).1
    · exact (result_set_eq_error_iff_of_lt hn hg).mpr hlock

theorem result_apply_eq_error_iff : ((apply b g).run bench).result = .error f ↔ FailsToApply b g bench f := by
  unfold apply
  rw [Step.result_bind_eq_error_iff]
  constructor
  · rintro (hcurrent | ⟨c, hcurrent, hset⟩)
    · exact .current hcurrent
    · split at hset <;> rename_i hc
      · cases hset
      · rcases Step.result_bind_eq_error_iff.mp hset with hset | ⟨_, -, hdone⟩
        · exact .set hcurrent hc (result_set_eq_error_iff.mp hset)
        · cases hdone
  · rintro (hcurrent | ⟨hcurrent, hc, hset⟩)
    · exact .inl hcurrent
    · refine .inr ⟨_, hcurrent, ?_⟩
      rw [if_neg hc, Step.result_bind_eq_error_iff]
      exact .inl (result_set_eq_error_iff.mpr hset)

end FocusLayout.Layout.Switcher
