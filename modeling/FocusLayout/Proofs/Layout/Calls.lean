import FocusLayout.Proofs.Layout.Switching

/-!
# The calls that a backend receives

Which calls each operation of a switcher makes, in order, whatever the backend answers (`Backend.noting` keeps the
record). The names are asked for once (`namesCalls`), a group is locked last (`calls_set`), and bringing a group into
effect begins with the current one (`calls_apply`) and ends with locking the other (`calls_apply_of_lt`).
-/

namespace FocusLayout.Layout

open Backend (Noted Call)

variable {S : Type}

/-- The calls noted on a bench so far. -/
def Bench.calls (bench : Bench (Noted S)) : List Call := bench.device.calls

/-- The call for the names, unless they are known. -/
def Bench.namesCalls (bench : Bench (Noted S)) : List Call :=
  if bench.switcher.known.isSome then [] else [.names]

theorem eq_names_of_mem_namesCalls {bench : Bench (Noted S)} {call : Call} (h : call ∈ bench.namesCalls) :
    call = .names := by
  unfold Bench.namesCalls at h
  split at h
  · cases h
  · exact List.mem_singleton.mp h

namespace Switcher

variable {b : Backend S} {g : Nat} {bench : Bench (Noted S)}

theorem calls_current : ((current b.noting).run bench).state.calls = bench.calls ++ [.current] := rfl

theorem namesCalls_current : ((current b.noting).run bench).state.namesCalls = bench.namesCalls := rfl

theorem calls_lock : ((onDevice (b.noting.lock g)).run bench).state.calls = bench.calls ++ [.lock g] := rfl

theorem calls_names : ((names b.noting).run bench).state.calls = bench.calls ++ bench.namesCalls := by
  unfold Bench.namesCalls
  cases hk : bench.switcher.known with
  | some names =>
    rw [run_names_known hk]
    exact (List.append_nil _).symm
  | none =>
    cases hr : (b.noting.names.run bench.device).result with
    | error f =>
      rw [run_names_error hk hr]
      rfl
    | ok names =>
      rw [(run_names_ok hk hr).2]
      rfl

theorem calls_available : ((available b.noting).run bench).state.calls = bench.calls ++ bench.namesCalls := by
  rw [run_available]
  exact calls_names

/-- Without the names no group is locked. -/
theorem calls_set_of_error {f : Failure} (h : ((available b.noting).run bench).result = .error f) :
    ((set b.noting g).run bench).state.calls = bench.calls ++ bench.namesCalls := by
  unfold set
  rw [Step.run_bind_error _ h]
  exact calls_available

/-- A group that there is not is not locked. -/
theorem calls_set_of_le {n : Nat} (h : ((available b.noting).run bench).result = .ok n) (hg : n ≤ g) :
    ((set b.noting g).run bench).state.calls = bench.calls ++ bench.namesCalls := by
  unfold set
  rw [Step.run_bind_ok _ h, if_pos hg]
  exact calls_available

/-- A group that there is gets locked, once the names are known. -/
theorem calls_set_of_lt {n : Nat} (h : ((available b.noting).run bench).result = .ok n) (hg : g < n) :
    ((set b.noting g).run bench).state.calls = bench.calls ++ bench.namesCalls ++ [.lock g] := by
  have hlock : ((onDevice (b.noting.lock g)).run ((available b.noting).run bench).state).state.calls =
      bench.calls ++ bench.namesCalls ++ [.lock g] := by
    rw [calls_lock, calls_available]
  unfold set
  rw [Step.run_bind_ok _ h, if_neg (Nat.not_le.mpr hg)]
  cases hr : ((onDevice (b.noting.lock g)).run ((available b.noting).run bench).state).result with
  | error f => rw [Step.run_bind_error _ hr]; exact hlock
  | ok effective =>
    rw [Step.run_bind_ok _ hr]
    dsimp only
    split
    · exact hlock
    · exact hlock

/-- Setting a group asks for the names, unless they are known, and then at most locks the group. -/
theorem calls_set :
    ∃ rest, ((set b.noting g).run bench).state.calls = bench.calls ++ rest ∧
      rest <+: bench.namesCalls ++ [.lock g] := by
  cases h : ((available b.noting).run bench).result with
  | error f => exact ⟨_, calls_set_of_error h, List.prefix_append _ _⟩
  | ok n =>
    rcases Nat.lt_or_ge g n with hg | hg
    · exact ⟨_, by rw [calls_set_of_lt h hg, List.append_assoc], List.prefix_refl _⟩
    · exact ⟨_, calls_set_of_le h hg, List.prefix_append _ _⟩

/-- Bringing a group into effect asks for the current one first, and sets the group only if that is another one. -/
theorem calls_apply (b : Backend S) (g : Nat) (bench : Bench (Noted S)) :
    ∃ rest, ((apply b.noting g).run bench).state.calls = bench.calls ++ .current :: rest ∧
      rest <+: bench.namesCalls ++ [.lock g] ∧
      (rest ≠ [] → ∃ c, ((current b.noting).run bench).result = .ok c ∧ c ≠ g) := by
  cases h : ((current b.noting).run bench).result with
  | error f =>
    exact ⟨[], by rw [run_apply_current_error h]; exact calls_current, List.nil_prefix, fun hne => absurd rfl hne⟩
  | ok c =>
    by_cases hc : c = g
    · subst hc
      exact ⟨[], by rw [run_apply_same h]; exact calls_current, List.nil_prefix, fun hne => absurd rfl hne⟩
    · obtain ⟨rest, hrest, hprefix⟩ :
          ∃ rest, ((set b.noting g).run ((current b.noting).run bench).state).state.calls =
              ((current b.noting).run bench).state.calls ++ rest ∧
            rest <+: ((current b.noting).run bench).state.namesCalls ++ [.lock g] := calls_set
      refine ⟨rest, ?_, namesCalls_current ▸ hprefix, fun _ => ⟨c, rfl, hc⟩⟩
      rw [run_apply_other h hc, hrest, calls_current, List.append_assoc]
      rfl

/-- After a switch the names are not asked for. -/
theorem calls_names_of_apply_true (h : ((apply b.noting g).run bench).result = .ok true) :
    ((names b.noting).run ((apply b.noting g).run bench).state).state.calls =
      ((apply b.noting g).run bench).state.calls := by
  obtain ⟨told, hk⟩ := known_of_apply_true h
  rw [run_names_known hk]

/-- A group that is not current but available is locked. -/
theorem calls_apply_of_lt {c n : Nat} (h : ((current b.noting).run bench).result = .ok c) (hc : c ≠ g)
    (hn : ((available b.noting).run ((current b.noting).run bench).state).result = .ok n) (hg : g < n) :
    ((apply b.noting g).run bench).state.calls = bench.calls ++ .current :: (bench.namesCalls ++ [.lock g]) := by
  rw [run_apply_other h hc]
  dsimp only
  rw [calls_set_of_lt hn hg, calls_current, namesCalls_current]
  simp

end Switcher

end FocusLayout.Layout
