import FocusLayout.Proofs.Layout.Course

/-!
# A lock comes last

Reading the names and finding the ring lock nothing (`Reading.lockless`, `Finding.lockless`). Setting a group locks at
most at its end, and then the answer to the lock is the result (`Setting.locksLast`). What goes before a step does not
change that (`LocksLast.append`), so it holds of every operation: one that fails has either locked nothing, or failed
with the lock itself (`lock_comes_last`).
-/

namespace FocusLayout.Layout

open Backend (Exchange Recorded)

variable {S α β : Type} {before made made' : List Exchange} {q q' : Switcher} {g : Nat} {answer : Except Failure Nat}
  {r : Except Failure α}

/-- No group is locked. -/
def Lockless (made : List Exchange) : Prop :=
  ∀ g answer, Exchange.lock g answer ∉ made

theorem lockless_nil : Lockless [] := fun _ _ => List.not_mem_nil

theorem Lockless.append (h : Lockless made) (h' : Lockless made') : Lockless (made ++ made') := by
  intro g answer hmem
  rcases List.mem_append.mp hmem with hmem | hmem
  · exact h g answer hmem
  · exact h' g answer hmem

theorem lockless_names (answer : Except Failure (List String)) : Lockless [.names answer] := by
  intro g answer hmem
  simp at hmem

theorem lockless_current (answer : Except Failure Nat) : Lockless [.current answer] := by
  intro g answer hmem
  simp at hmem

/-- Either no group is locked, or one is with the last call, and then the result fails just as the lock does. -/
inductive LocksLast (r : Except Failure α) : List Exchange → Prop
  | never {made : List Exchange} : Lockless made → LocksLast r made
  | last {before : List Exchange} (g : Nat) {answer : Except Failure Nat} :
      Lockless before → (∀ f, r = .error f ↔ answer = .error f) → LocksLast r (before ++ [.lock g answer])

namespace LocksLast

/-- More calls before it that lock nothing. -/
theorem append (hbefore : Lockless before) (h : LocksLast r made) : LocksLast r (before ++ made) := by
  cases h with
  | never h => exact .never (hbefore.append h)
  | last g h hanswer =>
    rw [← List.append_assoc]
    exact .last g (hbefore.append h) hanswer

/-- Another value in place of the one that there is. -/
theorem map (h : LocksLast r made) (f : α → β) : LocksLast (r.map f) made := by
  cases h with
  | never h => exact .never h
  | last g h hanswer =>
    refine .last g h fun failure => ?_
    rw [← hanswer failure]
    cases r <;> simp [Except.map]

/-- Where there is a lock, it is the last call and the only lock. -/
theorem of_eq {after : List Exchange} (h : LocksLast r (before ++ .lock g answer :: after)) :
    after = [] ∧ Lockless before ∧ ∀ f, r = .error f ↔ answer = .error f := by
  generalize hmade : before ++ .lock g answer :: after = made at h
  cases h with
  | never h => exact absurd (hmade ▸ List.mem_append_right _ List.mem_cons_self) (h g answer)
  | @last before' g' answer' hbefore' hanswer =>
    rcases Backend.split_concat hmade.symm with ⟨rfl, hlock, rfl⟩ | ⟨rest, rfl, rfl⟩
    · cases hlock
      exact ⟨rfl, hbefore', hanswer⟩
    · -- a call after the lock would leave the lock among those before the last one
      exact absurd (List.mem_append_right _ List.mem_cons_self) (hbefore' g answer)

end LocksLast

/-! ## Operation by operation -/

namespace Switcher

/-- The names are read without a lock, and the cycle stays. -/
theorem Reading.lockless {names : Except Failure (List String)} (h : Reading q made names q') :
    Lockless made ∧ q'.cycle = q.cycle := by
  cases h with
  | known _ => exact ⟨lockless_nil, rfl⟩
  | told told _ => exact ⟨lockless_names _, rfl⟩
  | failed f _ => exact ⟨lockless_names _, rfl⟩

theorem Setting.locksLast {r : Except Failure Nat} (h : Setting g q made r q') :
    LocksLast r made ∧ q'.cycle = q.cycle := by
  cases h with
  | unnamed hreading => exact ⟨.never hreading.lockless.1, hreading.lockless.2⟩
  | refused hreading _ => exact ⟨.never hreading.lockless.1, hreading.lockless.2⟩
  | locked answer hreading _ => exact ⟨.last g hreading.lockless.1 fun _ => Iff.rfl, hreading.lockless.2⟩

theorem Finding.lockless {ring : Except Failure (List Nat)} (h : Finding q made ring q') :
    Lockless made ∧ q'.cycle = q.cycle := by
  cases h with
  | configured _ => exact ⟨lockless_nil, rfl⟩
  | unnamed _ hreading => exact hreading.lockless
  | nothing _ hreading _ => exact hreading.lockless
  | counted _ hreading _ => exact hreading.lockless

theorem Turning.locksLast {r : Except Failure Nat} (h : Turning q made r q') :
    LocksLast r made ∧ q'.cycle = q.cycle := by
  cases h with
  | ringless hfinding => exact ⟨.never hfinding.lockless.1, hfinding.lockless.2⟩
  | lost f hfinding => exact ⟨.never (hfinding.lockless.1.append (lockless_current _)), hfinding.lockless.2⟩
  | @turned _ _ _ _ _ _ c _ hfinding hset =>
    obtain ⟨hlast, hcycle⟩ := hset.locksLast
    exact ⟨.append hfinding.lockless.1 (.append (lockless_current (.ok c)) hlast), hcycle.trans hfinding.lockless.2⟩

theorem Applying.locksLast {r : Except Failure Bool} (h : Applying g q made r q') :
    LocksLast r made ∧ q'.cycle = q.cycle := by
  cases h with
  | lost f => exact ⟨.never (lockless_current _), rfl⟩
  | same => exact ⟨.never (lockless_current _), rfl⟩
  | @other _ _ _ c _ _ hset =>
    obtain ⟨hlast, hcycle⟩ := hset.locksLast
    exact ⟨.append (lockless_current (.ok c)) (hlast.map _), hcycle⟩

end Switcher

namespace Operation

/-- The operations that are to bring a group into effect. -/
def Switches : Operation → Prop
  | set _ | next | apply _ => True
  | current | names | describe _ => False

/-- Operations that switch lock last, and the others lock nothing. -/
theorem Course.locksLast {o : Operation} {r : Except Failure o.Value} (h : o.Course q made r q') :
    LocksLast r made ∧ (¬o.Switches → Lockless made) ∧ q'.cycle = q.cycle := by
  cases o with
  | current =>
    obtain ⟨rfl, rfl⟩ := h
    exact ⟨.never (lockless_current _), fun _ => lockless_current _, rfl⟩
  | set g =>
    obtain ⟨hlast, hcycle⟩ := Switcher.Setting.locksLast h
    exact ⟨hlast, fun hnot => absurd trivial hnot, hcycle⟩
  | next =>
    obtain ⟨hlast, hcycle⟩ := Switcher.Turning.locksLast h
    exact ⟨hlast, fun hnot => absurd trivial hnot, hcycle⟩
  | apply g =>
    obtain ⟨hlast, hcycle⟩ := Switcher.Applying.locksLast h
    exact ⟨hlast, fun hnot => absurd trivial hnot, hcycle⟩
  | names =>
    obtain ⟨hlockless, hcycle⟩ := Switcher.Reading.lockless h
    exact ⟨.never hlockless, fun _ => hlockless, hcycle⟩
  | describe g =>
    obtain ⟨names, hreading, -⟩ := h
    obtain ⟨hlockless, hcycle⟩ := hreading.lockless
    exact ⟨.never hlockless, fun _ => hlockless, hcycle⟩

end Operation

/-- **A failed switch leaves the group alone.** Take any backend, any bench and any operation of the switcher. Whatever
the backend answers, a group is locked only by an operation that is to switch, at most once, and with its last call;
the operation then fails exactly if the lock does, with the same failure. No operation changes the groups to rotate
through. -/
theorem Operation.lock_comes_last (b : Backend S) (o : Operation) (bench : Bench (Recorded S)) :
    let ran := (o.on b.recording).run bench
    ran.state.switcher.cycle = bench.switcher.cycle ∧
    ∃ made, ran.state.device.exchanges = bench.device.exchanges ++ made ∧
      ∀ before g answer after, made = before ++ .lock g answer :: after →
        o.Switches ∧ after = [] ∧ (∀ other answer', .lock other answer' ∉ before) ∧
        ∀ f, ran.result = .error f ↔ answer = .error f := by
  intro ran
  obtain ⟨made, hmade, hcourse⟩ := o.follows_course b bench
  obtain ⟨hlast, hlockless, hcycle⟩ := hcourse.locksLast
  refine ⟨hcycle, made, hmade, ?_⟩
  rintro before g answer after rfl
  obtain ⟨rfl, hbefore, hanswer⟩ := hlast.of_eq
  have hswitches : o.Switches := by
    by_contra hnot
    exact hlockless hnot g answer (List.mem_append_right _ List.mem_cons_self)
  exact ⟨hswitches, rfl, hbefore, hanswer⟩

end FocusLayout.Layout
