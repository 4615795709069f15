import FocusLayout.Proofs.Layout.Faithful
import FocusLayout.Proofs.Layout.Operations

/-!
# What a backend is asked and what it answers

`Backend.recording` keeps every call with its answer (`Exchange`). That changes nothing else (`alike_recording`,
`Faithful.recording`).

In every use of a switcher a group is locked only after the names have been told, and only if the names that were told
first make it available (`LocksNamed`): this is kept by all calls that a switcher makes (`maintains_locksNamed`), so it
holds whatever the backend answers (`locks_named`).
-/

namespace FocusLayout.Layout

variable {S : Type}

namespace Backend

/-- A call that a backend has received, with its answer. -/
inductive Exchange where
  | current (answer : Except Failure Nat)
  | lock (group : Nat) (answer : Except Failure Nat)
  | names (answer : Except Failure (List String))

/-- A device with all that has been asked of it and answered, in order. -/
structure Recorded (S : Type) where
  device : S
  exchanges : List Exchange

/-- Runs a call on the device and records it with its answer. -/
def recorded {α : Type} (exchange : Except Failure α → Exchange) (t : Step S α) : Step (Recorded S) α := do
  let answer ← (t.within Recorded.device fun s r => { r with device := s }).attempt
  Step.update fun r => { r with exchanges := r.exchanges ++ [exchange answer] }
  Step.ofExcept answer

/-- The backend that also records its calls and answers. -/
def recording (b : Backend S) : Backend (Recorded S) where
  name := b.name
  current := recorded .current b.current
  lock group := recorded (.lock group) (b.lock group)
  names := recorded .names b.names

theorem run_recorded {α : Type} (exchange : Except Failure α → Exchange) (t : Step S α) (r : Recorded S) :
    (recorded exchange t).run r =
      ⟨(t.run r.device).result, ⟨(t.run r.device).state, r.exchanges ++ [exchange (t.run r.device).result]⟩,
        (t.run r.device).log⟩ := by
  unfold recorded
  rw [Step.run_bind_attempt, Step.run_bind_update, Step.run_within]
  dsimp only
  cases (t.run r.device).result with
  | error f => rw [Step.ofExcept, Step.run_fail, List.append_nil]
  | ok a => rw [Step.ofExcept, Step.run_done, List.append_nil]

/-- A call does the same on a recorded device. -/
theorem agree_recorded {α : Type} (exchange : Except Failure α → Exchange) (t : Step S α) :
    Step.Agree (fun r s => r.device = s) (fun _ r s => r.device = s) (fun r s => r.device = s) (recorded exchange t)
      t := by
  rintro r _ rfl
  rw [run_recorded]
  exact ⟨rfl, fun _ _ => rfl, fun _ _ => rfl⟩

/-- Recording does not show in any operation. -/
theorem alike_recording (b : Backend S) : b.recording.Alike (fun _ r s => r.device = s) b where
  current _ := agree_recorded .current b.current
  names _ := agree_recorded .names b.names
  lock _ _ g _ := agree_recorded (.lock g) (b.lock g)

/-- A faithful backend stays faithful. -/
theorem Faithful.recording {b : Backend S} {view : S → Memory} (hb : b.Faithful view) :
    b.recording.Faithful fun r => view r.device where
  current_result r := by
    rw [Backend.recording, run_recorded]
    exact hb.current_result r.device
  current_view r := by
    rw [Backend.recording, run_recorded]
    exact hb.current_view r.device
  lock_result r g := by
    rw [Backend.recording, run_recorded]
    exact hb.lock_result r.device g
  lock_view r g := by
    rw [Backend.recording, run_recorded]
    exact hb.lock_view r.device g
  names_result r := by
    rw [Backend.recording, run_recorded]
    exact hb.names_result r.device
  names_view r := by
    rw [Backend.recording, run_recorded]
    exact hb.names_view r.device

/-- The names are told without locking anything. -/
theorem exchanges_names (b : Backend S) (bench : Bench (Recorded S)) :
    ∃ added, ((Switcher.names b.recording).run bench).state.device.exchanges = bench.device.exchanges ++ added ∧
      ∀ g answer, .lock g answer ∉ added := by
  cases hk : bench.switcher.known with
  | some names =>
    rw [Switcher.run_names_known hk]
    exact ⟨[], (List.append_nil _).symm, fun _ _ => List.not_mem_nil⟩
  | none =>
    have hread : (b.recording.names.run bench.device).state.exchanges = _ :=
      congrArg (Recorded.exchanges ∘ Outcome.state) (run_recorded .names b.names bench.device)
    refine ⟨[.names (b.names.run bench.device.device).result], ?_, by simp⟩
    cases hr : (b.recording.names.run bench.device).result with
    | error f =>
      rw [Switcher.run_names_error hk hr]
      exact hread
    | ok names =>
      rw [(Switcher.run_names_ok hk hr).2]
      exact hread

/-- Among some exchanges and one more, an exchange is the one more, or it is among the others. -/
theorem split_concat {exchanges before after : List Exchange} {e x : Exchange}
    (h : exchanges ++ [e] = before ++ x :: after) :
    (exchanges = before ∧ e = x ∧ after = []) ∨ ∃ rest, exchanges = before ++ x :: rest ∧ after = rest ++ [e] := by
  rcases List.eq_nil_or_concat after with rfl | ⟨rest, last, rfl⟩
  · obtain ⟨hbefore, he⟩ := List.append_inj' h rfl
    exact .inl ⟨hbefore, List.singleton_inj.mp he, rfl⟩
  · rw [List.concat_eq_append, ← List.cons_append, ← List.append_assoc] at h
    obtain ⟨hexchanges, he⟩ := List.append_inj' h rfl
    exact .inr ⟨rest, hexchanges, by rw [List.concat_eq_append, List.singleton_inj.mp he]⟩

/-! ## The names told first -/

/-- The names that an exchange tells. -/
def Exchange.told? : Exchange → Option (List String)
  | .names (.ok told) => some told
  | _ => none

/-- The names that were told first. -/
def namesTold? (exchanges : List Exchange) : Option (List String) := exchanges.findSome? Exchange.told?

theorem namesTold?_concat (exchanges : List Exchange) (e : Exchange) :
    namesTold? (exchanges ++ [e]) = (namesTold? exchanges).or e.told? := by
  unfold namesTold?
  rw [List.findSome?_append, List.findSome?_singleton]

/-- They were told at some point and none before. -/
theorem namesTold?_eq_some {exchanges : List Exchange} {names : List String} (h : namesTold? exchanges = some names) :
    ∃ earlier later, exchanges = earlier ++ .names (.ok names) :: later ∧
      ∀ other, .names (.ok other) ∉ earlier := by
  obtain ⟨earlier, e, later, rfl, he, hearlier⟩ := List.findSome?_eq_some_iff.mp h
  obtain rfl : e = .names (.ok names) := by
    rcases e with _ | _ | (_ | _) <;> simp [Exchange.told?] at he
    rw [he]
  exact ⟨earlier, later, rfl, fun other hmem => Option.some_ne_none other (hearlier _ hmem)⟩

/-! ## Locks -/

/-- Every group was locked after the first telling of the names, and is one that those names make available. -/
def LocksNamed (exchanges : List Exchange) : Prop :=
  ∀ before g answer after, exchanges = before ++ .lock g answer :: after →
    ∃ names, namesTold? before = some names ∧ g < Switcher.groupsAvailable names

theorem locksNamed_nil : LocksNamed [] := by
  intro before g answer after h
  simp at h

/-- One more exchange that is no lock, or a lock of an available group. -/
theorem LocksNamed.concat {exchanges : List Exchange} (h : LocksNamed exchanges) {e : Exchange}
    (he : ∀ g answer, e = .lock g answer →
      ∃ names, namesTold? exchanges = some names ∧ g < Switcher.groupsAvailable names) :
    LocksNamed (exchanges ++ [e]) := by
  intro before g answer after heq
  rcases split_concat heq with ⟨rfl, rfl, -⟩ | ⟨rest, rfl, -⟩
  · exact he g answer rfl
  · exact h before g answer rest rfl

/-- What the switcher knows are the names told first, and the locks so far are of groups that they make available. All
calls of a switcher keep this. -/
theorem maintains_locksNamed (b : Backend S) :
    b.recording.Maintains fun switcher r => switcher.known = namesTold? r.exchanges ∧ LocksNamed r.exchanges where
  current switcher r h := by
    rw [Backend.recording, run_recorded]
    exact ⟨by rw [namesTold?_concat, ← h.1]; exact Option.or_none.symm, h.2.concat nofun⟩
  names_error cycle r f h hr := by
    rw [Backend.recording, run_recorded] at hr ⊢
    rw [hr]
    exact ⟨by rw [namesTold?_concat, ← h.1]; rfl, h.2.concat nofun⟩
  names_ok cycle r names h hr := by
    rw [Backend.recording, run_recorded] at hr ⊢
    rw [hr]
    exact ⟨by rw [namesTold?_concat, ← h.1]; rfl, h.2.concat nofun⟩
  lock cycle names g r hg h := by
    rw [Backend.recording, run_recorded]
    refine ⟨by rw [namesTold?_concat, ← h.1]; rfl, h.2.concat fun g' answer he => ?_⟩
    cases he
    exact ⟨names, h.1.symm, hg⟩

/-- **Only groups that exist are locked.** Take any backend, any groups to rotate through and any sequence of operations
of a switcher that begins now. Whenever the backend is asked to lock a group, it has told the names before, and the
group is one of the four that a keyboard can have; unless the names first told are none, it is one that they name. -/
theorem locks_named (b : Backend S) (cycle : List Nat) (device : S) (operations : List Operation)
    {before after : List Exchange} {g : Nat} {answer : Except Failure Nat}
    (h : (Operation.after b.recording operations (.fresh cycle ⟨device, []⟩)).device.exchanges =
      before ++ .lock g answer :: after) :
    g < 4 ∧ ∃ earlier names later, before = earlier ++ .names (.ok names) :: later ∧
      (∀ other, .names (.ok other) ∉ earlier) ∧
      (names.length < Nat.pow 2 32 → names ≠ [] → g < names.length) := by
  have hkept := (maintains_locksNamed b).after (.fresh cycle ⟨device, []⟩) ⟨rfl, locksNamed_nil⟩ operations
  obtain ⟨names, htold, hg⟩ := hkept.2 before g answer after h
  obtain ⟨earlier, later, hbefore, hfirst⟩ := namesTold?_eq_some htold
  refine ⟨Nat.lt_of_lt_of_le hg (Switcher.groupsAvailable_le names), earlier, names, later, hbefore, hfirst,
    fun hlt hne => ?_⟩
  rw [Switcher.groupsAvailable_eq_groupsNamed hlt, groupsNamed, if_neg hne] at hg
  exact Nat.lt_of_lt_of_le hg (Nat.min_le_left _ _)

/-- A backend that tells its names from the second time on; the device is how often it has been asked. -/
def shy : Backend Nat where
  name := "shy"
  current := pure 0
  lock group := pure group
  names := do
    let asked ← Step.state
    Step.update (· + 1)
    if asked = 0 then Step.fail (.protocol "names") else return ["us", "ru"]

/-- It is asked to lock group 1 once it has told its names, and never group 3. -/
theorem locks_named_shy :
    let used := Operation.after shy.recording [.set 1, .next, .set 3] (.fresh [3, 0, 1] ⟨0, []⟩)
    used.device.exchanges =
        [.names (.error (.protocol "names")), .current (.ok 0), .names (.ok ["us", "ru"]), .lock 1 (.ok 1)] ∧
      1 < 4 ∧ ∃ earlier names later,
        [.names (.error (.protocol "names")), .current (.ok 0), .names (.ok ["us", "ru"])] =
          earlier ++ Exchange.names (.ok names) :: later ∧
        (∀ other, .names (.ok other) ∉ earlier) ∧ (names.length < Nat.pow 2 32 → names ≠ [] → 1 < names.length) := by
  intro used
  have h : used.device.exchanges =
      [.names (.error (.protocol "names")), .current (.ok 0), .names (.ok ["us", "ru"])] ++ .lock 1 (.ok 1) :: [] := rfl
  exact ⟨h, locks_named shy [3, 0, 1] 0 [.set 1, .next, .set 3] h⟩

end Backend

end FocusLayout.Layout
