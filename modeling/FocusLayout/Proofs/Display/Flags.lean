import FocusLayout.Proofs.Display.History
import Mathlib.Data.List.Induction

/-!
# Who is raised, by the history

A history alone says where an address leads and who is raised.

- `route?_after_eq_some_iff`, `route?_after_eq_none_iff`: an address leads to the holder that it was registered to last,
  and nowhere if it never was or has been unregistered since;
- `occurred_after_iff`: a holder is raised if it has been struck since it was cleared last, and an error strikes the
  holder that its address leads to at that moment;
- `flags_follow_history` puts this together.
-/

namespace FocusLayout.Display

namespace Happening

/-- Whether something changes where an address leads. -/
def Reroutes (a : Address) : Happening → Prop
  | registered b _ | unregistered b => b = a
  | error _ | raised _ | reset _ | taken _ => False

/-- Whether something clears a holder. -/
def Clears (h : Holder) : Happening → Prop
  | reset k | taken k => k = h
  | registered _ _ | unregistered _ | error _ | raised _ => False

end Happening

variable {history : List Happening} {x : Happening} {a : Address} {h : Holder}

/-! ## Where an address leads -/

/-- The latest change to where the address leads was its registration to the holder. -/
def Registered (a : Address) (h : Holder) (history : List Happening) : Prop :=
  Since (· = .registered a h) (¬Happening.Reroutes a ·) history

/-- The address has never been registered, or the latest change to where it leads was that it was unregistered. -/
def Unregistered (a : Address) (history : List Happening) : Prop :=
  (∀ h, .registered a h ∉ history) ∨ Since (· = .unregistered a) (¬Happening.Reroutes a ·) history

theorem registered_concat :
    Registered a h (history ++ [x]) ↔ x = .registered a h ∨ (Registered a h history ∧ ¬x.Reroutes a) :=
  since_concat

theorem unregistered_concat :
    Unregistered a (history ++ [x]) ↔ x = .unregistered a ∨ (Unregistered a history ∧ ¬x.Reroutes a) := by
  unfold Unregistered
  rw [since_concat]
  constructor
  · rintro (hnever | hx | ⟨hsince, hx⟩)
    · by_cases hx : x.Reroutes a
      · cases x with
        | registered b k =>
          obtain rfl : b = a := hx
          exact absurd (by simp) (hnever k)
        | unregistered b => exact .inl (congrArg Happening.unregistered hx)
        | error b | raised k | reset k | taken k => exact hx.elim
      · exact .inr ⟨.inl fun k hk => hnever k (List.mem_append_left _ hk), hx⟩
    · exact .inl hx
    · exact .inr ⟨.inr hsince, hx⟩
  · rintro (hx | ⟨hnever | hsince, hx⟩)
    · exact .inr (.inl hx)
    · refine .inl fun k hk => ?_
      rcases List.mem_append.mp hk with hk | hk
      · exact hnever k hk
      · rw [← List.mem_singleton.mp hk] at hx
        exact hx rfl
    · exact .inr (.inr ⟨hsince, hx⟩)

namespace Routes

variable {r : Routes}

/-- One happening leads an address to a holder, or leaves it leading there. -/
theorem route?_undergo_eq_some_iff :
    (r.undergo x).route? a = some h ↔ x = .registered a h ∨ (r.route? a = some h ∧ ¬x.Reroutes a) := by
  cases x with
  | registered b k =>
    rw [undergo, route?_register]
    by_cases hb : a = b
    · simp [hb, Happening.Reroutes]
    · simp [hb, Ne.symm hb, Happening.Reroutes]
  | unregistered b =>
    rw [undergo, route?_unregister]
    by_cases hb : a = b
    · simp [hb, Happening.Reroutes]
    · simp [hb, Ne.symm hb, Happening.Reroutes]
  | error b | raised k | reset k | taken k => exact ⟨fun hr => .inr ⟨hr, id⟩, fun hr => (hr.resolve_left (by simp)).1⟩

/-- One happening takes away where an address leads, or leaves it leading nowhere. -/
theorem route?_undergo_eq_none_iff :
    (r.undergo x).route? a = none ↔ x = .unregistered a ∨ (r.route? a = none ∧ ¬x.Reroutes a) := by
  cases x with
  | registered b k =>
    rw [undergo, route?_register]
    by_cases hb : a = b
    · simp [hb, Happening.Reroutes]
    · simp [hb, Ne.symm hb, Happening.Reroutes]
  | unregistered b =>
    rw [undergo, route?_unregister]
    by_cases hb : a = b
    · simp [hb]
    · simp [hb, Ne.symm hb, Happening.Reroutes]
  | error b | raised k | reset k | taken k => exact ⟨fun hr => .inr ⟨hr, id⟩, fun hr => (hr.resolve_left (by simp)).1⟩

/-- An address leads to the holder that it was registered to last. -/
theorem route?_after_eq_some_iff : (empty.after history).route? a = some h ↔ Registered a h history := by
  induction history using List.reverseRecOn with
  | nil => exact iff_of_false nofun not_sinceWhen_nil
  | append_singleton rest x ih => rw [after_concat, route?_undergo_eq_some_iff, registered_concat, ih]

/-- It leads nowhere if it never was registered, or has been unregistered since. -/
theorem route?_after_eq_none_iff : (empty.after history).route? a = none ↔ Unregistered a history := by
  induction history using List.reverseRecOn with
  | nil => exact iff_of_true rfl (.inl fun _ => List.not_mem_nil)
  | append_singleton rest x ih => rw [after_concat, route?_undergo_eq_none_iff, unregistered_concat, ih]

end Routes

/-! ## Who is raised -/

/-- After some history, the happening raises the holder: by hand, or as an error on an address that was registered to it
last. The unrouted holder takes the errors on addresses that lead nowhere as well. -/
def Strikes (h : Holder) (before : List Happening) (x : Happening) : Prop :=
  x = .raised h ∨ ∃ a, x = .error a ∧ (Registered a h before ∨ h = .unrouted ∧ Unregistered a before)

namespace Routes

theorem holderOf_after_eq_iff :
    (empty.after history).holderOf a = h ↔ Registered a h history ∨ h = .unrouted ∧ Unregistered a history := by
  rw [← route?_after_eq_some_iff, ← route?_after_eq_none_iff, holderOf_eq]
  cases (empty.after history).route? a <;> simp [eq_comm]

/-- A single happening raises whom it strikes, clears whom it clears, and leaves everyone else as they were. -/
theorem occurred_undergo :
    ((empty.after history).undergo x).occurred h = true ↔
      Strikes h history x ∨ ((empty.after history).occurred h = true ∧ ¬x.Clears h) := by
  cases x with
  | registered b k => simp [undergo, Strikes, Happening.Clears]
  | unregistered b => simp [undergo, Strikes, Happening.Clears]
  | error b =>
    have hstrikes : Strikes h history (.error b) ↔ (empty.after history).holderOf b = h := by
      simp [Strikes, holderOf_after_eq_iff]
    simp [undergo, handle, occurred_raise, Happening.Clears, hstrikes, eq_comm (a := h)]
  | raised k => simp [undergo, occurred_raise, Strikes, Happening.Clears, eq_comm (a := h)]
  | reset k => simp [undergo, occurred_reset, Strikes, Happening.Clears, eq_comm (a := h)]
  | taken k => simp [undergo, take, occurred_reset, Strikes, Happening.Clears, eq_comm (a := h)]

/-- A holder is raised if it has been struck since it was cleared last. -/
theorem occurred_after_iff :
    (empty.after history).occurred h = true ↔ SinceWhen (Strikes h) (¬Happening.Clears h ·) history := by
  induction history using List.reverseRecOn with
  | nil => exact iff_of_false nofun not_sinceWhen_nil
  | append_singleton rest x ih => rw [after_concat, occurred_undergo, sinceWhen_concat, ih]

end Routes

/-- **The flags follow the history.** After any history of the routes, whatever addresses and holders it is about:

- a holder of a connection is raised exactly if, since it was cleared last, it has been raised by hand or an error has
  arrived on an address whose latest registration or unregistration before that moment was a registration to it;
- the unrouted holder is raised exactly if, since it was cleared last, it has been raised by hand or an error has
  arrived on an address that had never been registered or had been unregistered last, or was registered to this holder;
- taking a holder tells whether it was raised just before. -/
theorem flags_follow_history (history : List Happening) :
    (∀ n, (Routes.empty.after history).occurred (.own n) = true ↔
      ∃ before x after, history = before ++ x :: after ∧
        (x = .raised (.own n) ∨ ∃ a, x = .error a ∧ Registered a (.own n) before) ∧
        ∀ y ∈ after, y ≠ .reset (.own n) ∧ y ≠ .taken (.own n)) ∧
    ((Routes.empty.after history).occurred .unrouted = true ↔
      ∃ before x after, history = before ++ x :: after ∧
        (x = .raised .unrouted ∨
          ∃ a, x = .error a ∧ (Unregistered a before ∨ Registered a .unrouted before)) ∧
        ∀ y ∈ after, y ≠ .reset .unrouted ∧ y ≠ .taken .unrouted) ∧
    ∀ h, ((Routes.empty.after history).take h).1 = (Routes.empty.after history).occurred h := by
  have hclears : ∀ (h : Holder) (y : Happening), ¬y.Clears h ↔ y ≠ .reset h ∧ y ≠ .taken h := by
    intro h y
    cases y <;> simp [Happening.Clears]
  refine ⟨fun n => ?_, ?_, fun h => rfl⟩
  · rw [Routes.occurred_after_iff]
    simp only [SinceWhen, Strikes, hclears, reduceCtorEq, false_and, or_false]
  · rw [Routes.occurred_after_iff]
    simp only [SinceWhen, Strikes, hclears, true_and, or_comm]

end FocusLayout.Display
