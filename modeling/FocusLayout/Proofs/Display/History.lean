import FocusLayout.Display.World
import Mathlib.Data.List.Basic

/-!
# What happens to the routes

Whatever program and library do with the routes is a sequence of single happenings (`Happening`), and `Routes.after`
are the routes that a history of them leaves.

- `route?_register`, `route?_unregister`: what a change of the table does to each address;
- the table stays as it is until something moves it (`entries_after`), and errors only raise holders
  (`occurred_after_errors`);
- `Since P Q history`: something with `P` has happened, and only things with `Q` since then (`since_concat`); with
  `SinceWhen` what happened may be judged by what was before it;
- to the routes a call of the library is the errors delivered in it (`routes_call`).
-/

namespace FocusLayout.Display

/-- A single thing that happens to the routes. -/
inductive Happening where
  | registered (a : Address) (h : Holder)
  | unregistered (a : Address)
  | error (a : Address)
  | raised (h : Holder)
  | reset (h : Holder)
  | taken (h : Holder)
  deriving DecidableEq, Repr

/-- Whether something changes the table. -/
def Happening.Moves : Happening → Prop
  | registered _ _ | unregistered _ => True
  | error _ | raised _ | reset _ | taken _ => False

namespace Routes

/-- The holder that an address is routed to, if it has a route. -/
def route? (r : Routes) (a : Address) : Option Holder :=
  (r.entries.find? (·.1 == a)).map (·.2)

/-- The routes after a single happening. -/
def undergo (r : Routes) : Happening → Routes
  | .registered a h => r.register a h
  | .unregistered a => r.unregister a
  | .error a => (r.handle a).2
  | .raised h => r.raise h
  | .reset h => r.reset h
  | .taken h => (r.take h).2

/-- The routes after a history, first happening first. -/
def after (r : Routes) (history : List Happening) : Routes :=
  history.foldl undergo r

variable {r : Routes} {a b : Address} {h k : Holder}

/-! ## The table -/

/-- An error goes to the holder that its address is routed to, or else to the unrouted one. -/
theorem holderOf_eq : r.holderOf a = (r.route? a).getD .unrouted := rfl

@[simp] theorem route?_empty : empty.route? a = none := rfl

@[simp] theorem occurred_register : (r.register a h).occurred k = r.occurred k := rfl

@[simp] theorem occurred_unregister : (r.unregister a).occurred k = r.occurred k := rfl

theorem route?_unregister : (r.unregister a).route? b = if b = a then none else r.route? b := by
  unfold route? unregister
  induction r.entries with
  | nil => simp
  | cons e rest ih => grind

theorem route?_register : (r.register a h).route? b = if b = a then some h else r.route? b := by
  by_cases hab : b = a
  · simp [route?, register, hab]
  · have hrest : (r.register a h).route? b = (r.unregister a).route? b := by
      simp [route?, register, Ne.symm hab]
    rw [hrest, route?_unregister, if_neg hab, if_neg hab]

/-! ## Histories -/

@[simp] theorem after_nil : r.after [] = r := rfl

@[simp] theorem after_cons (x : Happening) (history : List Happening) :
    r.after (x :: history) = (r.undergo x).after history := rfl

theorem after_append (first second : List Happening) : r.after (first ++ second) = (r.after first).after second :=
  List.foldl_append

theorem after_concat (history : List Happening) (x : Happening) :
    r.after (history ++ [x]) = (r.after history).undergo x := by
  rw [after_append]
  rfl

/-- The table stays as it is until something changes it. -/
theorem entries_after {history : List Happening} (h : ∀ x ∈ history, ¬x.Moves) :
    (r.after history).entries = r.entries := by
  induction history generalizing r with
  | nil => rfl
  | cons x rest ih =>
    have hx : (r.undergo x).entries = r.entries := by
      have hstill := h x List.mem_cons_self
      cases x with
      | registered a h | unregistered a => exact absurd trivial hstill
      | error a | raised h | reset h | taken h => rfl
    rw [after_cons, ih fun y hy => h y (List.mem_cons_of_mem x hy), hx]

/-- Errors leave the table alone. -/
theorem entries_after_errors (errors : List Address) : (r.after (errors.map .error)).entries = r.entries :=
  entries_after (by simp [Happening.Moves])

theorem route?_after_errors (errors : List Address) : (r.after (errors.map .error)).route? a = r.route? a := by
  unfold route?
  rw [entries_after_errors]

/-- After some errors those holders are raised that were, and those that the errors were routed to. -/
theorem occurred_after_errors (errors : List Address) :
    (r.after (errors.map .error)).occurred h = true ↔ r.occurred h = true ∨ ∃ a ∈ errors, r.holderOf a = h := by
  induction errors generalizing r with
  | nil => simp
  | cons e rest ih =>
    have hraise : (r.handle e).2.occurred h = true ↔ h = r.holderOf e ∨ r.occurred h = true := by
      simp [handle, occurred_raise]
    rw [List.map_cons, after_cons]
    show ((r.handle e).2.after _).occurred h = true ↔ _
    rw [ih, hraise]
    simp only [handle, holderOf_raise, List.mem_cons, exists_eq_or_imp]
    grind

end Routes

/-! ## Since -/

section Since

variable {α : Type} {P Q : α → Prop} {R : List α → α → Prop} {history : List α} {x : α}

/-- Something has happened that is `R` after what was before it, and only things with `Q` since then. -/
def SinceWhen (R : List α → α → Prop) (Q : α → Prop) (history : List α) : Prop :=
  ∃ before x after, history = before ++ x :: after ∧ R before x ∧ ∀ y ∈ after, Q y

/-- Something with `P` has happened, and only things with `Q` since then. -/
def Since (P Q : α → Prop) (history : List α) : Prop :=
  ∃ before x after, history = before ++ x :: after ∧ P x ∧ ∀ y ∈ after, Q y

theorem not_sinceWhen_nil : ¬SinceWhen R Q [] := by
  rintro ⟨before, x, after, heq, -⟩
  simp at heq

/-- What happens last either is `R` after the rest or is one more thing since. -/
theorem sinceWhen_concat : SinceWhen R Q (history ++ [x]) ↔ R history x ∨ (SinceWhen R Q history ∧ Q x) := by
  constructor
  · rintro ⟨before, y, after, heq, hy, hafter⟩
    rcases List.eq_nil_or_concat after with rfl | ⟨middle, z, rfl⟩
    · obtain ⟨rfl, hxy⟩ := List.append_inj' heq rfl
      obtain rfl : x = y := by simpa using hxy
      exact .inl hy
    · rw [List.concat_eq_append, ← List.cons_append, ← List.append_assoc] at heq
      obtain ⟨hhist, hxz⟩ := List.append_inj' heq rfl
      obtain rfl : x = z := by simpa using hxz
      exact .inr ⟨⟨before, y, middle, hhist, hy, fun u hu => hafter u (by simp [hu])⟩, hafter x (by simp)⟩
  · rintro (hx | ⟨⟨before, y, after, rfl, hy, hafter⟩, hx⟩)
    · exact ⟨history, x, [], rfl, hx, by simp⟩
    · refine ⟨before, y, after ++ [x], by simp, hy, fun u hu => ?_⟩
      rcases List.mem_append.mp hu with hu | hu
      · exact hafter u hu
      · rw [List.mem_singleton.mp hu]
        exact hx

/-- What happens last either is with `P` or is one more thing since. -/
theorem since_concat : Since P Q (history ++ [x]) ↔ P x ∨ (Since P Q history ∧ Q x) :=
  sinceWhen_concat (R := fun _ => P)

end Since

/-! ## Calls of the library -/

namespace World

variable {σ α : Type} (w : World σ) (exchange : Exchange) (f : σ → Delivery σ α)

/-- Taking in errors changes the routes by them, and nothing else that the program goes by. -/
theorem foldl_deliver (errors : List Address) :
    (errors.foldl deliver w).routes = w.routes.after (errors.map .error) ∧
      (errors.foldl deliver w).server = w.server ∧ (errors.foldl deliver w).holders = w.holders := by
  induction errors generalizing w with
  | nil => exact ⟨rfl, rfl, rfl⟩
  | cons e rest ih => exact ih (w.deliver e)

/-- To the routes a call is the errors delivered in it. -/
theorem routes_call : (call exchange f w).2.routes = w.routes.after ((f w.server).errors.map .error) :=
  (foldl_deliver _ _).1

theorem server_call : (call exchange f w).2.server = (f w.server).state :=
  (foldl_deliver _ _).2.1

theorem holders_call : (call exchange f w).2.holders = w.holders :=
  (foldl_deliver _ _).2.2

end World

end FocusLayout.Display
