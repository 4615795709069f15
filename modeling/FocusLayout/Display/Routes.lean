/-!
# Routing protocol errors

The display library reports a protocol error with the address of the connection it happened on, and nothing else.
`Routes` maps addresses to the status holders of the connections, and keeps which holders are raised. An error on an
address without a route raises the unrouted holder (`Routes.handle`).

- `holderOf_register`, `holderOf_unregister`: what a change of the routes does to each address;
- `occurred_raise`, `occurred_reset`: what a change of a holder does to each holder.
-/

namespace FocusLayout.Display

/-- Where a connection lives. -/
abbrev Address := Nat

/-- What remembers that an error occurred: one for each connection, and one for errors without a route. -/
inductive Holder where
  | unrouted
  | own (number : Nat)
  deriving DecidableEq, Repr

/-- The routes, and the holders that are raised. -/
structure Routes where
  entries : List (Address × Holder)
  raised : List Holder
  deriving DecidableEq, Repr

namespace Routes

/-- No routes, nothing raised. -/
def empty : Routes := ⟨[], []⟩

/-- The holder for errors on an address. -/
def holderOf (r : Routes) (a : Address) : Holder :=
  ((r.entries.find? (·.1 == a)).map (·.2)).getD .unrouted

/-- The routes without one for an address. -/
def unregister (r : Routes) (a : Address) : Routes :=
  { r with entries := r.entries.filter (·.1 != a) }

/-- Routes the errors on an address to a holder, in place of an earlier one. -/
def register (r : Routes) (a : Address) (h : Holder) : Routes :=
  { r.unregister a with entries := (a, h) :: (r.unregister a).entries }

/-- Whether a holder is raised. -/
def occurred (r : Routes) (h : Holder) : Bool :=
  r.raised.contains h

/-- Clears a holder. -/
def reset (r : Routes) (h : Holder) : Routes :=
  { r with raised := r.raised.filter (· != h) }

/-- Raises a holder. -/
def raise (r : Routes) (h : Holder) : Routes :=
  { r with raised := h :: (r.reset h).raised }

/-- Reads a holder and clears it. -/
def take (r : Routes) (h : Holder) : Bool × Routes :=
  (r.occurred h, r.reset h)

/-- What the library is told after an error: that it has been dealt with. -/
def handled : Nat := 1

/-- Takes in an error on an address. -/
def handle (r : Routes) (a : Address) : Nat × Routes :=
  (handled, r.raise (r.holderOf a))

/-! ## How the operations show -/

theorem holderOf_unregister (r : Routes) (a b : Address) :
    (r.unregister a).holderOf b = if b = a then .unrouted else r.holderOf b := by
  unfold holderOf unregister
  induction r.entries with
  | nil => simp
  | cons e rest ih => grind

theorem holderOf_register (r : Routes) (a b : Address) (h : Holder) :
    (r.register a h).holderOf b = if b = a then h else r.holderOf b := by
  by_cases hab : b = a
  · simp [holderOf, register, hab]
  · have h' : (r.register a h).holderOf b = (r.unregister a).holderOf b := by
      simp [holderOf, register, Ne.symm hab]
    rw [h', holderOf_unregister]
    simp [hab]

@[simp] theorem holderOf_reset (r : Routes) (h : Holder) (a : Address) : (r.reset h).holderOf a = r.holderOf a := rfl

@[simp] theorem holderOf_raise (r : Routes) (h : Holder) (a : Address) : (r.raise h).holderOf a = r.holderOf a := rfl

theorem occurred_reset (r : Routes) (h k : Holder) :
    (r.reset h).occurred k = (r.occurred k && k != h) := by
  rw [Bool.eq_iff_iff]
  simp [occurred, reset]

theorem occurred_raise (r : Routes) (h k : Holder) : (r.raise h).occurred k = (k == h || r.occurred k) := by
  rw [Bool.eq_iff_iff]
  simp only [occurred, raise, reset, List.contains_cons, List.contains_iff_mem, List.mem_filter, Bool.or_eq_true,
    beq_iff_eq, bne_iff_ne]
  grind

end Routes

end FocusLayout.Display
