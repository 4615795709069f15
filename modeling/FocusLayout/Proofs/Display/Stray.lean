import FocusLayout.Proofs.Display.Asking
import FocusLayout.Proofs.Display.Flags
import FocusLayout.Proofs.Display.Use

/-!
# Stray errors

An error is stray if its address is unregistered when it arrives. A program that uses connections never clears the
unrouted holder, nor raises it or registers an address to it (`Use.spares_trail`), so whatever it comes to, that holder
is raised exactly if an error was stray (`Reached.occurred_unrouted_iff`).

Errors on a connection itself are not stray between its registration and its end (`strayed_lifetime_iff`), and that is
all that happens where a single connection is opened, used and closed (`InUse`, `InUse.close`): the last errors, which
arrive while it is being closed, are still its own.
-/

namespace FocusLayout.Display

open Step (Preserves)

variable {σ : Type}

/-- An error has arrived on an address that was unregistered then. -/
def Strayed (history : List Happening) : Prop :=
  ∃ before a after, history = before ++ .error a :: after ∧ Unregistered a before

namespace Happening

/-- Whether something touches the unrouted holder: raises it by hand, clears it, or registers an address to it. -/
def TouchesUnrouted : Happening → Prop
  | registered _ h | raised h | reset h | taken h => h = .unrouted
  | unregistered _ | error _ => False

/-- The address of an error. -/
def errorAddress? : Happening → Option Address
  | error a => some a
  | registered _ _ | unregistered _ | raised _ | reset _ | taken _ => none

end Happening

/-- The addresses of the errors in a history. -/
def errorsIn (history : List Happening) : List Address :=
  history.filterMap Happening.errorAddress?

theorem errorsIn_map_error (errors : List Address) : errorsIn (errors.map .error) = errors := by
  rw [errorsIn, List.filterMap_map]
  exact List.filterMap_some

theorem still_map_error (errors : List Address) : ∀ x ∈ errors.map Happening.error, ¬x.Moves :=
  List.forall_mem_map.mpr fun _ _ => id

theorem errorsIn_append (first second : List Happening) :
    errorsIn (first ++ second) = errorsIn first ++ errorsIn second :=
  List.filterMap_append

/-! ## The unrouted holder -/

section Unrouted

variable {history : List Happening} {r : Routes} {h : Holder}

/-- As long as nothing touches it, the unrouted holder is raised exactly if an error was stray. -/
theorem occurred_unrouted_after_iff (hspared : ∀ x ∈ history, ¬x.TouchesUnrouted) :
    (Routes.empty.after history).occurred .unrouted = true ↔ Strayed history := by
  rw [Routes.occurred_after_iff]
  constructor
  · rintro ⟨before, x, after, rfl, rfl | ⟨a, rfl, hregistered | ⟨-, hunregistered⟩⟩, -⟩
    · exact absurd rfl (hspared (.raised .unrouted) (by simp))
    · obtain ⟨first, x, last, rfl, rfl, -⟩ := hregistered
      exact absurd rfl (hspared (.registered a .unrouted) (by simp))
    · exact ⟨before, a, after, rfl, hunregistered⟩
  · rintro ⟨before, a, after, rfl, hunregistered⟩
    refine ⟨before, .error a, after, rfl, .inr ⟨a, rfl, .inr ⟨rfl, hunregistered⟩⟩, fun y hy hclears => ?_⟩
    refine hspared y (List.mem_append_right _ (List.mem_cons_of_mem _ hy)) ?_
    cases y with
    | reset k | taken k => exact hclears
    | registered b k | unregistered b | error b | raised k => exact hclears.elim

/-- While the table stays as it is and nothing touches it, the unrouted holder is raised by the errors on addresses
without a route. -/
theorem occurred_unrouted_after_still (hstill : ∀ x ∈ history, ¬x.Moves) (hspared : ∀ x ∈ history, ¬x.TouchesUnrouted) :
    (r.after history).occurred .unrouted = true ↔
      r.occurred .unrouted = true ∨ ∃ a ∈ errorsIn history, r.holderOf a = .unrouted := by
  induction history generalizing r with
  | nil => simp [errorsIn]
  | cons x rest ih =>
    have hrest := ih (r := r.undergo x) (fun y hy => hstill y (List.mem_cons_of_mem x hy))
      fun y hy => hspared y (List.mem_cons_of_mem x hy)
    have hx := hstill x List.mem_cons_self
    have hx' := hspared x List.mem_cons_self
    rw [Routes.after_cons, hrest]
    cases x with
    | registered a h | unregistered a => exact absurd trivial hx
    | error a =>
      simp only [Routes.undergo, Routes.handle, Routes.occurred_raise, Routes.holderOf_raise, errorsIn,
        List.filterMap_cons, Happening.errorAddress?, List.mem_cons, exists_eq_or_imp]
      grind
    | raised h =>
      have hne : ¬Holder.unrouted = h := fun heq => hx' heq.symm
      simp [Routes.undergo, Routes.occurred_raise, errorsIn, Happening.errorAddress?, hne]
    | reset h | taken h =>
      have hne : ¬Holder.unrouted = h := fun heq => hx' heq.symm
      simp [Routes.undergo, Routes.take, Routes.occurred_reset, errorsIn, Happening.errorAddress?, hne]

end Unrouted

/-! ## Programs -/

section Programs

variable {lib : Library σ} {server : σ} {history : List Happening} {live : List Connection} {w : World σ}

/-- No use of the library touches the unrouted holder. -/
theorem Use.spares_trail (h : Routed live w) {u : Use σ} (hu : u.Allowed lib w live) :
    ∀ x ∈ u.trail lib w, ¬x.TouchesUnrouted := by
  have herrors (errors : List Address) : ∀ x ∈ errors.map Happening.error, ¬x.TouchesUnrouted :=
    List.forall_mem_map.mpr fun _ _ => id
  cases u with
  | opening name =>
    rcases Use.opening_cases lib w live name with ⟨htrail, -⟩ | ⟨htrail, -⟩ | ⟨c, -, hown, htrail, -⟩
    · rw [htrail]
      exact List.forall_mem_nil _
    · rw [htrail]
      exact herrors _
    · rw [htrail]
      refine List.forall_mem_append.mpr ⟨herrors _, List.forall_mem_singleton.mpr ?_⟩
      rw [hown]
      exact nofun
  | request c name α exchange call =>
    have hc : c.holder ≠ .unrouted := h.holder_ne_unrouted hu
    exact List.forall_mem_append.mpr
      ⟨List.forall_mem_cons.mpr ⟨hc, herrors _⟩, List.forall_mem_singleton.mpr hc⟩
  | other α exchange call => exact herrors _
  | closing c => exact List.forall_mem_append.mpr ⟨herrors _, List.forall_mem_singleton.mpr id⟩

theorem Reached.spares (h : Reached lib server history live w) : ∀ x ∈ history, ¬x.TouchesUnrouted := by
  induction h with
  | start => exact List.forall_mem_nil _
  | next u h hu ih => exact List.forall_mem_append.mpr ⟨ih, Use.spares_trail h.routed hu⟩

/-- **Whatever a program comes to**, the unrouted holder is raised exactly if an error was stray. -/
theorem Reached.occurred_unrouted_iff (h : Reached lib server history live w) :
    w.routes.occurred .unrouted = true ↔ Strayed history := by
  rw [h.routes_eq]
  exact occurred_unrouted_after_iff h.spares

end Programs

/-! ## The errors in the record -/

/-- The address of an error. -/
def Exchange.errorAddress? : Exchange → Option Address
  | error a _ => some a
  | connect _ | disconnect _ | sync _ | ask _ _ => none

namespace World

/-- The addresses of the errors that have been delivered, in order. -/
def errors (w : World σ) : List Address :=
  w.exchanges.filterMap Exchange.errorAddress?

/-- A request brings the errors that are delivered in it. -/
theorem errors_call {α : Type} {exchange : Exchange} (h : exchange.errorAddress? = none) (f : σ → Delivery σ α)
    (w : World σ) : (call exchange f w).2.errors = w.errors ++ (f w.server).errors := by
  have hdelivered : ∀ (errors : List Address) (w : World σ), (errors.foldl deliver w).errors = w.errors ++ errors := by
    intro errors
    induction errors with
    | nil => exact fun w => (List.append_nil _).symm
    | cons a rest ih =>
      intro w
      have hone : (w.deliver a).errors = w.errors ++ [a] := by
        unfold World.errors deliver
        rw [List.filterMap_append]
        rfl
      rw [List.foldl_cons, ih, hone, List.append_assoc, List.singleton_append]
  unfold call
  rw [hdelivered, World.errors, World.errors, List.filterMap_append, List.filterMap_cons_none h, List.filterMap_nil,
    List.append_nil]

end World

namespace Connection

variable (lib : Library σ) (c : Connection)

theorem errors_ask (r : Request) (w : World σ) :
    ((c.ask lib r).run w).state.errors = w.errors ++ c.arrivals lib (lib.ask c.address r) w.server := by
  have hasked : (World.ask lib c.address r (w.reroute fun r => r.reset c.holder)).2.errors =
      w.errors ++ (lib.ask c.address r w.server).errors := World.errors_call rfl _ _
  have hsynced : ((c.ask lib r).run w).state.errors =
      (World.ask lib c.address r (w.reroute fun r => r.reset c.holder)).2.errors ++
        (lib.sync c.address (World.ask lib c.address r (w.reroute fun r => r.reset c.holder)).2.server).errors := by
    unfold ask World.ask
    rw [state_checked]
    exact World.errors_call rfl _ _
  rw [hsynced, hasked, arrivals, List.append_assoc, World.ask, server_asked]

theorem errors_close (w : World σ) :
    ((c.close lib).run w).state.errors = w.errors ++ (lib.disconnect c.address w.server).errors := by
  rw [state_close]
  exact World.errors_call rfl _ w

end Connection

/-! ## A single connection -/

/-- The history of a single connection: errors before it is registered, what happens while it is, the last errors, which
arrive while it is being closed, and its end. -/
def lifetime (early : List Address) (c : Connection) (work : List Happening) (last : List Address) : List Happening :=
  early.map .error ++ .registered c.address c.holder :: (work ++ last.map .error ++ [.unregistered c.address])

theorem errorsIn_lifetime (early : List Address) (c : Connection) (work : List Happening) (last : List Address) :
    errorsIn (lifetime early c work last) = early ++ errorsIn work ++ last := by
  have hwork : errorsIn (.registered c.address c.holder :: (work ++ last.map .error ++ [.unregistered c.address])) =
      errorsIn work ++ last := by
    have hlast : errorsIn [.unregistered c.address] = [] := rfl
    show errorsIn (work ++ last.map .error ++ [.unregistered c.address]) = _
    rw [errorsIn_append, errorsIn_append, errorsIn_map_error, hlast, List.append_nil]
  rw [lifetime, errorsIn_append, errorsIn_map_error, hwork, List.append_assoc]

/-- **Errors on the connection itself are not stray** once it is registered, up to its end. -/
theorem strayed_lifetime_iff {early : List Address} {c : Connection} {work : List Happening} {last : List Address}
    (hspared : ∀ x ∈ lifetime early c work last, ¬x.TouchesUnrouted) (hstill : ∀ x ∈ work, ¬x.Moves) :
    Strayed (lifetime early c work last) ↔ early ≠ [] ∨ ∃ a ∈ errorsIn work ++ last, a ≠ c.address := by
  have hwork : ∀ x ∈ work ++ last.map .error, ¬x.TouchesUnrouted := fun x hx =>
    hspared x (List.mem_append_right _ (List.mem_cons_of_mem _ (List.mem_append_left _ hx)))
  have hstill' : ∀ x ∈ work ++ last.map .error, ¬x.Moves :=
    List.forall_mem_append.mpr ⟨hstill, still_map_error last⟩
  have hc : c.holder ≠ .unrouted := hspared (.registered c.address c.holder) (by simp [lifetime])
  -- before the registration no address has a route, and after it just that of the connection
  have hroute (a : Address) :
      ((Routes.empty.after (early.map .error)).register c.address c.holder).holderOf a = .unrouted ↔ a ≠ c.address := by
    have hearly : (Routes.empty.after (early.map .error)).holderOf a = .unrouted := by
      rw [Routes.holderOf_eq, Routes.route?_after_errors]
      rfl
    rw [Routes.holderOf_register, hearly]
    split
    next heq => simp [heq, hc]
    next hne => simp [hne]
  have hearly : (Routes.empty.after (early.map .error)).occurred .unrouted = true ↔ early ≠ [] := by
    rw [Routes.occurred_after_errors]
    cases early with
    | nil => simp [Routes.occurred, Routes.empty]
    | cons a rest => exact iff_of_true (.inr ⟨a, List.mem_cons_self, rfl⟩) (List.cons_ne_nil a rest)
  rw [← occurred_unrouted_after_iff hspared, lifetime, Routes.after_append, Routes.after_cons, Routes.after_concat]
  show (((Routes.empty.after (early.map .error)).register c.address c.holder).after (work ++ last.map .error)).occurred
    .unrouted = true ↔ _
  rw [occurred_unrouted_after_still hstill' hwork, Routes.occurred_register, hearly, errorsIn_append,
    errorsIn_map_error]
  simp only [hroute]

/-- A single connection has been opened and is in use, and the errors in the record are those of its history. -/
def InUse (lib : Library σ) (server : σ) (early : List Address) (c : Connection) (w : World σ) : Prop :=
  ∃ work, Reached lib server (early.map .error ++ .registered c.address c.holder :: work) [c] w ∧
    (∀ x ∈ work, ¬x.Moves) ∧ w.errors = early ++ errorsIn work

namespace InUse

variable {lib : Library σ} {server : σ} {early : List Address} {c : Connection} {w : World σ}

/-- The first connection that is opened is in use. -/
theorem opened {name : Option String} (h : ((Connection.open lib name).run (.initial server)).result = .ok c) :
    InUse lib server (lib.connect name server).errors c ((Connection.open lib name).run (.initial server)).state := by
  have hstart : Reached lib server [] [] (.initial server) := .start
  have hnext := hstart.next (.opening name) fun _ _ => List.forall_mem_nil _
  have hsurvivors : Use.survivors lib (.initial server) [] (.opening name) = [c] := by
    unfold Use.survivors
    simp only [h]
  rcases Use.opening_cases lib (.initial server) [] name with
    ⟨-, hlive, -⟩ | ⟨-, hlive, -⟩ | ⟨d, hok, -, htrail, -, hrun⟩
  · cases hsurvivors.symm.trans hlive
  · cases hsurvivors.symm.trans hlive
  · obtain rfl : d = c := Except.ok.inj (hok.symm.trans h)
    rw [htrail, hsurvivors] at hnext
    refine ⟨[], hnext, nofun, ?_⟩
    have hcalled : (World.connect lib name (.initial server)).2.errors = [] ++ (lib.connect name server).errors :=
      World.errors_call rfl _ _
    show ((Use.opening name).run lib (.initial server)).errors = _ ++ []
    rw [hrun, List.append_nil]
    exact hcalled

/-- It stays in use while something is asked on it. -/
theorem preserves_ask (r : Request) : (c.ask lib r).Preserves (InUse lib server early c) := by
  rintro w ⟨work, hreached, hstill, herrors⟩
  have hnext := hreached.next (.request c r.name r.Reply (.ask c.address r) (lib.ask c.address r))
    (List.mem_singleton_self c)
  refine ⟨work ++ c.requestTrail lib (lib.ask c.address r) w.server, ?_, List.forall_mem_append.mpr ⟨hstill, ?_⟩, ?_⟩
  · rw [← List.cons_append, ← List.append_assoc]
    exact hnext
  · exact List.forall_mem_append.mpr
      ⟨List.forall_mem_cons.mpr ⟨id, still_map_error _⟩, List.forall_mem_singleton.mpr id⟩
  · have htrail : errorsIn (c.requestTrail lib (lib.ask c.address r) w.server) =
        c.arrivals lib (lib.ask c.address r) w.server := by
      rw [Connection.requestTrail, errorsIn_append]
      exact (List.append_nil _).trans (errorsIn_map_error _)
    rw [Connection.errors_ask, herrors, errorsIn_append, htrail, List.append_assoc]

/-- When it is closed, its lifetime is over. -/
theorem close (h : InUse lib server early c w) :
    ∃ work, (∀ x ∈ work, ¬x.Moves) ∧
      Reached lib server (early.map .error ++ .registered c.address c.holder :: work) [c] w ∧
      Reached lib server (lifetime early c work (lib.disconnect c.address w.server).errors) []
        ((c.close lib).run w).state ∧
      ((c.close lib).run w).state.errors = early ++ errorsIn work ++ (lib.disconnect c.address w.server).errors := by
  obtain ⟨work, hreached, hstill, herrors⟩ := h
  refine ⟨work, hstill, hreached, ?_, by rw [Connection.errors_close, herrors]⟩
  have hnext := hreached.next (.closing c) (List.mem_singleton_self c)
  have hlive : Use.survivors lib w [c] (.closing c) = [] := List.erase_cons_head c []
  have htrail : Use.trail lib w (.closing c) =
      (lib.disconnect c.address w.server).errors.map .error ++ [.unregistered c.address] := rfl
  rw [hlive, htrail, List.append_assoc, List.cons_append, ← List.append_assoc work] at hnext
  exact hnext

end InUse

end FocusLayout.Display
