import FocusLayout.Display.Focus
import FocusLayout.Display.Keyboard
import FocusLayout.Proofs.Display.Connection
import FocusLayout.Proofs.Focus.Invariant

/-!
# What is asked of the library

`World.requests` is what the program has asked for, without the errors that came in between.

- opening and closing a connection are one request each, if they are made at all (`requests_open`, `requests_close`);
- a request on an open connection is on its address and leaves the table of routes alone (`World.AskedOn`,
  `preserves_ask`);
- the focus query and the calls of the backend do nothing but make requests: what these preserve, they preserve
  (`preserves_focusedWindow`, `preserves_backend`).
-/

namespace FocusLayout.Display

open Step (Preserves)

variable {σ : Type}

/-- Whether the program asks for this; errors the library reports of itself. -/
def Exchange.isRequest : Exchange → Bool
  | connect _ | disconnect _ | sync _ | ask _ _ => true
  | error _ _ => false

/-- Something is asked on the connection at an address, which neither opens nor closes it. -/
def Exchange.IsOn (a : Address) : Exchange → Prop
  | sync b | ask b _ => b = a
  | connect _ | disconnect _ | error _ _ => False

namespace World

/-- What the program has asked for, in order. -/
def requests (w : World σ) : List Exchange :=
  w.exchanges.filter Exchange.isRequest

theorem requests_deliver (w : World σ) (a : Address) : (w.deliver a).requests = w.requests := by
  unfold requests deliver
  rw [List.filter_append]
  exact List.append_nil _

/-- A call asks for one thing, whatever errors it brings. -/
theorem requests_call {α : Type} {exchange : Exchange} (h : exchange.isRequest = true) (f : σ → Delivery σ α)
    (w : World σ) : (call exchange f w).2.requests = w.requests ++ [exchange] := by
  have hdelivered : ∀ (errors : List Address) (w : World σ), (errors.foldl deliver w).requests = w.requests := by
    intro errors
    induction errors with
    | nil => exact fun _ => rfl
    | cons a rest ih => exact fun w => (ih _).trans (requests_deliver w a)
  unfold call
  rw [hdelivered, requests, requests, List.filter_append, List.filter_cons_of_pos h]
  rfl

/-- Since an earlier world, nothing has been asked but on the connection at an address, and the table of routes has
stayed the same. -/
structure AskedOn (a : Address) (w w' : World σ) : Prop where
  requests : ∃ asked, w'.requests = w.requests ++ asked ∧ ∀ e ∈ asked, e.IsOn a
  entries : w'.routes.entries = w.routes.entries

theorem AskedOn.refl (a : Address) (w : World σ) : AskedOn a w w :=
  ⟨⟨[], (List.append_nil _).symm, nofun⟩, rfl⟩

theorem AskedOn.trans {a : Address} {w w' w'' : World σ} (h : AskedOn a w w') (h' : AskedOn a w' w'') :
    AskedOn a w w'' := by
  obtain ⟨⟨asked, hasked, hon⟩, hentries⟩ := h
  obtain ⟨⟨asked', hasked', hon'⟩, hentries'⟩ := h'
  refine ⟨⟨asked ++ asked', by rw [hasked', hasked, List.append_assoc], fun e he => ?_⟩, hentries'.trans hentries⟩
  rcases List.mem_append.mp he with he | he
  · exact hon e he
  · exact hon' e he

end World

namespace Connection

variable (lib : Library σ)

/-! ## Opening and closing -/

section Opening

variable {name : Option String} {w : World σ}

theorem requests_connect : (World.connect lib name w).2.requests = w.requests ++ [.connect name] :=
  World.requests_call rfl _ w

theorem entries_connect : (World.connect lib name w).2.routes.entries = w.routes.entries := by
  rw [World.connect, World.routes_call, Routes.entries_after_errors]

end Opening

/-- Closing always goes through. -/
theorem result_close (c : Connection) (w : World σ) : ((c.close lib).run w).result = .ok () := by
  unfold close
  simp only [Step.run_bind_act, Step.run_bind_update, Step.run_bind_state]
  split <;> rfl

theorem server_close (c : Connection) (w : World σ) :
    ((c.close lib).run w).state.server = (lib.disconnect c.address w.server).state := by
  rw [state_close]
  exact World.server_call ..

theorem requests_close (c : Connection) (w : World σ) :
    ((c.close lib).run w).state.requests = w.requests ++ [.disconnect c.address] := by
  rw [state_close]
  exact World.requests_call rfl _ w

theorem entries_close (c : Connection) (w : World σ) :
    ((c.close lib).run w).state.routes.entries = (w.routes.unregister c.address).entries := by
  have hcall : (World.disconnect lib c.address w).2.routes.entries = w.routes.entries := by
    rw [World.disconnect, World.routes_call, Routes.entries_after_errors]
  rw [state_close]
  exact congrArg (List.filter _) hcall

/-! ## In between -/

theorem requests_ask (c : Connection) (r : Request) (w : World σ) :
    ((c.ask lib r).run w).state.requests = w.requests ++ [.ask c.address r, .sync c.address] := by
  have hasked : (World.ask lib c.address r (w.reroute fun r => r.reset c.holder)).2.requests =
      w.requests ++ [.ask c.address r] := World.requests_call rfl _ _
  have hsynced : ((c.ask lib r).run w).state.requests =
      (World.ask lib c.address r (w.reroute fun r => r.reset c.holder)).2.requests ++ [.sync c.address] := by
    unfold ask World.ask
    rw [state_checked]
    exact World.requests_call rfl _ _
  rw [hsynced, hasked, List.append_assoc]
  rfl

theorem entries_ask (c : Connection) (r : Request) (w : World σ) :
    ((c.ask lib r).run w).state.routes.entries = w.routes.entries := by
  unfold ask World.ask
  rw [routes_checked, entries_requestTrail]

variable {c : Connection}

/-- A request is on the connection. -/
theorem preserves_ask {w₀ : World σ} (r : Request) : (c.ask lib r).Preserves (w₀.AskedOn c.address) := by
  refine fun w hw => hw.trans ⟨⟨_, requests_ask lib c r w, ?_⟩, entries_ask lib c r w⟩
  simp [Exchange.IsOn]

end Connection

/-! ## Locks -/

/-- Whether the request is to lock a group. -/
def Request.isLock : Request → Bool
  | lockGroup _ _ => true
  | inputFocus | classHint _ | windowName _ | tree _ | atom _ _ | property _ _ _ _ | keyboard _ => false

/-- Nobody has been asked to lock a group. -/
def World.NeverLocked (w : World σ) : Prop :=
  ∀ a device group, .ask a (.lockGroup device group) ∉ w.requests

namespace Connection

variable (lib : Library σ) (c : Connection)

/-- Other requests lock nothing. -/
theorem preserves_neverLocked {r : Request} (hr : r.isLock = false) :
    (c.ask lib r).Preserves World.NeverLocked := by
  intro w hw a device group hlock
  rw [requests_ask] at hlock
  rcases List.mem_append.mp hlock with hlock | hlock
  · exact hw a device group hlock
  · obtain ⟨-, rfl⟩ : c.address = a ∧ r = .lockGroup device group := by simpa [eq_comm] using hlock
    cases hr

/-- Neither does closing the connection. -/
theorem neverLocked_close {w : World σ} (hw : w.NeverLocked) :
    ((c.close lib).run w).state.NeverLocked := by
  intro a device group hlock
  rw [requests_close] at hlock
  rcases List.mem_append.mp hlock with hlock | hlock
  · exact hw a device group hlock
  · simp at hlock

end Connection

/-! ## What every request preserves -/

namespace Connection

variable {lib : Library σ} {c : Connection} {I : World σ → Prop}
  (h : ∀ r : Request, r.isLock = false → (c.ask lib r).Preserves I)

theorem preserves_root : (c.root lib).Preserves I := fun _ hw => hw

include h

theorem preserves_keyboard : (c.keyboard lib).Preserves I := by
  refine (h _ rfl).bind fun reply => ?_
  split
  · exact .fail _
  · exact .pure _

theorem preserves_layoutNames : (c.layoutNames lib).Preserves I := by
  refine (h _ rfl).bind fun atom => ?_
  split
  · exact .pure _
  · refine preserves_root.bind fun root => (h _ rfl).bind fun property => ?_
    split
    · exact .fail _
    · exact .pure _

theorem preserves_classHint (w : WindowId) : (c.classHint lib w).Preserves I := by
  refine (h _ rfl).bind fun hint => ?_
  split
  · exact .pure _
  · exact .pure _

theorem preserves_title (w : WindowId) : (c.title lib w).Preserves I := by
  refine (h _ rfl).attempt.bind fun answer => ?_
  cases answer with
  | error f => exact (Preserves.say _ _ _).bind fun _ => .pure _
  | ok name => exact .pure _

theorem preserves_parent (w : WindowId) : (c.parent lib w).Preserves I := by
  refine (h _ rfl).attempt.bind fun answer => ?_
  cases answer with
  | error f => exact .pure _
  | ok place => exact .pure _

/-- Looking for a class goes from window to window. -/
theorem preserves_firstNamed (windows : List WindowId) : (c.firstNamed lib windows).Preserves I := by
  induction windows with
  | nil => exact .pure _
  | cons w rest ih =>
    refine (preserves_classHint h w).attempt.bind fun answer => ?_
    rcases answer with f | _ | hint
    · exact (Preserves.say _ _ _).bind fun _ => ih
    · exact ih
    · exact .pure _

theorem preserves_owner (focus : WindowId) : (c.owner lib focus).Preserves I := by
  refine (preserves_classHint h focus).bind fun hint => ?_
  cases hint with
  | some hint => exact .pure _
  | none =>
    refine (preserves_parent h focus).bind fun parent => preserves_root.bind fun root => ?_
    refine (preserves_firstNamed h _).bind fun found => ?_
    cases found with
    | some found => exact .pure _
    | none => exact (Preserves.say _ _ _).bind fun _ => .pure _

theorem preserves_focusedWindow : (c.focusedWindow lib).Preserves I := by
  refine (h _ rfl).bind fun focus => ?_
  split
  · exact .pure _
  · exact (preserves_owner h _).bind fun _ => (preserves_title h _).bind fun _ => .pure _

omit h in
theorem preserves_lockGroup (h : ∀ r, (c.ask lib r).Preserves I) (group : Nat) :
    (c.lockGroup lib group).Preserves I := by
  refine (h _).bind fun sent => ?_
  split
  · exact .fail _
  · exact (preserves_keyboard fun r _ => h r).bind fun state => (Preserves.say _ _ _).bind fun _ => .pure _

omit h in
/-- What every request preserves, every call of the backend preserves. -/
theorem preserves_backend (h : ∀ r, (c.ask lib r).Preserves I) : (c.backend lib).Preserves I where
  current := (preserves_keyboard fun r _ => h r).bind fun _ => .pure _
  lock := preserves_lockGroup h
  names := preserves_layoutNames fun r _ => h r

end Connection

end FocusLayout.Display
