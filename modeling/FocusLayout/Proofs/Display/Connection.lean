import FocusLayout.Display.Connection
import FocusLayout.Proofs.Display.History

/-!
# What a connection does to the routes

Opening, asking and closing, each by its result and by the trail that it leaves in the history of the routes.

- a connection is opened, or the table stays as it was (`run_open_nul`, `run_open_null`, `run_open_some`);
- a checked request on a connection whose holder catches the errors on its address and no others (`Listens`) fails
  exactly if one of them arrives (`result_checked`);
- closing takes in the last errors before the route goes, and tells of those that no request has read (`log_close`).
-/

namespace FocusLayout.Display.Connection

variable {σ α : Type} (lib : Library σ) {c : Connection} {w : World σ}

/-! ## Opening -/

section Opening

variable {name : Option String}

/-- The trail of opening a connection: the errors of the call come before the route. -/
def openTrail (name : Option String) (w : World σ) : List Happening :=
  match name.bind nulPosition? with
  | some _ => []
  | none =>
    (lib.connect name w.server).errors.map .error ++
      match (lib.connect name w.server).value with
      | some a => [.registered a (.own w.holders)]
      | none => []

/-- A name with a zero byte opens nothing, and nothing is asked of the library. -/
theorem run_open_nul {position : Nat} (h : name.bind nulPosition? = some position) :
    (∃ f, ((Connection.open lib name).run w).result = .error f) ∧ ((Connection.open lib name).run w).state = w := by
  unfold Connection.open
  simp only [h]
  exact ⟨⟨_, rfl⟩, rfl⟩

/-- Nothing is opened if the library gives no address. -/
theorem run_open_null (h : name.bind nulPosition? = none) (ha : (lib.connect name w.server).value = none) :
    (∃ f, ((Connection.open lib name).run w).result = .error f) ∧
      ((Connection.open lib name).run w).state = (World.connect lib name w).2 := by
  have hc : (World.connect lib name w).1 = none := ha
  unfold Connection.open
  simp only [h, Step.run_bind_act, hc]
  exact ⟨⟨_, rfl⟩, rfl⟩

/-- A connection is opened at the address that the library gives, with a holder that no other connection has had. -/
theorem run_open_some {a : Address} (h : name.bind nulPosition? = none)
    (ha : (lib.connect name w.server).value = some a) :
    ((Connection.open lib name).run w).result = .ok ⟨a, .own w.holders, shownName name⟩ ∧
      ((Connection.open lib name).run w).state =
        (World.connect lib name w).2.newHolder.2.reroute fun r => r.register a (.own w.holders) := by
  have hc : (World.connect lib name w).1 = some a := ha
  have hh : (World.connect lib name w).2.holders = w.holders := World.holders_call ..
  unfold Connection.open
  simp only [h, Step.run_bind_act, hc, World.newHolder, Step.run_bind_update, Step.run_bind_say, hh]
  exact ⟨rfl, rfl⟩

/-- There is no other way to open a connection. -/
theorem run_open_ok (h : ((Connection.open lib name).run w).result = .ok c) :
    (lib.connect name w.server).value = some c.address ∧ c.holder = .own w.holders ∧
      ((Connection.open lib name).run w).state =
        (World.connect lib name w).2.newHolder.2.reroute fun r => r.register c.address c.holder := by
  cases hname : name.bind nulPosition? with
  | some position =>
    obtain ⟨⟨f, hf⟩, -⟩ := run_open_nul (w := w) lib hname
    cases hf.symm.trans h
  | none =>
    cases ha : (lib.connect name w.server).value with
    | none =>
      obtain ⟨⟨f, hf⟩, -⟩ := run_open_null lib hname ha
      cases hf.symm.trans h
    | some a =>
      obtain ⟨hok, hstate⟩ := run_open_some lib hname ha
      obtain rfl := Except.ok.inj (hok.symm.trans h)
      exact ⟨rfl, rfl, hstate⟩

theorem routes_open : ((Connection.open lib name).run w).state.routes = w.routes.after (openTrail lib name w) := by
  have hcall : (World.connect lib name w).2.routes =
      w.routes.after ((lib.connect name w.server).errors.map .error) := World.routes_call ..
  unfold openTrail
  cases h : name.bind nulPosition? with
  | some position => rw [(run_open_nul lib h).2]; rfl
  | none =>
    cases ha : (lib.connect name w.server).value with
    | none => rw [(run_open_null lib h ha).2, hcall]; simp
    | some a =>
      rw [(run_open_some lib h ha).2, Routes.after_append, ← hcall]
      rfl

end Opening

/-! ## Asking -/

section Asking

variable (exchange : Exchange) (call : σ → Delivery σ α)

/-- The holder of the connection catches the errors on its address and no others. -/
def Listens (c : Connection) (r : Routes) : Prop :=
  ∀ a, r.holderOf a = c.holder ↔ a = c.address

/-- The addresses on which errors arrive while a call is made on a connection and waited for. -/
def arrivals (c : Connection) (s : σ) : List Address :=
  (call s).errors ++ (lib.sync c.address (call s).state).errors

/-- The trail of a checked request. -/
def requestTrail (c : Connection) (s : σ) : List Happening :=
  .reset c.holder :: (c.arrivals lib call s).map .error ++ [.taken c.holder]

/-- The world in which a checked request reads its holder: everything that it brings has arrived. -/
def answered (c : Connection) (w : World σ) : World σ :=
  (World.sync lib c.address (World.call exchange call (w.reroute fun r => r.reset c.holder)).2).2

theorem run_checked (c : Connection) (request : String) (w : World σ) :
    (c.checked lib request (World.call exchange call)).run w =
      let before := c.answered lib exchange call w
      let after := before.reroute fun r => r.reset c.holder
      if before.routes.occurred c.holder then
        ⟨.error (.protocol request), after,
          [⟨.debug, .display, s!"Ошибка протокола X11 в {request} на {c.name}"⟩]⟩
      else ⟨.ok (call w.server).value, after, []⟩ := by
  unfold checked
  simp only [Step.run_bind_update, Step.run_bind_act]
  split <;> rename_i hread
  · exact (if_pos hread).symm
  · exact (if_neg hread).symm

/-- A checked request clears its holder on both sides, however it ends. -/
theorem state_checked (c : Connection) (request : String) (w : World σ) :
    ((c.checked lib request (World.call exchange call)).run w).state =
      (c.answered lib exchange call w).reroute fun r => r.reset c.holder := by
  rw [run_checked]
  dsimp only
  split <;> rfl

theorem server_asked (c : Connection) (w : World σ) :
    (World.call exchange call (w.reroute fun r => r.reset c.holder)).2.server = (call w.server).state :=
  World.server_call ..

theorem routes_answered (c : Connection) (w : World σ) :
    (c.answered lib exchange call w).routes =
      (w.routes.reset c.holder).after ((c.arrivals lib call w.server).map .error) := by
  unfold answered World.sync
  rw [World.routes_call, World.routes_call, server_asked, arrivals, List.map_append, Routes.after_append]
  rfl

theorem server_checked (c : Connection) (request : String) (w : World σ) :
    ((c.checked lib request (World.call exchange call)).run w).state.server =
      (lib.sync c.address (call w.server).state).state := by
  rw [state_checked, ← server_asked exchange call c w]
  exact World.server_call ..

theorem holders_checked (c : Connection) (request : String) (w : World σ) :
    ((c.checked lib request (World.call exchange call)).run w).state.holders = w.holders := by
  rw [state_checked]
  exact (World.holders_call ..).trans (World.holders_call ..)

theorem routes_checked (c : Connection) (request : String) (w : World σ) :
    ((c.checked lib request (World.call exchange call)).run w).state.routes =
      w.routes.after (c.requestTrail lib call w.server) := by
  rw [state_checked, requestTrail, Routes.after_concat, Routes.after_cons]
  show (c.answered lib exchange call w).routes.reset c.holder = _
  rw [routes_answered]
  rfl

/-- Errors raise the holder of a connection exactly if one of them is on its address. -/
theorem Listens.occurred_after_errors {r : Routes} (h : c.Listens r) (errors : List Address) :
    (r.after (errors.map .error)).occurred c.holder = true ↔ r.occurred c.holder = true ∨ c.address ∈ errors := by
  rw [Routes.occurred_after_errors]
  simp only [h _, exists_eq_right]

/-- A checked request fails exactly if an error arrives on its own connection, whatever was raised before. -/
theorem result_checked (h : c.Listens w.routes) (request : String) :
    ((c.checked lib request (World.call exchange call)).run w).result =
      if c.address ∈ c.arrivals lib call w.server then .error (.protocol request)
      else .ok (call w.server).value := by
  have hreset : c.Listens (w.routes.reset c.holder) := h
  have hclear : (w.routes.reset c.holder).occurred c.holder = false := by simp [Routes.occurred_reset]
  have hraised : (c.answered lib exchange call w).routes.occurred c.holder = true ↔
      c.address ∈ c.arrivals lib call w.server := by
    rw [routes_answered, hreset.occurred_after_errors, hclear]
    simp
  rw [run_checked]
  simp only [hraised]
  split <;> rfl

/-- After a checked request its holder is clear, and of the others those are raised that were, and those that its errors
were routed to. -/
theorem occurred_requestTrail {r : Routes} {s : σ} {h : Holder} :
    (r.after (c.requestTrail lib call s)).occurred h = true ↔
      h ≠ c.holder ∧ (r.occurred h = true ∨ ∃ a ∈ c.arrivals lib call s, r.holderOf a = h) := by
  rw [requestTrail, Routes.after_concat, Routes.after_cons]
  show ((Routes.after (r.reset c.holder) _).reset c.holder).occurred h = true ↔ _
  rw [Routes.occurred_reset, Bool.and_eq_true, Routes.occurred_after_errors, Routes.occurred_reset]
  simp only [Bool.and_eq_true, bne_iff_ne, Routes.holderOf_reset]
  grind

/-- A checked request leaves the table alone. -/
theorem entries_requestTrail {r : Routes} {s : σ} : (r.after (c.requestTrail lib call s)).entries = r.entries := by
  rw [requestTrail, Routes.after_concat, Routes.after_cons]
  exact Routes.entries_after_errors _

theorem route?_requestTrail {r : Routes} {s : σ} (a : Address) :
    (r.after (c.requestTrail lib call s)).route? a = r.route? a := by
  unfold Routes.route?
  rw [entries_requestTrail]

end Asking

/-! ## Closing -/

section Closing

/-- The trail of closing a connection: its route is there until the last error has arrived. -/
def closeTrail (c : Connection) (s : σ) : List Happening :=
  (lib.disconnect c.address s).errors.map .error ++ [.unregistered c.address]

/-- The line about errors on a connection that no request has read. -/
def unreadLine (c : Connection) : Log.Entry :=
  ⟨.debug, .display, s!"Непрочитанная ошибка протокола X11 на {c.name}"⟩

/-- The last line of a connection. -/
def closedLine (c : Connection) : Log.Entry :=
  ⟨.debug, .display, s!"Соединение с {c.name} закрыто"⟩

theorem state_close (c : Connection) (w : World σ) :
    ((c.close lib).run w).state = (World.disconnect lib c.address w).2.reroute fun r => r.unregister c.address := by
  unfold close
  simp only [Step.run_bind_act, Step.run_bind_update, Step.run_bind_state]
  split <;> rfl

theorem routes_close (c : Connection) (w : World σ) :
    ((c.close lib).run w).state.routes = w.routes.after (c.closeTrail lib w.server) := by
  rw [state_close, closeTrail, Routes.after_concat]
  show Routes.unregister (World.disconnect lib c.address w).2.routes c.address = _
  rw [World.disconnect, World.routes_call]
  rfl

/-- The unread line stands before the last one if the holder is raised when the connection has been closed. -/
theorem log_close (c : Connection) (w : World σ) :
    ((c.close lib).run w).log =
      if (w.routes.after ((lib.disconnect c.address w.server).errors.map .error)).occurred c.holder then
        [c.unreadLine, c.closedLine]
      else [c.closedLine] := by
  have hroutes : (World.disconnect lib c.address w).2.routes =
      w.routes.after ((lib.disconnect c.address w.server).errors.map .error) := World.routes_call ..
  rw [← hroutes]
  unfold close
  simp only [Step.run_bind_act, Step.run_bind_update, Step.run_bind_state]
  split <;> rename_i hraised
  · exact (if_pos hraised).symm
  · exact (if_neg hraised).symm

end Closing

end FocusLayout.Display.Connection
