import FocusLayout.Display.Scene
import FocusLayout.Proofs.Display.Use

/-!
# Which request an error belongs to

A checked request clears its holder before the call and reads it after the server has answered everything, so it fails
exactly if an error arrives on its own connection meanwhile. What arrives later is raised until the next request
(`Connection.Unread`), which does not mistake it for its own; it is only told of when the connection is closed.

- `Reached.occurred_iff_unread`: the holder of a live connection is raised if it has unread errors;
- `requests_answer_for_their_errors`: both sides of a request, and the end of a connection.
-/

namespace FocusLayout.Display

variable {σ : Type} {lib : Library σ} {server : σ} {history : List Happening} {live : List Connection} {w : World σ}

namespace Connection

variable {c : Connection}

/-! ## Unread errors -/

/-- An error has arrived on the connection since its last checked request ended, or, if it has made none, since it was
opened. -/
def Unread (c : Connection) (history : List Happening) : Prop :=
  Since (· = .error c.address) (fun x => x ≠ .taken c.holder ∧ x ≠ .registered c.address c.holder) history

/-- How one more happening changes what is unread. -/
theorem unread_concat {x : Happening} :
    c.Unread (history ++ [x]) ↔
      x = .error c.address ∨ c.Unread history ∧ x ≠ .taken c.holder ∧ x ≠ .registered c.address c.holder :=
  since_concat

/-- Errors are unread if they are on the address of the connection. -/
theorem unread_append_errors (errors : List Address) :
    c.Unread (history ++ errors.map .error) ↔ c.Unread history ∨ c.address ∈ errors := by
  induction errors generalizing history with
  | nil => simp
  | cons a rest ih =>
    have hone : c.Unread (history ++ [.error a]) ↔ c.Unread history ∨ c.address = a := by
      rw [unread_concat, or_comm]
      simp [eq_comm]
    rw [List.map_cons, List.append_cons, ih, hone, List.mem_cons, or_assoc]

/-- A request of the connection itself leaves nothing unread. -/
theorem not_unread_requestTrail {α : Type} (call : σ → Delivery σ α) (s : σ) :
    ¬c.Unread (history ++ c.requestTrail lib call s) := by
  rw [requestTrail, ← List.append_assoc, unread_concat]
  simp

/-- A request of another connection adds the errors that arrive in it. -/
theorem unread_requestTrail {d : Connection} {α : Type} (call : σ → Delivery σ α) (s : σ) (h : c.holder ≠ d.holder) :
    c.Unread (history ++ d.requestTrail lib call s) ↔ c.Unread history ∨ c.address ∈ d.arrivals lib call s := by
  have hbegin : c.Unread (history ++ [.reset d.holder]) ↔ c.Unread history := by simp [unread_concat]
  rw [requestTrail, ← List.append_assoc, unread_concat, List.append_cons, unread_append_errors, hbegin]
  simp [h.symm]

/-! ## The end of a connection -/

theorem unreadLine_ne_closedLine : c.unreadLine ≠ c.closedLine := by
  intro h
  have htext := congrArg (fun line : Log.Entry => line.text.toList.head?) h
  simp [unreadLine, closedLine, toString] at htext

/-- The end of a connection tells of unread errors. -/
theorem unreadLine_mem_log_close_iff (h : c.Listens w.routes)
    (hunread : w.routes.occurred c.holder = true ↔ c.Unread history) :
    c.unreadLine ∈ ((c.close lib).run w).log ↔
      c.Unread (history ++ (lib.disconnect c.address w.server).errors.map .error) := by
  rw [log_close, unread_append_errors, ← hunread, ← h.occurred_after_errors]
  split <;> rename_i hraised
  · simp [hraised]
  · simp [hraised, unreadLine_ne_closedLine]

end Connection

/-! ## A whole run -/

/-- **The holder of a live connection is raised if it has unread errors.** -/
theorem Reached.occurred_iff_unread (h : Reached lib server history live w) :
    ∀ c ∈ live, (w.routes.occurred c.holder = true ↔ c.Unread history) := by
  induction h with
  | start => simp
  | @next history live w u h hu ih =>
    have hr : Routed live w := h.routed
    -- what all uses have in common: errors arrive
    have herrors : ∀ c ∈ live, ∀ errors : List Address,
        (w.routes.after (errors.map .error)).occurred c.holder = true ↔ c.Unread (history ++ errors.map .error) := by
      intro c hc errors
      rw [Connection.unread_append_errors, ← ih c hc]
      exact (hr.listens hc).occurred_after_errors errors
    intro c hc
    rw [Use.routes_run]
    cases u with
    | opening name =>
      rcases Use.opening_cases lib w live name with
        ⟨htrail, hlive, -⟩ | ⟨htrail, hlive, -⟩ | ⟨d, hok, hown, htrail, hlive, -⟩
      · rw [hlive] at hc
        rw [htrail, List.append_nil]
        exact ih c hc
      · rw [hlive] at hc
        rw [htrail]
        exact herrors c hc _
      · rw [hlive] at hc
        rw [htrail, Routes.after_concat, Routes.undergo, Routes.occurred_register, ← List.append_assoc,
          Connection.unread_concat]
        rcases List.mem_cons.mp hc with rfl | hc
        · -- a holder that is only now given out cannot have been raised
          have hclear : (World.call (.connect name) (lib.connect name) w).2.routes.occurred c.holder = false := by
            rw [hown, ← World.holders_call w (.connect name) (lib.connect name)]
            exact (hr.called ..).clear
          rw [← World.routes_call w (.connect name) (lib.connect name)]
          simpa using hclear
        · rw [herrors c hc]
          simp [(hu d hok c hc).symm]
    | request d name α exchange call =>
      show (w.routes.after (d.requestTrail lib call w.server)).occurred c.holder = true ↔
        c.Unread (history ++ d.requestTrail lib call w.server)
      rw [Connection.occurred_requestTrail]
      by_cases hcd : c = d
      · subst hcd
        exact iff_of_false (fun hraised => hraised.1 rfl) (Connection.not_unread_requestTrail call w.server)
      · have hne : c.holder ≠ d.holder := fun heq => hcd (hr.holder_inj c hc d hu heq)
        rw [Connection.unread_requestTrail call w.server hne, ← ih c hc]
        simp only [hr.listens hc _, exists_eq_right]
        exact and_iff_right hne
    | other α exchange call => exact herrors c hc _
    | closing d =>
      show (w.routes.after (d.closeTrail lib w.server)).occurred c.holder = true ↔
        c.Unread (history ++ d.closeTrail lib w.server)
      rw [Connection.closeTrail, Routes.after_concat, Routes.undergo, Routes.occurred_unregister,
        herrors c (List.mem_of_mem_erase hc), ← List.append_assoc, Connection.unread_concat]
      simp

/-- **Requests answer for their errors, and for no others.** Take any live connection at any point of any run, and let
any holders be raised. A checked request on it fails, by its name, exactly if an error on its address is delivered
during its call or while the server is waited for, and otherwise gives the value of the call. Its holder is clear
afterwards; any other holder is raised if it was, or if an error in the request was routed to it. And if the connection
is closed, there is a line about unread errors exactly if an error on it has arrived since its last checked request
ended, the closing included. -/
theorem requests_answer_for_their_errors (h : Reached lib server history live w) {c : Connection} (hc : c ∈ live) :
    (∀ (raised : List Holder) (request : String) (α : Type) (exchange : Exchange) (call : σ → Delivery σ α),
      let o := (c.checked lib request (World.call exchange call)).run { w with routes := ⟨w.routes.entries, raised⟩ }
      let errors := (call w.server).errors ++ (lib.sync c.address (call w.server).state).errors
      (o.result = if c.address ∈ errors then .error (.protocol request) else .ok (call w.server).value) ∧
      o.state.routes.occurred c.holder = false ∧
      ∀ k, k ≠ c.holder →
        (o.state.routes.occurred k = true ↔ k ∈ raised ∨ ∃ a ∈ errors, w.routes.holderOf a = k)) ∧
    (c.unreadLine ∈ ((c.close lib).run w).log ↔
      c.Unread (history ++ (lib.disconnect c.address w.server).errors.map .error)) := by
  have hl : c.Listens w.routes := h.routed.listens hc
  refine ⟨fun raised request α exchange call => ?_,
    Connection.unreadLine_mem_log_close_iff hl (h.occurred_iff_unread c hc)⟩
  -- who is raised matters to neither the table nor the server
  let w' : World σ := { w with routes := ⟨w.routes.entries, raised⟩ }
  have hl' : c.Listens w'.routes := hl
  have hflag : ∀ k, ((c.checked lib request (World.call exchange call)).run w').state.routes.occurred k = true ↔
      k ≠ c.holder ∧ (k ∈ raised ∨ ∃ a ∈ c.arrivals lib call w.server, w.routes.holderOf a = k) := by
    intro k
    rw [Connection.routes_checked, Connection.occurred_requestTrail]
    simp only [Routes.occurred, List.contains_iff_mem]
    exact Iff.rfl
  refine ⟨Connection.result_checked lib exchange call hl' request, ?_, fun k hk => ?_⟩
  · rw [Bool.eq_false_iff]
    exact fun hraised => ((hflag c.holder).mp hraised).1 rfl
  · rw [hflag]
    exact and_iff_right hk

/-- A server with the focus on window 5, whose class requests end in an error. -/
def faultyClasses : Stage :=
  .ofScene { Scene.default with
    displays := [":0"], defaultDisplay := some ":0", focus := 5, faults := [("XGetClassHint", .sync)] }

/-- With two connections open and an old error on the first, its next request is not blamed for it; a request with an
error of its own is. Without either, the end of the connection tells of the old error. -/
theorem requests_answer_for_their_errors_old_error :
    let first : Connection := ⟨1, .own 0, "$DISPLAY"⟩
    let second : Connection := ⟨2, .own 1, "$DISPLAY"⟩
    let opened := (Use.opening none).run Stage.library
      ((Use.opening none).run Stage.library (World.initial faultyClasses))
    let strike : Use Stage := .other Unit (.sync 1) fun s => ⟨(), [1], s⟩
    let w := strike.run Stage.library opened
    Reached Stage.library faultyClasses [.registered 1 (.own 0), .registered 2 (.own 1), .error 1] [second, first] w ∧
    w.routes.occurred first.holder = true ∧
    ((first.ask Stage.library .inputFocus).run w).result = .ok (5 : WindowId) ∧
    ((first.ask Stage.library (.classHint 5)).run w).result = .error (.protocol "XGetClassHint") ∧
    first.unreadLine ∈ ((first.close Stage.library).run w).log := by
  intro first second opened strike w
  have h : Reached Stage.library faultyClasses
      [.registered 1 (.own 0), .registered 2 (.own 1), .error 1] [second, first] w :=
    .next strike (.next (.opening none) (.next (.opening none) .start fun _ _ _ hd => absurd hd List.not_mem_nil)
      fun c hc d hd => by
        cases hc
        rw [List.mem_singleton.mp hd]
        decide) trivial
  have law := requests_answer_for_their_errors h (c := first) (by simp)
  refine ⟨h, rfl, (law.1 w.routes.raised "XGetInputFocus" _ _ _).1, (law.1 w.routes.raised "XGetClassHint" _ _ _).1,
    law.2.mpr ⟨[.registered 1 (.own 0), .registered 2 (.own 1)], .error 1, [], rfl, rfl, by simp⟩⟩

end FocusLayout.Display
