import FocusLayout.Display.Scene
import FocusLayout.Proofs.Display.Use

/-!
# The table of routes

After every use the table maps the addresses of the live connections, each to its own holder, and nothing else. An
address can be given out again as soon as its connection is closed, since that takes the route away.

- no error of a use arrives after it has changed the table (`still_of_error`), so an error at any moment goes where the
  live connections at the beginning of the use say;
- `routes_follow_connections` puts this together for whatever is reached.
-/

namespace FocusLayout.Display

variable {σ : Type} {lib : Library σ} {server : σ} {history : List Happening} {live : List Connection} {w : World σ}

/-! ## The moments of a use -/

/-- If nothing after `body` is an error, everything before an error stands in `body`. -/
theorem still_of_append {body last before later : List Happening} {a : Address}
    (h : body ++ last = before ++ .error a :: later) (hbody : ∀ x ∈ body, ¬x.Moves) (hlast : ∀ b, .error b ∉ last) :
    ∀ x ∈ before, ¬x.Moves := by
  rcases List.append_eq_append_iff.mp h with ⟨more, rfl, hmore⟩ | ⟨more, rfl, -⟩
  · exact absurd (hmore ▸ by simp) (hlast a)
  · exact fun x hx => hbody x (List.mem_append_left _ hx)

/-- A use changes the table only after its last error. -/
theorem Use.still_of_error {u : Use σ} {before later : List Happening} {a : Address}
    (h : u.trail lib w = before ++ .error a :: later) : ∀ x ∈ before, ¬x.Moves := by
  have herrors : ∀ errors : List Address, ∀ x ∈ errors.map Happening.error, ¬x.Moves := by simp [Happening.Moves]
  cases u with
  | opening name =>
    rcases opening_cases lib w [] name with ⟨htrail, -⟩ | ⟨htrail, -⟩ | ⟨c, -, -, htrail, -⟩
    · rw [htrail] at h
      simp at h
    · exact still_of_append ((List.append_nil _).trans (htrail ▸ h)) (herrors _) (by simp)
    · exact still_of_append (htrail ▸ h) (herrors _) (by simp)
  | request c name α exchange call =>
    have hbody : ∀ x ∈ Happening.reset c.holder :: (c.arrivals lib call w.server).map .error, ¬x.Moves :=
      List.forall_mem_cons.mpr ⟨id, herrors _⟩
    exact still_of_append h hbody (by simp)
  | other α exchange call => exact still_of_append ((List.append_nil _).trans h) (herrors _) (by simp)
  | closing c => exact still_of_append h (herrors _) (by simp)

/-- The routes in which an error of a use arrives have the table that the use began with. -/
theorem Use.holderOf_of_error {u : Use σ} {before later : List Happening} {a : Address}
    (h : u.trail lib w = before ++ .error a :: later) (b : Address) :
    (w.routes.after before).holderOf b = w.routes.holderOf b := by
  unfold Routes.holderOf
  rw [Routes.entries_after (still_of_error h)]

/-- Taking in an error raises the holder that its address is routed to, and no other. -/
theorem Routes.occurred_handle {r : Routes} {a : Address} {h : Holder} :
    (r.handle a).2.occurred h = true ↔ h = r.holderOf a ∨ r.occurred h = true := by
  simp [handle, occurred_raise]

/-! ## Names that open nothing -/

theorem Connection.nulPosition?_eq_none_iff {name : String} :
    nulPosition? name = none ↔ 0 ∉ Text.Utf8.encode name := by
  rw [nulPosition?, List.findIdx?_eq_none_iff]
  constructor
  · intro h hmem
    simpa using h 0 hmem
  · intro h b hb
    simpa using fun hzero : b = 0 => h (hzero ▸ hb)

theorem Connection.bind_nulPosition?_eq_none_iff {name : Option String} :
    name.bind nulPosition? = none ↔ ¬∃ n, name = some n ∧ 0 ∈ Text.Utf8.encode n := by
  cases name with
  | none => simp
  | some n => simp [nulPosition?_eq_none_iff]

/-- A name with a zero byte and a library that gives no address are all that can keep a connection from being opened;
then the table stays as it was. -/
theorem Connection.open_fails_iff {name : Option String} :
    ((∃ f, ((Connection.open lib name).run w).result = .error f) ↔
      (∃ n, name = some n ∧ 0 ∈ Text.Utf8.encode n) ∨ (lib.connect name w.server).value = none) ∧
    ((∃ f, ((Connection.open lib name).run w).result = .error f) →
      ((Connection.open lib name).run w).state.routes.entries = w.routes.entries) := by
  have hcall : (World.connect lib name w).2.routes.entries = w.routes.entries := by
    rw [World.connect, World.routes_call, Routes.entries_after_errors]
  cases hname : name.bind nulPosition? with
  | some position =>
    obtain ⟨hfail, hstate⟩ := run_open_nul (w := w) lib hname
    have hnul : ∃ n, name = some n ∧ 0 ∈ Text.Utf8.encode n := by
      by_contra hno
      rw [bind_nulPosition?_eq_none_iff.mpr hno] at hname
      cases hname
    exact ⟨⟨fun _ => .inl hnul, fun _ => hfail⟩, fun _ => by rw [hstate]⟩
  | none =>
    have hnul := bind_nulPosition?_eq_none_iff.mp hname
    cases ha : (lib.connect name w.server).value with
    | none =>
      obtain ⟨hfail, hstate⟩ := run_open_null lib hname ha
      exact ⟨⟨fun _ => .inr rfl, fun _ => hfail⟩, fun _ => by rw [hstate, hcall]⟩
    | some a =>
      obtain ⟨hok, -⟩ := run_open_some lib hname ha
      have hno : ¬∃ f, ((Connection.open lib name).run w).result = .error f := by
        rintro ⟨f, hf⟩
        rw [hok] at hf
        cases hf
      refine ⟨⟨fun h => absurd h hno, ?_⟩, fun h => absurd h hno⟩
      rintro (h | h)
      · exact absurd h hnul
      · cases h

/-! ## Every use -/

/-- **The table follows the connections.** In everything reached, the table maps exactly the addresses of the live
connections, each to its own holder, and these are different. An attempt to open a connection fails for a name with a
zero byte or without an address from the library, and then leaves the table as it was. Whatever is done next, every
error in it, at whatever moment it arrives, raises the holder of the live connection with that address and no other; or
the unrouted holder and no other, if no live connection has the address. -/
theorem routes_follow_connections (h : Reached lib server history live w) :
    (∀ a k, w.routes.route? a = some k ↔ ∃ c ∈ live, c.address = a ∧ c.holder = k) ∧
    (∀ c ∈ live, c.holder ≠ .unrouted ∧ ∀ d ∈ live, c.address = d.address ∨ c.holder = d.holder → c = d) ∧
    (∀ name,
      ((∃ f, ((Connection.open lib name).run w).result = .error f) ↔
        (∃ n, name = some n ∧ 0 ∈ Text.Utf8.encode n) ∨ (lib.connect name w.server).value = none) ∧
      ((∃ f, ((Connection.open lib name).run w).result = .error f) →
        ((Connection.open lib name).run w).state.routes.entries = w.routes.entries)) ∧
    ∀ u : Use σ,
      (u.run lib w).routes = w.routes.after (u.trail lib w) ∧
      ∀ before a later, u.trail lib w = before ++ .error a :: later →
        (∀ c ∈ live, c.address = a → ∀ k,
          ((w.routes.after before).handle a).2.occurred k = true ↔
            k = c.holder ∨ (w.routes.after before).occurred k = true) ∧
        ((∀ c ∈ live, c.address ≠ a) → ∀ k,
          ((w.routes.after before).handle a).2.occurred k = true ↔
            k = .unrouted ∨ (w.routes.after before).occurred k = true) := by
  have hr : Routed live w := h.routed
  refine ⟨hr.route?_iff, fun c hc => ⟨hr.holder_ne_unrouted hc, fun d hd => ?_⟩,
    fun name => Connection.open_fails_iff, fun u => ⟨u.routes_run lib w, fun before a later htrail => ?_⟩⟩
  · rintro (haddress | hholder)
    · exact hr.address_inj c hc d hd haddress
    · exact hr.holder_inj c hc d hd hholder
  · have htarget := Use.holderOf_of_error htrail a
    constructor
    · rintro c hc rfl k
      rw [Routes.occurred_handle, htarget, hr.holderOf_of_mem hc]
    · intro ha k
      rw [Routes.occurred_handle, htarget, hr.holderOf_of_forall_ne ha]

/-- A library that opens every connection in the same place. -/
def cramped : Library Stage :=
  { Stage.library with connect := fun _ s => ⟨some 7, [], s⟩ }

/-- A server that has an error for every connection that closes. -/
def flushing : Stage :=
  .ofScene { Scene.default with faults := [("XCloseDisplay", .call)] }

/-- A connection at an address that was another's before. The error at the end of that one has raised its own holder;
the one at the end of this one raises another. -/
theorem routes_follow_connections_same_address :
    let first : Connection := ⟨7, .own 0, "$DISPLAY"⟩
    let second : Connection := ⟨7, .own 1, "$DISPLAY"⟩
    let closed := (Use.closing first).run cramped ((Use.opening none).run cramped (World.initial flushing))
    let w := (Use.opening none).run cramped closed
    Reached cramped flushing
      [.registered 7 (.own 0), .error 7, .unregistered 7, .registered 7 (.own 1)] [second] w ∧
    w.routes.route? 7 = some (.own 1) ∧ w.routes.occurred (.own 0) = true ∧
    ∀ k, (w.routes.handle 7).2.occurred k = true ↔ k = .own 1 ∨ w.routes.occurred k = true := by
  intro first second closed w
  -- nothing lives when the two connections are opened
  have h : Reached cramped flushing
      [.registered 7 (.own 0), .error 7, .unregistered 7, .registered 7 (.own 1)] [second] w :=
    .next (.opening none)
      (.next (.closing first) (.next (.opening none) .start fun _ _ _ hd => absurd hd List.not_mem_nil)
        (List.mem_singleton_self _))
      fun _ _ _ hd => absurd hd List.not_mem_nil
  have law := routes_follow_connections h
  exact ⟨h, (law.1 7 (.own 1)).mpr ⟨second, by simp, rfl, rfl⟩, rfl,
    ((law.2.2.2 (.closing second)).2 [] 7 [.unregistered 7] rfl).1 second (by simp) rfl⟩

end FocusLayout.Display
