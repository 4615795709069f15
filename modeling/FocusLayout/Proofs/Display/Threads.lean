import FocusLayout.Proofs.Display.Routing
import Mathlib.Logic.Function.Basic

/-!
# Connections in several threads

To open a connection takes two things, the call of the library and then the route, and so does closing one. In one
thread nothing comes between them (`Interleaved.opened`, `Interleaved.closed`); with several, anything can (`Turn`,
`Interleaved`). The library gives out only addresses that no connection has in use, but an address that it has taken
back may still be waiting for its route to go, and routes go by address alone.

- `Orderly`: every connection in use has its route, unless that has been `Withdrawn` by another that had the address
  before. Every turn keeps this (`Orderly.turn`);
- `Settled`: nothing is withdrawn if an address is given out only after its route has gone (`Settled.turn`);
- `errors_reach_holder_unless_withdrawn`: where the errors of a connection go;
- `interleaved_late_unregister`: a connection that loses its route.
-/

namespace FocusLayout.Display

/-- How far a connection has come. -/
inductive Phase where
  | unopened
  /-- The library has given it an address. -/
  | opened (a : Address)
  /-- It has its route, too. -/
  | routed (a : Address) (h : Holder)
  /-- The library has taken its address back. -/
  | closed (a : Address)
  /-- The route of its address has been taken away, too. -/
  | unrouted
  deriving DecidableEq, Repr

/-- Whether a connection has an address in use, as the library sees it. -/
def Phase.Holds (a : Address) : Phase → Prop
  | opened b | routed b _ => b = a
  | unopened | closed _ | unrouted => False

/-- No connection has the address in use. -/
def Unheld {ι : Type} (phase : ι → Phase) (a : Address) : Prop := ∀ i, ¬(phase i).Holds a

/-- Connections in several threads, the world that they share, and all changes of the table so far. -/
structure Threads (ι σ : Type) where
  phase : ι → Phase
  world : World σ
  moves : List Happening

/-- The route of an address has been taken away since it went to a holder. -/
def Withdrawn (a : Address) (k : Holder) (moves : List Happening) : Prop :=
  Since (· = .unregistered a) (· ≠ .registered a k) moves

section Withdrawn

variable {a b : Address} {h k : Holder} {moves : List Happening}

theorem withdrawn_registered :
    Withdrawn b k (moves ++ [.registered a h]) ↔ Withdrawn b k moves ∧ ¬(a = b ∧ h = k) := by
  unfold Withdrawn
  rw [since_concat]
  simp

theorem withdrawn_unregistered : Withdrawn b k (moves ++ [.unregistered a]) ↔ a = b ∨ Withdrawn b k moves := by
  unfold Withdrawn
  rw [since_concat]
  simp

end Withdrawn

variable {ι σ : Type} [DecidableEq ι]

namespace Threads

/-- Nothing has been opened. -/
def start (server : σ) : Threads ι σ := ⟨fun _ => .unopened, .initial server, []⟩

/-- One connection comes a step further. -/
def advance (t : Threads ι σ) (i : ι) (p : Phase) (w : World σ) (moves : List Happening) : Threads ι σ :=
  ⟨Function.update t.phase i p, w, t.moves ++ moves⟩

end Threads

/-- What can happen next. An address is given out only if `mayGive` says so. -/
inductive Turn (lib : Library σ) (mayGive : (ι → Phase) → Address → Prop) (t : Threads ι σ) : Threads ι σ → Prop
  | connect (i : ι) (name : Option String) (a : Address) :
      t.phase i = .unopened → (lib.connect name t.world.server).value = some a → mayGive t.phase a →
        Turn lib mayGive t (t.advance i (.opened a) (World.connect lib name t.world).2 [])
  | register (i : ι) (a : Address) :
      t.phase i = .opened a →
        Turn lib mayGive t (t.advance i (.routed a (.own t.world.holders))
          (t.world.newHolder.2.reroute fun r => r.register a (.own t.world.holders))
          [.registered a (.own t.world.holders)])
  | disconnect (i : ι) (a : Address) (h : Holder) :
      t.phase i = .routed a h →
        Turn lib mayGive t (t.advance i (.closed a) (World.disconnect lib a t.world).2 [])
  | unregister (i : ι) (a : Address) :
      t.phase i = .closed a →
        Turn lib mayGive t (t.advance i .unrouted (t.world.reroute fun r => r.unregister a) [.unregistered a])
  /-- Requests, errors, and whatever else leaves the table alone. -/
  | meanwhile (w : World σ) :
      w.routes.entries = t.world.routes.entries → w.holders = t.world.holders →
        Turn lib mayGive t { t with world := w }

/-- What several threads can come to that start before any connection. -/
inductive Interleaved (lib : Library σ) (mayGive : (ι → Phase) → Address → Prop) (server : σ) : Threads ι σ → Prop
  | start : Interleaved lib mayGive server (.start server)
  | next {t t' : Threads ι σ} : Interleaved lib mayGive server t → Turn lib mayGive t t' →
      Interleaved lib mayGive server t'

variable {lib : Library σ} {mayGive : (ι → Phase) → Address → Prop} {server : σ} {t t' : Threads ι σ}

/-! ## One thread alone -/

/-- Two steps of one connection are as good as one. -/
theorem Threads.advance_advance (i : ι) (p q : Phase) (v w : World σ) (first second : List Happening) :
    (t.advance i p v first).advance i q w second = t.advance i q w (first ++ second) := by
  simp [advance, Function.update_idem]

theorem Threads.advance_routed_iff {i j : ι} {p : Phase} {w : World σ} {moves : List Happening} {a : Address}
    {k : Holder} :
    (t.advance i p w moves).phase j = .routed a k ↔ (j = i ∧ p = .routed a k) ∨ (j ≠ i ∧ t.phase j = .routed a k) := by
  simp only [advance, Function.update_apply]
  grind

/-- A connection that is opened in one go takes two turns. -/
theorem Interleaved.opened (h : Interleaved lib mayGive server t) {i : ι} {name : Option String} {c : Connection}
    (hi : t.phase i = .unopened) (hok : ((Connection.open lib name).run t.world).result = .ok c)
    (hgive : mayGive t.phase c.address) :
    Interleaved lib mayGive server
      (t.advance i (.routed c.address c.holder) ((Connection.open lib name).run t.world).state
        [.registered c.address c.holder]) := by
  obtain ⟨ha, hown, hstate⟩ := Connection.run_open_ok lib hok
  have hholders : (World.connect lib name t.world).2.holders = t.world.holders := World.holders_call ..
  have hregister := (h.next (.connect i name c.address hi ha hgive)).next
    (.register i c.address (Function.update_self ..))
  rw [Threads.advance_advance] at hregister
  rw [hstate, hown, ← hholders]
  exact hregister

/-- A checked request takes one. -/
theorem Interleaved.requested {α : Type} (h : Interleaved lib mayGive server t) (c : Connection) (request : String)
    (exchange : Exchange) (call : σ → Delivery σ α) :
    Interleaved lib mayGive server
      { t with world := ((c.checked lib request (World.call exchange call)).run t.world).state } := by
  refine h.next (.meanwhile _ ?_ (Connection.holders_checked ..))
  rw [Connection.routes_checked, Connection.entries_requestTrail]

/-- A connection that is closed in one go takes two. -/
theorem Interleaved.closed (h : Interleaved lib mayGive server t) {i : ι} {c : Connection}
    (hi : t.phase i = .routed c.address c.holder) :
    Interleaved lib mayGive server
      (t.advance i .unrouted ((c.close lib).run t.world).state [.unregistered c.address]) := by
  have hunregister := (h.next (.disconnect i c.address c.holder hi)).next
    (.unregister i c.address (Function.update_self ..))
  rw [Threads.advance_advance] at hunregister
  rw [Connection.state_close]
  exact hunregister

/-! ## What every turn keeps -/

/-- The table has no route for an address that is withdrawn from a holder, and else the one to that holder. -/
def Fits (r : Routes) (moves : List Happening) (a : Address) (k : Holder) : Prop :=
  (Withdrawn a k moves → r.route? a = none) ∧ (¬Withdrawn a k moves → r.route? a = some k)

section Fits

variable {r : Routes} {a b : Address} {h k : Holder} {moves : List Happening}

theorem fits_registered_self : Fits (r.register a k) (moves ++ [.registered a k]) a k := by
  unfold Fits
  rw [withdrawn_registered, Routes.route?_register]
  simp

theorem fits_registered (hab : b ≠ a) (hfits : Fits r moves b k) :
    Fits (r.register a h) (moves ++ [.registered a h]) b k := by
  unfold Fits at hfits ⊢
  rw [withdrawn_registered, Routes.route?_register]
  simpa [hab, hab.symm] using hfits

theorem fits_unregistered (hfits : Fits r moves b k) : Fits (r.unregister a) (moves ++ [.unregistered a]) b k := by
  unfold Fits at hfits ⊢
  rw [withdrawn_unregistered, Routes.route?_unregister]
  by_cases hab : b = a
  · simp [hab]
  · simpa [hab, Ne.symm hab] using hfits

/-- A call of the library moves nothing. -/
theorem fits_called {α : Type} {w : World σ} {exchange : Exchange} {call : σ → Delivery σ α}
    (hfits : Fits w.routes moves b k) : Fits (World.call exchange call w).2.routes (moves ++ []) b k := by
  unfold Fits
  rw [List.append_nil, World.routes_call, Routes.route?_after_errors]
  exact hfits

end Fits

/-- What several threads keep in order. -/
structure Orderly (t : Threads ι σ) : Prop where
  /-- No address is in use twice. -/
  alone : ∀ i j a, (t.phase i).Holds a → (t.phase j).Holds a → i = j
  /-- The holders have been given out, each to one connection. -/
  own : ∀ i a k, t.phase i = .routed a k → ∃ n < t.world.holders, k = .own n
  holder_inj : ∀ i j a b k, t.phase i = .routed a k → t.phase j = .routed b k → i = j
  fits : ∀ i a k, t.phase i = .routed a k → Fits t.world.routes t.moves a k

namespace Orderly

/-- A connection comes a step further in order if its address is in use by no other, its holder has just been given
out, and the table fits. -/
theorem advance {i : ι} {p : Phase} {w : World σ} {moves : List Happening} (h : Orderly t)
    (halone : ∀ a, p.Holds a → ∀ j, j ≠ i → ¬(t.phase j).Holds a)
    (hown : ∀ a k, p = .routed a k →
      k = .own t.world.holders ∧ t.world.holders < w.holders ∧ Fits w.routes (t.moves ++ moves) a k)
    (hholders : t.world.holders ≤ w.holders)
    (hfits : ∀ j a k, j ≠ i → t.phase j = .routed a k → Fits w.routes (t.moves ++ moves) a k) :
    Orderly (t.advance i p w moves) where
  alone j l a hj hl := by
    simp only [Threads.advance, Function.update_apply] at hj hl
    have := h.alone j l a
    grind
  own j a k hj := by
    rcases Threads.advance_routed_iff.mp hj with ⟨-, hp⟩ | ⟨-, hj⟩
    · exact ⟨_, (hown a k hp).2.1, (hown a k hp).1⟩
    · obtain ⟨n, hn, hk⟩ := h.own j a k hj
      exact ⟨n, Nat.lt_of_lt_of_le hn hholders, hk⟩
  holder_inj j l a b k hj hl := by
    simp only [Threads.advance, Function.update_apply] at hj hl
    -- a holder that is only now given out is not that of any other
    have hnew : ∀ m c, p = .routed c k → ∀ d, t.phase m ≠ .routed d k := by
      intro m c hp d hm
      obtain ⟨n, hn, hk⟩ := h.own m d k hm
      obtain rfl : n = t.world.holders := Holder.own.inj (hk.symm.trans (hown c k hp).1)
      exact Nat.lt_irrefl _ hn
    have := h.holder_inj j l a b k
    grind
  fits j a k hj := by
    rcases Threads.advance_routed_iff.mp hj with ⟨-, hp⟩ | ⟨hne, hj⟩
    · exact (hown a k hp).2.2
    · exact hfits j a k hne hj

/-- Every turn keeps the order if the library gives out only addresses that are not in use. -/
theorem turn (hgive : ∀ phase a, mayGive phase a → Unheld phase a) (h : Orderly t) (hturn : Turn lib mayGive t t') :
    Orderly t' := by
  cases hturn with
  | connect i name a hi ha hmay =>
    refine h.advance ?_ (fun _ _ hp => Phase.noConfusion hp) (Nat.le_of_eq (World.holders_call ..).symm)
      fun j b k _ hj => fits_called (h.fits j b k hj)
    rintro b rfl j -
    exact hgive _ _ hmay j
  | register i a hi =>
    have halone : ∀ j, j ≠ i → ¬(t.phase j).Holds a := fun j hj hheld => hj (h.alone j i a hheld (by rw [hi]; rfl))
    refine h.advance ?_ ?_ (Nat.le_succ _) fun j b k hne hj => fits_registered ?_ (h.fits j b k hj)
    · rintro b rfl
      exact halone
    · rintro b k hp
      obtain ⟨rfl, rfl⟩ := Phase.routed.inj hp
      exact ⟨rfl, Nat.lt_succ_self _, fits_registered_self⟩
    · exact fun hba => halone j hne (by rw [hj]; exact hba)
  | disconnect i a k hi =>
    exact h.advance (fun _ hp => hp.elim) (fun _ _ hp => Phase.noConfusion hp)
      (Nat.le_of_eq (World.holders_call ..).symm) fun j b k _ hj => fits_called (h.fits j b k hj)
  | unregister i a hi =>
    exact h.advance (fun _ hp => hp.elim) (fun _ _ hp => Phase.noConfusion hp) (Nat.le_refl _)
      fun j b k _ hj => fits_unregistered (h.fits j b k hj)
  | meanwhile w hentries hholders =>
    have hroute : ∀ a, w.routes.route? a = t.world.routes.route? a := by simp [Routes.route?, hentries]
    refine ⟨h.alone, by rw [hholders]; exact h.own, h.holder_inj, fun i a k hi => ?_⟩
    unfold Fits
    rw [hroute]
    exact h.fits i a k hi

end Orderly

/-- Everything that several threads come to is in order. -/
theorem Interleaved.orderly (hgive : ∀ phase a, mayGive phase a → Unheld phase a)
    (h : Interleaved lib mayGive server t) : Orderly t := by
  induction h with
  | start =>
    exact ⟨fun _ _ _ hi => hi.elim, fun _ _ _ hi => Phase.noConfusion hi, fun _ _ _ _ _ hi => Phase.noConfusion hi,
      fun _ _ _ hi => Phase.noConfusion hi⟩
  | next _ hturn ih => exact ih.turn hgive hturn

/-! ## Addresses whose routes are gone -/

/-- No route is taken away by a connection that had the address before. -/
structure Settled (t : Threads ι σ) : Prop where
  not_closed : ∀ i j a, (t.phase i).Holds a → t.phase j ≠ .closed a
  not_withdrawn : ∀ i a k, t.phase i = .routed a k → ¬Withdrawn a k t.moves

namespace Settled

/-- A connection comes a step further and leaves it so if neither it nor any other that is in use has an address whose
route is still to go, and no route is withdrawn. -/
theorem advance {i : ι} {p : Phase} {w : World σ} {moves : List Happening} (h : Settled t)
    (hholds : ∀ a, p.Holds a → ∀ j, j ≠ i → t.phase j ≠ .closed a)
    (hclosed : ∀ a, p = .closed a → ∀ j, j ≠ i → ¬(t.phase j).Holds a)
    (hself : ∀ a k, p = .routed a k → ¬Withdrawn a k (t.moves ++ moves))
    (hothers : ∀ j a k, t.phase j = .routed a k → ¬Withdrawn a k (t.moves ++ moves)) :
    Settled (t.advance i p w moves) where
  not_closed j l a hj hl := by
    simp only [Threads.advance, Function.update_apply] at hj hl
    have := h.not_closed j l a
    grind [Phase.Holds]
  not_withdrawn j a k hj := by
    rcases Threads.advance_routed_iff.mp hj with ⟨-, hp⟩ | ⟨-, hj⟩
    · exact hself a k hp
    · exact hothers j a k hj

/-- Every turn keeps it so if the library does not give out an address whose route is still to go. -/
theorem turn (hwait : ∀ phase a, mayGive phase a → ∀ j : ι, phase j ≠ .closed a) (h : Settled t) (ho : Orderly t)
    (hturn : Turn lib mayGive t t') : Settled t' := by
  have hstill : ∀ j a k, t.phase j = .routed a k → ¬Withdrawn a k (t.moves ++ []) := by
    rw [List.append_nil]
    exact h.not_withdrawn
  cases hturn with
  | connect i name a hi ha hmay =>
    refine h.advance ?_ (fun _ hp => Phase.noConfusion hp) (fun _ _ hp => Phase.noConfusion hp) hstill
    rintro b rfl j -
    exact hwait _ _ hmay j
  | register i a hi =>
    refine h.advance ?_ (fun _ hp => Phase.noConfusion hp) ?_ fun j b k hj => ?_
    · rintro b rfl j -
      exact h.not_closed i j a (by rw [hi]; rfl)
    · intro b k hp
      obtain ⟨rfl, rfl⟩ := Phase.routed.inj hp
      simp [withdrawn_registered]
    · rw [withdrawn_registered]
      exact fun hwithdrawn => h.not_withdrawn j b k hj hwithdrawn.1
  | disconnect i a k hi =>
    refine h.advance (fun _ hp => hp.elim) ?_ (fun _ _ hp => Phase.noConfusion hp) hstill
    intro b hp j hne hheld
    obtain rfl := Phase.closed.inj hp
    exact hne (ho.alone j i a hheld (by rw [hi]; rfl))
  | unregister i a hi =>
    refine h.advance (fun _ hp => hp.elim) (fun _ hp => Phase.noConfusion hp) (fun _ _ hp => Phase.noConfusion hp)
      fun j b k hj => ?_
    rw [withdrawn_unregistered]
    rintro (rfl | hwithdrawn)
    · exact h.not_closed j i a (by rw [hj]; rfl) hi
    · exact h.not_withdrawn j b k hj hwithdrawn
  | meanwhile w hentries hholders => exact ⟨h.not_closed, h.not_withdrawn⟩

end Settled

/-- Everything that several threads come to is settled if the library waits for the routes to go. -/
theorem Interleaved.settled (hgive : ∀ phase a, mayGive phase a → Unheld phase a)
    (hwait : ∀ phase a, mayGive phase a → ∀ j : ι, phase j ≠ .closed a) (h : Interleaved lib mayGive server t) :
    Settled t := by
  induction h with
  | start => exact ⟨fun _ _ _ hi => hi.elim, fun _ _ _ hi => Phase.noConfusion hi⟩
  | next h hturn ih => exact ih.turn hwait (h.orderly hgive) hturn

/-! ## Where errors go -/

/-- **Errors reach their own holder unless its route has been withdrawn.** Take a connection at any time from its route
to the moment when the library takes its address back, among any number of others whose turns come in any order, and
let the library give out any addresses that are not in use. Its holder is its own. An error on its address, at whatever
moment it arrives, raises this holder and no other; but if another connection at the same address has taken the route
away since, the error raises the unrouted holder and no other. This cannot happen if the library waits for the route of
an address to go before it gives it out again. -/
theorem errors_reach_holder_unless_withdrawn (hgive : ∀ phase a, mayGive phase a → Unheld phase a)
    (h : Interleaved lib mayGive server t) {i : ι} {a : Address} {k : Holder} (hi : t.phase i = .routed a k) :
    (k ≠ .unrouted ∧ ∀ j b, t.phase j = .routed b k → j = i) ∧
    (∀ r : Routes, r.entries = t.world.routes.entries →
      (¬Withdrawn a k t.moves → ∀ l, (r.handle a).2.occurred l = true ↔ l = k ∨ r.occurred l = true) ∧
      (Withdrawn a k t.moves → ∀ l, (r.handle a).2.occurred l = true ↔ l = .unrouted ∨ r.occurred l = true)) ∧
    ((∀ phase a, mayGive phase a → ∀ j : ι, phase j ≠ .closed a) → ¬Withdrawn a k t.moves) := by
  have ho : Orderly t := h.orderly hgive
  refine ⟨⟨?_, fun j b hj => ho.holder_inj j i b a k hj hi⟩, fun r hr => ?_,
    fun hwait => (h.settled hgive hwait).not_withdrawn i a k hi⟩
  · obtain ⟨n, -, rfl⟩ := ho.own i a k hi
    exact Holder.noConfusion
  · have hroute : r.route? a = t.world.routes.route? a := by simp [Routes.route?, hr]
    obtain ⟨hgone, hthere⟩ := ho.fits i a k hi
    constructor
    · intro hw l
      rw [Routes.occurred_handle, Routes.holderOf_eq, hroute, hthere hw]
      rfl
    · intro hw l
      rw [Routes.occurred_handle, Routes.holderOf_eq, hroute, hgone hw]
      rfl

/-- Two connections that get the same address, one after the other. The first has been closed before the second was
opened, and takes away the route of the second. -/
theorem interleaved_late_unregister :
    ∃ t : Threads Bool Stage, Interleaved cramped Unheld (.ofScene .default) t ∧ t.phase true = .routed 7 (.own 1) ∧
      t.world.routes = .empty ∧ t.moves = [.registered 7 (.own 0), .registered 7 (.own 1), .unregistered 7] := by
  have h : Interleaved cramped Unheld (Stage.ofScene .default) (.start _ : Threads Bool Stage) := .start
  have hfirst := ((h.next (.connect false none 7 rfl rfl fun _ => id)).next (.register false 7 rfl)).next
    (.disconnect false 7 (.own 0) rfl)
  have hunheld : Unheld (Function.update (Function.update (Function.update (fun _ => .unopened) false (.opened 7))
      false (.routed 7 (.own 0))) false (.closed 7)) 7 := Bool.rec id id
  have hsecond := (hfirst.next (.connect true none 7 rfl rfl hunheld)).next (.register true 7 rfl)
  exact ⟨_, hsecond.next (.unregister false 7 rfl), rfl, rfl, rfl⟩

/-- An error of the second connection is unrouted. -/
theorem errors_reach_holder_unless_withdrawn_late :
    ∃ t : Threads Bool Stage, Interleaved cramped Unheld (.ofScene .default) t ∧ t.phase true = .routed 7 (.own 1) ∧
      ∀ l, (t.world.routes.handle 7).2.occurred l = true ↔ l = .unrouted ∨ t.world.routes.occurred l = true := by
  obtain ⟨t, h, hphase, -, hmoves⟩ := interleaved_late_unregister
  have hwithdrawn : Withdrawn 7 (.own 1) t.moves := by
    rw [hmoves]
    exact ⟨[.registered 7 (.own 0), .registered 7 (.own 1)], _, [], rfl, rfl, by simp⟩
  have law := errors_reach_holder_unless_withdrawn (fun _ _ => id) h hphase
  exact ⟨t, h, hphase, (law.2.1 _ rfl).2 hwithdrawn⟩

/-- So errors do not always reach the holder of a connection in use. -/
theorem not_errors_always_reach_holder :
    ¬∀ t : Threads Bool Stage, Interleaved cramped Unheld (.ofScene .default) t →
      ∀ i a k, t.phase i = .routed a k → (t.world.routes.handle a).2.occurred k = true := by
  intro hall
  obtain ⟨t, h, hphase, hroutes, -⟩ := interleaved_late_unregister
  have hraised := hall t h true 7 (.own 1) hphase
  rw [hroutes] at hraised
  exact absurd hraised (by decide)

end FocusLayout.Display
