import FocusLayout.Proofs.Display.Connection
import Mathlib.Data.List.Basic

/-!
# Connections in use

A program opens connections, makes checked requests and other calls on them, and closes them, one thing after another
(`Use`). `Reached` are the histories, live connections and worlds that it can come to; the library may give a new
connection any address that no live one has, also that of a closed one.

- `routes_run`: what a use does to the routes is its trail, so the history makes them what they are
  (`Reached.routes_eq`);
- `Routed`: the table maps the addresses of the live connections to their holders and nothing else, and the holders to
  come are clear. Every use keeps this (`Routed.run`), so it holds of everything reached (`Reached.routed`).
-/

namespace FocusLayout.Display

variable {σ : Type}

/-- One thing that a program does with the library. -/
inductive Use (σ : Type) : Type 1 where
  | opening (name : Option String)
  /-- A checked request, whatever call it makes. -/
  | request (c : Connection) (name : String) (α : Type) (exchange : Exchange) (call : σ → Delivery σ α)
  /-- Any call that is not checked. -/
  | other (α : Type) (exchange : Exchange) (call : σ → Delivery σ α)
  | closing (c : Connection)

namespace Use

variable (lib : Library σ)

/-- The world after a use. -/
def run (w : World σ) : Use σ → World σ
  | opening name => ((Connection.open lib name).run w).state
  | request c name _ exchange call => ((c.checked lib name (World.call exchange call)).run w).state
  | other _ exchange call => (World.call exchange call w).2
  | closing c => ((c.close lib).run w).state

/-- What a use does to the routes, from its first happening to its last. -/
def trail (w : World σ) : Use σ → List Happening
  | opening name => Connection.openTrail lib name w
  | request c _ _ _ call => c.requestTrail lib call w.server
  | other _ _ call => (call w.server).errors.map .error
  | closing c => c.closeTrail lib w.server

/-- The connections that live after a use. -/
def survivors (w : World σ) (live : List Connection) : Use σ → List Connection
  | opening name =>
    match ((Connection.open lib name).run w).result with
    | .ok c => c :: live
    | .error _ => live
  | request .. | other .. => live
  | closing c => live.erase c

/-- Only live connections are used, and the library gives no address twice at a time. -/
def Allowed (w : World σ) (live : List Connection) : Use σ → Prop
  | opening name => ∀ c, ((Connection.open lib name).run w).result = .ok c → ∀ d ∈ live, d.address ≠ c.address
  | request c .. => c ∈ live
  | other .. => True
  | closing c => c ∈ live

/-- An attempt to open a connection is refused at once, or gets no address, or makes a live connection with a holder of
its own. -/
theorem opening_cases (w : World σ) (live : List Connection) (name : Option String) :
    let errors := (lib.connect name w.server).errors.map Happening.error
    let called := (World.connect lib name w).2
    ((opening name).trail lib w = [] ∧ (opening name).survivors lib w live = live ∧ (opening name).run lib w = w) ∨
    ((opening name).trail lib w = errors ∧ (opening name).survivors lib w live = live ∧
      (opening name).run lib w = called) ∨
    ∃ c : Connection, ((Connection.open lib name).run w).result = .ok c ∧ c.holder = .own w.holders ∧
      (opening name).trail lib w = errors ++ [.registered c.address c.holder] ∧
      (opening name).survivors lib w live = c :: live ∧
      (opening name).run lib w = called.newHolder.2.reroute fun r => r.register c.address c.holder := by
  unfold trail survivors run Connection.openTrail
  cases hname : name.bind Connection.nulPosition? with
  | some position =>
    obtain ⟨⟨f, hf⟩, hstate⟩ := Connection.run_open_nul (w := w) lib hname
    exact .inl ⟨by simp only [hname], by simp only [hf], hstate⟩
  | none =>
    cases ha : (lib.connect name w.server).value with
    | none =>
      obtain ⟨⟨f, hf⟩, hstate⟩ := Connection.run_open_null lib hname ha
      exact .inr (.inl ⟨by simp only [hname, ha, List.append_nil], by simp only [hf], hstate⟩)
    | some a =>
      obtain ⟨hok, hstate⟩ := Connection.run_open_some lib hname ha
      exact .inr (.inr ⟨_, hok, rfl, by simp only [hname, ha], by simp only [hok], hstate⟩)

theorem routes_run (w : World σ) (u : Use σ) : (u.run lib w).routes = w.routes.after (u.trail lib w) := by
  cases u with
  | opening name => exact Connection.routes_open lib
  | request c name α exchange call => exact Connection.routes_checked ..
  | other α exchange call => exact World.routes_call ..
  | closing c => exact Connection.routes_close ..

end Use

/-- What a program can come to that starts before any connection: all that has happened to the routes, the live
connections, and the world. -/
inductive Reached (lib : Library σ) (server : σ) : List Happening → List Connection → World σ → Prop
  | start : Reached lib server [] [] (World.initial server)
  | next {history : List Happening} {live : List Connection} {w : World σ} (u : Use σ) :
      Reached lib server history live w → u.Allowed lib w live →
        Reached lib server (history ++ u.trail lib w) (u.survivors lib w live) (u.run lib w)

/-- The routes of a world fit the live connections. -/
structure Routed (live : List Connection) (w : World σ) : Prop where
  /-- The table maps exactly the addresses of the live connections, each to its own holder. -/
  route?_iff : ∀ a h, w.routes.route? a = some h ↔ ∃ c ∈ live, c.address = a ∧ c.holder = h
  nodup : live.Nodup
  address_inj : ∀ c ∈ live, ∀ d ∈ live, c.address = d.address → c = d
  holder_inj : ∀ c ∈ live, ∀ d ∈ live, c.holder = d.holder → c = d
  /-- The holders of the live connections have been given out. -/
  own : ∀ c ∈ live, ∃ n < w.holders, c.holder = .own n
  /-- Those that have not been given out are clear. -/
  fresh : ∀ n, w.routes.occurred (.own n) = true → n < w.holders

namespace Routed

variable {live : List Connection} {w w' : World σ} {a : Address} {c : Connection} (lib : Library σ)

theorem initial (server : σ) : Routed [] (World.initial server) where
  route?_iff := by simp [World.initial]
  nodup := List.nodup_nil
  address_inj := by simp
  holder_inj := by simp
  own := by simp
  fresh := by simp [World.initial, Routes.occurred, Routes.empty]

/-! ## Where errors go -/

/-- An error on the address of a live connection goes to its holder. -/
theorem holderOf_of_mem (h : Routed live w) (hc : c ∈ live) : w.routes.holderOf c.address = c.holder := by
  rw [Routes.holderOf_eq, (h.route?_iff c.address c.holder).mpr ⟨c, hc, rfl, rfl⟩]
  rfl

/-- An error on any other address goes to the unrouted holder. -/
theorem holderOf_of_forall_ne (h : Routed live w) (ha : ∀ c ∈ live, c.address ≠ a) :
    w.routes.holderOf a = .unrouted := by
  have hnone : w.routes.route? a = none := by
    rw [Option.eq_none_iff_forall_ne_some]
    intro k hk
    obtain ⟨c, hc, haddress, -⟩ := (h.route?_iff a k).mp hk
    exact ha c hc haddress
  rw [Routes.holderOf_eq, hnone]
  rfl

theorem holder_ne_unrouted (h : Routed live w) (hc : c ∈ live) : c.holder ≠ .unrouted := by
  obtain ⟨n, -, hn⟩ := h.own c hc
  rw [hn]
  exact Holder.noConfusion

/-- No error goes to a holder that has not been given out. -/
theorem lt_of_holderOf (h : Routed live w) {n : Nat} (hn : w.routes.holderOf a = .own n) : n < w.holders := by
  by_cases ha : ∃ c ∈ live, c.address = a
  · obtain ⟨c, hc, rfl⟩ := ha
    rw [h.holderOf_of_mem hc] at hn
    obtain ⟨m, hm, hown⟩ := h.own c hc
    obtain rfl : m = n := Holder.own.inj (hown.symm.trans hn)
    exact hm
  · rw [h.holderOf_of_forall_ne (by grind)] at hn
    exact Holder.noConfusion hn

/-- Every live connection hears of the errors on its address and of no others. -/
theorem listens (h : Routed live w) (hc : c ∈ live) : c.Listens w.routes := by
  intro a
  constructor
  · intro ha
    by_cases hd : ∃ d ∈ live, d.address = a
    · obtain ⟨d, hd, rfl⟩ := hd
      rw [h.holderOf_of_mem hd] at ha
      rw [h.holder_inj d hd c hc ha]
    · rw [h.holderOf_of_forall_ne (by grind)] at ha
      exact absurd ha.symm (h.holder_ne_unrouted hc)
  · rintro rfl
    exact h.holderOf_of_mem hc

/-- The next holder to be given out is clear. -/
theorem clear (h : Routed live w) : w.routes.occurred (.own w.holders) = false := by
  rw [Bool.eq_false_iff]
  exact fun hraised => Nat.lt_irrefl _ (h.fresh w.holders hraised)

/-! ## What every use keeps -/

/-- What leaves the table alone and raises only holders that errors go to. -/
theorem unmoved (h : Routed live w) (hroute : ∀ a, w'.routes.route? a = w.routes.route? a)
    (hholders : w'.holders = w.holders)
    (hraised : ∀ k, w'.routes.occurred k = true → w.routes.occurred k = true ∨ ∃ a, w.routes.holderOf a = k) :
    Routed live w' where
  route?_iff a k := by rw [hroute]; exact h.route?_iff a k
  nodup := h.nodup
  address_inj := h.address_inj
  holder_inj := h.holder_inj
  own := by rw [hholders]; exact h.own
  fresh n hn := by
    rw [hholders]
    rcases hraised _ hn with hn | ⟨a, ha⟩
    · exact h.fresh n hn
    · exact h.lt_of_holderOf ha

/-- Any call of the library. -/
theorem called {α : Type} (exchange : Exchange) (call : σ → Delivery σ α) (h : Routed live w) :
    Routed live (World.call exchange call w).2 := by
  refine h.unmoved (fun a => ?_) (World.holders_call ..) fun k hk => ?_
  · rw [World.routes_call, Routes.route?_after_errors]
  · rw [World.routes_call, Routes.occurred_after_errors] at hk
    exact hk.imp_right fun ⟨a, _, ha⟩ => ⟨a, ha⟩

theorem requested {α : Type} (request : String) (exchange : Exchange) (call : σ → Delivery σ α)
    (h : Routed live w) : Routed live ((c.checked lib request (World.call exchange call)).run w).state := by
  refine h.unmoved (fun a => ?_) (Connection.holders_checked ..) fun k hk => ?_
  · rw [Connection.routes_checked, Connection.route?_requestTrail]
  · rw [Connection.routes_checked, Connection.occurred_requestTrail] at hk
    exact hk.2.imp_right fun ⟨a, _, ha⟩ => ⟨a, ha⟩

/-- A route for a new connection. -/
theorem registered (h : Routed live w) (hown : c.holder = .own w.holders)
    (hc : ∀ d ∈ live, d.address ≠ c.address) :
    Routed (c :: live) (w.newHolder.2.reroute fun r => r.register c.address c.holder) where
  route?_iff b k := by
    show (w.routes.register c.address c.holder).route? b = some k ↔ _
    rw [Routes.route?_register]
    split <;> rename_i hb
    · subst hb
      constructor
      · exact fun hk => ⟨c, List.mem_cons_self, rfl, Option.some.inj hk⟩
      · rintro ⟨d, hd, haddress, hholder⟩
        rcases List.mem_cons.mp hd with rfl | hd
        · rw [hholder]
        · exact absurd haddress (hc d hd)
    · rw [h.route?_iff]
      grind
  nodup := List.nodup_cons.mpr ⟨fun hmem => hc c hmem rfl, h.nodup⟩
  address_inj := by
    have := h.address_inj
    grind
  holder_inj := by
    have hnew : ∀ d ∈ live, d.holder ≠ c.holder := by
      intro d hd heq
      obtain ⟨n, hn, hd⟩ := h.own d hd
      obtain rfl : n = w.holders := Holder.own.inj (hd.symm.trans (heq.trans hown))
      exact Nat.lt_irrefl _ hn
    have := h.holder_inj
    grind
  own := by
    intro d hd
    rcases List.mem_cons.mp hd with rfl | hd
    · exact ⟨w.holders, Nat.lt_succ_self _, hown⟩
    · obtain ⟨n, hn, hown⟩ := h.own d hd
      exact ⟨n, Nat.lt_succ_of_lt hn, hown⟩
  fresh n hn := Nat.lt_succ_of_lt (h.fresh n hn)

/-- No route any more for a connection that has been closed. -/
theorem unregistered (h : Routed live w) (hc : c ∈ live) :
    Routed (live.erase c) (w.reroute fun r => r.unregister c.address) where
  route?_iff b k := by
    show (w.routes.unregister c.address).route? b = some k ↔ _
    rw [Routes.route?_unregister]
    simp only [h.nodup.mem_erase_iff]
    split <;> rename_i hb
    · have := h.address_inj
      grind
    · rw [h.route?_iff]
      grind
  nodup := h.nodup.erase c
  address_inj d hd e he := h.address_inj d (List.mem_of_mem_erase hd) e (List.mem_of_mem_erase he)
  holder_inj d hd e he := h.holder_inj d (List.mem_of_mem_erase hd) e (List.mem_of_mem_erase he)
  own d hd := h.own d (List.mem_of_mem_erase hd)
  fresh := h.fresh

/-- **Every use keeps the routes fitting.** -/
theorem run (h : Routed live w) {u : Use σ} (hu : u.Allowed lib w live) :
    Routed (u.survivors lib w live) (u.run lib w) := by
  cases u with
  | opening name =>
    have hcall : Routed live (World.connect lib name w).2 := h.called ..
    have hholders : (World.connect lib name w).2.holders = w.holders := World.holders_call ..
    rcases Use.opening_cases lib w live name with
      ⟨-, hlive, hrun⟩ | ⟨-, hlive, hrun⟩ | ⟨c, hok, hown, -, hlive, hrun⟩
    · rw [hlive, hrun]
      exact h
    · rw [hlive, hrun]
      exact hcall
    · rw [hlive, hrun]
      exact hcall.registered (by rw [hholders, hown]) (hu c hok)
  | request c name α exchange call => exact h.requested ..
  | other α exchange call => exact h.called ..
  | closing c =>
    have hcall : Routed live (World.disconnect lib c.address w).2 := h.called ..
    show Routed (live.erase c) ((c.close lib).run w).state
    rw [Connection.state_close]
    exact hcall.unregistered hu

end Routed

namespace Reached

variable {lib : Library σ} {server : σ} {history : List Happening} {live : List Connection} {w : World σ}

/-- The routes fit in everything reached. -/
theorem routed (h : Reached lib server history live w) : Routed live w := by
  induction h with
  | start => exact .initial server
  | next u _ hu ih => exact ih.run lib hu

/-- The history is what has happened to the routes. -/
theorem routes_eq (h : Reached lib server history live w) : w.routes = Routes.empty.after history := by
  induction h with
  | start => rfl
  | next u _ _ ih => rw [Use.routes_run, ih, Routes.after_append]

end Reached

end FocusLayout.Display
