import FocusLayout.Proofs.Program.Holding

/-!
# Every connection is closed, once and last

`Working` is what holds from the opening of the connection on: since then the program has asked on it only, and somebody
has a share of it. Every request preserves this, and so does a command, whether it succeeds or fails (`Holding`). In the
end `releasing` closes the connection (`closed_carryOut`).

How far a run comes towards a connection is known from its command line, its configuration, its environment and the
answer of the library (`access`). Together: `connection_closed_last`.
-/

namespace FocusLayout.Program

open CommandLine (Command)
open Display (Address Connection Exchange Library Shares World)
open Focus (Source)
open Layout (Backend)
open Step (Preserves)

variable {σ : Type}

/-! ## Commands on a connection -/

/-- Since a world in which the connection was open, the program has asked on it only, and somebody has a share of it and
nobody of another one. -/
structure Working (c : Connection) (w₀ : World σ) (s : Surroundings σ) : Prop where
  asked : w₀.AskedOn c.address s.world
  alone : s.shares.Of c
  shared : s.shares ≠ .empty

section Working

variable (lib : Library σ) {c : Connection} {w₀ : World σ} {s : Surroundings σ} (config : Config)

theorem Working.holding (h : Working c w₀ s) : Holding (w₀.AskedOn c.address) c s :=
  ⟨h.asked, h.alone, h.shared⟩

/-! ## The last request -/

/-- Since a world in which the connection was open, the program has asked on it only, and in the end has closed it. -/
structure Closed (c : Connection) (w₀ w : World σ) : Prop where
  requests : ∃ asked, w.requests = w₀.requests ++ asked ++ [.disconnect c.address] ∧ ∀ e ∈ asked, e.IsOn c.address
  entries : w.routes.entries = (w₀.routes.unregister c.address).entries

/-- Whatever a command ends in, its connection is closed then. -/
theorem closed_releasing {α : Type} {t : Step (Surroundings σ) α}
    (h : Holding (w₀.AskedOn c.address) c (t.run s).state) :
    Closed c w₀ ((releasing lib t).run s).state.world := by
  obtain ⟨⟨⟨asked, hasked, hon⟩, hentries⟩, halone, hshared⟩ := h
  rw [(run_releasing lib halone hshared).2]
  refine ⟨⟨asked, ?_, hon⟩, ?_⟩
  · rw [Connection.requests_close, hasked]
  · rw [Connection.entries_close, Display.Routes.unregister, Display.Routes.unregister, hentries]

/-- The end of a watch asks for nothing. -/
theorem preserves_endWatch : endWatch.Preserves fun s : Surroundings σ => Closed c w₀ s.world := by
  intro s hs
  rw [run_endWatch]
  exact ⟨hs.requests, hs.entries⟩

/-- **A command closes its connection, whatever it ends in.** -/
theorem closed_carryOut (polls : Nat) (command : Command) (h : Working c w₀ s) :
    Closed c w₀ ((carryOut lib config (some c) false polls command).run s).state.world := by
  have hask : ∀ r, (c.ask lib r).Preserves (w₀.AskedOn c.address) := Connection.preserves_ask lib
  cases command with
  | focus => exact closed_releasing lib (h.holding.focus lib hask)
  | layout change => exact closed_releasing lib (h.holding.layout lib hask config change)
  | state => exact closed_releasing lib (h.holding.state lib hask config)
  | watch =>
    have hwatched : Closed c w₀ ((watchUntil lib config (some c) false polls).run s).state.world :=
      closed_releasing lib (h.holding.watch lib hask config polls)
    exact Preserves.after (I := fun s : Surroundings σ => Closed c w₀ s.world) hwatched fun _ => preserves_endWatch

end Working

/-! ## Every run -/

/-- A connection that has just been opened is the command's to work with. -/
theorem working_opened (w : World σ) (c : Connection) : Working c w (.opened w c) :=
  ⟨.refl _ _, Shares.Of.empty.withShare _, Shares.withShare_ne_empty⟩

/-- **Every connection is closed, once and last.** Take any library and server, environment, settings file, command line
and number of polls of a watch. In the end no route is left. If the library was not asked for a connection, it was asked
for nothing at all, and if it refused one, for nothing else. If it opened one, the requests were to open it, then some
requests on it, and then to close it, whatever the command was and whatever it ended in. -/
theorem connection_closed_last (lib : Library σ) (server : σ) (env : Environment) (file : String → Option (List UInt8))
    (polls : Nat) (words : List String) :
    let ending := run lib (.initial server) env file polls words
    ending.world.routes.entries = [] ∧
      match access lib server env file words with
      | .unasked => ending.world.requests = []
      | .refused name => ending.world.requests = [.connect name]
      | .granted name a =>
        ∃ asked, ending.world.requests = .connect name :: asked ++ [.disconnect a] ∧ ∀ e ∈ asked, e.IsOn a := by
  intro ending
  have hcases := run_access lib server env file polls words
  cases haccess : access lib server env file words with
  | unasked =>
    rw [haccess] at hcases
    obtain ⟨-, hworld⟩ := hcases
    rw [hworld]
    exact ⟨rfl, rfl⟩
  | refused name =>
    rw [haccess] at hcases
    obtain ⟨-, hworld⟩ := hcases
    rw [hworld]
    exact ⟨Connection.entries_connect lib, Connection.requests_connect lib⟩
  | granted name a =>
    rw [haccess] at hcases
    obtain ⟨plan, -, hending⟩ := hcases
    obtain ⟨-, hworld⟩ := hending _ _ (.of_run _ _)
    obtain ⟨⟨asked, hasked, hon⟩, hentries⟩ :=
      closed_carryOut lib plan.config polls plan.invocation.command (working_opened _ (firstAt name a))
    rw [hworld]
    refine ⟨hentries.trans (entries_unregister_openedAt lib server name a), asked, ?_, hon⟩
    rw [hasked]
    exact congrArg (· ++ asked ++ [_]) (requests_openedAt lib server name a)

end FocusLayout.Program
