import FocusLayout.Proofs.Program.Connecting
import FocusLayout.Proofs.Program.Invariant

/-!
# Commands on a connection

`Holding` is what holds while a command works on its connection: the world satisfies a condition, and somebody has a
share of the connection and nobody of another one. If every request on the connection preserves the condition, all that
a command does before its end keeps this (`Holding.focus`, `Holding.layout`, `Holding.state`, `Holding.watch`).
-/

namespace FocusLayout.Program

open CommandLine (LayoutChange)
open Display (Connection Library Request Shares World)
open Focus (Source)
open Layout (Backend)
open Step (Preserves)

variable {σ : Type}

/-- The world satisfies the condition, and somebody has a share of the connection and nobody of another one. -/
structure Holding (I : World σ → Prop) (c : Connection) (s : Surroundings σ) : Prop where
  world : I s.world
  alone : s.shares.Of c
  shared : s.shares ≠ .empty

/-- A connection that has just been opened is the command's. -/
theorem Holding.opened {I : World σ → Prop} {w : World σ} (h : I w) (c : Connection) : Holding I c (.opened w c) :=
  ⟨h, Shares.Of.empty.withShare _, Shares.withShare_ne_empty⟩

variable (lib : Library σ) {I : World σ → Prop} {c : Connection} {s : Surroundings σ}

theorem holding_inWorld {α : Type} {t : Step (World σ) α} (h : t.Preserves I) :
    (Surroundings.inWorld t).Preserves (Holding I c) :=
  h.within (fun _ hs => hs.world) fun _ _ hs hw => ⟨hw, hs.alone, hs.shared⟩

/-! ## Shares -/

namespace Holding

/-- Whoever gets a share has one. -/
theorem withShare (h : Holding I c s) (owner : Owner) : Holding I c (s.withShares (s.shares.withShare owner c)) :=
  ⟨h.world, h.alone.withShare owner, Shares.withShare_ne_empty⟩

/-- The source gets a share, and then it is the source's turn. -/
theorem makeSource {α : Type} {k : Source (Surroundings σ) → Step (Surroundings σ) α} (h : Holding I c s)
    (hk : Holding I c ((k ((c.source lib).within Surroundings.world Surroundings.withWorld)).run
      (s.withShares (s.shares.withShare .source c))).state) :
    Holding I c ((Program.makeSource lib (some c) false >>= k).run s).state := by
  rwa [Step.run_bind_silent (run_makeSource lib h.alone)]

/-- The backend gets a share, and then it is the backend's turn. -/
theorem makeBackend {α : Type} {k : Backend (Surroundings σ) → Step (Surroundings σ) α} (h : Holding I c s)
    (hk : Holding I c ((k ((c.backend lib).within Surroundings.world Surroundings.withWorld)).run
      (s.withShares (s.shares.withShare .backend c))).state) :
    Holding I c ((Program.makeBackend lib (some c) false >>= k).run s).state := by
  rwa [Step.run_bind_silent (run_makeBackend lib h.alone)]

/-- The command lets go where somebody else has a share, and goes on. -/
theorem handOn {α : Type} {k : Unit → Step (Surroundings σ) α} (h : Holding I c s)
    (hrest : s.shares.without .command ≠ .empty) (hk : (k ()).Preserves (Holding I c)) :
    Holding I c ((letGo lib .command >>= k).run s).state := by
  rw [Step.run_bind_silent (run_letGo_kept lib h.alone hrest)]
  exact hk _ ⟨h.world, h.alone.without _, hrest⟩

end Holding

/-! ## The commands -/

section Commands

variable (hask : ∀ r : Request, (c.ask lib r).Preserves I) (config : Config)

include hask

/-- The source on the connection only asks on it. -/
theorem holding_source :
    ((c.source lib).within Surroundings.world Surroundings.withWorld).activeWindow.Preserves (Holding I c) :=
  holding_inWorld (Connection.preserves_focusedWindow fun r _ => hask r)

/-- The backend on the connection only asks on it. -/
theorem holding_backend :
    ((c.backend lib).within Surroundings.world Surroundings.withWorld).Preserves (Holding I c) where
  current := holding_inWorld (Connection.preserves_backend hask).current
  lock group := holding_inWorld ((Connection.preserves_backend hask).lock group)
  names := holding_inWorld (Connection.preserves_backend hask).names

namespace Holding

theorem focus (h : Holding I c s) :
    Holding I c ((do
      let source ← Program.makeSource lib (some c) false
      letGo lib .command
      Program.focus source).run s).state :=
  h.makeSource lib ((h.withShare .source).handOn lib (Shares.withShare_without_ne_empty nofun)
    (preserves_focus (holding_source lib hask)))

theorem layout (h : Holding I c s) (change : LayoutChange) :
    Holding I c ((do
      let backend ← Program.makeBackend lib (some c) false
      letGo lib .command
      Program.layout config backend change).run s).state :=
  h.makeBackend lib ((h.withShare .backend).handOn lib (Shares.withShare_without_ne_empty nofun)
    (preserves_layout config (holding_backend lib hask) change))

theorem state (h : Holding I c s) : Holding I c ((Program.state lib config (some c) false).run s).state := by
  have hk : ∀ keyboard, (Program.makeBackend lib (some c) false >>= fun backend => letGo lib .command >>= fun _ =>
      keyboardState config backend keyboard).Preserves (Holding I c) := fun keyboard s' h' =>
    h'.makeBackend lib ((h'.withShare .backend).handOn lib (Shares.withShare_without_ne_empty nofun)
      (preserves_keyboardState config (holding_backend lib hask) keyboard))
  exact (holding_inWorld (Connection.preserves_keyboard fun r _ => hask r)).bind hk s h

theorem watch (h : Holding I c s) (polls : Nat) :
    Holding I c ((do
      let source ← Program.makeSource lib (some c) false
      let backend ← Program.makeBackend lib (some c) false
      letGo lib .command
      Program.watch config source backend polls).run s).state := by
  have h' := h.withShare .source
  exact h.makeSource lib (h'.makeBackend lib ((h'.withShare .backend).handOn lib
    (Shares.withShare_without_ne_empty nofun)
    (preserves_watch config (holding_backend lib hask) (holding_source lib hask) polls)))

end Holding

end Commands

end FocusLayout.Program
