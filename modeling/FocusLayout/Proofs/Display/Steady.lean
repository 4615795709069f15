import FocusLayout.Display.Scene
import FocusLayout.Proofs.Display.Asking
import FocusLayout.Proofs.Display.Keyboard
import FocusLayout.Proofs.Layout.Honest
import FocusLayout.Proofs.Layout.Telling

/-!
# A keyboard that nobody else changes

If only locks change the group of the keyboard and the server tells it when asked (`Library.Steady`), the backend on a
connection tells the truth, whatever the server makes of a lock (`tells_backend`, `honest_backend`). Every described
server is like that (`Stage.steady_library`).
-/

namespace FocusLayout.Display

open Step (Preserves)

variable {σ : Type}

/-- Nobody but the program changes the group of the keyboard, and a keyboard that answers tells it. Nothing is said of
what becomes of a lock. -/
structure Library.Steady (lib : Library σ) (group : σ → Nat) : Prop where
  /-- No other request changes the group. -/
  asked : ∀ a (r : Request) s, r.isLock = false → group (lib.next a r s) = group s
  /-- Neither does closing a connection. -/
  closed : ∀ a s, group (lib.disconnect a s).state = group s
  /-- The state of the keyboard has the group, as a byte. -/
  told : ∀ a s, ¬lib.Fails a (.keyboard mainKeyboard) s →
    (lib.reply a (.keyboard mainKeyboard) s : KeyboardReply).status = 0 →
    (lib.reply a (.keyboard mainKeyboard) s : KeyboardReply).group = UInt8.ofNat (group s)

namespace Stage

theorem scene_strike (s : Stage) (fault : Option Fault) (a : Address) : (s.strike fault a).2.scene = s.scene := by
  rcases fault with _ | _ | _ | _ <;> rfl

/-- A request makes of the scene what it makes of it, whatever errors it brings. -/
theorem scene_next (a : Address) (r : Request) (s : Stage) : (Stage.library.next a r s).scene = s.scene.after r := rfl

/-- The group in effect on a described server. -/
def group (s : Stage) : Nat := s.scene.keyboard.group

/-- There is nobody else on a described server. -/
theorem steady_library : Stage.library.Steady group where
  asked a r s hr := by
    have hstill : s.scene.after r = s.scene := by
      cases r with
      | lockGroup device group => cases hr
      | _ => rfl
    rw [group, scene_next, hstill]
    rfl
  closed a s := congrArg (fun scene => scene.keyboard.group) (scene_strike s (s.scene.fault? "XCloseDisplay") a)
  told a s _ _ := rfl

end Stage

namespace Connection

variable {lib : Library σ} {c : Connection} {group : σ → Nat}

/-- Whether a connection listens is a matter of the table, which no request changes. -/
theorem preserves_listens (lib : Library σ) (c : Connection) (r : Request) :
    (c.ask lib r).Preserves fun w => c.Listens w.routes := by
  intro w hw
  refine hw.of_route?_eq fun b => ?_
  unfold Routes.route?
  rw [entries_ask]

/-- No request but a lock changes the group. -/
theorem preserves_group (h : lib.Steady group) (g : Nat) (r : Request) (hr : r.isLock = false) :
    (c.ask lib r).Preserves fun w => group w.server = g := by
  intro w hw
  have hserver : ((c.ask lib r).run w).state.server = lib.next c.address r w.server := server_checked ..
  rw [hserver, h.asked _ _ _ hr]
  exact hw

/-- The group in the state of the keyboard is the one in effect. -/
theorem keyboard_true (h : lib.Steady group) {w w' : World σ} {k : Layout.Keyboard} (hw : c.Listens w.routes)
    (hk : (c.keyboard lib).Ends w (.ok k) w') : (UInt8.ofNat (group w'.server)).toNat = k.group := by
  obtain ⟨hresult, hserver, -⟩ := gives_keyboardState lib c w.server w rfl hw
  have hgroup : group w'.server = group w.server := by
    rw [← hk.2, hserver]
    exact h.asked _ _ _ rfl
  have htold : lib.keyboardState c.address w.server = .ok k := hresult.symm.trans hk.1
  unfold Library.keyboardState at htold
  dsimp only at htold
  split at htold <;> rename_i hfails
  · cases htold
  · split at htold <;> rename_i hstatus
    · cases htold
    · obtain rfl := Except.ok.inj htold
      rw [hgroup, ← h.told c.address w.server hfails (not_not.mp hstatus)]
      rfl

/-- **The backend of a connection tells the truth** about a keyboard that nobody else changes: what it gives is the
group in effect then, as a byte. -/
theorem tells_backend (h : lib.Steady group) :
    (c.backend lib).Tells (fun w => c.Listens w.routes) fun w => (UInt8.ofNat (group w.server)).toNat where
  toPreserves := preserves_backend (preserves_listens lib c)
  current_true := by
    intro w w' g hw hcurrent
    obtain ⟨k, w₁, hk, hg⟩ := hcurrent.of_bind
    obtain ⟨rfl, rfl⟩ := hg.of_pure
    exact keyboard_true h hw hk
  -- whatever the server has made of the lock, the state is read again after it
  lock_true := by
    intro group w w' g hw hlock
    obtain ⟨sent, w₁, hsent, hrest⟩ := hlock.of_bind
    have hw₁ : c.Listens w₁.routes := hsent.2 ▸ preserves_listens lib c _ w hw
    split at hrest
    · exact hrest.not_fail.elim
    · obtain ⟨k, w₂, hk, hrest⟩ := hrest.of_bind
      obtain ⟨_, w₃, hsaid, hg⟩ := hrest.of_bind
      obtain rfl : w₂ = w₃ := hsaid.2
      obtain ⟨rfl, rfl⟩ := hg.of_pure
      exact keyboard_true h hw₁ hk
  names_still := by
    intro w _
    have hstill : group ((c.layoutNames lib).run w).state.server = group w.server :=
      preserves_layoutNames (preserves_group h (group w.server)) w rfl
    exact congrArg (fun g => (UInt8.ofNat g).toNat) hstill

/-- So it is honest, since asking for the group changes none. -/
theorem honest_backend (h : lib.Steady group) :
    (c.backend lib).Honest (fun w => c.Listens w.routes) fun w => (UInt8.ofNat (group w.server)).toNat := by
  refine (tells_backend h).honest fun {w} _ => ?_
  have hcurrent : (c.backend lib).current.Preserves fun w' => group w'.server = group w.server :=
    (preserves_keyboard (preserves_group h (group w.server))).bind fun _ => .pure _
  exact congrArg (fun g => (UInt8.ofNat g).toNat) (hcurrent w rfl)

end Connection

end FocusLayout.Display
