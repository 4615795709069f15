import FocusLayout.Program.Commands
import FocusLayout.Proofs.Focus.Parts
import FocusLayout.Proofs.Focus.Run

/-!
# Commands on a part of a device

A command whose source and backend have only a part of a device does there what it does on the part alone, and leaves
the rest of the device as it is (`focus_within`, `layout_within`, `groupState_within`, `watch_within`).
-/

namespace FocusLayout.Program

open CommandLine (LayoutChange)
open Focus (Source Watcher)
open Layout (Backend Bench Switcher)

variable {S T : Type}

/-- A watch begins with three lines, and with the device as it is. -/
theorem watch_eq (config : Config) (source : Source S) (backend : Backend S) (polls : Nat) :
    watch config source backend polls = (do
      Step.say .info .switcher s!"Инициализация LayoutSwitcher (backend: {backend.name})"
      Step.say .info .watcher s!"Инициализация FocusWatcher (источник: {source.name})"
      say .info s!"Правил раскладки: {config.rules.length}"
      let s ← Step.state
      polling config source backend polls (Watcher.fresh config.layout.cycle s)
      say .info "Получен сигнал завершения (Ctrl+C)"
      say .info "Завершение работы...") := rfl

section Parts

variable {get : T → S} {put : S → T → T} (h : Step.IsPart get put) (config : Config) (source : Source S)
  (backend : Backend S)

include h

theorem focus_within : focus (source.within get put) = (focus source).within get put := by
  refine h.bind rfl fun window => ?_
  cases window with
  | none => exact h.pure _
  | some w => exact h.pure _

theorem change_within (c : LayoutChange) :
    change (backend.within get put) c = (change backend c).within (Bench.part get) (Bench.putPart put) := by
  cases c with
  | keep => exact Switcher.current_within backend
  | set group => exact Switcher.set_within h backend group
  | next => exact Switcher.next_within h backend

theorem layout_within (c : LayoutChange) :
    layout config (backend.within get put) c = (layout config backend c).within get put := by
  have hp := Layout.isPart_bench h
  refine Switcher.begin_within h backend _ (hp.bind (change_within h backend c) fun group => ?_)
  exact hp.bind (Switcher.describe_within h backend group) fun _ => hp.pure _

theorem groupState_within :
    groupState config (backend.within get put) = (groupState config backend).within get put := by
  have hp := Layout.isPart_bench h
  refine Switcher.begin_within h backend _ (hp.bind (Switcher.current_within backend) fun group => ?_)
  exact hp.bind (Switcher.describe_within h backend group) fun _ => hp.pure _

theorem polling_within (polls : Nat) (w : Watcher T) :
    polling config (source.within get put) (backend.within get put) polls w =
      (polling config source backend polls (w.part get)).within get put := by
  have hp := Watcher.isPart_watcher h
  have hwatching : (Watcher.announce config >>= fun _ =>
      Watcher.pollTimes config (backend.within get put) (source.within get put) polls) =
        Step.within (Watcher.part get) (Watcher.putPart put)
          (Watcher.announce config >>= fun _ => Watcher.pollTimes config backend source polls) :=
    hp.bind (hp.say _ _ _) fun _ => Watcher.pollTimes_within config backend source h polls
  exact (congrArg (Step.within (fun t => { w with bench := { w.bench with device := t } }) fun w _ => w.bench.device)
    hwatching).trans rfl

theorem watch_within (polls : Nat) :
    watch config (source.within get put) (backend.within get put) polls =
      (watch config source backend polls).within get put := by
  rw [watch_eq, watch_eq]
  refine h.bind (h.say _ _ _) fun _ => h.bind (h.say _ _ _) fun _ => h.bind (h.say _ _ _) fun _ => ?_
  refine Step.IsPart.bind_state fun t => h.bind (polling_within h config source backend polls _) fun _ => ?_
  exact h.bind (h.say _ _ _) fun _ => h.say _ _ _

end Parts

/-! ## The parts of the surroundings -/

section Surroundings

variable {σ : Type}

theorem isPart_world : Step.IsPart (Surroundings.world (σ := σ)) Surroundings.withWorld where
  get_put _ _ := rfl
  put_get _ := rfl
  put_put _ _ _ := rfl

theorem isPart_rehearsal : Step.IsPart (Surroundings.rehearsal (σ := σ)) Surroundings.withRehearsal where
  get_put _ _ := rfl
  put_get _ := rfl
  put_put _ _ _ := rfl

end Surroundings

end FocusLayout.Program
