import FocusLayout.Layout.Switcher
import FocusLayout.Proofs.Steps

/-!
# Switching on a part of a device

A backend may have only a part of a device (`Backend.within`). A switcher over such a backend does on the bench of the
whole device what it does on the bench of the part (`Bench.part`), and leaves the rest of the device as it is.
-/

namespace FocusLayout.Layout

variable {S T : Type}

/-- The bench over a part of the device. -/
def Bench.part (get : T → S) (bench : Bench T) : Bench S := ⟨bench.switcher, get bench.device⟩

/-- The bench of the whole device, after work on the part. -/
def Bench.putPart (put : S → T → T) (worked : Bench S) (bench : Bench T) : Bench T :=
  ⟨worked.switcher, put worked.device bench.device⟩

variable {get : T → S} {put : S → T → T}

theorem isPart_bench (h : Step.IsPart get put) : Step.IsPart (Bench.part get) (Bench.putPart put) where
  get_put worked bench := congrArg (Bench.mk worked.switcher) (h.get_put worked.device bench.device)
  put_get bench := congrArg (Bench.mk bench.switcher) (h.put_get bench.device)
  put_put worked worked' bench :=
    congrArg (Bench.mk worked.switcher) (h.put_put worked.device worked'.device bench.device)

theorem onDevice_within {α : Type} (t : Step S α) :
    onDevice (t.within get put) = (onDevice t).within (Bench.part get) (Bench.putPart put) := rfl

namespace Switcher

theorem current_within (b : Backend S) :
    current (b.within get put) = (current b).within (Bench.part get) (Bench.putPart put) := rfl

variable (h : Step.IsPart get put) (b : Backend S)

include h

theorem names_within : names (b.within get put) = (names b).within (Bench.part get) (Bench.putPart put) := by
  have hp := isPart_bench h
  refine Step.IsPart.bind_state fun bench => ?_
  have hsame : (bench.part get).switcher.known = bench.switcher.known := rfl
  rw [hsame]
  cases bench.switcher.known with
  | some names => exact hp.pure names
  | none =>
    refine hp.bind (onDevice_within b.names) fun names => ?_
    refine hp.bind (hp.say _ _ _) fun _ => hp.bind (Step.IsPart.update fun bench => ?_) fun _ => hp.pure names
    -- the device is not touched where the names are remembered
    exact congrArg (Bench.mk _) (h.put_get bench.device).symm

theorem available_within : available (b.within get put) = (available b).within (Bench.part get) (Bench.putPart put) :=
  have hp := isPart_bench h
  hp.bind (names_within h b) fun _ => hp.pure _

theorem describe_within (g : Nat) :
    describe (b.within get put) g = (describe b g).within (Bench.part get) (Bench.putPart put) := by
  have hp := isPart_bench h
  refine hp.bind (Step.IsPart.attempt (names_within h b)) fun answer => ?_
  cases answer with
  | error f => exact hp.pure _
  | ok names =>
    dsimp only
    cases names[g]? with
    | none => exact hp.pure _
    | some name => exact hp.pure _

theorem set_within (g : Nat) :
    set (b.within get put) g = (set b g).within (Bench.part get) (Bench.putPart put) := by
  have hp := isPart_bench h
  refine hp.bind (available_within h b) fun n => Step.IsPart.ite (hp.fail _) ?_
  refine hp.bind (onDevice_within (b.lock g)) fun effective => ?_
  exact Step.IsPart.ite (hp.bind (hp.say _ _ _) fun _ => hp.pure effective) (hp.pure effective)

theorem apply_within (g : Nat) :
    apply (b.within get put) g = (apply b g).within (Bench.part get) (Bench.putPart put) := by
  have hp := isPart_bench h
  refine hp.bind (current_within b) fun c => Step.IsPart.ite (hp.pure false) ?_
  exact hp.bind (set_within h b g) fun _ => hp.pure true

theorem candidates_within :
    candidates (b.within get put) = (candidates b).within (Bench.part get) (Bench.putPart put) := by
  have hp := isPart_bench h
  refine Step.IsPart.bind_state fun bench => Step.IsPart.ite ?_ (hp.pure _)
  exact hp.bind (names_within h b) fun names => Step.IsPart.ite (hp.fail _) (hp.pure _)

theorem next_within : next (b.within get put) = (next b).within (Bench.part get) (Bench.putPart put) := by
  have hp := isPart_bench h
  refine hp.bind (candidates_within h b) fun ring => hp.bind (current_within b) fun c => ?_
  exact hp.bind (hp.say _ _ _) fun _ => set_within h b _

/-- A switcher begins on the whole device as on the part. -/
theorem begin_within {α : Type} (cycle : List Nat) {t : Step (Bench S) α} {t' : Step (Bench T) α}
    (ht : t' = t.within (Bench.part get) (Bench.putPart put)) :
    begin (b.within get put) cycle t' = (begin b cycle t).within get put := by
  subst ht
  exact h.bind (h.bind (h.say _ _ _) fun _ => h.pure _) fun _ => rfl

end Switcher

end FocusLayout.Layout
