import FocusLayout.Step

/-!
# What a step logs and what it leaves alone

- `Step.Logs P t`: every line that `t` logs satisfies `P`, wherever it starts;
- `Step.Ends t s r s'`: from `s`, `t` ends in the result `r` and the state `s'`;
- `Step.Keeps f t`: `t` leaves the part `f` of the state as it found it;
- `Step.Preserves I t`: `t` leads from states with `I` to states with `I`, however it ends;
- `Step.Agree P Q E t t'`: side by side, `t` and `t'` end in the same result and in states that are related again.

All of them hold of a sequence of steps when they hold of each of them (`Logs.bind`, `Keeps.bind`, `Preserves.bind`,
`Agree.bind`). And a sequence of steps runs on a part of a state if each of them does (`IsPart.bind`).
-/

namespace FocusLayout.Step

variable {S T α β γ : Type}

/-- Every line that the step logs satisfies the condition. -/
def Logs (P : Log.Entry → Prop) (t : Step S α) : Prop :=
  ∀ s, ∀ line ∈ (t.run s).log, P line

/-- The step leaves a part of the state as it was. -/
def Keeps (f : S → γ) (t : Step S α) : Prop :=
  ∀ s, f (t.run s).state = f s

/-- However the step ends, what the state satisfies before it, it satisfies afterwards. -/
def Preserves (I : S → Prop) (t : Step S α) : Prop :=
  ∀ s, I s → I (t.run s).state

/-- From a state, the step ends in this result and this state, whatever it logs. -/
def Ends (t : Step S α) (s : S) (r : Except Failure α) (s' : S) : Prop :=
  (t.run s).result = r ∧ (t.run s).state = s'

/-- After a step that logs nothing, a sequence is what follows. -/
theorem run_bind_silent {t : Step S α} {s s' : S} {a : α} (h : t.run s = ⟨.ok a, s', []⟩) (k : α → Step S β) :
    (t >>= k).run s = (k a).run s' := by
  rw [run_bind_ok k (congrArg Outcome.result h), h]
  rfl

/-- A sequence fails where its first step does, or where the second does after a value of the first. -/
theorem result_bind_eq_error_iff {t : Step S α} {k : α → Step S β} {s : S} {f : Failure} :
    ((t >>= k).run s).result = .error f ↔
      (t.run s).result = .error f ∨
        ∃ a, (t.run s).result = .ok a ∧ ((k a).run (t.run s).state).result = .error f := by
  cases h : (t.run s).result with
  | error failure => simp [run_bind_error k h]
  | ok a => simp [run_bind_ok k h]

/-! ## Lines -/

namespace Logs

variable {P Q : Log.Entry → Prop}

theorem silent {t : Step S α} (h : ∀ s, (t.run s).log = []) : t.Logs P := by
  intro s line hl
  rw [h s] at hl
  cases hl

theorem pure (a : α) : (Pure.pure a : Step S α).Logs P := silent fun _ => rfl

theorem fail (f : Failure) : (Step.fail f : Step S α).Logs P := silent fun _ => rfl

theorem state : (Step.state : Step S S).Logs P := silent fun _ => rfl

theorem update (f : S → S) : (Step.update f).Logs P := silent fun _ => rfl

theorem say {level : Log.Level} {origin : Log.Origin} {text : String} (h : P ⟨level, origin, text⟩) :
    (Step.say level origin text : Step S Unit).Logs P := by
  intro s line hl
  rw [List.mem_singleton.mp hl]
  exact h

theorem attempt {t : Step S α} (h : t.Logs P) : t.attempt.Logs P := h

theorem within (get : T → S) (put : S → T → T) {t : Step S α} (h : t.Logs P) : (t.within get put).Logs P :=
  fun s => h (get s)

/-- The lines of a sequence are those of its steps. -/
theorem bind {t : Step S α} {k : α → Step S β} (ht : t.Logs P) (hk : ∀ a, (k a).Logs P) : (t >>= k).Logs P := by
  intro s line hl
  cases hr : (t.run s).result with
  | error f =>
    rw [run_bind_error k hr] at hl
    exact ht s line hl
  | ok a =>
    rw [run_bind_ok k hr] at hl
    rcases List.mem_append.mp hl with hl | hl
    · exact ht s line hl
    · exact hk a _ line hl

theorem mono {t : Step S α} (h : t.Logs P) (hPQ : ∀ line, P line → Q line) : t.Logs Q :=
  fun s line hl => hPQ line (h s line hl)

end Logs

/-! ## Conditions on the state -/

namespace Preserves

variable {I : S → Prop}

theorem pure (a : α) : (Pure.pure a : Step S α).Preserves I := fun _ hs => hs

theorem fail (f : Failure) : (Step.fail f : Step S α).Preserves I := fun _ hs => hs

theorem say (level : Log.Level) (origin : Log.Origin) (text : String) :
    (Step.say level origin text : Step S Unit).Preserves I := fun _ hs => hs

theorem state : (Step.state : Step S S).Preserves I := fun _ hs => hs

theorem update {f : S → S} (h : ∀ s, I s → I (f s)) : (Step.update f).Preserves I := h

theorem attempt {t : Step S α} (h : t.Preserves I) : t.attempt.Preserves I := h

/-- What the first step has brought about and every next step preserves holds after the sequence. -/
theorem after {t : Step S α} {k : α → Step S β} {s : S} (h : I (t.run s).state) (hk : ∀ a, (k a).Preserves I) :
    I ((t >>= k).run s).state := by
  cases hr : (t.run s).result with
  | error f =>
    rw [run_bind_error k hr]
    exact h
  | ok a =>
    rw [run_bind_ok k hr]
    exact hk a _ h

/-- What every step of a sequence preserves, the sequence preserves. -/
theorem bind {t : Step S α} {k : α → Step S β} (ht : t.Preserves I) (hk : ∀ a, (k a).Preserves I) :
    (t >>= k).Preserves I :=
  fun s hs => after (ht s hs) hk

/-- A condition on the whole state, by one on the part. -/
theorem within {J : T → Prop} {get : T → S} {put : S → T → T} {t : Step S α} (ht : t.Preserves I)
    (hget : ∀ s, J s → I (get s)) (hput : ∀ s x, J s → I x → J (put x s)) : (t.within get put).Preserves J :=
  fun s hs => hput s _ hs (ht (get s) (hget s hs))

end Preserves

/-! ## Parts of the state -/

namespace Keeps

variable {f : S → γ}

theorem pure (a : α) : (Pure.pure a : Step S α).Keeps f := fun _ => rfl

theorem fail (failure : Failure) : (Step.fail failure : Step S α).Keeps f := fun _ => rfl

theorem say (level : Log.Level) (origin : Log.Origin) (text : String) :
    (Step.say level origin text : Step S Unit).Keeps f := fun _ => rfl

theorem attempt {t : Step S α} (h : t.Keeps f) : t.attempt.Keeps f := h

/-- To leave a part alone is to preserve whatever value it has. -/
theorem iff_preserves {t : Step S α} : t.Keeps f ↔ ∀ v, t.Preserves fun s => f s = v :=
  ⟨fun h _ s hs => (h s).trans hs, fun h s => h (f s) s rfl⟩

/-- What every step of a sequence leaves alone, the sequence leaves alone. -/
theorem bind {t : Step S α} {k : α → Step S β} (ht : t.Keeps f) (hk : ∀ a, (k a).Keeps f) : (t >>= k).Keeps f :=
  iff_preserves.mpr fun v => (iff_preserves.mp ht v).bind fun a => iff_preserves.mp (hk a) v

end Keeps

/-! ## Results -/

namespace Ends

variable {t : Step S α} {k : α → Step S β} {s s' s'' : S} {a : α} {f : Failure} {r : Except Failure α}
  {q : Except Failure β}

theorem of_run (t : Step S α) (s : S) : t.Ends s (t.run s).result (t.run s).state := ⟨rfl, rfl⟩

theorem pure : (Pure.pure a : Step S α).Ends s (.ok a) s := ⟨rfl, rfl⟩

theorem fail : (Step.fail f : Step S α).Ends s (.error f) s := ⟨rfl, rfl⟩

theorem attempt (ht : t.Ends s r s') : t.attempt.Ends s (.ok r) s' := ⟨congrArg Except.ok ht.1, ht.2⟩

/-- After a value the second step goes on. -/
theorem bind_ok (ht : t.Ends s (.ok a) s') (hk : (k a).Ends s' q s'') : (t >>= k).Ends s q s'' := by
  obtain ⟨hresult, rfl⟩ := ht
  unfold Ends
  rw [run_bind_ok k hresult]
  exact hk

/-- A failure is the end. -/
theorem bind_error (ht : t.Ends s (.error f) s') : (t >>= k).Ends s (.error f) s' := by
  obtain ⟨hresult, rfl⟩ := ht
  unfold Ends
  rw [run_bind_error k hresult]
  exact ⟨rfl, rfl⟩

theorem within {get : T → S} {put : S → T → T} {s : T} (ht : t.Ends (get s) r s') :
    (t.within get put).Ends s r (put s' s) := ⟨ht.1, congrArg (put · s) ht.2⟩

/-- After a value the lines of the second step follow those of the first. -/
theorem log_bind (ht : t.Ends s (.ok a) s') : ((t >>= k).run s).log = (t.run s).log ++ ((k a).run s').log := by
  obtain ⟨hresult, rfl⟩ := ht
  rw [run_bind_ok k hresult]

/-- A sequence that gives a value has come through its first step. -/
theorem of_bind {b : β} (h : (t >>= k).Ends s (.ok b) s'') :
    ∃ a s', t.Ends s (.ok a) s' ∧ (k a).Ends s' (.ok b) s'' := by
  unfold Ends at h
  cases hr : (t.run s).result with
  | error f =>
    rw [run_bind_error k hr] at h
    cases h.1
  | ok a =>
    rw [run_bind_ok k hr] at h
    exact ⟨a, _, ⟨hr, rfl⟩, h⟩

theorem of_pure {b : α} (h : (Pure.pure a : Step S α).Ends s (.ok b) s') : a = b ∧ s = s' :=
  ⟨Except.ok.inj h.1, h.2⟩

theorem not_fail (h : (Step.fail f : Step S α).Ends s (.ok a) s') : False := by
  cases h.1

end Ends

/-! ## Steps on a part of the state -/

/-- `get` reads and `put` writes one part of a state: what has been put is got, and what is beside it stays. -/
structure IsPart (get : T → S) (put : S → T → T) : Prop where
  get_put (s : S) (t : T) : get (put s t) = s
  put_get (t : T) : put (get t) t = t
  put_put (s s' : S) (t : T) : put s (put s' t) = put s t

theorem isPart_snd : IsPart (Prod.snd : T × S → S) fun s p => (p.1, s) where
  get_put _ _ := rfl
  put_get _ := rfl
  put_put _ _ _ := rfl

namespace IsPart

variable {get : T → S} {put : S → T → T} {t u : Step S α} {t' u' : Step T α} {k : α → Step S β} {k' : α → Step T β}

theorem pure (h : IsPart get put) (a : α) : (Pure.pure a : Step T α) = (Pure.pure a : Step S α).within get put :=
  funext fun s => congrArg (Outcome.mk (.ok a) · []) (h.put_get s).symm

theorem fail (h : IsPart get put) (f : Failure) : (Step.fail f : Step T α) = (Step.fail f : Step S α).within get put :=
  funext fun s => congrArg (Outcome.mk (.error f) · []) (h.put_get s).symm

theorem say (h : IsPart get put) (level : Log.Level) (origin : Log.Origin) (text : String) :
    (Step.say level origin text : Step T Unit) = (Step.say level origin text : Step S Unit).within get put :=
  funext fun s => congrArg (Outcome.mk (.ok ()) · [⟨level, origin, text⟩]) (h.put_get s).symm

theorem update {f : S → S} {f' : T → T} (hf : ∀ s, f' s = put (f (get s)) s) :
    Step.update f' = (Step.update f).within get put :=
  funext fun s => congrArg (Outcome.mk (.ok ()) · []) (hf s)

theorem attempt (ht : t' = t.within get put) : t'.attempt = t.attempt.within get put := by
  rw [ht]
  rfl

theorem ite {c : Prop} [Decidable c] (ht : t' = t.within get put) (hu : u' = u.within get put) :
    (if c then t' else u') = (if c then t else u).within get put := by
  rw [apply_ite (Step.within get put), ht, hu]

/-- What follows may depend on the part. -/
theorem bind_state {k : S → Step S β} {k' : T → Step T β} (hk : ∀ s, k' s = (k (get s)).within get put) :
    Step.state >>= k' = (Step.state >>= k).within get put :=
  funext fun s => congrFun (hk s) s

/-- If every step of a sequence runs on the part, the sequence does. -/
theorem bind (h : IsPart get put) (ht : t' = t.within get put) (hk : ∀ a, k' a = (k a).within get put) :
    t' >>= k' = (t >>= k).within get put := by
  obtain rfl : k' = fun a => (k a).within get put := funext hk
  subst ht
  funext s
  show (t.within get put >>= fun a => (k a).within get put).run s = ((t >>= k).within get put).run s
  cases hr : (t.run (get s)).result with
  | error f =>
    have hw : ((t.within get put).run s).result = .error f := hr
    rw [run_within, run_bind_error k hr, run_bind_error _ hw, run_within]
  | ok a =>
    have hw : ((t.within get put).run s).result = .ok a := hr
    rw [run_within, run_bind_ok k hr, run_bind_ok _ hw, run_within, run_within, h.get_put, h.put_put]

end IsPart

/-! ## Two steps side by side -/

/-- From states related by `P` the two steps end in the same result, and in states related by `Q` if it is a value and
by `E` if it is a failure. -/
def Agree (P : S → T → Prop) (Q : α → S → T → Prop) (E : S → T → Prop) (t : Step S α) (t' : Step T α) : Prop :=
  ∀ s s', P s s' → (t.run s).result = (t'.run s').result ∧
    (∀ a, (t.run s).result = .ok a → Q a (t.run s).state (t'.run s').state) ∧
    ∀ f, (t.run s).result = .error f → E (t.run s).state (t'.run s').state

namespace Agree

variable {P R E : S → T → Prop} {Q Q' : α → S → T → Prop} {M : β → S → T → Prop} {t : Step S α} {t' : Step T α}

theorem pure (a : α) (h : ∀ s s', P s s' → Q a s s') : Agree P Q E (Pure.pure a) (Pure.pure a) := by
  refine fun s s' hs => ⟨rfl, fun b hb => ?_, nofun⟩
  cases hb
  exact h s s' hs

theorem fail (f : Failure) (h : ∀ s s', P s s' → E s s') : Agree P Q E (Step.fail f) (Step.fail f) :=
  fun s s' hs => ⟨rfl, nofun, fun _ _ => h s s' hs⟩

theorem say (level : Log.Level) (origin : Log.Origin) (text : String) :
    Agree P (fun _ => P) E (Step.say level origin text) (Step.say level origin text) :=
  fun _ _ hs => ⟨rfl, fun _ _ => hs, nofun⟩

/-- Both sequences go on with the same value, or both end with the same failure. -/
theorem bind {k : α → Step S β} {k' : α → Step T β} (ht : Agree P Q E t t')
    (hk : ∀ a, Agree (Q a) M E (k a) (k' a)) : Agree P M E (t >>= k) (t' >>= k') := by
  intro s s' hs
  obtain ⟨heq, hok, herror⟩ := ht s s' hs
  cases hr : (t.run s).result with
  | error f =>
    rw [run_bind_error k hr, run_bind_error k' (heq.symm.trans hr)]
    exact ⟨rfl, nofun, fun _ _ => herror f hr⟩
  | ok a =>
    rw [run_bind_ok k hr, run_bind_ok k' (heq.symm.trans hr)]
    exact hk a _ _ (hok a hr)

/-- What follows may depend on the two states. -/
theorem bind_state {k : S → Step S β} {k' : T → Step T β} (h : ∀ s s', P s s' → Agree P M E (k s) (k' s')) :
    Agree P M E (Step.state >>= k) (Step.state >>= k') :=
  fun s s' hs => h s s' hs s s' hs

/-- However the steps end, their states are related if both posts are the same. -/
theorem state (ht : Agree P (fun _ => R) R t t') {s : S} {s' : T} (hs : P s s') :
    R (t.run s).state (t'.run s').state := by
  obtain ⟨-, hok, herror⟩ := ht s s' hs
  cases hr : (t.run s).result with
  | error f => exact herror f hr
  | ok a => exact hok a hr

/-- Two attempts never fail. -/
theorem attempt (ht : Agree P (fun _ => R) R t t') : Agree P (fun _ => R) E t.attempt t'.attempt :=
  fun s s' hs => ⟨congrArg Except.ok (ht s s' hs).1, fun _ _ => ht.state hs, nofun⟩

theorem mono (ht : Agree P Q E t t') (h : ∀ a s s', Q a s s' → Q' a s s') : Agree P Q' E t t' :=
  fun s s' hs => ⟨(ht s s' hs).1, fun a ha => h a _ _ ((ht s s' hs).2.1 a ha), (ht s s' hs).2.2⟩

end Agree

end FocusLayout.Step
