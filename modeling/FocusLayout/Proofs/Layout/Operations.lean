import FocusLayout.Proofs.Layout.Switching

/-!
# Switchers in use

A switcher is used by one `Operation` after another (`Operation.after`). Whatever the operations are, it calls its
backend in few ways: it asks for the current group at any time, for the names as long as it does not know them, and to
lock only groups that the names make available.

- two backends that answer alike in these calls, on devices that stay related (`Backend.Alike`), give the same results
  in every operation and devices that are related after it (`Backend.Alike.operation`, `Backend.Alike.after`);
- what these calls keep (`Backend.Maintains`), every use keeps (`Backend.Maintains.after`).
-/

namespace FocusLayout.Layout

variable {S T : Type}

/-- What can be asked of a switcher. -/
inductive Operation where
  | current
  | set (group : Nat)
  | next
  | apply (group : Nat)
  | names
  | describe (group : Nat)
  deriving DecidableEq, Repr

/-- A switcher that begins now, beside its device. -/
def Bench.fresh (cycle : List Nat) (device : S) : Bench S := ⟨⟨cycle, none⟩, device⟩

namespace Operation

/-- The kind of value that an operation gives. -/
def Value : Operation → Type
  | current | set _ | next => Nat
  | apply _ => Bool
  | names => List String
  | describe _ => String

/-- The operation on a backend. -/
def on (b : Backend S) : (o : Operation) → Step (Bench S) o.Value
  | current => Switcher.current b
  | set group => Switcher.set b group
  | next => Switcher.next b
  | apply group => Switcher.apply b group
  | names => Switcher.names b
  | describe group => Switcher.describe b group

/-- What a number of operations leave behind, however they end. -/
def after (b : Backend S) (operations : List Operation) (bench : Bench S) : Bench S :=
  operations.foldl (fun bench o => ((o.on b).run bench).state) bench

theorem after_append (b : Backend S) (first second : List Operation) (bench : Bench S) :
    after b (first ++ second) bench = after b second (after b first bench) :=
  List.foldl_append

theorem after_concat (b : Backend S) (operations : List Operation) (o : Operation) (bench : Bench S) :
    after b (operations ++ [o]) bench = ((o.on b).run (after b operations bench)).state :=
  after_append b operations [o] bench

end Operation

/-- Every switcher begins fresh. -/
theorem Switcher.begin_fresh (b : Backend S) (cycle : List Nat) {α : Type} (t : Step (Bench S) α) (device : S) :
    ((Switcher.begin b cycle t).run device).result = (t.run (.fresh cycle device)).result ∧
      ((Switcher.begin b cycle t).run device).state = (t.run (.fresh cycle device)).state.device := by
  unfold Switcher.begin Switcher.start
  exact ⟨rfl, rfl⟩

/-- A step with a fresh switcher ends in what it comes to on the bench. -/
theorem Switcher.begin_ends {b : Backend S} {cycle : List Nat} {device : S} {α : Type} {t : Step (Bench S) α}
    {r : Except Failure α} {bench : Bench S} (h : t.Ends (.fresh cycle device) r bench) :
    (Switcher.begin b cycle t).Ends device r bench.device :=
  ⟨(begin_fresh b cycle t device).1.trans h.1, (begin_fresh b cycle t device).2.trans (congrArg Bench.device h.2)⟩

theorem Switcher.of_begin {b : Backend S} {cycle : List Nat} {device d : S} {α : Type} {t : Step (Bench S) α}
    {r : Except Failure α} (h : (Switcher.begin b cycle t).Ends device r d) :
    ∃ bench, t.Ends (.fresh cycle device) r bench ∧ bench.device = d :=
  ⟨_, ⟨(begin_fresh b cycle t device).1.symm.trans h.1, rfl⟩, (begin_fresh b cycle t device).2.symm.trans h.2⟩

/-! ## Two backends side by side -/

/-- In every call that a switcher makes, the backends give the same answer, and leave devices that are still related by
what the switcher then is. -/
structure Backend.Alike (R : Switcher → S → T → Prop) (b : Backend S) (b' : Backend T) : Prop where
  current (switcher : Switcher) :
    Step.Agree (R switcher) (fun _ => R switcher) (R switcher) b.current b'.current
  names (cycle : List Nat) :
    Step.Agree (R ⟨cycle, none⟩) (fun names => R ⟨cycle, some names⟩) (R ⟨cycle, none⟩) b.names b'.names
  lock (cycle : List Nat) (names : List String) {group : Nat} (h : group < Switcher.groupsAvailable names) :
    Step.Agree (R ⟨cycle, some names⟩) (fun _ => R ⟨cycle, some names⟩) (R ⟨cycle, some names⟩) (b.lock group)
      (b'.lock group)

/-- Two benches with the same switcher and related devices. -/
def Related (R : Switcher → S → T → Prop) (bench : Bench S) (bench' : Bench T) : Prop :=
  bench'.switcher = bench.switcher ∧ R bench.switcher bench.device bench'.device

/-- Two such benches where the switcher knows the names. -/
def RelatedBy (R : Switcher → S → T → Prop) (names : List String) (bench : Bench S) (bench' : Bench T) : Prop :=
  bench.switcher.known = some names ∧ Related R bench bench'

namespace Backend.Alike

open Step (Agree)
open Switcher (groupsAvailable)

variable {R : Switcher → S → T → Prop} {b : Backend S} {b' : Backend T} (h : b.Alike R b') {group : Nat}
  {names : List String}

include h

theorem agree_current :
    Agree (Related R) (fun _ => Related R) (Related R) (Switcher.current b) (Switcher.current b') := by
  rintro ⟨switcher, s⟩ ⟨switcher', s'⟩ ⟨hswitcher, hR⟩
  obtain rfl : switcher' = switcher := hswitcher
  obtain ⟨heq, hok, herror⟩ := h.current switcher' s s' hR
  exact ⟨heq, fun c hc => ⟨rfl, hok c hc⟩, fun f hf => ⟨rfl, herror f hf⟩⟩

theorem agree_lock (hg : group < groupsAvailable names) :
    Agree (RelatedBy R names) (fun _ => Related R) (Related R) (onDevice (b.lock group))
      (onDevice (b'.lock group)) := by
  rintro ⟨⟨cycle, known⟩, s⟩ ⟨switcher', s'⟩ ⟨hknown, hswitcher, hR⟩
  obtain rfl : known = some names := hknown
  obtain rfl : switcher' = ⟨cycle, some names⟩ := hswitcher
  obtain ⟨heq, hok, herror⟩ := h.lock cycle names hg s s' hR
  exact ⟨heq, fun c hc => ⟨rfl, hok c hc⟩, fun f hf => ⟨rfl, herror f hf⟩⟩

/-- Names that are read are known afterwards. -/
theorem agree_names :
    Agree (Related R) (fun names => RelatedBy R names) (Related R) (Switcher.names b) (Switcher.names b') := by
  rintro ⟨⟨cycle, known⟩, s⟩ ⟨switcher', s'⟩ ⟨hswitcher, hR⟩
  obtain rfl : switcher' = ⟨cycle, known⟩ := hswitcher
  cases known with
  | some names =>
    rw [Switcher.run_names_known rfl, Switcher.run_names_known rfl]
    refine ⟨rfl, fun _ hn => ?_, nofun⟩
    cases hn
    exact ⟨rfl, rfl, hR⟩
  | none =>
    obtain ⟨heq, hok, herror⟩ := h.names cycle s s' hR
    cases hr : (b.names.run s).result with
    | error f =>
      rw [Switcher.run_names_error rfl hr, Switcher.run_names_error rfl (heq.symm.trans hr)]
      exact ⟨rfl, nofun, fun _ _ => ⟨rfl, herror f hr⟩⟩
    | ok names =>
      have hknown : (⟨⟨cycle, none⟩, s⟩ : Bench S).switcher.known = none := rfl
      have hknown' : (⟨⟨cycle, none⟩, s'⟩ : Bench T).switcher.known = none := rfl
      obtain ⟨hresult, hstate⟩ := Switcher.run_names_ok hknown hr
      obtain ⟨hresult', hstate'⟩ := Switcher.run_names_ok hknown' (heq.symm.trans hr)
      rw [hresult, hresult', hstate, hstate']
      refine ⟨rfl, fun _ hn => ?_, nofun⟩
      cases hn
      exact ⟨rfl, rfl, hok names hr⟩

theorem agree_available :
    Agree (Related R) (fun n bench bench' => ∃ names, n = groupsAvailable names ∧ RelatedBy R names bench bench')
      (Related R) (Switcher.available b) (Switcher.available b') :=
  h.agree_names.bind fun names => .pure _ fun _ _ hrel => ⟨names, rfl, hrel⟩

theorem agree_set (group : Nat) :
    Agree (Related R) (fun _ => Related R) (Related R) (Switcher.set b group) (Switcher.set b' group) := by
  unfold Switcher.set
  refine h.agree_available.bind fun n => ?_
  split <;> rename_i hn
  · exact .fail _ fun _ _ ⟨_, _, _, hrel⟩ => hrel
  · refine Agree.bind (Q := fun _ => Related R) ?_ fun effective => ?_
    · rintro bench bench' ⟨names, rfl, hrel⟩
      exact h.agree_lock (Nat.lt_of_not_le hn) bench bench' hrel
    · dsimp only
      split
      · exact (Agree.say _ _ _).bind fun _ => .pure _ fun _ _ hrel => hrel
      · exact .pure _ fun _ _ hrel => hrel

theorem agree_candidates :
    Agree (Related R) (fun _ => Related R) (Related R) (Switcher.candidates b) (Switcher.candidates b') := by
  unfold Switcher.candidates
  refine .bind_state fun bench bench' hrel => ?_
  rw [hrel.1]
  dsimp only
  split
  · refine h.agree_names.bind fun names => ?_
    split
    · exact .fail _ fun _ _ hby => hby.2
    · exact .pure _ fun _ _ hby => hby.2
  · exact .pure _ fun _ _ hrel => hrel

/-- Every operation gives the same result on both. -/
theorem operation (o : Operation) : Agree (Related R) (fun _ => Related R) (Related R) (o.on b) (o.on b') := by
  cases o with
  | current => exact h.agree_current
  | set group => exact h.agree_set group
  | next =>
    refine h.agree_candidates.bind fun candidates => h.agree_current.bind fun c => ?_
    exact (Agree.say _ _ _).bind fun _ => h.agree_set _
  | apply group =>
    refine h.agree_current.bind fun c => ?_
    split
    · exact .pure _ fun _ _ hrel => hrel
    · exact (h.agree_set group).bind fun _ => .pure _ fun _ _ hrel => hrel
  | names => exact h.agree_names.mono fun _ _ _ hby => hby.2
  | describe group =>
    refine (h.agree_names.mono fun _ _ _ hby => hby.2).attempt.bind fun answer => ?_
    cases answer with
    | error f => exact .pure _ fun _ _ hrel => hrel
    | ok names =>
      dsimp only
      split
      · exact .pure _ fun _ _ hrel => hrel
      · exact .pure _ fun _ _ hrel => hrel

/-- Every use leaves them related. -/
theorem after (bench : Bench S) (bench' : Bench T) (hrel : Related R bench bench') (operations : List Operation) :
    Related R (Operation.after b operations bench) (Operation.after b' operations bench') := by
  induction operations generalizing bench bench' with
  | nil => exact hrel
  | cons o rest ih => exact ih _ _ ((h.operation o).state hrel)

end Backend.Alike

/-! ## What every use keeps -/

/-- In every call that a switcher makes, the backend keeps the invariant of the device and of what the switcher then
is. -/
structure Backend.Maintains (I : Switcher → S → Prop) (b : Backend S) : Prop where
  current (switcher : Switcher) {s : S} : I switcher s → I switcher (b.current.run s).state
  names_error (cycle : List Nat) {s : S} {f : Failure} :
    I ⟨cycle, none⟩ s → (b.names.run s).result = .error f → I ⟨cycle, none⟩ (b.names.run s).state
  names_ok (cycle : List Nat) {s : S} {names : List String} :
    I ⟨cycle, none⟩ s → (b.names.run s).result = .ok names → I ⟨cycle, some names⟩ (b.names.run s).state
  lock (cycle : List Nat) (names : List String) {group : Nat} {s : S} (h : group < Switcher.groupsAvailable names) :
    I ⟨cycle, some names⟩ s → I ⟨cycle, some names⟩ ((b.lock group).run s).state

namespace Backend.Maintains

variable {I : Switcher → S → Prop} {b : Backend S}

/-- An invariant makes a backend alike to itself. -/
theorem alike (h : b.Maintains I) : b.Alike (fun switcher s s' => s' = s ∧ I switcher s) b where
  current := by
    rintro switcher s _ ⟨rfl, hI⟩
    exact ⟨rfl, fun _ _ => ⟨rfl, h.current switcher hI⟩, fun _ _ => ⟨rfl, h.current switcher hI⟩⟩
  names := by
    rintro cycle s _ ⟨rfl, hI⟩
    exact ⟨rfl, fun _ hn => ⟨rfl, h.names_ok cycle hI hn⟩, fun _ hf => ⟨rfl, h.names_error cycle hI hf⟩⟩
  lock := by
    rintro cycle names group hg s _ ⟨rfl, hI⟩
    exact ⟨rfl, fun _ _ => ⟨rfl, h.lock cycle names hg hI⟩, fun _ _ => ⟨rfl, h.lock cycle names hg hI⟩⟩

/-- It holds after every use of a switcher if it holds before. -/
theorem after (h : b.Maintains I) (bench : Bench S) (hI : I bench.switcher bench.device) (operations : List Operation) :
    I (Operation.after b operations bench).switcher (Operation.after b operations bench).device :=
  (h.alike.after bench bench ⟨rfl, rfl, hI⟩ operations).2.2

end Backend.Maintains

end FocusLayout.Layout
