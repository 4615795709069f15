import FocusLayout.Proofs.Layout.Record
import FocusLayout.Proofs.Layout.Rotation
import FocusLayout.Proofs.Layout.Telling

/-!
# What a switcher and its backend say to each other

A `Way` tells how an operation can go as far as the backend sees it: the switcher before, the exchanges with the
backend, the result and the switcher afterwards. Every operation has its ways (`Operation.Course`), one case for each
answer that it can meet; nothing is assumed of the answers.

A step that goes a certain way (`Follows`) does so in a sequence of steps as well (`Follows.bind`), so every operation
follows its course on any backend (`follows_course`).
-/

namespace FocusLayout.Layout

open Backend (Exchange Recorded)

variable {S α β : Type}

/-! ## Ways -/

/-- How something may go: from this switcher, over these exchanges, to this result and this switcher. -/
abbrev Way (α : Type) : Type := Switcher → List Exchange → Except Failure α → Switcher → Prop

/-- Nothing is asked. -/
def Resting (answer : Except Failure α) : Way α :=
  fun q made r q' => made = [] ∧ r = answer ∧ q' = q

/-- One call is made, and its answer handed on. -/
def Asking (exchange : Except Failure α → Exchange) : Way α :=
  fun q made r q' => made = [exchange r] ∧ q' = q

namespace Switcher

/-- The names: they are asked for if they are not known, and known once they have been told. -/
inductive Reading : Way (List String)
  | known {q : Switcher} {told : List String} : q.known = some told → Reading q [] (.ok told) q
  | told {q : Switcher} (told : List String) :
      q.known = none → Reading q [.names (.ok told)] (.ok told) { q with known := some told }
  | failed {q : Switcher} (f : Failure) : q.known = none → Reading q [.names (.error f)] (.error f) q

/-- Setting a group: the names come first, and then the lock if they make it available. -/
inductive Setting (g : Nat) : Way Nat
  | unnamed {q q' : Switcher} {made : List Exchange} {f : Failure} :
      Reading q made (.error f) q' → Setting g q made (.error f) q'
  | refused {q q' : Switcher} {made : List Exchange} {told : List String} :
      Reading q made (.ok told) q' → groupsAvailable told ≤ g →
      Setting g q made (.error (.invalidLayout g (groupsAvailable told))) q'
  | locked {q q' : Switcher} {made : List Exchange} {told : List String} (answer : Except Failure Nat) :
      Reading q made (.ok told) q' → g < groupsAvailable told →
      Setting g q (made ++ [.lock g answer]) answer q'

/-- The groups to rotate through: the configured ones, else as many as there are names. -/
inductive Finding : Way (List Nat)
  | configured {q : Switcher} : q.cycle ≠ [] → Finding q [] (.ok q.cycle) q
  | unnamed {q q' : Switcher} {made : List Exchange} {f : Failure} :
      q.cycle = [] → Reading q made (.error f) q' → Finding q made (.error f) q'
  | nothing {q q' : Switcher} {made : List Exchange} {told : List String} :
      q.cycle = [] → Reading q made (.ok told) q' → groupCount told = 0 → Finding q made (.error noRotation) q'
  | counted {q q' : Switcher} {made : List Exchange} {told : List String} :
      q.cycle = [] → Reading q made (.ok told) q' → groupCount told ≠ 0 →
      Finding q made (.ok (List.range (min (groupCount told) maxGroups))) q'

/-- Going on: the ring comes first, then the current group, and then the one after it is set. -/
inductive Turning : Way Nat
  | ringless {q q' : Switcher} {made : List Exchange} {f : Failure} :
      Finding q made (.error f) q' → Turning q made (.error f) q'
  | lost {q q' : Switcher} {made : List Exchange} {ring : List Nat} (f : Failure) :
      Finding q made (.ok ring) q' → Turning q (made ++ [.current (.error f)]) (.error f) q'
  | turned {q q' q'' : Switcher} {made made' : List Exchange} {ring : List Nat} {c : Nat} {r : Except Failure Nat} :
      Finding q made (.ok ring) q' → Setting (following ring c) q' made' r q'' →
      Turning q (made ++ .current (.ok c) :: made') r q''

/-- Bringing a group into effect: the current one comes first, and if it is another one the group is set. -/
inductive Applying (g : Nat) : Way Bool
  | lost {q : Switcher} (f : Failure) : Applying g q [.current (.error f)] (.error f) q
  | same {q : Switcher} : Applying g q [.current (.ok g)] (.ok false) q
  | other {q q' : Switcher} {made : List Exchange} {c : Nat} {r : Except Failure Nat} :
      c ≠ g → Setting g q made r q' → Applying g q (.current (.ok c) :: made) (r.map fun _ => true) q'

end Switcher

/-- How an operation may go. -/
def Operation.Course : (o : Operation) → Way o.Value
  | current => Asking Exchange.current
  | set g => Switcher.Setting g
  | next => Switcher.Turning
  | apply g => Switcher.Applying g
  | names => Switcher.Reading
  | describe g => fun q made text q' => ∃ names, Switcher.Reading q made names q' ∧ text = .ok (groupText names g)

/-! ## Steps on their ways -/

/-- On every bench the step goes one of these ways. -/
def Follows (t : Step (Bench (Recorded S)) α) (W : Way α) : Prop :=
  ∀ bench, ∃ made, (t.run bench).state.device.exchanges = bench.device.exchanges ++ made ∧
    W bench.switcher made (t.run bench).result (t.run bench).state.switcher

namespace Follows

variable {t : Step (Bench (Recorded S)) α} {k : α → Step (Bench (Recorded S)) β} {W W' : Way α} {V : α → Way β}
  {X : Way β}

theorem pure (a : α) : Follows (Pure.pure a : Step (Bench (Recorded S)) α) (Resting (.ok a)) :=
  fun _ => ⟨[], (List.append_nil _).symm, rfl, rfl, rfl⟩

theorem fail (f : Failure) : Follows (Step.fail f : Step (Bench (Recorded S)) α) (Resting (.error f)) :=
  fun _ => ⟨[], (List.append_nil _).symm, rfl, rfl, rfl⟩

/-- A line is no exchange. -/
theorem bind_say {level : Log.Level} {origin : Log.Origin} {text : String} {k : Unit → Step (Bench (Recorded S)) β}
    (hk : Follows (k ()) X) : Follows (Step.say level origin text >>= k) X := hk

/-- A call is one exchange. -/
theorem recorded (exchange : Except Failure α → Exchange) (t : Step S α) :
    Follows (onDevice (Backend.recorded exchange t)) (Asking exchange) := by
  intro bench
  have hrun := Backend.run_recorded exchange t bench.device
  exact ⟨_, congrArg (Recorded.exchanges ∘ Outcome.state) hrun,
    congrArg (fun r => [exchange r]) (congrArg Outcome.result hrun).symm, rfl⟩

theorem mono (h : Follows t W) (hW : ∀ {q made r q'}, W q made r q' → W' q made r q') : Follows t W' := by
  intro bench
  obtain ⟨made, hmade, hway⟩ := h bench
  exact ⟨made, hmade, hW hway⟩

/-- A way may depend on the switcher before. -/
theorem given {P : Switcher → Prop} (h : Follows t fun q made r q' => P q → W q made r q')
    {bench : Bench (Recorded S)} (hP : P bench.switcher) :
    ∃ made, (t.run bench).state.device.exchanges = bench.device.exchanges ++ made ∧
      W bench.switcher made (t.run bench).result (t.run bench).state.switcher := by
  obtain ⟨made, hmade, hway⟩ := h bench
  exact ⟨made, hmade, hway hP⟩

/-- A sequence goes the way of its first step, and after a value that of the second as well. -/
theorem bind (ht : Follows t W) (hk : ∀ a, Follows (k a) (V a))
    (herror : ∀ {q made f q'}, W q made (.error f) q' → X q made (.error f) q')
    (hok : ∀ {q made a q' made' r q''}, W q made (.ok a) q' → V a q' made' r q'' → X q (made ++ made') r q'') :
    Follows (t >>= k) X := by
  intro bench
  obtain ⟨made, hmade, hway⟩ := ht bench
  cases hr : (t.run bench).result with
  | error f =>
    rw [Step.run_bind_error k hr]
    rw [hr] at hway
    exact ⟨made, hmade, herror hway⟩
  | ok a =>
    rw [Step.run_bind_ok k hr]
    rw [hr] at hway
    obtain ⟨made', hmade', hway'⟩ := hk a (t.run bench).state
    exact ⟨made ++ made', by rw [hmade', hmade, List.append_assoc], hok hway hway'⟩

end Follows

namespace Switcher

variable (b : Backend S)

theorem follows_current : Follows (current b.recording) (Asking Exchange.current) :=
  .recorded Exchange.current b.current

theorem follows_names : Follows (names b.recording) Reading := by
  intro bench
  cases hk : bench.switcher.known with
  | some told =>
    rw [run_names_known hk]
    exact ⟨[], (List.append_nil _).symm, .known hk⟩
  | none =>
    obtain ⟨made, hmade, rfl, -⟩ := Follows.recorded Exchange.names b.names bench
    cases hr : (b.recording.names.run bench.device).result with
    | error f =>
      rw [run_names_error hk hr]
      exact ⟨[.names (.error f)], hr ▸ hmade, .failed f hk⟩
    | ok told =>
      obtain ⟨hresult, hstate⟩ := run_names_ok hk hr
      rw [hresult, hstate]
      exact ⟨[.names (.ok told)], hr ▸ hmade, .told told hk⟩

theorem follows_available :
    Follows (available b.recording) fun q made n q' =>
      ∃ names, Reading q made names q' ∧ n = names.map groupsAvailable := by
  intro bench
  rw [run_available]
  obtain ⟨made, hmade, hway⟩ := follows_names b bench
  exact ⟨made, hmade, _, hway, rfl⟩

theorem follows_set (g : Nat) : Follows (set b.recording g) (Setting g) := by
  unfold set
  refine (follows_available b).bind (V := fun n => if n ≤ g then Resting (.error (.invalidLayout g n))
    else Asking (Exchange.lock g)) (fun n => ?_) ?_ ?_
  · split
    · exact .fail _
    · refine (Follows.recorded (Exchange.lock g) (b.lock g)).bind (V := fun e => Resting (.ok e)) (fun e => ?_) id ?_
      · dsimp only
        split
        · exact .bind_say (.pure e)
        · exact .pure e
      · rintro q made e q' made' r q'' ⟨rfl, rfl⟩ ⟨rfl, rfl, rfl⟩
        exact ⟨rfl, rfl⟩
  · rintro q made f q' ⟨names, hreading, hn⟩
    cases names with
    | error f' =>
      cases hn
      exact .unnamed hreading
    | ok told => cases hn
  · rintro q made n q' made' r q'' ⟨names, hreading, hn⟩ hlock
    cases names with
    | error f => cases hn
    | ok told =>
      cases hn
      split at hlock <;> rename_i hg
      · obtain ⟨rfl, rfl, rfl⟩ := hlock
        rw [List.append_nil]
        exact .refused hreading hg
      · obtain ⟨rfl, rfl⟩ := hlock
        exact .locked r hreading (Nat.lt_of_not_le hg)

theorem follows_describe (g : Nat) : Follows (describe b.recording g) ((Operation.describe g).Course) := by
  intro bench
  obtain ⟨hresult, hstate⟩ := describe_ends b.recording g bench
  rw [hresult, hstate]
  obtain ⟨made, hmade, hway⟩ := follows_names b bench
  exact ⟨made, hmade, _, hway, rfl⟩

theorem follows_candidates : Follows (candidates b.recording) Finding := by
  intro bench
  unfold candidates
  rw [Step.run_bind_state]
  by_cases hcycle : bench.switcher.cycle = []
  · rw [if_pos (List.isEmpty_iff.mpr hcycle)]
    refine Follows.given (P := fun q => q.cycle = []) ?_ hcycle
    refine (follows_names b).bind (V := fun told => if groupCount told = 0 then Resting (.error noRotation)
      else Resting (.ok (List.range (min (groupCount told) maxGroups)))) (fun told => ?_) ?_ ?_
    · dsimp only
      split
      · exact .fail _
      · exact .pure _
    · exact fun hreading hcycle => .unnamed hcycle hreading
    · intro q made told q' made' r q'' hreading hrest hcycle
      split at hrest <;> rename_i hcount
      · obtain ⟨rfl, rfl, rfl⟩ := hrest
        rw [List.append_nil]
        exact .nothing hcycle hreading hcount
      · obtain ⟨rfl, rfl, rfl⟩ := hrest
        rw [List.append_nil]
        exact .counted hcycle hreading hcount
  · rw [if_neg fun hempty => hcycle (List.isEmpty_iff.mp hempty)]
    exact ⟨[], (List.append_nil _).symm, .configured hcycle⟩

theorem follows_next : Follows (next b.recording) Turning := by
  unfold next
  refine (follows_candidates b).bind (V := fun ring q made r q' =>
    (∃ f, made = [.current (.error f)] ∧ r = .error f ∧ q' = q) ∨
      ∃ c rest, made = .current (.ok c) :: rest ∧ Setting (following ring c) q rest r q') (fun ring => ?_) .ringless ?_
  · refine (follows_current b).bind (V := fun c => Setting (following ring c)) (fun c => ?_) ?_ ?_
    · exact .bind_say (follows_set b _)
    · rintro q made f q' ⟨rfl, rfl⟩
      exact .inl ⟨f, rfl, rfl, rfl⟩
    · rintro q made c q' rest r q'' ⟨rfl, rfl⟩ hset
      exact .inr ⟨c, rest, rfl, hset⟩
  · rintro q made ring q' made' r q'' hfinding (⟨f, rfl, rfl, rfl⟩ | ⟨c, rest, rfl, hset⟩)
    · exact .lost f hfinding
    · exact .turned hfinding hset

theorem follows_apply (g : Nat) : Follows (apply b.recording g) (Applying g) := by
  unfold apply
  refine (follows_current b).bind (V := fun c q made r q' =>
    (c = g ∧ made = [] ∧ r = .ok false ∧ q' = q) ∨
      c ≠ g ∧ ∃ set, Setting g q made set q' ∧ r = set.map fun _ => true) (fun c => ?_) ?_ ?_
  · split <;> rename_i hc
    · exact (Follows.pure false).mono fun ⟨hmade, hr, hq⟩ => .inl ⟨hc, hmade, hr, hq⟩
    · intro bench
      rw [Step.run_bind_pure]
      obtain ⟨made, hmade, hway⟩ := follows_set b g bench
      exact ⟨made, hmade, .inr ⟨hc, _, hway, rfl⟩⟩
  · rintro q made f q' ⟨rfl, rfl⟩
    exact .lost f
  · rintro q made c q' made' r q'' ⟨rfl, rfl⟩ (⟨rfl, rfl, rfl, rfl⟩ | ⟨hc, set, hset, rfl⟩)
    · exact .same
    · exact .other hc hset

end Switcher

/-- **Every operation follows its course**, whatever the backend answers. -/
theorem Operation.follows_course (b : Backend S) (o : Operation) : Follows (o.on b.recording) o.Course := by
  cases o with
  | current => exact Switcher.follows_current b
  | set g => exact Switcher.follows_set b g
  | next => exact Switcher.follows_next b
  | apply g => exact Switcher.follows_apply b g
  | names => exact Switcher.follows_names b
  | describe g => exact Switcher.follows_describe b g

end FocusLayout.Layout
