import FocusLayout.Proofs.Layout.Course

/-!
# The names are read once

The names are known from the first time that they are told, and not asked for since (`ToldOnce`); every call of a
switcher keeps this (`maintains_toldOnce`).

For a single operation everything follows from its course:

- it asks for the names as often as they are unknown, which is at most once (`Course.reads_le`);
- if they are known when it ends, it has worked by them (`Course.worksBy`);
- if they are unknown when it begins, it asks for them as soon as it needs them (`Course.needs`), and if they are not
  told it ends without (`Course.withoutNames`).

`names_read_once` puts this together for every operation after any others.
-/

namespace FocusLayout.Layout

open Backend (Exchange Recorded)

variable {S : Type} {made made' exchanges : List Exchange} {q q' : Switcher} {told : List String} {ring : List Nat}
  {f : Failure} {g : Nat}

namespace Backend.Exchange

/-- The call is for the names. -/
def isNames : Exchange → Bool
  | names _ => true
  | current _ | lock _ _ => false

end Backend.Exchange

/-- How often the names are asked for. -/
def reads (made : List Exchange) : Nat := made.countP Exchange.isNames

/-- What is asked for besides the names. -/
def besidesNames (made : List Exchange) : List Exchange := made.filter fun e => !e.isNames

/-! ## Told once -/

/-- The names are known if they have been told, and they have not been asked for since. -/
structure ToldOnce (known : Option (List String)) (exchanges : List Exchange) : Prop where
  known_iff : ∀ told, known = some told ↔ .names (.ok told) ∈ exchanges
  quiet : ∀ earlier told later, exchanges = earlier ++ .names (.ok told) :: later → ∀ answer, .names answer ∉ later

namespace ToldOnce

variable {known known' : Option (List String)} {e : Exchange}

theorem nil : ToldOnce none [] where
  known_iff told := by simp
  quiet earlier told later h := by simp at h

/-- One more exchange, which is for the names only if they are unknown. -/
theorem concat (h : ToldOnce known exchanges) (he : e.isNames = false ∨ known = none)
    (hknown' : ∀ told, known' = some told ↔ known = some told ∨ e = .names (.ok told)) :
    ToldOnce known' (exchanges ++ [e]) where
  known_iff told := by
    rw [hknown', h.known_iff, List.mem_append, List.mem_singleton, eq_comm (a := e)]
  quiet earlier told later heq answer hmem := by
    rcases Backend.split_concat heq with ⟨rfl, rfl, rfl⟩ | ⟨rest, rfl, rfl⟩
    · cases hmem
    rw [List.mem_append, List.mem_singleton] at hmem
    rcases hmem with hmem | rfl
    · exact h.quiet earlier told rest rfl answer hmem
    · -- the names are known by now, so this exchange is not for them
      have htold : known = some told := (h.known_iff told).mpr (List.mem_append_right _ List.mem_cons_self)
      rcases he with he | he
      · cases he
      · cases he.symm.trans htold

end ToldOnce

theorem Backend.maintains_toldOnce (b : Backend S) (cycle : List Nat) :
    b.recording.Maintains fun q r => q.cycle = cycle ∧ ToldOnce q.known r.exchanges where
  current q r h := by
    rw [Backend.recording, run_recorded]
    exact ⟨h.1, h.2.concat (.inl rfl) fun told => by simp⟩
  names_error cycle r f h hr := by
    rw [Backend.recording, run_recorded] at hr ⊢
    rw [hr]
    exact ⟨h.1, h.2.concat (.inr rfl) fun told => by simp⟩
  names_ok cycle r names h hr := by
    rw [Backend.recording, run_recorded] at hr ⊢
    rw [hr]
    exact ⟨h.1, h.2.concat (.inr rfl) fun told => by simp⟩
  lock cycle names g r hg h := by
    rw [Backend.recording, run_recorded]
    exact ⟨h.1, h.2.concat (.inl rfl) fun told => by simp⟩

/-! ## How often they are asked for -/

theorem reads_append (made made' : List Exchange) : reads (made ++ made') = reads made + reads made' :=
  List.countP_append

/-- How often a switcher still asks for the names if it is told them. -/
def Switcher.unread (q : Switcher) : Nat := if q.known.isSome then 0 else 1

theorem Switcher.unread_le (q : Switcher) : q.unread ≤ 1 := by
  unfold unread
  split
  · exact Nat.zero_le 1
  · exact Nat.le_refl 1

namespace Switcher

theorem Reading.reads_le {names : Except Failure (List String)} (h : Reading q made names q') :
    reads made ≤ q.unread := by
  cases h with
  | known hk => exact Nat.zero_le _
  | told told hk =>
    rw [unread, hk]
    exact Nat.le_refl 1
  | failed f hk =>
    rw [unread, hk]
    exact Nat.le_refl 1

/-- The names are known afterwards if they have been read, and then they are those. -/
theorem Reading.known_iff {names : Except Failure (List String)} (h : Reading q made names q') :
    q'.known = some told ↔ names = .ok told := by
  cases h with
  | known hk =>
    rw [hk]
    simp
  | told other _ => simp
  | failed f hk =>
    rw [hk]
    simp

theorem Setting.reads_le {r : Except Failure Nat} (h : Setting g q made r q') : reads made ≤ q.unread := by
  cases h with
  | unnamed hreading => exact hreading.reads_le
  | refused hreading _ => exact hreading.reads_le
  | locked answer hreading _ =>
    rw [reads_append]
    exact hreading.reads_le

theorem Finding.reads_le {ring : Except Failure (List Nat)} (h : Finding q made ring q') : reads made ≤ q.unread := by
  cases h with
  | configured _ => exact Nat.zero_le _
  | unnamed _ hreading => exact hreading.reads_le
  | nothing _ hreading _ => exact hreading.reads_le
  | counted _ hreading _ => exact hreading.reads_le

/-- A ring that has been found leaves only as much to read as was left out. -/
theorem Finding.reads_add_le (h : Finding q made (.ok ring) q') : reads made + q'.unread ≤ q.unread := by
  cases h with
  | configured _ => exact Nat.le_of_eq (Nat.zero_add _)
  | counted _ hreading _ =>
    have hread : q'.unread = 0 := by
      rw [unread, hreading.known_iff.mpr rfl]
      rfl
    rw [hread]
    exact hreading.reads_le

theorem Turning.reads_le {r : Except Failure Nat} (h : Turning q made r q') : reads made ≤ q.unread := by
  cases h with
  | ringless hfinding => exact hfinding.reads_le
  | lost f hfinding =>
    rw [reads_append]
    exact hfinding.reads_le
  | @turned _ q₁ _ found rest _ c _ hfinding hset =>
    calc reads (found ++ .current (.ok c) :: rest)
        = reads found + reads rest := reads_append _ _
      _ ≤ reads found + q₁.unread := Nat.add_le_add_left hset.reads_le _
      _ ≤ q.unread := hfinding.reads_add_le

theorem Applying.reads_le {r : Except Failure Bool} (h : Applying g q made r q') : reads made ≤ q.unread := by
  cases h with
  | lost f => exact Nat.zero_le _
  | same => exact Nat.zero_le _
  | other _ hset => exact hset.reads_le

end Switcher

/-- No operation asks for the names more than once, nor if they are known. -/
theorem Operation.Course.reads_le {o : Operation} {r : Except Failure o.Value} (h : o.Course q made r q') :
    reads made ≤ q.unread := by
  cases o with
  | current =>
    obtain ⟨rfl, -⟩ := h
    exact Nat.zero_le _
  | set g => exact Switcher.Setting.reads_le h
  | next => exact Switcher.Turning.reads_le h
  | apply g => exact Switcher.Applying.reads_le h
  | names => exact Switcher.Reading.reads_le h
  | describe g =>
    obtain ⟨names, hreading, -⟩ := h
    exact hreading.reads_le

/-! ## Working by the names -/

/-- The groups to rotate through: the configured ones, else as many as there are names, which are counted with 32 bits,
but no more than a keyboard can have. -/
def ringBy (told : List String) (cycle : List Nat) : List Nat :=
  if cycle = [] then List.range (min (told.length % Nat.pow 2 32) maxGroups) else cycle

/-- A group is set by these names: it is locked if it is available by their number, and refused otherwise. -/
inductive SetBy (told : List String) (g : Nat) : List Exchange → Except Failure Nat → Prop
  | locked (answer : Except Failure Nat) : g < Switcher.groupsAvailable told → SetBy told g [.lock g answer] answer
  | refused : Switcher.groupsAvailable told ≤ g →
      SetBy told g [] (.error (.invalidLayout g (Switcher.groupsAvailable told)))

/-- A switcher goes on by these names: through the ring that they make, from the current group to the one after it. -/
inductive TurnedBy (told : List String) (cycle : List Nat) : List Exchange → Except Failure Nat → Prop
  | ringless : ringBy told cycle = [] → TurnedBy told cycle [] (.error noRotation)
  | lost (f : Failure) : ringBy told cycle ≠ [] → TurnedBy told cycle [.current (.error f)] (.error f)
  | turned {c : Nat} {asked : List Exchange} {r : Except Failure Nat} : ringBy told cycle ≠ [] →
      SetBy told (following (ringBy told cycle) c) asked r → TurnedBy told cycle (.current (.ok c) :: asked) r

/-- A group is brought into effect by these names: it is set by them if it is not current. -/
inductive AppliedBy (told : List String) (g : Nat) : List Exchange → Except Failure Bool → Prop
  | lost (f : Failure) : AppliedBy told g [.current (.error f)] (.error f)
  | same : AppliedBy told g [.current (.ok g)] (.ok false)
  | other {c : Nat} {asked : List Exchange} {r : Except Failure Nat} : c ≠ g → SetBy told g asked r →
      AppliedBy told g (.current (.ok c) :: asked) (r.map fun _ => true)

/-- An operation works by these names, asking for this besides them. -/
def Operation.WorksBy (told : List String) (cycle : List Nat) (asked : List Exchange) :
    (o : Operation) → Except Failure o.Value → Prop
  | current, c => asked = [.current c]
  | set g, r => SetBy told g asked r
  | next, r => TurnedBy told cycle asked r
  | apply g, r => AppliedBy told g asked r
  | names, answer => asked = [] ∧ answer = .ok told
  | describe g, text => asked = [] ∧ text = .ok (groupText (.ok told) g)

theorem besidesNames_append (made made' : List Exchange) :
    besidesNames (made ++ made') = besidesNames made ++ besidesNames made' :=
  List.filter_append ..

namespace Switcher

/-- Reading asks for nothing besides the names. -/
theorem Reading.besides {names : Except Failure (List String)} (h : Reading q made names q') :
    besidesNames made = [] := by
  cases h with
  | known _ => rfl
  | told told _ => rfl
  | failed f _ => rfl

/-- Known names stay as they are. -/
theorem Reading.known_of_known {names : Except Failure (List String)} (h : Reading q made names q')
    (hk : q.known = some told) : q'.known = some told := by
  cases h with
  | known _ => exact hk
  | told other hnone => cases hk.symm.trans hnone
  | failed f hnone => cases hk.symm.trans hnone

theorem Setting.known_of_known {r : Except Failure Nat} (h : Setting g q made r q') (hk : q.known = some told) :
    q'.known = some told := by
  cases h with
  | unnamed hreading => exact hreading.known_of_known hk
  | refused hreading _ => exact hreading.known_of_known hk
  | locked answer hreading _ => exact hreading.known_of_known hk

theorem Setting.setBy {r : Except Failure Nat} (h : Setting g q made r q') (hk : q'.known = some told) :
    SetBy told g (besidesNames made) r := by
  cases h with
  | unnamed hreading => cases hreading.known_iff.mp hk
  | refused hreading hg =>
    cases hreading.known_iff.mp hk
    rw [hreading.besides]
    exact .refused hg
  | locked answer hreading hg =>
    cases hreading.known_iff.mp hk
    rw [besidesNames_append, hreading.besides]
    exact .locked _ hg

/-- The ring that has been found is the one that the names make, if no others are known. -/
theorem Finding.ring_by (h : Finding q made (.ok ring) q') (hk : ∀ other, q'.known = some other → other = told) :
    besidesNames made = [] ∧ ring = ringBy told q.cycle ∧ ringBy told q.cycle ≠ [] := by
  cases h with
  | configured hcycle =>
    rw [ringBy, if_neg hcycle]
    exact ⟨rfl, rfl, hcycle⟩
  | counted hcycle hreading hcount =>
    obtain rfl := hk _ (hreading.known_iff.mpr rfl)
    rw [ringBy, if_pos hcycle, ← List.length_pos_iff, List.length_range]
    exact ⟨hreading.besides, rfl, Nat.lt_min.mpr ⟨Nat.pos_of_ne_zero hcount, by decide⟩⟩

/-- With the names known there is none only if they make none. -/
theorem Finding.no_ring_by (h : Finding q made (.error f) q') (hk : q'.known = some told) :
    besidesNames made = [] ∧ f = noRotation ∧ ringBy told q.cycle = [] := by
  cases h with
  | unnamed hcycle hreading => cases hreading.known_iff.mp hk
  | nothing hcycle hreading hcount =>
    cases hreading.known_iff.mp hk
    rw [groupCount] at hcount
    rw [ringBy, if_pos hcycle, hcount]
    exact ⟨hreading.besides, rfl, rfl⟩

theorem Turning.turnedBy {r : Except Failure Nat} (h : Turning q made r q') (hk : q'.known = some told) :
    TurnedBy told q.cycle (besidesNames made) r := by
  cases h with
  | ringless hfinding =>
    obtain ⟨hbesides, rfl, hring⟩ := hfinding.no_ring_by hk
    rw [hbesides]
    exact .ringless hring
  | lost f hfinding =>
    obtain ⟨hbesides, -, hring⟩ := hfinding.ring_by fun other hother => Option.some.inj (hother.symm.trans hk)
    rw [besidesNames_append, hbesides]
    exact .lost f hring
  | turned hfinding hset =>
    -- names known before the group is set are still known after it
    obtain ⟨hbesides, rfl, hring⟩ := hfinding.ring_by fun other hother =>
      Option.some.inj ((hset.known_of_known hother).symm.trans hk)
    rw [besidesNames_append, hbesides]
    exact .turned hring (hset.setBy hk)

theorem Applying.appliedBy {r : Except Failure Bool} (h : Applying g q made r q') (hk : q'.known = some told) :
    AppliedBy told g (besidesNames made) r := by
  cases h with
  | lost f => exact .lost f
  | same => exact .same
  | other hc hset => exact .other hc (hset.setBy hk)

end Switcher

/-- An operation has worked by the names that are known when it ends. -/
theorem Operation.Course.worksBy {o : Operation} {r : Except Failure o.Value} (h : o.Course q made r q')
    (hk : q'.known = some told) : o.WorksBy told q.cycle (besidesNames made) r := by
  cases o with
  | current =>
    obtain ⟨rfl, -⟩ := h
    exact rfl
  | set g => exact Switcher.Setting.setBy h hk
  | next => exact Switcher.Turning.turnedBy h hk
  | apply g => exact Switcher.Applying.appliedBy h hk
  | names => exact ⟨Switcher.Reading.besides h, (Switcher.Reading.known_iff h).mp hk⟩
  | describe g =>
    obtain ⟨names, hreading, rfl⟩ := h
    cases hreading.known_iff.mp hk
    exact ⟨hreading.besides, rfl⟩

/-! ## Working without them -/

namespace Operation

/-- An operation gets as far as needing the names, by what it has asked for. -/
def Needs (cycle : List Nat) (made : List Exchange) : Operation → Prop
  | current => False
  | set _ | names | describe _ => True
  | next => cycle = [] ∨ ∃ c, .current (.ok c) ∈ made
  | apply g => ∃ c, c ≠ g ∧ .current (.ok c) ∈ made

/-- How an operation ends that needs the names when they cannot be read. -/
def withoutNames (f : Failure) : (o : Operation) → Except Failure o.Value
  | current | set _ | next | apply _ | names => .error f
  | describe g => .ok (toString g)

end Operation

namespace Switcher

/-- Unknown names are asked for, and are known afterwards unless they were not told. -/
theorem Reading.asks {names : Except Failure (List String)} (h : Reading q made names q') (hk : q.known = none) :
    made = [.names names] := by
  cases h with
  | known hknown => cases hk.symm.trans hknown
  | told told _ => rfl
  | failed f _ => rfl

/-- Names that are not told stay unknown. -/
theorem Reading.fails {names : Except Failure (List String)} (h : Reading q made names q')
    (hf : .names (.error f) ∈ made) : q'.known = none ∧ names = .error f := by
  cases h with
  | known _ => cases hf
  | told told _ => simp at hf
  | failed f' hk =>
    obtain rfl : f = f' := by simpa using hf
    exact ⟨hk, rfl⟩

theorem Setting.asks {r : Except Failure Nat} (h : Setting g q made r q') (hk : q.known = none) :
    ∃ answer, .names answer ∈ made := by
  cases h with
  | unnamed hreading => exact ⟨_, hreading.asks hk ▸ List.mem_cons_self⟩
  | refused hreading _ => exact ⟨_, hreading.asks hk ▸ List.mem_cons_self⟩
  | locked answer hreading _ => exact ⟨_, List.mem_append_left _ (hreading.asks hk ▸ List.mem_cons_self)⟩

theorem Setting.fails {r : Except Failure Nat} (h : Setting g q made r q') (hf : .names (.error f) ∈ made) :
    q'.known = none ∧ r = .error f := by
  cases h with
  | unnamed hreading =>
    obtain ⟨hk, hr⟩ := hreading.fails hf
    cases hr
    exact ⟨hk, rfl⟩
  | refused hreading _ => cases (hreading.fails hf).2
  | locked answer hreading _ =>
    rcases List.mem_append.mp hf with hf | hf
    · cases (hreading.fails hf).2
    · simp at hf

/-- Unknown names are asked for to find the ring, unless one is configured. -/
theorem Finding.asks {ring : Except Failure (List Nat)} (h : Finding q made ring q') (hk : q.known = none) :
    (q.cycle = [] ∧ ∃ answer, .names answer ∈ made) ∨
      (q.cycle ≠ [] ∧ made = [] ∧ ring = .ok q.cycle ∧ q' = q) := by
  cases h with
  | configured hcycle => exact .inr ⟨hcycle, rfl, rfl, rfl⟩
  | unnamed hcycle hreading => exact .inl ⟨hcycle, _, hreading.asks hk ▸ List.mem_cons_self⟩
  | nothing hcycle hreading _ => exact .inl ⟨hcycle, _, hreading.asks hk ▸ List.mem_cons_self⟩
  | counted hcycle hreading _ => exact .inl ⟨hcycle, _, hreading.asks hk ▸ List.mem_cons_self⟩

theorem Finding.fails {ring : Except Failure (List Nat)} (h : Finding q made ring q')
    (hf : .names (.error f) ∈ made) : q'.known = none ∧ ring = .error f := by
  cases h with
  | configured _ => cases hf
  | unnamed _ hreading =>
    obtain ⟨hk, hr⟩ := hreading.fails hf
    cases hr
    exact ⟨hk, rfl⟩
  | nothing _ hreading _ => cases (hreading.fails hf).2
  | counted _ hreading _ => cases (hreading.fails hf).2

theorem Turning.needs {r : Except Failure Nat} (h : Turning q made r q') (hk : q.known = none) :
    (∃ answer, .names answer ∈ made) ↔ Operation.next.Needs q.cycle made := by
  unfold Operation.Needs
  cases h with
  | ringless hfinding =>
    rcases hfinding.asks hk with ⟨hcycle, hnames⟩ | ⟨-, -, hring, -⟩
    · exact iff_of_true hnames (.inl hcycle)
    · cases hring
  | lost f hfinding =>
    rcases hfinding.asks hk with ⟨hcycle, answer, hnames⟩ | ⟨hcycle, rfl, -⟩
    · exact iff_of_true ⟨answer, List.mem_append_left _ hnames⟩ (.inl hcycle)
    · simp [hcycle]
  | turned hfinding hset =>
    refine iff_of_true ?_ (.inr ⟨_, List.mem_append_right _ List.mem_cons_self⟩)
    rcases hfinding.asks hk with ⟨-, answer, hnames⟩ | ⟨-, -, -, rfl⟩
    · exact ⟨answer, List.mem_append_left _ hnames⟩
    · obtain ⟨answer, hnames⟩ := hset.asks hk
      exact ⟨answer, List.mem_append_right _ (List.mem_cons_of_mem _ hnames)⟩

theorem Turning.fails {r : Except Failure Nat} (h : Turning q made r q') (hf : .names (.error f) ∈ made) :
    q'.known = none ∧ r = .error f := by
  cases h with
  | ringless hfinding =>
    obtain ⟨hk, hr⟩ := hfinding.fails hf
    cases hr
    exact ⟨hk, rfl⟩
  | lost f' hfinding =>
    rcases List.mem_append.mp hf with hf | hf
    · cases (hfinding.fails hf).2
    · simp at hf
  | turned hfinding hset =>
    rcases List.mem_append.mp hf with hf | hf
    · cases (hfinding.fails hf).2
    · exact hset.fails (by simpa using hf)

theorem Applying.needs {r : Except Failure Bool} (h : Applying g q made r q') (hk : q.known = none) :
    (∃ answer, .names answer ∈ made) ↔ (Operation.apply g).Needs q.cycle made := by
  unfold Operation.Needs
  cases h with
  | lost f => simp
  | same => simp
  | other hc hset =>
    obtain ⟨answer, hnames⟩ := hset.asks hk
    exact iff_of_true ⟨answer, List.mem_cons_of_mem _ hnames⟩ ⟨_, hc, List.mem_cons_self⟩

theorem Applying.fails {r : Except Failure Bool} (h : Applying g q made r q') (hf : .names (.error f) ∈ made) :
    q'.known = none ∧ r = .error f := by
  cases h with
  | lost f' => simp at hf
  | same => simp at hf
  | other hc hset =>
    obtain ⟨hk, rfl⟩ := hset.fails (by simpa using hf)
    exact ⟨hk, rfl⟩

end Switcher

namespace Operation

variable {o : Operation} {r : Except Failure o.Value}

/-- Unknown names are asked for just when an operation needs them. -/
theorem Course.needs (h : o.Course q made r q') (hk : q.known = none) :
    (∃ answer, .names answer ∈ made) ↔ o.Needs q.cycle made := by
  cases o with
  | current =>
    obtain ⟨rfl, -⟩ := h
    exact iff_of_false (fun ⟨answer, hnames⟩ => by simp at hnames) id
  | set g => exact iff_of_true (Switcher.Setting.asks h hk) trivial
  | next => exact Switcher.Turning.needs h hk
  | apply g => exact Switcher.Applying.needs h hk
  | names => exact iff_of_true ⟨_, Switcher.Reading.asks h hk ▸ List.mem_cons_self⟩ trivial
  | describe g =>
    obtain ⟨names, hreading, -⟩ := h
    exact iff_of_true ⟨_, hreading.asks hk ▸ List.mem_cons_self⟩ trivial

/-- Names that are not told stay unknown, and the operation ends without them. -/
theorem Course.withoutNames (h : o.Course q made r q') (hf : .names (.error f) ∈ made) :
    q'.known = none ∧ r = o.withoutNames f := by
  cases o with
  | current =>
    obtain ⟨rfl, -⟩ := h
    simp at hf
  | set g => exact Switcher.Setting.fails h hf
  | next => exact Switcher.Turning.fails h hf
  | apply g => exact Switcher.Applying.fails h hf
  | names => exact Switcher.Reading.fails h hf
  | describe g =>
    obtain ⟨names, hreading, rfl⟩ := h
    obtain ⟨hk, rfl⟩ := hreading.fails hf
    exact ⟨hk, rfl⟩

end Operation

/-! ## Every operation after any others -/

/-- **The names are read once.** Take any backend, any groups to rotate through, any operations of a switcher that
begins now, and one more. It asks for the names at most once. Once they have been told, be it before or by this
operation, they are not asked for again, and it works by exactly these names, whatever the backend would answer by now.
Before that it asks for them just if it gets as far as needing them; if it is not told them they stay unknown, and it
fails with that very failure, or describes the group by its number alone. -/
theorem Operation.names_read_once (b : Backend S) (cycle : List Nat) (device : S) (operations : List Operation)
    (o : Operation) :
    let bench := Operation.after b.recording operations (.fresh cycle ⟨device, []⟩)
    let ran := (o.on b.recording).run bench
    ∃ made, ran.state.device.exchanges = bench.device.exchanges ++ made ∧
      made.countP Exchange.isNames ≤ 1 ∧
      (∀ earlier told later, ran.state.device.exchanges = earlier ++ .names (.ok told) :: later →
        (∀ answer, .names answer ∉ later) ∧ o.WorksBy told cycle (made.filter fun e => !e.isNames) ran.result) ∧
      ((∀ told, .names (.ok told) ∉ bench.device.exchanges) →
        ((∃ answer, .names answer ∈ made) ↔ o.Needs cycle made) ∧
        ∀ f, .names (.error f) ∈ made → ran.state.switcher.known = none ∧ ran.result = o.withoutNames f) := by
  intro bench ran
  have hmaintains := b.maintains_toldOnce cycle
  have hstart : (Bench.fresh cycle (Recorded.mk device [])).switcher.cycle = cycle ∧ ToldOnce none [] := ⟨rfl, .nil⟩
  obtain ⟨hcycle, hbefore⟩ := hmaintains.after (.fresh cycle ⟨device, []⟩) hstart operations
  obtain ⟨-, hafter⟩ := hmaintains.after bench ⟨hcycle, hbefore⟩ [o]
  obtain ⟨made, hmade, hcourse⟩ := o.follows_course b bench
  refine ⟨made, hmade, Nat.le_trans hcourse.reads_le bench.switcher.unread_le, ?_, fun hnone => ⟨?_, ?_⟩⟩
  · intro earlier told later hsplit
    have hknown : ran.state.switcher.known = some told :=
      (hafter.known_iff told).mpr (hsplit ▸ List.mem_append_right _ List.mem_cons_self)
    exact ⟨hafter.quiet earlier told later hsplit, hcycle ▸ hcourse.worksBy hknown⟩
  · have hunknown : bench.switcher.known = none :=
      Option.eq_none_iff_forall_ne_some.mpr fun told htold => hnone told ((hbefore.known_iff told).mp htold)
    exact hcycle ▸ hcourse.needs hunknown
  · exact fun f hf => hcourse.withoutNames hf

/-- Names that are not told at first are asked for again, and not any more once they have been told. -/
example : (Operation.after Backend.shy.recording [.describe 1, .describe 1, .set 0, .names]
    (.fresh [] ⟨0, []⟩)).device.exchanges =
      [.names (.error (.protocol "names")), .names (.ok ["us", "ru"]), .lock 0 (.ok 0)] := rfl

end FocusLayout.Layout
