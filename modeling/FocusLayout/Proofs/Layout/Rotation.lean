import FocusLayout.Proofs.Layout.Record
import Mathlib.Data.List.Rotate
import Mathlib.Logic.Function.Iterate

/-!
# Going round the layouts

`Switcher.next` looks for the current group in its `rotation` and goes to the one after it (`following`). On a ring
without repetitions this walks the positions one by one (`iterate_following`), from outside it enters at the first
(`following_of_notMem`), and it never looks outside of the ring (`following_inside`).

On a faithful backend every call brings the following group into effect (`result_turned`), so a number of calls is an
iteration of `following` (`group_turned`), and `next_rotates` says where each of them ends.
-/

namespace FocusLayout.Layout

variable {S : Type}

/-! ## The ring -/

section Ring

variable {ring : List Nat} {c p : Nat}

/-- A ring with an element is only looked at where it has one: after the position of the current group, or else at the
beginning. -/
theorem following_inside (h : ring ≠ []) (c : Nat) :
    (∀ i, ring.findIdx? (· == c) = some i → ring[(i + 1) % ring.length]? = some (following ring c)) ∧
      (ring.findIdx? (· == c) = none → ring[0]? = some (following ring c)) := by
  have hpos : 0 < ring.length := List.length_pos_iff.mpr h
  unfold following
  refine ⟨fun i hi => ?_, fun hi => ?_⟩
  · rw [hi]
    dsimp only
    rw [List.getD_eq_getElem?_getD, List.getElem?_eq_getElem (Nat.mod_lt _ hpos), Option.getD_some]
  · rw [hi]
    dsimp only
    rw [List.headD_eq_head?_getD, List.head?_eq_getElem?, List.getElem?_eq_getElem hpos, Option.getD_some]

/-- So it stays on the ring. -/
theorem following_mem (h : ring ≠ []) (c : Nat) : following ring c ∈ ring := by
  obtain ⟨hfound, hmissing⟩ := following_inside h c
  cases hi : ring.findIdx? (· == c) with
  | some i => exact List.mem_of_getElem? (hfound i hi)
  | none => exact List.mem_of_getElem? (hmissing hi)

/-- The position that is found for an element of a ring without repetitions is its own. -/
theorem findIdx?_of_getElem? (hnodup : ring.Nodup) (hp : ring[p]? = some c) :
    ring.findIdx? (· == c) = some p := by
  obtain ⟨hlt, hc⟩ := List.getElem?_eq_some_iff.mp hp
  refine List.findIdx?_eq_some_iff_getElem.mpr ⟨hlt, by simp [hc], fun j hj heq => ?_⟩
  have hjc : ring[j] = ring[p] := (beq_iff_eq.mp heq).trans hc.symm
  exact Nat.ne_of_lt hj (hnodup.getElem_inj_iff.mp hjc)

/-- From a position of the ring it goes to the next one. -/
theorem following_of_getElem? (hnodup : ring.Nodup) (hp : ring[p]? = some c) :
    ring[(p + 1) % ring.length]? = some (following ring c) :=
  (following_inside (by rintro rfl; simp at hp) c).1 p (findIdx?_of_getElem? hnodup hp)

/-- From outside it goes to the first one. -/
theorem following_of_notMem (hne : ring ≠ []) (hc : c ∉ ring) : ring[0]? = some (following ring c) := by
  refine (following_inside hne c).2 (List.findIdx?_eq_none_iff.mpr fun g hg => ?_)
  exact beq_false_of_ne fun heq => hc (heq ▸ hg)

/-- From a position of the ring it walks on position by position. -/
theorem iterate_following (hnodup : ring.Nodup) (hp : ring[p]? = some c) (k : Nat) :
    ring[(p + k) % ring.length]? = some ((following ring)^[k] c) := by
  induction k with
  | zero =>
    obtain ⟨hlt, -⟩ := List.getElem?_eq_some_iff.mp hp
    rw [Nat.add_zero, Nat.mod_eq_of_lt hlt]
    exact hp
  | succ k ih =>
    have hnext := following_of_getElem? hnodup ih
    rwa [Nat.mod_add_mod, Nat.add_assoc, ← Function.iterate_succ_apply' (following ring)] at hnext

/-- From anywhere it walks on from some position. -/
theorem exists_position (hne : ring ≠ []) (hnodup : ring.Nodup) (c : Nat) :
    ∃ q, ∀ k, ring[(q + k) % ring.length]? = some ((following ring)^[k + 1] c) := by
  by_cases hc : c ∈ ring
  · obtain ⟨p, hp⟩ := List.mem_iff_getElem?.mp hc
    refine ⟨p + 1, fun k => ?_⟩
    rw [Nat.add_assoc, Nat.add_comm 1 k]
    exact iterate_following hnodup hp (k + 1)
  · refine ⟨0, fun k => ?_⟩
    rw [Function.iterate_succ_apply]
    exact iterate_following hnodup (following_of_notMem hne hc) k

/-- As many steps as the ring is long come to each of its elements once. -/
theorem map_iterate_following_perm (hne : ring ≠ []) (hnodup : ring.Nodup) (c : Nat) :
    ((List.range ring.length).map fun i => (following ring)^[i + 1] c).Perm ring := by
  obtain ⟨q, hq⟩ := exists_position hne hnodup c
  have hrotate : ((List.range ring.length).map fun i => (following ring)^[i + 1] c) = ring.rotate q := by
    refine List.ext_getElem? fun i => ?_
    rcases Nat.lt_or_ge i ring.length with hi | hi
    · rw [List.getElem?_rotate hi, Nat.add_comm i q, hq i, List.getElem?_map, List.getElem?_range hi]
      rfl
    · rw [List.getElem?_eq_none (by simpa using hi), List.getElem?_eq_none (by simpa using hi)]
  rw [hrotate]
  exact List.rotate_perm ring q

/-- And from an element of the ring they come back to it. -/
theorem iterate_following_length (hnodup : ring.Nodup) (hc : c ∈ ring) : (following ring)^[ring.length] c = c := by
  obtain ⟨p, hp⟩ := List.mem_iff_getElem?.mp hc
  obtain ⟨hlt, -⟩ := List.getElem?_eq_some_iff.mp hp
  have hround := iterate_following hnodup hp ring.length
  rw [Nat.add_mod_right, Nat.mod_eq_of_lt hlt, hp] at hround
  exact (Option.some.inj hround).symm

end Ring

/-- The groups to rotate through: the configured ones, else those that have names. -/
def rotation (cycle : List Nat) (names : List String) : List Nat :=
  if cycle = [] then List.range (min names.length maxGroups) else cycle

theorem rotation_nodup {cycle : List Nat} {names : List String} (h : cycle.Nodup) : (rotation cycle names).Nodup := by
  unfold rotation
  split
  · exact List.nodup_range
  · exact h

/-- The groups that have names are available, as far as the number of names is taken right. -/
theorem rotation_available {cycle : List Nat} {names : List String}
    (h : ∀ g ∈ cycle, g < Switcher.groupsAvailable names) (hn : cycle = [] → names.length < Nat.pow 2 32)
    (hne : rotation cycle names ≠ []) : ∀ g ∈ rotation cycle names, g < Switcher.groupsAvailable names := by
  unfold rotation at hne ⊢
  split at hne <;> rename_i hcycle
  · have hnames : names ≠ [] := by
      rintro rfl
      exact hne rfl
    rw [if_pos hcycle, Switcher.groupsAvailable_eq_groupsNamed (hn hcycle), groupsNamed, if_neg hnames]
    exact fun g hg => List.mem_range.mp hg
  · rw [if_neg hcycle]
    exact h

/-- The failure to rotate through nothing. -/
def noRotation : Failure := .serviceUnavailable "список раскладок пуст, задайте layout.cycle"

namespace Switcher

variable {b : Backend S} {view : S → Backend.Memory} {bench : Bench S} {cycle : List Nat} {names : List String}

/-! ## One call -/

/-- There is something to rotate through, or a failure. -/
theorem candidates_ne_nil {found : List Nat} (h : ((candidates b).run bench).result = .ok found) : found ≠ [] := by
  unfold candidates at h
  rw [Step.run_bind_state] at h
  dsimp only at h
  split at h <;> rename_i hcycle
  · cases hr : ((Switcher.names b).run bench).result with
    | error f => rw [Step.run_bind_error _ hr] at h; cases h
    | ok names =>
      rw [Step.run_bind_ok _ hr] at h
      dsimp only at h
      split at h <;> rename_i hcount
      · cases h
      · obtain rfl := Except.ok.inj h
        rw [← List.length_pos_iff, List.length_range]
        exact Nat.lt_min.mpr ⟨Nat.pos_of_ne_zero hcount, by decide⟩
  · obtain rfl := Except.ok.inj h
    simpa using hcycle

/-- A faithful backend rotates through the rotation, and its device is the same afterwards. -/
theorem candidates_faithful (hb : b.Faithful view) (hk : Truthful view bench)
    (hn : bench.switcher.cycle = [] → (view bench.device).names.length < Nat.pow 2 32) :
    let ring := rotation bench.switcher.cycle (view bench.device).names
    ((candidates b).run bench).result = (if ring = [] then .error noRotation else .ok ring) ∧
      view ((candidates b).run bench).state.device = view bench.device ∧
      Truthful view ((candidates b).run bench).state := by
  intro ring
  unfold candidates
  rw [Step.run_bind_state]
  dsimp only
  by_cases hcycle : bench.switcher.cycle = []
  · obtain ⟨hr, hview, hk'⟩ := names_faithful hb hk
    have hcount : groupCount (view bench.device).names = (view bench.device).names.length :=
      Nat.mod_eq_of_lt (hn hcycle)
    have hring : ring = List.range (min (view bench.device).names.length maxGroups) := if_pos hcycle
    rw [if_pos (by rw [hcycle]; rfl), Step.run_bind_ok _ hr, hcount, hring]
    dsimp only
    by_cases hzero : (view bench.device).names.length = 0
    · rw [if_pos hzero, if_pos (by rw [hzero]; rfl)]
      exact ⟨rfl, hview, hk'⟩
    · have hne : List.range (min (view bench.device).names.length maxGroups) ≠ [] := by
        rw [← List.length_pos_iff, List.length_range]
        exact Nat.lt_min.mpr ⟨Nat.pos_of_ne_zero hzero, by decide⟩
      rw [if_neg hzero, if_neg hne]
      exact ⟨rfl, hview, hk'⟩
  · have hring : ring = bench.switcher.cycle := if_neg hcycle
    rw [if_neg (by simpa using hcycle), hring, if_neg hcycle]
    exact ⟨rfl, rfl, hk⟩

/-- The next group comes into effect if all groups of the rotation are available. -/
theorem next_faithful (hb : b.Faithful view) (hk : Truthful view bench)
    (hn : bench.switcher.cycle = [] → (view bench.device).names.length < Nat.pow 2 32)
    (hne : rotation bench.switcher.cycle (view bench.device).names ≠ [])
    (hring : ∀ g ∈ rotation bench.switcher.cycle (view bench.device).names,
      g < groupsAvailable (view bench.device).names) :
    let group := following (rotation bench.switcher.cycle (view bench.device).names) (view bench.device).group
    ((next b).run bench).result = .ok group ∧
      view ((next b).run bench).state.device = { view bench.device with group := group } := by
  intro group
  obtain ⟨hr, hview, hk'⟩ := candidates_faithful hb hk hn
  rw [if_neg hne] at hr
  obtain ⟨hc, hview', hk''⟩ := current_faithful hb hk'
  rw [hview] at hc hview'
  have hmem : group ∈ rotation bench.switcher.cycle (view bench.device).names := following_mem hne _
  have hset := set_faithful_of_lt hb hk'' (by rw [hview']; exact hring group hmem)
  unfold next
  rw [Step.run_bind_ok _ hr]
  dsimp only
  rw [Step.run_bind_ok _ hc]
  dsimp only
  rw [Step.run_bind_say]
  exact ⟨hset.1, hset.2.1.trans (by rw [hview'])⟩

/-- Finding what to rotate through takes no more than the names. -/
theorem state_candidates (b : Backend S) (bench : Bench S) :
    ((candidates b).run bench).state = bench ∨
      ((candidates b).run bench).state = ((Switcher.names b).run bench).state := by
  unfold candidates
  rw [Step.run_bind_state]
  dsimp only
  split
  · right
    cases hr : ((Switcher.names b).run bench).result with
    | error f => rw [Step.run_bind_error _ hr]
    | ok names =>
      rw [Step.run_bind_ok _ hr]
      dsimp only
      split <;> rfl
  · exact .inl rfl

end Switcher

/-! ## Call after call -/

/-- A faithful backend keeps its names, and the switcher knows no others. -/
theorem Backend.Faithful.maintains {b : Backend S} {view : S → Backend.Memory} (hb : b.Faithful view)
    (cycle : List Nat) (names : List String) :
    b.Maintains fun switcher s => switcher.cycle = cycle ∧ (view s).names = names ∧
      ∀ known, switcher.known = some known → known = names where
  current switcher s h := by
    rw [hb.current_view]
    exact h
  names_error cycle s f h hr := by
    rw [hb.names_view]
    exact h
  names_ok cycle s names h hr := by
    refine ⟨h.1, by rw [hb.names_view]; exact h.2.1, fun known hknown => ?_⟩
    obtain rfl := Option.some.inj hknown
    rw [← h.2.1]
    exact Except.ok.inj (hr.symm.trans (hb.names_result s))
  lock cycle names g s hg h := by
    rw [hb.lock_view]
    exact h

namespace Switcher

open Backend (Recorded exchanges_names)

variable {b : Backend S} {view : S → Backend.Memory} {cycle : List Nat} {device : S} {earlier : List Operation}

/-- The switcher beside its device after some operations and then a number of calls for the next group. -/
def turned (b : Backend S) (cycle : List Nat) (device : S) (earlier : List Operation) (k : Nat) :
    Bench (Recorded S) :=
  Operation.after b.recording (earlier ++ List.replicate k .next) (.fresh cycle ⟨device, []⟩)

theorem turned_succ (b : Backend S) (cycle : List Nat) (device : S) (earlier : List Operation) (k : Nat) :
    turned b cycle device earlier (k + 1) = ((next b.recording).run (turned b cycle device earlier k)).state := by
  unfold turned
  rw [List.replicate_succ', ← List.append_assoc, Operation.after_concat]
  rfl

/-- Before every call the switcher has its rotation, and knows only the names that there are. -/
theorem settled_turned (hb : b.Faithful view) (cycle : List Nat) (device : S) (earlier : List Operation) (k : Nat) :
    (turned b cycle device earlier k).switcher.cycle = cycle ∧
      (view (turned b cycle device earlier k).device.device).names = (view device).names ∧
      Truthful (fun r => view r.device) (turned b cycle device earlier k) := by
  obtain ⟨hcycle, hnames, hknown⟩ := (hb.recording.maintains cycle (view device).names).after
    (.fresh cycle ⟨device, []⟩) ⟨rfl, rfl, nofun⟩ (earlier ++ List.replicate k .next)
  exact ⟨hcycle, hnames, fun names h => (hknown names h).trans hnames.symm⟩

section Rotating

variable (hb : b.Faithful view) (hn : cycle = [] → (view device).names.length < Nat.pow 2 32)
  (hne : rotation cycle (view device).names ≠ [])
  (hring : ∀ g ∈ rotation cycle (view device).names, g < groupsAvailable (view device).names)

include hb hn hne hring

/-- Every call brings the following group into effect. -/
theorem result_turned (k : Nat) :
    let group := following (rotation cycle (view device).names)
      (view (turned b cycle device earlier k).device.device).group
    ((next b.recording).run (turned b cycle device earlier k)).result = .ok group ∧
      (view (turned b cycle device earlier (k + 1)).device.device).group = group := by
  intro group
  obtain ⟨hcycle, hnames, hk⟩ := settled_turned hb cycle device earlier k
  have hnext := next_faithful hb.recording hk
  rw [hcycle, hnames] at hnext
  obtain ⟨hresult, hview⟩ := hnext hn hne hring
  rw [turned_succ]
  exact ⟨hresult, congrArg Backend.Memory.group hview⟩

/-- So a number of calls is as many steps round the ring. -/
theorem group_turned (j k : Nat) :
    (view (turned b cycle device earlier (j + k)).device.device).group =
      (following (rotation cycle (view device).names))^[k]
        (view (turned b cycle device earlier j).device.device).group := by
  induction k with
  | zero => rfl
  | succ k ih =>
    rw [Function.iterate_succ_apply', ← ih]
    exact (result_turned hb hn hne hring (j + k)).2

end Rotating

/-- Without anything to rotate through every call fails and locks nothing. -/
theorem next_without_rotation (hb : b.Faithful view) {bench : Bench (Recorded S)}
    (hk : Truthful (fun r => view r.device) bench) (hcycle : bench.switcher.cycle = [])
    (hnames : (view bench.device.device).names = []) :
    ((next b.recording).run bench).result = .error noRotation ∧
      ∃ added, ((next b.recording).run bench).state.device.exchanges = bench.device.exchanges ++ added ∧
        ∀ g answer, .lock g answer ∉ added := by
  have hring : rotation bench.switcher.cycle (view bench.device.device).names = [] := by
    rw [hcycle, hnames]
    rfl
  obtain ⟨hr, -, -⟩ := candidates_faithful hb.recording hk fun _ => by rw [hnames]; decide
  rw [if_pos hring] at hr
  unfold next
  rw [Step.run_bind_error _ hr]
  refine ⟨rfl, ?_⟩
  rcases state_candidates b.recording bench with hstate | hstate
  · rw [hstate]
    exact ⟨[], (List.append_nil _).symm, fun _ _ => List.not_mem_nil⟩
  · rw [hstate]
    exact exchanges_names b bench

/-- **Going round.** Take a faithful backend, a switcher that has been used in any way, and groups to rotate through
that are all available and, if configured, not repeated. Call for the next group again and again. From position `p` of
the rotation the calls give the groups at `p + 1`, `p + 2`, …, and from a group that is not in it those at `0`, `1`, …,
all modulo its length. As many calls in a row as it is long visit each of its groups once, and come back to a group in
it.
Without configured groups and without names every call fails and locks nothing. No call looks outside of the rotation.

The number of names has 32 bits for the switcher; `groupsAvailable_eq_groupsNamed` says what is available by it. -/
theorem next_rotates (hb : b.Faithful view) (cycle : List Nat) (device : S) (earlier : List Operation)
    (hnodup : cycle.Nodup) (havailable : ∀ g ∈ cycle, g < groupsAvailable (view device).names)
    (hn : cycle = [] → (view device).names.length < Nat.pow 2 32) :
    let ring := rotation cycle (view device).names
    let group := fun k => (view (turned b cycle device earlier k).device.device).group
    let call := fun k => (next b.recording).run (turned b cycle device earlier k)
    (ring ≠ [] →
      (∀ p, ring[p]? = some (group 0) → ∀ k, ∃ g, ring[(p + (k + 1)) % ring.length]? = some g ∧
        (call k).result = .ok g) ∧
      (group 0 ∉ ring → ∀ k, ∃ g, ring[k % ring.length]? = some g ∧ (call k).result = .ok g) ∧
      ∀ j, ((List.range ring.length).map fun i => (call (j + i)).result).Perm (ring.map .ok) ∧
        (group j ∈ ring → group (j + ring.length) = group j)) ∧
    (cycle = [] → (view device).names = [] → ∀ k, (call k).result = .error noRotation ∧
      ∃ added, (call k).state.device.exchanges = (turned b cycle device earlier k).device.exchanges ++ added ∧
        ∀ g answer, .lock g answer ∉ added) ∧
    ∀ k found, ((candidates b.recording).run (turned b cycle device earlier k)).result = .ok found →
      found.length ≠ 0 ∧ ∀ current,
        (∀ i, found.findIdx? (· == current) = some i →
          found[(i + 1) % found.length]? = some (following found current)) ∧
        (found.findIdx? (· == current) = none → found[0]? = some (following found current)) := by
  intro ring group call
  refine ⟨fun hne => ?_, fun hcycle hnames k => ?_, fun k found hfound => ?_⟩
  · have hring : ring.Nodup := rotation_nodup hnodup
    have hgroups := rotation_available havailable hn hne
    -- each call is one more step from the group before all calls
    have hcall : ∀ j k, (call (j + k)).result = .ok ((following ring)^[k + 1] (group j)) := by
      intro j k
      rw [Function.iterate_succ_apply', ← group_turned hb hn hne hgroups]
      exact (result_turned hb hn hne hgroups (j + k)).1
    have hfirst : ∀ k, (call k).result = .ok ((following ring)^[k + 1] (group 0)) := by
      intro k
      have hk := hcall 0 k
      rwa [Nat.zero_add] at hk
    refine ⟨fun p hp k => ⟨_, iterate_following hring hp (k + 1), hfirst k⟩, fun hout k => ?_,
      fun j => ⟨?_, fun hin => ?_⟩⟩
    · refine ⟨_, ?_, hfirst k⟩
      have hwalk := iterate_following hring (following_of_notMem hne hout) k
      rwa [Nat.zero_add] at hwalk
    · simp only [hcall]
      exact List.map_map ▸ (map_iterate_following_perm hne hring (group j)).map Except.ok
    · exact (group_turned hb hn hne hgroups j ring.length).trans (iterate_following_length hring hin)
  · obtain ⟨hc, hview, hk⟩ := settled_turned hb cycle device earlier k
    exact next_without_rotation hb hk (hc.trans hcycle) (hview.trans hnames)
  · have hne := candidates_ne_nil hfound
    exact ⟨fun h => hne (List.length_eq_zero_iff.mp h), fun current => following_inside hne current⟩

/-- Groups 2 and 0 in turn, of three: the fourth call from group 1, which is in neither place, and the third one from
group 0, which has been set before. -/
theorem next_rotates_two_of_three :
    let device : Backend.Memory := ⟨1, ["us", "de", "ru"]⟩
    let call := fun earlier k => (next Backend.dryRun.recording).run (turned Backend.dryRun [2, 0] device earlier k)
    (call [] 3).result = .ok 0 ∧ (call [.set 0] 2).result = .ok 2 := by
  intro device call
  have law := fun earlier => (next_rotates faithful_dryRun [2, 0] device earlier (by decide) (by decide) nofun).1
    (by decide)
  obtain ⟨g, hg, hr⟩ := (law []).2.1 (by decide) 3
  obtain ⟨g', hg', hr'⟩ := (law [.set 0]).1 1 rfl 2
  obtain rfl : 0 = g := by simpa [rotation] using hg
  obtain rfl : 2 = g' := by simpa [rotation] using hg'
  exact ⟨hr, hr'⟩

end Switcher

end FocusLayout.Layout
