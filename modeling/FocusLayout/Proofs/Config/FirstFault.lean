import FocusLayout.Proofs.Config.Loading

/-!
# The fault that a check names

`Config.validate` stops at the first condition that does not hold, and within the rotation and the rules at the first
entry at fault (`FirstFault`).

- `repeated?` remembers the groups it has come past, so it stops at the earliest one that stands before itself as well
  (`repeated?_eq_some_iff`), and at none if they are all different (`repeated?_eq_none_iff`);
- rules are numbered from 1, those without a class included (`ruleFault?_eq_some_iff`);
- matchers are built from the classes in a pass of their own; where no class is blank, the rules at fault are those with
  the matcher of no pattern (`Rule.hasFault_iff_never`).

`validate_names_first_fault` says all of it for every configuration.
-/

namespace FocusLayout.Config

/-- An entry of a list stands at its head, or further back with the head among the entries before it. -/
theorem exists_split_cons {α : Type} {a x : α} {rest : List α} {P : List α → Prop} :
    (∃ before after, a :: rest = before ++ x :: after ∧ P before) ↔
      (a = x ∧ P []) ∨ ∃ before after, rest = before ++ x :: after ∧ P (a :: before) := by
  constructor
  · rintro ⟨before, after, hsplit, hP⟩
    cases before with
    | nil => exact .inl ⟨(List.cons.inj hsplit).1, hP⟩
    | cons b before =>
      obtain ⟨rfl, hrest⟩ := List.cons.inj hsplit
      exact .inr ⟨before, after, hrest, hP⟩
  · rintro (⟨rfl, hP⟩ | ⟨before, after, rfl, hP⟩)
    · exact ⟨[], rest, rfl, hP⟩
    · exact ⟨a :: before, after, rfl, hP⟩

/-! ## Repeated groups -/

section Repeated

variable {seen rest cycle : List Nat} {g : Nat}

theorem repeated?_cons_of_mem (hg : g ∈ seen) : repeated? seen (g :: rest) = some g := by
  simp [repeated?, hg]

theorem repeated?_cons_of_not_mem (hg : g ∉ seen) : repeated? seen (g :: rest) = repeated? (g :: seen) rest := by
  simp [repeated?, hg]

/-- Different entries in front of unseen ones are different from each other and unseen. -/
theorem nodup_unseen_cons_iff :
    (g :: cycle).Nodup ∧ (∀ x ∈ g :: cycle, x ∉ seen) ↔
      g ∉ seen ∧ cycle.Nodup ∧ ∀ x ∈ cycle, x ∉ g :: seen := by
  rw [List.nodup_cons, List.forall_mem_cons]
  simp only [List.mem_cons, not_or]
  constructor
  · rintro ⟨⟨hnot, hnodup⟩, hg, hrest⟩
    exact ⟨hg, hnodup, fun x hx => ⟨fun heq => hnot (heq ▸ hx), hrest x hx⟩⟩
  · rintro ⟨hg, hnodup, hrest⟩
    exact ⟨⟨fun hmem => (hrest g hmem).1 rfl, hnodup⟩, hg, fun x hx => (hrest x hx).2⟩

/-- Nothing is repeated if the entries are all different, from each other and from what has been seen. -/
theorem repeated?_eq_none_iff : repeated? seen cycle = none ↔ cycle.Nodup ∧ ∀ g ∈ cycle, g ∉ seen := by
  induction cycle generalizing seen with
  | nil => simp [repeated?]
  | cons g rest ih =>
    rw [nodup_unseen_cons_iff]
    by_cases hg : g ∈ seen
    · simp [repeated?_cons_of_mem hg, hg]
    · rw [repeated?_cons_of_not_mem hg, ih, and_iff_right hg]

/-- What is repeated has been seen, or stands before itself; everything before it is different. -/
theorem repeated?_eq_some_iff :
    repeated? seen cycle = some g ↔
      ∃ before after, cycle = before ++ g :: after ∧ (before.Nodup ∧ ∀ x ∈ before, x ∉ seen) ∧
        (g ∈ seen ∨ g ∈ before) := by
  induction cycle generalizing seen with
  | nil => simp [repeated?]
  | cons a rest ih =>
    rw [exists_split_cons]
    simp only [nodup_unseen_cons_iff]
    by_cases ha : a ∈ seen
    · rw [repeated?_cons_of_mem ha]
      constructor
      · rintro ⟨⟩
        exact .inl ⟨rfl, ⟨List.nodup_nil, List.forall_mem_nil _⟩, .inl ha⟩
      · rintro (⟨rfl, -⟩ | ⟨-, -, -, ⟨hnot, -⟩, -⟩)
        · rfl
        · exact absurd ha hnot
    · rw [repeated?_cons_of_not_mem ha, ih]
      constructor
      · rintro ⟨before, after, hsplit, hdifferent, hg⟩
        exact .inr ⟨before, after, hsplit, ⟨ha, hdifferent⟩, by simpa [or_left_comm, or_assoc] using hg⟩
      · rintro (⟨rfl, -, hg⟩ | ⟨before, after, hsplit, ⟨-, hdifferent⟩, hg⟩)
        · simp [ha] at hg
        · exact ⟨before, after, hsplit, hdifferent, by simpa [or_left_comm, or_assoc] using hg⟩

end Repeated

/-! ## Rules at fault -/

/-- What is wrong with a rule that has this number. Blanks are not taken for a pattern. -/
inductive Rule.HasFault (r : Rule) (number : Nat) : Fault → Prop
  | blank {source : String} : source ∈ r.className → (∀ char ∈ source.toList, Text.isBlank char = true) →
      r.HasFault number (.blankClass number)
  | bad {source : String} : source ∈ r.className → (∃ char ∈ source.toList, Text.isBlank char = false) →
      Pattern.compile? source = none → r.HasFault number (.badPattern number)

theorem Rule.fault?_eq_some_iff {r : Rule} {number : Nat} {fault : Fault} :
    r.fault? number = some fault ↔ r.HasFault number fault := by
  unfold fault?
  constructor
  · intro h
    cases hclass : r.className with
    | none => simp [hclass] at h
    | some source =>
      simp only [hclass] at h
      split at h <;> rename_i hblank
      · cases h
        exact .blank hclass (Text.isBlankString_iff.mp hblank)
      split at h <;> rename_i hcompiled
      · cases h
        have hsome := Text.isBlankString_eq_false_iff.mp (Bool.eq_false_iff.mpr hblank)
        exact .bad hclass hsome (Option.isNone_iff_eq_none.mp hcompiled)
      · cases h
  · rintro (⟨hclass, hblank⟩ | ⟨hclass, hblank, hcompiled⟩)
    · simp [Option.mem_def.mp hclass, Text.isBlankString_iff.mpr hblank]
    · simp [Option.mem_def.mp hclass, Text.isBlankString_eq_false_iff.mpr hblank, hcompiled]

theorem ruleFault?_cons_of_sound {r : Rule} {rest : List Rule} {number : Nat} (h : r.Sound) :
    ruleFault? number (r :: rest) = ruleFault? (number + 1) rest := by
  rw [ruleFault?, Rule.fault?_eq_none_iff.mpr h, Option.none_or]

theorem ruleFault?_cons_of_hasFault {r : Rule} {rest : List Rule} {number : Nat} {fault : Fault}
    (h : r.HasFault number fault) : ruleFault? number (r :: rest) = some fault := by
  rw [ruleFault?, Rule.fault?_eq_some_iff.mpr h, Option.some_or]

/-- A rule is sound or at fault. -/
theorem Rule.sound_or_hasFault (r : Rule) (number : Nat) : r.Sound ∨ ∃ fault, r.HasFault number fault := by
  cases h : r.fault? number with
  | none => exact .inl (fault?_eq_none_iff.mp h)
  | some fault => exact .inr ⟨fault, fault?_eq_some_iff.mp h⟩

theorem Rule.HasFault.not_sound {r : Rule} {number : Nat} {fault : Fault} (h : r.HasFault number fault) :
    ¬r.Sound := by
  intro hsound
  cases (fault?_eq_some_iff.mpr h).symm.trans (fault?_eq_none_iff.mpr hsound)

/-- The fault of some rules is that of the first one that is not sound, under its number. -/
theorem ruleFault?_eq_some_iff {rules : List Rule} {number : Nat} {fault : Fault} :
    ruleFault? number rules = some fault ↔
      ∃ r before after, rules = before ++ r :: after ∧ (∀ q ∈ before, q.Sound) ∧
        r.HasFault (number + before.length) fault := by
  induction rules generalizing number with
  | nil => simp [ruleFault?]
  | cons r rest ih =>
    simp only [exists_split_cons]
    have hnumber (before : List Rule) : number + (r :: before).length = number + 1 + before.length := by
      rw [List.length_cons]
      omega
    rcases r.sound_or_hasFault number with hsound | ⟨found, hfound⟩
    · rw [ruleFault?_cons_of_sound hsound, ih]
      constructor
      · rintro ⟨q, before, after, hsplit, hbefore, hq⟩
        exact ⟨q, .inr ⟨before, after, hsplit, List.forall_mem_cons.mpr ⟨hsound, hbefore⟩, hnumber before ▸ hq⟩⟩
      · rintro ⟨q, ⟨rfl, -, hq⟩ | ⟨before, after, hsplit, hbefore, hq⟩⟩
        · exact absurd hsound hq.not_sound
        · exact ⟨q, before, after, hsplit, (List.forall_mem_cons.mp hbefore).2, hnumber before ▸ hq⟩
    · rw [ruleFault?_cons_of_hasFault hfound]
      constructor
      · rintro ⟨⟩
        exact ⟨r, .inl ⟨rfl, List.forall_mem_nil _, hfound⟩⟩
      · rintro ⟨q, ⟨rfl, -, hq⟩ | ⟨before, after, hsplit, hbefore, -⟩⟩
        · exact (Rule.fault?_eq_some_iff.mpr hfound).symm.trans (Rule.fault?_eq_some_iff.mpr hq)
        · exact absurd (hbefore r List.mem_cons_self) hfound.not_sound

/-! ## The first fault -/

/-- Everything but the rules is as it should be. -/
structure Settled (c : Config) : Prop where
  level : c.logging.level ∈ levels
  format : c.logging.format ∈ formats
  interval : shortestInterval ≤ c.watch.pollingIntervalMs
  cycle : c.layout.cycle.Nodup

/-- The first condition that a configuration violates, in the order of the check. Of a rotation the earliest entry that
equals one before it counts, and of the rules the first one that is not sound. -/
inductive FirstFault (c : Config) : Fault → Prop
  | level : c.logging.level ∉ levels → c.FirstFault (.unknownLevel c.logging.level)
  | format : c.logging.level ∈ levels → c.logging.format ∉ formats → c.FirstFault (.unknownFormat c.logging.format)
  | interval : c.logging.level ∈ levels → c.logging.format ∈ formats →
      c.watch.pollingIntervalMs < shortestInterval → c.FirstFault .intervalTooShort
  | cycle {before after : List Nat} {g : Nat} : c.logging.level ∈ levels → c.logging.format ∈ formats →
      shortestInterval ≤ c.watch.pollingIntervalMs → c.layout.cycle = before ++ g :: after → before.Nodup →
      g ∈ before → c.FirstFault (.repeatedGroup g)
  | rule {before after : List Rule} {r : Rule} {fault : Fault} : c.Settled → c.rules = before ++ r :: after →
      (∀ q ∈ before, q.Sound) → r.HasFault (before.length + 1) fault → c.FirstFault fault

section First

variable {c : Config} {fault : Fault}

theorem repeated?_cycle_eq_none_iff : repeated? [] c.layout.cycle = none ↔ c.layout.cycle.Nodup := by
  simp [repeated?_eq_none_iff]

theorem settled_and_sound_iff : c.fault? = none ↔ c.Settled ∧ ∀ r ∈ c.rules, r.Sound := by
  rw [fault?_eq_none_iff, repeated?_cycle_eq_none_iff, ruleFault?_eq_none_iff]
  constructor
  · rintro ⟨hlevel, hformat, hinterval, hcycle, hrules⟩
    exact ⟨⟨hlevel, hformat, hinterval, hcycle⟩, hrules⟩
  · rintro ⟨⟨hlevel, hformat, hinterval, hcycle⟩, hrules⟩
    exact ⟨hlevel, hformat, hinterval, hcycle, hrules⟩

/-- Where everything else is as it should be, the check comes to the rules. -/
theorem Settled.fault?_eq (h : c.Settled) : c.fault? = ruleFault? 1 c.rules := by
  unfold fault?
  simp [h.level, h.format, Nat.not_lt.mpr h.interval, repeated?_cycle_eq_none_iff.mpr h.cycle]

/-- A configuration without a first fault is as it should be. -/
theorem settled_and_sound_or_firstFault (c : Config) :
    (c.Settled ∧ ∀ r ∈ c.rules, r.Sound) ∨ ∃ fault, c.FirstFault fault := by
  by_cases hlevel : c.logging.level ∈ levels
  case neg => exact .inr ⟨_, .level hlevel⟩
  by_cases hformat : c.logging.format ∈ formats
  case neg => exact .inr ⟨_, .format hlevel hformat⟩
  rcases Nat.lt_or_ge c.watch.pollingIntervalMs shortestInterval with hshort | hinterval
  · exact .inr ⟨_, .interval hlevel hformat hshort⟩
  cases hcycle : repeated? [] c.layout.cycle with
  | some g =>
    obtain ⟨before, after, hsplit, ⟨hnodup, -⟩, hg⟩ := repeated?_eq_some_iff.mp hcycle
    exact .inr ⟨_, .cycle hlevel hformat hinterval hsplit hnodup (hg.resolve_left List.not_mem_nil)⟩
  | none =>
    have hsettled : c.Settled := ⟨hlevel, hformat, hinterval, repeated?_cycle_eq_none_iff.mp hcycle⟩
    cases hrules : ruleFault? 1 c.rules with
    | none => exact .inl ⟨hsettled, ruleFault?_eq_none_iff.mp hrules⟩
    | some fault =>
      obtain ⟨r, before, after, hsplit, hbefore, hr⟩ := ruleFault?_eq_some_iff.mp hrules
      exact .inr ⟨fault, .rule hsettled hsplit hbefore (Nat.add_comm .. ▸ hr)⟩

/-- The first fault is found. -/
theorem FirstFault.fault?_eq (h : c.FirstFault fault) : c.fault? = some fault := by
  cases h with
  | level hlevel => simp [fault?, hlevel]
  | format hlevel hformat => simp [fault?, hlevel, hformat]
  | interval hlevel hformat hshort => simp [fault?, hlevel, hformat, hshort]
  | @cycle before after g hlevel hformat hinterval hsplit hnodup hg =>
    have hcycle : repeated? [] c.layout.cycle = some g :=
      repeated?_eq_some_iff.mpr ⟨before, after, hsplit, ⟨hnodup, by simp⟩, .inr hg⟩
    simp [fault?, hlevel, hformat, Nat.not_lt.mpr hinterval, hcycle]
  | @rule before after r fault hsettled hsplit hbefore hr =>
    rw [hsettled.fault?_eq]
    exact ruleFault?_eq_some_iff.mpr ⟨r, before, after, hsplit, hbefore, Nat.add_comm .. ▸ hr⟩

theorem fault?_eq_some_iff : c.fault? = some fault ↔ c.FirstFault fault := by
  refine ⟨fun h => ?_, FirstFault.fault?_eq⟩
  rcases settled_and_sound_or_firstFault c with hgood | ⟨first, hfirst⟩
  · cases h.symm.trans (settled_and_sound_iff.mpr hgood)
  · obtain rfl := Option.some.inj (h.symm.trans hfirst.fault?_eq)
    exact hfirst

theorem validate_eq_error_iff : c.validate = .error fault ↔ c.FirstFault fault := by
  rw [← fault?_eq_some_iff]
  unfold validate
  cases c.fault? <;> simp

/-- Where everything else is as it should be, the first fault is that of the first rule that is not sound. -/
theorem Settled.firstFault_iff (h : c.Settled) :
    c.FirstFault fault ↔
      ∃ r before after, c.rules = before ++ r :: after ∧ (∀ q ∈ before, q.Sound) ∧
        r.HasFault (before.length + 1) fault := by
  constructor
  · intro hfault
    cases hfault with
    | level hlevel => exact absurd h.level hlevel
    | format _ hformat => exact absurd h.format hformat
    | interval _ _ hshort => exact absurd h.interval (Nat.not_le.mpr hshort)
    | cycle _ _ _ hsplit _ hg =>
      have hnodup := h.cycle
      rw [hsplit, List.nodup_append] at hnodup
      exact absurd rfl (hnodup.2.2 _ hg _ List.mem_cons_self)
    | rule _ hsplit hbefore hr => exact ⟨_, _, _, hsplit, hbefore, hr⟩
  · rintro ⟨r, before, after, hsplit, hbefore, hr⟩
    exact .rule h hsplit hbefore hr

end First

/-! ## Matchers of no pattern -/

theorem Matcher.ofClass_eq_never_iff {className : Option String} :
    ofClass className = .never ↔ ∃ source ∈ className, Pattern.compile? source = none := by
  unfold ofClass
  cases className with
  | none => simp
  | some source => cases hcompiled : Pattern.compile? source <;> simp [hcompiled]

/-- A rule whose class is not blank is at fault just if it has the matcher of no pattern. -/
theorem Rule.hasFault_iff_never {r : Rule} {number : Nat} {fault : Fault}
    (h : ∀ source ∈ r.className, ∃ char ∈ source.toList, Text.isBlank char = false) :
    r.HasFault number fault ↔ Matcher.ofClass r.className = .never ∧ fault = .badPattern number := by
  rw [Matcher.ofClass_eq_never_iff]
  constructor
  · rintro (⟨hclass, hblank⟩ | ⟨hclass, -, hcompiled⟩)
    · obtain ⟨char, hchar, hnot⟩ := h _ hclass
      exact absurd (hblank char hchar) (Bool.eq_false_iff.mp hnot)
    · exact ⟨⟨_, hclass, hcompiled⟩, rfl⟩
  · rintro ⟨⟨source, hclass, hcompiled⟩, rfl⟩
    exact .bad hclass (h source hclass) hcompiled

theorem Rule.sound_iff_not_never {r : Rule}
    (h : ∀ source ∈ r.className, ∃ char ∈ source.toList, Text.isBlank char = false) :
    r.Sound ↔ Matcher.ofClass r.className ≠ .never := by
  rw [Ne, Matcher.ofClass_eq_never_iff]
  constructor
  · rintro hsound ⟨source, hclass, hcompiled⟩
    exact absurd (hsound source hclass).2 (by simp [hcompiled])
  · intro hnever source hclass
    refine ⟨h source hclass, Option.isSome_iff_ne_none.mpr fun hcompiled => hnever ⟨source, hclass, hcompiled⟩⟩

/-- Where no class is blank, the first rule at fault is the one with the first matcher of no pattern. -/
theorem Settled.firstFault_iff_never {c : Config} {fault : Fault} (h : c.Settled)
    (hblank : ∀ r ∈ c.rules, ∀ source ∈ r.className, ∃ char ∈ source.toList, Text.isBlank char = false) :
    c.FirstFault fault ↔
      ∃ before after, c.indexed.matchers = before ++ .never :: after ∧ .never ∉ before ∧
        fault = .badPattern (before.length + 1) := by
  rw [h.firstFault_iff, matchers_indexed]
  constructor
  · rintro ⟨r, before, after, hsplit, hbefore, hr⟩
    rw [hsplit] at hblank
    obtain ⟨hnever, rfl⟩ := (Rule.hasFault_iff_never (hblank r (by simp))).mp hr
    refine ⟨before.map fun r => Matcher.ofClass r.className, after.map fun r => Matcher.ofClass r.className, ?_, ?_, ?_⟩
    · rw [hsplit, List.map_append, List.map_cons, hnever]
    · rw [List.mem_map]
      rintro ⟨q, hq, hqnever⟩
      exact (Rule.sound_iff_not_never (hblank q (by simp [hq]))).mp (hbefore q hq) hqnever
    · rw [List.length_map]
  · rintro ⟨before, after, hsplit, hbefore, rfl⟩
    obtain ⟨before, rest, hrules, rfl, hrest⟩ := List.map_eq_append_iff.mp hsplit
    obtain ⟨r, after, rfl, hnever, rfl⟩ := List.map_eq_cons_iff.mp hrest
    rw [hrules] at hblank
    refine ⟨r, before, after, hrules, fun q hq => ?_, ?_⟩
    · refine (Rule.sound_iff_not_never (hblank q (by simp [hq]))).mpr fun hqnever => hbefore ?_
      exact List.mem_map.mpr ⟨q, hq, hqnever⟩
    · rw [List.length_map]
      exact (Rule.hasFault_iff_never (hblank r (by simp))).mpr ⟨hnever, rfl⟩

/-- **The check accepts the good configurations and names the first fault of the others.** A configuration passes if
its level is one of five, its format one of two, its interval at least 50, no group stands twice in its rotation, and
every class is a pattern that is not blank. Any other fails with its first fault in that order. If only patterns can be
at fault, it fails just if some class gets the matcher of no pattern, and under the number of the first such matcher. -/
theorem validate_names_first_fault (c : Config) :
    (c.validate = .ok () ↔
      c.logging.level ∈ ["trace", "debug", "info", "warn", "error"] ∧ c.logging.format ∈ ["pretty", "compact"] ∧
        50 ≤ c.watch.pollingIntervalMs ∧ c.layout.cycle.Nodup ∧ ∀ r ∈ c.rules, r.Sound) ∧
    (∀ fault, c.validate = .error fault ↔ c.FirstFault fault) ∧
    (c.Settled → (∀ r ∈ c.rules, ∀ source ∈ r.className, ∃ char ∈ source.toList, Text.isBlank char = false) →
      ((∃ fault, c.validate = .error fault) ↔ .never ∈ c.indexed.matchers) ∧
        ∀ fault, c.validate = .error fault ↔
          ∃ before after, c.indexed.matchers = before ++ .never :: after ∧ .never ∉ before ∧
            fault = .badPattern (before.length + 1)) := by
  have hok : c.validate = .ok () ↔ c.Settled ∧ ∀ r ∈ c.rules, r.Sound :=
    validate_eq_ok_iff.trans settled_and_sound_iff
  have hblame : ∀ fault, c.validate = .error fault ↔ c.FirstFault fault := fun fault => validate_eq_error_iff
  refine ⟨hok.trans ?_, hblame, fun hsettled hblank => ⟨?_, fun fault => ?_⟩⟩
  · constructor
    · rintro ⟨⟨hlevel, hformat, hinterval, hcycle⟩, hrules⟩
      exact ⟨hlevel, hformat, hinterval, hcycle, hrules⟩
    · rintro ⟨hlevel, hformat, hinterval, hcycle, hrules⟩
      exact ⟨⟨hlevel, hformat, hinterval, hcycle⟩, hrules⟩
  · simp only [hblame, hsettled.firstFault_iff_never hblank]
    constructor
    · rintro ⟨fault, before, after, hsplit, -, -⟩
      rw [hsplit]
      exact List.mem_append_right _ List.mem_cons_self
    · intro hnever
      obtain ⟨before, after, hsplit, hbefore⟩ := List.eq_append_cons_of_mem hnever
      exact ⟨_, before, after, hsplit, hbefore, rfl⟩
  · exact (hblame fault).trans (hsettled.firstFault_iff_never hblank)

/-- A rule for every window has a number too, and of two bad rules the first one counts. -/
theorem validate_names_first_fault_unclosed :
    validate { default with rules := [⟨none, 0⟩, ⟨some "(", 1⟩, ⟨some "[", 2⟩] } = .error (.badPattern 2) := by
  have hsettled : Settled { default with rules := [⟨none, 0⟩, ⟨some "(", 1⟩, ⟨some "[", 2⟩] } :=
    ⟨by decide, by decide, by decide, by decide⟩
  have hblank : ∀ r ∈ ([⟨none, 0⟩, ⟨some "(", 1⟩, ⟨some "[", 2⟩] : List Rule), ∀ source ∈ r.className,
      Text.isBlankString source = false := by decide
  have law := (validate_names_first_fault _).2.2 hsettled fun r hr source hsource =>
    Text.isBlankString_eq_false_iff.mp (hblank r hr source hsource)
  exact (law.2 _).mpr ⟨[.any], [.never], rfl, by simp, rfl⟩

end FocusLayout.Config
