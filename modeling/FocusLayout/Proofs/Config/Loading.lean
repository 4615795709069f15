import FocusLayout.Config.Load
import Mathlib.Data.List.Forall2

/-!
# What a loaded configuration promises

`Config.load` checks the rules and then builds their matchers, each time from the classes alone. So what the check lets
through is what the matchers are built from:

- a configuration without faults has sound rules only (`sound_of_validate`), and the matcher of a sound rule stands for
  it (`standsFor_ofClass`), so it is never the one for a class that is no pattern;
- where the matchers stand for the rules one by one (`Indexed`), the layout for a window is that of the first rule that
  covers it (`Indexed.layoutFor_eq`).

`load_valid_indexed` puts both together for every file and environment.
-/

namespace FocusLayout.Config

/-! ## Sound rules -/

/-- A rule whose class, if it has one, is a pattern and not blank. -/
def Rule.Sound (r : Rule) : Prop :=
  ∀ source ∈ r.className, (∃ char ∈ source.toList, Text.isBlank char = false) ∧ (Pattern.compile? source).isSome

/-- The rules without fault are the sound ones, whatever their numbers. -/
theorem Rule.fault?_eq_none_iff {number : Nat} {r : Rule} : r.fault? number = none ↔ r.Sound := by
  unfold fault? Sound
  simp only [← Text.isBlankString_eq_false_iff]
  cases r.className with
  | none => simp
  | some source =>
    cases hblank : Text.isBlankString source <;> cases hcompiled : Pattern.compile? source <;>
      simp [hblank, hcompiled]

theorem ruleFault?_eq_none_iff {number : Nat} {rules : List Rule} :
    ruleFault? number rules = none ↔ ∀ r ∈ rules, r.Sound := by
  induction rules generalizing number with
  | nil => simp [ruleFault?]
  | cons r rest ih =>
    unfold ruleFault?
    rw [Option.or_eq_none_iff, Rule.fault?_eq_none_iff, ih, List.forall_mem_cons]

theorem validate_eq_ok_iff {c : Config} : c.validate = .ok () ↔ c.fault? = none := by
  unfold validate
  cases c.fault? <;> simp

/-- A configuration without faults passes all five checks. -/
theorem fault?_eq_none_iff {c : Config} :
    c.fault? = none ↔
      c.logging.level ∈ levels ∧ c.logging.format ∈ formats ∧ shortestInterval ≤ c.watch.pollingIntervalMs ∧
        repeated? [] c.layout.cycle = none ∧ ruleFault? 1 c.rules = none := by
  unfold fault?
  split <;> rename_i hlevel
  · simp_all
  split <;> rename_i hformat
  · simp_all
  split <;> rename_i hinterval
  · simp [Nat.not_le.mpr hinterval]
  · simp_all

theorem sound_of_validate {c : Config} (h : c.validate = .ok ()) : ∀ r ∈ c.rules, r.Sound := by
  obtain ⟨-, -, -, -, hrules⟩ := fault?_eq_none_iff.mp (validate_eq_ok_iff.mp h)
  exact ruleFault?_eq_none_iff.mp hrules

/-- No validated configuration polls more often than allowed. -/
theorem shortestInterval_le_of_validate {c : Config} (h : c.validate = .ok ()) :
    shortestInterval ≤ c.watch.pollingIntervalMs := by
  obtain ⟨-, -, hinterval, -, -⟩ := fault?_eq_none_iff.mp (validate_eq_ok_iff.mp h)
  exact hinterval

/-! ## Matchers -/

/-- A matcher is what it should be for a rule: the one for every window just if the rule has no class, and the pattern
that the class compiles to if it has one. -/
structure Matcher.StandsFor (m : Matcher) (r : Rule) : Prop where
  any_iff : m = .any ↔ r.className = none
  pattern_of : ∀ source ∈ r.className, ∃ p, Pattern.compile? source = some p ∧ m = .pattern p

theorem standsFor_ofClass {r : Rule} (h : r.Sound) : (Matcher.ofClass r.className).StandsFor r := by
  unfold Matcher.ofClass
  cases hclass : r.className with
  | none => exact ⟨by simp [hclass], by simp [hclass]⟩
  | some source =>
    obtain ⟨p, hp⟩ := Option.isSome_iff_exists.mp (h source hclass).2
    constructor <;> simp [hclass, hp]

/-- A rule is for a window: it has no class, or the window has an instance or a class and the pattern is found in one
of them. -/
def Rule.Covers (r : Rule) (w : Window) : Prop :=
  ∀ source ∈ r.className, (w.instanceName ≠ "" ∨ w.className ≠ "") ∧
    ∃ p ∈ Pattern.compile? source, p.isIn w.instanceName = true ∨ p.isIn w.className = true

instance (r : Rule) (w : Window) : Decidable (r.Covers w) :=
  inferInstanceAs (Decidable (∀ source ∈ r.className, _ ∧ ∃ p ∈ Pattern.compile? source, _))

/-- The matcher that stands for a rule accepts the windows that the rule covers. -/
theorem Matcher.StandsFor.accepts_iff {m : Matcher} {r : Rule} (h : m.StandsFor r) (w : Window) :
    m.accepts w = true ↔ r.Covers w := by
  unfold Rule.Covers
  cases hclass : r.className with
  | none =>
    obtain rfl := h.any_iff.mpr hclass
    simp [accepts]
  | some source =>
    obtain ⟨p, hp, rfl⟩ := h.pattern_of source hclass
    simp [accepts, Window.isUnnamed, hp, ← not_and_or]

theorem Matcher.StandsFor.ne_never {m : Matcher} {r : Rule} (h : m.StandsFor r) : m ≠ .never := by
  rintro rfl
  cases hclass : r.className with
  | none => exact absurd (h.any_iff.mpr hclass) nofun
  | some source =>
    obtain ⟨p, -, hp⟩ := h.pattern_of source hclass
    exact absurd hp nofun

/-- The matchers stand for the rules, one by one. -/
def Indexed (c : Config) : Prop :=
  List.Forall₂ Matcher.StandsFor c.matchers c.rules

theorem indexed_of_sound {c : Config} (h : ∀ r ∈ c.rules, r.Sound) : c.indexed.Indexed := by
  unfold Indexed
  rw [matchers_indexed, List.forall₂_map_left_iff]
  exact List.forall₂_same.mpr fun r hr => standsFor_ofClass (h r hr)

/-! ## Layouts -/

/-- A rule is the first one in a configuration that covers a window. -/
def FirstFor (c : Config) (w : Window) (r : Rule) : Prop :=
  r.Covers w ∧ ∃ before after, c.rules = before ++ r :: after ∧ ∀ q ∈ before, ¬q.Covers w

/-- The search among matchers beside rules is one among the rules. -/
theorem find?_zip {matchers : List Matcher} {rules : List Rule} (h : List.Forall₂ Matcher.StandsFor matchers rules)
    (w : Window) :
    ((matchers.zip rules).find? fun entry => entry.1.accepts w).map Prod.snd =
      rules.find? fun r => decide (r.Covers w) := by
  induction h with
  | nil => rfl
  | @cons m r matchers rules hr _ ih =>
    rw [List.zip_cons_cons, List.find?_cons, List.find?_cons]
    have haccepts : m.accepts w = decide (r.Covers w) := Bool.eq_iff_iff.mpr (by simp [hr.accepts_iff])
    dsimp only
    rw [haccepts]
    cases decide (r.Covers w) with
    | true => rfl
    | false => exact ih

namespace Indexed

variable {c : Config} (h : c.Indexed)
include h

theorem never_not_mem : Matcher.never ∉ c.matchers := by
  intro hm
  obtain ⟨i, hi, hget⟩ := List.getElem_of_mem hm
  have hstands := (List.forall₂_iff_get.mp h).2 i hi (h.length_eq ▸ hi)
  exact hstands.ne_never hget

theorem layoutFor_eq (w : Window) :
    c.layoutFor w = ((c.rules.find? fun r => decide (r.Covers w)).map Rule.layout).or c.watch.defaultLayout := by
  unfold layoutFor
  rw [← find?_zip h, Option.map_map]
  rfl

theorem layoutFor_first {w : Window} {r : Rule} (hr : c.FirstFor w r) : c.layoutFor w = some r.layout := by
  obtain ⟨hcovers, before, after, hsplit, hbefore⟩ := hr
  have hfind : (c.rules.find? fun r => decide (r.Covers w)) = some r :=
    List.find?_eq_some_iff_append.mpr ⟨decide_eq_true hcovers, before, after, hsplit, by simpa using hbefore⟩
  rw [h.layoutFor_eq, hfind]
  rfl

theorem layoutFor_default {w : Window} (hnone : ∀ r ∈ c.rules, ¬r.Covers w) :
    c.layoutFor w = c.watch.defaultLayout := by
  have hfind : (c.rules.find? fun r => decide (r.Covers w)) = none :=
    List.find?_eq_none.mpr fun r hr => by simpa using hnone r hr
  rw [h.layoutFor_eq, hfind]
  rfl

end Indexed

/-! ## Loading -/

section Load

variable {file : Option (List UInt8)} {env : Environment} {e c : Config} {fault : Fault}

/-- The matchers do not count for the check. -/
theorem validate_indexed (c : Config) : c.indexed.validate = c.validate := rfl

/-- Settings that can be read are checked, and indexed if they are valid. -/
theorem load_of_extract_ok (h : extract file env = .ok e) :
    load file env = match e.validate with
      | .ok () => .ok e.indexed
      | .error fault => .error (.invalid fault) := by
  unfold load
  rw [h]
  rfl

theorem load_of_extract_error {cause : LoadError} (h : extract file env = .error cause) :
    load file env = .error cause := by
  unfold load
  rw [h]
  rfl

theorem fileEntries_ne_invalid : fileEntries file ≠ .error (.invalid fault) := by
  unfold fileEntries
  split
  · nofun
  · split <;> nofun

/-- Reading does not check. -/
theorem extract_ne_invalid : extract file env ≠ .error (.invalid fault) := by
  unfold extract
  cases hentries : fileEntries file with
  | error cause =>
    intro h
    obtain rfl := Except.error.inj h
    exact fileEntries_ne_invalid hentries
  | ok entries =>
    simp only [bind, Except.bind]
    split <;> nofun

theorem load_eq_ok_iff :
    load file env = .ok c ↔ ∃ e, extract file env = .ok e ∧ e.validate = .ok () ∧ e.indexed = c := by
  cases he : extract file env with
  | error cause => simp [load_of_extract_error he]
  | ok e =>
    rw [load_of_extract_ok he]
    cases hvalid : e.validate <;> simp [hvalid]

theorem load_eq_invalid_iff :
    load file env = .error (.invalid fault) ↔ ∃ e, extract file env = .ok e ∧ e.validate = .error fault := by
  cases he : extract file env with
  | error cause =>
    have hcause : cause ≠ .invalid fault := fun hcause => extract_ne_invalid (hcause ▸ he)
    simp [load_of_extract_error he, hcause]
  | ok e =>
    rw [load_of_extract_ok he]
    cases hvalid : e.validate <;> simp [hvalid]

end Load

/-- **Valid and indexed.** For every settings file, or none, and every environment: a configuration that is loaded has
no fault, and it is what file and environment say in everything but the matchers. These stand for the rules one by one,
none of them for a class that is no pattern, so the layout for a window is that of the first rule that covers it, or the
default one if no rule does. Where what they say has a fault, that is what loading gives. -/
theorem load_valid_indexed (file : Option (List UInt8)) (env : Environment) :
    (∀ c, load file env = .ok c →
      c.validate = .ok () ∧ (∃ e, extract file env = .ok e ∧ c = { e with matchers := c.matchers }) ∧
        c.Indexed ∧ Matcher.never ∉ c.matchers ∧
        ∀ w, (∀ r, c.FirstFor w r → c.layoutFor w = some r.layout) ∧
          ((∀ r ∈ c.rules, ¬r.Covers w) → c.layoutFor w = c.watch.defaultLayout)) ∧
      ∀ fault, load file env = .error (.invalid fault) ↔
        ∃ e, extract file env = .ok e ∧ e.validate = .error fault := by
  refine ⟨fun c hload => ?_, fun fault => load_eq_invalid_iff⟩
  obtain ⟨e, he, hvalid, rfl⟩ := load_eq_ok_iff.mp hload
  have hindexed : e.indexed.Indexed := indexed_of_sound (sound_of_validate hvalid)
  exact ⟨(validate_indexed e).trans hvalid, ⟨e, he, rfl⟩, hindexed, hindexed.never_not_mem,
    fun w => ⟨fun r => hindexed.layoutFor_first, hindexed.layoutFor_default⟩⟩

/-- A settings file with a rule for the windows of a class and one for all others. -/
def twoRules : List UInt8 :=
  Text.Utf8.encode "[[rules]]\nclass = \"^tg\"\nlayout = 1\n\n[[rules]]\nlayout = 0\n"

/-- Other rules in the environment, the first with a class that is no pattern. -/
def badRules : Environment := [("XSWITCH_RULES", "[{class=(,layout=1},{layout=0}]")]

theorem exists_ok_of_map {α β ε : Type} {x : Except ε α} {f : α → β} {b : β} (h : x.toOption.map f = some b) :
    ∃ a, x = .ok a ∧ f a = b := by
  cases x with
  | error _ => exact absurd h nofun
  | ok a => exact ⟨a, rfl, Option.some.inj h⟩

/-- A window is covered by its class or by its instance, and one that has neither by the rule for all. A class that is
no pattern is what loading stops at. -/
theorem load_valid_indexed_two_rules :
    (∃ c, load (some twoRules) [] = .ok c ∧ c.layoutFor ⟨1, "", "Tg", "tg"⟩ = some 1 ∧
      c.layoutFor ⟨2, "", "", ""⟩ = some 0) ∧
      load (some twoRules) badRules = .error (.invalid (.badPattern 1)) := by
  obtain ⟨c, hload, hrules⟩ : ∃ c, load (some twoRules) [] = .ok c ∧ c.rules = [⟨some "^tg", 1⟩, ⟨none, 0⟩] :=
    exists_ok_of_map (by decide +kernel)
  obtain ⟨e, he, hfault⟩ : ∃ e, extract (some twoRules) badRules = .ok e ∧ e.fault? = some (.badPattern 1) :=
    exists_ok_of_map (by decide +kernel)
  obtain ⟨-, -, -, -, hlayout⟩ := (load_valid_indexed (some twoRules) []).1 c hload
  refine ⟨⟨c, hload, (hlayout _).1 ⟨some "^tg", 1⟩ ⟨by decide +kernel, [], [⟨none, 0⟩], hrules, nofun⟩,
    (hlayout _).1 ⟨none, 0⟩ ⟨by decide +kernel, [⟨some "^tg", 1⟩], [], hrules, by decide +kernel⟩⟩, ?_⟩
  exact ((load_valid_indexed (some twoRules) badRules).2 _).mpr ⟨e, he, by rw [validate, hfault]⟩

end FocusLayout.Config
