import FocusLayout.Pattern.Basic
import FocusLayout.Text.Blank
import FocusLayout.Window

/-!
# Configurations

`Config` holds the settings and, beside the rules, the matchers built from them. `Config.layoutFor` is the layout for
a window: that of the first rule whose matcher accepts it, else the default one.

- `Config.indexed` builds the matchers, one for each rule (`matchers_indexed`), and changes nothing else;
- `Matcher.accepts`: a window without a class is accepted only by a rule without a class.
-/

namespace FocusLayout

namespace Config

/-- How and what to log; `filter` is a log filter, or blank for the program's own lines at `level`. -/
structure Logging where
  level : String
  format : String
  filter : String
  deriving DecidableEq, Repr

/-- Which X display to use; without a name the environment's. -/
structure Display where
  name : Option String
  deriving DecidableEq, Repr

/-- The groups to rotate through; none for all known ones. -/
structure Layout where
  cycle : List Nat
  deriving DecidableEq, Repr

/-- How often to look at the focus, and the layout for windows without a rule. -/
structure Watch where
  pollingIntervalMs : Nat
  defaultLayout : Option Nat
  deriving DecidableEq, Repr

/-- The layout for windows whose class fits a pattern, or for every window. -/
structure Rule where
  className : Option String
  layout : Nat
  deriving DecidableEq, Repr

/-- What a rule's class has become. -/
inductive Matcher where
  /-- The rule is for every window. -/
  | any
  /-- The rule is for windows whose instance or class the pattern is found in. -/
  | pattern (p : Pattern)
  /-- The rule's class is no pattern. -/
  | never

namespace Matcher

/-- The matcher for a rule's class. -/
def ofClass : Option String → Matcher
  | none => any
  | some source =>
    match Pattern.compile? source with
    | some p => pattern p
    | none => never

/-- Whether a window fits. -/
def accepts (m : Matcher) (w : Window) : Bool :=
  match m with
  | any => true
  | pattern p => !w.isUnnamed && (p.isIn w.instanceName || p.isIn w.className)
  | never => false

end Matcher

end Config

/-- The settings of the program and the matchers of its rules. -/
structure Config where
  logging : Config.Logging
  display : Config.Display
  layout : Config.Layout
  watch : Config.Watch
  rules : List Config.Rule
  matchers : List Config.Matcher

namespace Config

/-- The settings that hold where nothing is said. -/
def default : Config where
  logging := ⟨"info", "compact", ""⟩
  display := ⟨none⟩
  layout := ⟨[]⟩
  watch := ⟨250, none⟩
  rules := []
  matchers := []

/-- The configuration with the matchers of its rules. -/
def indexed (c : Config) : Config :=
  { c with matchers := c.rules.map fun r => Matcher.ofClass r.className }

@[simp] theorem matchers_indexed (c : Config) :
    c.indexed.matchers = c.rules.map fun r => Matcher.ofClass r.className := rfl

/-- The layout for a window. -/
def layoutFor (c : Config) (w : Window) : Option Nat :=
  (((c.matchers.zip c.rules).find? fun entry => entry.1.accepts w).map fun entry => entry.2.layout).or
    c.watch.defaultLayout

/-- The log filter to use when the command line gives none. -/
def logDirective (c : Config) : String :=
  if Text.isBlankString c.logging.filter then "xswitch=" ++ c.logging.level else c.logging.filter

end Config

end FocusLayout
