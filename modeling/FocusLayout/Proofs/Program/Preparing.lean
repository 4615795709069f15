import FocusLayout.Program.Run

/-!
# Before a run

What a run needs to know beforehand does not come from the session: neither the display of the environment nor its kind
of session is looked at (`prepare_congr`). The command is the one that the command line names (`read_of_prepare_ok`).
-/

namespace FocusLayout.Program

open CommandLine (Invocation)

variable {env env' : Environment}

/-! ## The session -/

/-- The variables by which an environment tells of the session. -/
def sessionVariables : List String := ["DISPLAY", "XDG_SESSION_TYPE"]

/-- The environment without what it tells of the session. -/
def besideSession (env : Environment) : Environment :=
  env.filter fun v => !sessionVariables.contains v.1

theorem value?_besideSession {name : String} (h : name ∉ sessionVariables) :
    Environment.value? (besideSession env) name = env.value? name := by
  unfold Environment.value? Data.Pairs.lookup? besideSession
  rw [List.find?_filter]
  congr 2
  funext v
  by_cases hv : v.1 = name
  · simp [hv, h]
  · simp [hv]

/-- What an environment tells of the session sets nothing. -/
theorem settings_besideSession : Environment.settings (besideSession env) = env.settings := by
  have hnothing : ∀ name ∈ sessionVariables, Environment.settingOf name = none := by decide +kernel
  have hnone : ∀ v : String × String, v.1 ∈ sessionVariables → Environment.settingsOf v.1 v.2 = none := by
    intro v hv
    rw [Environment.settingsOf, hnothing v.1 hv]
    rfl
  unfold Environment.settings besideSession
  rw [List.filterMap_filter]
  congr 2
  funext v
  by_cases hv : v.1 ∈ sessionVariables
  · simp [hv, hnone v hv]
  · simp [hv]

/-- What a run needs to know is the same in environments that differ in the session only. -/
theorem prepare_congr (h : besideSession env = besideSession env') (file : String → Option (List UInt8))
    (words : List String) : prepare env file words = prepare env' file words := by
  have hsettings : env.settings = env'.settings := by
    rw [← settings_besideSession, h, settings_besideSession]
  have hfilter : env.value? "RUST_LOG" = env'.value? "RUST_LOG" := by
    rw [← value?_besideSession (by decide), h, value?_besideSession (by decide)]
  unfold prepare filterFor Config.load Config.extract Config.layers
  rw [hsettings, hfilter]

/-! ## The command line -/

/-- A plan has the command line that was given. -/
theorem read_of_prepare_ok {file : String → Option (List UInt8)} {words : List String} {plan : Plan}
    (h : prepare env file words = .ok plan) : CommandLine.read words = .ok plan.invocation := by
  unfold prepare at h
  cases hread : CommandLine.read words with
  | error stop => simp [hread] at h
  | ok invocation =>
    simp only [hread] at h
    split at h
    · cases h
    · split at h
      · cases h
      · obtain rfl := Except.ok.inj h
        rfl

/-- A command line that stops the program has no command. -/
theorem not_read_of_stop {file : String → Option (List UInt8)} {words : List String} {stop : CommandLine.Stop}
    (h : prepare env file words = .error (.stop stop)) (invocation : Invocation) :
    CommandLine.read words ≠ .ok invocation := by
  intro hread
  unfold prepare at h
  simp only [hread] at h
  split at h
  · cases h
  · split at h
    · cases h
    · cases h

end FocusLayout.Program
