import FocusLayout.Step

/-!
# The desktop session

`Session.check` decides whether there is an X display to connect to: the configured one, else the one that the
environment names. A Wayland session is only warned about.
-/

namespace FocusLayout

/-- The kind of session the program runs in. -/
inductive Session where
  | x11
  | wayland
  | unknown
  deriving DecidableEq, Repr

namespace Session

/-- The name of a kind of session. -/
def name : Session → String
  | x11 => "X11"
  | wayland => "Wayland"
  | unknown => "Unknown"

/-- The session that the environment declares, in any letter case. Only ASCII letters can spell the two names, so
ASCII lower case decides. -/
def ofDeclared (value : Option String) : Session :=
  match value.map fun v => String.ofList (v.toList.map Char.toLower) with
  | some "x11" => x11
  | some "wayland" => wayland
  | _ => unknown

/-- The display to use: the configured one, else the environment's unless that is empty. -/
def display? (configured environment : Option String) : Option String :=
  configured.or (environment.filter (!·.isEmpty))

/-- Checks that there is a display to connect to, and says which. -/
def check {S : Type} (configured declared environment : Option String) : Step S Session := do
  let session := ofDeclared declared
  Step.say .info .session s!"Тип сессии: {session.name}"
  if session = wayland then
    Step.say .warn .session
      "Сессия Wayland: видны только окна XWayland, раскладку может перехватить композитор"
  match display? configured environment with
  | some name =>
    Step.say .info .session s!"Используется дисплей {name}"
    return session
  | none =>
    Step.fail (.displayUnavailable "переменная DISPLAY не задана и display.name не указан в конфигурации")

end Session

end FocusLayout
