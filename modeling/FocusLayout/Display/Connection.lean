import FocusLayout.Display.World
import FocusLayout.Text.Utf8

/-!
# Connections

A `Connection` is an address with the holder of its errors and the name it is shown by. Errors are known only from the
holder, so a request is run as `Connection.checked`: clear the holder, make the call, wait for the server, and read
the holder again. What is left in the holder when a connection closes belonged to no request.
-/

namespace FocusLayout.Display

/-- An open connection. -/
structure Connection where
  address : Address
  holder : Holder
  name : String
  deriving DecidableEq, Repr

namespace Connection

variable {σ α : Type} (lib : Library σ)

/-- The position of the first zero byte in a name. -/
def nulPosition? (name : String) : Option Nat :=
  (Text.Utf8.encode name).findIdx? (· == 0)

/-- How a display is shown; without a name it is the environment's. -/
def shownName (name : Option String) : String :=
  name.getD "$DISPLAY"

/-- Opens a connection and routes its errors to a holder of its own. -/
def «open» (name : Option String) : Step (World σ) Connection := do
  match name.bind nulPosition? with
  | some position =>
    Step.fail (.displayUnavailable
      s!"неверное имя дисплея: nul byte found in provided data at position: {position}")
  | none =>
    match ← Step.act (World.connect lib name) with
    | none => Step.fail (.displayUnavailable s!"XOpenDisplay({shownName name}) не удался")
    | some address =>
      let holder ← Step.act World.newHolder
      Step.update (World.reroute fun r => r.register address holder)
      Step.say .info .display s!"Подключено к X-дисплею {shownName name}"
      return ⟨address, holder, shownName name⟩

/-- The root window. -/
def root (c : Connection) : Step (World σ) WindowId := do
  return lib.root c.address (← Step.state).server

/-- Runs a call under the name of a request. It fails if an error arrives on the connection before the server has
answered everything. -/
def checked (c : Connection) (request : String) (call : World σ → α × World σ) : Step (World σ) α := do
  Step.update (World.reroute fun r => r.reset c.holder)
  let value ← Step.act call
  Step.act (World.sync lib c.address)
  let failed ← Step.act fun w =>
    let (failed, routes) := w.routes.take c.holder
    (failed, { w with routes := routes })
  if failed then
    Step.say .debug .display s!"Ошибка протокола X11 в {request} на {c.name}"
    Step.fail (.protocol request)
  else
    return value

/-- Sends a request and checks it. -/
def ask (c : Connection) (r : Request) : Step (World σ) r.Reply :=
  c.checked lib r.name (World.ask lib c.address r)

/-- Closes the connection. Its errors stay routed until the library is done with it. -/
def close (c : Connection) : Step (World σ) Unit := do
  Step.act (World.disconnect lib c.address)
  Step.update (World.reroute fun r => r.unregister c.address)
  if (← Step.state).routes.occurred c.holder then
    Step.say .debug .display s!"Непрочитанная ошибка протокола X11 на {c.name}"
  Step.say .debug .display s!"Соединение с {c.name} закрыто"

end Connection

end FocusLayout.Display
