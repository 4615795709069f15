import FocusLayout.Display.Scene
import FocusLayout.Display.World

/-!
# Exchanges as text

`Exchange.text` shows what has gone between program and library as one line; displays are shown by the name they were
opened under. `World.strike` is an error that a described server makes of itself.
-/

namespace FocusLayout.Display

/-- One exchange as a line, with the names of the displays at their addresses. -/
def Exchange.text (nameOf : Address → Option String) : Exchange → String
  | connect name => "XOpenDisplay " ++ name.getD "NULL"
  | disconnect a => s!"XCloseDisplay {shown a}"
  | sync _ => "XSync"
  | ask _ r => r.text
  | error a answer => s!"error {shown a} -> {answer}"
where
  /-- The name of the display at an address. -/
  shown (a : Address) : String := (nameOf a).getD "?"

/-- What has gone between program and library, line by line. -/
def World.record (w : World Stage) : List String :=
  w.exchanges.map (Exchange.text w.server.displayAt?)

/-- The world after a fault on a connection. -/
def World.strike (fault : Fault) (a : Address) (w : World Stage) : World Stage :=
  let (errors, server) := w.server.strike (some fault) a
  errors.foldl World.deliver { w with server := server }

end FocusLayout.Display
