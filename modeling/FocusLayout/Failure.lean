/-!
# Failures

`Failure` holds the ways in which a request to the X server, the keyboard or the focus can fail, and
`Failure.message` their wording. Only a protocol failure is passing (`Failure.isProtocol`): the window it speaks
of may simply be gone, and the next request may succeed.
-/

namespace FocusLayout

/-- Why a step of the program failed. -/
inductive Failure where
  /-- No X display can be used, for the given reason. -/
  | displayUnavailable (reason : String)
  /-- The server answered the named request with an X protocol error. -/
  | protocol (request : String)
  /-- The group is not among the first `available` ones. -/
  | invalidLayout (group available : Nat)
  /-- A service of the server does not work, for the given reason. -/
  | serviceUnavailable (reason : String)
  deriving DecidableEq, Repr

namespace Failure

/-- The text shown for a failure. -/
def message : Failure → String
  | displayUnavailable reason => s!"X-дисплей недоступен: {reason}"
  | protocol request => s!"Ошибка протокола X11 в запросе {request}"
  | invalidLayout group available => s!"Неверная раскладка {group} (доступно: {available})"
  | serviceUnavailable reason => s!"Сервис недоступен: {reason}"

/-- A protocol failure passes; every other failure is a standing condition. -/
def isProtocol : Failure → Bool
  | protocol _ => true
  | _ => false

@[simp] theorem isProtocol_protocol (request : String) : (protocol request).isProtocol = true := rfl

/-- The passing failures are exactly those that name a request. -/
theorem isProtocol_iff (f : Failure) : f.isProtocol = true ↔ ∃ request, f = protocol request := by
  cases f <;> simp [isProtocol]

end Failure

end FocusLayout
