import FocusLayout.Display.Library
import FocusLayout.Step

/-!
# The program's side of the library

`World σ` is the state of the servers beside what the program keeps about its connections: the routes of protocol
errors, and how many holders have been given out. It also records what has gone between program and library
(`Exchange`).

Each call goes through `World.call`, which hands every error delivered to the routes.
-/

namespace FocusLayout.Display

/-- One thing that has gone between program and library. -/
inductive Exchange where
  | connect (name : Option String)
  | disconnect (address : Address)
  | sync (address : Address)
  | ask (address : Address) (request : Request)
  /-- A protocol error delivered, and what the program answered. -/
  | error (address : Address) (answer : Nat)
  deriving DecidableEq, Repr

/-- Everything outside the program's own values. -/
structure World (σ : Type) where
  server : σ
  routes : Routes
  holders : Nat
  exchanges : List Exchange

namespace World

variable {σ α : Type}

/-- The world before any connection. -/
def initial (server : σ) : World σ := ⟨server, .empty, 0, []⟩

/-- Takes in an error delivered on an address. -/
def deliver (w : World σ) (a : Address) : World σ :=
  let (answer, routes) := w.routes.handle a
  { w with routes := routes, exchanges := w.exchanges ++ [.error a answer] }

/-- Makes a call, and takes in the errors delivered while it runs. -/
def call (exchange : Exchange) (f : σ → Delivery σ α) (w : World σ) : α × World σ :=
  let d := f w.server
  (d.value, d.errors.foldl deliver { w with server := d.state, exchanges := w.exchanges ++ [exchange] })

/-- A holder that no connection has had yet. -/
def newHolder (w : World σ) : Holder × World σ :=
  (.own w.holders, { w with holders := w.holders + 1 })

/-- Reads and clears the holder of the errors without a route. -/
def takeUnrouted (w : World σ) : Bool × World σ :=
  let (raised, routes) := w.routes.take .unrouted
  (raised, { w with routes := routes })

variable (lib : Library σ)

/-- Opens a connection. -/
def connect (name : Option String) : World σ → Option Address × World σ :=
  call (.connect name) (lib.connect name)

/-- Closes a connection. -/
def disconnect (a : Address) : World σ → Unit × World σ :=
  call (.disconnect a) (lib.disconnect a)

/-- Waits for a connection. -/
def sync (a : Address) : World σ → Unit × World σ :=
  call (.sync a) (lib.sync a)

/-- Sends a request. -/
def ask (a : Address) (r : Request) : World σ → r.Reply × World σ :=
  call (.ask a r) (lib.ask a r)

/-- Changes the routes. -/
def reroute (f : Routes → Routes) (w : World σ) : World σ :=
  { w with routes := f w.routes }

end World

end FocusLayout.Display
