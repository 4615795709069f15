import FocusLayout.Proofs.Display.Connection

/-!
# What requests give

A connection that catches its own errors and no others (`Listens`) sees of the routes only whether its requests fail.
So what a step gives that only asks depends on the server alone (`Gives`), and of each request only three things matter:
whether it fails (`Library.Fails`), its reply, and the state that it leaves the server in (`Library.next`).

- `gives_ask`: what a request gives;
- `Gives.bind_ok`, `Gives.bind_error`, `Gives.attempt`: what a sequence of steps gives, from what each of them gives.
-/

namespace FocusLayout.Display

variable {σ α β : Type}

namespace Library

variable (lib : Library σ) (a : Address) (r : Request) (s : σ)

/-- An error arrives on the connection while the request is made or waited for. -/
def Fails : Prop :=
  a ∈ (lib.ask a r s).errors ++ (lib.sync a (lib.ask a r s).state).errors

instance : Decidable (lib.Fails a r s) := List.instDecidableMemOfLawfulBEq _ _

/-- The reply to the request. -/
def reply : r.Reply := (lib.ask a r s).value

/-- The server after the request. -/
def next : σ := (lib.sync a (lib.ask a r s).state).state

end Library

namespace Connection

variable {c : Connection} {s s' s'' : σ} {t : Step (World σ) α} {k : α → Step (World σ) β} {a : α} {f : Failure}
  {r : Except Failure α} {q : Except Failure β}

/-- In any world with this server in which the connection listens, the step gives this result and leaves the server
like that, and the connection still listens. -/
def Gives (c : Connection) (t : Step (World σ) α) (s : σ) (r : Except Failure α) (s' : σ) : Prop :=
  ∀ w : World σ, w.server = s → c.Listens w.routes →
    (t.run w).result = r ∧ (t.run w).state.server = s' ∧ c.Listens (t.run w).state.routes

/-- A connection listens by its routes. -/
theorem Listens.of_route?_eq {p q : Routes} (h : c.Listens p) (heq : ∀ b, q.route? b = p.route? b) : c.Listens q := by
  intro b
  rw [Routes.holderOf_eq, heq]
  exact h b

/-! ## Single steps -/

theorem gives_ask (lib : Library σ) (c : Connection) (r : Request) (s : σ) :
    c.Gives (c.ask lib r) s
      (if lib.Fails c.address r s then .error (.protocol r.name) else .ok (lib.reply c.address r s))
      (lib.next c.address r s) := by
  rintro w rfl hw
  refine ⟨result_checked lib _ _ hw _, server_checked .., hw.of_route?_eq fun b => ?_⟩
  show ((c.checked lib r.name (World.call (.ask c.address r) (lib.ask c.address r))).run w).state.routes.route? b = _
  rw [routes_checked, route?_requestTrail]

/-- A request without an error gives its reply. -/
theorem gives_ask_ok {lib : Library σ} {r : Request} (h : ¬lib.Fails c.address r s) :
    c.Gives (c.ask lib r) s (.ok (lib.reply c.address r s)) (lib.next c.address r s) := by
  have hask := gives_ask lib c r s
  rwa [if_neg h] at hask

/-- A request with an error fails by its name. -/
theorem gives_ask_error {lib : Library σ} {r : Request} (h : lib.Fails c.address r s) :
    c.Gives (c.ask lib r) s (.error (.protocol r.name)) (lib.next c.address r s) := by
  have hask := gives_ask lib c r s
  rwa [if_pos h] at hask

theorem gives_pure (a : α) : c.Gives (pure a) s (.ok a) s := by
  rintro w rfl hw
  exact ⟨rfl, rfl, hw⟩

theorem gives_fail (f : Failure) : c.Gives (Step.fail f : Step (World σ) α) s (.error f) s := by
  rintro w rfl hw
  exact ⟨rfl, rfl, hw⟩

theorem gives_say (level : Log.Level) (origin : Log.Origin) (text : String) :
    c.Gives (Step.say level origin text) s (.ok ()) s := by
  rintro w rfl hw
  exact ⟨rfl, rfl, hw⟩

theorem gives_root (lib : Library σ) : c.Gives (c.root lib) s (.ok (lib.root c.address s)) s := by
  rintro w rfl hw
  exact ⟨rfl, rfl, hw⟩

/-! ## Sequences -/

namespace Gives

/-- After a value the second step goes on where the first has left the server. -/
theorem bind_ok (ht : c.Gives t s (.ok a) s') (hk : c.Gives (k a) s' q s'') : c.Gives (t >>= k) s q s'' := by
  intro w hs hw
  obtain ⟨hresult, hserver, hlistens⟩ := ht w hs hw
  rw [Step.run_bind_ok k hresult]
  exact hk _ hserver hlistens

/-- A failure is the end. -/
theorem bind_error (ht : c.Gives t s (.error f) s') : c.Gives (t >>= k) s (.error f) s' := by
  intro w hs hw
  obtain ⟨hresult, hserver, hlistens⟩ := ht w hs hw
  rw [Step.run_bind_error k hresult]
  exact ⟨rfl, hserver, hlistens⟩

/-- An attempt gives the result as a value. -/
theorem attempt (ht : c.Gives t s r s') : c.Gives t.attempt s (.ok r) s' := by
  intro w hs hw
  obtain ⟨hresult, hserver, hlistens⟩ := ht w hs hw
  exact ⟨congrArg _ hresult, hserver, hlistens⟩

end Gives

end Connection

end FocusLayout.Display
