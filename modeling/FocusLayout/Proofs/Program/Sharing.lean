import FocusLayout.Program.Commands
import FocusLayout.Proofs.Display.Shares

/-!
# The shares of a command

A command passes shares of its connection around and in the end lets go of all of them (`releasing`).

- while somebody else has a share, giving one or letting go of one changes nothing but the shares (`run_share`,
  `run_letGo_kept`), so the connection stays open until the end;
- letting go of all owners closes the connection exactly once (`run_letGoAll`), so that is how a command ends, whatever
  came before (`run_releasing`);
- where nothing is shared, nothing is closed (`run_releasing_unshared`).

After that a watch takes the unrouted holder, and warns if it is raised (`run_endWatch`).
-/

namespace FocusLayout.Program

open Display (Connection Library Shares World)

variable {σ : Type}

/-- The surroundings with other shares. -/
def Surroundings.withShares (shares : Shares Owner) (s : Surroundings σ) : Surroundings σ :=
  { s with shares := shares }

variable (lib : Library σ) {c : Connection} {s : Surroundings σ}

/-! ## One owner -/

/-- A further share changes nothing else. -/
theorem run_share (h : s.shares.Of c) (owner : Owner) :
    (share lib (some c) owner).run s = ⟨.ok (), s.withShares (s.shares.withShare owner c), []⟩ := by
  have hgiven : (Surroundings.inWorld (s.shares.giveAny lib owner (some c))).run s =
      ⟨.ok (s.shares.withShare owner c), s, []⟩ := by
    rw [Surroundings.inWorld, Step.run_within, Shares.giveAny, Shares.run_give lib h]
    rfl
  exact Step.run_bind_silent hgiven _

/-- A share that is not the last can go without any other change. -/
theorem run_letGo_kept (h : s.shares.Of c) {owner : Owner} (hrest : s.shares.without owner ≠ .empty) :
    (letGo lib owner).run s = ⟨.ok (), s.withShares (s.shares.without owner), []⟩ := by
  have hreleased : (Surroundings.inWorld (s.shares.release lib owner)).run s =
      ⟨.ok (s.shares.without owner), s, []⟩ := by
    rw [Surroundings.inWorld, Step.run_within, Shares.run_release_kept lib h hrest]
    rfl
  exact Step.run_bind_silent hreleased _

/-- The last share that goes closes the connection. -/
theorem run_letGo_last (h : s.shares.Of c) (hs : s.shares ≠ .empty) {owner : Owner}
    (hrest : s.shares.without owner = .empty) :
    ((letGo lib owner).run s).result = .ok () ∧
      ((letGo lib owner).run s).state.shares = .empty ∧
      ((letGo lib owner).run s).state.world = ((c.close lib).run s.world).state := by
  have hreleased := Shares.run_release_last lib (w := s.world) h hs hrest
  have hresult : ((Surroundings.inWorld (s.shares.release lib owner)).run s).result = .ok .empty :=
    congrArg Outcome.result hreleased
  unfold letGo Surroundings.reshare
  rw [Step.run_bind_state, Step.run_bind_ok _ hresult]
  exact ⟨rfl, rfl, congrArg Outcome.state hreleased⟩

/-- Where nothing is shared, there is nothing to let go of. -/
theorem run_letGo_unshared (h : s.shares = .empty) (owner : Owner) : (letGo lib owner).run s = ⟨.ok (), s, []⟩ := by
  obtain ⟨world, rehearsal, shares⟩ := s
  obtain rfl : shares = .empty := h
  rfl

/-- The source on a connection gets a share of it. -/
theorem run_makeSource (h : s.shares.Of c) :
    (makeSource lib (some c) false).run s =
      ⟨.ok ((c.source lib).within Surroundings.world Surroundings.withWorld),
        s.withShares (s.shares.withShare .source c), []⟩ := by
  have hsource : (Step.ofExcept (Connection.source? lib (some c))).run s = ⟨.ok (c.source lib), s, []⟩ := rfl
  exact (Step.run_bind_silent hsource _).trans (Step.run_bind_silent (run_share lib h .source) _)

/-- The backend on a connection gets a share of it. -/
theorem run_makeBackend (h : s.shares.Of c) :
    (makeBackend lib (some c) false).run s =
      ⟨.ok ((c.backend lib).within Surroundings.world Surroundings.withWorld),
        s.withShares (s.shares.withShare .backend c), []⟩ := by
  have hbackend : (Step.ofExcept (Connection.backend? lib (some c))).run s = ⟨.ok (c.backend lib), s, []⟩ := rfl
  exact (Step.run_bind_silent hbackend _).trans (Step.run_bind_silent (run_share lib h .backend) _)

/-! ## All owners -/

theorem run_letGoAll_unshared (h : s.shares = .empty) (owners : List Owner) :
    (letGoAll lib owners).run s = ⟨.ok (), s, []⟩ := by
  induction owners with
  | nil => rfl
  | cons owner rest ih => exact (Step.run_bind_silent (run_letGo_unshared lib h owner) _).trans ih

/-- Letting go of some owners closes the connection once, if nobody else has a share, and otherwise not at all. -/
theorem run_letGoAll (h : s.shares.Of c) (hs : s.shares ≠ .empty) (owners : List Owner) :
    ((letGoAll lib owners).run s).result = .ok () ∧
      ((∃ e ∈ s.shares.entries, e.1 ∉ owners) ∧ ((letGoAll lib owners).run s).state.world = s.world ∨
      (∀ e ∈ s.shares.entries, e.1 ∈ owners) ∧
        ((letGoAll lib owners).run s).state.world = ((c.close lib).run s.world).state) := by
  induction owners generalizing s with
  | nil =>
    obtain ⟨e, he⟩ := Shares.exists_mem_of_ne_empty hs
    exact ⟨rfl, .inl ⟨⟨e, he, List.not_mem_nil⟩, rfl⟩⟩
  | cons owner rest ih =>
    unfold letGoAll
    by_cases hrest : s.shares.without owner = .empty
    · -- the last share goes here, and the other owners have nothing to let go of
      obtain ⟨hresult, hshares, hworld⟩ := run_letGo_last lib h hs hrest
      rw [Step.run_bind_ok _ hresult, run_letGoAll_unshared lib hshares]
      refine ⟨rfl, .inr ⟨fun e he => ?_, hworld⟩⟩
      by_contra hne
      have hmem : e ∈ (s.shares.without owner).entries :=
        Shares.mem_without.mpr ⟨he, fun howner => hne (howner ▸ List.mem_cons_self)⟩
      exact Shares.ne_empty_of_mem hmem hrest
    · rw [Step.run_bind_silent (run_letGo_kept lib h hrest)]
      obtain ⟨hresult, hcases⟩ := ih (s := s.withShares (s.shares.without owner)) (h.without owner) hrest
      refine ⟨hresult, hcases.imp (fun ⟨⟨e, he, hne⟩, hworld⟩ => ⟨⟨e, ?_, ?_⟩, hworld⟩) fun ⟨hall, hworld⟩ =>
        ⟨fun e he => ?_, hworld⟩⟩
      · exact (Shares.mem_without.mp he).1
      · exact List.not_mem_cons_of_ne_of_not_mem (Shares.mem_without.mp he).2 hne
      · by_cases howner : e.1 = owner
        · exact howner ▸ List.mem_cons_self
        · exact List.mem_cons_of_mem _ (hall e (Shares.mem_without.mpr ⟨he, howner⟩))

/-! ## The end of a command -/

/-- What shares nothing runs as it is. -/
theorem run_releasing_unshared {α : Type} {t : Step (Surroundings σ) α} (h : (t.run s).state.shares = .empty) :
    (releasing lib t).run s = t.run s := by
  unfold releasing
  rw [Step.run_bind_attempt, Step.run_bind_silent (run_letGoAll_unshared lib h _)]
  cases hr : (t.run s).result with
  | error f => rw [Step.ofExcept, Step.run_fail, ← hr, List.append_nil]
  | ok a => rw [Step.ofExcept, Step.run_done, ← hr, List.append_nil]

/-- **A command ends by closing its connection once**, whatever it ends in and whoever then has a share. -/
theorem run_releasing {α : Type} {t : Step (Surroundings σ) α} (h : (t.run s).state.shares.Of c)
    (hs : (t.run s).state.shares ≠ .empty) :
    ((releasing lib t).run s).result = (t.run s).result ∧
      ((releasing lib t).run s).state.world = ((c.close lib).run (t.run s).state.world).state := by
  obtain ⟨hresult, hcases⟩ := run_letGoAll lib h hs [.source, .backend, .command]
  have hclosed : ((letGoAll lib [.source, .backend, .command]).run (t.run s).state).state.world =
      ((c.close lib).run (t.run s).state.world).state := by
    rcases hcases with ⟨⟨⟨owner, d⟩, he, hne⟩, -⟩ | ⟨-, hworld⟩
    · cases owner <;> simp at hne
    · exact hworld
  unfold releasing
  rw [Step.run_bind_attempt, Step.run_bind_ok _ hresult]
  cases (t.run s).result with
  | error f => exact ⟨rfl, hclosed⟩
  | ok a => exact ⟨rfl, hclosed⟩

/-! ## The end of a watch -/

/-- The last line of every watch. -/
def endLine : Log.Entry := ⟨.info, .program, "FocusWatcher завершил работу"⟩

/-- The warning about errors on connections that nobody knew. -/
def strayLine : Log.Entry := ⟨.warn, .program, "Были ошибки X11 на незарегистрированных соединениях"⟩

/-- The end of a watch takes the unrouted holder, and warns if it is raised. -/
theorem run_endWatch (s : Surroundings σ) :
    endWatch.run s = ⟨.ok "", s.withWorld s.world.takeUnrouted.2,
      if s.world.routes.occurred .unrouted then [endLine, strayLine] else [endLine]⟩ := by
  have htaken : (Surroundings.inWorld (Step.act World.takeUnrouted)).run s =
      ⟨.ok (s.world.routes.occurred .unrouted), s.withWorld s.world.takeUnrouted.2, []⟩ := rfl
  unfold endWatch say
  rw [Step.run_bind_say, Step.run_bind_silent htaken]
  cases s.world.routes.occurred .unrouted with
  | false => rfl
  | true => rfl

end FocusLayout.Program
