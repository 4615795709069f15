import FocusLayout.Display.Shares
import FocusLayout.Proofs.Display.Asking

/-!
# The last share closes the connection

As long as all shares are of one connection (`Shares.Of`), a further share changes nothing in the world (`run_give`),
and of those that go the last one, and no other, closes the connection (`run_release_last`, `run_release_kept`).
-/

namespace FocusLayout.Display.Shares

variable {ω σ : Type} {s : Shares ω} {c : Connection}

/-- All shares are of the connection. -/
def Of (c : Connection) (s : Shares ω) : Prop :=
  ∀ e ∈ s.entries, e.2 = c

theorem Of.empty : (Shares.empty : Shares ω).Of c := nofun

theorem eq_empty_iff : s = .empty ↔ s.entries = [] := by
  obtain ⟨entries⟩ := s
  simp [Shares.empty]

theorem exists_mem_of_ne_empty (h : s ≠ .empty) : ∃ e, e ∈ s.entries :=
  List.exists_mem_of_ne_nil _ fun hnil => h (eq_empty_iff.mpr hnil)

theorem ne_empty_of_mem {e : ω × Connection} (h : e ∈ s.entries) : s ≠ .empty := by
  intro hempty
  rw [eq_empty_iff.mp hempty] at h
  cases h

/-- A connection that somebody has stays open. -/
theorem run_closeUnowned_owned (lib : Library σ) {w : World σ} (h : s.Of c) (hs : s ≠ .empty) :
    (s.closeUnowned lib (some c)).run w = ⟨.ok (), w, []⟩ := by
  obtain ⟨e, he⟩ := exists_mem_of_ne_empty hs
  have howned : s.entries.any (·.2 == c) = true := List.any_eq_true.mpr ⟨e, he, beq_iff_eq.mpr (h e he)⟩
  exact congrArg (fun t => Step.run t w) (if_pos howned)

variable [DecidableEq ω] {owner : ω}

/-- A share for an owner, in place of the one it had. -/
def withShare (s : Shares ω) (owner : ω) (c : Connection) : Shares ω :=
  ⟨(owner, c) :: (s.without owner).entries⟩

theorem mem_without {e : ω × Connection} : e ∈ (s.without owner).entries ↔ e ∈ s.entries ∧ e.1 ≠ owner := by
  simp [without]

theorem withShare_ne_empty : s.withShare owner c ≠ .empty :=
  ne_empty_of_mem List.mem_cons_self

/-- Whoever has got a share keeps it when another one goes. -/
theorem withShare_without_ne_empty {other : ω} (h : owner ≠ other) : (s.withShare owner c).without other ≠ .empty :=
  ne_empty_of_mem (mem_without.mpr ⟨List.mem_cons_self, h⟩)

namespace Of

theorem without (h : s.Of c) (owner : ω) : (s.without owner).Of c :=
  fun e he => h e (mem_without.mp he).1

theorem withShare (h : s.Of c) (owner : ω) : (s.withShare owner c).Of c := by
  intro e he
  rcases List.mem_cons.mp he with rfl | he
  · rfl
  · exact h.without owner e he

/-- An owner can have a share of this connection only. -/
theorem of?_eq (h : s.Of c) {d : Connection} (hd : s.of? owner = some d) : d = c := by
  obtain ⟨e, he, rfl⟩ := Option.map_eq_some_iff.mp hd
  exact h e (List.mem_of_find?_eq_some he)

/-- Whoever has all the shares has a share. -/
theorem of?_of_without_eq_empty (h : s.Of c) (hs : s ≠ .empty) (hrest : s.without owner = .empty) :
    s.of? owner = some c := by
  obtain ⟨e, he⟩ := exists_mem_of_ne_empty hs
  have howner : e.1 = owner := by
    by_contra hne
    exact ne_empty_of_mem (mem_without.mpr ⟨he, hne⟩) hrest
  cases hd : s.of? owner with
  | some d => rw [h.of?_eq hd]
  | none =>
    have hfind : s.entries.find? (·.1 == owner) = none := Option.map_eq_none_iff.mp hd
    rw [List.find?_eq_none] at hfind
    exact absurd (beq_iff_eq.mpr howner) (hfind e he)

end Of

variable (lib : Library σ) {w : World σ}

/-- A further share changes nothing but the shares. -/
theorem run_give (h : s.Of c) (owner : ω) : (s.give lib owner c).run w = ⟨.ok (s.withShare owner c), w, []⟩ := by
  have hclose : ((s.withShare owner c).closeUnowned lib (s.of? owner)).run w = ⟨.ok (), w, []⟩ := by
    cases hd : s.of? owner with
    | none => rfl
    | some d =>
      rw [h.of?_eq hd]
      exact run_closeUnowned_owned lib (h.withShare owner) withShare_ne_empty
  exact Step.run_bind_silent hclose _

/-- The last share that goes closes the connection. -/
theorem run_release_last (h : s.Of c) (hs : s ≠ .empty) (hrest : s.without owner = .empty) :
    (s.release lib owner).run w = ⟨.ok .empty, ((c.close lib).run w).state, ((c.close lib).run w).log⟩ := by
  have hclose := Connection.result_close lib c w
  unfold release
  rw [h.of?_of_without_eq_empty hs hrest, hrest]
  exact (Step.run_bind_ok (t := c.close lib) _ hclose).trans (congrArg (Outcome.mk _ _) (List.append_nil _))

/-- Any other share can go without that. -/
theorem run_release_kept (h : s.Of c) (hrest : s.without owner ≠ .empty) :
    (s.release lib owner).run w = ⟨.ok (s.without owner), w, []⟩ := by
  have hclose : ((s.without owner).closeUnowned lib (s.of? owner)).run w = ⟨.ok (), w, []⟩ := by
    cases hd : s.of? owner with
    | none => rfl
    | some d =>
      rw [h.of?_eq hd]
      exact run_closeUnowned_owned lib (h.without owner) hrest
  exact Step.run_bind_silent hclose _

end FocusLayout.Display.Shares
