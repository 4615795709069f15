import FocusLayout.Proofs.Display.Asking
import FocusLayout.Proofs.Display.FocusQuery

/-!
# Which windows are asked for a class

`World.classAsked` are the windows that have been asked for their class. What a step asks depends on the server alone
(`Connection.Asks`), as what it gives does. The focus query asks the focus window for its class, and if that has none,
the candidates up to the first that has one (`asks_focusedWindow`).

- the candidates are different windows, none of them with a special id (`Library.nodup_candidates`,
  `Library.mem_candidates_iff`), nor the focus window itself (`Library.not_mem_candidates`);
- of the two, only the parent is compared with the root (`Library.root_mem_tried_iff`);
- `asked_sane_unless_beside_root`: the windows that are asked, and when the root is among them, as it can be
  (`root_asked_for_class`).
-/

namespace FocusLayout.Display

variable {σ α β : Type}

/-- The window that is asked for its class. -/
def Request.classWindow? : Request → Option WindowId
  | classHint w => some w
  | inputFocus | windowName _ | tree _ | atom _ _ | property _ _ _ _ | keyboard _ | lockGroup _ _ => none

def Exchange.classWindow? : Exchange → Option WindowId
  | ask _ r => r.classWindow?
  | connect _ | disconnect _ | sync _ | error _ _ => none

/-- The windows that have been asked for their class, in order. -/
def World.classAsked (w : World σ) : List WindowId :=
  w.requests.filterMap Exchange.classWindow?

/-- Of the requests about a focus window without a class, those for a class are for itself and for the windows that are
tried. -/
theorem Request.filterMap_classWindow?_focusedWindow (focus owner : WindowId) (ws : List WindowId) :
    (inputFocus :: classHint focus :: tree focus :: ws.map classHint ++ [windowName owner]).filterMap classWindow? =
      focus :: ws := by
  have hws : (ws.map classHint).filterMap classWindow? = ws := by
    rw [List.filterMap_map]
    exact List.filterMap_some
  simp [List.filterMap_cons, classWindow?, hws]

/-! ## The candidates -/

namespace Library

variable (lib : Library σ) (a : Address)

/-- Of some windows that are asked for their class one after the other, those up to the first that has one. -/
def tried : List WindowId → σ → List WindowId
  | [], _ => []
  | w :: rest, s => w :: if (lib.classOf a w s).isSome then [] else tried rest (lib.next a (.classHint w) s)

variable {lib} {a} {focus w : WindowId} {s : σ}

theorem tried_initial (ws : List WindowId) (s : σ) : lib.tried a ws s <+: ws := by
  induction ws generalizing s with
  | nil => exact List.prefix_rfl
  | cons w rest ih =>
    rw [tried]
    split
    · exact (List.prefix_cons_inj w).mpr List.nil_prefix
    · exact (List.prefix_cons_inj w).mpr (ih _)

theorem mem_candidates_iff :
    w ∈ lib.candidates a focus s ↔
      1 < w ∧ (w = focus - 1 ∨
        lib.parentOf? a focus s = some w ∧ w ≠ lib.root a (lib.next a (.tree focus) s)) := by
  unfold candidates parentOf?
  dsimp only
  grind

theorem nodup_candidates : (lib.candidates a focus s).Nodup := by
  unfold candidates
  dsimp only
  grind

/-- The focus window is none of its candidates, unless it is its own parent. -/
theorem not_mem_candidates (hlt : 1 < focus) (hparent : lib.parentOf? a focus s ≠ some focus) :
    focus ∉ lib.candidates a focus s := by
  intro hmem
  rcases (mem_candidates_iff.mp hmem).2 with hbefore | ⟨hself, -⟩
  · exact absurd hbefore (Nat.ne_of_gt (Nat.sub_one_lt_of_lt hlt))
  · exact hparent hself

/-- The window with the id before is tried first, unless its id is special. -/
theorem before_mem_tried_iff (s' : σ) : focus - 1 ∈ lib.tried a (lib.candidates a focus s) s' ↔ 1 < focus - 1 := by
  constructor
  · intro hmem
    exact (mem_candidates_iff.mp ((tried_initial _ s').subset hmem)).1
  · intro hbefore
    unfold candidates
    rw [if_pos hbefore]
    exact List.mem_cons_self

/-- As a parent the root is not tried, but as the window with the id before it is. -/
theorem root_mem_tried_iff (s' : σ) :
    let root := lib.root a (lib.next a (.tree focus) s)
    root ∈ lib.tried a (lib.candidates a focus s) s' ↔ focus = root + 1 ∧ 1 < root := by
  intro root
  constructor
  · intro hmem
    obtain ⟨hroot, hbefore | ⟨-, hne⟩⟩ := mem_candidates_iff.mp ((tried_initial _ s').subset hmem)
    · exact ⟨by grind, hroot⟩
    · exact absurd rfl hne
  · rintro ⟨hbeside, hroot⟩
    have hbefore : focus - 1 = root := by grind
    rw [← hbefore] at hroot ⊢
    exact (before_mem_tried_iff s').mpr hroot

end Library

/-! ## What is asked -/

namespace Connection

variable {lib : Library σ} {c : Connection} {s s' : σ} {t : Step (World σ) α} {k : α → Step (World σ) β} {a : α}
  {f : Failure} {rs qs : List Request}

/-- In any world with this server in which the connection listens, the step makes these requests on the connection,
each of them waited for, and no others. -/
def Asks (c : Connection) (t : Step (World σ) α) (s : σ) (rs : List Request) : Prop :=
  ∀ w : World σ, w.server = s → c.Listens w.routes →
    (t.run w).state.requests = w.requests ++ rs.flatMap fun r => [.ask c.address r, .sync c.address]

theorem asks_ask (lib : Library σ) (c : Connection) (r : Request) (s : σ) : c.Asks (c.ask lib r) s [r] :=
  fun w _ _ => requests_ask lib c r w

theorem asks_of_keeps (h : t.Keeps World.requests) (s : σ) : c.Asks t s [] :=
  fun w _ _ => (h w).trans (List.append_nil _).symm

namespace Asks

theorem attempt (h : c.Asks t s rs) : c.Asks t.attempt s rs := h

/-- After a value the requests of the second step follow those of the first. -/
theorem bind_ok (h : c.Asks t s rs) (ht : c.Gives t s (.ok a) s') (hk : c.Asks (k a) s' qs) :
    c.Asks (t >>= k) s (rs ++ qs) := by
  intro w hs hw
  obtain ⟨hresult, hserver, hlistens⟩ := ht w hs hw
  rw [Step.run_bind_ok k hresult, List.flatMap_append, ← List.append_assoc, ← h w hs hw]
  exact hk _ hserver hlistens

/-- A failure is the end. -/
theorem bind_error (h : c.Asks t s rs) (ht : c.Gives t s (.error f) s') : c.Asks (t >>= k) s rs := by
  intro w hs hw
  rw [Step.run_bind_error k (ht w hs hw).1, ← h w hs hw]

/-- If what follows asks for nothing, it does not matter how the first step ends. -/
theorem bind_keeps (h : c.Asks t s rs) (hk : ∀ a, (k a).Keeps World.requests) : c.Asks (t >>= k) s rs := by
  intro w hs hw
  rw [← h w hs hw]
  cases hresult : (t.run w).result with
  | error f => rw [Step.run_bind_error k hresult]
  | ok a =>
    rw [Step.run_bind_ok k hresult]
    exact hk a _

/-- The windows that the requests are for are asked for their class. -/
theorem classAsked (h : c.Asks t s rs) {w : World σ} (hs : w.server = s) (hw : c.Listens w.routes) :
    (t.run w).state.classAsked = w.classAsked ++ rs.filterMap Request.classWindow? := by
  have hrequests : (rs.flatMap fun r => [Exchange.ask c.address r, .sync c.address]).filterMap Exchange.classWindow? =
      rs.filterMap Request.classWindow? := by
    rw [List.filterMap_flatMap, List.filterMap_eq_flatMap_toList]
    refine List.flatMap_congr fun r _ => ?_
    cases r <;> rfl
  unfold World.classAsked
  rw [h w hs hw, List.filterMap_append, hrequests]

end Asks

/-! ## The focus query asks -/

variable {w focus : WindowId}

theorem asks_classHint (w : WindowId) (s : σ) : c.Asks (c.classHint lib w) s [.classHint w] := by
  refine (asks_ask lib c _ s).bind_keeps fun hint => ?_
  split
  · exact .pure _
  · exact .pure _

theorem asks_title (w : WindowId) (s : σ) : c.Asks (c.title lib w) s [.windowName w] := by
  refine (asks_ask lib c _ s).attempt.bind_keeps fun answer => ?_
  cases answer with
  | error f => exact (Step.Keeps.say _ _ _).bind fun _ => .pure _
  | ok name => exact .pure _

theorem asks_parent (w : WindowId) (s : σ) : c.Asks (c.parent lib w) s [.tree w] := by
  refine (asks_ask lib c _ s).attempt.bind_keeps fun answer => ?_
  cases answer with
  | error f => exact .pure _
  | ok place => exact .pure _

/-- Some windows are asked for their class up to the first that has one. -/
theorem asks_firstNamed (ws : List WindowId) (s : σ) :
    c.Asks (c.firstNamed lib ws) s ((lib.tried c.address ws s).map .classHint) := by
  induction ws generalizing s with
  | nil => exact asks_of_keeps (.pure _) s
  | cons w rest ih =>
    have hasks : c.Asks (c.classHint lib w).attempt s [.classHint w] := (asks_classHint w s).attempt
    rw [Library.tried, List.map_cons]
    by_cases hfails : lib.Fails c.address (.classHint w) s
    · have hclass : lib.classOf c.address w s = none := by simp [Library.classOf, hfails]
      rw [hclass]
      exact hasks.bind_ok (gives_classHint_error hfails).attempt
        ((asks_of_keeps (.say _ _ _) _).bind_ok (gives_say _ _ _) (ih _))
    · have hgives := (gives_classHint_ok hfails).attempt
      cases hclass : lib.classOf c.address w s with
      | none =>
        rw [hclass] at hgives
        exact hasks.bind_ok hgives (ih _)
      | some hint =>
        rw [hclass] at hgives
        exact hasks.bind_ok hgives (asks_of_keeps (.pure _) _)

/-- Without a class of its own, the focus window is asked for its parent, and then its candidates are asked. -/
theorem asks_owner (hfails : ¬lib.Fails c.address (.classHint focus) s)
    (hclass : lib.classOf c.address focus s = none) :
    c.Asks (c.owner lib focus) s
      (.classHint focus :: .tree focus ::
        (lib.tried c.address (lib.candidates c.address focus (lib.afterFocus c.address focus s))
          (lib.next c.address (.tree focus) (lib.afterFocus c.address focus s))).map .classHint) := by
  have hgives := gives_classHint_ok hfails
  rw [hclass] at hgives
  refine (asks_classHint focus s).bind_ok hgives ((asks_parent focus _).bind_ok (gives_parent focus _) ?_)
  refine (asks_of_keeps (fun _ => rfl) _).bind_ok (gives_root lib) ?_
  rw [fallbackWindows_eq_candidates]
  refine (asks_firstNamed _ _).bind_keeps fun found => ?_
  cases found with
  | some found => exact .pure _
  | none => exact (Step.Keeps.say _ _ _).bind fun _ => .pure _

/-- A focus on no window, or an error, is the end of it. -/
theorem asks_focusedWindow_none (hfocus : lib.reply c.address .inputFocus s = focus)
    (h : lib.Fails c.address .inputFocus s ∨ focus ≤ pointerRoot) : c.Asks (c.focusedWindow lib) s [.inputFocus] := by
  subst hfocus
  by_cases hfails : lib.Fails c.address .inputFocus s
  · exact (asks_ask lib c _ s).bind_error (gives_ask_error hfails)
  · refine (asks_ask lib c _ s).bind_ok (gives_ask_ok hfails) ?_
    rw [if_pos (h.resolve_left hfails)]
    exact asks_of_keeps (.pure _) _

/-- A focus window without a class is asked for it, and after it its candidates; the last request is for the title. -/
theorem asks_focusedWindow (hinput : ¬lib.Fails c.address .inputFocus s)
    (hfocus : lib.reply c.address .inputFocus s = focus) (hlt : pointerRoot < focus)
    (hfails : ¬lib.Fails c.address (.classHint focus) (lib.next c.address .inputFocus s))
    (hclass : lib.classOf c.address focus (lib.next c.address .inputFocus s) = none) :
    let s₁ := lib.afterFocus c.address focus (lib.next c.address .inputFocus s)
    ∃ owner, c.Asks (c.focusedWindow lib) s
      (.inputFocus :: .classHint focus :: .tree focus ::
        (lib.tried c.address (lib.candidates c.address focus s₁) (lib.next c.address (.tree focus) s₁)).map .classHint ++
        [.windowName owner]) := by
  subst hfocus
  intro s₁
  obtain ⟨owner, hint, s', howner⟩ := lib.exists_owner c.address _ (lib.next c.address .inputFocus s)
  refine ⟨owner, (asks_ask lib c _ s).bind_ok (gives_ask_ok hinput) ?_⟩
  rw [if_neg (Nat.not_le.mpr hlt)]
  exact (asks_owner hfails hclass).bind_ok (gives_owner_ok hfails howner)
    ((asks_title owner s').bind_keeps fun _ => .pure _)

end Connection

/-! ## The whole query -/

variable {lib : Library σ} {server : σ} {history : List Happening} {live : List Connection} {w : World σ}

/-- **The windows that the focus query asks for a class are sane, unless the focus is beside the root.** Take any live
connection at any point of any run. If the request for the focus fails or the focus is on no window, nothing else is
asked for, so the id before it is never looked at. If the focus is on a window that has no class and is not its own
parent, the id before it can be had by subtraction, and the windows that are asked for a class after it are pairwise
distinct, different from it, and none of them is a special id. The window with the id before is among them unless that
is special; the root is among them only if it is this window, since as the parent it is left out. -/
theorem asked_sane_unless_beside_root (h : Reached lib server history live w) {c : Connection} (hc : c ∈ live) :
    let s := w.server
    let focus : WindowId := lib.reply c.address .inputFocus s
    let s₁ := lib.next c.address .inputFocus s
    let s₂ := lib.afterFocus c.address focus s₁
    let root := lib.root c.address (lib.next c.address (.tree focus) s₂)
    let after := ((c.focusedWindow lib).run w).state
    (lib.Fails c.address .inputFocus s ∨ focus ≤ 1 →
      after.requests = w.requests ++ [.ask c.address .inputFocus, .sync c.address]) ∧
    (¬lib.Fails c.address .inputFocus s → 1 < focus → ¬lib.Fails c.address (.classHint focus) s₁ →
      lib.classOf c.address focus s₁ = none → lib.parentOf? c.address focus s₂ ≠ some focus →
        focus - 1 + 1 = focus ∧ ∃ others, after.classAsked = w.classAsked ++ focus :: others ∧
          others.Nodup ∧ focus ∉ others ∧ (∀ v ∈ others, 1 < v) ∧ (focus - 1 ∈ others ↔ 1 < focus - 1) ∧
          (root ∈ others ↔ focus = root + 1 ∧ 1 < root)) := by
  intro s focus s₁ s₂ root after
  have hl : c.Listens w.routes := h.routed.listens hc
  refine ⟨fun hnone => Connection.asks_focusedWindow_none rfl hnone w rfl hl, ?_⟩
  intro hinput hlt hfails hclass hparent
  obtain ⟨owner, hasks⟩ := Connection.asks_focusedWindow hinput rfl hlt hfails hclass
  have hinitial : lib.tried c.address (lib.candidates c.address focus s₂) (lib.next c.address (.tree focus) s₂) <+:
      lib.candidates c.address focus s₂ := Library.tried_initial _ _
  refine ⟨Nat.sub_add_cancel (Nat.le_of_lt hlt), _, ?_, hinitial.sublist.nodup Library.nodup_candidates,
    fun hmem => Library.not_mem_candidates hlt hparent (hinitial.subset hmem),
    fun v hv => (Library.mem_candidates_iff.mp (hinitial.subset hv)).1, Library.before_mem_tried_iff _,
    Library.root_mem_tried_iff _⟩
  rw [hasks.classAsked rfl hl]
  exact congrArg (w.classAsked ++ ·) (Request.filterMap_classWindow?_focusedWindow ..)

/-- The widget is not beside the root: window 4 is asked, and window 483 is not. -/
theorem asked_sane_unless_beside_root_widget :
    let c : Connection := ⟨1, .own 0, "$DISPLAY"⟩
    let w := (Use.opening none).run Stage.library (World.initial widget)
    Reached Stage.library widget [.registered 1 (.own 0)] [c] w ∧ Stage.library.root 1 w.server = 483 ∧
    ∃ others, ((c.focusedWindow Stage.library).run w).state.classAsked = 5 :: others ∧ others.Nodup ∧ 5 ∉ others ∧
      (∀ v ∈ others, 1 < v) ∧ 4 ∈ others ∧ 483 ∉ others := by
  intro c w
  have h : Reached Stage.library widget [.registered 1 (.own 0)] [c] w :=
    .next (.opening none) .start fun _ _ _ hd => absurd hd List.not_mem_nil
  have hlt : (1 : WindowId) < 5 := by decide
  have law := asked_sane_unless_beside_root h (c := c) (by simp)
  obtain ⟨-, others, hasked, hnodup, hfocus, hspecial, hbefore, hroot⟩ :=
    law.2 (by decide) hlt (by decide) (by decide +kernel) (by decide)
  refine ⟨h, rfl, others, hasked, hnodup, hfocus, hspecial, hbefore.mpr (by decide), fun hmem => ?_⟩
  have hbeside : (5 : WindowId) = 483 + 1 := (hroot.mp hmem).1
  exact absurd hbeside (by decide)

/-- A server whose root, window 483, belongs to a desktop and has the focus given to window 484, its child, which has no
class. -/
def besideRoot : Stage :=
  let text (t : String) : Option (List UInt8) := some (Text.Utf8.encode t)
  .ofScene { Scene.default with
    displays := [":0"]
    defaultDisplay := some ":0"
    focus := 484
    windows := [(484, ⟨none, text "panel", ⟨1, 483⟩⟩),
      (483, ⟨some (text "desktop", text "Desktop"), text "Desktop", ⟨1, 0⟩⟩)] }

/-- The root is asked for its class, and the panel is taken for the desktop. -/
theorem root_asked_for_class :
    let c : Connection := ⟨1, .own 0, "$DISPLAY"⟩
    let w := (Use.opening none).run Stage.library (World.initial besideRoot)
    let query := (c.focusedWindow Stage.library).run w
    Reached Stage.library besideRoot [.registered 1 (.own 0)] [c] w ∧
    (∀ p ∈ besideRoot.scene.windows, p.2.tree.parent ≠ p.1) ∧
    (Stage.library.reply 1 .inputFocus w.server : WindowId) = (484 : WindowId) ∧
    Stage.library.classOf 1 484 (Stage.library.next 1 .inputFocus w.server) = none ∧
    query.state.classAsked = w.classAsked ++ [484, Stage.library.root 1 w.server] ∧
    query.result = .ok (some ⟨484, "Desktop", "Desktop", "desktop"⟩) := by
  intro c w query
  have h : Reached Stage.library besideRoot [.registered 1 (.own 0)] [c] w :=
    .next (.opening none) .start fun _ _ _ hd => absurd hd List.not_mem_nil
  exact ⟨h, by decide, rfl, by decide +kernel, by decide +kernel, by decide +kernel⟩

end FocusLayout.Display
