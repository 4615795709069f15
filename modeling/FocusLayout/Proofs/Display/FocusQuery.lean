import FocusLayout.Display.Focus
import FocusLayout.Display.Scene
import FocusLayout.Proofs.Display.Request
import FocusLayout.Proofs.Display.Use

/-!
# What the focus query means

The window with the focus is described by its own id and by the class and title of its owner (`Library.Owner`): the
first of the windows it may belong to that has a class.

- the windows are asked one after the other, each in the server that the last one leaves (`Library.places`);
- an error on the focus window itself fails the query, an error on any other window passes for one without a class
  (`gives_owner_error`, `gives_firstNamed_of_forall_none`, `gives_firstNamed_of_first`);
- `focus_query_meaning`: the whole query.
-/

namespace FocusLayout.Display

variable {σ : Type}

/-! ## The owner -/

namespace Library

variable (lib : Library σ) (a : Address)

/-- A text of a property; one that is missing reads as empty. -/
def textOf (bytes : Option (List UInt8)) : String :=
  (bytes.map Text.Utf8.ofCString).getD ""

/-- Instance and class of a window, if the request for them succeeds and finds them. -/
def classOf (w : WindowId) (s : σ) : Option (String × String) :=
  let hint : ClassHint := lib.reply a (.classHint w) s
  if lib.Fails a (.classHint w) s ∨ hint.status = 0 then none
  else some (textOf hint.instanceName, textOf hint.className)

/-- The title of a window; empty if the request for it fails or finds nothing. -/
def titleOf (w : WindowId) (s : σ) : String :=
  if lib.Fails a (.windowName w) s then "" else textOf (lib.reply a (.windowName w) s)

/-- The parent of a window, if the request for it succeeds and finds one. -/
def parentOf? (w : WindowId) (s : σ) : Option WindowId :=
  let place : TreePlace := lib.reply a (.tree w) s
  if lib.Fails a (.tree w) s ∨ place.status = 0 ∨ place.parent = 0 then none else some place.parent

/-- The other windows that a focus window may belong to: the one with the id before, and the parent. -/
def candidates (focus : WindowId) (s : σ) : List WindowId :=
  let place : TreePlace := lib.reply a (.tree focus) s
  let root := lib.root a (lib.next a (.tree focus) s)
  (if 1 < focus - 1 then [focus - 1] else []) ++
    if ¬lib.Fails a (.tree focus) s ∧ place.status ≠ 0 ∧ 1 < place.parent ∧ place.parent ≠ root ∧
        place.parent ≠ focus - 1 then [place.parent]
    else []

/-- Windows asked for their class one after the other, each with the server that it is asked in. -/
def queue : List WindowId → σ → List (WindowId × σ)
  | [], _ => []
  | w :: rest, s => (w, s) :: queue rest (lib.next a (.classHint w) s)

/-- The server after all of them. -/
def asked (ws : List WindowId) (s : σ) : σ :=
  ws.foldl (fun s w => lib.next a (.classHint w) s) s

/-- The server after the focus window has been asked for its class. -/
def afterFocus (focus : WindowId) (s : σ) : σ := lib.next a (.classHint focus) s

/-- The focus window and the others that it may belong to, each with the server that it is asked in. -/
def places (focus : WindowId) (s : σ) : List (WindowId × σ) :=
  (focus, s) ::
    lib.queue a (lib.candidates a focus (lib.afterFocus a focus s))
      (lib.next a (.tree focus) (lib.afterFocus a focus s))

/-- The first of some windows that has a class, with the class. -/
def First (ws : List (WindowId × σ)) (w : WindowId) (hint : String × String) (s : σ) : Prop :=
  ∃ before after, ws = before ++ (w, s) :: after ∧ (∀ p ∈ before, lib.classOf a p.1 p.2 = none) ∧
    lib.classOf a w s = some hint

/-- The window that a focus window's class and title are taken from, with the class, and the server that is then asked
for the title. -/
inductive Owner (focus : WindowId) (s : σ) : WindowId → String × String → σ → Prop
  | first {w : WindowId} {hint : String × String} {s' : σ} :
      lib.First a (lib.places a focus s) w hint s' → Owner focus s w hint (lib.next a (.classHint w) s')
  /-- Nobody has a class. -/
  | nobody : (∀ p ∈ lib.places a focus s, lib.classOf a p.1 p.2 = none) →
      Owner focus s focus ("", "")
        (lib.asked a (lib.candidates a focus (lib.afterFocus a focus s))
          (lib.next a (.tree focus) (lib.afterFocus a focus s)))

variable {lib} {a} {ws : List (WindowId × σ)} {w w' focus : WindowId} {hint hint' : String × String} {s s' s'' : σ}

theorem first_iff :
    lib.First a ws w hint s ↔
      ws.findSome? (fun p => (lib.classOf a p.1 p.2).map fun hint => (p.1, hint, p.2)) = some (w, hint, s) := by
  rw [List.findSome?_eq_some_iff]
  constructor
  · rintro ⟨before, after, rfl, hbefore, hw⟩
    exact ⟨before, (w, s), after, rfl, by simp [hw], fun p hp => by simp [hbefore p hp]⟩
  · rintro ⟨before, ⟨v, u⟩, after, rfl, hv, hbefore⟩
    obtain ⟨found, hfound, hp⟩ := Option.map_eq_some_iff.mp hv
    obtain ⟨rfl, rfl, rfl⟩ : v = w ∧ found = hint ∧ u = s := by simpa using hp
    exact ⟨before, after, rfl, fun p hp => by simpa using hbefore p hp, hfound⟩

theorem first_cons :
    lib.First a ((w', s') :: ws) w hint s ↔
      (lib.classOf a w' s' = some hint ∧ w' = w ∧ s' = s) ∨ (lib.classOf a w' s' = none ∧ lib.First a ws w hint s) := by
  rw [first_iff, first_iff, List.findSome?_cons]
  cases h : lib.classOf a w' s' with
  | none => simp
  | some found => grind

/-- There is at most one first. -/
theorem First.unique (h : lib.First a ws w hint s) (h' : lib.First a ws w' hint' s') :
    w = w' ∧ hint = hint' ∧ s = s' := by
  simpa using (first_iff.mp h).symm.trans (first_iff.mp h')

/-- There is one, unless all are without a class. -/
theorem exists_first_or_forall_none (lib : Library σ) (a : Address) (ws : List (WindowId × σ)) :
    (∃ w hint s, lib.First a ws w hint s) ∨ ∀ p ∈ ws, lib.classOf a p.1 p.2 = none := by
  simp only [first_iff]
  cases h : ws.findSome? fun p => (lib.classOf a p.1 p.2).map fun hint => (p.1, hint, p.2) with
  | none => exact .inr fun p hp => by simpa using List.findSome?_eq_none_iff.mp h p hp
  | some found => exact .inl ⟨found.1, found.2.1, found.2.2, rfl⟩

/-- Every focus window has an owner. -/
theorem exists_owner (lib : Library σ) (a : Address) (focus : WindowId) (s : σ) :
    ∃ w hint s', lib.Owner a focus s w hint s' := by
  rcases exists_first_or_forall_none lib a (lib.places a focus s) with ⟨w, hint, s', h⟩ | h
  · exact ⟨w, hint, _, .first h⟩
  · exact ⟨focus, ("", ""), _, .nobody h⟩

/-- If there is a first, not all are without a class. -/
theorem First.exists_mem (h : lib.First a ws w hint s) : ∃ p ∈ ws, lib.classOf a p.1 p.2 = some hint := by
  obtain ⟨before, after, rfl, -, hw⟩ := h
  exact ⟨(w, s), by simp, hw⟩

/-- It has only one. -/
theorem Owner.unique (h : lib.Owner a focus s w hint s') (h' : lib.Owner a focus s w' hint' s'') :
    w = w' ∧ hint = hint' ∧ s' = s'' := by
  cases h with
  | first h =>
    cases h' with
    | first h' =>
      obtain ⟨rfl, rfl, rfl⟩ := h.unique h'
      exact ⟨rfl, rfl, rfl⟩
    | nobody h' =>
      obtain ⟨p, hp, hclass⟩ := h.exists_mem
      cases hclass.symm.trans (h' p hp)
  | nobody h =>
    cases h' with
    | first h' =>
      obtain ⟨p, hp, hclass⟩ := h'.exists_mem
      cases hclass.symm.trans (h p hp)
    | nobody _ => exact ⟨rfl, rfl, rfl⟩

end Library

/-! ## Single windows -/

namespace Connection

open Library

variable {lib : Library σ} {c : Connection} {w focus : WindowId} {s s' : σ} {hint : String × String}

/-- A class request with an error fails. -/
theorem gives_classHint_error (h : lib.Fails c.address (.classHint w) s) :
    c.Gives (c.classHint lib w) s (.error (.protocol "XGetClassHint")) (lib.next c.address (.classHint w) s) :=
  (gives_ask_error h).bind_error

/-- A class request without an error gives the class of the window. -/
theorem gives_classHint_ok (h : ¬lib.Fails c.address (.classHint w) s) :
    c.Gives (c.classHint lib w) s (.ok (lib.classOf c.address w s)) (lib.next c.address (.classHint w) s) := by
  refine (gives_ask_ok h).bind_ok ?_
  unfold classOf
  dsimp only
  split <;> rename_i hstatus
  · rw [if_pos (.inr hstatus)]
    exact gives_pure _
  · rw [if_neg (not_or.mpr ⟨h, hstatus⟩)]
    exact gives_pure _

/-- A window's title is read without failing. -/
theorem gives_title (w : WindowId) (s : σ) :
    c.Gives (c.title lib w) s (.ok (lib.titleOf c.address w s)) (lib.next c.address (.windowName w) s) := by
  unfold titleOf
  split <;> rename_i h
  · exact (gives_ask_error h).attempt.bind_ok ((gives_say _ _ _).bind_ok (gives_pure _))
  · exact (gives_ask_ok h).attempt.bind_ok (gives_pure _)

/-- So is its parent; without an answer it has none. -/
theorem gives_parent (w : WindowId) (s : σ) :
    c.Gives (c.parent lib w) s (.ok (lib.parentOf? c.address w s)) (lib.next c.address (.tree w) s) := by
  unfold parentOf?
  by_cases h : lib.Fails c.address (.tree w) s
  · simp only [h, true_or, if_true]
    exact (gives_ask_error h).attempt.bind_ok (gives_pure _)
  · simp only [h, false_or]
    exact (gives_ask_ok h).attempt.bind_ok (gives_pure _)

/-! ## The owner is found -/

/-- The windows to look at are the candidates. -/
theorem fallbackWindows_eq_candidates (focus : WindowId) (s : σ) :
    fallbackWindows focus (lib.parentOf? c.address focus s) (lib.root c.address (lib.next c.address (.tree focus) s)) =
      lib.candidates c.address focus s := by
  unfold fallbackWindows candidates parentOf? pointerRoot
  dsimp only
  split <;> grind

/-- A window without a class is passed over, with or without an error. -/
theorem gives_firstNamed_cons {ws : List WindowId} {r : Except Failure (Option (WindowId × String × String))}
    (hnone : lib.classOf c.address w s = none)
    (h : c.Gives (c.firstNamed lib ws) (lib.next c.address (.classHint w) s) r s') :
    c.Gives (c.firstNamed lib (w :: ws)) s r s' := by
  by_cases hfails : lib.Fails c.address (.classHint w) s
  · exact (gives_classHint_error hfails).attempt.bind_ok ((gives_say _ _ _).bind_ok h)
  · have hclass := (gives_classHint_ok hfails).attempt
    rw [hnone] at hclass
    exact hclass.bind_ok h

theorem gives_firstNamed_of_forall_none (ws : List WindowId)
    (h : ∀ p ∈ lib.queue c.address ws s, lib.classOf c.address p.1 p.2 = none) :
    c.Gives (c.firstNamed lib ws) s (.ok none) (lib.asked c.address ws s) := by
  induction ws generalizing s with
  | nil => exact gives_pure _
  | cons w rest ih =>
    obtain ⟨hw, hrest⟩ := List.forall_mem_cons.mp h
    exact gives_firstNamed_cons hw (ih hrest)

theorem gives_firstNamed_of_first (ws : List WindowId)
    (h : lib.First c.address (lib.queue c.address ws s) w hint s') :
    c.Gives (c.firstNamed lib ws) s (.ok (some (w, hint))) (lib.next c.address (.classHint w) s') := by
  induction ws generalizing s with
  | nil =>
    obtain ⟨p, hp, -⟩ := h.exists_mem
    cases hp
  | cons v rest ih =>
    rcases first_cons.mp h with ⟨hclass, rfl, rfl⟩ | ⟨hnone, hrest⟩
    · have hfails : ¬lib.Fails c.address (.classHint v) s := fun hfails => by simp [classOf, hfails] at hclass
      have hgives := (gives_classHint_ok hfails).attempt
      rw [hclass] at hgives
      exact hgives.bind_ok (gives_pure _)
    · exact gives_firstNamed_cons hnone (ih hrest)

/-- An error on the focus window fails the search for its owner. -/
theorem gives_owner_error (h : lib.Fails c.address (.classHint focus) s) :
    c.Gives (c.owner lib focus) s (.error (.protocol "XGetClassHint")) (lib.afterFocus c.address focus s) :=
  (gives_classHint_error h).bind_error

/-- Without one the owner is found, be it the focus window itself, another, or nobody. -/
theorem gives_owner_ok (hfails : ¬lib.Fails c.address (.classHint focus) s)
    (h : lib.Owner c.address focus s w hint s') : c.Gives (c.owner lib focus) s (.ok (w, hint)) s' := by
  have hgives := gives_classHint_ok hfails
  cases hclass : lib.classOf c.address focus s with
  | some found =>
    rw [hclass] at hgives
    refine hgives.bind_ok ?_
    cases h with
    | first h =>
      -- the focus window is the first place, so it is the owner
      rcases first_cons.mp h with ⟨hhint, rfl, rfl⟩ | ⟨hnone, -⟩
      · obtain rfl := Option.some.inj (hclass.symm.trans hhint)
        exact gives_pure _
      · cases hclass.symm.trans hnone
    | nobody h => cases hclass.symm.trans (List.forall_mem_cons.mp h).1
  | none =>
    rw [hclass] at hgives
    refine hgives.bind_ok ((gives_parent focus _).bind_ok ((gives_root lib).bind_ok ?_))
    show c.Gives (c.firstNamed lib _ >>= _) _ _ _
    rw [fallbackWindows_eq_candidates]
    cases h with
    | first h =>
      -- the focus window is passed over, so the owner is the first of the others
      have hfirst := (first_cons.mp h).resolve_left fun hsome => by simp [hclass] at hsome
      exact (gives_firstNamed_of_first _ hfirst.2).bind_ok (gives_pure _)
    | nobody h =>
      have hnone := gives_firstNamed_of_forall_none _ (List.forall_mem_cons.mp h).2
      exact hnone.bind_ok ((gives_say _ _ _).bind_ok (gives_pure _))

/-! ## The whole query -/

/-- An error while the server is asked for the focus fails the query. -/
theorem gives_focusedWindow_error (h : lib.Fails c.address .inputFocus s) :
    c.Gives (c.focusedWindow lib) s (.error (.protocol "XGetInputFocus")) (lib.next c.address .inputFocus s) :=
  (gives_ask_error h).bind_error

/-- A focus that is on no window is no window. -/
theorem gives_focusedWindow_none (h : ¬lib.Fails c.address .inputFocus s)
    (hfocus : lib.reply c.address .inputFocus s = focus) (hle : focus ≤ pointerRoot) :
    c.Gives (c.focusedWindow lib) s (.ok none) (lib.next c.address .inputFocus s) := by
  subst hfocus
  refine (gives_ask_ok h).bind_ok ?_
  rw [if_pos hle]
  exact gives_pure _

/-- A focus on a window is described by its owner, if the search for that does not fail. -/
theorem gives_focusedWindow_owner {r : Except Failure (WindowId × String × String)}
    (h : ¬lib.Fails c.address .inputFocus s) (hfocus : lib.reply c.address .inputFocus s = focus)
    (hlt : pointerRoot < focus) (howner : c.Gives (c.owner lib focus) (lib.next c.address .inputFocus s) r s') :
    ∃ s'', c.Gives (c.focusedWindow lib) s
      (r.map fun found => some ⟨focus, lib.titleOf c.address found.1 s', found.2.2, found.2.1⟩) s'' := by
  subst hfocus
  cases r with
  | error f =>
    refine ⟨s', (gives_ask_ok h).bind_ok ?_⟩
    rw [if_neg (Nat.not_le.mpr hlt)]
    exact howner.bind_error
  | ok found =>
    refine ⟨lib.next c.address (.windowName found.1) s', (gives_ask_ok h).bind_ok ?_⟩
    rw [if_neg (Nat.not_le.mpr hlt)]
    exact howner.bind_ok ((gives_title found.1 s').bind_ok (gives_pure _))

end Connection

variable {lib : Library σ} {server : σ} {history : List Happening} {live : List Connection} {w : World σ}

/-- **What the focus query means.** Take any live connection at any point of any run; a request fails if an error
arrives on the connection while it is made or waited for. The query fails exactly if the request for the focus does, or
if the focus is on a window and the request for its class does; either gives the failure its name. It finds no window
exactly if the server tells that the focus is on none. Otherwise it gives a window with the id of the focus, and with
the class, the instance and the title of its owner: of the first among the focus window, the window with the id before,
and the parent that has a class; or, if none of them has, with neither class nor instance and with its own title. -/
theorem focus_query_meaning (h : Reached lib server history live w) {c : Connection} (hc : c ∈ live) :
    let s := w.server
    let focus : WindowId := lib.reply c.address .inputFocus s
    let s₁ := lib.next c.address .inputFocus s
    let result := ((c.focusedWindow lib).run w).result
    (∀ f, result = .error f ↔
      (lib.Fails c.address .inputFocus s ∧ f = .protocol "XGetInputFocus") ∨
      (¬lib.Fails c.address .inputFocus s ∧ 1 < focus ∧ lib.Fails c.address (.classHint focus) s₁ ∧
        f = .protocol "XGetClassHint")) ∧
    (result = .ok none ↔ ¬lib.Fails c.address .inputFocus s ∧ focus ≤ 1) ∧
    ∀ window, result = .ok (some window) ↔
      ¬lib.Fails c.address .inputFocus s ∧ 1 < focus ∧ ¬lib.Fails c.address (.classHint focus) s₁ ∧
      ∃ owner hint s', lib.Owner c.address focus s₁ owner hint s' ∧
        window = ⟨focus, lib.titleOf c.address owner s', hint.2, hint.1⟩ := by
  intro s focus s₁ result
  have hl : c.Listens w.routes := h.routed.listens hc
  by_cases hinput : lib.Fails c.address .inputFocus s
  · have hresult : result = .error (.protocol "XGetInputFocus") :=
      (Connection.gives_focusedWindow_error hinput w rfl hl).1
    simp [hresult, hinput, eq_comm]
  rcases Nat.lt_or_ge 1 focus with hlt | hle
  · by_cases hclass : lib.Fails c.address (.classHint focus) s₁
    · obtain ⟨_, hgives⟩ := Connection.gives_focusedWindow_owner hinput rfl hlt (Connection.gives_owner_error hclass)
      have hresult : result = .error (.protocol "XGetClassHint") := (hgives w rfl hl).1
      simp [hresult, hinput, hlt, hclass, eq_comm]
    · obtain ⟨owner, hint, s', howner⟩ := lib.exists_owner c.address focus s₁
      obtain ⟨_, hgives⟩ := Connection.gives_focusedWindow_owner hinput rfl hlt
        (Connection.gives_owner_ok hclass howner)
      have hresult : result = .ok (some ⟨focus, lib.titleOf c.address owner s', hint.2, hint.1⟩) :=
        (hgives w rfl hl).1
      refine ⟨by simp [hresult, hinput, hclass], by simp [hresult, hlt], fun window => ?_⟩
      rw [hresult]
      constructor
      · intro heq
        obtain rfl := Option.some.inj (Except.ok.inj heq)
        exact ⟨hinput, hlt, hclass, owner, hint, s', howner, rfl⟩
      · rintro ⟨-, -, -, owner', hint', s'', howner', rfl⟩
        obtain ⟨rfl, rfl, rfl⟩ := howner.unique howner'
        rfl
  · have hresult : result = .ok none := (Connection.gives_focusedWindow_none hinput rfl hle w rfl hl).1
    simp [hresult, hinput, hle, Nat.not_lt.mpr hle]

/-- A server with the focus on window 5. It has a title but no class, there is no window 4, and its parent, window 9,
has both. -/
def widget : Stage :=
  let text (t : String) : Option (List UInt8) := some (Text.Utf8.encode t)
  .ofScene { Scene.default with
    displays := [":0"]
    defaultDisplay := some ":0"
    focus := 5
    windows := [(5, ⟨none, text "input", ⟨1, 9⟩⟩), (9, ⟨some (text "mail", text "Mail"), text "Inbox", ⟨1, 483⟩⟩)] }

/-- The widget is described by its parent. -/
theorem focus_query_meaning_widget :
    let c : Connection := ⟨1, .own 0, "$DISPLAY"⟩
    let w := (Use.opening none).run Stage.library (World.initial widget)
    Reached Stage.library widget [.registered 1 (.own 0)] [c] w ∧
    ((c.focusedWindow Stage.library).run w).result = .ok (some ⟨5, "Inbox", "Mail", "mail"⟩) := by
  intro c w
  have h : Reached Stage.library widget [.registered 1 (.own 0)] [c] w :=
    .next (.opening none) .start fun _ _ _ hd => absurd hd List.not_mem_nil
  have law := focus_query_meaning h (c := c) (by simp)
  have howner : Stage.library.Owner 1 5 (Stage.library.next 1 .inputFocus w.server) 9 ("mail", "Mail") _ :=
    .first ⟨[(5, _), (4, _)], [], rfl, by decide, by decide +kernel⟩
  have hlt : (1 : WindowId) < 5 := by decide
  exact ⟨h, (law.2.2 _).mpr ⟨by decide, hlt, by decide, 9, ("mail", "Mail"), _,
    howner, by decide +kernel⟩⟩

end FocusLayout.Display
