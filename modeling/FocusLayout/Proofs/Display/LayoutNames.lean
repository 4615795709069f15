import FocusLayout.Display.Scene
import FocusLayout.Proofs.Display.Asking
import FocusLayout.Proofs.Display.Keyboard
import FocusLayout.Proofs.Display.Use
import FocusLayout.Proofs.Layout.Names

/-!
# What the layout names of a server are

Only the beginning of the names property is asked for (`requests_layoutNames`). That is enough as soon as the field with
the names ends in it, since a field that has ended does not depend on what comes after it (`ofProperty_take`).

`layout_list_meaning` is the whole request: which failures it has and when, and which names it gives otherwise; whatever
the length of the property, they are those in its whole value if its third NUL is among the bytes asked for.
-/

namespace FocusLayout.Layout.Names

/-- The names can be read from the beginning of the property, if it has the third NUL, or is all there is. -/
theorem ofProperty_take {bytes : List UInt8} {n : Nat} (h : bytes.length ≤ n ∨ 3 ≤ (bytes.take n).count 0) :
    ofProperty (bytes.take n) = ofProperty bytes := by
  rcases h with hlength | hcount
  · rw [List.take_of_length_le hlength]
  · -- the third field has index 2, and its end is the third NUL
    have hthird : 2 < (bytes.take n).countP (· == 0) := hcount
    have hfield := Text.getElem?_fields_append hthird (bytes.drop n)
    rw [List.take_append_drop] at hfield
    unfold ofProperty
    rw [hfield]

end FocusLayout.Layout.Names

namespace FocusLayout.Display

open Step (Preserves)

variable {σ : Type}

/-! ## How much is asked for -/

/-- Of a property no more is asked for than its beginning. -/
def Exchange.IsLimited : Exchange → Prop
  | ask _ (.property _ _ offset length) => offset + length ≤ propertyLimit
  | _ => True

/-- Since an earlier world, no more has been asked for of any property than its beginning. -/
def World.LimitedSince (w w' : World σ) : Prop :=
  ∃ asked, w'.requests = w.requests ++ asked ∧ ∀ e ∈ asked, e.IsLimited

namespace Connection

variable (lib : Library σ) (c : Connection)

theorem preserves_limited {w₀ : World σ} {r : Request} (hr : (Exchange.ask c.address r).IsLimited) :
    (c.ask lib r).Preserves w₀.LimitedSince := by
  rintro w ⟨asked, hasked, hlimited⟩
  refine ⟨asked ++ [.ask c.address r, .sync c.address], ?_, fun e he => ?_⟩
  · rw [requests_ask, hasked, List.append_assoc]
  · simp only [List.mem_append, List.mem_cons, List.not_mem_nil, or_false] at he
    rcases he with he | rfl | rfl
    · exact hlimited e he
    · exact hr
    · trivial

/-- The layout names take only the beginning of the property. -/
theorem requests_layoutNames (w : World σ) : w.LimitedSince ((c.layoutNames lib).run w).state := by
  suffices h : (c.layoutNames lib).Preserves w.LimitedSince from h w ⟨[], (List.append_nil _).symm, nofun⟩
  have hatom : (Exchange.ask c.address (.atom rulesProperty true)).IsLimited := trivial
  refine (preserves_limited lib c hatom).bind fun atom => ?_
  split
  · exact .pure _
  · refine preserves_root.bind fun root => ?_
    have hbeginning : (Exchange.ask c.address (.property root atom 0 propertyLimit)).IsLimited :=
      Nat.le_of_eq (Nat.zero_add propertyLimit)
    refine (preserves_limited lib c hbeginning).bind fun property => ?_
    split
    · exact .fail _
    · exact .pure _

end Connection

/-! ## What is given -/

/-- There are no names without data or in another format than bytes, and else those in the data. -/
theorem Property.eq_layoutNames_iff {p : Property} {names : List String} :
    names = p.layoutNames ↔
      (names = [] ∧ (p.data = none ∨ p.format ≠ 8)) ∨
        ∃ bytes, p.data = some bytes ∧ p.format = 8 ∧ names = Layout.Names.ofProperty bytes := by
  have hnothing : Layout.Names.ofProperty [] = [] := rfl
  unfold layoutNames
  by_cases hformat : p.format = 8
  · cases hdata : p.data with
    | none => simp [hformat, hnothing]
    | some bytes => simp [hformat]
  · simp [hformat, hnothing]

/-- On the root window there is a property of bytes with this value: a request for any part of it gives that part, or
fails. -/
def Library.HasProperty (lib : Library σ) (a : Address) (s : σ) (atom : Nat) (value : List UInt8) : Prop :=
  ∀ offset length, let request := Request.property (lib.root a s) atom offset length
    ¬lib.Fails a request s →
      lib.reply a request s = (⟨0, 8, some ((value.drop (4 * offset)).take (4 * length))⟩ : Property)

/-- On a described server the property is the one described. -/
theorem Stage.hasProperty {s : Stage} {value : List UInt8} (h : s.scene.rules.property = ⟨0, 8, some value⟩)
    (a : Address) (atom : Nat) : Stage.library.HasProperty a s atom value := by
  intro offset length request _
  show ({ s.scene.rules.property with
    data := s.scene.rules.property.data.map fun bytes => (bytes.drop (4 * offset)).take (4 * length) } : Property) = _
  rw [h]
  rfl

variable {lib : Library σ} {server : σ} {history : List Happening} {live : List Connection} {w : World σ}

/-- **What the layout names of a server are.** Take any live connection at any point of any run. Asking for the names
fails exactly if the request for the atom of the property does, or if there is an atom and the request for the property
fails or has a status other than zero; each gives the failure its name. Otherwise it gives no names if there is no atom,
no data, or a format other than bytes, and else the names in the bytes. No more than the first 4096 bytes of the
property are asked for, but a value of any length gives the names in the whole value if its third NUL is among these
bytes, and so does a value that has no other bytes. -/
theorem layout_list_meaning (h : Reached lib server history live w) {c : Connection} (hc : c ∈ live) :
    let s := w.server
    let atom : Nat := lib.reply c.address (.atom rulesProperty true) s
    let s₁ := lib.next c.address (.atom rulesProperty true) s
    let request := Request.property (lib.root c.address s₁) atom 0 1024
    let property : Property := lib.reply c.address request s₁
    let ran := (c.layoutNames lib).run w
    (∀ f, ran.result = .error f ↔
      (lib.Fails c.address (.atom rulesProperty true) s ∧ f = .protocol "XInternAtom") ∨
      (¬lib.Fails c.address (.atom rulesProperty true) s ∧ atom ≠ 0 ∧ lib.Fails c.address request s₁ ∧
        f = .protocol "XGetWindowProperty") ∨
      (¬lib.Fails c.address (.atom rulesProperty true) s ∧ atom ≠ 0 ∧ ¬lib.Fails c.address request s₁ ∧
        property.status ≠ 0 ∧ f = .serviceUnavailable "XGetWindowProperty(_XKB_RULES_NAMES) не удался")) ∧
    (∀ names, ran.result = .ok names ↔
      ¬lib.Fails c.address (.atom rulesProperty true) s ∧
      ((atom = 0 ∧ names = []) ∨
        (atom ≠ 0 ∧ ¬lib.Fails c.address request s₁ ∧ property.status = 0 ∧
          ((names = [] ∧ (property.data = none ∨ property.format ≠ 8)) ∨
            ∃ bytes, property.data = some bytes ∧ property.format = 8 ∧
              names = Layout.Names.ofProperty bytes)))) ∧
    (∃ asked, ran.state.requests = w.requests ++ asked ∧
      ∀ a window atom offset length, .ask a (.property window atom offset length) ∈ asked → offset + length ≤ 1024) ∧
    ∀ value, lib.HasProperty c.address s₁ atom value → ¬lib.Fails c.address (.atom rulesProperty true) s → atom ≠ 0 →
      ¬lib.Fails c.address request s₁ → (value.length ≤ 4096 ∨ 3 ≤ (value.take 4096).count 0) →
      ran.result = .ok (Layout.Names.ofProperty value) := by
  intro s atom s₁ request property ran
  have hl : c.Listens w.routes := h.routed.listens hc
  obtain ⟨_, hgives⟩ := Connection.gives_layoutList lib c s
  have hresult : ran.result = lib.layoutList c.address s := (hgives w rfl hl).1
  have hlist : lib.layoutList c.address s =
      if lib.Fails c.address (.atom rulesProperty true) s then .error (.protocol "XInternAtom")
      else if atom = 0 then .ok []
      else if lib.Fails c.address request s₁ then .error (.protocol "XGetWindowProperty")
      else if property.status ≠ 0 then
        .error (.serviceUnavailable "XGetWindowProperty(_XKB_RULES_NAMES) не удался")
      else .ok property.layoutNames := rfl
  rw [hlist] at hresult
  rw [← and_assoc]
  refine ⟨?_, ?_, fun value hvalue hatom hne hproperty hthird => ?_⟩
  · -- failures and names are told apart by the same four questions
    simp only [← Property.eq_layoutNames_iff, hresult]
    by_cases hatom : lib.Fails c.address (.atom rulesProperty true) s
    · simp [hatom, eq_comm]
    by_cases hnone : atom = 0
    · simp [hatom, hnone, eq_comm]
    by_cases hproperty : lib.Fails c.address request s₁
    · simp [hatom, hnone, hproperty, eq_comm]
    by_cases hstatus : property.status = 0
    · simp [hatom, hnone, hproperty, hstatus, eq_comm]
    · simp [hatom, hnone, hproperty, hstatus, eq_comm]
  · obtain ⟨asked, hasked, hlimited⟩ := Connection.requests_layoutNames lib c w
    exact ⟨asked, hasked, fun a window atom offset length he => hlimited _ he⟩
  · have hbeginning : property = ⟨0, 8, some (value.take 4096)⟩ := hvalue 0 1024 hproperty
    rw [hresult, if_neg hatom, if_neg hne, if_neg hproperty, hbeginning, ← Layout.Names.ofProperty_take hthird]
    rfl

/-- The names property of a server with two layouts, and more options than are asked for. -/
def verboseRules : List UInt8 :=
  Layout.Names.written (Text.Utf8.encode "evdev") (Text.Utf8.encode "pc105") ["us", "ru"]
    (0 :: List.replicate 5000 0x2C)

/-- A server with this property. -/
def verbose : Stage :=
  .ofScene { Scene.default with
    displays := [":0"]
    defaultDisplay := some ":0"
    rules := ⟨300, ⟨0, 8, some verboseRules⟩⟩ }

/-- Both names are found, though the property is cut. -/
theorem layout_list_meaning_verbose :
    let c : Connection := ⟨1, .own 0, "$DISPLAY"⟩
    let w := (Use.opening none).run Stage.library (World.initial verbose)
    Reached Stage.library verbose [.registered 1 (.own 0)] [c] w ∧ 4096 < verboseRules.length ∧
    ((c.layoutNames Stage.library).run w).result = .ok ["us", "ru"] := by
  intro c w
  have h : Reached Stage.library verbose [.registered 1 (.own 0)] [c] w :=
    .next (.opening none) .start fun _ _ _ hd => absurd hd List.not_mem_nil
  obtain ⟨-, -, -, law⟩ := layout_list_meaning h (c := c) (by simp)
  have hvalue : Stage.library.HasProperty 1 (Stage.library.next 1 (.atom rulesProperty true) w.server) 300
      verboseRules := Stage.hasProperty rfl 1 300
  have hatom : (300 : Nat) ≠ 0 := by decide
  have hresult := law verboseRules hvalue (by decide) hatom (by decide) (.inr (by decide +kernel))
  have hnames : Layout.Names.ofProperty verboseRules = ["us", "ru"] := by decide +kernel
  exact ⟨h, by decide +kernel, hnames ▸ hresult⟩

end FocusLayout.Display
