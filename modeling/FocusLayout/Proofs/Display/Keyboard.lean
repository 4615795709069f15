import FocusLayout.Display.Keyboard
import FocusLayout.Proofs.Display.Request

/-!
# What the keyboard requests give

The state of the keyboard and the layout names, by the replies to the requests for them (`Library.keyboardState`,
`Library.layoutList`); and these and locking a group, if all requests succeed (`gives_keyboard_ok`,
`gives_lockGroup_ok`, `gives_layoutNames_ok`).
-/

namespace FocusLayout.Display

variable {σ : Type}

/-- The keyboard that a reply tells of. -/
def KeyboardReply.keyboard (reply : KeyboardReply) : Layout.Keyboard :=
  ⟨reply.group.toNat, reply.lockedGroup.toNat, reply.modifiers⟩

/-- The layout names in the value of a property. -/
def Property.layoutNames (p : Property) : List String :=
  Layout.Names.ofProperty (if p.format = 8 then p.data.getD [] else [])

namespace Library

variable (lib : Library σ) (a : Address) (s : σ)

/-- The state of the keyboard as the server tells it. -/
def keyboardState : Except Failure Layout.Keyboard :=
  let reply : KeyboardReply := lib.reply a (.keyboard mainKeyboard) s
  if lib.Fails a (.keyboard mainKeyboard) s then .error (.protocol "XkbGetState")
  else if reply.status ≠ 0 then
    .error (.serviceUnavailable s!"XkbGetState вернул {reply.status} (нет расширения XKB?)")
  else .ok reply.keyboard

/-- The layout names in the property with an atom. -/
def listIn (atom : Nat) : Except Failure (List String) :=
  let request := Request.property (lib.root a s) atom 0 propertyLimit
  let property : Property := lib.reply a request s
  if lib.Fails a request s then .error (.protocol "XGetWindowProperty")
  else if property.status ≠ 0 then .error (.serviceUnavailable s!"XGetWindowProperty({rulesProperty}) не удался")
  else .ok property.layoutNames

/-- The layout names as the server tells them: none without the property. -/
def layoutList : Except Failure (List String) :=
  let atom : Nat := lib.reply a (.atom rulesProperty true) s
  if lib.Fails a (.atom rulesProperty true) s then .error (.protocol "XInternAtom")
  else if atom = 0 then .ok []
  else lib.listIn a (lib.next a (.atom rulesProperty true) s) atom

end Library

namespace Connection

variable {lib : Library σ} {c : Connection} {s s' : σ}

/-- The state of the keyboard takes one request. -/
theorem gives_keyboardState (lib : Library σ) (c : Connection) (s : σ) :
    c.Gives (c.keyboard lib) s (lib.keyboardState c.address s) (lib.next c.address (.keyboard mainKeyboard) s) := by
  unfold Library.keyboardState
  dsimp only
  by_cases hfails : lib.Fails c.address (.keyboard mainKeyboard) s
  · rw [if_pos hfails]
    exact (gives_ask_error hfails).bind_error
  · rw [if_neg hfails]
    refine (gives_ask_ok hfails).bind_ok ?_
    split
    · exact gives_fail _
    · exact gives_pure _

/-- So does the group in effect. -/
theorem gives_currentGroup (lib : Library σ) (c : Connection) (s : σ) :
    c.Gives (c.backend lib).current s ((lib.keyboardState c.address s).map (·.group))
      (lib.next c.address (.keyboard mainKeyboard) s) := by
  have hkeyboard := gives_keyboardState lib c s
  cases hk : lib.keyboardState c.address s with
  | error f =>
    rw [hk] at hkeyboard
    exact hkeyboard.bind_error
  | ok k =>
    rw [hk] at hkeyboard
    exact hkeyboard.bind_ok (gives_pure _)

/-- The property takes one request. -/
theorem gives_listIn (lib : Library σ) (c : Connection) (s : σ) (atom : Nat) :
    c.Gives (do
      let root ← c.root lib
      let property : Property ← c.ask lib (.property root atom 0 propertyLimit)
      if property.status ≠ 0 then
        Step.fail (.serviceUnavailable s!"XGetWindowProperty({rulesProperty}) не удался")
      else
        return property.layoutNames)
      s (lib.listIn c.address s atom)
      (lib.next c.address (.property (lib.root c.address s) atom 0 propertyLimit) s) := by
  unfold Library.listIn
  dsimp only
  by_cases hfails : lib.Fails c.address (.property (lib.root c.address s) atom 0 propertyLimit) s
  · rw [if_pos hfails]
    exact (gives_root lib).bind_ok (gives_ask_error hfails).bind_error
  · rw [if_neg hfails]
    refine (gives_root lib).bind_ok ((gives_ask_ok hfails).bind_ok ?_)
    split
    · exact gives_fail _
    · exact gives_pure _

/-- The layout names take one request, and another one if there is a property. -/
theorem gives_layoutList (lib : Library σ) (c : Connection) (s : σ) :
    ∃ s', c.Gives (c.layoutNames lib) s (lib.layoutList c.address s) s' := by
  have hatom := gives_ask lib c (.atom rulesProperty true) s
  unfold Library.layoutList layoutNames
  by_cases hfails : lib.Fails c.address (.atom rulesProperty true) s
  · rw [if_pos hfails] at hatom ⊢
    exact ⟨_, hatom.bind_error⟩
  rw [if_neg hfails] at hatom ⊢
  by_cases hnone : @Eq Nat (lib.reply c.address (.atom rulesProperty true) s) 0
  · rw [if_pos hnone]
    exact ⟨_, hatom.bind_ok (by rw [if_pos hnone]; exact gives_pure _)⟩
  · have hproperty := gives_listIn lib c (lib.next c.address (.atom rulesProperty true) s)
      (lib.reply c.address (.atom rulesProperty true) s)
    rw [if_neg hnone]
    exact ⟨_, hatom.bind_ok (by rw [if_neg hnone]; exact hproperty)⟩

/-- The keyboard is as the reply tells. -/
theorem gives_keyboard_ok {reply : KeyboardReply} (hfails : ¬lib.Fails c.address (.keyboard mainKeyboard) s)
    (hreply : lib.reply c.address (.keyboard mainKeyboard) s = reply) (hstatus : reply.status = 0) :
    c.Gives (c.keyboard lib) s (.ok reply.keyboard) (lib.next c.address (.keyboard mainKeyboard) s) := by
  subst hreply
  have hstate : lib.keyboardState c.address s = .ok _ := (if_neg hfails).trans (if_neg (not_not.mpr hstatus))
  exact hstate ▸ gives_keyboardState lib c s

/-- A lock that is sent gives the group that the keyboard tells afterwards. -/
theorem gives_lockGroup_ok {group : Nat} {sent : Int} {k : Layout.Keyboard}
    (hfails : ¬lib.Fails c.address (.lockGroup mainKeyboard group) s)
    (hreply : lib.reply c.address (.lockGroup mainKeyboard group) s = sent) (hsent : sent ≠ 0)
    (hkeyboard : c.Gives (c.keyboard lib) (lib.next c.address (.lockGroup mainKeyboard group) s) (.ok k) s') :
    c.Gives (c.lockGroup lib group) s (.ok k.group) s' := by
  subst hreply
  refine (gives_ask_ok hfails).bind_ok ?_
  rw [if_neg hsent]
  exact hkeyboard.bind_ok ((gives_say _ _ _).bind_ok (gives_pure _))

/-- The names are those in the property, if the server has it. -/
theorem gives_layoutNames_ok {atom : Nat} {p : Property} {s₁ : σ}
    (hfails : ¬lib.Fails c.address (.atom rulesProperty true) s)
    (hatom : lib.reply c.address (.atom rulesProperty true) s = atom) (hne : atom ≠ 0)
    (hnext : lib.next c.address (.atom rulesProperty true) s = s₁)
    (hfails' : ¬lib.Fails c.address (.property (lib.root c.address s₁) atom 0 propertyLimit) s₁)
    (hreply : lib.reply c.address (.property (lib.root c.address s₁) atom 0 propertyLimit) s₁ = p)
    (hstatus : p.status = 0) :
    c.Gives (c.layoutNames lib) s (.ok p.layoutNames)
      (lib.next c.address (.property (lib.root c.address s₁) atom 0 propertyLimit) s₁) := by
  subst hatom hnext hreply
  have hlist : lib.listIn c.address (lib.next c.address (.atom rulesProperty true) s)
      (lib.reply c.address (.atom rulesProperty true) s) = .ok _ :=
    (if_neg hfails').trans (if_neg (not_not.mpr hstatus))
  refine (gives_ask_ok hfails).bind_ok ?_
  rw [if_neg hne]
  exact hlist ▸ gives_listIn lib c _ _

end Connection

end FocusLayout.Display
