import FocusLayout.Proofs.Display.Steady
import FocusLayout.Proofs.Display.Use
import FocusLayout.Proofs.Layout.Faithful
import FocusLayout.Proofs.Layout.Operations

/-!
# A dry run is like a real one

On a server whose keyboard does what it is asked (`Library.Obliging`) and has a group for every name, a switcher on a
connection does the same as one on a device in memory with the same names. Described servers can be like that
(`Stage.obliging_library`).

The device in memory locks any group, but what the server makes of one that its keyboard does not have is not said. They
agree only where the group is one of these, and that it is follows from what a switcher asks for: `mirrored_alike`
compares the calls that a switcher makes, `dry_run_mirrors_server` is the whole.
-/

namespace FocusLayout.Display

open Layout (Backend Bench Operation Switcher)

variable {σ α : Type}

/-! ## Keyboards that do what they are asked -/

namespace Library

variable (lib : Library σ) (P : σ → Prop) (group : σ → Nat)

/-- The request on the connection at an address brings no error, and leaves the server in one of the states `P` with
this group in effect. -/
structure Grants (a : Address) (r : Request) (s : σ) (g : Nat) : Prop where
  not_fails : ¬lib.Fails a r s
  stays : P (lib.next a r s)
  group_eq : group (lib.next a r s) = g

/-- In the states `P` the keyboard does what it is asked on the connection at an address: it tells its state, locks any
of its groups, and tells the same rules every time. -/
structure Obliging (groups : Nat) (a : Address) : Prop where
  state_granted : ∀ s, P s → lib.Grants P group a (.keyboard mainKeyboard) s (group s)
  /-- The state of the keyboard has the group, as a byte. -/
  state_told : ∀ s, P s → (lib.reply a (.keyboard mainKeyboard) s : KeyboardReply).status = 0 ∧
    (lib.reply a (.keyboard mainKeyboard) s : KeyboardReply).group = UInt8.ofNat (group s)
  lock_granted : ∀ s, P s → ∀ g < groups, lib.Grants P group a (.lockGroup mainKeyboard g) s g
  lock_sent : ∀ s, P s → ∀ g < groups, ∃ sent : Int, sent ≠ 0 ∧ lib.reply a (.lockGroup mainKeyboard g) s = sent
  /-- The server has the property with the layout names, and its value never changes. -/
  rules_told : ∃ (atom : Nat) (value : Property), atom ≠ 0 ∧ value.status = 0 ∧ ∀ s, P s →
    (lib.Grants P group a (.atom rulesProperty true) s (group s) ∧ lib.reply a (.atom rulesProperty true) s = atom) ∧
      lib.Grants P group a (.property (lib.root a s) atom 0 propertyLimit) s (group s) ∧
        lib.reply a (.property (lib.root a s) atom 0 propertyLimit) s = value

end Library

/-! ## The calls of a switcher -/

namespace Connection

variable {lib : Library σ} {P : σ → Prop} {group : σ → Nat} {groups g : Nat} {c : Connection} {s : σ}

/-- The step gives this result, and leaves the server in one of the states `P` with this group in effect. -/
def GivesIn (P : σ → Prop) (group : σ → Nat) (c : Connection) (t : Step (World σ) α) (s : σ) (r : Except Failure α)
    (g : Nat) : Prop :=
  ∃ s', c.Gives t s r s' ∧ P s' ∧ group s' = g

/-- A group that a keyboard can have is told as it is. -/
theorem givesIn_keyboard (h : lib.Obliging P group groups c.address) (hs : P s) (hg : group s < Layout.maxGroups) :
    ∃ k : Layout.Keyboard, k.group = group s ∧ c.GivesIn P group (c.keyboard lib) s (.ok k) (group s) := by
  obtain ⟨hstatus, hgroup⟩ := h.state_told s hs
  have hgranted := h.state_granted s hs
  have hsize : group s < UInt8.size := Nat.lt_trans hg (by decide)
  have hk : (lib.reply c.address (.keyboard mainKeyboard) s : KeyboardReply).group.toNat = group s := by
    rw [hgroup]
    exact UInt8.toNat_ofNat_of_lt hsize
  exact ⟨_, hk, _, gives_keyboard_ok hgranted.not_fails rfl hstatus, hgranted.stays, hgranted.group_eq⟩

theorem givesIn_current (h : lib.Obliging P group groups c.address) (hs : P s) (hg : group s < Layout.maxGroups) :
    c.GivesIn P group (c.backend lib).current s (.ok (group s)) (group s) := by
  obtain ⟨k, hk, s', hgives, hs', hgroup⟩ := givesIn_keyboard h hs hg
  refine ⟨s', ?_, hs', hgroup⟩
  rw [← hk]
  exact hgives.bind_ok (gives_pure _)

/-- A group that the keyboard has gets locked and is the one that is read again. -/
theorem givesIn_lock (h : lib.Obliging P group groups c.address) (hs : P s) (hg : g < groups)
    (hmax : g < Layout.maxGroups) : c.GivesIn P group ((c.backend lib).lock g) s (.ok g) g := by
  have hgranted := h.lock_granted s hs g hg
  obtain ⟨k, hk, s', hgives, hs', hgroup⟩ := givesIn_keyboard h hgranted.stays (hgranted.group_eq.symm ▸ hmax)
  rw [hgranted.group_eq] at hk hgroup
  obtain ⟨sent, hsent, hreply⟩ := h.lock_sent s hs g hg
  have hlock := gives_lockGroup_ok hgranted.not_fails hreply hsent hgives
  rw [hk] at hlock
  exact ⟨s', hlock, hs', hgroup⟩

/-- The names are the same in all of the states. -/
theorem givesIn_names (h : lib.Obliging P group groups c.address) :
    ∃ told, ∀ s, P s → c.GivesIn P group (c.backend lib).names s (.ok told) (group s) := by
  obtain ⟨atom, value, hatom, hstatus, htold⟩ := h.rules_told
  refine ⟨value.layoutNames, fun s hs => ?_⟩
  obtain ⟨⟨hgranted, hreply⟩, -⟩ := htold s hs
  obtain ⟨-, hgranted', hreply'⟩ := htold _ hgranted.stays
  exact ⟨_, gives_layoutNames_ok hgranted.not_fails hreply hatom rfl hgranted'.not_fails hreply' hstatus,
    hgranted'.stays, hgranted'.group_eq.trans hgranted.group_eq⟩

end Connection

/-! ## Server and memory -/

/-- The server is in one of the states `P` and has the same group in effect as the device in memory, which is one that a
keyboard can have. -/
structure Mirrored (P : σ → Prop) (group : σ → Nat) (c : Connection) (w : World σ) (m : Backend.Memory) : Prop where
  listens : c.Listens w.routes
  stays : P w.server
  group_eq : group w.server = m.group
  group_lt : m.group < Layout.maxGroups

section Mirrored

variable {lib : Library σ} {P : σ → Prop} {group : σ → Nat} {groups : Nat} {c : Connection} {names : List String}

/-- A step that leaves the server in one of the states leaves it mirrored by a device with its group. -/
theorem Mirrored.run {w : World σ} {m : Backend.Memory} {t : Step (World σ) α} {r : Except Failure α} {g : Nat}
    (h : Mirrored P group c w m) (ht : c.GivesIn P group t w.server r g) (hg : g < Layout.maxGroups) :
    (t.run w).result = r ∧ Mirrored P group c (t.run w).state { m with group := g } := by
  obtain ⟨s', hgives, hs', hgroup⟩ := ht
  obtain ⟨hresult, hserver, hlistens⟩ := hgives w rfl h.listens
  exact ⟨hresult, hlistens, hserver ▸ hs', hserver ▸ hgroup, hg⟩

/-- The two backends are alike in the calls of a switcher that knows no other names. -/
theorem mirrored_alike (h : lib.Obliging P group groups c.address)
    (hnames : ∀ s, P s → c.GivesIn P group (c.backend lib).names s (.ok names) (group s))
    (hgroups : Layout.groupsNamed names ≤ groups) :
    (c.backend lib).Alike
      (fun switcher w m => Mirrored P group c w m ∧ m.names = names ∧
        ∀ told, switcher.known = some told → told = names)
      Backend.dryRun where
  current := by
    rintro switcher w m ⟨hm, hk⟩
    have hcurrent := Connection.givesIn_current h hm.stays (hm.group_eq ▸ hm.group_lt)
    rw [hm.group_eq] at hcurrent
    obtain ⟨hresult, hm'⟩ := hm.run hcurrent hm.group_lt
    exact ⟨hresult, fun _ _ => ⟨hm', hk⟩, fun _ _ => ⟨hm', hk⟩⟩
  names := by
    rintro cycle w m ⟨hm, hsame, hk⟩
    have htold := hnames w.server hm.stays
    rw [hm.group_eq, ← hsame] at htold
    obtain ⟨hresult, hm'⟩ := hm.run htold hm.group_lt
    refine ⟨hresult, fun told hr => ⟨hm', hsame, fun known hknown => ?_⟩, fun _ _ => ⟨hm', hsame, hk⟩⟩
    obtain rfl := Option.some.inj hknown
    exact (Except.ok.inj (hresult.symm.trans hr)).symm.trans hsame
  lock := by
    rintro cycle told group hgroup w m ⟨hm, hsame, hk⟩
    -- the switcher has checked the group against the names, and the keyboard has a group for each of them
    obtain rfl : told = names := hk told rfl
    have hlt : group < groups :=
      Nat.lt_of_lt_of_le hgroup (Nat.le_trans (Switcher.groupsAvailable_le_groupsNamed told) hgroups)
    have hmax : group < Layout.maxGroups := Nat.lt_of_lt_of_le hgroup (Switcher.groupsAvailable_le told)
    obtain ⟨hresult, hm'⟩ := hm.run (Connection.givesIn_lock h hm.stays hlt hmax) hmax
    exact ⟨hresult, fun _ _ => ⟨hm', hsame, hk⟩, fun _ _ => ⟨hm', hsame, hk⟩⟩

/-- **A dry run is like a real one.** Take any live connection at any point of any run, to any server whose keyboard
does what it is asked on it. Let its first group be in effect, and let it have a group for each of the layout names that
the server tells, as far as keyboards have so many, or all four if it tells none. Then a switcher on the connection and
one on a device in memory with the same names give the same result in every operation, whatever operations have been
made on both before, and the same group is in effect. -/
theorem dry_run_mirrors_server {server : σ} {history : List Happening} {live : List Connection} {w : World σ}
    (h : Reached lib server history live w) (hc : c ∈ live) (hlib : lib.Obliging P group groups c.address)
    (hserver : P w.server) (hgroup : group w.server = 0) (hnames : ((c.layoutNames lib).run w).result = .ok names)
    (hgroups : Layout.groupsNamed names ≤ groups) (cycle : List Nat) (operations : List Operation) :
    let real := Operation.after (c.backend lib) operations (.fresh cycle w)
    let dry := Operation.after Backend.dryRun operations (.fresh cycle ⟨0, names⟩)
    (∀ o : Operation, ((o.on (c.backend lib)).run real).result = ((o.on Backend.dryRun).run dry).result) ∧
      group real.device.server = dry.device.group := by
  intro real dry
  have hmirrored : Mirrored P group c w ⟨0, names⟩ :=
    ⟨h.routed.listens hc, hserver, hgroup, (by decide : 0 < Layout.maxGroups)⟩
  obtain ⟨told, htold⟩ := Connection.givesIn_names hlib
  obtain rfl : told = names := by
    obtain ⟨s', hgives, -⟩ := htold w.server hserver
    exact Except.ok.inj ((hgives w rfl hmirrored.listens).1.symm.trans hnames)
  have halike := mirrored_alike hlib htold hgroups
  have hrelated := halike.after (.fresh cycle w) (.fresh cycle ⟨0, told⟩) ⟨rfl, hmirrored, rfl, nofun⟩ operations
  exact ⟨fun o => (halike.operation o real dry hrelated).1, hrelated.2.1.group_eq⟩

end Mirrored

/-! ## Described servers -/

namespace Stage

variable {s : Stage} {a : Address} {r : Request}

/-- No request on the connection goes wrong: there are no faults, and no error is still to come. -/
structure Calm (s : Stage) (a : Address) : Prop where
  no_faults : s.scene.faults = []
  none_waiting : a ∉ s.waiting

/-- A server whose keyboard does what it is asked on the connection, and tells its layout names. -/
structure Obliging (s : Stage) (a : Address) : Prop extends s.Calm a where
  state_told : s.scene.keyboard.status = 0
  lock_sent : s.scene.lock.sent ≠ 0
  lock_heeded : s.scene.lock.isIgnored = false
  rules_there : s.scene.rules.atom ≠ 0
  rules_told : s.scene.rules.property.status = 0

/-- The server with a group locked. -/
def withGroup (s : Stage) (group : Nat) : Stage :=
  { s with scene := { s.scene with keyboard := { s.scene.keyboard with group := group, lockedGroup := group } } }

/-! ### Single requests -/

theorem ask_calm (h : s.Calm a) (hr : s.scene.isAboutMissing r = false) :
    Stage.ask a r s = ⟨s.scene.reply r, [], { s with scene := s.scene.after r }⟩ := by
  have hfault : s.scene.fault? r.name = none := by
    unfold Scene.fault?
    rw [h.no_faults]
    rfl
  unfold Stage.ask
  rw [hfault, hr]
  rfl

theorem sync_calm (h : a ∉ s.waiting) : Stage.sync a s = ⟨(), [], s⟩ := by
  have hcome : s.waiting.filter (· == a) = [] := by
    rw [List.filter_eq_nil_iff]
    exact fun b hb heq => h (beq_iff_eq.mp heq ▸ hb)
  have hstay : s.waiting.filter (· != a) = s.waiting := by
    rw [List.filter_eq_self]
    exact fun b hb => bne_iff_ne.mpr fun heq => h (heq ▸ hb)
  unfold Stage.sync Stage.release
  rw [hcome, hstay]

theorem not_fails (h : s.Calm a) (hr : s.scene.isAboutMissing r = false) : ¬Stage.library.Fails a r s := by
  unfold Library.Fails Stage.library
  dsimp only
  rw [ask_calm h hr]
  dsimp only
  rw [sync_calm (s := { s with scene := s.scene.after r }) h.none_waiting]
  exact List.not_mem_nil

theorem reply_calm (h : s.Calm a) (hr : s.scene.isAboutMissing r = false) :
    Stage.library.reply a r s = s.scene.reply r := by
  unfold Library.reply Stage.library
  dsimp only
  rw [ask_calm h hr]

theorem next_calm (h : s.Calm a) (hr : s.scene.isAboutMissing r = false) :
    Stage.library.next a r s = { s with scene := s.scene.after r } := by
  unfold Library.next Stage.library
  dsimp only
  rw [ask_calm h hr]
  dsimp only
  rw [sync_calm (s := { s with scene := s.scene.after r }) h.none_waiting]

/-- Most requests change nothing. -/
theorem next_still (h : s.Calm a) (hr : s.scene.isAboutMissing r = false) (hs : s.scene.after r = s.scene) :
    Stage.library.next a r s = s := by
  rw [next_calm h hr, hs]

/-- A locked group is the one asked for if the keyboard has it. -/
theorem next_lockGroup (h : s.Obliging a) (device : Nat) {group : Nat} (hg : group < s.scene.lock.groups) :
    Stage.library.next a (.lockGroup device group) s = s.withGroup group := by
  rw [next_calm h.toCalm rfl]
  unfold Scene.after withGroup
  dsimp only
  rw [if_neg (by simp [h.lock_sent, h.lock_heeded]), Nat.max_eq_left (by omega), Nat.mod_eq_of_lt hg]

theorem Obliging.withGroup (h : s.Obliging a) (group : Nat) : (s.withGroup group).Obliging a := { h with }

/-! ### All requests -/

/-- The server is still obliging, and has the same lock and the same rules as at the beginning. -/
structure Kept (s₀ : Stage) (a : Address) (s : Stage) : Prop extends s.Obliging a where
  lock_eq : s.scene.lock = s₀.scene.lock
  rules_eq : s.scene.rules = s₀.scene.rules

variable {s₀ : Stage}

theorem Kept.refl (h : s.Obliging a) : s.Kept a s := ⟨h, rfl, rfl⟩

theorem Kept.grants_still (h : s₀.Kept a s) (hr : s.scene.isAboutMissing r = false)
    (hs : s.scene.after r = s.scene) : Stage.library.Grants (s₀.Kept a) group a r s s.group where
  not_fails := not_fails h.toCalm hr
  stays := (next_still h.toCalm hr hs).symm ▸ h
  group_eq := congrArg group (next_still h.toCalm hr hs)

theorem Kept.grants_lock (h : s₀.Kept a s) {g : Nat} (hg : g < s₀.scene.lock.groups) :
    Stage.library.Grants (s₀.Kept a) group a (.lockGroup mainKeyboard g) s g := by
  have hnext := next_lockGroup h.toObliging mainKeyboard (h.lock_eq ▸ hg)
  constructor
  · exact not_fails h.toCalm rfl
  · rw [hnext]
    exact ⟨h.toObliging.withGroup g, h.lock_eq, h.rules_eq⟩
  · rw [hnext]
    rfl

/-- A described server that is obliging at first stays so, since the requests change nothing but its group. -/
theorem obliging_library (h : s₀.Obliging a) :
    Stage.library.Obliging (s₀.Kept a) group s₀.scene.lock.groups a where
  state_granted s hs := hs.grants_still rfl rfl
  state_told s hs := ⟨hs.state_told, rfl⟩
  lock_granted s hs g hg := hs.grants_lock hg
  lock_sent s hs g hg := ⟨_, hs.lock_sent, reply_calm hs.toCalm rfl⟩
  rules_told := by
    refine ⟨s₀.scene.rules.atom, s₀.scene.reply (.property s₀.scene.root s₀.scene.rules.atom 0 propertyLimit),
      h.rules_there, h.rules_told, fun s hs => ⟨⟨hs.grants_still rfl rfl, ?_⟩, hs.grants_still rfl rfl, ?_⟩⟩
    · exact congrArg SceneRules.atom hs.rules_eq
    · rw [reply_calm hs.toCalm rfl]
      unfold Scene.reply
      rw [hs.rules_eq]

end Stage

/-- A server with three layouts and four groups. -/
def trilingual : Stage :=
  .ofScene { Scene.default with
    displays := [":0"]
    defaultDisplay := some ":0"
    rules := ⟨77, ⟨0, 8, some (Text.Utf8.encode "evdev\x00pc105\x00us,de,ru\x00,,\x00")⟩⟩ }

/-- There the fourth group is refused, although the server has it, and after the third the next one is the first again,
as on a device in memory. -/
theorem dry_run_mirrors_server_trilingual :
    let c : Connection := ⟨1, .own 0, "$DISPLAY"⟩
    let w := (Use.opening none).run Stage.library (World.initial trilingual)
    ((Switcher.next (c.backend Stage.library)).run
        (Operation.after (c.backend Stage.library) [.set 3, .apply 2] (.fresh [] w))).result = .ok 0 ∧
      (Operation.after (c.backend Stage.library) [.set 3, .apply 2]
        (.fresh [] w)).device.server.scene.keyboard.group = 2 := by
  intro c w
  have h : Reached Stage.library trilingual [.registered 1 (.own 0)] [c] w :=
    .next (.opening none) .start fun _ _ _ hd => absurd hd List.not_mem_nil
  have hserver : w.server.Obliging c.address :=
    ⟨⟨rfl, List.not_mem_nil⟩, rfl, by decide, rfl, by decide, rfl⟩
  have hfirst : w.server.group = 0 := rfl
  have hnames : ((c.layoutNames Stage.library).run w).result = .ok ["us", "de", "ru"] := by decide +kernel
  have hgroups : Layout.groupsNamed ["us", "de", "ru"] ≤ w.server.scene.lock.groups := by decide
  obtain ⟨hsame, hsameGroup⟩ :=
    dry_run_mirrors_server h (List.mem_singleton_self c) (Stage.obliging_library hserver) (.refl hserver) hfirst hnames
      hgroups [] [.set 3, .apply 2]
  have hnext : ((Switcher.next (c.backend Stage.library)).run _).result =
      ((Switcher.next Backend.dryRun).run _).result := hsame .next
  exact ⟨hnext.trans rfl, hsameGroup.trans rfl⟩

end FocusLayout.Display
