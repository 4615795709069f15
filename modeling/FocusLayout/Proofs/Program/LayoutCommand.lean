import FocusLayout.Proofs.Display.Steady
import FocusLayout.Proofs.Layout.Faithful
import FocusLayout.Proofs.Program.Connecting
import FocusLayout.Proofs.Program.Invariant

/-!
# What the layout command prints

On any backend that tells the truth, the command prints the group in effect, described by the names as they were read
(`layout_true`). It reads these once, sooner or later (`listDevice`); a group to set is compared with them before
anything is locked (`layout_set_unavailable`).

A run on a connection is that command on its backend, and then the connection is closed (`carryOut_layout`). Together
with a keyboard that nobody else changes: `layout_command_truthful`.
-/

namespace FocusLayout.Program

open CommandLine (Invocation LayoutChange)
open Display (Address Connection Library Scene Shares Stage World mainKeyboard)
open Layout (Backend Bench Switcher)

variable {S σ : Type}

/-! ## On any backend -/

section Backend

variable {b : Backend S} {config : Config} {cycle : List Nat} {device device' : S} {bench : Bench S} {c : LayoutChange}
  {g : Nat} {text : String}

/-- The device that the names are read from: a group is set by its names, any other is only described by them. -/
def listDevice (b : Backend S) (cycle : List Nat) (device : S) : LayoutChange → S
  | .keep => (b.current.run device).state
  | .set _ => device
  | .next => if cycle.isEmpty then device else (b.current.run device).state

/-- After a change, the names are those that were read for it, or are read now. -/
theorem names_of_change_ok (h : (change b c).Ends (.fresh cycle device) (.ok g) bench) :
    ((Switcher.names b).run bench).result = (b.names.run (listDevice b cycle device c)).result := by
  cases c with
  | keep =>
    obtain ⟨-, rfl⟩ := h
    exact Switcher.result_names_fresh
  | set group => exact (Switcher.names_of_set_ok h).trans Switcher.result_names_fresh
  | next => exact Switcher.names_of_next_ok h

/-- What a change gives is the group in effect. -/
theorem change_true {I : S → Prop} {view : S → Nat} (h : b.Tells I view) {bench₀ : Bench S} (hI : I bench₀.device)
    (hc : (change b c).Ends bench₀ (.ok g) bench) : view bench.device = g := by
  cases c with
  | keep =>
    obtain ⟨hresult, rfl⟩ := hc
    exact h.current_true hI ⟨hresult, rfl⟩
  | set group => exact Switcher.set_true h hI hc
  | next => exact Switcher.next_true h hI hc

/-- The command changes the group and then describes it. -/
theorem of_layout_ok (h : (layout config b c).Ends device (.ok text) device') :
    ∃ g bench, (change b c).Ends (.fresh config.layout.cycle device) (.ok g) bench ∧
      text = line (Layout.groupText ((Switcher.names b).run bench).result g) ∧
      device' = ((Switcher.names b).run bench).state.device := by
  obtain ⟨bench', hbody, rfl⟩ := Switcher.of_begin h
  obtain ⟨g, bench, hchange, hrest⟩ := hbody.of_bind
  obtain ⟨described, bench₁, hdescribe, hline⟩ := hrest.of_bind
  obtain ⟨rfl, rfl⟩ := hline.of_pure
  obtain ⟨hresult, hstate⟩ := hdescribe
  have hends := Switcher.describe_ends b g bench
  obtain rfl := Except.ok.inj (hends.1.symm.trans hresult)
  exact ⟨g, bench, hchange, rfl, by rw [← hstate, hends.2]⟩

/-- **What is printed is the group in effect in the end**, described by the names as they were read. -/
theorem layout_true {I : S → Prop} {view : S → Nat} (h : b.Tells I view) (hI : I device)
    (hok : (layout config b c).Ends device (.ok text) device') :
    text = line (Layout.groupText (b.names.run (listDevice b config.layout.cycle device c)).result (view device')) := by
  obtain ⟨g, bench, hchange, rfl, rfl⟩ := of_layout_ok hok
  have hbench : I bench.device := hchange.2 ▸ preserves_change h.toPreserves c (.fresh config.layout.cycle device) hI
  rw [names_of_change_ok hchange, Switcher.names_still h hbench, change_true h hI hchange]

/-- Without the names no group is set, and nothing else is done. -/
theorem layout_set_without_names {f : Failure} (h : b.names.Ends device (.error f) device') :
    (layout config b (.set g)).Ends device (.error f) device' :=
  Switcher.begin_ends (Switcher.set_without_names (Switcher.names_fresh_error h)).bind_error

/-- Neither is one that is not available by the names. -/
theorem layout_set_unavailable {told : List String} (h : b.names.Ends device (.ok told) device')
    (hg : Switcher.groupsAvailable told ≤ g) :
    (layout config b (.set g)).Ends device (.error (.invalidLayout g (Switcher.groupsAvailable told))) device' :=
  Switcher.begin_ends (Switcher.set_unavailable (Switcher.names_fresh_ok h) hg).bind_error

end Backend

/-! ## On a connection -/

section Connected

variable (lib : Library σ) {config : Config} {c : Connection} {w w' : World σ} {r : Except Failure String}
  {change : LayoutChange} {text : String} {n : Nat}

/-- The command on a connection does what it does on its backend, and then the connection is closed. -/
theorem carryOut_layout (polls : Nat) (h : (layout config (c.backend lib) change).Ends w r w') :
    ∃ s, (carryOut lib config (some c) false polls (.layout change)).Ends (.opened w c) r s ∧
      s.world = ((c.close lib).run w').state := by
  have halone : (Surroundings.opened w c).shares.Of c := Shares.Of.empty.withShare _
  -- the backend has its share before the command lets go of its own, so nothing is closed in between
  let shared := (Surroundings.opened w c).withShares ((Surroundings.opened w c).shares.withShare .backend c)
  let handedOn := shared.withShares (shared.shares.without .command)
  have hkept : handedOn.shares ≠ .empty := Shares.withShare_without_ne_empty nofun
  have hmade : (makeBackend lib (some c) false).Ends (.opened w c)
      (.ok ((c.backend lib).within Surroundings.world Surroundings.withWorld)) shared := by
    rw [Step.Ends, run_makeBackend lib halone]
    exact ⟨rfl, rfl⟩
  have hgone : (letGo lib .command).Ends shared (.ok ()) handedOn := by
    rw [Step.Ends, run_letGo_kept lib (halone.withShare .backend) hkept]
    exact ⟨rfl, rfl⟩
  have hlayout : (layout config ((c.backend lib).within Surroundings.world Surroundings.withWorld) change).Ends
      handedOn r (handedOn.withWorld w') := by
    rw [layout_within isPart_world]
    exact Step.Ends.within h
  have hbody := hmade.bind_ok (k := fun backend => letGo lib .command >>= fun _ => layout config backend change)
    (hgone.bind_ok hlayout)
  have hreleased := run_releasing lib (c := c) (by rw [hbody.2]; exact (halone.withShare .backend).without .command)
    (by rw [hbody.2]; exact hkept)
  exact ⟨_, ⟨hreleased.1.trans hbody.1, rfl⟩, hreleased.2.trans (by rw [hbody.2]; rfl)⟩

/-! ### The names -/

/-- The server that the names are read from. -/
def listServer (lib : Library σ) (a : Address) (cycle : List Nat) (s : σ) : LayoutChange → σ
  | .keep => lib.next a (.keyboard mainKeyboard) s
  | .set _ => s
  | .next => if cycle.isEmpty then s else lib.next a (.keyboard mainKeyboard) s

/-- The names are those in the property, when they are read. -/
theorem result_listDevice (hw : c.Listens w.routes) (cycle : List Nat) (change : LayoutChange) :
    ((c.backend lib).names.run (listDevice (c.backend lib) cycle w change)).result =
      lib.layoutList c.address (listServer lib c.address cycle w.server change) := by
  have hread : ∀ w : World σ, c.Listens w.routes →
      ((c.backend lib).names.run w).result = lib.layoutList c.address w.server := by
    intro w hw
    obtain ⟨s', hnames⟩ := Connection.gives_layoutList lib c w.server
    exact (hnames w rfl hw).1
  have hlater : ((c.backend lib).names.run ((c.backend lib).current.run w).state).result =
      lib.layoutList c.address (lib.next c.address (.keyboard mainKeyboard) w.server) := by
    obtain ⟨-, hserver, hlistens⟩ := Connection.gives_currentGroup lib c w.server w rfl hw
    rw [hread _ hlistens, hserver]
  cases change with
  | keep => exact hlater
  | set group => exact hread w hw
  | next =>
    cases cycle with
    | nil => exact hread w hw
    | cons g rest => exact hlater

/-! ### The group -/

/-- What is printed is the group in effect, also after the connection has been closed. -/
theorem printed_group {group : σ → Nat} (h : lib.Steady group) (hw : c.Listens w.routes)
    (hok : (layout config (c.backend lib) change).Ends w (.ok text) w')
    (hbyte : group ((c.close lib).run w').state.server < UInt8.size) :
    text = line (Layout.groupText
      (lib.layoutList c.address (listServer lib c.address config.layout.cycle w.server change))
      (group ((c.close lib).run w').state.server)) := by
  have hclosed : group ((c.close lib).run w').state.server = group w'.server := by
    rw [Connection.server_close]
    exact h.closed _ _
  rw [hclosed] at hbyte ⊢
  rw [layout_true (Connection.tells_backend h) hw hok, result_listDevice lib hw, UInt8.toNat_ofNat_of_lt' hbyte]

/-! ### The lock -/

/-- Where the names cannot be read or do not make the group available, no lock is sent. -/
theorem neverLocked_layout_set (hw : c.Listens w.routes) (hlock : w.NeverLocked)
    (hnone : ∀ told, lib.layoutList c.address w.server = .ok told → Switcher.groupsAvailable told ≤ n)
    (hends : (layout config (c.backend lib) (.set n)).Ends w r w') : w'.NeverLocked := by
  have hread : (c.backend lib).names.Ends w (lib.layoutList c.address w.server) ((c.layoutNames lib).run w).state :=
    ⟨result_listDevice lib hw config.layout.cycle (.set n), rfl⟩
  -- either way the names are all that has been asked for
  have hstate : ((c.layoutNames lib).run w).state = w' := by
    cases hlist : lib.layoutList c.address w.server with
    | error f =>
      rw [hlist] at hread
      exact (layout_set_without_names hread).2.symm.trans hends.2
    | ok told =>
      rw [hlist] at hread
      exact (layout_set_unavailable hread (hnone told hlist)).2.symm.trans hends.2
  rw [← hstate]
  exact Connection.preserves_layoutNames (fun r hr => Connection.preserves_neverLocked lib c hr) w hlock

end Connected

/-! ## Every run of the command -/

section Command

variable (lib : Library σ) (server : σ) (env : Environment) (file : String → Option (List UInt8)) (polls : Nat)
  {words : List String} {invocation : Invocation} {change : LayoutChange} {name : Option String} {a : Address} {n : Nat}
  (hwords : CommandLine.read words = .ok invocation)

include hwords

/-- Without a connection the run fails and locks nothing. -/
theorem run_unconnected (hdry : invocation.isDryRun = false)
    (h : ∀ name a, access lib server env file words ≠ .granted name a) :
    (run lib (.initial server) env file polls words).report.code = 1 ∧
      (run lib (.initial server) env file polls words).world.NeverLocked := by
  have hcases := run_access lib server env file polls words
  cases haccess : access lib server env file words with
  | unasked =>
    rw [haccess] at hcases
    obtain ⟨hfailed, hworld⟩ := hcases
    exact ⟨hfailed invocation hwords hdry, by rw [hworld]; exact fun _ _ _ => List.not_mem_nil⟩
  | refused name =>
    rw [haccess] at hcases
    obtain ⟨hfailed, hworld⟩ := hcases
    refine ⟨hfailed invocation hwords hdry, ?_⟩
    rw [hworld]
    intro b device group hlock
    rw [Connection.requests_connect] at hlock
    simp [World.requests, World.initial] at hlock
  | granted name a => exact absurd haccess (h name a)

/-- With a connection the run ends as the command on its backend does. -/
theorem run_connected (hcommand : invocation.command = .layout change)
    (haccess : access lib server env file words = .granted name a) :
    ∃ plan, prepare env file words = .ok plan ∧ ∀ r w,
      (layout plan.config ((firstAt name a).backend lib) change).Ends (openedAt lib server name a) r w →
      (∃ log, (run lib (.initial server) env file polls words).report = .ofResult r log) ∧
        (run lib (.initial server) env file polls words).world = (((firstAt name a).close lib).run w).state := by
  have hcases := run_access lib server env file polls words
  rw [haccess] at hcases
  obtain ⟨plan, hplan, hending⟩ := hcases
  obtain rfl := Except.ok.inj (hwords.symm.trans (read_of_prepare_ok hplan))
  refine ⟨plan, hplan, fun r w hlayout => ?_⟩
  obtain ⟨s, hcarry, hworld⟩ := carryOut_layout lib polls hlayout
  rw [← hcommand] at hcarry
  rw [← hworld]
  exact hending r s hcarry

/-- What a run has printed is the group in effect in the end, with its name. -/
theorem printed_of_success (hdry : invocation.isDryRun = false) (hcommand : invocation.command = .layout change)
    {group : σ → Nat} (hsteady : lib.Steady group)
    (hcode : (run lib (.initial server) env file polls words).report.code = 0)
    (hbyte : group (run lib (.initial server) env file polls words).world.server < UInt8.size) :
    ∃ plan name a, prepare env file words = .ok plan ∧ access lib server env file words = .granted name a ∧
      (run lib (.initial server) env file polls words).report.output = line (Layout.groupText
        (lib.layoutList a (listServer lib a plan.config.layout.cycle (lib.connect name server).state change))
        (group (run lib (.initial server) env file polls words).world.server)) := by
  by_cases hconnected : ∃ name a, access lib server env file words = .granted name a
  · obtain ⟨name, a, haccess⟩ := hconnected
    obtain ⟨plan, hplan, hending⟩ := run_connected lib server env file polls hwords hcommand haccess
    obtain ⟨⟨log, hreport⟩, hworld⟩ := hending _ _ (.of_run _ _)
    rw [hreport] at hcode ⊢
    rw [hworld] at hbyte ⊢
    let command := layout plan.config ((firstAt name a).backend lib) change
    cases hresult : (command.run (openedAt lib server name a)).result with
    | error f =>
      rw [hresult] at hcode
      cases hcode
    | ok text =>
      have hprinted := printed_group lib hsteady (listens_openedAt lib server name a) ⟨hresult, rfl⟩ hbyte
      rw [server_openedAt] at hprinted
      exact ⟨plan, name, a, hplan, haccess, hprinted⟩
  · have hfailed := run_unconnected lib server env file polls hwords hdry fun name a h => hconnected ⟨name, a, h⟩
    rw [hfailed.1] at hcode
    cases hcode

/-- Where a run has locked a group, it is one that is named. -/
theorem named_of_locked (hdry : invocation.isDryRun = false) (hcommand : invocation.command = .layout (.set n))
    (hlocked : ¬(run lib (.initial server) env file polls words).world.NeverLocked) :
    ∃ name a names, access lib server env file words = .granted name a ∧
      lib.layoutList a (lib.connect name server).state = .ok names ∧ n < Layout.groupsNamed names := by
  by_contra hnone
  refine hlocked ?_
  by_cases hconnected : ∃ name a, access lib server env file words = .granted name a
  · obtain ⟨name, a, haccess⟩ := hconnected
    obtain ⟨plan, -, hending⟩ := run_connected lib server env file polls hwords hcommand haccess
    obtain ⟨-, hworld⟩ := hending _ _ (.of_run _ _)
    rw [hworld]
    refine Connection.neverLocked_close lib _ (neverLocked_layout_set lib (listens_openedAt lib server name a) ?_
      (fun told htold => ?_) (.of_run _ _))
    · intro b device group hlock
      rw [requests_openedAt] at hlock
      simp at hlock
    · -- by the number of names modulo 2 ^ 32, no more groups are available than are named
      rw [server_openedAt] at htold
      exact Nat.le_trans (Switcher.groupsAvailable_le_groupsNamed told)
        (Nat.le_of_not_lt fun hlt => hnone ⟨name, a, told, haccess, htold, hlt⟩)
  · exact (run_unconnected lib server env file polls hwords hdry fun name a h => hconnected ⟨name, a, h⟩).2

/-- A group that is not named is refused. -/
theorem refused_of_unnamed (hcommand : invocation.command = .layout (.set n)) {names : List String}
    (haccess : access lib server env file words = .granted name a)
    (hlist : lib.layoutList a (lib.connect name server).state = .ok names) (hn : Layout.groupsNamed names ≤ n) :
    ∃ log, (run lib (.initial server) env file polls words).report =
      .failure (Failure.invalidLayout n (Switcher.groupsAvailable names)).message log := by
  obtain ⟨plan, -, hending⟩ := run_connected lib server env file polls hwords hcommand haccess
  have hnames := result_listDevice lib (listens_openedAt lib server name a) plan.config.layout.cycle (.set n)
  rw [server_openedAt] at hnames
  have hread : ((firstAt name a).backend lib).names.Ends (openedAt lib server name a) (.ok names) _ :=
    ⟨hnames.trans hlist, rfl⟩
  have havailable := Nat.le_trans (Switcher.groupsAvailable_le_groupsNamed names) hn
  exact (hending _ _ (layout_set_unavailable hread havailable)).1

end Command

/-- **The layout command tells the truth.** Take any library and server, environment and settings file, and a command
line for the layout command that is no dry run.

If nobody else changes the group of the keyboard, which is a byte, a run that succeeds prints the group that is in
effect in the end, whatever the server has made of a lock. It is described by the names as they were read from the
server, if that was possible.

If a group is to be set, nothing is locked unless the names could be read and the group is one of those named. If they
could be read and it is not, the run fails for that reason. -/
theorem layout_command_truthful (lib : Library σ) (server : σ) (env : Environment)
    (file : String → Option (List UInt8)) (polls : Nat) {words : List String} {invocation : Invocation}
    {change : LayoutChange} (hwords : CommandLine.read words = .ok invocation) (hdry : invocation.isDryRun = false)
    (hcommand : invocation.command = .layout change) :
    let ending := run lib (.initial server) env file polls words
    (∀ group, lib.Steady group → ending.report.code = 0 → group ending.world.server < UInt8.size →
      ∃ plan name a, prepare env file words = .ok plan ∧ access lib server env file words = .granted name a ∧
        ending.report.output = line (Layout.groupText
          (lib.layoutList a (listServer lib a plan.config.layout.cycle (lib.connect name server).state change))
          (group ending.world.server))) ∧
    ∀ n, change = .set n →
      (¬ending.world.NeverLocked → ∃ name a names, access lib server env file words = .granted name a ∧
        lib.layoutList a (lib.connect name server).state = .ok names ∧ n < Layout.groupsNamed names) ∧
      ∀ name a names, access lib server env file words = .granted name a →
        lib.layoutList a (lib.connect name server).state = .ok names → Layout.groupsNamed names ≤ n →
        ∃ log, ending.report = .failure (Failure.invalidLayout n (Switcher.groupsAvailable names)).message log := by
  refine ⟨fun group hsteady => printed_of_success lib server env file polls hwords hdry hcommand hsteady, ?_⟩
  rintro n rfl
  exact ⟨named_of_locked lib server env file polls hwords hdry hcommand,
    fun name a names => refused_of_unnamed lib server env file polls hwords hcommand⟩

/-- A server with three layouts, and only two groups. -/
def crowded : Stage :=
  .ofScene { Scene.default with
    displays := [":0"]
    lock := ⟨1, false, 2⟩
    rules := ⟨77, ⟨0, 8, some (Text.Utf8.encode "evdev\x00pc105\x00us,de,ru\x00,,\x00")⟩⟩
    defaultDisplay := some ":0" }

/-- There the third layout is one of those named. It is locked, which brings the first one into effect, and that is what
is printed. -/
theorem layout_command_truthful_crowded :
    let words := ["layout", "--set", "2"]
    let env : Environment := [("RUST_LOG", ""), ("DISPLAY", ":0")]
    let ending := run Stage.library (.initial crowded) env (fun _ => none) 0 words
    ending.report.output = "0 (us)\n" ∧
    (∃ plan name a, prepare env (fun _ => none) words = .ok plan ∧
      access Stage.library crowded env (fun _ => none) words = .granted name a ∧
      ending.report.output = line (Layout.groupText
        (Stage.library.layoutList a
          (listServer Stage.library a plan.config.layout.cycle (Stage.library.connect name crowded).state (.set 2)))
        ending.world.server.group)) ∧
    ∃ name a names, access Stage.library crowded env (fun _ => none) words = .granted name a ∧
      Stage.library.layoutList a (Stage.library.connect name crowded).state = .ok names ∧
      2 < Layout.groupsNamed names := by
  intro words env ending
  have hwords : CommandLine.read words = .ok ⟨"xswitch.toml", false, none, .layout (.set 2)⟩ := by rfl
  have hcode : ending.report.code = 0 := by decide +kernel
  have hbyte : ending.world.server.group < UInt8.size := by decide +kernel
  have hlocked : ¬ending.world.NeverLocked := fun h => h 1 mainKeyboard 2 (by decide +kernel)
  have law := layout_command_truthful Stage.library crowded env (fun _ => none) 0 hwords rfl rfl
  refine ⟨?_, law.1 Stage.group Stage.steady_library hcode hbyte, (law.2 2 rfl).1 hlocked⟩
  decide +kernel

end FocusLayout.Program
