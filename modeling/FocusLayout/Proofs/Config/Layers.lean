import FocusLayout.Proofs.Config.Loading
import FocusLayout.Proofs.Config.Variables
import FocusLayout.Proofs.Data.Keys

/-!
# The layers of a configuration

The settings are the values of the leaves (`Leaf`), and a configuration is read from these alone
(`read_eq_of_leaves`). In the merged layers each leaf has its own value from one layer: that of the last variable that
names it, else the one in the file's document (`FileSays`), else the default one (`at?_layers`).
-/

namespace FocusLayout.Config

open Data (Value Entries)
open Data.Value (at?)
open Environment (settingOf settings nest)

/-! ## Leaves -/

/-- The settings that hold a value of their own. -/
inductive Leaf where
  | level
  | format
  | filter
  | displayName
  | cycle
  | pollingInterval
  | defaultLayout
  | rules
  deriving DecidableEq, Repr

namespace Leaf

/-- The keys that lead to the setting. -/
def path : Leaf → List String
  | level => ["logging", "level"]
  | format => ["logging", "format"]
  | filter => ["logging", "filter"]
  | displayName => ["display", "name"]
  | cycle => ["layout", "cycle"]
  | pollingInterval => ["watch", "polling_interval_ms"]
  | defaultLayout => ["watch", "default_layout"]
  | rules => ["rules"]

/-- The name of the variable for the setting, in capitals. -/
def variableName : Leaf → String
  | level => "XSWITCH_LOGGING__LEVEL"
  | format => "XSWITCH_LOGGING__FORMAT"
  | filter => "XSWITCH_LOGGING__FILTER"
  | displayName => "XSWITCH_DISPLAY__NAME"
  | cycle => "XSWITCH_LAYOUT__CYCLE"
  | pollingInterval => "XSWITCH_WATCH__POLLING_INTERVAL_MS"
  | defaultLayout => "XSWITCH_WATCH__DEFAULT_LAYOUT"
  | rules => "XSWITCH_RULES"

/-- The value of the setting where nothing is said. -/
def default : Leaf → Value
  | level => .string "info"
  | format => .string "compact"
  | filter => .string ""
  | displayName => .absent
  | cycle => .array []
  | pollingInterval => .unsigned 250
  | defaultLayout => .absent
  | rules => .array []

/-- The keys of the settings that hold others. -/
def sections : List String := ["display", "layout", "logging", "watch"]

theorem path_cases (leaf : Leaf) :
    leaf.path = ["rules"] ∨ ∃ name ∈ sections, ∃ field, leaf.path = [name, field] := by
  cases leaf <;> simp [path, sections]

/-- No setting lies inside another. -/
theorem path_eq_of_prefix {a b : Leaf} (h : a.path <+: b.path) : a.path = b.path := by
  revert h
  cases a <;> cases b <;> decide

theorem settingOf_variableName (leaf : Leaf) : settingOf leaf.variableName = some leaf.path := by
  cases leaf <;> decide

theorem at?_default (leaf : Leaf) : at? leaf.path (.dict Config.default.toEntries) = some leaf.default := by
  cases leaf <;> rfl

theorem default_not_isDict (leaf : Leaf) : ¬leaf.default.IsDict := by
  cases leaf <;> exact nofun

end Leaf

/-! ## The layers -/

/-- The sections that a file has are tables. -/
def SectionsAreTables (file : Entries) : Prop :=
  ∀ name ∈ Leaf.sections, ∀ v ∈ file.lookup? name, v.IsDict

instance (file : Entries) : Decidable (SectionsAreTables file) :=
  inferInstanceAs (Decidable (∀ name ∈ Leaf.sections, ∀ v ∈ file.lookup? name, v.IsDict))

/-- Each variable with a setting sets one of the leaves, and no dictionary. -/
def SetsLeaves (env : Environment) : Prop :=
  ∀ entry ∈ env, ∀ keys ∈ settingOf entry.1, (∃ leaf : Leaf, keys = leaf.path) ∧ ¬(Data.Brief.read entry.2).IsDict

/-- The value of the last variable that names a leaf. -/
def lastSetting (env : Environment) (leaf : Leaf) : Option Value :=
  (env.filter fun entry => settingOf entry.1 == some leaf.path).getLast?.map fun entry => Data.Brief.read entry.2

/-- The value that a leaf should have: that of the last variable that names it, else the file's, else the default. -/
def latest (file : Entries) (env : Environment) (leaf : Leaf) : Value :=
  ((lastSetting env leaf).or (at? leaf.path (.dict file))).getD leaf.default

variable {file : Entries} {env : Environment} {leaf : Leaf}

theorem leads_of_keyed (hkeyed : (Value.dict file).Keyed) (h : SectionsAreTables file) (leaf : Leaf) :
    (Value.dict file).Leads leaf.path := by
  obtain ⟨hnodup, hentries⟩ : file.keys.Nodup ∧ ∀ e ∈ file, e.2.Keyed := by
    cases hkeyed with
    | scalar hscalar => cases hscalar
    | dict hnodup hentries => exact ⟨hnodup, hentries⟩
  rcases leaf.path_cases with hpath | ⟨name, hname, field, hpath⟩
  · rw [hpath]
    exact ⟨file, rfl, hnodup, fun _ _ => trivial⟩
  · rw [hpath]
    refine ⟨file, rfl, hnodup, fun inner hinner => ?_⟩
    obtain ⟨sub, rfl⟩ := h name hname inner hinner
    have hsub : (Value.dict sub).Keyed := hentries _ (Data.Pairs.mem_of_lookup? hinner)
    cases hsub with
    | scalar hscalar => cases hscalar
    | dict hsub _ => exact ⟨sub, rfl, hsub, fun _ _ => trivial⟩

theorem leads_default (leaf : Leaf) : (Value.dict default.toEntries).Leads leaf.path := by
  rcases leaf.path_cases with hpath | ⟨name, hname, field, hpath⟩
  · rw [hpath]
    exact ⟨_, rfl, by decide, fun _ _ => trivial⟩
  · rw [hpath]
    refine ⟨_, rfl, by decide, fun inner hinner => ?_⟩
    simp only [Leaf.sections, List.mem_cons, List.not_mem_nil, or_false] at hname
    rcases hname with rfl | rfl | rfl | rfl <;> (cases hinner; exact ⟨_, rfl, by decide, fun _ _ => trivial⟩)

theorem settings_append (env : Environment) (entry : String × String) :
    settings (env ++ [entry]) =
      match settingOf entry.1 with
      | some keys => (settings env).merge (nest keys (Data.Brief.read entry.2))
      | none => settings env := by
  cases h : settingOf entry.1 <;> simp [settings, Environment.settingsOf, h]

theorem lastSetting_append (env : Environment) (entry : String × String) (leaf : Leaf) :
    lastSetting (env ++ [entry]) leaf =
      if settingOf entry.1 = some leaf.path then some (Data.Brief.read entry.2) else lastSetting env leaf := by
  by_cases h : settingOf entry.1 = some leaf.path <;> simp [lastSetting, h]

/-- Where no dictionaries meet, the later value stands. -/
theorem map_over_or {earlier later : Option Value} (h : ∀ u ∈ earlier, ∀ v ∈ later, ¬u.IsDict ∨ ¬v.IsDict) :
    (later.map (Value.laidOn earlier)).or earlier = later.or earlier := by
  cases later with
  | none => rfl
  | some v =>
    cases earlier with
    | none => rfl
    | some u => rw [Option.map_some, Value.laidOn, Value.merge_eq_later (h u rfl v rfl)]

/-- **Repeated variables**: each leaf has the value of the last one that names it. -/
theorem settings_spec (h : SetsLeaves env) (leaf : Leaf) :
    (settings env).Leads leaf.path ∧ at? leaf.path (settings env) = lastSetting env leaf := by
  induction env using List.reverseRecOn with
  | nil => cases leaf <;> exact ⟨⟨[], rfl, List.nodup_nil, nofun⟩, rfl⟩
  | append_singleton env entry ih =>
    obtain ⟨hleads, hat⟩ := ih fun e he => h e (List.mem_append_left _ he)
    rw [settings_append, lastSetting_append]
    cases hkeys : settingOf entry.1 with
    | none =>
      rw [if_neg nofun]
      exact ⟨hleads, hat⟩
    | some keys =>
      obtain ⟨⟨other, rfl⟩, hvalue⟩ := h entry (by simp) keys hkeys
      have hnest : (nest other.path (Data.Brief.read entry.2)).Leads leaf.path :=
        Environment.leads_nest Leaf.path_eq_of_prefix
      refine ⟨hleads.merge hnest, ?_⟩
      rw [Value.at?_merge _ hnest, Environment.at?_nest Leaf.path_eq_of_prefix Leaf.path_eq_of_prefix, map_over_or, hat]
      · by_cases hpath : other.path = leaf.path <;> simp [hpath]
      · intro u _ v hv
        split at hv
        · cases hv
          exact .inr hvalue
        · cases hv

theorem lastSetting_not_isDict (h : SetsLeaves env) {v : Value} (hv : lastSetting env leaf = some v) : ¬v.IsDict := by
  obtain ⟨entry, hentry, rfl⟩ := Option.map_eq_some_iff.mp hv
  obtain ⟨hmem, hkeys⟩ := List.mem_filter.mp (List.mem_of_getLast? hentry)
  exact (h entry hmem _ (eq_of_beq hkeys)).2

theorem isDict_of_leads {v : Value} (h : v.Leads leaf.path) : v.IsDict := by
  rcases leaf.path_cases with hpath | ⟨name, -, field, hpath⟩ <;>
    (rw [hpath] at h
     obtain ⟨entries, rfl, -, -⟩ := h
     exact Value.isDict_dict entries)

/-- **The layers of a leaf.** -/
theorem at?_layers (hkeyed : (Value.dict file).Keyed) (hsections : SectionsAreTables file) (hvariables : SetsLeaves env)
    (leaf : Leaf) : at? leaf.path (.dict (layers file env)) = some (latest file env leaf) := by
  obtain ⟨henv, hat⟩ := settings_spec hvariables leaf
  have hfile : (Value.dict file).Leads leaf.path := leads_of_keyed hkeyed hsections leaf
  have hbelow := (leads_default leaf).merge hfile
  -- what has a path through it is a dictionary, so nothing is lost in taking its entries
  have hdict : Value.dict (layers file env) =
      ((Value.dict default.toEntries).merge (.dict file)).merge (settings env) := by
    obtain ⟨entries, hentries⟩ : (((Value.dict default.toEntries).merge (.dict file)).merge (settings env)).IsDict :=
      isDict_of_leads (hbelow.merge henv)
    rw [layers, hentries]
    rfl
  rw [hdict, Value.at?_merge _ henv, map_over_or, Value.at?_merge _ hfile, map_over_or, hat, Leaf.at?_default]
  · unfold latest
    cases lastSetting env leaf <;> cases at? leaf.path (.dict file) <;> rfl
  · intro u hu _ _
    rw [Leaf.at?_default] at hu
    cases hu
    exact .inl leaf.default_not_isDict
  · intro _ _ v hv
    exact .inr (lastSetting_not_isDict hvariables (hat ▸ hv))

/-! ## The file -/

/-- What a settings file says: a missing one nothing, any other what its document says. -/
inductive FileSays : Option (List UInt8) → Entries → Prop
  | missing : FileSays none []
  | document {content : List UInt8} {entries : Entries} :
      Data.Toml.read? content = some entries → FileSays (some content) entries

namespace FileSays

variable {bytes : Option (List UInt8)} {entries : Entries}

theorem fileEntries_eq (h : FileSays bytes entries) : fileEntries bytes = .ok entries := by
  cases h with
  | missing => rfl
  | document hread =>
    unfold fileEntries
    simp only [hread]

/-- No table of a settings file has a key twice. -/
theorem keyed (h : FileSays bytes entries) : (Value.dict entries).Keyed := by
  cases h with
  | missing => exact .dict List.nodup_nil (List.forall_mem_nil _)
  | document hread => exact Data.Toml.keyed_read? hread

end FileSays

/-! ## Reading -/

/-- The entries with these values at the leaves and nothing else. -/
def ofLeaves (f : Leaf → Value) : Entries :=
  [("display", .dict [("name", f .displayName)]),
    ("layout", .dict [("cycle", f .cycle)]),
    ("logging", .dict [("filter", f .filter), ("format", f .format), ("level", f .level)]),
    ("rules", f .rules),
    ("watch", .dict [("default_layout", f .defaultLayout), ("polling_interval_ms", f .pollingInterval)])]

/-- A configuration from the merged entries. -/
def ofEntries (entries : Entries) : Except LoadError Config :=
  match read entries with
  | .error problem => .error (.unfit problem)
  | .ok c =>
    match c.validate with
    | .ok () => .ok c.indexed
    | .error fault => .error (.invalid fault)

section Reading

variable {entries sub other : Entries} {name field : String} {v : Value} {f : Leaf → Value}
  {bytes : Option (List UInt8)}

theorem lookup?_of_at? (h : at? [name, field] (.dict entries) = some v) :
    ∃ sub : Entries, entries.lookup? name = some (.dict sub) ∧ sub.lookup? field = some v := by
  rw [Value.at?_cons_dict] at h
  obtain ⟨inner, hinner, h⟩ := Option.bind_eq_some_iff.mp h
  cases inner with
  | dict sub =>
    rw [Value.at?_cons_dict] at h
    obtain ⟨u, hu, h⟩ := Option.bind_eq_some_iff.mp h
    cases h
    exact ⟨sub, hinner, hu⟩
  | _ => cases h

/-- The sections that two leaves are in are one if they have the same name. -/
theorem lookup?_of_at?_same (hsub : entries.lookup? name = some (.dict sub))
    (h : at? [name, field] (.dict entries) = some v) : sub.lookup? field = some v := by
  obtain ⟨other, hother, hfield⟩ := lookup?_of_at? h
  rw [hsub] at hother
  cases hother
  exact hfield

/-- **Reading looks at the leaves only.** -/
theorem read_eq_of_leaves (h : ∀ leaf : Leaf, at? leaf.path (.dict entries) = some (f leaf)) :
    read entries = read (ofLeaves f) := by
  obtain ⟨display, hdisplay, hname⟩ := lookup?_of_at? (h .displayName)
  obtain ⟨layout, hlayout, hcycle⟩ := lookup?_of_at? (h .cycle)
  obtain ⟨logging, hlogging, hlevel⟩ := lookup?_of_at? (h .level)
  obtain ⟨watch, hwatch, hinterval⟩ := lookup?_of_at? (h .pollingInterval)
  have hformat := lookup?_of_at?_same hlogging (h .format)
  have hfilter := lookup?_of_at?_same hlogging (h .filter)
  have hdefault := lookup?_of_at?_same hwatch (h .defaultLayout)
  have hrules : entries.lookup? "rules" = some (f .rules) := by
    obtain ⟨v, hv, hrules⟩ := Option.bind_eq_some_iff.mp (h .rules)
    rwa [← Option.some.inj hrules]
  simp [read, Reader.field?, ofLeaves, Data.Pairs.lookup?_cons, Display.read, Layout.read, Logging.read, Watch.read,
    Reader.section, hdisplay, hname, hlayout, hcycle, hlogging, hlevel, hformat, hfilter, hwatch, hinterval, hdefault,
    hrules]

theorem load_eq_ofEntries (h : FileSays bytes entries) : load bytes env = ofEntries (layers entries env) := by
  have hextract : extract bytes env = (read (layers entries env)).mapError .unfit := by
    unfold extract
    rw [h.fileEntries_eq]
    dsimp only [bind, Except.bind]
    cases read (layers entries env) with
    | error problem => rfl
    | ok c => rfl
  cases hread : read (layers entries env) with
  | error problem =>
    rw [hread] at hextract
    rw [load_of_extract_error hextract, ofEntries, hread]
  | ok c =>
    rw [hread] at hextract
    cases hvalid : c.validate with
    | error fault => simp only [load_of_extract_ok hextract, ofEntries, hread, hvalid]
    | ok _ => simp only [load_of_extract_ok hextract, ofEntries, hread, hvalid]

/-- **The layers of a configuration.** If the sections of the file are tables and each variable with a setting sets one
leaf, then every leaf has the value of the last variable that names it, else the one that the file's document gives it,
else the default one; and the configuration is what these values make, so nothing else in the layers counts. A missing
file gives no values. The variable for a leaf may be written in any letter case. -/
theorem load_eq_latest (hfile : FileSays bytes entries) (hsections : SectionsAreTables entries)
    (hvariables : SetsLeaves env) :
    (∀ leaf : Leaf, at? leaf.path (.dict (layers entries env)) = some (latest entries env leaf)) ∧
      load bytes env = ofEntries (ofLeaves (latest entries env)) ∧
      ∀ (leaf : Leaf) (name : String), name.toList.map Char.toUpper = leaf.variableName.toList →
        settingOf name = some leaf.path := by
  have hlatest : ∀ leaf : Leaf, at? leaf.path (.dict (layers entries env)) = some (latest entries env leaf) :=
    at?_layers hfile.keyed hsections hvariables
  refine ⟨hlatest, ?_, fun leaf name hname => ?_⟩
  · rw [load_eq_ofEntries hfile, ofEntries, ofEntries, read_eq_of_leaves hlatest]
  · have hupper : name.toList.map Char.toUpper = leaf.variableName.toList.map Char.toUpper := by
      rw [hname]
      cases leaf <;> decide
    rw [Environment.settingOf_congr hupper, leaf.settingOf_variableName]

end Reading

/-- A settings file with a level that is no text. -/
def oddLevel : List UInt8 :=
  Text.Utf8.encode
    "[logging]\nlevel = 7\nformat = \"pretty\"\n\n[layout]\ncycle = [1, 0]\n\n[watch]\npolling_interval_ms = 100\n"

/-- Variables for the level and, twice, for the interval. -/
def levelAndInterval : Environment :=
  [("XSWITCH_WATCH__POLLING_INTERVAL_MS", "[90]"), ("xswitch_logging__level", "debug"), ("HOME", "/"),
    ("XSWITCH_Watch__Polling_Interval_ms", "60")]

theorem setsLeaves_levelAndInterval : SetsLeaves levelAndInterval := by
  have hinterval : settingOf "XSWITCH_WATCH__POLLING_INTERVAL_MS" = some Leaf.pollingInterval.path := by decide +kernel
  have hlevel : settingOf "xswitch_logging__level" = some Leaf.level.path := by decide +kernel
  have hhome : settingOf "HOME" = none := by decide +kernel
  have hinterval' : settingOf "XSWITCH_Watch__Polling_Interval_ms" = some Leaf.pollingInterval.path := by decide +kernel
  have hvalues : ∀ entry ∈ levelAndInterval, ¬(Data.Brief.read entry.2).IsDict := by decide +kernel
  refine fun entry hentry keys hkeys => ⟨?_, hvalues entry hentry⟩
  simp only [levelAndInterval, List.mem_cons, List.not_mem_nil, or_false] at hentry
  rcases hentry with rfl | rfl | rfl | rfl
  · exact ⟨_, Option.some.inj (hkeys.symm.trans hinterval)⟩
  · exact ⟨_, Option.some.inj (hkeys.symm.trans hlevel)⟩
  · cases hkeys.symm.trans hhome
  · exact ⟨_, Option.some.inj (hkeys.symm.trans hinterval')⟩

/-- Neither the level in the file nor the earlier variable for the interval could be read, but they do not count. The
format and the cycle are the file's, and the filter is the default one. -/
theorem load_eq_latest_overridden :
    ∃ entries, Data.Toml.read? oddLevel = some entries ∧ SectionsAreTables entries ∧ SetsLeaves levelAndInterval ∧
      load (some oddLevel) levelAndInterval = ofEntries (ofLeaves (latest entries levelAndInterval)) ∧
      ∃ c, load (some oddLevel) levelAndInterval = .ok c ∧
        c.logging = ⟨"debug", "pretty", ""⟩ ∧ c.layout.cycle = [1, 0] ∧ c.watch.pollingIntervalMs = 60 := by
  obtain ⟨entries, hfile, hsections⟩ :
      ∃ entries, Data.Toml.read? oddLevel = some entries ∧ decide (SectionsAreTables entries) = true :=
    Option.map_eq_some_iff.mp (by decide +kernel)
  obtain ⟨-, hload, -⟩ := load_eq_latest (.document hfile) (of_decide_eq_true hsections) setsLeaves_levelAndInterval
  have hloaded : ∃ c, load (some oddLevel) levelAndInterval = .ok c ∧
      (c.logging, c.layout.cycle, c.watch.pollingIntervalMs) = (⟨"debug", "pretty", ""⟩, [1, 0], 60) :=
    exists_ok_of_map (by decide +kernel)
  obtain ⟨c, hc, hvalues⟩ := hloaded
  simp only [Prod.mk.injEq] at hvalues
  exact ⟨entries, hfile, of_decide_eq_true hsections, setsLeaves_levelAndInterval, hload, c, hc, hvalues⟩

end FocusLayout.Config
