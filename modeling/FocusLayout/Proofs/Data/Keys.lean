import FocusLayout.Data.Toml.Document
import FocusLayout.Proofs.Data.Merge
import Mathlib.Data.List.Nodup

/-!
# The keys of a document

No table of a document has a key twice, at whatever depth it stands (`keyed_read?`). While a document is read this
holds of all tables in the making (`Nodes.Keyed`): a key is added only where there is none, and tables are changed
one inside the other by `within` (`keyed_within`).
-/

namespace FocusLayout.Data

/-- The value holds no others. -/
def Value.isScalar : Value → Bool
  | .array _ | .dict _ => false
  | .absent | .bool _ | .signed _ | .unsigned _ | .float _ | .string _ | .char _ => true

/-- All dictionaries in the value have different keys. -/
inductive Value.Keyed : Value → Prop
  | scalar {v : Value} : v.isScalar = true → Keyed v
  | array {items : List Value} : (∀ v ∈ items, Keyed v) → Keyed (.array items)
  | dict {entries : Entries} : entries.keys.Nodup → (∀ e ∈ entries, Keyed e.2) → Keyed (.dict entries)

namespace Toml

/-- All tables in the making under the node have different keys. -/
inductive Node.Keyed : Node → Prop
  | leaf {value : Value} : value.Keyed → Keyed (.leaf value)
  | table {origin : Origin} {nodes : Nodes} :
      nodes.keys.Nodup → (∀ e ∈ nodes, Keyed e.2) → Keyed (.table origin nodes)
  | tables {elements : List Nodes} :
      (∀ nodes ∈ elements, nodes.keys.Nodup) → (∀ nodes ∈ elements, ∀ e ∈ nodes, Keyed e.2) →
      Keyed (.tables elements)

/-- The table and all tables under it have different keys. -/
structure Nodes.Keyed (nodes : Nodes) : Prop where
  nodup : nodes.keys.Nodup
  keyed : ∀ e ∈ nodes, e.2.Keyed

namespace Nodes

variable {nodes nodes' entries : Nodes} {key : String} {node : Node} {origin : Origin} {elements : List Nodes}

theorem keyed_nil : Keyed [] := ⟨List.nodup_nil, fun _ h => nomatch h⟩

theorem keyed_table_iff : (Node.table origin entries).Keyed ↔ entries.Keyed := by
  constructor
  · rintro (_ | ⟨hnodup, hkeyed⟩)
    exact ⟨hnodup, hkeyed⟩
  · exact fun h => .table h.nodup h.keyed

theorem keyed_tables_iff : (Node.tables elements).Keyed ↔ ∀ entries ∈ elements, Keyed entries := by
  constructor
  · rintro (_ | _ | ⟨hnodup, hkeyed⟩) entries hmem
    exact ⟨hnodup entries hmem, hkeyed entries hmem⟩
  · exact fun h => .tables (fun entries hmem => (h entries hmem).nodup) fun entries hmem => (h entries hmem).keyed

/-! ## Changing a table -/

theorem keyed_set (h : nodes.Keyed) (hnode : node.Keyed) (key : String) : Keyed (nodes.set key node) := by
  refine ⟨Pairs.nodup_keys_set h.nodup key node, fun e he => ?_⟩
  rcases Pairs.mem_set he with rfl | he
  · exact hnode
  · exact h.keyed e he

/-- A change of one table that keeps its keys different keeps all keys different. -/
theorem keyed_within {make : Origin} {enter : Origin → Bool} {change : Nodes → Option Nodes} (h : nodes.Keyed)
    (hchange : ∀ {entries entries' : Nodes}, entries.Keyed → change entries = some entries' → entries'.Keyed)
    (hw : nodes.within key make enter change = some nodes') : nodes'.Keyed := by
  unfold within at hw
  split at hw
  next =>
    obtain ⟨entries, hentries, rfl⟩ := Option.map_eq_some_iff.mp hw
    exact keyed_set h (keyed_table_iff.mpr (hchange keyed_nil hentries)) key
  next origin entries hfound =>
    have hkeyed : Keyed entries := keyed_table_iff.mp (h.keyed _ (Pairs.mem_of_lookup? hfound))
    split at hw
    next =>
      obtain ⟨entries', hentries, rfl⟩ := Option.map_eq_some_iff.mp hw
      exact keyed_set h (keyed_table_iff.mpr (hchange hkeyed hentries)) key
    next => cases hw
  next last before hfound =>
    have hkeyed := keyed_tables_iff.mp (h.keyed _ (Pairs.mem_of_lookup? hfound))
    obtain ⟨entries', hentries, rfl⟩ := Option.map_eq_some_iff.mp hw
    obtain ⟨hlast, hbefore⟩ := List.forall_mem_cons.mp hkeyed
    exact keyed_set h (keyed_tables_iff.mpr (List.forall_mem_cons.mpr ⟨hchange hlast hentries, hbefore⟩)) key
  next => cases hw

theorem keyed_addPair {value : Value} {name : List String} (hvalue : value.Keyed) (h : nodes.Keyed)
    (hadd : addPair key value name nodes = some nodes') : nodes'.Keyed := by
  induction name generalizing nodes nodes' with
  | nil =>
    rw [addPair] at hadd
    split at hadd
    next => cases hadd
    next hnew =>
      cases hadd
      have hkey : key ∉ nodes.keys := Pairs.lookup?_eq_none_iff.mp (Option.not_isSome_iff_eq_none.mp hnew)
      constructor
      · exact Pairs.nodup_keys_concat h.nodup hkey _
      · exact List.forall_mem_append.mpr ⟨h.keyed, List.forall_mem_singleton.mpr (.leaf hvalue)⟩
  | cons part rest ih =>
    cases rest with
    | nil =>
      rw [addPair] at hadd
      split at hadd
      next => cases hadd
      next => exact keyed_within h ih hadd
    | cons => exact keyed_within h ih hadd

theorem keyed_addUnder {value : Value} {name opened : List String} (hvalue : value.Keyed) (h : nodes.Keyed)
    (hadd : addUnder key value name opened nodes = some nodes') : nodes'.Keyed := by
  induction opened generalizing nodes nodes' with
  | nil => exact keyed_addPair hvalue h hadd
  | cons part rest ih => exact keyed_within h ih hadd

theorem keyed_openTable {name : List String} (h : nodes.Keyed) (hopen : openTable name nodes = some nodes') :
    nodes'.Keyed := by
  induction name generalizing nodes nodes' with
  | nil => cases hopen
  | cons key rest ih =>
    cases rest with
    | nil =>
      rw [openTable] at hopen
      split at hopen
      next =>
        cases hopen
        exact keyed_set h (keyed_table_iff.mpr keyed_nil) key
      next entries hfound =>
        cases hopen
        have hkeyed : Keyed entries := keyed_table_iff.mp (h.keyed _ (Pairs.mem_of_lookup? hfound))
        exact keyed_set h (keyed_table_iff.mpr hkeyed) key
      next => cases hopen
    | cons => exact keyed_within h ih hopen

theorem keyed_openElement {name : List String} (h : nodes.Keyed) (hopen : openElement name nodes = some nodes') :
    nodes'.Keyed := by
  induction name generalizing nodes nodes' with
  | nil => cases hopen
  | cons key rest ih =>
    cases rest with
    | nil =>
      rw [openElement] at hopen
      split at hopen
      next =>
        cases hopen
        exact keyed_set h (keyed_tables_iff.mpr (List.forall_mem_singleton.mpr keyed_nil)) key
      next elements hfound =>
        cases hopen
        have hkeyed := keyed_tables_iff.mp (h.keyed _ (Pairs.mem_of_lookup? hfound))
        exact keyed_set h (keyed_tables_iff.mpr (List.forall_mem_cons.mpr ⟨keyed_nil, hkeyed⟩)) key
      next => cases hopen
    | cons => exact keyed_within h ih hopen

end Nodes

/-! ## Finished tables -/

theorem closeEntries_eq_map (nodes : Nodes) : Node.closeEntries nodes = nodes.map fun e => (e.1, e.2.close) := by
  induction nodes with
  | nil => rw [Node.closeEntries, List.map_nil]
  | cons e rest ih => rw [Node.closeEntries, ih, List.map_cons]

theorem closeElements_eq (after : List Value) (elements : List Nodes) :
    Node.closeElements after elements =
      (elements.map fun nodes => .dict (Node.closeEntries nodes)).reverse ++ after := by
  induction elements generalizing after with
  | nil => rw [Node.closeElements, List.map_nil, List.reverse_nil, List.nil_append]
  | cons nodes before ih =>
    rw [Node.closeElements, ih, List.map_cons, List.reverse_cons, List.append_assoc, List.singleton_append]

theorem keys_closeEntries (nodes : Nodes) : (Node.closeEntries nodes).keys = nodes.keys := by
  rw [closeEntries_eq_map, Pairs.keys, List.map_map]
  rfl

theorem keyed_dict_closeEntries {nodes : Nodes} (hnodup : nodes.keys.Nodup)
    (h : ∀ e ∈ nodes, e.2.close.Keyed) : (Value.dict (Node.closeEntries nodes)).Keyed := by
  refine .dict (keys_closeEntries nodes ▸ hnodup) ?_
  rw [closeEntries_eq_map]
  exact List.forall_mem_map.mpr h

/-- A finished node has the keys that it had. -/
theorem Node.Keyed.close {node : Node} (h : node.Keyed) : node.close.Keyed := by
  induction h with
  | leaf h => rwa [Node.close]
  | table hnodup _ ih =>
    rw [Node.close]
    exact keyed_dict_closeEntries hnodup ih
  | tables hnodup _ ih =>
    rw [Node.close, closeElements_eq, List.append_nil]
    refine .array fun v hv => ?_
    obtain ⟨nodes, hnodes, rfl⟩ := List.mem_map.mp (List.mem_reverse.mp hv)
    exact keyed_dict_closeEntries (hnodup nodes hnodes) (ih nodes hnodes)

theorem Nodes.Keyed.close {nodes : Nodes} (h : nodes.Keyed) : (Value.dict (Node.closeEntries nodes)).Keyed :=
  keyed_dict_closeEntries h.nodup fun e he => (h.keyed e he).close

/-! ## Values -/

section Values

variable {v : Value} {cs rest : List Char} {fuel depth : Nat}

theorem keyed_signed? {n : Int} (h : signed? n = some v) : v.Keyed := by
  unfold signed? at h
  split at h
  · cases h
    exact .scalar rfl
  · cases h

theorem keyed_float? {negative : Bool} {whole fraction : List Char} {e : Int}
    (h : float? negative whole fraction e = some v) : v.Keyed := by
  unfold float? at h
  split at h
  · cases h
  · cases h
    exact .scalar rfl

theorem keyed_decimal {negative : Bool} (h : decimal negative cs = some (v, rest)) : v.Keyed := by
  obtain ⟨⟨whole, after⟩, -, h⟩ := Option.bind_eq_some_iff.mp h
  dsimp only at h
  split at h
  · obtain ⟨⟨fraction, after⟩, -, h⟩ := Option.bind_eq_some_iff.mp h
    split at h <;> (
      obtain ⟨⟨e, after⟩, -, h⟩ := Option.bind_eq_some_iff.mp h
      obtain ⟨x, hx, h⟩ := Option.bind_eq_some_iff.mp h
      cases h
      exact keyed_float? hx)
  split at h
  · obtain ⟨⟨e, after⟩, -, h⟩ := Option.bind_eq_some_iff.mp h
    obtain ⟨x, hx, h⟩ := Option.bind_eq_some_iff.mp h
    cases h
    exact keyed_float? hx
  · obtain ⟨n, hn, h⟩ := Option.bind_eq_some_iff.mp h
    cases h
    exact keyed_signed? hn

theorem keyed_based {base : Nat} {isDigit : Char → Bool} (h : based base isDigit cs = some (v, rest)) : v.Keyed := by
  obtain ⟨⟨found, after⟩, -, h⟩ := Option.bind_eq_some_iff.mp h
  obtain ⟨n, hn, h⟩ := Option.bind_eq_some_iff.mp h
  cases h
  exact keyed_signed? hn

theorem keyed_number (h : number cs = some (v, rest)) : v.Keyed := by
  unfold number at h
  split at h
  · exact keyed_based h
  · exact keyed_based h
  · exact keyed_based h
  · dsimp only at h
    split at h
    · cases h
      exact .scalar rfl
    · cases h
      exact .scalar rfl
    · exact keyed_decimal h

theorem keyed_dateTime (h : dateTime cs = some (v, rest)) : v.Keyed := by
  obtain ⟨after, -, h⟩ := Option.map_eq_some_iff.mp h
  cases h
  exact .dict (List.nodup_singleton _) (List.forall_mem_singleton.mpr (.scalar rfl))

/-- Every value, and every list and table of which a part has been read, has different keys at all depths. -/
theorem keyed_value_parts (fuel : Nat) :
    (∀ {depth cs v rest}, value fuel depth cs = some (v, rest) → v.Keyed) ∧
    (∀ {depth found cs v rest}, (∀ item ∈ found, item.Keyed) → listItems fuel depth found cs = some (v, rest) →
      v.Keyed) ∧
    ∀ {depth nodes cs v rest}, nodes.Keyed → inlinePairs fuel depth nodes cs = some (v, rest) → v.Keyed := by
  induction fuel with
  | zero => exact ⟨nofun, fun _ => nofun, fun _ => nofun⟩
  | succ fuel ih =>
    obtain ⟨hvalue, hitems, hpairs⟩ := ih
    refine ⟨fun {depth cs v rest} h => ?_, fun {depth found cs v rest} hfound h => ?_,
      fun {depth nodes cs v rest} hnodes h => ?_⟩
    · unfold value at h
      split at h
      · obtain ⟨_, -, h⟩ := Option.map_eq_some_iff.mp h
        cases h
        exact .scalar rfl
      · obtain ⟨_, -, h⟩ := Option.map_eq_some_iff.mp h
        cases h
        exact .scalar rfl
      · split at h
        · cases h
        · exact hitems (List.forall_mem_nil _) h
      · split at h
        · cases h
        split at h
        · cases h
          exact .dict List.nodup_nil fun _ h => nomatch h
        · exact hpairs Nodes.keyed_nil h
      · cases h
        exact .scalar rfl
      · cases h
        exact .scalar rfl
      · split at h
        · exact keyed_dateTime h
        · exact keyed_number h
    · unfold listItems at h
      split at h
      · cases h
        exact .array fun item hitem => hfound item (List.mem_reverse.mp hitem)
      split at h
      · cases h
      next item after hitem =>
        have hmore : ∀ v ∈ item :: found, v.Keyed := List.forall_mem_cons.mpr ⟨hvalue hitem, hfound⟩
        split at h
        · exact hitems hmore h
        · cases h
          exact .array fun item hitem => hmore item (List.mem_reverse.mp hitem)
        · cases h
    · unfold inlinePairs at h
      split at h
      · split at h
        · cases h
        next item after hitem =>
          split at h
          · cases h
          next nodes' hadd =>
            have hmore : nodes'.Keyed := Nodes.keyed_addPair (hvalue hitem) hnodes hadd
            split at h
            · exact hpairs hmore h
            · cases h
              exact hmore.close
            · cases h
      · cases h

theorem keyed_value (h : value fuel depth cs = some (v, rest)) : v.Keyed :=
  (keyed_value_parts fuel).1 h

end Values

/-! ## Documents -/

section Documents

variable {p p' : Progress} {cs rest : List Char} {nodes : Nodes} {bytes : List UInt8} {entries : Entries}

/-- A line keeps the keys of every table different. -/
theorem keyed_line (h : p.nodes.Keyed) (hline : line p cs = some (p', rest)) : p'.nodes.Keyed := by
  unfold line at hline
  split at hline
  · obtain ⟨_, -, hline⟩ := Option.bind_eq_some_iff.mp hline
    split at hline
    · obtain ⟨nodes, hnodes, hline⟩ := Option.bind_eq_some_iff.mp hline
      obtain ⟨_, -, hline⟩ := Option.bind_eq_some_iff.mp hline
      cases hline
      exact Nodes.keyed_openElement h hnodes
    · cases hline
  · obtain ⟨_, -, hline⟩ := Option.bind_eq_some_iff.mp hline
    split at hline
    · obtain ⟨nodes, hnodes, hline⟩ := Option.bind_eq_some_iff.mp hline
      obtain ⟨_, -, hline⟩ := Option.bind_eq_some_iff.mp hline
      cases hline
      exact Nodes.keyed_openTable h hnodes
    · cases hline
  · obtain ⟨_, -, hline⟩ := Option.bind_eq_some_iff.mp hline
    split at hline
    · obtain ⟨⟨item, after⟩, hitem, hline⟩ := Option.bind_eq_some_iff.mp hline
      obtain ⟨nodes, hnodes, hline⟩ := Option.bind_eq_some_iff.mp hline
      obtain ⟨_, -, hline⟩ := Option.bind_eq_some_iff.mp hline
      cases hline
      exact Nodes.keyed_addUnder (keyed_value hitem) h hnodes
    · cases hline

theorem keyed_lines {fuel : Nat} (h : p.nodes.Keyed) (hlines : lines fuel p cs = some nodes) : nodes.Keyed := by
  induction fuel generalizing p cs with
  | zero => cases hlines
  | succ fuel ih =>
    unfold lines at hlines
    split at hlines
    · cases hlines
      exact h
    · obtain ⟨⟨p', rest⟩, hline, hlines⟩ := Option.bind_eq_some_iff.mp hlines
      exact ih (keyed_line h hline) hlines

/-- **A document has no key twice in any of its tables.** -/
theorem keyed_read? (h : read? bytes = some entries) : (Value.dict entries).Keyed := by
  obtain ⟨cs, -, h⟩ := Option.bind_eq_some_iff.mp h
  obtain ⟨nodes, hnodes, h⟩ := Option.bind_eq_some_iff.mp h
  cases h
  exact (keyed_lines Nodes.keyed_nil hnodes).close

end Documents

end Toml

end FocusLayout.Data
