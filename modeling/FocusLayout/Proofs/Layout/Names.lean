import FocusLayout.Layout.Names
import FocusLayout.Proofs.Text.Utf8
import Mathlib.Data.List.Forall2

/-!
# The layout names of the property

What is read between two commas depends on nothing else (`ofText_append_comma`), so a text of entries is read entry by
entry. An entry of blanks gives nothing (`ofText_of_forall_blank`) and a padded name gives the name (`ofText_padded`).

- `names_of_entries`: what is written in the property is what is read from it, and whatever is read can be written;
- `names_of_pieces`: the third field may as well be cut first and decoded piece by piece.
-/

namespace FocusLayout.Layout.Names

open Text (Bare isBlank fields trim)
open Text.Utf8 (Decoded decodeLossy encode)

/-- The layout names that the property can hold. -/
structure IsName (name : String) : Prop where
  ne_empty : name ≠ ""
  no_comma : ',' ∉ name.toList
  no_nul : '\x00' ∉ name.toList
  bare : Bare name.toList

/-- Entries with the names in order, each between blanks, and blank entries anywhere. -/
inductive Spread : List String → List String → Prop
  | nil : Spread [] []
  | blank {names entries : List String} {entry : String} :
      (∀ c ∈ entry.toList, isBlank c = true) → Spread names entries → Spread names (entry :: entries)
  | name {names entries : List String} (before name after : String) :
      (∀ c ∈ before.toList, isBlank c = true) → (∀ c ∈ after.toList, isBlank c = true) → Spread names entries →
      Spread (name :: names) ((before ++ name ++ after) :: entries)

/-- A value of the property: rules, model, the entries joined by commas, and the rest. -/
def written (rules model : List UInt8) (entries : List String) (tail : List UInt8) : List UInt8 :=
  rules ++ 0 :: (model ++ 0 :: (encode (",".intercalate entries) ++ tail))

/-- The pieces of the third field between bytes 0x2C. -/
def pieces (bytes : List UInt8) : List (List UInt8) :=
  match (bytes.splitOnP (· == 0))[2]? with
  | some field => field.splitOnP (· == 0x2C)
  | none => []

variable {rules model tail bytes : List UInt8} {names entries : List String} {name : String}
  {cs before after : List Char}

/-! ## The names in a text -/

/-- A comma cuts a text in two that are read apart. -/
theorem ofText_append_comma (l r : List Char) : ofText (l ++ ',' :: r) = ofText l ++ ofText r := by
  simp only [ofText, Text.fields_append_cons_self, List.map_append, List.filter_append]

theorem ofText_of_no_comma (h : ',' ∉ cs) :
    ofText cs = (([trim cs].filter (!·.isEmpty)).map String.ofList) := by
  have hsep : ∀ c ∈ cs, (c == ',') = false := fun c hc => beq_false_of_ne fun heq => h (heq ▸ hc)
  rw [ofText, Text.fields_of_forall hsep, List.map_singleton]

theorem comma_not_mem_of_blank (h : ∀ c ∈ cs, isBlank c = true) : ',' ∉ cs :=
  fun hc => absurd (h _ hc) (by decide)

theorem nul_not_mem_of_blank (h : ∀ c ∈ cs, isBlank c = true) : '\x00' ∉ cs :=
  fun hc => absurd (h _ hc) (by decide)

/-- Blanks hold no name. -/
theorem ofText_of_forall_blank (h : ∀ c ∈ cs, isBlank c = true) : ofText cs = [] := by
  rw [ofText_of_no_comma (comma_not_mem_of_blank h), Text.trim_of_forall_blank h]
  rfl

/-- A name between blanks is read as the name. -/
theorem ofText_padded (h : IsName name) (hbefore : ∀ c ∈ before, isBlank c = true)
    (hafter : ∀ c ∈ after, isBlank c = true) : ofText (before ++ name.toList ++ after) = [name] := by
  have hne : name.toList ≠ [] := fun hnil => h.ne_empty (String.toList_eq_nil_iff.mp hnil)
  have hcomma : ',' ∉ before ++ name.toList ++ after := by
    simp only [List.mem_append, not_or]
    exact ⟨⟨comma_not_mem_of_blank hbefore, h.no_comma⟩, comma_not_mem_of_blank hafter⟩
  rw [ofText_of_no_comma hcomma, Text.trim_padded hne h.bare hbefore hafter]
  simp [hne]

theorem ofText_intercalate_cons (entry : String) (entries : List String) :
    ofText (",".intercalate (entry :: entries)).toList =
      ofText entry.toList ++ ofText (",".intercalate entries).toList := by
  cases entries with
  | nil =>
    rw [String.intercalate_singleton, String.intercalate_nil]
    exact (List.append_nil _).symm
  | cons other entries =>
    rw [String.intercalate_cons_cons, String.toList_append, String.toList_append, List.append_assoc]
    exact ofText_append_comma _ _

/-- **The names in a text of entries** are those that were spread over it. -/
theorem ofText_of_spread (h : Spread names entries) (hnames : ∀ name ∈ names, IsName name) :
    ofText (",".intercalate entries).toList = names := by
  induction h with
  | nil => rfl
  | blank hblank _ ih =>
    rw [ofText_intercalate_cons, ofText_of_forall_blank hblank, ih hnames, List.nil_append]
  | name before name after hbefore hafter _ ih =>
    obtain ⟨hname, hnames⟩ := List.forall_mem_cons.mp hnames
    rw [ofText_intercalate_cons, String.toList_append, String.toList_append,
      ofText_padded hname hbefore hafter, ih hnames, List.singleton_append]

theorem spread_self : ∀ names, Spread names names
  | [] => .nil
  | name :: names => by
    have h := Spread.name "" name "" (List.forall_mem_nil _) (List.forall_mem_nil _) (spread_self names)
    rwa [String.empty_append, String.append_empty] at h

/-- What is read from a text without NUL is a list of names. -/
theorem isName_of_mem_ofText (hnul : '\x00' ∉ cs) (h : name ∈ ofText cs) : IsName name := by
  simp only [ofText, List.mem_map, List.mem_filter] at h
  obtain ⟨_, ⟨⟨field, hfield, rfl⟩, hne⟩, rfl⟩ := h
  have hcomma : ',' ∉ field := fun hmem => absurd (Text.not_sep_of_mem_fields hfield hmem) (by decide)
  constructor
  · simpa using hne
  · rw [String.toList_ofList]
    exact fun hmem => hcomma (Text.mem_of_mem_trim hmem)
  · rw [String.toList_ofList]
    exact fun hmem => hnul (Text.mem_of_mem_fields hfield (Text.mem_of_mem_trim hmem))
  · rw [String.toList_ofList]
    exact Text.bare_trim field

/-! ## Writing the property and reading it -/

theorem nul_not_mem_intercalate (h : ∀ entry ∈ entries, '\x00' ∉ entry.toList) :
    '\x00' ∉ (",".intercalate entries).toList := by
  induction entries with
  | nil => exact List.not_mem_nil
  | cons entry entries ih =>
    obtain ⟨hentry, hentries⟩ := List.forall_mem_cons.mp h
    cases entries with
    | nil => rwa [String.intercalate_singleton]
    | cons other entries =>
      rw [String.intercalate_cons_cons, String.toList_append, String.toList_append]
      simp only [List.mem_append, not_or]
      exact ⟨⟨hentry, by decide⟩, ih hentries⟩

theorem nul_not_mem_of_spread (h : Spread names entries) (hnames : ∀ name ∈ names, IsName name) :
    ∀ entry ∈ entries, '\x00' ∉ entry.toList := by
  induction h with
  | nil => exact fun _ h => nomatch h
  | blank hblank _ ih =>
    exact List.forall_mem_cons.mpr ⟨nul_not_mem_of_blank hblank, ih hnames⟩
  | name before name after hbefore hafter _ ih =>
    obtain ⟨hname, hnames⟩ := List.forall_mem_cons.mp hnames
    refine List.forall_mem_cons.mpr ⟨?_, ih hnames⟩
    rw [String.toList_append, String.toList_append]
    simp only [List.mem_append, not_or]
    exact ⟨⟨nul_not_mem_of_blank hbefore, hname.no_nul⟩,
      nul_not_mem_of_blank hafter⟩

/-- The third of the fields. -/
theorem third_field {field : List UInt8} (hrules : 0 ∉ rules) (hmodel : 0 ∉ model) (hfield : 0 ∉ field)
    (htail : ∀ b ∈ tail.head?, b = 0) :
    (fields (· == 0) (rules ++ 0 :: (model ++ 0 :: (field ++ tail))))[2]? = some field := by
  have hone {l : List UInt8} (h : 0 ∉ l) : fields (· == 0) l = [l] :=
    Text.fields_of_forall fun b hb => beq_false_of_ne fun heq => h (heq ▸ hb)
  rw [Text.fields_append_cons_self, Text.fields_append_cons_self, hone hrules, hone hmodel]
  cases tail with
  | nil => rw [List.append_nil, hone hfield]; rfl
  | cons b tail =>
    rw [htail b rfl, Text.fields_append_cons_self, hone hfield]
    rfl

theorem ofProperty_written (hrules : 0 ∉ rules) (hmodel : 0 ∉ model) (htail : ∀ b ∈ tail.head?, b = 0)
    (h : Spread names entries) (hnames : ∀ name ∈ names, IsName name) :
    ofProperty (written rules model entries tail) = names := by
  have hnul : '\x00' ∉ (",".intercalate entries).toList := nul_not_mem_intercalate (nul_not_mem_of_spread h hnames)
  have hfield : 0 ∉ encode (",".intercalate entries) := fun hmem => hnul (Text.Utf8.mem_of_mem_encode (by decide) hmem)
  rw [ofProperty, written, third_field hrules hmodel hfield htail]
  dsimp only
  rw [Text.Utf8.decodeLossy_encode, ofText_of_spread h hnames]

theorem isName_of_mem_ofProperty (h : name ∈ ofProperty bytes) : IsName name := by
  unfold ofProperty at h
  split at h
  case h_1 field hfield =>
    refine isName_of_mem_ofText (fun hnul => ?_) h
    have hzero : (0 : UInt8) ∈ field := Text.Utf8.mem_of_mem_decodeLossy (by decide) hnul
    exact absurd (Text.not_sep_of_mem_fields (List.mem_of_getElem? hfield) hzero) (by decide)
  case h_2 => cases h

/-- **Reading the property undoes writing it.** However the names are padded and blank entries put among them, and
whatever stands in the other fields, they are what is read; and what is read from any bytes at all is a list of such
names, which can be written and read again. -/
theorem names_of_entries (hrules : 0 ∉ rules) (hmodel : 0 ∉ model) (htail : ∀ b ∈ tail.head?, b = 0) :
    (∀ names entries, (∀ name ∈ names, IsName name) → Spread names entries →
      ofProperty (written rules model entries tail) = names) ∧
    ∀ bytes, (∀ name ∈ ofProperty bytes, IsName name) ∧
      ofProperty (written rules model (ofProperty bytes) tail) = ofProperty bytes := by
  refine ⟨fun names entries hnames h => ofProperty_written hrules hmodel htail h hnames, fun bytes => ?_⟩
  have hnames : ∀ name ∈ ofProperty bytes, IsName name := fun _ h => isName_of_mem_ofProperty h
  exact ⟨hnames, ofProperty_written hrules hmodel htail (spread_self _) hnames⟩

/-- Rules and a model that are not UTF-8, names between blanks, entries of blanks, and more fields. -/
theorem names_of_entries_padded :
    ((0 : UInt8) ∉ [0xFF, 0x65] ∧ (0 : UInt8) ∉ [0xC3] ∧ (∀ b ∈ [(0 : UInt8), 0x2C].head?, b = 0)) ∧
      ofProperty (written [0xFF, 0x65] [0xC3] ["\u3000us\t", " ", "", "ру"] [0, 0x2C]) = ["us", "ру"] := by
  have hus : IsName "us" := ⟨by decide, by decide, by decide,
    by simpa using (by decide : isBlank 'u' = false), by simpa using (by decide : isBlank 's' = false)⟩
  have hru : IsName "ру" := ⟨by decide, by decide, by decide,
    by simpa using (by decide : isBlank 'р' = false), by simpa using (by decide : isBlank 'у' = false)⟩
  have htail : ∀ b ∈ [(0 : UInt8), 0x2C].head?, b = 0 := by simp
  have hblank {entry : String} (h : Text.isBlankString entry = true) : ∀ c ∈ entry.toList, isBlank c = true :=
    Text.isBlankString_iff.mp h
  have hspread : Spread ["us", "ру"] ["\u3000us\t", " ", "", "ру"] :=
    .name "\u3000" "us" "\t" (hblank (by decide)) (hblank (by decide)) <| .blank (hblank (by decide)) <|
      .blank (hblank rfl) <| .name "" "ру" "" (hblank rfl) (hblank rfl) .nil
  exact ⟨⟨by decide, by decide, htail⟩,
    (names_of_entries (by decide) (by decide) htail).1 _ _ (by simp [hus, hru]) hspread⟩

/-! ## A malformed name -/

theorem decoded_eq : Decoded = fun bytes text => decodeLossy bytes = text :=
  funext fun _ => funext fun _ => propext Text.Utf8.decoded_iff

/-- **A malformed name damages only itself**: the names are those of the pieces of the third field, each decoded on its
own. -/
theorem names_of_pieces (bytes : List UInt8) :
    ∃ texts, (∀ others, List.Forall₂ Decoded (pieces bytes) others ↔ others = texts) ∧
      ofProperty bytes = ((texts.map trim).filter (!·.isEmpty)).map String.ofList := by
  refine ⟨(pieces bytes).map decodeLossy, fun others => ?_, ?_⟩
  · rw [decoded_eq, ← List.forall₂_map_left_iff (R := Eq), List.forall₂_eq_eq_eq, eq_comm]
  · unfold ofProperty pieces
    simp only [← Text.fields_eq_splitOnP]
    cases (fields (· == 0) bytes)[2]? with
    | none => rfl
    | some field =>
      have hfields : fields (· == ',') (decodeLossy field) = (fields (· == 0x2C) field).map decodeLossy :=
        Text.Utf8.fields_decodeLossy (b := 0x2C) (by decide) field
      dsimp only
      rw [ofText, hfields]

end FocusLayout.Layout.Names
