import Provision.Proofs.QuotedText
import Provision.Proofs.Reordering
import Provision.Proofs.Utf8

/-!
# Settings in diagnostics

Settings may be credentials. Diagnostics show which there are, one entry each in ascending order of
their keys, and nothing of what they are (`Diagnostics.Redacts`): two requests, or two templates,
that differ only in the values of settings look the same. A key is quoted, so no key can pass for
another entry, for the placeholder or for the end of the settings (`settingsText_append_inj`).
-/

namespace Provision

/-! ## Requests and templates with other settings -/

/-- The dictionaries have the same keys, whatever their values and their orders are. -/
def Dictionary.SameKeys (d d' : Dictionary String Json) : Prop :=
  ∀ key, d'.contains key = d.contains key

/-- The requests differ in nothing but the values of settings. -/
structure OperationRequest.Resembles (r r' : OperationRequest) : Prop where
  resourceType : r'.resourceType = r.resourceType
  properties : r'.properties = r.properties
  importConfig : r.importConfig.SameKeys r'.importConfig

/-- The imports differ in nothing but the values of settings. -/
structure ImportDeclaration.Resembles (i i' : ImportDeclaration) : Prop where
  provider : i'.provider = i.provider
  version : i'.version = i.version
  config : i.config.SameKeys i'.config

/-- The templates differ in nothing but the values of settings of their imports. -/
structure Template.Resembles (t t' : Template) : Prop where
  imports : List.Forall₂ (Alike ImportDeclaration.Resembles) t.imports.entries t'.imports.entries
  parameters : t'.parameters = t.parameters
  resources : t'.resources = t.resources
  outputs : t'.outputs = t.outputs

/-! ## What is shown of settings -/

/-- The keys of the settings, each once, in ascending order of their bytes. -/
structure Lists (config : Dictionary String Json) (keys : List String) : Prop where
  mem_iff : ∀ key, key ∈ keys ↔ config.contains key = true
  ascending : keys.Pairwise fun a b => Text.encode a < Text.encode b

/-- What is shown of the setting of a key. -/
def settingText (key : String) : String := Text.quoted key ++ ": \"[REDACTED]\""

/-- What is shown of settings with these keys. -/
def settingsText (keys : List String) : String :=
  "\x7b" ++ ", ".intercalate (keys.map settingText) ++ "\x7d"

/-- The keys of settings, in ascending order. -/
def settingKeys (config : Dictionary String Json) : List String := (redacted config).keys

/-- What diagnostics show of an import. -/
def importText (i : ImportDeclaration) : String :=
  "ImportDeclaration \x7b provider: " ++ Text.quoted i.provider ++ ", version: " ++
    Text.quoted i.version ++ ", config: " ++ settingsText (settingKeys i.config) ++ " \x7d"

/-- What diagnostics show of imports, by alias. -/
def importsText (imports : Table ImportDeclaration) : String :=
  "\x7b" ++ ", ".intercalate
    (imports.entries.map fun e => Text.quoted e.1 ++ ": " ++ importText e.2) ++ "\x7d"

/-- Diagnostics show the keys of settings and nothing else of them. -/
structure Diagnostics.Redacts : Prop where
  request : ∀ r r' : OperationRequest, r.Resembles r' → r'.inspect = r.inspect
  template : ∀ t t' : Template, t.Resembles t' → t'.inspect = t.inspect
  /-- Settings look the same exactly if they have the same keys. -/
  settings : ∀ config config' : Dictionary String Json,
    inspectConfig config' = inspectConfig config ↔ config.SameKeys config'
  lists : ∀ config, Lists config (settingKeys config)
  requestText : ∀ r : OperationRequest, r.inspect =
    "OperationRequest \x7b resource_type: " ++ Text.quoted r.resourceType ++
      ", resource_properties: " ++ r.properties.inspect ++
      ", import_config: " ++ settingsText (settingKeys r.importConfig) ++ " \x7d"
  templateText : ∀ t : Template, t.inspect =
    "Template \x7b imports: " ++ importsText t.imports ++
      ", parameters: " ++ Text.inspectMap (t.parameters.map ParameterDeclaration.inspect).entries ++
      ", resources: " ++ Text.inspectList (t.resources.map ResourceDeclaration.inspect) ++
      ", outputs: " ++ Text.inspectMap (t.outputs.map OutputDeclaration.inspect).entries ++ " \x7d"
  /-- The keys can be read off the text of settings, whatever stands behind it. -/
  readable : ∀ keys keys' rest rest', settingsText keys ++ rest = settingsText keys' ++ rest' →
    keys = keys' ∧ rest = rest'

section Settings

variable {config config' : Dictionary String Json} {keys keys' : List String}

theorem quoted_redaction : Text.quoted redaction = "\"[REDACTED]\"" := by decide +kernel

theorem entries_redacted (config : Dictionary String Json) :
    (redacted config).entries = (settingKeys config).map fun key => (key, redaction) := by
  unfold settingKeys Table.keys
  rw [List.map_map]
  refine (List.map_id _).symm.trans (List.map_congr_left fun e he => ?_)
  obtain ⟨key, -, heq⟩ := List.mem_map.1 (Table.mem_of_mem_ofList he)
  rw [← heq]
  rfl

theorem inspectConfig_eq (config : Dictionary String Json) :
    inspectConfig config = settingsText (settingKeys config) := by
  unfold inspectConfig Text.inspectMap settingsText
  rw [entries_redacted, List.map_map, List.map_map]
  refine congrArg (fun entries => "\x7b" ++ ", ".intercalate entries ++ "\x7d")
    (List.map_congr_left fun key _ => ?_)
  show Text.quoted key ++ ": " ++ Text.quoted redaction = settingText key
  rw [quoted_redaction, String.append_assoc]
  rfl

theorem mem_settingKeys {key : String} :
    key ∈ settingKeys config ↔ config.contains key = true := by
  have hcontains : config.contains key = true ↔ key ∈ config.keys := findValue?_isSome
  rw [hcontains, settingKeys, ← Table.contains_iff, Table.contains, redacted, Table.get?_ofList,
    Option.isSome_map, List.getLast?_isSome]
  simp

theorem lists_settingKeys (config : Dictionary String Json) :
    Lists config (settingKeys config) where
  mem_iff _ := mem_settingKeys
  ascending := by
    have hascending := (redacted config).ascending
    unfold settingKeys Table.keys
    refine List.pairwise_map.2 (hascending.imp fun h => ?_)
    exact Text.lt_iff_encode_lt.1 h

theorem Lists.eq (h : Lists config keys) (h' : Lists config keys') : keys = keys' := by
  have hnodup : ∀ {keys}, Lists config keys → keys.Nodup := by
    intro keys h
    refine h.ascending.imp fun {a b} hlt => ?_
    rintro rfl
    exact List.lt_irrefl _ hlt
  have hperm : keys.Perm keys' := (List.perm_ext_iff_of_nodup (hnodup h) (hnodup h')).2
    fun key => (h.mem_iff key).trans (h'.mem_iff key).symm
  exact hperm.eq_of_pairwise (fun a b _ _ hab hba => absurd hab (List.lt_asymm hba))
    h.ascending h'.ascending

theorem settingKeys_of_sameKeys (h : config.SameKeys config') :
    settingKeys config' = settingKeys config := by
  refine Lists.eq (lists_settingKeys config') ⟨fun key => ?_, (lists_settingKeys config).ascending⟩
  rw [h key]
  exact (lists_settingKeys config).mem_iff key

theorem inspectConfig_of_sameKeys (h : config.SameKeys config') :
    inspectConfig config' = inspectConfig config := by
  rw [inspectConfig_eq, inspectConfig_eq, settingKeys_of_sameKeys h]

end Settings

/-! ## Keys in the text of settings -/

section Readable

variable {key key' rest rest' : String} {keys keys' : List String}

theorem settingText_append_inj (h : settingText key ++ rest = settingText key' ++ rest') :
    key = key' ∧ rest = rest' := by
  unfold settingText at h
  rw [String.append_assoc, String.append_assoc] at h
  obtain ⟨hkey, hrest⟩ := Text.quoted_append_inj h
  exact ⟨hkey, (String.append_right_inj _).1 hrest⟩

/-- The settings after the first, up to the end. -/
def laterText : List String → String
  | [] => "\x7d"
  | key :: keys => ", " ++ (settingText key ++ laterText keys)

theorem settingsText_nil : settingsText [] = "\x7b" ++ "\x7d" := rfl

theorem settingsText_cons (key : String) (keys : List String) :
    settingsText (key :: keys) = "\x7b" ++ (settingText key ++ laterText keys) := by
  have hlater : ", ".intercalate ((key :: keys).map settingText) ++ "\x7d" =
      settingText key ++ laterText keys := by
    induction keys generalizing key with
    | nil =>
      rw [List.map_cons, List.map_nil, String.intercalate_singleton]
      rfl
    | cons k keys ih =>
      rw [List.map_cons, List.map_cons, String.intercalate_cons_cons, ← List.map_cons,
        String.append_assoc, ih k, laterText, String.append_assoc]
  unfold settingsText
  rw [String.append_assoc, hlater]

theorem append_ne_append {a b : Char} {s s' : String} (hab : a ≠ b)
    (hs : s.toList.head? = some a) (hs' : s'.toList.head? = some b) (x y : String) :
    s ++ x ≠ s' ++ y := by
  intro h
  have hchars : (s ++ x).toList.head? = (s' ++ y).toList.head? := by rw [h]
  rw [String.toList_append, String.toList_append, List.head?_append, List.head?_append, hs, hs']
    at hchars
  exact hab (Option.some.inj hchars)

/-- Where settings end can be told from where they go on. -/
theorem brace_append_ne_comma (x y : String) : "\x7d" ++ x ≠ ", " ++ y :=
  append_ne_append (by decide) rfl rfl x y

theorem brace_append_ne_settingText (key x y : String) : "\x7d" ++ x ≠ settingText key ++ y := by
  refine append_ne_append (a := '}') (b := '"') (by decide) rfl ?_ x y
  unfold settingText Text.quoted
  rw [String.toList_append, String.toList_ofList]
  rfl

theorem laterText_append_inj (h : laterText keys ++ rest = laterText keys' ++ rest') :
    keys = keys' ∧ rest = rest' := by
  induction keys generalizing keys' with
  | nil =>
    cases keys' with
    | nil => exact ⟨rfl, (String.append_right_inj _).1 h⟩
    | cons key' keys' =>
      rw [laterText, laterText, String.append_assoc] at h
      exact absurd h (brace_append_ne_comma _ _)
  | cons key keys ih =>
    cases keys' with
    | nil =>
      rw [laterText, laterText, String.append_assoc] at h
      exact absurd h.symm (brace_append_ne_comma _ _)
    | cons key' keys' =>
      have hgoes : settingText key ++ (laterText keys ++ rest) =
          settingText key' ++ (laterText keys' ++ rest') := by
        refine (String.append_right_inj ", ").1 ?_
        simpa only [laterText, String.append_assoc] using h
      obtain ⟨rfl, hlater⟩ := settingText_append_inj hgoes
      obtain ⟨rfl, hrest⟩ := ih hlater
      exact ⟨rfl, hrest⟩

/-- Settings say where their text ends, and what their keys are. -/
theorem settingsText_append_inj (h : settingsText keys ++ rest = settingsText keys' ++ rest') :
    keys = keys' ∧ rest = rest' := by
  cases keys with
  | nil =>
    cases keys' with
    | nil => exact ⟨rfl, (String.append_right_inj _).1 h⟩
    | cons key' keys' =>
      simp only [settingsText_nil, settingsText_cons, String.append_assoc,
        String.append_right_inj] at h
      exact absurd h (brace_append_ne_settingText key' _ _)
  | cons key keys =>
    cases keys' with
    | nil =>
      simp only [settingsText_nil, settingsText_cons, String.append_assoc,
        String.append_right_inj] at h
      exact absurd h.symm (brace_append_ne_settingText key _ _)
    | cons key' keys' =>
      simp only [settingsText_cons, String.append_assoc, String.append_right_inj] at h
      obtain ⟨rfl, hlater⟩ := settingText_append_inj h
      obtain ⟨rfl, hrest⟩ := laterText_append_inj hlater
      exact ⟨rfl, hrest⟩

theorem sameKeys_of_inspectConfig {config config' : Dictionary String Json}
    (h : inspectConfig config' = inspectConfig config) : config.SameKeys config' := by
  rw [inspectConfig_eq, inspectConfig_eq] at h
  obtain ⟨hkeys, -⟩ := settingsText_append_inj (congrArg (· ++ "") h)
  intro key
  rw [Bool.eq_iff_iff, ← mem_settingKeys, ← mem_settingKeys, hkeys]

end Readable

/-! ## Diagnostics -/

theorem OperationRequest.Resembles.inspect {r r' : OperationRequest} (h : r.Resembles r') :
    r'.inspect = r.inspect := by
  unfold OperationRequest.inspect
  rw [h.resourceType, h.properties, inspectConfig_of_sameKeys h.importConfig]

theorem ImportDeclaration.Resembles.inspect {i i' : ImportDeclaration} (h : i.Resembles i') :
    i'.inspect = i.inspect := by
  unfold ImportDeclaration.inspect
  rw [h.provider, h.version, inspectConfig_of_sameKeys h.config]

theorem Template.Resembles.inspect {t t' : Template} (h : t.Resembles t') :
    t'.inspect = t.inspect :=
  Template.inspect_congr (h.imports.imp fun _ _ he => ⟨he.1, he.2.inspect⟩) h.parameters
    h.resources h.outputs

theorem ImportDeclaration.inspect_eq (i : ImportDeclaration) : i.inspect = importText i := by
  unfold ImportDeclaration.inspect importText
  rw [inspectConfig_eq]
  refine String.toList_inj.1 ?_
  simp [Text.inspectRecord]

theorem inspectMap_imports (imports : Table ImportDeclaration) :
    Text.inspectMap (imports.map ImportDeclaration.inspect).entries = importsText imports := by
  unfold Text.inspectMap importsText Table.map
  dsimp only
  rw [List.map_map]
  simp only [Function.comp_def, ImportDeclaration.inspect_eq]

/-- **Diagnostics redact settings.** They show the keys of settings, each once and in order, and
whatever the values are, they look the same. -/
theorem Diagnostics.redacts : Diagnostics.Redacts where
  request _ _ h := h.inspect
  template _ _ h := h.inspect
  settings _ _ := ⟨sameKeys_of_inspectConfig, inspectConfig_of_sameKeys⟩
  lists := lists_settingKeys
  requestText r := by
    unfold OperationRequest.inspect
    rw [inspectConfig_eq]
    refine String.toList_inj.1 ?_
    simp [Text.inspectRecord]
  templateText t := by
    unfold Template.inspect
    dsimp only
    rw [inspectMap_imports]
    refine String.toList_inj.1 ?_
    simp [Text.inspectRecord]
  readable _ _ _ _ h := settingsText_append_inj h

end Provision
