import Mathlib.Data.List.Nodup
import BatchStringify.Config.Load
import BatchStringify.Proofs.Documents

/-!
# Settings are defaults with values laid over them

A document is read if every value at a known key is of the wanted kind, and then the settings are the defaults with
these values in their places (`Settings.ofTextWith_eq_ok_iff`). A group of settings is a list of fields that each read a
value and put it at their key, and all settings are a group whose fields are groups, so both levels of a document are
laid over the defaults in the same way (`SettingField.layTable_ok_iff`, `SettingField.view_layTable`).
-/

namespace BatchStringify

/-! ## Settings one by one -/

/-- The settings of the log one by one: the name and the value of each. -/
def LoggingSettings.entries (s : LoggingSettings) : List (String × Toml.Value) :=
  [("level", .string s.level), ("json", .boolean s.json), ("stderr", .boolean s.stderr)]

/-- The settings of the debugger one by one: the name and the value of each. -/
def DebuggerSettings.entries (s : DebuggerSettings) : List (String × Toml.Value) :=
  [("batch_evaluation", .boolean s.batchEvaluation), ("batch_helper_class", .string s.helperClass),
   ("batch_helper_method", .string s.helperMethod),
   ("batch_helper_signature", .string s.helperSignature), ("batch_array_type", .string s.arrayType)]

/-- All settings, group by group. -/
def Settings.entries (s : Settings) : List (String × List (String × Toml.Value)) :=
  [("logging", s.logging.entries), ("debugger", s.debugger.entries)]

/-- Settings are what they are one by one. -/
theorem Settings.entries_injective : Function.Injective Settings.entries := by
  rintro ⟨⟨level, json, stderr⟩, ⟨enabled, owner, method, signature, arrayType⟩⟩
    ⟨⟨level', json', stderr'⟩, ⟨enabled', owner', method', signature', arrayType'⟩⟩ h
  cases h
  rfl

namespace Toml.Value

/-- Whether a value can stand in place of another: a text in place of a text, and a truth value in place of a truth
value. -/
def replaces : Value → Value → Bool
  | .string _, .string _ | .boolean _, .boolean _ => true
  | _, _ => false

/-- Whether a value can stand for a group of settings. -/
def isGroup : Value → Bool
  | .table _ | .array _ | .date => true
  | _ => false

/-- What a value gives to settings of these names: a table gives values by name, an array by position. -/
def given (names : List String) : Value → List (String × Value)
  | .table entries => entries
  | .array items => names.zip items
  | _ => []

end Toml.Value

/-- Whether a value can stand for a group of settings with these defaults: what it gives to the known names is of the
kind of the default. -/
def Toml.Value.Fits (defaults : List (String × Toml.Value)) (v : Toml.Value) : Prop :=
  v.isGroup ∧ ∀ setting ∈ defaults, ∀ w,
    (v.given (names defaults)).lookup setting.1 = some w → w.replaces setting.2

/-- The defaults of a group of settings, with what a value gives to them in their places. -/
def Toml.Value.laidOver (defaults : List (String × Toml.Value)) (v : Toml.Value) :
    List (String × Toml.Value) :=
  defaults.map fun e => (e.1, ((v.given (names defaults)).lookup e.1).getD e.2)

namespace Settings

variable (root : List (String × Toml.Value))

/-- Whether every value that a document gives to a known key is of the wanted kind. -/
def Fits : Prop :=
  ∀ group ∈ ({} : Settings).entries, ∀ v, root.lookup group.1 = some v → v.Fits group.2

/-- The defaults, with what a document gives to known keys in their places. -/
def laid : List (String × List (String × Toml.Value)) :=
  ({} : Settings).entries.map fun group =>
    (group.1, ((root.lookup group.1).map (·.laidOver group.2)).getD group.2)

end Settings

/-! ## Laying values over a group -/

namespace SettingField

variable {σ α : Type}

/-- Whether a field does what it should with every value, where a group is seen as entries: it fails if the value
cannot be read, and else puts what is read at its key. -/
def Lays (view : σ → List (String × α)) (read : String → Toml.Value → Option α)
    (field : SettingField σ) : Prop :=
  ∀ v group, (field.lay v group).toOption.map view = (read field.key v).map fun a =>
    (view group).map fun e => if e.1 = field.key then (e.1, a) else e

variable {view : σ → List (String × α)} {read : String → Toml.Value → Option α}
  {fields : List (SettingField σ)}

/-- A field fails exactly with the values that cannot be read. -/
theorem Lays.ok_iff {field : SettingField σ} (h : field.Lays view read) (v : Toml.Value)
    (group : σ) : (∃ group', field.lay v group = .ok group') ↔ ∃ a, read field.key v = some a := by
  have hlay := h v group
  cases hr : field.lay v group with
  | error m =>
    rw [hr] at hlay
    have hnone : read field.key v = none := Option.map_eq_none_iff.1 hlay.symm
    simp [hnone]
  | ok group' =>
    rw [hr] at hlay
    obtain ⟨a, ha, -⟩ := Option.map_eq_some_iff.1 hlay.symm
    simp [ha]

/-- If it does not fail, it puts what it reads at its key and leaves the rest. -/
theorem Lays.view_eq {field : SettingField σ} (h : field.Lays view read) {v : Toml.Value}
    {group group' : σ} (laid : field.lay v group = .ok group') {a : α}
    (hread : read field.key v = some a) :
    view group' = (view group).map fun e => if e.1 = field.key then (e.1, a) else e := by
  have hlay := h v group
  rw [laid, hread] at hlay
  exact Option.some.inj hlay

theorem mem_and_key_of_find? {key : String} {field : SettingField σ}
    (h : fields.find? (·.key = key) = some field) : field ∈ fields ∧ field.key = key :=
  ⟨List.mem_of_find?_eq_some h, by simpa using List.find?_some h⟩

theorem not_mem_keys_of_find? {key : String} (h : fields.find? (·.key = key) = none) :
    key ∉ fields.map (·.key) := by
  intro hkey
  obtain ⟨field, hmem, hfield⟩ := List.mem_map.1 hkey
  exact List.find?_eq_none.1 h field hmem (decide_eq_true hfield)

/-- One entry of a table is for the field of its name, if there is one. -/
theorem layTable_cons (e : String × Toml.Value) (rest : List (String × Toml.Value)) (group : σ) :
    layTable fields (e :: rest) group =
      (match fields.find? (·.key = e.1) with
        | some field => field.lay e.2 group
        | none => .ok group) >>= layTable fields rest := rfl

/-- A table can be laid over a group if the values of the fields can be read. -/
theorem layTable_ok_iff (lays : ∀ field ∈ fields, field.Lays view read)
    (entries : List (String × Toml.Value)) (group : σ) :
    (∃ group', layTable fields entries group = .ok group') ↔
      ∀ e ∈ entries, e.1 ∈ fields.map (·.key) → ∃ a, read e.1 e.2 = some a := by
  induction entries generalizing group with
  | nil => simp [layTable, pure, Except.pure]
  | cons e rest ih =>
    rw [layTable_cons, List.forall_mem_cons]
    cases hfield : fields.find? (·.key = e.1) with
    | none =>
      have hunknown := not_mem_keys_of_find? hfield
      exact (ih group).trans (by simp [hunknown])
    | some field =>
      obtain ⟨hmem, hkey⟩ := mem_and_key_of_find? hfield
      have hknown : e.1 ∈ fields.map (·.key) := List.mem_map.2 ⟨field, hmem, hkey⟩
      have hok := (lays field hmem).ok_iff e.2 group
      rw [hkey] at hok
      dsimp only
      cases hr : field.lay e.2 group with
      | error m =>
        rw [hr] at hok
        simp only [hknown, forall_true_left, ← hok]
        simp [bind, Except.bind]
      | ok group' =>
        rw [hr] at hok
        simp only [hknown, forall_true_left, ← hok]
        simpa [bind, Except.bind] using ih group'

/-- If it can, the group is then what it was with the values that were read in their places. -/
theorem view_layTable (lays : ∀ field ∈ fields, field.Lays view read)
    (keys : ∀ group, names (view group) = fields.map (·.key))
    {entries : List (String × Toml.Value)} (nodup : (names entries).Nodup) {group group' : σ}
    (laid : layTable fields entries group = .ok group') :
    view group' = (view group).map fun e =>
      (e.1, ((entries.lookup e.1).bind (read e.1)).getD e.2) := by
  induction entries generalizing group with
  | nil =>
    cases laid
    simp
  | cons e rest ih =>
    obtain ⟨hnew, hrest⟩ := List.nodup_cons.1 nodup
    rw [layTable_cons] at laid
    cases hfield : fields.find? (·.key = e.1) with
    | none =>
      rw [hfield] at laid
      rw [ih hrest laid]
      refine List.map_congr_left fun f hf => ?_
      have hne : f.1 ≠ e.1 := by
        intro hfe
        have hmem : f.1 ∈ names (view group) := List.mem_map.2 ⟨f, hf, rfl⟩
        rw [keys, hfe] at hmem
        exact not_mem_keys_of_find? hfield hmem
      rw [List.lookup_cons, beq_false_of_ne hne]
    | some field =>
      rw [hfield] at laid
      obtain ⟨hmem, hkey⟩ := mem_and_key_of_find? hfield
      have hlays := lays field hmem
      dsimp only at laid
      cases hr : field.lay e.2 group with
      | error m =>
        rw [hr] at laid
        cases laid
      | ok middle =>
        rw [hr] at laid
        obtain ⟨a, ha⟩ := (hlays.ok_iff e.2 group).1 ⟨middle, hr⟩
        rw [ih hrest laid, hlays.view_eq hr ha, List.map_map]
        rw [hkey] at ha ⊢
        refine List.map_congr_left fun f _ => ?_
        dsimp only [Function.comp]
        by_cases hf : f.1 = e.1
        · rw [if_pos hf, hf, lookup_eq_none_of_not_mem hnew, List.lookup_cons_self]
          simp [ha]
        · rw [if_neg hf, List.lookup_cons, beq_false_of_ne hf]

/-- The items of an array are laid over a group as the entries of a table would be that names them in their order. -/
theorem layArray_eq (nodup : (fields.map (·.key)).Nodup) (items : List Toml.Value) (group : σ) :
    layArray fields items group = layTable fields ((fields.map (·.key)).zip items) group := by
  -- the fields in front are spent, but the entries that are left are not for them
  suffices h : ∀ front back : List (SettingField σ), ((front ++ back).map (·.key)).Nodup →
      ∀ items group, layArray back items group =
        layTable (front ++ back) ((back.map (·.key)).zip items) group from
    h [] fields nodup items group
  intro front back
  induction back generalizing front with
  | nil => exact fun _ _ _ => rfl
  | cons field back ih =>
    intro nodup items group
    cases items with
    | nil => rfl
    | cons v items =>
      have hfind : (front ++ field :: back).find? (·.key = field.key) = some field := by
        rw [List.map_append, List.nodup_append] at nodup
        obtain ⟨-, -, hapart⟩ := nodup
        have hfront : front.find? (·.key = field.key) = none :=
          List.find?_eq_none.2 fun other hother hkey => hapart other.key
            (List.mem_map.2 ⟨other, hother, rfl⟩) field.key List.mem_cons_self
            (of_decide_eq_true hkey)
        rw [List.find?_append, hfront]
        simp
      have hih := ih (front ++ [field]) (by simpa using nodup) items
      rw [List.append_assoc] at hih
      rw [List.map_cons, List.zip_cons_cons, layTable_cons]
      dsimp only
      rw [hfind]
      exact bind_congr hih

/-! ## Groups -/

/-- A value for a setting with this name, if it is of the kind of the default. -/
def readSetting (defaults : List (String × Toml.Value)) (name : String) (v : Toml.Value) :
    Option Toml.Value :=
  (defaults.lookup name).bind fun default => if v.replaces default then some v else none

section Group

variable {view : σ → List (String × Toml.Value)} {fields : List (SettingField σ)} {base : σ}

/-- A field that is a truth value reads truth values. -/
theorem lays_flag {key : String} {set : Bool → σ → σ} {b₀ : Bool}
    (found : (view base).lookup key = some (.boolean b₀))
    (view_set : ∀ b group, view (set b group) = (view group).map fun e =>
      if e.1 = key then (e.1, .boolean b) else e) :
    (flag key set).Lays view (readSetting (view base)) := by
  intro v group
  cases v with
  | boolean b =>
    have hread : readSetting (view base) key (.boolean b) = some (.boolean b) := by
      rw [readSetting, found]
      rfl
    exact (congrArg some (view_set b group)).trans (by rw [flag, hread]; rfl)
  | _ => simp [flag, readSetting, found, Toml.Value.replaces, Except.toOption]

/-- A field that is a text reads texts. -/
theorem lays_text {key : String} {set : String → σ → σ} {s₀ : String}
    (found : (view base).lookup key = some (.string s₀))
    (view_set : ∀ s group, view (set s group) = (view group).map fun e =>
      if e.1 = key then (e.1, .string s) else e) :
    (text key set).Lays view (readSetting (view base)) := by
  intro v group
  cases v with
  | string s =>
    have hread : readSetting (view base) key (.string s) = some (.string s) := by
      rw [readSetting, found]
      rfl
    exact (congrArg some (view_set s group)).trans (by rw [text, hread]; rfl)
  | _ => simp [text, readSetting, found, Toml.Value.replaces, Except.toOption]

/-- A value that stands for a group is laid over it as the table is that gives the same. -/
theorem layGroup_eq (nodup : (fields.map (·.key)).Nodup) (wanted : Wanted) {v : Toml.Value}
    (isGroup : v.isGroup) (group : σ) :
    layGroup fields wanted v group = layTable fields (v.given (fields.map (·.key))) group := by
  cases v with
  | table entries => rfl
  | array items => exact layArray_eq nodup items group
  | date => rfl
  | _ => cases isGroup

/-- A value gives nothing twice to one name. -/
theorem nodup_given {known : List String} (nodup : known.Nodup) {v : Toml.Value} (h : v.Distinct) :
    (names (v.given known)).Nodup := by
  cases h with
  | table keys _ => exact keys
  | array _ => exact nodup.sublist (names_zip_sublist known _)
  | _ => exact List.nodup_nil

variable (lays : ∀ field ∈ fields, field.Lays view (readSetting (view base)))
  (keys : ∀ group, names (view group) = fields.map (·.key)) (nodup : (fields.map (·.key)).Nodup)
  (wanted : Wanted) {v : Toml.Value} (distinct : v.Distinct)

include lays keys nodup distinct

/-- A value can be laid over a group of defaults if it fits. -/
theorem layGroup_ok_iff :
    (∃ group, layGroup fields wanted v base = .ok group) ↔ v.Fits (view base) := by
  unfold Toml.Value.Fits
  cases hgroup : v.isGroup with
  | false => cases v <;> simp_all [layGroup, Toml.Value.isGroup]
  | true =>
    have hbase : (names (view base)).Nodup := by rwa [keys]
    have hread : ∀ setting ∈ view base, ∀ w,
        (∃ a, readSetting (view base) setting.1 w = some a) ↔ w.replaces setting.2 := by
      intro setting hsetting w
      rw [readSetting, lookup_of_mem hbase hsetting, Option.bind_some]
      split <;> simp_all
    rw [layGroup_eq nodup wanted hgroup, layTable_ok_iff lays, ← keys base,
      and_iff_right rfl]
    exact forall_known_iff (view base) (nodup_given hbase distinct)
      (P := fun name w => ∃ a, readSetting (view base) name w = some a)
      fun setting hsetting w _ => hread setting hsetting w

/-- Then the group has its values in their places. -/
theorem view_layGroup {group : σ} (laid : layGroup fields wanted v base = .ok group) :
    view group = v.laidOver (view base) := by
  obtain ⟨hgroup, hkinds⟩ := (layGroup_ok_iff lays keys nodup wanted distinct).1 ⟨group, laid⟩
  rw [layGroup_eq nodup wanted hgroup] at laid
  rw [view_layTable lays keys (nodup_given nodup distinct) laid, Toml.Value.laidOver, keys]
  refine List.map_congr_left fun e he => ?_
  cases hw : (v.given (fields.map (·.key))).lookup e.1 with
  | none => rfl
  | some w =>
    rw [← keys base] at hw
    have hbase : (names (view base)).Nodup := by rwa [keys]
    rw [Option.bind_some, readSetting, lookup_of_mem hbase he, Option.bind_some,
      if_pos (hkinds e he w hw)]

/-- Laying a value over the defaults gives the defaults with its values in their places, if these are of the right
kinds, and else nothing. -/
theorem map_view_layGroup_iff {settings : List (String × Toml.Value)} :
    (layGroup fields wanted v base).toOption.map view = some settings ↔
      v.Fits (view base) ∧ settings = v.laidOver (view base) := by
  rw [← layGroup_ok_iff lays keys nodup wanted distinct]
  cases hr : layGroup fields wanted v base with
  | error m => simp [Except.toOption]
  | ok group =>
    rw [← view_layGroup lays keys nodup wanted distinct hr]
    simp [Except.toOption, eq_comm]

end Group

end SettingField

/-! ## Documents -/

open SettingField (readSetting lays_flag lays_text layGroup map_view_layGroup_iff layTable_ok_iff
  view_layTable)

/-- Every field of the logging settings does what it should. -/
theorem LoggingSettings.lays_fields :
    ∀ field ∈ fields, field.Lays entries (readSetting ({} : LoggingSettings).entries) := by
  intro field h
  simp only [fields, List.mem_cons, List.not_mem_nil, or_false] at h
  rcases h with rfl | rfl | rfl
  · exact lays_text rfl fun _ _ => rfl
  · exact lays_flag rfl fun _ _ => rfl
  · exact lays_flag rfl fun _ _ => rfl

/-- Every field of the debugger settings does what it should. -/
theorem DebuggerSettings.lays_fields :
    ∀ field ∈ fields, field.Lays entries (readSetting ({} : DebuggerSettings).entries) := by
  intro field h
  simp only [fields, List.mem_cons, List.not_mem_nil, or_false] at h
  rcases h with rfl | rfl | rfl | rfl | rfl
  · exact lays_flag rfl fun _ _ => rfl
  all_goals exact lays_text rfl fun _ _ => rfl

namespace Settings

/-- What laying a value over the defaults of a group makes of them. -/
def readGroup (group : String) (v : Toml.Value) : Option (List (String × Toml.Value)) :=
  if group = "logging" then
    (layGroup LoggingSettings.fields .logging v {}).toOption.map LoggingSettings.entries
  else if group = "debugger" then
    (layGroup DebuggerSettings.fields .debugger v {}).toOption.map DebuggerSettings.entries
  else none

/-- So do the two groups, as fields of all settings. -/
theorem lays_fields : ∀ field ∈ fields, field.Lays entries readGroup := by
  intro field h v all
  simp only [fields, List.mem_cons, List.not_mem_nil, or_false] at h
  rcases h with rfl | rfl
  · rw [readGroup, if_pos rfl]
    dsimp only
    cases layGroup LoggingSettings.fields .logging v {} <;> rfl
  · rw [readGroup, if_neg (by decide), if_pos rfl]
    dsimp only
    cases layGroup DebuggerSettings.fields .debugger v {} <;> rfl

/-- A group is read from a value that fits, as the defaults with this value laid over them. -/
theorem readGroup_eq_some_iff {group : String × List (String × Toml.Value)}
    (known : group ∈ ({} : Settings).entries) {v : Toml.Value} (distinct : v.Distinct)
    {settings : List (String × Toml.Value)} :
    readGroup group.1 v = some settings ↔ v.Fits group.2 ∧ settings = v.laidOver group.2 := by
  simp only [entries, List.mem_cons, List.not_mem_nil, or_false] at known
  rcases known with rfl | rfl
  · exact map_view_layGroup_iff LoggingSettings.lays_fields (fun _ => rfl) (by decide) _ distinct
  · exact map_view_layGroup_iff DebuggerSettings.lays_fields (fun _ => rfl) (by decide) _ distinct

variable {root : List (String × Toml.Value)} (distinct : (Toml.Value.table root).Distinct)

include distinct

/-- What is found in a table has no key twice either. -/
theorem distinct_of_lookup {key : String} {v : Toml.Value} (h : root.lookup key = some v) :
    v.Distinct := by
  cases distinct with
  | table _ values => exact values (key, v) (mem_of_lookup h)

theorem nodup_names_of_distinct : (names root).Nodup := by
  cases distinct with
  | table keys _ => exact keys

/-- A table gives settings if all that it gives to known keys is of the wanted kind. -/
theorem ofTable_ok_iff : (∃ settings, ofTable root = .ok settings) ↔ Fits root := by
  refine (layTable_ok_iff lays_fields root {}).trans (forall_known_iff ({} : Settings).entries
    (nodup_names_of_distinct distinct) (P := fun group v => ∃ a, readGroup group v = some a)
    fun group hgroup v hv => ?_)
  simp [readGroup_eq_some_iff hgroup (distinct_of_lookup distinct hv)]

/-- These are the defaults with what it gives to known keys in their places. -/
theorem entries_ofTable {settings : Settings} (read : ofTable root = .ok settings) :
    settings.entries = laid root := by
  have hfits := (ofTable_ok_iff distinct).1 ⟨settings, read⟩
  rw [view_layTable lays_fields (fun _ => rfl) (nodup_names_of_distinct distinct) read, laid]
  refine List.map_congr_left fun group hgroup => ?_
  cases hv : root.lookup group.1 with
  | none => rfl
  | some v =>
    rw [Option.bind_some, (readGroup_eq_some_iff hgroup (distinct_of_lookup distinct hv)).2
      ⟨hfits group hgroup v hv, rfl⟩]
    rfl

omit distinct

/-! Only one thing is asked of the parser: none of its tables has a key twice. -/

variable {parse? : String → Option (List (String × Toml.Value))} {text : String}
  (apart : ∀ text root, parse? text = some root → (Toml.Value.table root).Distinct)
  (parsed : parse? text = some root)

include parsed

/-- A text that is a document gives the settings of its root table. -/
theorem ofTextWith_eq_ok_iff_ofTable (settings : Settings) :
    ofTextWith parse? text = .ok settings ↔ ofTable root = .ok settings := by
  unfold ofTextWith
  rw [parsed]
  dsimp only
  cases ofTable root <;> simp

include apart

/-- A text that is a document gives settings if all that it gives to known keys is of the wanted kind. -/
theorem exists_ofTextWith_iff : (∃ settings, ofTextWith parse? text = .ok settings) ↔ Fits root := by
  simp only [ofTextWith_eq_ok_iff_ofTable parsed]
  exact ofTable_ok_iff (apart _ _ parsed)

/-- The settings that it gives are the defaults with what it gives to known keys in their places. -/
theorem ofTextWith_eq_ok_iff (settings : Settings) :
    ofTextWith parse? text = .ok settings ↔ Fits root ∧ settings.entries = laid root := by
  have hdistinct := apart _ _ parsed
  rw [ofTextWith_eq_ok_iff_ofTable parsed, ← ofTable_ok_iff hdistinct]
  refine ⟨fun h => ⟨⟨settings, h⟩, entries_ofTable hdistinct h⟩, fun ⟨⟨other, hother⟩, h⟩ => ?_⟩
  have hentries := entries_ofTable hdistinct hother
  rw [hother, entries_injective (h.trans hentries.symm)]

end Settings

end BatchStringify
