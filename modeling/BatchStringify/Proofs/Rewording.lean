import Mathlib.Logic.Relation
import BatchStringify.Proofs.Overlay

/-!
# Other words for the same settings

Of a document only the values at known keys count for the settings: not what it says about unknown keys, not the order
of its keys, and not whether a group of settings is a table or an array (`Settings.ofText_overlay`).
-/

namespace BatchStringify

/-! ## Rewordings -/

/-- Changes to a table that mean nothing if only these keys are known. -/
inductive Toml.Reworded (known : List String) :
    List (String × Toml.Value) → List (String × Toml.Value) → Prop
  | unknown (front back : List (String × Toml.Value)) {key : String} (v : Toml.Value)
      (new : key ∉ known) : Reworded known (front ++ back) (front ++ (key, v) :: back)
  /-- A table has no key twice. -/
  | reordered {entries entries' : List (String × Toml.Value)} (nodup : (names entries).Nodup)
      (perm : entries.Perm entries') : Reworded known entries entries'

/-- Changes to a document that mean nothing for the settings. -/
inductive Settings.Reworded : List (String × Toml.Value) → List (String × Toml.Value) → Prop
  | root {root root' : List (String × Toml.Value)}
      (h : Toml.Reworded (names ({} : Settings).entries) root root') : Reworded root root'
  | group (front back : List (String × Toml.Value))
      {group : String × List (String × Toml.Value)} (known : group ∈ ({} : Settings).entries)
      {entries entries' : List (String × Toml.Value)}
      (h : Toml.Reworded (names group.2) entries entries') :
      Reworded (front ++ (group.1, .table entries) :: back)
        (front ++ (group.1, .table entries') :: back)
  /-- The fields of a group need no names if they come in their order; surplus values mean nothing. -/
  | positional (front back : List (String × Toml.Value))
      {group : String × List (String × Toml.Value)} (known : group ∈ ({} : Settings).entries)
      (items : List Toml.Value) :
      Reworded (front ++ (group.1, .table ((names group.2).zip items)) :: back)
        (front ++ (group.1, .array items) :: back)

/-! ## Values that say the same -/

/-- A change that means nothing to known keys leaves what is found at them. -/
theorem Toml.Reworded.lookup_eq {known : List String}
    {entries entries' : List (String × Toml.Value)} (h : Toml.Reworded known entries entries')
    {key : String} (hkey : key ∈ known) : entries.lookup key = entries'.lookup key := by
  cases h with
  | unknown front back v new =>
    refine (lookup_insert_of_ne ?_).symm
    rintro rfl
    exact new hkey
  | reordered nodup perm => exact (lookup_eq_of_perm nodup perm key).symm

/-- Whether two values say the same about the settings with these defaults. -/
def Toml.Value.Alike (defaults : List (String × Toml.Value)) (v v' : Toml.Value) : Prop :=
  v.isGroup = v'.isGroup ∧ ∀ setting ∈ defaults,
    (v.given (names defaults)).lookup setting.1 = (v'.given (names defaults)).lookup setting.1

namespace Toml.Value.Alike

variable {defaults : List (String × Value)} {v v' : Value}

theorem refl (v : Value) : v.Alike defaults v := ⟨rfl, fun _ _ => rfl⟩

/-- Of values that say the same one fits if the other does. -/
theorem fits_iff (h : v.Alike defaults v') : v.Fits defaults ↔ v'.Fits defaults := by
  unfold Value.Fits
  rw [h.1]
  refine and_congr_right fun _ => forall₂_congr fun setting hsetting => ?_
  rw [h.2 setting hsetting]

/-- Laid over the defaults they give the same. -/
theorem laidOver_eq (h : v.Alike defaults v') : v.laidOver defaults = v'.laidOver defaults :=
  List.map_congr_left fun e he => by rw [h.2 e he]

variable {found found' : Option Value}

theorem rel_refl (found : Option Value) : Option.Rel (Value.Alike defaults) found found := by
  cases found with
  | none => exact .none
  | some v => exact .some (refl v)

theorem forall_fits_iff (h : Option.Rel (Value.Alike defaults) found found') :
    (∀ v, found = some v → v.Fits defaults) ↔ ∀ v, found' = some v → v.Fits defaults := by
  cases h with
  | none => rfl
  | some halike => simpa using halike.fits_iff

theorem getD_laidOver_eq (h : Option.Rel (Value.Alike defaults) found found') :
    (found.map (·.laidOver defaults)).getD defaults =
      (found'.map (·.laidOver defaults)).getD defaults := by
  cases h with
  | none => rfl
  | some halike => simpa using halike.laidOver_eq

end Toml.Value.Alike

namespace Settings

variable {root root' : List (String × Toml.Value)}

/-- Replacing a value by one that says the same about its group. -/
theorem rel_lookup_replace (front back : List (String × Toml.Value))
    {group other : String × List (String × Toml.Value)} (known : group ∈ ({} : Settings).entries)
    (hother : other ∈ ({} : Settings).entries) {v v' : Toml.Value} (h : v.Alike group.2 v') :
    Option.Rel (Toml.Value.Alike other.2) ((front ++ (group.1, v) :: back).lookup other.1)
      ((front ++ (group.1, v') :: back).lookup other.1) := by
  rcases lookup_replace front back other.1 group.1 v v' with hsame | ⟨hname, hv, hv'⟩
  · rw [hsame]
    exact Toml.Value.Alike.rel_refl _
  · have hnodup : (names ({} : Settings).entries).Nodup := by decide
    have hdefaults : other.2 = group.2 := Option.some.inj
      ((lookup_of_mem hnodup hother).symm.trans (hname ▸ lookup_of_mem hnodup known))
    rw [hv, hv', hdefaults]
    exact .some h

/-- Reworded documents say the same about every group. -/
theorem Reworded.rel_lookup (h : Reworded root root') {group : String × List (String × Toml.Value)}
    (hgroup : group ∈ ({} : Settings).entries) :
    Option.Rel (Toml.Value.Alike group.2) (root.lookup group.1) (root'.lookup group.1) := by
  cases h with
  | root h =>
    rw [h.lookup_eq (mem_names hgroup)]
    exact Toml.Value.Alike.rel_refl _
  | group front back known h =>
    exact rel_lookup_replace front back known hgroup
      ⟨rfl, fun setting hsetting => h.lookup_eq (mem_names hsetting)⟩
  | positional front back known items =>
    exact rel_lookup_replace front back known hgroup ⟨rfl, fun _ _ => rfl⟩

/-- One of them fits if the other does. -/
theorem Reworded.fits_iff (h : Reworded root root') : Fits root ↔ Fits root' :=
  forall₂_congr fun _ hgroup => Toml.Value.Alike.forall_fits_iff (h.rel_lookup hgroup)

/-- They give the same settings. -/
theorem Reworded.laid_eq (h : Reworded root root') : laid root = laid root' :=
  List.map_congr_left fun _ hgroup => by
    rw [Toml.Value.Alike.getD_laidOver_eq (h.rel_lookup hgroup)]

/-- However often a document is changed in ways that mean nothing, it gives the same. -/
theorem same_of_reworded (h : Relation.EqvGen Reworded root root') :
    (Fits root ↔ Fits root') ∧ laid root = laid root' := by
  induction h with
  | rel root root' h => exact ⟨h.fits_iff, h.laid_eq⟩
  | refl root => exact ⟨Iff.rfl, rfl⟩
  | symm root root' _ ih => exact ⟨ih.1.symm, ih.2.symm⟩
  | trans root root' root'' _ _ ih ih' => exact ⟨ih.1.trans ih'.1, ih.2.trans ih'.2⟩

/-- A text that is a document gives settings if every value at a known key is of the wanted kind: a table, an array
or a date for a group, and a truth value or a text, as the default is, for a field of a group, to which a table gives
values by name and an array by position. The settings are then the defaults with exactly the given fields replaced. So
a text gives the same settings, or none, when unknown keys are added to its root or to a group or taken out, with
whatever values, when the keys of either are put in another order, and when the first fields of a group are given by
position and not by name. This holds for every parser of documents that never has a key twice in a table. -/
theorem ofText_overlay {parse? : String → Option (List (String × Toml.Value))}
    (apart : ∀ text root, parse? text = some root → (Toml.Value.table root).Distinct)
    {text : String} (parsed : parse? text = some root) :
    ((∃ settings, ofTextWith parse? text = .ok settings) ↔ Fits root) ∧
    (∀ settings, ofTextWith parse? text = .ok settings ↔
      Fits root ∧ settings.entries = laid root) ∧
    ∀ text' root', parse? text' = some root' → Relation.EqvGen Reworded root root' →
      ∀ settings, ofTextWith parse? text = .ok settings ↔ ofTextWith parse? text' = .ok settings := by
  refine ⟨exists_ofTextWith_iff apart parsed, ofTextWith_eq_ok_iff apart parsed,
    fun text' root' parsed' h settings => ?_⟩
  obtain ⟨hfits, hlaid⟩ := same_of_reworded h
  rw [ofTextWith_eq_ok_iff apart parsed, ofTextWith_eq_ok_iff apart parsed', hfits, hlaid]

/-- A log as objects that is asked for by position, and by name beside an unknown key. -/
theorem ofText_overlay_positional :
    let text := "x = 1\nlogging = [\"warn\", true]\n"
    let text' := "[logging]\njson = true\nx = []\nlevel = \"warn\"\n"
    let root := [("x", .integer 1), ("logging", .array [.string "warn", .boolean true])]
    let settings : Settings := { logging := { level := "warn", json := true } }
    Toml.parse? text = some root ∧ Fits root ∧ settings.entries = laid root ∧
      ofText text = .ok settings ∧ ofText text' = .ok settings := by
  intro text text' root settings
  have hparsed : Toml.parse? text = some root := by decide +kernel
  have hparsed' : Toml.parse? text' = some [("logging", .table [
      ("json", .boolean true), ("x", .array []), ("level", .string "warn")])] := by decide +kernel
  have hread : ofText text = .ok settings := by
    unfold ofText ofTextWith
    rw [hparsed]
    rfl
  have hknown : ("logging", ({} : LoggingSettings).entries) ∈ ({} : Settings).entries :=
    List.mem_cons_self
  have hapart : ∀ text root, Toml.parse? text = some root → (Toml.Value.table root).Distinct :=
    fun _ _ => Toml.distinct_of_parse?
  obtain ⟨-, hlaid, hsame⟩ := ofText_overlay hapart hparsed
  refine ⟨hparsed, ((hlaid settings).1 hread).1, ((hlaid settings).1 hread).2, hread,
    (hsame text' _ hparsed' ?_ settings).1 hread⟩
  have hspare : Reworded [("logging", .array [.string "warn", .boolean true])] root :=
    .root (.unknown [] _ _ (by decide))
  have hnamed := Reworded.positional [] [] hknown [.string "warn", .boolean true]
  have hordered := Reworded.group [] [] hknown (.reordered
    (by decide : (names [("level", Toml.Value.string "warn"), ("json", .boolean true)]).Nodup)
    (.swap _ _ []))
  have hunknown := Reworded.group [] [] hknown (.unknown [("json", .boolean true)]
    [("level", .string "warn")] (.array []) (by decide : "x" ∉ _))
  exact .trans _ _ _ (.symm _ _ (.rel _ _ hspare)) (.trans _ _ _ (.symm _ _ (.rel _ _ hnamed))
    (.trans _ _ _ (.rel _ _ hordered) (.rel _ _ hunknown)))

end Settings

end BatchStringify
