import BatchStringify.Logging.Filter
import Mathlib.Data.List.DropRight

/-!
# Which directives count

The filter in use is read from two texts, one from the settings and one from the environment, joined by a comma.
Reading goes piece by piece, so the joined text has the directives of both, and of two directives for one subject
the later one counts. That makes the environment override the settings subject by subject, and nothing else that
it says can spoil what is configured, in every dialect that keeps to the laws (`environment_overrides`). The dialect
of `Filter` does (`Filter.lawful_dialect`).
-/

namespace BatchStringify

namespace Text

/-- A text between its blanks has none left at its ends. -/
theorem trimChars_trimChars (text : List Char) : trimChars (trimChars text) = trimChars text := by
  have htrim : ∀ t, trimChars t = (t.dropWhile isBlank).rdropWhile isBlank := fun _ => rfl
  -- the blanks in front are gone already, since what is left begins where the text without them begins
  have hfront : (trimChars text).dropWhile isBlank = trimChars text := by
    rw [List.dropWhile_eq_self_iff]
    intro h hblank
    have hprefix := List.rdropWhile_prefix isBlank (l := text.dropWhile isBlank)
    rw [← htrim] at hprefix
    have hne : 0 < (text.dropWhile isBlank).length := Nat.lt_of_lt_of_le h hprefix.length_le
    have hself := List.dropWhile_eq_self_iff.1 (List.dropWhile_idempotent isBlank text) hne
    rw [List.IsPrefix.getElem hprefix h] at hblank
    exact hself hblank
  rw [htrim (trimChars text), hfront, htrim text, List.rdropWhile_idempotent]

theorem trim_trim (text : String) : trim (trim text) = trim text := by
  rw [trim, trim, String.toList_ofList, trimChars_trimChars]

end Text

/-- A level text stands for a bare level or for the text between its blanks, and then this text stands for
itself. -/
theorem directives_cases (level : String) :
    directives level ∈ ["trace", "debug", "info", "warn", "error"] ∨
      directives level = Text.trim level ∧ directives (Text.trim level) = Text.trim level := by
  unfold directives
  dsimp only
  rw [Text.trim_trim]
  split_ifs with hblank hwarning hname
  · exact .inl (by decide)
  · exact .inl (by decide)
  · exact .inl hname
  · exact .inr ⟨rfl, rfl⟩

/-- Spelling the directives of a level text out once more changes nothing. -/
theorem directives_directives (level : String) :
    directives (directives level) = directives level := by
  have hnames : ∀ name ∈ ["trace", "debug", "info", "warn", "error"], directives name = name := by
    decide +kernel
  rcases directives_cases level with hname | ⟨htrim, hself⟩
  · exact hnames _ hname
  · rw [htrim, hself]

namespace Logging

/-! ## The pieces of joined texts -/

theorem pieces_ne_nil (text : List Char) : pieces text ≠ [] := by
  cases text with
  | nil => exact List.cons_ne_nil _ _
  | cons c rest =>
    rw [pieces]
    split
    · exact List.cons_ne_nil _ _
    · split <;> exact List.cons_ne_nil _ _

/-- A comma between two texts ends the last piece of the first one. -/
theorem pieces_join (first second : List Char) :
    pieces (first ++ ',' :: second) = pieces first ++ pieces second := by
  induction first with
  | nil => simp [pieces]
  | cons c rest ih =>
    rw [List.cons_append, pieces, pieces]
    by_cases hc : c = ','
    · rw [if_pos hc, if_pos hc, ih, List.cons_append]
    · rw [if_neg hc, if_neg hc, ih]
      cases hp : pieces rest with
      | nil => exact absurd hp (pieces_ne_nil rest)
      | cons piece more => rfl

/-- Joined texts have the pieces of both. -/
theorem directiveTexts_join (first second : String) :
    directiveTexts (first ++ "," ++ second) = directiveTexts first ++ directiveTexts second := by
  have hjoined : (first ++ "," ++ second).toList = first.toList ++ ',' :: second.toList := by
    simp
  unfold directiveTexts
  rw [hjoined, pieces_join, List.filter_append]

/-! ## The filter in use -/

namespace Dialect

variable {φ δ κ : Type} {dialect : Dialect φ δ κ} {own text : String} {ds es : List δ}

/-- Joined texts read if both do, and have the directives of both. -/
theorem directives?_join (first second : String) :
    dialect.directives? (first ++ "," ++ second) = (dialect.directives? first).bind fun ds =>
      (dialect.directives? second).map (ds ++ ·) := by
  unfold directives?
  rw [directiveTexts_join, List.mapM_append]
  cases (directiveTexts first).mapM dialect.directive? with
  | none => rfl
  | some ds => cases (directiveTexts second).mapM dialect.directive? <;> rfl

theorem directives?_empty : dialect.directives? "" = some [] := rfl

theorem counts_singleton {d e : δ} : dialect.Counts [e] d ↔ d = e := by
  constructor
  · rintro ⟨before, after, h, -⟩
    rcases before with _ | ⟨b, rest⟩
    · exact (List.cons.inj h).1.symm
    · simp at h
  · rintro rfl
    exact ⟨[], [], rfl, by simp⟩

/-- A directive of a list counts behind another list if it counts among its own and the other list has none for its
subject; one of the other list counts if it counts there. -/
theorem counts_append {d : δ} :
    dialect.Counts (ds ++ es) d ↔ dialect.Counts es d ∨
      dialect.Counts ds d ∧ ∀ e ∈ es, dialect.subject e ≠ dialect.subject d := by
  constructor
  · rintro ⟨before, after, hsplit, hlast⟩
    rcases List.append_eq_append_iff.1 hsplit with ⟨mid, -, hes⟩ | ⟨mid, hds, hrest⟩
    · exact .inl ⟨mid, after, hes, hlast⟩
    · -- the directive is the first one behind `before`, in what is left of the first list or in the second one
      cases mid with
      | nil => exact .inl ⟨[], after, hrest.symm, hlast⟩
      | cons e rest =>
        obtain ⟨rfl, rfl⟩ := List.cons.inj hrest
        exact .inr ⟨⟨before, rest, hds, fun e he => hlast e (List.mem_append_left _ he)⟩,
          fun e he => hlast e (List.mem_append_right _ he)⟩
  · rintro (⟨before, after, rfl, hlast⟩ | ⟨⟨before, after, rfl, hlast⟩, hnone⟩)
    · exact ⟨ds ++ before, after, (List.append_assoc ..).symm, hlast⟩
    · refine ⟨before, after ++ es, by simp, fun e he => ?_⟩
      exact (List.mem_append.1 he).elim (hlast e) (hnone e)

/-- The directive that counts for a subject is the first one from behind. -/
theorem counts_iff_find? [DecidableEq κ] {d : δ} :
    dialect.Counts ds d ↔
      (ds.reverse.find? fun e => dialect.subject e = dialect.subject d) = some d := by
  rw [List.find?_eq_some_iff_append]
  constructor
  · rintro ⟨before, after, rfl, hlast⟩
    refine ⟨by simp, after.reverse, before.reverse, by simp, fun e he => ?_⟩
    simpa using hlast e (List.mem_reverse.1 he)
  · rintro ⟨-, after, before, hds, hlast⟩
    refine ⟨before.reverse, after.reverse, ?_, fun e he => ?_⟩
    · rw [← List.reverse_reverse ds, hds]
      simp
    · simpa using hlast e (List.mem_reverse.1 he)

/-- What the environment adds to the configured directives: nothing if it does not read. -/
def added (dialect : Dialect φ δ κ) (environment : Option String) : List δ :=
  ((environment.map Text.trim).bind dialect.directives?).getD []

namespace Lawful

variable (lawful : dialect.Lawful) {environment : Option String} {d : δ}

include lawful

/-- A text whose pieces all read has a filter. -/
theorem exists_read (hds : dialect.directives? text = some ds) :
    ∃ f, dialect.read? text = some f :=
  Option.isSome_iff_exists.1 ((lawful.reads_iff text).2 (hds ▸ rfl))

/-- A text with a piece that does not read has none. -/
theorem read?_eq_none (hds : dialect.directives? text = none) : dialect.read? text = none := by
  have hiff := lawful.reads_iff text
  rw [hds] at hiff
  exact Option.isNone_iff_eq_none.1 (by simpa using hiff)

/-- If the configured directives read, the filter in use is that of a text with these directives and those that the
environment adds. -/
theorem exists_effective (hown : dialect.directives? own = some ds) :
    ∃ text, dialect.directives? text = some (ds ++ dialect.added environment) ∧
      dialect.read? text = some (dialect.effective own environment) := by
  -- wherever the environment is of no account, the configured text is the one that is read
  have halone (hadded : dialect.added environment = [])
      (hread : (candidates own environment).findSome? dialect.read? = dialect.read? own) :
      ∃ text, dialect.directives? text = some (ds ++ dialect.added environment) ∧
        dialect.read? text = some (dialect.effective own environment) := by
    obtain ⟨f, hf⟩ := lawful.exists_read hown
    refine ⟨own, by rw [hadded, List.append_nil, hown], ?_⟩
    rw [effective, hread, hf]
    rfl
  cases htext : environment.map Text.trim with
  | none =>
    refine halone (by rw [added, htext]; rfl) ?_
    simp [candidates, htext]
  | some text =>
    by_cases hblank : text = ""
    · subst hblank
      refine halone (by rw [added, htext]; rfl) ?_
      simp [candidates, htext]
    have hcandidates : candidates own environment = [own ++ "," ++ text, own] := by
      simp [candidates, htext]
    have hjoined : dialect.directives? (own ++ "," ++ text) =
        (dialect.directives? text).map (ds ++ ·) := by
      rw [directives?_join, hown, Option.bind_some]
    cases hes : dialect.directives? text with
    | none =>
      rw [hes, Option.map_none] at hjoined
      refine halone (by rw [added, htext, Option.bind_some, hes]; rfl) ?_
      rw [hcandidates, List.findSome?_cons, lawful.read?_eq_none hjoined]
      simp
    | some es =>
      rw [hes, Option.map_some] at hjoined
      obtain ⟨f, hf⟩ := lawful.exists_read hjoined
      refine ⟨_, by rw [hjoined, added, htext, Option.bind_some, hes]; rfl, ?_⟩
      rw [effective, hcandidates, List.findSome?_cons, hf]
      rfl

/-- With configured directives that read, the filter in use holds those that count when what the environment adds comes
last. -/
theorem holds_effective_iff (hown : dialect.directives? own = some ds)
    (hne : ds ++ dialect.added environment ≠ []) :
    dialect.Holds (dialect.effective own environment) d ↔
      dialect.Counts (ds ++ dialect.added environment) d := by
  obtain ⟨text, hds, hread⟩ := lawful.exists_effective hown
  exact lawful.holds_iff hread hds hne d

/-- If the configured directives do not read, no text does that has them in it. -/
theorem effective_eq_salvage (hown : dialect.directives? own = none) :
    dialect.effective own environment = dialect.salvage "info" := by
  have hnone : (candidates own environment).findSome? dialect.read? = none := by
    rw [List.findSome?_eq_none_iff]
    intro text htext
    refine lawful.read?_eq_none ?_
    have hjoined (extra : String) : dialect.directives? (own ++ "," ++ extra) = none := by
      rw [directives?_join, hown, Option.bind_none]
    unfold candidates at htext
    split at htext <;> simp only [List.mem_cons, List.not_mem_nil, or_false] at htext
    · rw [htext, hown]
    · rw [htext, hown]
    · rcases htext with rfl | rfl
      · exact hjoined _
      · exact hown
  rw [effective, hnone]
  rfl

/-- The filter to fall back on holds the level `info` and nothing else. -/
theorem holds_info_iff {info : δ} (hinfo : dialect.directive? "info".toList = some info) :
    dialect.Holds (dialect.salvage "info") d ↔ d = info := by
  have htexts : directiveTexts "info" = ["info".toList] := by decide +kernel
  have hsalvaged : (directiveTexts "info").filterMap dialect.directive? = [info] := by
    rw [htexts, List.filterMap_cons_some hinfo, List.filterMap_nil]
  rw [lawful.salvaged_iff hsalvaged (List.cons_ne_nil _ _), counts_singleton]

end Lawful

end Dialect

/-! ## A dialect that keeps to the laws -/

namespace Filter

/-- A directive that is added is found for its subject, and for the others what was there before. -/
theorem find?_add (filter : Filter) (d : Directive) (k : Subject) :
    (filter.add d).find? k =
      if d.subject.comparable = k then some d else filter.find? k := by
  unfold add
  split
  · rename_i hk
    rw [← hk, Table.find?_put_self]
  · rename_i hk
    exact Table.find?_put_of_ne _ _ (Ne.symm hk)

/-- Of several directives that are added, a subject keeps the last one. -/
theorem find?_foldl_add (ds : List Directive) (filter : Filter) (k : Subject) :
    (ds.foldl add filter).find? k =
      (ds.reverse.find? fun d => d.subject.comparable = k).or (filter.find? k) := by
  induction ds generalizing filter with
  | nil => rfl
  | cons d rest ih =>
    rw [List.foldl_cons, ih, find?_add, List.reverse_cons, List.find?_append, Option.or_assoc]
    by_cases hk : d.subject.comparable = k <;> simp [hk]

/-- What a filter is made of: each subject has one directive, and it speaks about this subject. -/
structure Keyed (filter : Filter) : Prop where
  keys_nodup : filter.keys.Nodup
  subject_eq : ∀ e ∈ filter.entries, e.2.subject.comparable = e.1

/-- Adding a directive leaves one for each subject. -/
theorem Keyed.add {filter : Filter} (h : filter.Keyed) (d : Directive) : (filter.add d).Keyed where
  keys_nodup := Table.nodup_keys_put h.keys_nodup _ d
  subject_eq := by
    intro e he
    rcases Table.mem_entries_put he with rfl | he
    · rfl
    · exact h.subject_eq e he

/-- A filter has one directive for each subject. -/
theorem keyed_ofDirectives (ds : List Directive) : (ofDirectives ds).Keyed := by
  have hadded : ∀ filter : Filter, filter.Keyed → (ds.foldl Filter.add filter).Keyed := by
    induction ds with
    | nil => exact fun _ h => h
    | cons d rest ih => exact fun filter h => ih (filter.add d) (h.add d)
  exact hadded .empty ⟨List.nodup_nil, by simp [Table.empty]⟩

/-- A filter holds the directives that are found for their subjects. -/
theorem Keyed.mem_directives_iff {filter : Filter} (h : filter.Keyed) (d : Directive) :
    d ∈ filter.directives ↔ filter.find? d.subject.comparable = some d := by
  constructor
  · intro hd
    obtain ⟨e, he, rfl⟩ := List.mem_map.1 hd
    rw [h.subject_eq e he]
    exact Table.find?_of_mem_entries h.keys_nodup he
  · exact fun hd => List.mem_map.2 ⟨_, Table.mem_entries_of_find? hd, rfl⟩

/-- A filter holds exactly the directives that count. -/
theorem mem_ofDirectives_iff (ds : List Directive) (d : Directive) :
    d ∈ (ofDirectives ds).directives ↔ dialect.Counts ds d := by
  rw [(keyed_ofDirectives ds).mem_directives_iff, Dialect.counts_iff_find?, ofDirectives,
    find?_foldl_add, Table.find?_empty, Option.or_none]
  rfl

/-- The dialect of these filters keeps to the laws. -/
theorem lawful_dialect : dialect.Lawful where
  reads_iff text := by
    show (read? text).isSome ↔ _
    rw [read?, Option.isSome_map]
    rfl
  holds_iff := by
    intro text f ds hread hds _ d
    have hread : ((directiveTexts text).mapM Directive.read?).map ofDirectives = some f := hread
    have hds : (directiveTexts text).mapM Directive.read? = some ds := hds
    rw [hds, Option.map_some] at hread
    obtain rfl := Option.some.inj hread
    exact mem_ofDirectives_iff ds d
  salvaged_iff := by
    intro text ds hds hne d
    have hds : (directiveTexts text).filterMap Directive.read? = ds := hds
    have hsalvage : salvage text = ofDirectives ds := by
      rw [salvage, hds]
      cases ds with
      | nil => exact absurd rfl hne
      | cons d rest => rfl
    show d ∈ (salvage text).directives ↔ _
    rw [hsalvage]
    exact mem_ofDirectives_iff ds d
  info_reads := by decide +kernel

end Filter

/-! ## Settings and environment -/

/-- Whatever the settings and the environment say, and whatever library reads it: if the texts of both read and have a
directive, the filter in use holds exactly the directives of the environment that count, and those configured ones
that count and for whose subjects the environment has none. If only the configured text reads, or the environment says
nothing, it holds exactly the configured directives that count, and if the configured text does not read, it holds the
level `info` and nothing else. Spelling the level out as its directives changes neither these nor the filter. -/
theorem environment_overrides {φ δ κ : Type} {dialect : Dialect φ δ κ} (lawful : dialect.Lawful)
    (settings : LoggingSettings) (environment : Option String) :
    let own := BatchStringify.directives settings.level
    let extra := environment.map Text.trim
    let filter := dialect.filter settings environment
    (∀ ds text es, dialect.directives? own = some ds → extra = some text →
      dialect.directives? text = some es → ds ++ es ≠ [] →
      ∀ d, dialect.Holds filter d ↔ dialect.Counts es d ∨
        dialect.Counts ds d ∧ ∀ e ∈ es, dialect.subject e ≠ dialect.subject d) ∧
    (∀ ds, dialect.directives? own = some ds → ds ≠ [] →
      (∀ text, extra = some text → text = "" ∨ dialect.directives? text = none) →
      ∀ d, dialect.Holds filter d ↔ dialect.Counts ds d) ∧
    (dialect.directives? own = none → ∃ info, dialect.directive? "info".toList = some info ∧
      ∀ d, dialect.Holds filter d ↔ d = info) ∧
    BatchStringify.directives own = own ∧
    dialect.filter { settings with level := own } environment = filter := by
  intro own extra filter
  have hself : BatchStringify.directives own = own := directives_directives settings.level
  refine ⟨?_, ?_, ?_, hself, ?_⟩
  · intro ds text es hown hextra hes hne d
    have htext : environment.map Text.trim = some text := hextra
    have hadded : dialect.added environment = es := by
      rw [Dialect.added, htext, Option.bind_some, hes, Option.getD_some]
    rw [← hadded] at hne ⊢
    exact (lawful.holds_effective_iff hown hne).trans Dialect.counts_append
  · -- the environment adds nothing, be it that it is blank or that it does not read
    intro ds hown hne hquiet d
    have hadded : dialect.added environment = [] := by
      rw [Dialect.added]
      cases hextra : environment.map Text.trim with
      | none => rfl
      | some text =>
        rcases hquiet text hextra with rfl | hbad
        · rw [Option.bind_some, Dialect.directives?_empty, Option.getD_some]
        · rw [Option.bind_some, hbad, Option.getD_none]
    have hall : ds ++ dialect.added environment = ds := by rw [hadded, List.append_nil]
    have hholds := lawful.holds_effective_iff (d := d) hown (hall.symm ▸ hne)
    rwa [hall] at hholds
  · intro hown
    obtain ⟨info, hinfo⟩ := Option.isSome_iff_exists.1 lawful.info_reads
    have hsalvage : filter = dialect.salvage "info" := lawful.effective_eq_salvage hown
    exact ⟨info, hinfo, fun d => hsalvage ▸ lawful.holds_info_iff hinfo⟩
  · show dialect.effective (BatchStringify.directives own) environment = filter
    rw [hself]
    rfl

/-- A level with blanks around it and a target that comes twice, and an environment that speaks about the same target
with one comma too many. The environment wins for this target, and with a piece that does not read it changes
nothing. -/
theorem environment_overrides_sameTarget :
    let settings : LoggingSettings := { level := " info,x=off,x=debug " }
    let filter := Filter.dialect.filter settings (some " x=warn,y, ")
    Filter.dialect.Lawful ∧
    (∀ d, d ∈ filter.directives ↔
      Filter.dialect.Counts
        [⟨⟨some "x", none, none⟩, .warn⟩, ⟨⟨some "y", none, none⟩, .trace⟩] d ∨
      Filter.dialect.Counts
        [⟨.everything, .info⟩, ⟨⟨some "x", none, none⟩, .off⟩, ⟨⟨some "x", none, none⟩, .debug⟩]
        d ∧ ∀ e ∈ [(⟨⟨some "x", none, none⟩, .warn⟩ : Directive), ⟨⟨some "y", none, none⟩, .trace⟩],
          e.subject.comparable ≠ d.subject.comparable) ∧
    filter.directives = [⟨.everything, .info⟩, ⟨⟨some "x", none, none⟩, .warn⟩,
      ⟨⟨some "y", none, none⟩, .trace⟩] ∧
    (∀ d, d ∈ (Filter.dialect.filter settings (some "y,x=loud")).directives ↔
      Filter.dialect.Counts
        [⟨.everything, .info⟩, ⟨⟨some "x", none, none⟩, .off⟩, ⟨⟨some "x", none, none⟩, .debug⟩]
        d) ∧
    (Filter.dialect.filter settings (some "y,x=loud")).directives =
      [⟨.everything, .info⟩, ⟨⟨some "x", none, none⟩, .debug⟩] ∧
    ∀ d, d ∈ (Filter.dialect.filter { level := "x=loud" } (some "y")).directives ↔
      d = ⟨.everything, .info⟩ := by
  intro settings filter
  obtain ⟨hboth, -, -, -, -⟩ :=
    environment_overrides Filter.lawful_dialect settings (some " x=warn,y, ")
  obtain ⟨-, halone, -, -, -⟩ :=
    environment_overrides Filter.lawful_dialect settings (some "y,x=loud")
  obtain ⟨-, -, hunread, -, -⟩ :=
    environment_overrides Filter.lawful_dialect { level := "x=loud" } (some "y")
  obtain ⟨info, hinfo, hholds⟩ := hunread (by decide +kernel)
  have hread : Filter.dialect.directive? "info".toList = some ⟨.everything, .info⟩ := by
    decide +kernel
  refine ⟨Filter.lawful_dialect,
    hboth _ "x=warn,y," _ (by decide +kernel) (by decide +kernel) (by decide +kernel) (by simp),
    by decide +kernel, halone _ (by decide +kernel) (by simp) ?_, by decide +kernel, ?_⟩
  · intro text htext
    obtain rfl : "y,x=loud" = text := Option.some.inj htext
    exact .inr (by decide +kernel)
  · obtain rfl := Option.some.inj (hinfo.symm.trans hread)
    exact hholds

end Logging

end BatchStringify
