import BatchStringify.Config.Settings

/-!
# Dialects of filters

What a filter text means is up to the library that reads it. A dialect is such a library as far as settings need it:
how it reads texts, what its directives are, and which of them a filter holds. What is relied on is that a text is a
list of directives between commas, and that of two directives for one subject the later one counts
(`Dialect.Lawful`).

The filter in use is read from the configured directives with those of the environment behind them. If these do not
read together, it is read from the configured ones alone, and if these do not read either, it is the level `info` for
everything.
-/

namespace BatchStringify.Logging

/-- The pieces of a text between commas. -/
def pieces : List Char → List (List Char)
  | [] => [[]]
  | c :: rest =>
    if c = ',' then [] :: pieces rest
    else match pieces rest with
      | [] => [[c]]
      | piece :: more => (c :: piece) :: more

/-- The pieces of a text that are not empty. Each is to be a directive. -/
def directiveTexts (text : String) : List (List Char) :=
  (pieces text.toList).filter (!·.isEmpty)

/-- A library of log filters `φ`, which hold directives `δ`, which speak about subjects `κ`. -/
structure Dialect (φ δ κ : Type) where
  /-- The filter of a text, if the text reads. -/
  read? : String → Option φ
  /-- The filter of those pieces of a text that read. -/
  salvage : String → φ
  /-- The directive that a piece of a text is, if it reads. -/
  directive? : List Char → Option δ
  /-- What a directive speaks about. -/
  subject : δ → κ
  /-- Whether a filter holds a directive. -/
  Holds : φ → δ → Prop

namespace Dialect

variable {φ δ κ : Type} (dialect : Dialect φ δ κ)

/-- The directives of a text, if all of its pieces read. -/
def directives? (text : String) : Option (List δ) :=
  (directiveTexts text).mapM dialect.directive?

/-- Whether a directive is the last one of a list for its subject. -/
def Counts (ds : List δ) (d : δ) : Prop :=
  ∃ before after, ds = before ++ d :: after ∧ ∀ e ∈ after, dialect.subject e ≠ dialect.subject d

/-- The texts to read the filter in use from, in the order in which they are tried. -/
def candidates (own : String) (environment : Option String) : List String :=
  match environment.map Text.trim with
  | none | some "" => [own]
  | some extra => [own ++ "," ++ extra, own]

/-- The filter in use. -/
def effective (own : String) (environment : Option String) : φ :=
  ((candidates own environment).findSome? dialect.read?).getD (dialect.salvage "info")

/-- The filter that logging settings and the environment give. -/
def filter (settings : LoggingSettings) (environment : Option String) : φ :=
  dialect.effective (BatchStringify.directives settings.level) environment

/-- What the settings rely on in a library of filters. -/
structure Lawful : Prop where
  /-- A text reads if all of its pieces do, empty ones apart. -/
  reads_iff (text : String) : (dialect.read? text).isSome ↔ (dialect.directives? text).isSome
  /-- Of the directives of a text a later one replaces an earlier one for its subject. Without any directive a filter
  may hold a default of the library. -/
  holds_iff {text : String} {f : φ} {ds : List δ} (hread : dialect.read? text = some f)
    (hds : dialect.directives? text = some ds) (hne : ds ≠ []) (d : δ) :
    dialect.Holds f d ↔ dialect.Counts ds d
  /-- The same where pieces that do not read are left out. -/
  salvaged_iff {text : String} {ds : List δ}
    (hds : (directiveTexts text).filterMap dialect.directive? = ds) (hne : ds ≠ []) (d : δ) :
    dialect.Holds (dialect.salvage text) d ↔ dialect.Counts ds d
  /-- The level `info` is a directive. -/
  info_reads : (dialect.directive? "info".toList).isSome

end Dialect

end BatchStringify.Logging
