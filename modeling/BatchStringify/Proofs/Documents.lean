import Mathlib.Data.List.Nodup
import BatchStringify.Toml.Document

/-!
# The keys of a document

No table of a document has a key twice, neither the root nor a table at any depth in it (`Toml.distinct_of_parse?`).
The tables that are built while a document is read keep their keys apart: a node that is put at a known key takes the
place of the one that was there, and all that is added to a document is put at a key.
-/

namespace BatchStringify

/-! ## Entries -/

/-- The names in a list of entries, in order. -/
abbrev names {α : Type} (entries : List (String × α)) : List String := entries.map (·.1)

section Lookup

variable {α : Type} {entries entries' : List (String × α)} {key : String} {a : α}

/-- What is found stands in the list. -/
theorem mem_of_lookup (h : entries.lookup key = some a) : (key, a) ∈ entries := by
  obtain ⟨front, back, rfl, -⟩ := List.lookup_eq_some_iff.1 h
  exact List.mem_append_right _ List.mem_cons_self

theorem lookup_eq_none_of_not_mem (h : key ∉ names entries) : entries.lookup key = none :=
  List.lookup_eq_none_iff.2 fun e he => bne_iff_ne.2 fun hkey =>
    h (List.mem_map.2 ⟨e, he, hkey.symm⟩)

/-- Where no key comes twice, what stands in the list is found. -/
theorem lookup_of_mem (nodup : (names entries).Nodup) (h : (key, a) ∈ entries) :
    entries.lookup key = some a := by
  induction entries with
  | nil => cases h
  | cons e rest ih =>
    obtain ⟨hnew, hrest⟩ := List.nodup_cons.1 nodup
    rcases List.mem_cons.1 h with rfl | h
    · exact List.lookup_cons_self
    · have hne : key ≠ e.1 := by
        rintro rfl
        exact hnew (List.mem_map.2 ⟨_, h, rfl⟩)
      rw [List.lookup_cons, beq_false_of_ne hne]
      exact ih hrest h

/-- Where no key comes twice, the order of the entries does not count. -/
theorem lookup_eq_of_perm (nodup : (names entries).Nodup) (perm : entries.Perm entries')
    (key : String) : entries'.lookup key = entries.lookup key := by
  refine Option.ext fun a => ⟨fun h => ?_, fun h => ?_⟩
  · exact lookup_of_mem nodup (perm.mem_iff.2 (mem_of_lookup h))
  · exact lookup_of_mem ((perm.map _).nodup_iff.1 nodup) (perm.mem_iff.1 (mem_of_lookup h))

theorem mem_names {e : String × α} (h : e ∈ entries) : e.1 ∈ names entries :=
  List.mem_map.2 ⟨e, h, rfl⟩

/-- What is asked of all entries with known keys is asked of all that is found at known keys. -/
theorem forall_known_iff {β : Type} (known : List (String × β)) (nodup : (names entries).Nodup)
    {P : String → α → Prop} {Q : String × β → α → Prop}
    (h : ∀ k ∈ known, ∀ a, entries.lookup k.1 = some a → (P k.1 a ↔ Q k a)) :
    (∀ e ∈ entries, e.1 ∈ names known → P e.1 e.2) ↔
      ∀ k ∈ known, ∀ a, entries.lookup k.1 = some a → Q k a := by
  refine ⟨fun hall k hk a ha => (h k hk a ha).1 (hall (k.1, a) (mem_of_lookup ha) (mem_names hk)),
    fun hall e he hknown => ?_⟩
  obtain ⟨k, hk, hname⟩ := List.mem_map.1 hknown
  have hfound : entries.lookup k.1 = some e.2 := hname ▸ lookup_of_mem nodup he
  rw [← hname]
  exact (h k hk e.2 hfound).2 (hall k hk e.2 hfound)

theorem names_zip_sublist (known : List String) (items : List α) :
    (names (known.zip items)).Sublist known := by
  induction known generalizing items with
  | nil => exact .slnil
  | cons name known ih =>
    cases items with
    | nil => exact List.nil_sublist _
    | cons item items => exact (ih items).cons_cons name

/-- Where one value is replaced, either nothing changes at a key or it is the key of this value. -/
theorem lookup_replace (front back : List (String × α)) (key key' : String) (a a' : α) :
    (front ++ (key', a) :: back).lookup key = (front ++ (key', a') :: back).lookup key ∨
      key = key' ∧ (front ++ (key', a) :: back).lookup key = some a ∧
        (front ++ (key', a') :: back).lookup key = some a' := by
  rw [List.lookup_append, List.lookup_append]
  cases front.lookup key with
  | some b => exact .inl rfl
  | none =>
    by_cases h : key = key'
    · subst h
      exact .inr ⟨rfl, List.lookup_cons_self, List.lookup_cons_self⟩
    · rw [List.lookup_cons, List.lookup_cons, beq_false_of_ne h]
      exact .inl rfl

/-- An entry with another key hides nothing. -/
theorem lookup_insert_of_ne {front back : List (String × α)} {key' : String} (h : key ≠ key') :
    (front ++ (key', a) :: back).lookup key = (front ++ back).lookup key := by
  rw [List.lookup_append, List.lookup_append, List.lookup_cons, beq_false_of_ne h]

end Lookup

/-! ## Readers -/

namespace Text.Reader

variable {α β : Type} {P : α → Prop} {Q : β → Prop}

/-- Whether everything that a reader can give satisfies the predicate. -/
def Gives (P : α → Prop) (r : Reader α) : Prop := ∀ text a rest, r text = some (a, rest) → P a

theorem gives_pure {a : α} (h : P a) : Gives P (pure a) := by
  rintro text b rest ⟨⟩
  exact h

theorem gives_fail : Gives P fail := nofun

/-- What a reader gives holds if it holds for what each of its parts gives. -/
theorem Gives.bind {r : Reader α} {f : α → Reader β} (h : Gives P r)
    (hf : ∀ a, P a → Gives Q (f a)) : Gives Q (r >>= f) := by
  intro text b rest hb
  obtain ⟨⟨a, rest'⟩, ha, hb⟩ := Option.bind_eq_some_iff.1 hb
  exact hf a (h text a rest' ha) rest' b rest hb

/-- What a reader gives last is all that counts, if the parts in front of it may give anything. -/
theorem gives_bind {r : Reader α} {f : α → Reader β} (hf : ∀ a, Gives Q (f a)) :
    Gives Q (r >>= f) :=
  Gives.bind (P := fun _ => True) (fun _ _ _ _ => trivial) fun a _ => hf a

/-- Of two readers the one that reads gives the result. -/
theorem Gives.orElse {r r' : Reader α} (h : Gives P r) (h' : Gives P r') : Gives P (r <|> r') := by
  intro text a rest ha
  have horElse : (r <|> r') text = (r text <|> r' text) := rfl
  rw [horElse] at ha
  cases hr : r text with
  | some read =>
    rw [hr] at ha
    cases ha
    exact h text a rest hr
  | none =>
    rw [hr] at ha
    exact h' text a rest ha

/-- How much a reader may take at most does not count. -/
theorem gives_bounded {r : Nat → Reader α} (h : ∀ fuel, Gives P (r fuel)) : Gives P (bounded r) :=
  fun text => h _ text

end Text.Reader

namespace Toml

open Text (Reader)
open Text.Reader

/-! ## Values and tables -/

/-- Whether no table in a value has a key twice, at whatever depth. -/
inductive Value.Distinct : Value → Prop
  | string (text : String) : Distinct (.string text)
  | integer (n : Int) : Distinct (.integer n)
  | float (bits : Nat) : Distinct (.float bits)
  | boolean (b : Bool) : Distinct (.boolean b)
  | date : Distinct .date
  | array {items : List Value} (values : ∀ v ∈ items, Distinct v) : Distinct (.array items)
  | table {entries : List (String × Value)} (keys : (names entries).Nodup)
      (values : ∀ e ∈ entries, Distinct e.2) : Distinct (.table entries)

mutual

/-- Whether no table in a node has a key twice, at whatever depth. -/
inductive Node.Distinct : Node → Prop
  | value {v : Value} (h : v.Distinct) : Node.Distinct (.value v)
  | table {t : TableNode} (h : TableNode.Distinct t) : Node.Distinct (.table t)
  | tables {ts : List TableNode} (h : ∀ t ∈ ts, TableNode.Distinct t) : Node.Distinct (.tables ts)

/-- Whether neither a table that is being read nor any table in it has a key twice. -/
inductive TableNode.Distinct : TableNode → Prop
  | mk {t : TableNode} (keys : (names t.items).Nodup)
      (nodes : ∀ e ∈ t.items, Node.Distinct e.2) : TableNode.Distinct t

end

namespace TableNode

variable {t : TableNode}

theorem distinct_of_items_nil (h : t.items = []) : t.Distinct := by
  refine ⟨?_, ?_⟩ <;> simp [h]

/-- A new table has no keys at all. -/
theorem distinct_blank : blank.Distinct := distinct_of_items_nil rfl

/-- What counts is what the table holds, not how it came into being. -/
theorem Distinct.of_items_eq {t' : TableNode} (h : t.Distinct) (hitems : t'.items = t.items) :
    t'.Distinct := by
  obtain ⟨hkeys, hnodes⟩ := h
  refine ⟨?_, ?_⟩ <;> rwa [hitems]

/-- What a well-keyed table has at a key is well-keyed. -/
theorem Distinct.find? (h : t.Distinct) {key : String} {node : Node}
    (found : t.find? key = some node) : node.Distinct := by
  obtain ⟨-, hnodes⟩ := h
  exact hnodes (key, node) (mem_of_lookup found)

/-- Removing a key leaves a well-keyed table. -/
theorem Distinct.erase (h : t.Distinct) (key : String) : (t.erase key).Distinct := by
  obtain ⟨hkeys, hnodes⟩ := h
  exact ⟨hkeys.sublist (List.filter_sublist.map _), fun e he => hnodes e (List.mem_filter.1 he).1⟩

/-- Putting adds the new item and keeps some of the old ones. -/
theorem mem_items_put {key : String} {node : Node} {e : String × Node}
    (h : e ∈ (t.put key node).items) : e = (key, node) ∨ e ∈ t.items := by
  unfold TableNode.put at h
  split at h
  · obtain ⟨⟨k, old⟩, hold, rfl⟩ := List.mem_map.1 h
    dsimp only
    split
    · exact .inl rfl
    · exact .inr hold
  · rcases List.mem_append.1 h with hold | hnew
    · exact .inr hold
    · exact .inl (List.mem_singleton.1 hnew)

/-- A key that is put is put in place of itself or at the end, so none comes twice. -/
theorem nodup_names_put (nodup : (names t.items).Nodup) (key : String) (node : Node) :
    (names (t.put key node).items).Nodup := by
  unfold TableNode.put
  split
  · rw [names, List.map_map]
    refine Eq.subst (List.map_congr_left fun e _ => ?_) nodup
    obtain ⟨k, old⟩ := e
    dsimp only [Function.comp]
    split
    · rename_i hk
      exact eq_of_beq hk
    · rfl
  · rename_i hnew
    rw [names, List.map_append, List.nodup_append]
    refine ⟨nodup, List.nodup_singleton key, fun k hk k' hk' hkk' => hnew ?_⟩
    obtain ⟨e, he, rfl⟩ := List.mem_map.1 hk
    refine List.any_eq_true.2 ⟨e, he, ?_⟩
    rw [hkk', List.mem_singleton.1 hk']
    exact beq_self_eq_true key

/-- Putting a well-keyed node leaves a well-keyed table. -/
theorem Distinct.put (h : t.Distinct) (key : String) {node : Node} (hnode : node.Distinct) :
    (t.put key node).Distinct := by
  obtain ⟨hkeys, hnodes⟩ := h
  refine ⟨nodup_names_put hkeys key node, fun e he => ?_⟩
  rcases mem_items_put he with rfl | he
  · exact hnode
  · exact hnodes e he

variable {α : Type} {P : α → Prop} {change : TableNode → Option (α × TableNode)}

/-- Whether a change keeps keys apart, and what else it gives satisfies the predicate. -/
def KeepsDistinct (P : α → Prop) (change : TableNode → Option (α × TableNode)) : Prop :=
  ∀ t a t', t.Distinct → change t = some (a, t') → P a ∧ t'.Distinct

/-- A change at the end of a path does for the whole what it does there. -/
theorem keepsDistinct_descend (dotted : Bool) (h : KeepsDistinct P change) (path : List String) :
    KeepsDistinct P (descend dotted change path) := by
  induction path with
  | nil => exact h
  | cons key path ih =>
    intro t a t' ht hdescend
    rw [descend] at hdescend
    split at hdescend
    · obtain ⟨⟨b, below⟩, hbelow, hb⟩ := Option.bind_eq_some_iff.1 hdescend
      cases hb
      obtain ⟨ha, hdistinct⟩ := ih _ _ _ (distinct_of_items_nil rfl) hbelow
      exact ⟨ha, ht.put key (.table hdistinct)⟩
    · cases hdescend
    · rename_i below hfound
      split at hdescend
      · cases hdescend
      · obtain ⟨⟨b, below'⟩, hbelow, hb⟩ := Option.bind_eq_some_iff.1 hdescend
        cases hb
        cases ht.find? hfound with
        | table hold =>
          obtain ⟨ha, hdistinct⟩ := ih _ _ _ hold hbelow
          exact ⟨ha, ht.put key (.table hdistinct)⟩
    · rename_i ts hfound
      obtain ⟨last, hlast, hdescend⟩ := Option.bind_eq_some_iff.1 hdescend
      obtain ⟨⟨b, last'⟩, hbelow, hb⟩ := Option.bind_eq_some_iff.1 hdescend
      cases hb
      cases ht.find? hfound with
      | tables hold =>
        obtain ⟨ha, hdistinct⟩ := ih _ _ _ (hold last (List.mem_of_getLast? hlast)) hbelow
        refine ⟨ha, ht.put key (.tables fun element helement => ?_)⟩
        rcases List.mem_append.1 helement with helement | helement
        · exact hold element ((List.dropLast_sublist ts).subset helement)
        · rw [List.mem_singleton.1 helement]
          exact hdistinct

/-- Assigning a value, however deep, leaves a well-keyed table: it is put at each key on its way. -/
theorem Distinct.assign (h : t.Distinct) {key : Key} {v : Value} (hv : v.Distinct)
    {t' : TableNode} (assigned : t.assign key v = some t') : t'.Distinct := by
  obtain ⟨⟨a, t''⟩, hdescend, ha⟩ := Option.bind_eq_some_iff.1 assigned
  cases ha
  refine (keepsDistinct_descend (P := fun _ => True) true ?_ key.path t _ _ h hdescend).2
  intro below a below' hbelow hchange
  dsimp only at hchange
  split at hchange
  · cases hchange
  · cases hchange
    exact ⟨trivial, hbelow.put key.name (.value hv)⟩

end TableNode

mutual

/-- The value of a node keeps its keys apart. -/
theorem Node.Distinct.toValue : ∀ {node : Node}, node.Distinct → node.toValue.Distinct
  | .value v, h => by
    cases h with
    | value hv => exact hv
  | .table t, h => by
    cases h with
    | table ht => exact ht.toValue
  | .tables ts, h => by
    cases h with
    | tables hts => exact .array (TableNode.distinct_toValues hts)

/-- A well-keyed table under construction becomes a table without a key twice. -/
theorem TableNode.Distinct.toValue : ∀ {t : TableNode}, t.Distinct → t.toValue.Distinct
  | ⟨dotted, implicit, items⟩, h => by
    obtain ⟨hkeys, hnodes⟩ := h
    obtain ⟨hsame, hvalues⟩ := Node.distinct_toEntries hnodes
    exact .table (by rwa [hsame]) hvalues

theorem TableNode.distinct_toValues : ∀ {ts : List TableNode}, (∀ t ∈ ts, t.Distinct) →
    ∀ v ∈ TableNode.toValues ts, v.Distinct
  | [], _, v, hv => absurd hv List.not_mem_nil
  | t :: rest, h, v, hv => by
    obtain ⟨ht, hrest⟩ := List.forall_mem_cons.1 h
    rcases List.mem_cons.1 hv with rfl | hv
    · exact ht.toValue
    · exact TableNode.distinct_toValues hrest v hv

/-- The entries of a table keep their keys. -/
theorem Node.distinct_toEntries : ∀ {items : List (String × Node)}, (∀ e ∈ items, e.2.Distinct) →
    names (Node.toEntries items) = names items ∧ ∀ e ∈ Node.toEntries items, e.2.Distinct
  | [], _ => ⟨rfl, fun e he => absurd he List.not_mem_nil⟩
  | (key, node) :: rest, h => by
    obtain ⟨hnode, hrest⟩ := List.forall_mem_cons.1 h
    obtain ⟨hsame, hvalues⟩ := Node.distinct_toEntries hrest
    refine ⟨?_, fun e he => ?_⟩
    · exact congrArg (key :: ·) hsame
    · rcases List.mem_cons.1 he with rfl | he
      · exact hnode.toValue
      · exact hvalues e he

end

/-! ## Values that are read -/

/-- An inline table is built by assigning, so it has no key twice. -/
theorem distinct_inlineTable {pairs : List (Key × Value)} (h : ∀ p ∈ pairs, p.2.Distinct)
    {v : Value} (made : inlineTable pairs = some v) : v.Distinct := by
  have hfold : ∀ (t : TableNode), t.Distinct → ∀ t', pairs.foldlM
      (fun t (key, v) => TableNode.assign t key v) t = some t' → t'.Distinct := by
    clear made
    induction pairs with
    | nil =>
      rintro t ht t' ⟨⟩
      exact ht
    | cons p rest ih =>
      intro t ht t' hfold
      obtain ⟨hp, hrest⟩ := List.forall_mem_cons.1 h
      obtain ⟨t'', hassign, hfold⟩ := Option.bind_eq_some_iff.1 hfold
      exact ih hrest t'' (ht.assign hp hassign) t' hfold
  obtain ⟨t, ht, rfl⟩ := Option.map_eq_some_iff.1 made
  exact (hfold _ TableNode.distinct_blank t ht).toValue

theorem gives_signedInteger (negative : Bool) (n : Nat) :
    Gives Value.Distinct (signedInteger negative n) := gives_bind fun _ => gives_pure (.integer _)

theorem gives_basedInteger (mark : String) (base : Nat) :
    Gives Value.Distinct (basedInteger mark base) :=
  gives_bind fun _ => gives_bind fun _ => gives_signedInteger _ _

/-- Dates and numbers have no keys. -/
theorem gives_dateOrNumber : Gives Value.Distinct dateOrNumber := by
  have hdate : Gives Value.Distinct date := gives_bind fun _ => gives_pure .date
  have hdigits : Gives Value.Distinct digitFloat :=
    gives_bind fun _ => gives_bind fun _ => gives_bind fun _ => gives_bind fun _ =>
      gives_bind fun _ => gives_bind fun _ => gives_pure (.float _)
  have hspecial : Gives Value.Distinct specialFloat :=
    gives_bind fun _ => .orElse (gives_bind fun _ => gives_pure (.float _))
      (gives_bind fun _ => gives_pure (.float _))
  have hinteger : Gives Value.Distinct integer :=
    .orElse (gives_basedInteger _ _) (.orElse (gives_basedInteger _ _) (.orElse
      (gives_basedInteger _ _) (gives_bind fun _ => gives_bind fun _ => gives_signedInteger _ _)))
  exact .orElse hdate (.orElse hdigits (.orElse hspecial hinteger))

/-- By induction on the fuel, for values, the items of an array and the entries of a table between braces at once. -/
theorem gives_value (fuel : Nat) :
    (∀ depth, Gives Value.Distinct (value fuel depth)) ∧
    (∀ depth, Gives (fun items => ∀ v ∈ items, v.Distinct) (arrayItems fuel depth)) ∧
    ∀ depth, Gives (fun pairs => ∀ p ∈ pairs, p.2.Distinct) (inlinePairs fuel depth) := by
  induction fuel with
  | zero => exact ⟨fun _ => gives_fail, fun _ => gives_fail, fun _ => gives_fail⟩
  | succ fuel ih =>
    obtain ⟨hvalue, hitems, hpairs⟩ := ih
    refine ⟨fun depth => gives_bind fun c => ?_, fun depth => gives_bind fun _ =>
      gives_bind fun c => ?_, fun depth => ?_⟩
    · split
      · exact gives_bind fun _ => gives_pure (.string _)
      · exact gives_bind fun _ => gives_pure (.string _)
      · exact gives_bind fun _ => gives_bind fun _ =>
          (hitems (depth + 1)).bind fun items h => gives_pure (.array h)
      · refine gives_bind fun _ => gives_bind fun _ => gives_bind fun _ => gives_bind fun c => ?_
        split
        · exact gives_bind fun _ => gives_pure (.table List.nodup_nil nofun)
        · refine (hpairs (depth + 1)).bind fun pairs h => ?_
          split
          · rename_i made
            exact gives_pure (distinct_inlineTable h made)
          · exact gives_fail
      · exact gives_bind fun _ => gives_pure (.boolean true)
      · exact gives_bind fun _ => gives_pure (.boolean false)
      · exact gives_dateOrNumber
    · split
      · exact gives_bind fun _ => gives_pure nofun
      · refine (hvalue depth).bind fun item hitem => gives_bind fun _ => gives_bind fun c => ?_
        split
        · exact (hitems depth).bind fun items h =>
            gives_pure (List.forall_mem_cons.2 ⟨hitem, h⟩)
        · exact gives_pure (List.forall_mem_singleton.2 hitem)
        · exact gives_fail
    · refine gives_bind fun name => gives_bind fun _ => gives_bind fun _ =>
        (hvalue depth).bind fun v hv => gives_bind fun _ => gives_bind fun c => ?_
      split
      · exact (hpairs depth).bind fun pairs h => gives_pure (List.forall_mem_cons.2 ⟨hv, h⟩)
      · exact gives_pure (List.forall_mem_singleton.2 hv)
      · exact gives_fail

/-! ## Documents -/

/-- Whether the value that a line gives to a key has no key twice. -/
def Line.Distinct : Line → Prop
  | .assign _ v => v.Distinct
  | .table _ | .element _ => True

/-- Every line of a document assigns a value without a key twice, or opens a table. -/
theorem gives_lines (fuel : Nat) : Gives (fun ls => ∀ l ∈ ls, l.Distinct) (lines fuel) := by
  have hheader : Gives Line.Distinct header := by
    refine gives_bind fun _ => gives_bind fun _ => ?_
    split
    · exact gives_bind fun _ => gives_bind fun _ => gives_bind fun _ => gives_pure trivial
    · exact gives_bind fun _ => gives_bind fun _ => gives_pure trivial
  have hassignment : Gives Line.Distinct assignment :=
    gives_bind fun _ => gives_bind fun _ => gives_bind fun _ =>
      (gives_bounded fun fuel => (gives_value fuel).1 0).bind fun v hv => gives_pure hv
  induction fuel with
  | zero => exact gives_fail
  | succ fuel ih =>
    refine gives_bind fun _ => gives_bind fun ended => ?_
    split
    · exact gives_pure nofun
    · have hrest : ∀ l : Line, l.Distinct → Gives (fun ls => ∀ l ∈ ls, l.Distinct) do
          lineEnd
          return l :: (← lines fuel) :=
        fun l hl => gives_bind fun _ => ih.bind fun ls hls =>
          gives_pure (List.forall_mem_cons.2 ⟨hl, hls⟩)
      refine gives_bind fun c => ?_
      dsimp only
      split
      · exact hheader.bind hrest
      · exact hassignment.bind hrest

namespace Draft

/-- Whether no table of a document that is being read has a key twice. -/
structure Distinct (d : Draft) : Prop where
  root : d.root.Distinct
  current : d.current.Distinct

variable {d d' : Draft}

open TableNode (keepsDistinct_descend)

/-- Closing the open table puts it into the root. -/
theorem Distinct.close (h : d.Distinct) {root : TableNode} (closed : d.close = some root) :
    root.Distinct := by
  unfold Draft.close at closed
  split at closed
  · cases closed
    exact h.current
  · rename_i key _
    obtain ⟨⟨a, root'⟩, hdescend, ha⟩ := Option.bind_eq_some_iff.1 closed
    cases ha
    refine (keepsDistinct_descend (P := fun _ => True) false ?_ key.path _ _ _ h.root hdescend).2
    intro parent a parent' hparent hchange
    refine ⟨trivial, ?_⟩
    dsimp only at hchange
    split at hchange
    · cases hchange
      refine hparent.put key.name ?_
      split
      · exact .tables (List.forall_mem_singleton.2 h.current)
      · exact .table h.current
    · rename_i ts hfound
      split at hchange
      · cases hchange
        cases hparent.find? hfound with
        | tables hts =>
          refine hparent.put key.name (.tables fun t ht => ?_)
          rcases List.mem_append.1 ht with ht | ht
          · exact hts t ht
          · rw [List.mem_singleton.1 ht]
            exact h.current
      · cases hchange
    · split at hchange
      · cases hchange
        exact hparent.put key.name (.table h.current)
      · cases hchange
    · cases hchange

/-- A draft stays well-keyed when a value is assigned in its open table. -/
theorem Distinct.assign (h : d.Distinct) {key : Key} {v : Value} (hv : v.Distinct)
    (assigned : d.assign key v = some d') : d'.Distinct := by
  obtain ⟨current, hcurrent, hd'⟩ := Option.bind_eq_some_iff.1 assigned
  cases hd'
  exact ⟨h.root, h.current.assign hv hcurrent⟩

/-- It stays so when another table is opened. -/
theorem Distinct.openTable (h : d.Distinct) {key : Key} (opened : d.openTable key = some d') :
    d'.Distinct := by
  obtain ⟨root, hclose, opened⟩ := Option.bind_eq_some_iff.1 opened
  obtain ⟨⟨current, root'⟩, hdescend, hd'⟩ := Option.bind_eq_some_iff.1 opened
  cases hd'
  have hkeeps := keepsDistinct_descend (P := TableNode.Distinct) false ?_ key.path _ _ _
    (h.close hclose) hdescend
  · exact ⟨hkeeps.2, hkeeps.1⟩
  · intro parent a parent' hparent hchange
    dsimp only at hchange
    split at hchange
    · cases hchange
      exact ⟨TableNode.distinct_blank, hparent⟩
    · rename_i t hfound
      split at hchange
      · cases hchange
        cases hparent.find? hfound with
        | table ht => exact ⟨ht.of_items_eq rfl, hparent.erase key.name⟩
      · cases hchange
    · cases hchange

/-- It stays so when an element of an array of tables is opened. -/
theorem Distinct.openElement (h : d.Distinct) {key : Key}
    (opened : d.openElement key = some d') : d'.Distinct := by
  obtain ⟨root, hclose, opened⟩ := Option.bind_eq_some_iff.1 opened
  obtain ⟨⟨a, root'⟩, hdescend, hd'⟩ := Option.bind_eq_some_iff.1 opened
  cases hd'
  refine ⟨(keepsDistinct_descend (P := fun _ => True) false ?_ key.path _ _ _
    (h.close hclose) hdescend).2, TableNode.distinct_blank⟩
  intro parent a parent' hparent hchange
  refine ⟨trivial, ?_⟩
  dsimp only at hchange
  split at hchange
  · cases hchange
    exact hparent.put key.name (.tables nofun)
  · cases hchange
    exact hparent
  · cases hchange

/-- So every line leaves a draft well-keyed. -/
theorem Distinct.add (h : d.Distinct) {l : Line} (hl : l.Distinct) (added : d.add l = some d') :
    d'.Distinct := by
  cases l with
  | assign key v => exact h.assign hl added
  | table key => exact h.openTable added
  | element key => exact h.openElement added

/-- So do all lines of a document. -/
theorem Distinct.addLines (h : d.Distinct) {ls : List Line} (hls : ∀ l ∈ ls, l.Distinct)
    (added : ls.foldlM Draft.add d = some d') : d'.Distinct := by
  induction ls generalizing d with
  | nil =>
    cases added
    exact h
  | cons l rest ih =>
    obtain ⟨hl, hrest⟩ := List.forall_mem_cons.1 hls
    obtain ⟨d'', hadd, added⟩ := Option.bind_eq_some_iff.1 added
    exact ih (h.add hl hadd) hrest added

end Draft

/-- No table of a document has a key twice, neither the root nor a table at any depth in it. -/
theorem distinct_of_parse? {text : String} {root : List (String × Value)}
    (parsed : parse? text = some root) : (Value.table root).Distinct := by
  obtain ⟨⟨ls, rest⟩, hread, parsed⟩ := Option.bind_eq_some_iff.1 parsed
  obtain ⟨d, hadded, parsed⟩ := Option.bind_eq_some_iff.1 parsed
  obtain ⟨t, hclose, hroot⟩ := Option.bind_eq_some_iff.1 parsed
  cases hroot
  have hlines : Gives (fun ls => ∀ l ∈ ls, l.Distinct) document :=
    gives_bind fun _ => gives_bounded gives_lines
  have hd : d.Distinct := Draft.Distinct.addLines
    ⟨TableNode.distinct_blank, TableNode.distinct_blank⟩ (hlines _ ls rest hread) hadded
  obtain ⟨dotted, implicit, items⟩ := t
  exact (hd.close hclose).toValue

end Toml

end BatchStringify
