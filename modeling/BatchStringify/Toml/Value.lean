/-!
# TOML values

What a TOML document says: a table, in document order, of strings, numbers, truth values, dates,
arrays and tables. Dates and times keep no content, since nothing here asks for it.
-/

namespace BatchStringify.Toml

/-- A value of a TOML document. -/
inductive Value where
  | string (text : String)
  | integer (n : Int)
  /-- A floating-point number of 64 bits, as its bits. -/
  | float (bits : Nat)
  | boolean (b : Bool)
  /-- A date, a time or both. -/
  | date
  | array (items : List Value)
  | table (entries : List (String × Value))
  deriving Inhabited

namespace Value

mutual

/-- Whether two values are the same. -/
def same : Value → Value → Bool
  | .string text, .string text' => text = text'
  | .integer n, .integer n' => n = n'
  | .float bits, .float bits' => bits = bits'
  | .boolean b, .boolean b' => b = b'
  | .date, .date => true
  | .array items, .array items' => sameItems items items'
  | .table entries, .table entries' => sameEntries entries entries'
  | _, _ => false

/-- Whether two lists of values are the same. -/
def sameItems : List Value → List Value → Bool
  | [], [] => true
  | v :: items, v' :: items' => v.same v' && sameItems items items'
  | _, _ => false

/-- Whether two lists of entries are the same. -/
def sameEntries : List (String × Value) → List (String × Value) → Bool
  | [], [] => true
  | (key, v) :: entries, (key', v') :: entries' =>
    key = key' && v.same v' && sameEntries entries entries'
  | _, _ => false

end

mutual

theorem same_iff (v v' : Value) : v.same v' ↔ v = v' := by
  cases v <;> cases v' <;> simp [same, sameItems_iff, sameEntries_iff]

theorem sameItems_iff (items items' : List Value) : sameItems items items' ↔ items = items' := by
  cases items <;> cases items' <;> simp [sameItems, same_iff, sameItems_iff]

theorem sameEntries_iff (entries entries' : List (String × Value)) :
    sameEntries entries entries' ↔ entries = entries' := by
  rcases entries with _ | ⟨⟨key, v⟩, entries⟩ <;> rcases entries' with _ | ⟨⟨key', v'⟩, entries'⟩ <;>
    simp [sameEntries, same_iff, sameEntries_iff]

end

instance : DecidableEq Value := fun v v' => decidable_of_iff (v.same v') (same_iff v v')

end Value

end BatchStringify.Toml
