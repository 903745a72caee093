import BatchStringify.Toml.Text
import BatchStringify.Toml.Value

/-!
# Building tables

Tables come into being in three ways: by their own header, as a step on the way to a deeper header,
or as a step of a dotted key; and each may be added to only in its own way. Keys stay in the order
in which they came, except that a table which first was a step and then gets its own header moves
to the place of that header.
-/

namespace BatchStringify.Toml

mutual

/-- What stands at a key while a document is read. -/
inductive Node where
  | value (v : Value)
  | table (t : TableNode)
  /-- An array of tables with its elements in order. -/
  | tables (ts : List TableNode)

/-- A table while a document is read. -/
structure TableNode where
  /-- Whether it came into being as a step of a dotted key. -/
  dotted : Bool
  /-- Whether it has no header of its own. -/
  implicit : Bool
  items : List (String × Node)

end

namespace TableNode

/-- A table with a header and no keys. -/
def blank : TableNode := ⟨false, false, []⟩

/-- The node at a key. -/
def find? (t : TableNode) (key : String) : Option Node := t.items.lookup key

/-- Puts a node at a key: in place if the key is known, else at the end. -/
def put (t : TableNode) (key : String) (node : Node) : TableNode :=
  if t.items.any (·.1 == key) then
    { t with items := t.items.map fun (k, n) => if k == key then (key, node) else (k, n) }
  else { t with items := t.items ++ [(key, node)] }

/-- Takes a key out. -/
def erase (t : TableNode) (key : String) : TableNode :=
  { t with items := t.items.filter (·.1 != key) }

/-- Changes the table at the end of a path, adding the tables that are missing on the way. A path
leads on from the last element of an array of tables. A dotted path does not lead through a table
with a header, and no path leads through a value. -/
def descend {α : Type} (dotted : Bool) (change : TableNode → Option (α × TableNode)) :
    List String → TableNode → Option (α × TableNode)
  | [], t => change t
  | key :: path, t => do
    match t.find? key with
    | none =>
      let (a, below) ← descend dotted change path ⟨dotted, true, []⟩
      return (a, t.put key (.table below))
    | some (.value _) => none
    | some (.table below) =>
      if dotted && !below.implicit then none
      else
        let (a, below) ← descend dotted change path below
        return (a, t.put key (.table below))
    | some (.tables ts) =>
      let last ← ts.getLast?
      let (a, last) ← descend dotted change path last
      return (a, t.put key (.tables (ts.dropLast ++ [last])))

/-- Gives a value to a dotted key. The key must be new, and the table that holds it must not be
used both by dotted keys and in another way. -/
def assign (t : TableNode) (key : Key) (v : Value) : Option TableNode := do
  let ((), t) ← descend true (fun below =>
    if below.dotted = key.path.isEmpty || (below.find? key.name).isSome then none
    else some ((), below.put key.name (.value v))) key.path t
  return t

end TableNode

mutual

/-- The value of a node. -/
def Node.toValue : Node → Value
  | .value v => v
  | .table t => t.toValue
  | .tables ts => .array (TableNode.toValues ts)

/-- The value of a table. -/
def TableNode.toValue : TableNode → Value
  | ⟨_, _, items⟩ => .table (Node.toEntries items)

/-- The values of several tables. -/
def TableNode.toValues : List TableNode → List Value
  | [] => []
  | t :: rest => t.toValue :: TableNode.toValues rest

/-- The entries of a table. -/
def Node.toEntries : List (String × Node) → List (String × Value)
  | [] => []
  | (key, node) :: rest => (key, node.toValue) :: Node.toEntries rest

end

/-- The table between braces that is made of these keys and values. -/
def inlineTable (pairs : List (Key × Value)) : Option Value :=
  (pairs.foldlM (fun t (key, v) => TableNode.assign t key v) TableNode.blank).map TableNode.toValue

/-- A document while it is read: the tables that are finished, and the one that is being filled. -/
structure Draft where
  root : TableNode := .blank
  current : TableNode := .blank
  /-- Where the current table goes; `none` for the root itself. -/
  key : Option Key := none
  /-- Whether the current table is an element of an array of tables. -/
  isElement : Bool := false

namespace Draft

/-- Puts the current table into its place. -/
def close (d : Draft) : Option TableNode :=
  match d.key with
  | none => some d.current
  | some key => do
    let ((), root) ← TableNode.descend false (fun parent =>
      match parent.find? key.name with
      | none =>
        some ((), parent.put key.name (if d.isElement then .tables [d.current] else
          .table d.current))
      | some (.tables ts) =>
        if d.isElement then some ((), parent.put key.name (.tables (ts ++ [d.current]))) else none
      | some (.table t) =>
        if !d.isElement && t.implicit then some ((), parent.put key.name (.table d.current))
        else none
      | some (.value _) => none) key.path d.root
    return root

/-- Gives a value to a key of the current table. -/
def assign (d : Draft) (key : Key) (v : Value) : Option Draft := do
  return { d with current := (← d.current.assign key v) }

/-- Goes on to the table of a header. It must be new, or a step on the way to earlier headers, and
then it is taken out until it is closed. -/
def openTable (d : Draft) (key : Key) : Option Draft := do
  let root ← d.close
  let (current, root) ← TableNode.descend false (fun parent =>
    match parent.find? key.name with
    | none => some (TableNode.blank, parent)
    | some (.table t) =>
      if t.implicit && !t.dotted then some ({ t with implicit := false }, parent.erase key.name)
      else none
    | _ => none) key.path root
  return { root := root, current := current, key := some key, isElement := false }

/-- Goes on to the next element of an array of tables. -/
def openElement (d : Draft) (key : Key) : Option Draft := do
  let root ← d.close
  let ((), root) ← TableNode.descend false (fun parent =>
    match parent.find? key.name with
    | none => some ((), parent.put key.name (.tables []))
    | some (.tables _) => some ((), parent)
    | _ => none) key.path root
  return { root := root, current := .blank, key := some key, isElement := true }

end Draft

end BatchStringify.Toml
