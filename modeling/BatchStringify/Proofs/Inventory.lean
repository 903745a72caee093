import Mathlib.Data.List.Range
import BatchStringify.Proofs.Refusals

/-!
# What a debuggee creates

A debuggee gives one sequence of numbers to all that it creates: classes, methods, arrays, strings, and strings that
are collected at once. What it holds at any time can be read off its history: which things were created, under which
numbers, and which values were stored in which arrays (`Debuggee.inventory_explained`). So a number is given
out once, there is one thing under a number, and things stay what they are; only arrays change, where values are
stored in them, and a method that is defined anew gets a new number.
-/

namespace BatchStringify

/-! ## Histories -/

/-- What can be done to a debuggee. -/
inductive Debuggee.Act where
  | defineClass (name : String)
  | defineMethod (owner name signature : String)
  | setDisplay (id : ObjectId) (outcome : Except RemoteError String)
  | setFailure (operation : Operation) (error : RemoteError)
  | setHandler (handler : Handler)
  | call (call : Call)

/-- Something that is created under a number of its own. -/
inductive Item where
  | loadedClass (name : String)
  | method (key : MethodKey)
  /-- An array of that length. -/
  | array (length : Nat)
  | string (content : String)
  /-- A string that was collected before anyone could read it. -/
  | lostString
  deriving DecidableEq, Repr

/-- Something that was done with the things that have numbers. -/
inductive Deed where
  | created (id : Nat) (item : Item)
  | stored (array : ObjectId) (values : List Value)
  deriving DecidableEq, Repr

namespace Deed

/-- The number that was given out and the thing that has it, if something was created. -/
def created? : Deed → Option (Nat × Item)
  | .created id item => some (id, item)
  | .stored _ _ => none

/-- The values that were stored in a given array, if values were stored in it. -/
def storedIn? (array : ObjectId) : Deed → Option (List Value)
  | .created _ _ => none
  | .stored id values => if id = array then some values else none

/-- The things that were created in a history, with their numbers, in order. -/
def creations (deeds : List Deed) : List (Nat × Item) := deeds.filterMap created?

/-- The values that were stored in an array in a history, store by store. -/
def stores (deeds : List Deed) (array : ObjectId) : List (List Value) :=
  deeds.filterMap (storedIn? array)

variable (deeds : List Deed)

theorem creations_created (id : Nat) (item : Item) :
    creations (deeds ++ [.created id item]) = creations deeds ++ [(id, item)] := by
  simp [creations, created?]

theorem creations_stored (array : ObjectId) (values : List Value) :
    creations (deeds ++ [.stored array values]) = creations deeds := by
  simp [creations, created?]

theorem stores_created (id : Nat) (item : Item) (array : ObjectId) :
    stores (deeds ++ [.created id item]) array = stores deeds array := by
  simp [stores, storedIn?]

theorem stores_stored_self (array : ObjectId) (values : List Value) :
    stores (deeds ++ [.stored array values]) array = stores deeds array ++ [values] := by
  simp [stores, storedIn?]

theorem stores_stored_of_ne {id array : ObjectId} (h : id ≠ array) (values : List Value) :
    stores (deeds ++ [.stored id values]) array = stores deeds array := by
  simp [stores, storedIn?, h]

end Deed

/-- An array of nulls after stores that begin at its first slot: each slot holds the value that was last stored in
it. -/
def filled (length : Nat) (stores : List (List Value)) : List Value :=
  (List.range length).map fun i => (stores.filterMap (·[i]?)).getLast?.getD .null

theorem length_filled (length : Nat) (stores : List (List Value)) :
    (filled length stores).length = length := by
  simp [filled]

/-- Before the first store an array holds nulls. -/
theorem filled_nil (length : Nat) : filled length [] = List.replicate length .null := by
  simp [filled]

/-- A further store replaces the slots in front and leaves the others. -/
theorem filled_snoc {length : Nat} {values : List Value} (fits : values.length ≤ length)
    (stores : List (List Value)) : filled length (stores ++ [values]) =
      values ++ (filled length stores).drop values.length := by
  refine List.ext_getElem (by simp [length_filled, fits]) fun i h h' => ?_
  by_cases hi : i < values.length
  · rw [List.getElem_append_left hi]
    simp [filled, hi]
  · rw [List.getElem_append_right (Nat.le_of_not_lt hi)]
    have hnone : values[i]? = none := List.getElem?_eq_none (Nat.le_of_not_lt hi)
    simp [filled, hnone, Nat.add_sub_cancel' (Nat.le_of_not_lt hi)]

namespace Debuggee

variable (d : Debuggee)

/-- The debuggee after an act, whatever came of it. -/
def after : Act → Debuggee
  | .defineClass name => (d.defineClass name).2
  | .defineMethod owner name signature => (d.defineMethod owner name signature).2
  | .setDisplay id outcome => d.setDisplay id outcome
  | .setFailure operation error => d.setFailure operation error
  | .setHandler handler => d.setHandler handler
  | .call call => d.afterCall call

/-- The debuggee after several acts. -/
def run (acts : List Act) : Debuggee := acts.foldl after d

/-- The handler's reply to a static call with these arguments, if it comes to that. -/
def replyTo? (args : List Value) : Option HandlerReply :=
  match d.failures.find? .invokeStatic with
  | some _ => none
  | none => ((arrayArgument? args).bind d.arrays.find?).bind d.reply?

/-- The class that is loaded to define one of that name, with the number that the caller gets. -/
def loads (name : String) : List Deed :=
  if (d.classes.find? name).isSome then []
  else [.created (d.defineClass name).1 (.loadedClass name)]

/-- What a call does with the things that have numbers, as its caller is told. The value that a static call returns is
a new string only if the handler made one. -/
def callDeeds (call : Call) : List Deed :=
  match call, d.outcome call with
  | .newArray _ length, .id id => [.created id (.array length)]
  | .setArrayValues array values, .done => [.stored array values]
  | .invokeStatic _ _ _ args, .value (.object _ id) =>
    match d.replyTo? args with
    | some (.text content) => [.created id (.string content)]
    | some .collected => [.created id .lostString]
    | _ => []
  | _, _ => []

/-- What an act does with the things that have numbers. -/
def deeds : Act → List Deed
  | .defineClass name => d.loads name
  | .defineMethod owner name signature =>
    d.loads owner ++ [.created (d.defineMethod owner name signature).1
      (.method ⟨(d.defineClass owner).1, name, signature⟩)]
  | .call call => d.callDeeds call
  | .setDisplay _ _ | .setFailure _ _ | .setHandler _ => []

/-- What several acts do with the things that have numbers. -/
def history (d : Debuggee) : List Act → List Deed
  | [] => []
  | act :: rest => d.deeds act ++ (d.after act).history rest

end Debuggee

/-! ## Inventories -/

/-- What a debuggee holds under numbers, and the last number given out. -/
structure Inventory where
  classes : Table String ClassId
  methods : Table MethodKey MethodId
  strings : Table ObjectId String
  arrays : Table ObjectId (List Value)
  collected : List ObjectId
  lastId : Nat

/-- The inventory of a debuggee. -/
def Debuggee.inventory (d : Debuggee) : Inventory :=
  ⟨d.classes, d.methods, d.strings, d.arrays, d.collected, d.lastId⟩

namespace Inventory

/-- Whether a thing is there under a number. -/
def Has (v : Inventory) (id : Nat) : Item → Prop
  | .loadedClass name => v.classes.find? name = some id
  | .method key => v.methods.find? key = some id
  | .array length => ∃ slots, v.arrays.find? id = some slots ∧ slots.length = length
  | .string content => v.strings.find? id = some content
  | .lostString => id ∈ v.collected

/-- The inventory with values stored in the first slots of an array. -/
def store (v : Inventory) (array : ObjectId) (values slots : List Value) : Inventory :=
  { v with arrays := v.arrays.put array (values ++ slots.drop values.length) }

/-- What one deed makes of an inventory. Things that are created get the next number. -/
inductive Step : Inventory → Deed → Inventory → Prop
  | loadClass (v : Inventory) (name : String) (unknown : v.classes.find? name = none) :
      Step v (.created (v.lastId + 1) (.loadedClass name))
        { v with classes := v.classes.put name (v.lastId + 1), lastId := v.lastId + 1 }
  | addMethod (v : Inventory) (key : MethodKey) :
      Step v (.created (v.lastId + 1) (.method key))
        { v with methods := v.methods.put key (v.lastId + 1), lastId := v.lastId + 1 }
  | addArray (v : Inventory) (length : Nat) :
      Step v (.created (v.lastId + 1) (.array length))
        { v with
          arrays := v.arrays.put (v.lastId + 1) (List.replicate length .null)
          lastId := v.lastId + 1 }
  | addString (v : Inventory) (content : String) :
      Step v (.created (v.lastId + 1) (.string content))
        { v with strings := v.strings.put (v.lastId + 1) content, lastId := v.lastId + 1 }
  | loseString (v : Inventory) :
      Step v (.created (v.lastId + 1) .lostString)
        { v with collected := v.collected ++ [v.lastId + 1], lastId := v.lastId + 1 }
  | store (v : Inventory) {array : ObjectId} {values slots : List Value}
      (found : v.arrays.find? array = some slots) (fits : values.length ≤ slots.length) :
      Step v (.stored array values) (v.store array values slots)

/-- What several deeds make of an inventory. -/
inductive Steps : Inventory → List Deed → Inventory → Prop
  | refl (v : Inventory) : Steps v [] v
  | cons {v v' v'' : Inventory} {deed : Deed} {rest : List Deed} (step : Step v deed v')
      (steps : Steps v' rest v'') : Steps v (deed :: rest) v''

/-- A step is a path of steps. -/
theorem Steps.single {v v' : Inventory} {deed : Deed} (step : Step v deed v') :
    Steps v [deed] v' := .cons step (.refl v')

/-- Paths of steps can be put together. -/
theorem Steps.append {v v' v'' : Inventory} {deeds more : List Deed} (h : Steps v deeds v')
    (h' : Steps v' more v'') : Steps v (deeds ++ more) v'' := by
  induction h with
  | refl v => exact h'
  | cons step _ ih => exact .cons step (ih h')

end Inventory

/-! ## Acts -/

namespace Debuggee

open Inventory (Steps)

variable {d d' : Debuggee}

/-- The inventory is a part of the state. -/
theorem SameState.inventory_eq (h : d.SameState d') : d'.inventory = d.inventory := by
  unfold inventory
  rw [h.classes, h.methods, h.strings, h.arrays, h.collected, h.lastId]

/-- A debuggee that holds the same has come there without a deed. -/
theorem steps_of_eq (h : d'.inventory = d.inventory) : Steps d.inventory [] d'.inventory := by
  rw [h]
  exact .refl _

/-- Defining a class gives out one id, unless the class is there already. -/
theorem steps_loads (d : Debuggee) (name : String) :
    Steps d.inventory (d.loads name) (d.defineClass name).2.inventory := by
  unfold loads defineClass
  cases hfound : d.classes.find? name with
  | some id => exact .refl _
  | none => exact .single (.loadClass d.inventory name hfound)

/-- A new array gives out one id if the call succeeds, and none if it fails. -/
theorem steps_newArray (d : Debuggee) (elements : ClassHandle) (length : Nat) :
    Steps d.inventory (d.callDeeds (.newArray elements length))
      (d.newArray elements length).2.inventory := by
  unfold callDeeds outcome
  dsimp only
  rcases hr : d.newArray elements length with ⟨error | id, d'⟩
  · exact steps_of_eq (newArray_error hr).2.inventory_eq
  · unfold newArray at hr
    dsimp only at hr
    split at hr
    · cases hr
    · cases hr
      exact .single (.addArray d.inventory length)

/-- Values are stored if the call succeeds, and nothing happens if it fails. -/
theorem steps_setArrayValues (d : Debuggee) (array : ObjectId) (values : List Value) :
    Steps d.inventory (d.callDeeds (.setArrayValues array values))
      (d.setArrayValues array values).2.inventory := by
  unfold callDeeds outcome
  dsimp only
  rcases hr : d.setArrayValues array values with ⟨error | _, d'⟩
  · exact steps_of_eq (setArrayValues_error hr).2.inventory_eq
  · unfold setArrayValues at hr
    dsimp only [noted] at hr
    split at hr
    · cases hr
    · split at hr
      · cases hr
      · rename_i slots hfound
        split at hr
        · cases hr
        · rename_i hfits
          split at hr
          · cases hr
          · cases hr
            exact .single (.store d.inventory hfound (Nat.not_lt.1 hfits))

/-- A static call fails, or the handler's reply is settled by a debuggee with the same inventory. -/
theorem invokeStatic_cases (d : Debuggee) (thread : ThreadId) (owner : ClassHandle)
    (method : MethodId) (args : List Value) :
    (∀ v, (d.invokeStatic thread owner method args).1 ≠ .ok (.ok v)) ∨
    ∃ (reply : HandlerReply) (asked : Debuggee), d.replyTo? args = some reply ∧
      asked.inventory = d.inventory ∧
      d.invokeStatic thread owner method args = asked.settle reply := by
  unfold replyTo? invokeStatic
  dsimp only [noted]
  cases hset : d.failures.find? .invokeStatic with
  | some error => exact .inl (by simp)
  | none =>
    cases harg : arrayArgument? args with
    | none => exact .inl (by simp)
    | some array =>
      dsimp only
      rw [Option.bind_some]
      cases hfound : d.arrays.find? array with
      | none => exact .inl (by simp)
      | some elements =>
        cases hhandler : d.handler with
        | none => exact .inl (by simp)
        | some handler =>
          refine .inr ⟨handler d.invocations elements, _, ?_, ?_, rfl⟩
          · rw [Option.bind_some, reply?, hhandler]
            rfl
          · rfl

/-- A reply that is a string gives out one id. -/
theorem steps_invokeStatic (d : Debuggee) (thread : ThreadId) (owner : ClassHandle)
    (method : MethodId) (args : List Value) :
    Steps d.inventory (d.callDeeds (.invokeStatic thread owner method args))
      (d.invokeStatic thread owner method args).2.inventory := by
  unfold callDeeds outcome
  dsimp only
  rcases d.invokeStatic_cases thread owner method args with
    hfailed | ⟨reply, asked, hreply, hsame, hcall⟩
  · have hinventory := (invokeStatic_failed rfl hfailed).2.inventory_eq
    rcases hr : (d.invokeStatic thread owner method args).1 with payload | error | v
    · exact steps_of_eq hinventory
    · exact steps_of_eq hinventory
    · exact absurd hr (hfailed v)
  · rw [hcall, ← hsame]
    cases reply with
    | text content =>
      dsimp only [settle, Outcome.ofPanicking, Outcome.of]
      rw [hreply]
      exact .single (.addString asked.inventory content)
    | collected =>
      dsimp only [settle, Outcome.ofPanicking, Outcome.of]
      rw [hreply]
      exact .single (.loseString asked.inventory)
    | value v =>
      cases v with
      | object tag id =>
        dsimp only [settle, Outcome.ofPanicking, Outcome.of]
        rw [hreply]
        exact .refl _
      | _ => exact .refl _
    | fault error => exact .refl _
    | panic payload => exact .refl _

/-- Calls that only look something up, pin an object or let it go leave the inventory as it is. -/
theorem steps_call (d : Debuggee) (call : Call) :
    Steps d.inventory (d.callDeeds call) (d.afterCall call).inventory := by
  cases call with
  | newArray elements length => exact d.steps_newArray elements length
  | setArrayValues array values => exact d.steps_setArrayValues array values
  | invokeStatic thread owner method args => exact d.steps_invokeStatic thread owner method args
  | disableCollection id =>
    refine steps_of_eq ?_
    unfold afterCall disableCollection
    dsimp only
    split
    · rfl
    · split <;> rfl
  | enableCollection id => exact .refl _
  | _ =>
    refine steps_of_eq ?_
    rw [d.afterCall_of_isReading rfl]
    rfl

/-- Whatever is done to a debuggee, its inventory changes by what the caller is told and by nothing else. -/
theorem steps_after (d : Debuggee) (act : Act) :
    Steps d.inventory (d.deeds act) (d.after act).inventory := by
  cases act with
  | defineClass name => exact d.steps_loads name
  | defineMethod owner name signature =>
    exact (d.steps_loads owner).append (.single (.addMethod (d.defineClass owner).2.inventory
      ⟨(d.defineClass owner).1, name, signature⟩))
  | call call => exact d.steps_call call
  | _ => exact .refl _

/-- Every run of acts is a path through the steps of its history. -/
theorem steps_run (d : Debuggee) (acts : List Act) :
    Steps d.inventory (d.history acts) (d.run acts).inventory := by
  induction acts generalizing d with
  | nil => exact .refl _
  | cons act rest ih => exact (d.steps_after act).append (ih (d.after act))

end Debuggee

/-! ## What the history explains -/

namespace Inventory

open Deed (creations stores)

/-- Whether an inventory is what a history made of an empty one: the numbers were given out one after the other, the
things that are there are those that were created, though a method may have got a new number, and an array holds what
was stored in it. -/
structure Explained (v : Inventory) (deeds : List Deed) : Prop where
  numbers : (creations deeds).map (·.1) = List.range' 10001 (creations deeds).length
  lastId_eq : v.lastId = 10000 + (creations deeds).length
  created : ∀ id item, v.Has id item → (id, item) ∈ creations deeds
  kept : ∀ p ∈ creations deeds, (∀ key, p.2 ≠ .method key) → v.Has p.1 p.2
  slots_eq : ∀ id slots, v.arrays.find? id = some slots →
    slots = filled slots.length (stores deeds id) ∧
      ∀ values ∈ stores deeds id, values.length ≤ slots.length
  /-- Nothing was stored under a number that was not given out. -/
  unused : ∀ id, v.lastId < id → stores deeds id = []

variable {v v' : Inventory} {deeds : List Deed}

/-- All ids lie above 10000, up to the last one given out. -/
theorem Explained.bounds (h : v.Explained deeds) {p : Nat × Item} (hp : p ∈ creations deeds) :
    10000 < p.1 ∧ p.1 ≤ v.lastId := by
  have hmem : p.1 ∈ (creations deeds).map (·.1) := List.mem_map_of_mem hp
  rw [h.numbers, List.mem_range'_1] at hmem
  rw [h.lastId_eq]
  omega

/-- Ids are given out in increasing order. -/
theorem Explained.pairwise (h : v.Explained deeds) :
    ((creations deeds).map (·.1)).Pairwise (· < ·) := by
  rw [h.numbers]
  exact List.pairwise_lt_range'

/-- There is one thing under a number. -/
theorem Explained.item_eq (h : v.Explained deeds) {id : Nat} {item item' : Item}
    (hitem : v.Has id item) (hitem' : v.Has id item') : item = item' := by
  have hnodup : ((creations deeds).map (·.1)).Nodup := by
    rw [h.numbers]
    exact List.nodup_range'
  exact congrArg Prod.snd (List.inj_on_of_nodup_map hnodup (h.created id item hitem)
    (h.created id item' hitem') rfl)

/-- A thing that is created under the next number, and that leaves the others in place, is explained by its creation. -/
theorem Explained.create (h : v.Explained deeds) {item : Item}
    (lastId_eq : v'.lastId = v.lastId + 1) (self : v'.Has (v.lastId + 1) item)
    (new : ∀ id other, v'.Has id other → v.Has id other ∨ id = v.lastId + 1 ∧ other = item)
    (old : ∀ id other, id ≤ v.lastId → (∀ key, other ≠ .method key) → v.Has id other →
      v'.Has id other)
    (arrays : ∀ id slots, v'.arrays.find? id = some slots → v.arrays.find? id = some slots ∨
      id = v.lastId + 1 ∧ slots = List.replicate slots.length .null) :
    v'.Explained (deeds ++ [.created (v.lastId + 1) item]) where
  numbers := by
    have hnext : v.lastId + 1 = 10001 + (creations deeds).length := by
      rw [h.lastId_eq]
      omega
    rw [Deed.creations_created, List.map_append, h.numbers, List.length_append,
      List.length_singleton, List.range'_1_concat, hnext]
    rfl
  lastId_eq := by
    rw [Deed.creations_created, List.length_append, lastId_eq, h.lastId_eq]
    rfl
  created := by
    intro id other hother
    rw [Deed.creations_created]
    rcases new id other hother with hold | ⟨rfl, rfl⟩
    · exact List.mem_append_left _ (h.created id other hold)
    · exact List.mem_append_right _ List.mem_cons_self
  kept := by
    intro p hp other
    rw [Deed.creations_created] at hp
    rcases List.mem_append.1 hp with hp | hp
    · exact old p.1 p.2 (h.bounds hp).2 other (h.kept p hp other)
    · obtain rfl := List.mem_singleton.1 hp
      exact self
  slots_eq := by
    intro id slots hslots
    rw [Deed.stores_created]
    rcases arrays id slots hslots with hold | ⟨rfl, hnulls⟩
    · exact h.slots_eq id slots hold
    · rw [h.unused _ (Nat.lt_succ_self _), filled_nil]
      exact ⟨hnulls, by simp⟩
  unused := by
    intro id hid
    rw [Deed.stores_created]
    exact h.unused id (by omega)

variable {array : ObjectId} {values slots : List Value}

/-- Storing values changes no array's length, so the same things are there. -/
theorem has_store_iff (found : v.arrays.find? array = some slots)
    (fits : values.length ≤ slots.length) (id : Nat) (item : Item) :
    (v.store array values slots).Has id item ↔ v.Has id item := by
  have hlength : (values ++ slots.drop values.length).length = slots.length := by simp [fits]
  cases item with
  | array length =>
    constructor
    · rintro ⟨slots', hslots, rfl⟩
      rcases Table.find?_put_eq_some_iff.1 hslots with ⟨rfl, rfl⟩ | ⟨-, hold⟩
      · exact ⟨slots, found, hlength.symm⟩
      · exact ⟨slots', hold, rfl⟩
    · rintro ⟨slots', hslots, rfl⟩
      by_cases hid : id = array
      · subst hid
        obtain rfl := Option.some.inj (found.symm.trans hslots)
        exact ⟨_, Table.find?_put_self _ _ _, hlength⟩
      · exact ⟨slots', (Table.find?_put_of_ne _ _ hid).trans hslots, rfl⟩
  | _ => exact Iff.rfl

/-- Values that fit into an array are explained by their being stored. -/
theorem Explained.store (h : v.Explained deeds) (found : v.arrays.find? array = some slots)
    (fits : values.length ≤ slots.length) :
    (v.store array values slots).Explained (deeds ++ [.stored array values]) where
  numbers := by
    rw [Deed.creations_stored]
    exact h.numbers
  lastId_eq := by
    rw [Deed.creations_stored]
    exact h.lastId_eq
  created := by
    intro id item hitem
    rw [Deed.creations_stored]
    exact h.created id item ((has_store_iff found fits id item).1 hitem)
  kept := by
    intro p hp other
    rw [Deed.creations_stored] at hp
    exact (has_store_iff found fits p.1 p.2).2 (h.kept p hp other)
  slots_eq := by
    intro id slots' hslots
    rcases Table.find?_put_eq_some_iff.1 hslots with ⟨rfl, rfl⟩ | ⟨hne, hold⟩
    · obtain ⟨hfilled, hfits⟩ := h.slots_eq id slots found
      have hlength : (values ++ slots.drop values.length).length = slots.length := by simp [fits]
      rw [Deed.stores_stored_self, hlength, filled_snoc fits, ← hfilled]
      refine ⟨rfl, fun other hother => ?_⟩
      rcases List.mem_append.1 hother with hother | hother
      · exact hfits other hother
      · obtain rfl := List.mem_singleton.1 hother
        exact fits
    · rw [Deed.stores_stored_of_ne deeds (Ne.symm hne)]
      exact h.slots_eq id slots' hold
  unused := by
    intro id hid
    have hgiven : array ≤ v.lastId :=
      (h.bounds (h.created array (.array slots.length) ⟨slots, found, rfl⟩)).2
    rw [Deed.stores_stored_of_ne deeds (Nat.ne_of_lt (Nat.lt_of_le_of_lt hgiven hid))]
    exact h.unused id hid

/-- Each deed is explained by the history with this deed at its end. -/
theorem Explained.step {deed : Deed} (h : v.Explained deeds) (step : v.Step deed v') :
    v'.Explained (deeds ++ [deed]) := by
  -- one case for each deed: what it adds has the next number, and every other number keeps what it had
  cases step with
  | loadClass name unknown =>
    refine h.create rfl (Table.find?_put_self _ _ _) (fun id other hother => ?_)
      (fun id other hid _ hother => ?_) fun _ _ hslots => .inl hslots
    · cases other with
      | loadedClass name' =>
        rcases Table.find?_put_eq_some_iff.1 hother with ⟨rfl, rfl⟩ | ⟨-, hold⟩
        · exact .inr ⟨rfl, rfl⟩
        · exact .inl hold
      | _ => exact .inl hother
    · cases other with
      | loadedClass name' =>
        have hname : name' ≠ name := by
          rintro rfl
          exact absurd (unknown.symm.trans hother) nofun
        exact (Table.find?_put_of_ne _ _ hname).trans hother
      | _ => exact hother
  | addMethod key =>
    refine h.create rfl (Table.find?_put_self _ _ _) (fun id other hother => ?_)
      (fun id other hid hmethod hother => ?_) fun _ _ hslots => .inl hslots
    · cases other with
      | method key' =>
        rcases Table.find?_put_eq_some_iff.1 hother with ⟨rfl, rfl⟩ | ⟨-, hold⟩
        · exact .inr ⟨rfl, rfl⟩
        · exact .inl hold
      | _ => exact .inl hother
    · cases other with
      | method key' => exact absurd rfl (hmethod key')
      | _ => exact hother
  | addArray length =>
    refine h.create rfl ⟨_, Table.find?_put_self _ _ _, List.length_replicate⟩
      (fun id other hother => ?_) (fun id other hid _ hother => ?_) fun id slots hslots => ?_
    · cases other with
      | array length' =>
        obtain ⟨slots, hslots, rfl⟩ := hother
        rcases Table.find?_put_eq_some_iff.1 hslots with ⟨rfl, rfl⟩ | ⟨-, hold⟩
        · exact .inr ⟨rfl, by rw [List.length_replicate]⟩
        · exact .inl ⟨slots, hold, rfl⟩
      | _ => exact .inl hother
    · cases other with
      | array length' =>
        obtain ⟨slots, hslots, rfl⟩ := hother
        have hne : id ≠ v.lastId + 1 := Nat.ne_of_lt (Nat.lt_succ_of_le hid)
        exact ⟨slots, (Table.find?_put_of_ne _ _ hne).trans hslots, rfl⟩
      | _ => exact hother
    · rcases Table.find?_put_eq_some_iff.1 hslots with ⟨rfl, rfl⟩ | ⟨-, hold⟩
      · exact .inr ⟨rfl, by rw [List.length_replicate]⟩
      · exact .inl hold
  | addString content =>
    refine h.create rfl (Table.find?_put_self _ _ _) (fun id other hother => ?_)
      (fun id other hid _ hother => ?_) fun _ _ hslots => .inl hslots
    · cases other with
      | string content' =>
        rcases Table.find?_put_eq_some_iff.1 hother with ⟨rfl, rfl⟩ | ⟨-, hold⟩
        · exact .inr ⟨rfl, rfl⟩
        · exact .inl hold
      | _ => exact .inl hother
    · cases other with
      | string content' =>
        have hne : id ≠ v.lastId + 1 := Nat.ne_of_lt (Nat.lt_succ_of_le hid)
        exact (Table.find?_put_of_ne _ _ hne).trans hother
      | _ => exact hother
  | loseString =>
    refine h.create rfl (List.mem_append_right _ List.mem_cons_self) (fun id other hother => ?_)
      (fun id other hid _ hother => ?_) fun _ _ hslots => .inl hslots
    · cases other with
      | lostString =>
        rcases List.mem_append.1 hother with hold | hnew
        · exact .inl hold
        · exact .inr ⟨List.mem_singleton.1 hnew, rfl⟩
      | _ => exact .inl hother
    · cases other with
      | lostString => exact List.mem_append_left _ hother
      | _ => exact hother
  | store found fits => exact h.store found fits

/-- What a history explains, it goes on explaining along each path of further steps. -/
theorem Explained.steps {more : List Deed} (h : v.Explained deeds) (steps : v.Steps more v') :
    v'.Explained (deeds ++ more) := by
  induction steps generalizing deeds with
  | refl v => rwa [List.append_nil]
  | @cons v v' v'' deed rest step _ ih =>
    rw [List.append_cons]
    exact ih (h.step step)

end Inventory

namespace Debuggee

open Deed (creations stores)

/-- A new debuggee holds nothing and has no history. -/
theorem explained_blank : blank.inventory.Explained [] where
  numbers := rfl
  lastId_eq := rfl
  created := by
    intro id item hitem
    cases item with
    | array length =>
      obtain ⟨slots, hslots, -⟩ := hitem
      cases hslots
    | lostString => exact absurd hitem List.not_mem_nil
    | _ => cases hitem
  kept := by
    intro p hp
    cases hp
  slots_eq := by
    intro id slots hslots
    cases hslots
  unused := fun _ _ => rfl

/-- In every run the history explains what is there. -/
theorem explained_run (acts : List Act) :
    (blank.run acts).inventory.Explained (blank.history acts) :=
  explained_blank.steps (blank.steps_run acts)

theorem run_append (d : Debuggee) (acts later : List Act) :
    d.run (acts ++ later) = (d.run acts).run later := List.foldl_append

/-- The history of a run goes on with that of what follows. -/
theorem history_append (d : Debuggee) (acts later : List Act) :
    d.history (acts ++ later) = d.history acts ++ (d.run acts).history later := by
  induction acts generalizing d with
  | nil => rfl
  | cons act rest ih =>
    rw [List.cons_append, history, history, ih, List.append_assoc]
    rfl

/-- An act gives out two numbers at most: a method that is defined may need its class. -/
theorem length_creations_deeds (d : Debuggee) (act : Act) :
    (creations (d.deeds act)).length ≤ 2 := by
  have hloads : ∀ name, (d.loads name).length ≤ 1 := by
    intro name
    unfold loads
    split <;> simp
  have hcall : ∀ call, (d.callDeeds call).length ≤ 1 := by
    intro call
    unfold callDeeds
    repeat' split
    all_goals simp
  refine Nat.le_trans (List.length_filterMap_le _ _) ?_
  cases act with
  | defineClass name => exact Nat.le_succ_of_le (hloads name)
  | defineMethod owner name signature =>
    rw [deeds, List.length_append, List.length_singleton]
    exact Nat.succ_le_succ (hloads owner)
  | call call => exact Nat.le_succ_of_le (hcall call)
  | _ => exact Nat.zero_le _

/-- An act gives out at most two ids, one for a class and one for its method. -/
theorem length_creations_history (d : Debuggee) (acts : List Act) :
    (creations (d.history acts)).length ≤ 2 * acts.length := by
  induction acts generalizing d with
  | nil => exact Nat.le_refl _
  | cons act rest ih =>
    have hact := d.length_creations_deeds act
    have hrest := ih (d.after act)
    rw [history, creations, List.filterMap_append, List.length_append, List.length_cons]
    unfold creations at hact hrest
    omega

/-- Whatever is done to a new debuggee, whether it succeeds or fails: the numbers that are given out increase from one
thing to the next, so none is given out again, and `lastId` counts the things. What is there under a number is what was
created under it, so there is only one thing under a number, and two classes have two numbers. What was created is
there, unless it is a method, which may have got another number; and all of it but methods is still there, the same,
whatever is done later. An array has the length that it was created with, and holds what the stores that succeeded left
in it, each of them from its first slot on. A class that is loaded already keeps its number, and nothing changes. -/
theorem inventory_explained (acts later : List Act) :
    let d := blank.run acts
    let made := creations (blank.history acts)
    (made.map (·.1)).Pairwise (· < ·) ∧
    (∀ p ∈ made, 10000 < p.1 ∧ p.1 ≤ d.lastId) ∧
    d.lastId = 10000 + made.length ∧ made.length ≤ 2 * acts.length ∧
    (∀ id item, d.inventory.Has id item → (id, item) ∈ made) ∧
    (∀ id item item', d.inventory.Has id item → d.inventory.Has id item' → item = item') ∧
    (∀ p ∈ made, (∀ key, p.2 ≠ .method key) → d.inventory.Has p.1 p.2) ∧
    (∀ id item, d.inventory.Has id item → (∀ key, item ≠ .method key) →
      (d.run later).inventory.Has id item) ∧
    (∀ id slots, d.arrays.find? id = some slots →
      (id, .array slots.length) ∈ made ∧
      (∀ values ∈ stores (blank.history acts) id, values.length ≤ slots.length) ∧
      slots = filled slots.length (stores (blank.history acts) id)) ∧
    ∀ name id, d.classes.find? name = some id → d.defineClass name = (id, d) := by
  intro d made
  have h : d.inventory.Explained (blank.history acts) := explained_run acts
  refine ⟨h.pairwise, fun p hp => h.bounds hp, h.lastId_eq, length_creations_history _ _,
    h.created, fun id item item' => h.item_eq, h.kept, fun id item hitem other => ?_,
    fun id slots hslots => ?_, fun name id hid => ?_⟩
  · have hlater := explained_run (acts ++ later)
    rw [run_append, history_append] at hlater
    refine hlater.kept (id, item) ?_ other
    rw [creations, List.filterMap_append]
    exact List.mem_append_left _ (h.created id item hitem)
  · obtain ⟨hfilled, hfits⟩ := h.slots_eq id slots hslots
    exact ⟨h.created id (.array slots.length) ⟨slots, hslots, rfl⟩, hfits, hfilled⟩
  · unfold defineClass
    rw [hid]

/-- A method that is defined twice, an array in which two of four stores succeed, and a helper that first returns a
string and then one that is lost at once. -/
def renewedMethod : List Act :=
  let store (values : List Value) : Act := .call (.setArrayValues 10006 values)
  let ask : Act := .call (.invokeStatic 1 ⟨10001, "A"⟩ 10005 [.object Value.arrayTag 10006])
  [.defineClass "A", .defineMethod "A" "m" "()V", .defineMethod "B" "m" "()V",
    .defineMethod "A" "m" "()V", .setHandler fun n _ => if n = 0 then .text "x" else .collected,
    .call (.newArray ⟨10001, "A"⟩ 2), store [.object 76 5, .object 76 6], store [.int 1],
    store [.null, .null, .null], store [.null], ask, ask, .defineClass "A"]

theorem inventory_explained_renewedMethod :
    let d := blank.run renewedMethod
    let later := d.run [.call (.setArrayValues 10006 [.object 76 9]), .defineClass "C"]
    creations (blank.history renewedMethod) = [(10001, .loadedClass "A"),
      (10002, .method ⟨10001, "m", "()V"⟩), (10003, .loadedClass "B"),
      (10004, .method ⟨10003, "m", "()V"⟩), (10005, .method ⟨10001, "m", "()V"⟩),
      (10006, .array 2), (10007, .string "x"), (10008, .lostString)] ∧
    d.arrays.find? 10006 = some (filled 2 [[.object 76 5, .object 76 6], [.null]]) ∧
    d.methods.find? ⟨10001, "m", "()V"⟩ = some 10005 ∧
    later.inventory.Has 10006 (.array 2) ∧ later.inventory.Has 10007 (.string "x") ∧
    d.defineClass "B" = (10003, d) := by
  intro d later
  have h := inventory_explained renewedMethod
    [.call (.setArrayValues 10006 [.object 76 9]), .defineClass "C"]
  obtain ⟨-, -, -, -, -, -, hkept, hlater, hslots, hknown⟩ := h
  have hmade : creations (blank.history renewedMethod) = [(10001, .loadedClass "A"),
      (10002, .method ⟨10001, "m", "()V"⟩), (10003, .loadedClass "B"),
      (10004, .method ⟨10003, "m", "()V"⟩), (10005, .method ⟨10001, "m", "()V"⟩),
      (10006, .array 2), (10007, .string "x"), (10008, .lostString)] := by decide +kernel
  have hstores : stores (blank.history renewedMethod) 10006 =
      [[.object 76 5, .object 76 6], [.null]] := by decide +kernel
  have harray : d.inventory.Has 10006 (.array 2) :=
    hkept (10006, .array 2) (by rw [hmade]; decide) nofun
  have hstring : d.inventory.Has 10007 (.string "x") :=
    hkept (10007, .string "x") (by rw [hmade]; decide) nofun
  have hclass : d.classes.find? "B" = some 10003 := by decide +kernel
  obtain ⟨slots, hfound, hlength⟩ := id harray
  obtain ⟨-, -, hfilled⟩ := hslots 10006 slots hfound
  rw [hlength, hstores] at hfilled
  exact ⟨hmade, hfound.trans (congrArg some hfilled), by decide +kernel, hlater _ _ harray nofun,
    hlater _ _ hstring nofun, hknown "B" 10003 hclass⟩

end Debuggee

end BatchStringify
