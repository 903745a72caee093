import BatchStringify.Proofs.Helper

/-!
# When an answer comes through

Whether a batch attempt is answered depends on what the debuggee was set up with and on the text of the
helper's reply, and on nothing that happened before: the helper is asked if there is a thread and the
calls for the array work (`isAsked_iff`), and its reply comes through if the calls for the string work
and the text has an entry for each value (`exists_answered_iff`).
-/

namespace BatchStringify

namespace Debuggee

variable (d : Debuggee)

/-- Whether an operation is not set to fail. -/
def works (operation : Operation) : Bool := (d.failures.find? operation).isNone

/-- Whether the helper can be handed an array of objects. -/
def canAsk (settings : DebuggerSettings) : Bool :=
  (d.works .findClass && (d.classes.find? settings.arrayType).isSome) &&
    (d.works .newArray && d.works .setArrayValues)

/-- Whether the string that the helper returns can be read. -/
def canRead : Bool := d.works .invokeStatic && (d.works .disableCollection && d.works .stringValue)

variable {d}

theorem works_iff {operation : Operation} :
    d.works operation = true ↔ d.failures.find? operation = none := Option.isNone_iff_eq_none

variable {d' : Debuggee}

theorem SameSetup.works (h : d.SameSetup d') (operation : Operation) :
    d'.works operation = d.works operation := by
  rw [Debuggee.works, Debuggee.works, h.failures]

/-- What an attempt needs in order to ask depends on the setup alone. -/
theorem SameSetup.canAsk (h : d.SameSetup d') (settings : DebuggerSettings) :
    d'.canAsk settings = d.canAsk settings := by
  rw [Debuggee.canAsk, Debuggee.canAsk, h.classes, h.works, h.works, h.works]

theorem SameSetup.canRead (h : d.SameSetup d') : d'.canRead = d.canRead := by
  rw [Debuggee.canRead, Debuggee.canRead, h.works, h.works, h.works]

/-! ## Which calls succeed -/

/-- A class is found if nothing was set to fail and it is known. -/
theorem findClass_isOk_iff {thread : ThreadId} {name : String} {loader : Option ObjectId} :
    (∃ handle, (d.findClass thread name loader).1 = .ok handle) ↔
      d.works .findClass = true ∧ (d.classes.find? name).isSome := by
  rw [works_iff]
  unfold findClass
  dsimp only [noted]
  cases d.failures.find? .findClass <;> cases d.classes.find? name <;> simp

/-- A new array can always be had unless it was set to fail. -/
theorem newArray_isOk_iff {elements : ClassHandle} {length : Nat} :
    (∃ array, (d.newArray elements length).1 = .ok array) ↔ d.works .newArray = true := by
  rw [works_iff]
  unfold newArray
  dsimp only [noted]
  cases d.failures.find? .newArray <;> simp

/-- Objects are stored in a new array of their number, unless that is set to fail. -/
theorem setArrayValues_eq {array : ObjectId} {values : List Value}
    (new : d.arrays.find? array = some (List.replicate values.length .null))
    (objects : ∀ v ∈ values, v.objectId?.isSome) :
    (d.setArrayValues array values).1 =
      (d.failures.find? .setArrayValues).elim (.ok ()) .error := by
  have hassignable : values.find? (fun v => !isAssignable v) = none := by
    rw [List.find?_eq_none]
    intro v hv
    have hobject := objects v hv
    cases v <;> simp_all [Value.objectId?, isAssignable]
  unfold setArrayValues
  dsimp only [noted]
  cases d.failures.find? .setArrayValues with
  | some error => rfl
  | none => simp [new, hassignable]

/-- Objects can be stored in a new array of their number. -/
theorem setArrayValues_isOk_iff {array : ObjectId} {values : List Value}
    (new : d.arrays.find? array = some (List.replicate values.length .null))
    (objects : ∀ v ∈ values, v.objectId?.isSome) :
    (d.setArrayValues array values).1 = .ok () ↔ d.works .setArrayValues = true := by
  rw [setArrayValues_eq new objects, works_iff]
  cases d.failures.find? .setArrayValues <;> simp

/-- A helper that replied was not set to fail. -/
theorem works_of_invokeStatic {thread : ThreadId} {owner : ClassHandle} {method : MethodId}
    {args : List Value} {v : Value}
    (h : (d.invokeStatic thread owner method args).1 = .ok (.ok v)) :
    d.works .invokeStatic = true := by
  rw [works_iff]
  unfold invokeStatic at h
  dsimp only [noted] at h
  cases hf : d.failures.find? .invokeStatic with
  | none => rfl
  | some error =>
    rw [hf] at h
    cases h

/-- A helper that replies with a text makes a new string of it, which is none that was collected. Its number was not
given out before. -/
theorem invokeStatic_text (thread : ThreadId) (owner : ClassHandle) (method : MethodId)
    {array : ObjectId} {elements : List Value} {text : String}
    (works : d.works .invokeStatic = true) (harray : d.arrays.find? array = some elements)
    (hreply : d.reply? elements = some (.text text)) (numbered : d.Numbered) :
    ∃ id, (d.invokeStatic thread owner method [.object Value.arrayTag array]).1 =
        .ok (.ok (.object Value.stringTag id)) ∧
      (d.invokeStatic thread owner method [.object Value.arrayTag array]).2.strings.find? id =
        some text ∧
      id ∉ (d.invokeStatic thread owner method [.object Value.arrayTag array]).2.collected ∧
      d.lastId < id := by
  have harg : arrayArgument? [.object Value.arrayTag array] = some array := by
    simp [arrayArgument?]
  rw [works_iff] at works
  obtain ⟨handler, hh, htext⟩ := Option.map_eq_some_iff.1 hreply
  unfold invokeStatic
  dsimp only [noted]
  rw [works, harg]
  dsimp only
  rw [harray, hh]
  dsimp only
  rw [htext]
  exact ⟨d.lastId + 1, rfl, Table.find?_put_self _ _ _, fun hid =>
    absurd (numbered _ hid) (Nat.not_succ_le_self _), Nat.lt_succ_self _⟩

/-- An object can be pinned until it is collected. -/
theorem disableCollection_isOk_iff {id : ObjectId} :
    (d.disableCollection id).1 = .ok () ↔ d.works .disableCollection = true ∧ id ∉ d.collected := by
  rw [works_iff]
  unfold disableCollection
  dsimp only [noted]
  cases d.failures.find? .disableCollection with
  | some error => simp
  | none => by_cases h : id ∈ d.collected <;> simp [h]

/-- A string can be read if it is known. -/
theorem stringValue_isOk_iff {id : ObjectId} {text : String} :
    (d.stringValue id).1 = .ok text ↔
      d.works .stringValue = true ∧ d.strings.find? id = some text := by
  rw [works_iff]
  unfold stringValue
  dsimp only [noted]
  cases d.failures.find? .stringValue <;> cases d.strings.find? id <;> simp

end Debuggee

namespace Attempt

variable {settings : DebuggerSettings} {helper : Helper} {context : Context} {values : List Value}
  {link stored : Link} {thread : ThreadId} {array : ObjectId} {entries : List Reply.Entry}

/-- The helper is asked about objects exactly if there is a thread and it can be handed an array. -/
theorem isAsked_iff (objects : ∀ v ∈ values, v.objectId?.isSome) :
    IsAsked settings context values link ↔
      context.scope.thread.isSome ∧ link.debuggee.canAsk settings = true := by
  simp only [Debuggee.canAsk, Bool.and_eq_true]
  constructor
  · rintro ⟨thread, array, stored, asked⟩
    have ht : context.scope.thread = some thread := by
      obtain ⟨ht, -⟩ := asked
      exact ht
    obtain ⟨elements, found, created, hf, hn, hs⟩ := asked.calls
    have hfound := link.debuggee.findClass_sameSetup thread settings.arrayType context.loader
    have hcreated := found.newArray_sameSetup elements values.length
    rw [hf] at hfound
    rw [hn] at hcreated
    obtain ⟨-, hnew⟩ := Debuggee.newArray_ok hn
    have hnewArray := Debuggee.newArray_isOk_iff.1 ⟨array, by rw [hn]⟩
    have hsetArray := (Debuggee.setArrayValues_isOk_iff hnew objects).1 (by rw [hs])
    rw [hfound.works] at hnewArray
    rw [hcreated.works, hfound.works] at hsetArray
    exact ⟨by rw [ht]; rfl, Debuggee.findClass_isOk_iff.1 ⟨elements, by rw [hf]⟩, hnewArray,
      hsetArray⟩
  · rintro ⟨ht, hfindClass, hnewArray, hsetArray⟩
    obtain ⟨thread, ht⟩ := Option.isSome_iff_exists.1 ht
    -- each call is made in the state that the one before it left
    have hfound := link.debuggee.findClass_sameSetup thread settings.arrayType context.loader
    rw [← hfound.works] at hnewArray hsetArray
    obtain ⟨elements, hf⟩ : ∃ elements,
        (link.debuggee.findClass thread settings.arrayType context.loader).1 = .ok elements :=
      Debuggee.findClass_isOk_iff.2 hfindClass
    generalize hd : (link.debuggee.findClass thread settings.arrayType context.loader).2 = found at *
    have hcreated := found.newArray_sameSetup elements values.length
    rw [← hcreated.works] at hsetArray
    obtain ⟨array, hn⟩ : ∃ array, (found.newArray elements values.length).1 = .ok array :=
      Debuggee.newArray_isOk_iff.2 hnewArray
    obtain ⟨-, hnew⟩ := Debuggee.newArray_ok (Prod.ext hn rfl)
    have hs := (Debuggee.setArrayValues_isOk_iff hnew objects).2 hsetArray
    subst hd
    exact ⟨thread, array, _, ht, Prod.ext hf rfl, Prod.ext hn rfl, Prod.ext hs rfl⟩

/-- An answer that came through was read from a string. -/
theorem Answered.canRead {l : Link} (h : Answered settings helper context values link entries l) :
    link.debuggee.canRead = true := by
  obtain ⟨asked, hi, hd, hv, -, -⟩ := h
  rename_i thread array id text stored returned pinned read
  have hstored := asked.grows.setup
  have hreturned : stored.debuggee.SameSetup (stored.invokeStatic thread helper.owner helper.method
    [.object Value.arrayTag array]).2.debuggee := stored.debuggee.invokeStatic_sameSetup _ _ _ _
  have hpinned : returned.debuggee.SameSetup (returned.disableCollection id).2.debuggee :=
    returned.debuggee.disableCollection_sameSetup _
  rw [hi] at hreturned
  rw [hd] at hpinned
  have hinvoke : stored.debuggee.works .invokeStatic = true :=
    Debuggee.works_of_invokeStatic (congrArg Prod.fst hi)
  have hpin : returned.debuggee.works .disableCollection = true :=
    (Debuggee.disableCollection_isOk_iff.1 (congrArg Prod.fst hd)).1
  have hread : pinned.debuggee.works .stringValue = true :=
    (Debuggee.stringValue_isOk_iff.1 (congrArg Prod.fst hv)).1
  rw [hpinned.works, hreturned.works, hstored.works] at hread
  rw [hreturned.works, hstored.works] at hpin
  rw [hstored.works] at hinvoke
  simp only [Debuggee.canRead, hinvoke, hpin, hread, Bool.and_self]

/-- The calls of an attempt all succeed, and a text is read from the string that the helper returned. -/
inductive Fetched (settings : DebuggerSettings) (helper : Helper) (context : Context)
    (values : List Value) (link : Link) (thread : ThreadId) (array id : ObjectId) (text : String) :
    Link → Prop where
  | intro {stored returned pinned read : Link}
      (asked : Asked settings context values link thread array stored)
      (invokeStatic_eq : stored.invokeStatic thread helper.owner helper.method
        [.object Value.arrayTag array] = (.ok (.ok (.object Value.stringTag id)), returned))
      (disableCollection_eq : returned.disableCollection id = (.ok (), pinned))
      (stringValue_eq : pinned.stringValue id = (.ok text, read)) :
      Fetched settings helper context values link thread array id text (release id read)

/-- The text of the helper's reply is read if the string of it can be read. The string is a new one. -/
theorem Asked.fetched (asked : Asked settings context values link thread array stored)
    (numbered : link.debuggee.Numbered) (canRead : link.debuggee.canRead = true) {text : String}
    (reply : link.debuggee.reply? values = some (.text text)) :
    ∃ id l, Fetched settings helper context values link thread array id text l ∧
      stored.debuggee.lastId < id := by
  simp only [Debuggee.canRead, Bool.and_eq_true] at canRead
  obtain ⟨hinvoke, hpin, hread⟩ := canRead
  have hstored := asked.grows
  rw [← asked.reply?_eq] at reply
  rw [← hstored.setup.works] at hinvoke hpin hread
  obtain ⟨id, hi, hstring, hleft, hnew⟩ := Debuggee.invokeStatic_text thread helper.owner
    helper.method hinvoke asked.sameReplies.2 reply (hstored.numbered numbered)
  have hreturned := stored.debuggee.invokeStatic_sameSetup thread helper.owner helper.method
    [.object Value.arrayTag array]
  rw [← hreturned.works] at hpin hread
  generalize hret : (stored.debuggee.invokeStatic thread helper.owner helper.method
    [.object Value.arrayTag array]).2 = returned at *
  have hd := Debuggee.disableCollection_isOk_iff.2 ⟨hpin, hleft⟩
  have hpinned := returned.disableCollection_sameSetup id
  have hstrings := (Debuggee.disableCollection_ok (Prod.ext hd rfl)).2
  rw [← hpinned.works] at hread
  rw [← hstrings] at hstring
  have hv := Debuggee.stringValue_isOk_iff.2 ⟨hread, hstring⟩
  subst hret
  exact ⟨id, _, ⟨asked, Prod.ext hi rfl, Prod.ext hd rfl, Prod.ext hv rfl⟩, hnew⟩

/-- The answer to a question comes through if the helper replies with a text that has an entry for each
value and the string of it can be read. -/
theorem Asked.answered (asked : Asked settings context values link thread array stored)
    (numbered : link.debuggee.Numbered) (canRead : link.debuggee.canRead = true) {text : String}
    (reply : link.debuggee.reply? values = some (.text text))
    (decode : Reply.decode (Latin1.encode text) = .ok entries)
    (length : entries.length = values.length) :
    ∃ l, Answered settings helper context values link entries l := by
  obtain ⟨id, l, ⟨asked, hi, hd, hv⟩, -⟩ := asked.fetched numbered canRead reply
  exact ⟨_, asked, hi, hd, hv, decode, length⟩

/-- When the answer to a question about objects comes through, and with which entries. Here the helper
returns no string but a new one. -/
theorem exists_answered_iff (objects : ∀ v ∈ values, v.objectId?.isSome)
    (numbered : link.debuggee.Numbered)
    (new : ∀ v, link.debuggee.reply? values ≠ some (.value v)) :
    (∃ l, Answered settings helper context values link entries l) ↔
      (context.scope.thread.isSome ∧ link.debuggee.canAsk settings = true) ∧
        link.debuggee.canRead = true ∧ ∃ text, link.debuggee.reply? values = some (.text text) ∧
          Reply.decode (Latin1.encode text) = .ok entries ∧ entries.length = values.length := by
  rw [← isAsked_iff objects]
  constructor
  · rintro ⟨l, answered⟩
    obtain ⟨-, text, htext, hdecode⟩ := answered.replyText?_eq
    have hreply : link.debuggee.reply? values = some (.text text) := by
      unfold Debuggee.replyText? at htext
      split at htext
      · rename_i content hr
        obtain rfl := Option.some.inj htext
        exact hr
      · rename_i hr
        exact absurd hr (new _)
      · cases htext
    exact ⟨answered.isAsked, answered.canRead, text, hreply, hdecode, answered.length_eq⟩
  · rintro ⟨⟨thread, array, stored, asked⟩, hread, text, hreply, hdecode, hlength⟩
    exact asked.answered numbered hread hreply hdecode hlength

end Attempt

end BatchStringify
