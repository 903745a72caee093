import BatchStringify.Proofs.Exchanges

/-!
# What a probe finds

What a probe finds out depends on what the debuggee was set up with and on nothing else: its classes, its
methods and the operations that fail. So it does not matter when the probe is asked, or from which thread.
-/

namespace BatchStringify

/-- The batch helper of a debuggee, if it can be found. -/
def Debuggee.helper? (d : Debuggee) (settings : DebuggerSettings) : Option Helper :=
  match d.failures.find? .findClass, d.classes.find? settings.helperClass,
    d.failures.find? .findMethod with
  | none, some owner, none =>
    (d.methods.find? ⟨owner, settings.helperMethod, settings.helperSignature⟩).map fun method =>
      ⟨⟨owner, settings.helperClass⟩, method⟩
  | _, _, _ => none

theorem Debuggee.SameSetup.helper? {d d' : Debuggee} (h : d.SameSetup d')
    (settings : DebuggerSettings) : d'.helper? settings = d.helper? settings := by
  rw [Debuggee.helper?, Debuggee.helper?, h.failures, h.classes, h.methods]

namespace Link

variable (link : Link)

theorem findClass_fst (thread : ThreadId) (name : String) (loader : Option ObjectId) :
    (link.findClass thread name loader).1 =
      match link.debuggee.failures.find? .findClass, link.debuggee.classes.find? name with
      | some error, _ => .error error
      | none, some id => .ok ⟨id, name⟩
      | none, none => .error (.classNotLoaded name) := by
  simp only [findClass, Debuggee.findClass, Debuggee.noted]
  split <;> simp_all

theorem findMethod_fst (owner : ClassHandle) (name signature : String) :
    (link.findMethod owner name signature).1 =
      match link.debuggee.failures.find? .findMethod with
      | some error => .error error
      | none => .ok (link.debuggee.methods.find? ⟨owner.id, name, signature⟩) := by
  simp only [findMethod, Debuggee.findMethod, Debuggee.noted]
  split <;> simp_all

end Link

namespace Probe

theorem lookUp_fst (settings : DebuggerSettings) (thread : ThreadId) (loader : Option ObjectId)
    (link : Link) : (lookUp settings thread loader link).1 = link.debuggee.helper? settings := by
  have hclass := link.findClass_fst thread settings.helperClass loader
  have hsetup := link.debuggee.findClass_sameSetup thread settings.helperClass loader
  replace hsetup : link.debuggee.SameSetup
    (link.findClass thread settings.helperClass loader).2.debuggee := hsetup
  unfold lookUp Debuggee.helper?
  rcases hf : link.findClass thread settings.helperClass loader with ⟨error | owner, l⟩ <;>
    rw [hf] at hclass hsetup <;> dsimp only at hclass hsetup ⊢
  · split at hclass
    · simp_all
    · cases hclass
    · simp_all
  · have hmethod := l.findMethod_fst owner settings.helperMethod settings.helperSignature
    rw [hsetup.failures, hsetup.methods] at hmethod
    split at hclass
    · cases hclass
    · obtain rfl := Except.ok.inj hclass
      rename_i id hfails hfound
      rw [hfails, hfound]
      rcases hg : l.findMethod ⟨id, settings.helperClass⟩ settings.helperMethod
          settings.helperSignature with ⟨error | method, l'⟩ <;>
        rw [hg] at hmethod <;> dsimp only at hmethod ⊢ <;> split at hmethod
      · simp_all
      · cases hmethod
      · cases hmethod
      · obtain rfl := Except.ok.inj hmethod
        rename_i hfails'
        rw [hfails']
        dsimp only
        cases link.debuggee.methods.find?
          ⟨id, settings.helperMethod, settings.helperSignature⟩ <;> rfl
    · cases hclass

/-- What the probe knows once it was asked. -/
theorem ask_fst (settings : DebuggerSettings) (context : Context) (probe : Probe) (link : Link) :
    (ask settings context probe link).1 =
      match probe, context.connection, context.scope.thread with
      | .unknown, .remote, _ => .unavailable
      | .unknown, .localProcess, none => .unknown
      | .unknown, .localProcess, some _ => ofHelper (link.debuggee.helper? settings)
      | known, _, _ => known := by
  unfold ask
  cases probe with
  | available helper => rfl
  | unavailable => rfl
  | unknown =>
    cases context.connection with
    | remote => rfl
    | localProcess =>
      cases context.scope.thread with
      | none => rfl
      | some thread => exact congrArg ofHelper (lookUp_fst settings thread context.loader link)

end Probe

namespace Session

variable (s : Session)

/-- A question to the probe changes at most what is known about the helper, and if that is where it is,
nothing. -/
theorem exists_askProbe (context : Context) :
    ∃ probe link, (s.askProbe context).2 = { s with probe := probe, link := link } ∧
      s.link.Grows (·.isLookUp) link ∧ (s.probe.allows = true → probe = s.probe) ∧
      ((s.askProbe context).1 = true ↔ s.settings.batchEvaluation = true ∧ probe.allows = true) := by
  unfold askProbe
  by_cases hb : s.settings.batchEvaluation = true
  · rw [if_pos hb]
    refine ⟨_, _, rfl, Probe.ask_grows s.settings context s.probe s.link, ?_, ?_⟩
    · intro hallows
      cases hp : s.probe with
      | available helper => rfl
      | unknown => simp [hp, Probe.allows, Probe.helper?] at hallows
      | unavailable => simp [hp, Probe.allows, Probe.helper?] at hallows
    · exact ⟨fun h => ⟨hb, h⟩, And.right⟩
  · rw [if_neg hb]
    exact ⟨s.probe, s.link, rfl, .refl _, fun _ => rfl, by simp [hb]⟩

/-- The answer of the probe does not depend on what the journal says. -/
theorem askProbe_record (entry : Entry) (context : Context) :
    ((s.record entry).askProbe context).1 = (s.askProbe context).1 := by
  have hask : (s.probe.ask s.settings context (s.link.record entry)).1 =
      (s.probe.ask s.settings context s.link).1 := by
    rw [Probe.ask_fst, Probe.ask_fst]
    rfl
  unfold askProbe
  by_cases hb : s.settings.batchEvaluation = true
  · rw [if_pos hb, if_pos (show (s.record entry).settings.batchEvaluation = true from hb)]
    exact congrArg Probe.allows hask
  · rw [if_neg hb, if_neg (show ¬(s.record entry).settings.batchEvaluation = true from hb)]

end Session

end BatchStringify
