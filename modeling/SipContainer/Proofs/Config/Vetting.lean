import SipContainer.Config.Settings
/-!
The logging section is gone through twice: it is checked when the settings are, and its filter is built when
it is put to use. Both go by the same rule. They fail at the first item that cannot be read, the level before
any directive, with the same words; so settings that have been accepted do not fail over their logging section
later on. This holds of every reader of levels and directives that can read what the container itself writes.
-/

namespace SipContainer

namespace LogReader

variable {reader : LogReader} {text : String} {fault : DispatchError}

def Reads (reader : LogReader) (text : String) : Prop :=
  ∃ directive, reader.directive (Text.trim text) = .ok directive

def ReadsOwn (reader : LogReader) : Prop :=
  ∀ level, ∃ directive, reader.directive (Logging.ownDirective level) = .ok directive

def refusal? (reader : LogReader) (text : String) : Option DispatchError :=
  match reader.require text with
  | .ok _ => none
  | .error fault => some fault

theorem refusal?_eq_none_iff : reader.refusal? text = none ↔ reader.Reads text := by
  unfold refusal? require Reads
  cases reader.directive (Text.trim text) <;> simp

theorem refusal?_eq_some_iff : reader.refusal? text = some fault ↔
    ∃ reason, reader.directive (Text.trim text) = .error reason ∧
      fault = .configuration ("invalid logging directive '" ++ text ++ "': " ++ reason) := by
  unfold refusal? require
  cases reader.directive (Text.trim text) <;> simp [eq_comm]

end LogReader

namespace Logging

variable {reader : LogReader} {texts : List String} {fault : DispatchError} {logging : Logging}

/-- The first item of a section that cannot be read, and what is said of it. -/
inductive FirstFault (reader : LogReader) (logging : Logging) : DispatchError → Prop
  | level (unknown : reader.level? (Text.trim logging.level) = none) :
      FirstFault reader logging
        (.configuration ("invalid logging level '" ++ logging.level ++ "'"))
  | directive {level : LogLevel} {before after : List String} {text reason : String}
      (known : reader.level? (Text.trim logging.level) = some level)
      (split : logging.directives = before ++ text :: after)
      (fine : ∀ earlier ∈ before, reader.Reads earlier)
      (refused : reader.directive (Text.trim text) = .error reason) :
      FirstFault reader logging
        (.configuration ("invalid logging directive '" ++ text ++ "': " ++ reason))

theorem directiveFault?_eq_findSome? (reader : LogReader) (texts : List String) :
    directiveFault? reader texts = texts.findSome? reader.refusal? := by
  induction texts with
  | nil => rfl
  | cons text rest ih =>
      unfold directiveFault?
      rw [List.findSome?_cons, ih, LogReader.refusal?]
      cases reader.require text <;> rfl

theorem foldlM_add_eq_error_iff (start : List LogDirective) :
    texts.foldlM reader.add start = .error fault ↔ directiveFault? reader texts = some fault := by
  induction texts generalizing start with
  | nil => exact iff_of_false nofun nofun
  | cons text rest ih =>
      rw [List.foldlM_cons]
      unfold directiveFault? LogReader.add
      cases reader.require text with
      | error other =>
          constructor
          · intro stopped
            exact congrArg some (Except.error.inj stopped)
          · intro same
            exact congrArg Except.error (Option.some.inj same)
      | ok directive => exact ih (LogDirective.insert start directive)

theorem trim_ownDirective (level : LogLevel) :
    Text.trim (ownDirective level) = ownDirective level := by
  cases level <;> rfl

theorem require_ownDirective (own : reader.ReadsOwn) (level : LogLevel) :
    ∃ directive, reader.require (ownDirective level) = .ok directive := by
  obtain ⟨directive, read⟩ := own level
  refine ⟨directive, ?_⟩
  rw [LogReader.require, trim_ownDirective, read]

theorem filter_eq_error_iff (own : reader.ReadsOwn) :
    logging.filter reader = .error fault ↔ logging.fault? reader = some fault := by
  unfold filter fault?
  cases logging.requireLevel reader with
  | error other =>
      constructor
      · intro stopped
        exact congrArg some (Except.error.inj stopped)
      · intro same
        exact congrArg Except.error (Option.some.inj same)
  | ok level =>
      obtain ⟨directive, read⟩ := require_ownDirective own level
      change (reader.require (ownDirective level)).bind _ = _ ↔ _
      rw [read]
      exact foldlM_add_eq_error_iff _

theorem filter_eq_ok_iff (own : reader.ReadsOwn) :
    (∃ directives, logging.filter reader = .ok directives) ↔ logging.fault? reader = none := by
  cases built : logging.filter reader with
  | error fault => simp [(filter_eq_error_iff own).mp built]
  | ok directives =>
      refine iff_of_true ⟨directives, rfl⟩ (Option.eq_none_iff_forall_ne_some.mpr ?_)
      intro fault spoiled
      cases built.symm.trans ((filter_eq_error_iff own).mpr spoiled)

theorem fault?_eq_some_iff :
    logging.fault? reader = some fault ↔ logging.FirstFault reader fault := by
  unfold fault? requireLevel
  cases read : reader.level? (Text.trim logging.level) with
  | none =>
      constructor
      · intro same
        rw [← Option.some.inj same]
        exact .level read
      · intro first
        cases first with
        | level => rfl
        | directive known => cases read.symm.trans known
  | some level =>
      change directiveFault? reader logging.directives = some fault ↔ _
      rw [directiveFault?_eq_findSome?, List.findSome?_eq_some_iff]
      constructor
      · intro found
        obtain ⟨before, text, after, split, refused, fine⟩ := found
        obtain ⟨reason, refused, same⟩ := LogReader.refusal?_eq_some_iff.mp refused
        rw [same]
        exact .directive read split
          (fun earlier member => LogReader.refusal?_eq_none_iff.mp (fine earlier member)) refused
      · intro first
        cases first with
        | level unknown => cases read.symm.trans unknown
        | directive known split fine refused =>
            exact ⟨_, _, _, split, LogReader.refusal?_eq_some_iff.mpr ⟨_, refused, rfl⟩,
              fun earlier member => LogReader.refusal?_eq_none_iff.mpr (fine earlier member)⟩

end Logging

structure Settings.SoundElsewhere (settings : Settings) : Prop where
  poolSize : settings.poolSize ≠ 0
  gateTimeout : settings.gateTimeoutMs ≠ some 0
  listeners : ∀ listener ∈ settings.listeners, listener.fault? = none

theorem Settings.fault?_of_soundElsewhere {settings : Settings} (sound : settings.SoundElsewhere)
    (reader : LogReader) :
    settings.fault? reader = (settings.logging.fault? reader).map DispatchError.message := by
  have listeners : settings.listeners.findSome? Listener.fault? = none :=
    List.findSome?_eq_none_iff.mpr sound.listeners
  rw [fault?, if_neg sound.poolSize, if_neg sound.gateTimeout, listeners, Option.none_or]

namespace Logging

/-- The check of a section and the building of its filter come to the same. -/
structure Vetted (reader : LogReader) (logging : Logging) : Prop where
  accepted : logging.fault? reader = none ↔ ∃ directives, logging.filter reader = .ok directives
  refused : ∀ fault, logging.fault? reader = some fault ↔ logging.filter reader = .error fault
  first : ∀ fault, logging.filter reader = .error fault ↔ logging.FirstFault reader fault
  settings : ∀ settings : Settings, settings.logging = logging → settings.SoundElsewhere →
    (settings.check reader = .ok settings ↔
      ∃ directives, logging.filter reader = .ok directives) ∧
    ∀ message, settings.check reader = .error (.configuration message) ↔
      ∃ fault, logging.filter reader = .error fault ∧ fault.message = message

/-- A logging section passes its check exactly when its filter can be built, and fails it with the fault that
building ends with. -/
theorem vetted {reader : LogReader} (own : reader.ReadsOwn) (logging : Logging) :
    logging.Vetted reader := by
  refine ⟨(filter_eq_ok_iff own).symm, fun fault => (filter_eq_error_iff own).symm,
    fun fault => (filter_eq_error_iff own).trans fault?_eq_some_iff, ?_⟩
  intro settings here sound
  subst here
  rw [Settings.check, Settings.fault?_of_soundElsewhere sound reader, filter_eq_ok_iff own]
  simp only [filter_eq_error_iff own]
  cases settings.logging.fault? reader with
  | none => simp
  | some fault => simp

end Logging

namespace Sample

/-- The level is a number with blanks around it. Of the directives the second and the third are wrong. -/
def chatter : Logging where
  level := " 03 "
  directives := ["tokio=warn,", " tokio=loudest", "=info"]

def chatterFault : DispatchError :=
  .configuration ("invalid logging directive ' tokio=loudest': " ++ LogThreshold.unreadable)

end Sample

theorem LogReader.plain_readsOwn : LogReader.plain.ReadsOwn := by
  intro level
  have fine : (plain.directive (Logging.ownDirective level)).isOk = true := by
    cases level <;> decide +kernel
  cases read : plain.directive (Logging.ownDirective level) with
  | ok directive => exact ⟨directive, rfl⟩
  | error reason =>
      rw [read] at fine
      cases fine

theorem Logging.vetted_chatter :
    LogReader.plain.ReadsOwn ∧ Sample.chatter.Vetted .plain ∧
      Sample.chatter.FirstFault .plain Sample.chatterFault ∧
      Sample.chatter.filter = .error Sample.chatterFault := by
  have vetted : Sample.chatter.Vetted .plain :=
    Logging.vetted LogReader.plain_readsOwn Sample.chatter
  have spoiled : Sample.chatter.fault? = some Sample.chatterFault := by decide +kernel
  have stopped := (vetted.refused _).mp spoiled
  exact ⟨LogReader.plain_readsOwn, vetted, (vetted.first _).mp stopped, stopped⟩

end SipContainer
