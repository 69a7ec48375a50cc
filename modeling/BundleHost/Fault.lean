import BundleHost.Value.Display

/-! Faults: the failures that this service raises and answers on its own. A fault has a message
that may be shown to a client and a context that is written to the log and nowhere else. Three
of the four kinds name the thing that is at fault, which then is part of the context. Failures
of any other kind are kept apart, because they are answered by another part of the service. -/

namespace BundleHost

inductive FaultKind
  | general
  | registry
  | bundleLoad
  | configuration
deriving DecidableEq, Repr

namespace FaultKind

def label : FaultKind → Text
  | general => "AssetDockError"
  | registry => "RegistryError"
  | bundleLoad => "BundleLoadError"
  | configuration => "ConfigurationError"

def ofLabel? (t : Text) : Option FaultKind :=
  [general, registry, bundleLoad, configuration].find? fun k => k.label = t

/-- The kind itself and the kinds that it is a special case of. -/
def lineage : FaultKind → List FaultKind
  | general => [general]
  | kind => [kind, general]

def defaultMessage : FaultKind → Text
  | general => "An unexpected error occurred"
  | registry => "Asset registry could not be built"
  | bundleLoad => "Failed to load the admin interface bundle"
  | configuration => "Invalid configuration"

/-- The field of the context that names what is at fault. -/
def subjectField? : FaultKind → Option Text
  | general => none
  | registry => some "key"
  | bundleLoad => some "path"
  | configuration => some "setting"

/-- A key or a path may be empty; a setting without a name is none. -/
def keepsSubject : FaultKind → Value → Bool
  | configuration, subject => subject.holds
  | _, .null => false
  | _, _ => true

def partNames (kind : FaultKind) : List Text :=
  ("message" : Text) :: ("context" : Text) :: kind.subjectField?.toList

end FaultKind

/-- A fault. Its message is a text and its context a record, unless it was given something else. -/
structure Fault where
  kind : FaultKind
  message : Value
  subject : Value := .null
  context : Value := .record []
deriving Repr

namespace Fault

/-- The context with the subject written into it. -/
def contextWith (kind : FaultKind) (subject : Value) (context : Fields) : Fields :=
  match kind.subjectField? with
  | some field => if kind.keepsSubject subject then context.put field subject else context
  | none => context

def raise (kind : FaultKind) (message : Option Value) (subject : Value) (context : Fields) :
    Fault where
  kind := kind
  message := message.getD (.text kind.defaultMessage)
  subject := if kind.subjectField?.isSome then subject else .null
  context := .record (contextWith kind subject context)

def messageText (f : Fault) : Text := f.message.plain

/-- What is written to the log about the context. -/
def contextText (f : Fault) : Text := (" | Context: " : Text) ++ f.context.plain

/-- The given context after the fault was raised. A context with something in it is shared with
the fault; an empty one is not. -/
def sharedContext (fault : Fault) (given : Value) : Value :=
  if given.holds then fault.context else given

end Fault

/-- Why a file system refuses to do something, or the program has no room for it. -/
inductive FileError
  | present
  | absent
  | notDirectory
  | directory
  | nameTooLong
  | tooManyLinks
  | zeroInName
  | denied
  | tooDeep
  | circle
deriving DecidableEq, Repr

/-- Why a source of settings cannot be read. -/
inductive SourceError
  | unknownCharset
  | undecodable
  | unfitFile
  | unnamed
  | noDirectory
  | noCommandLine
  | badArguments
  /-- The command line ends the program, because of help that is asked for or of a mistake in it. -/
  | ended
  | clashingOptions
  | unwritten
deriving DecidableEq, Repr

/-- What can go wrong otherwise, while the service is made, started, or asked. -/
inductive Failure
  | fault (f : Fault)
  | badValue (message : Text)
  | wrongType (message : Text)
  | outOfRange (message : Text)
  /-- Something that a value does not have or cannot do. -/
  | lacking (message : Text)
  | absentPart (message : Text)
  | breakdown (message : Text)
  /-- A header value with a character beyond U+00FF. -/
  | unencodable (message : Text)
  | invalid (message : Text)
  | unfitAnswer (message : Text)
  | unmet
  | fileSystem (e : FileError)
  | source (e : SourceError)
deriving Repr

namespace Failure

def message : Failure → Text
  | fault f => f.messageText
  | badValue m => m
  | wrongType m => m
  | outOfRange m => m
  | lacking m => m
  | absentPart m => m
  | breakdown m => m
  | unencodable m => m
  | invalid m => m
  | unfitAnswer m => m
  | unmet => []
  | fileSystem _ => []
  | source _ => []

def withoutPart (name : Text) : Failure := absentPart (Text.quoted name)

/-- A request before a bundle was installed. -/
def notInstalled : Failure := lacking "'State' object has no attribute 'resolver'"

end Failure

/-! ### Faults from parts -/

namespace Fault

def unexpectedPart (kind : FaultKind) (name : Text) : Failure :=
  .wrongType (kind.label ++ (".__init__() got an unexpected keyword argument " : Text) ++
    Text.quoted name)

def unfitContext (context : Value) : Failure :=
  .wrongType <| match context with
    | .list _ => "list indices must be integers or slices, not str"
    | v => '\'' :: v.typeName ++ ("' object does not support item assignment" : Text)

/-- A fault with a context that need not be a record; that does no harm if there is no subject to
be written into it. -/
def raiseWith (kind : FaultKind) (message : Option Value) (subject context : Value) :
    Except Failure Fault :=
  match context with
  | .record fields => .ok (raise kind message subject fields)
  | v =>
    if !v.holds then .ok (raise kind message subject [])
    else if kind.subjectField?.isSome && kind.keepsSubject subject then .error (unfitContext v)
    else .ok { raise kind message subject [] with context := v }

/-- A fault from its parts under their names, all of which have to be parts of the kind. -/
def ofParts (kind : FaultKind) (parts : Fields) : Except Failure Fault :=
  match parts.find? fun part => !kind.partNames.contains part.1 with
  | some part => .error (unexpectedPart kind part.1)
  | none =>
    raiseWith kind (parts.get? "message") ((kind.subjectField?.bind parts.get?).getD .null)
      ((parts.get? "context").getD .null)

end Fault

/-! ### Steps that may fail -/

section Steps

variable {ε α β : Type} {x : Except ε α} {e : ε}

/-- A step after another one gives a result only if both do. -/
theorem of_bind_eq_ok {f : α → Except ε β} {b : β} (h : (x >>= f) = .ok b) :
    ∃ a, x = .ok a ∧ f a = .ok b := by
  cases x with
  | error e => cases h
  | ok a => exact ⟨a, rfl, h⟩

theorem of_bind_eq_error {f : α → Except ε β} (h : (x >>= f) = .error e) :
    x = .error e ∨ ∃ a, x = .ok a ∧ f a = .error e := by
  cases x with
  | error why => exact .inl (Except.error.inj h ▸ rfl)
  | ok a => exact .inr ⟨a, rfl, h⟩

theorem of_map_eq_ok {f : α → β} {b : β} (h : x.map f = .ok b) : ∃ a, x = .ok a ∧ f a = b := by
  cases x with
  | error e => cases h
  | ok a => exact ⟨a, rfl, Except.ok.inj h⟩

/-- What is made of a result changes no error. -/
theorem of_map_eq_error {f : α → β} (h : x.map f = .error e) : x = .error e := by
  cases x with
  | error why => exact Except.error.inj h ▸ rfl
  | ok a => cases h

end Steps

end BundleHost
