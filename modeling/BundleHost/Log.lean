import BundleHost.Fault
import BundleHost.Number.Binary

/-! Log records and the levels at which they are kept. Every step of the service returns the
records that it writes, all of them; the level of the log then decides which are seen. -/

namespace BundleHost.Log

inductive Level
  | debug
  | info
  | warning
  | error
  | critical
deriving DecidableEq, Repr

namespace Level

def all : List Level := [debug, info, warning, error, critical]

def name : Level → Text
  | debug => "DEBUG"
  | info => "INFO"
  | warning => "WARNING"
  | error => "ERROR"
  | critical => "CRITICAL"

def number : Level → Nat
  | debug => 10
  | info => 20
  | warning => 30
  | error => 40
  | critical => 50

def ofName? (t : Text) : Option Level := all.find? fun level => level.name = t

end Level

/-! ### Records -/

/-- The facts of an answered request, as they are logged beside the message. -/
structure Access where
  requestId : Text
  method : Value
  path : Text
  status : Value
  duration : Number
  clientAddress : Value
deriving Repr

structure Record where
  level : Level
  logger : Text
  message : Text
  access : Option Access := none
deriving Repr

/-- The records at or above a level, in order. -/
def kept (threshold : Nat) (records : List Record) : List Record :=
  records.filter fun r => threshold ≤ r.level.number

/-! ### Set-up -/

/-- Further names for a level. The last one lets every record through. -/
def otherThresholds : List (Text × Nat) :=
  [("WARN", Level.warning.number), ("FATAL", Level.critical.number), ("NOTSET", 0)]

/-- Names that stand for a level in the set-up of the log. -/
def thresholds : List (Text × Nat) :=
  Level.all.map (fun level => (level.name, level.number)) ++ otherThresholds

def switchNames : List Text := [
  "logMultiprocessing", "logProcesses", "logThreads", "raiseExceptions"]

def unsetNames : List Text := ["_warnings_showwarning"]

def textNames : List Text := [
  "BASIC_FORMAT", "__author__", "__cached__", "__date__", "__doc__", "__file__", "__name__",
  "__package__", "__status__", "__version__", "_srcfile"]

def kindNames : List Text := [
  "BufferingFormatter", "FileHandler", "Filter", "Filterer", "Formatter", "GenericAlias", "Handler",
  "LogRecord", "Logger", "LoggerAdapter", "Manager", "NullHandler", "PercentStyle", "PlaceHolder",
  "RootLogger", "StrFormatStyle", "StreamHandler", "StringTemplateStyle", "Template"]

def actionNames : List Text := [
  "addLevelName", "basicConfig", "captureWarnings", "critical", "currentframe", "debug", "disable",
  "error", "exception", "fatal", "getLevelName", "getLevelNamesMapping", "getLogRecordFactory",
  "getLogger", "getLoggerClass", "info", "log", "makeLogRecord", "setLogRecordFactory",
  "setLoggerClass", "shutdown", "warn", "warning"]

def resourceNames : List Text := [
  "atexit", "collections", "io", "lastResort", "os", "re", "root", "sys", "threading", "time",
  "traceback", "warnings", "weakref"]

def innerNames : List Text := [
  "_STYLES", "_StderrHandler", "_acquireLock", "_addHandlerRef",
  "_after_at_fork_child_reinit_locks", "_at_fork_reinit_lock_weakset", "_checkLevel",
  "_defaultFormatter", "_defaultLastResort", "_handlerList", "_handlers", "_is_internal_frame",
  "_levelToName", "_lock", "_logRecordFactory", "_loggerClass", "_nameToLevel",
  "_register_at_fork_reinit_lock", "_releaseLock", "_removeHandlerRef", "_showwarning",
  "_startTime", "_str_formatter"]

def moduleNames : List Text := [
  "__all__", "__annotations__", "__builtins__", "__class__", "__delattr__", "__dict__", "__dir__",
  "__eq__", "__format__", "__ge__", "__getattribute__", "__getstate__", "__gt__", "__hash__",
  "__init__", "__init_subclass__", "__le__", "__loader__", "__lt__", "__ne__", "__new__",
  "__path__", "__reduce__", "__reduce_ex__", "__repr__", "__setattr__", "__sizeof__", "__spec__",
  "__str__", "__subclasshook__"]

/-- Everything in the log that can be no level. -/
def partNames : List Text :=
  kindNames ++ actionNames ++ resourceNames ++ innerNames ++ moduleNames

/-- How the log of a running service is set up. -/
structure Setup where
  level : Value
  threshold : Nat
  handlers : Nat := 1
  lineFormat : Text := "%(asctime)s [%(levelname)s] %(name)s: %(message)s"
  timeFormat : Text := "%Y-%m-%dT%H:%M:%S"
  /-- The server's own access log repeats this service's, so only its warnings are kept. -/
  serverAccessThreshold : Nat := Level.warning.number
deriving Repr

namespace Setup

def ofNumber (n : Nat) : Setup where
  level := .int n
  threshold := n

/-- A switch counts as the number one. -/
def ofSwitch : Setup where
  level := .bool true
  threshold := 1

def unset : Setup := ofNumber Level.warning.number

end Setup

/-- The set-up for a name that is no level's. One that the log does not know sets the level of
ordinary messages; one that it has for something else is taken for that, and mostly refused. -/
def setupOther (name : Text) : Except Failure Setup :=
  if textNames.contains name then .error (.badValue [])
  else if partNames.contains name then .error (.wrongType [])
  else if switchNames.contains name then .ok .ofSwitch
  else if unsetNames.contains name then .ok .unset
  else .ok (.ofNumber Level.info.number)

def setupNamed (name : Text) : Except Failure Setup :=
  match thresholds.lookup name with
  | some n => .ok (.ofNumber n)
  | none => setupOther name

def setup : Value → Except Failure Setup
  | .text name => setupNamed name
  | _ => .error (.wrongType [])

theorem setupNamed_level (level : Level) :
    setupNamed level.name = .ok (.ofNumber level.number) := by
  cases level <;> rfl

end BundleHost.Log
