import BundleHost.Value.Basic

/-! Checking loosely typed data. A check either gives a value of the right type or says what is
wrong and where. A record is checked field by field, and all that is wrong with it is reported,
in the order of the fields. -/

namespace BundleHost.Validation

inductive Problem
  | notText
  | notInteger
  | unreadableInteger
  | oversizedInteger
  | fractionalInteger
  | notFinite
  | below (least : Int)
  | above (greatest : Int)
  | notBoolean
  | unreadableBoolean
  | notOneOf (choices : List Text)
  | notRecord (name : Text)
  | notDictionary
  | missing
  | unknownField
  | refused (reason : Text)
deriving DecidableEq, Repr

namespace Problem

def label : Problem → Text
  | notText => "string_type"
  | notInteger => "int_type"
  | unreadableInteger => "int_parsing"
  | oversizedInteger => "int_parsing_size"
  | fractionalInteger => "int_from_float"
  | notFinite => "finite_number"
  | below _ => "greater_than_equal"
  | above _ => "less_than_equal"
  | notBoolean => "bool_type"
  | unreadableBoolean => "bool_parsing"
  | notOneOf _ => "enum"
  | notRecord _ => "model_type"
  | notDictionary => "dict_type"
  | missing => "missing"
  | unknownField => "extra_forbidden"
  | refused _ => "value_error"

/-- Choices in single quotes, with a word before the last one. -/
def alternatives (choices : List Text) : Text :=
  let shown := choices.map fun c => '\'' :: c ++ ['\'']
  match shown.getLast? with
  | none => []
  | some last =>
    if shown.length = 1 then last
    else Text.join ", " shown.dropLast ++ (" or " : Text) ++ last

def message : Problem → Text
  | notText => "Input should be a valid string"
  | notInteger => "Input should be a valid integer"
  | unreadableInteger =>
    "Input should be a valid integer, unable to parse string as an integer"
  | oversizedInteger => "Unable to parse input string as an integer, exceeded maximum size"
  | fractionalInteger =>
    "Input should be a valid integer, got a number with a fractional part"
  | notFinite => "Input should be a finite number"
  | below least => ("Input should be greater than or equal to " : Text) ++ Text.ofInt least
  | above greatest => ("Input should be less than or equal to " : Text) ++ Text.ofInt greatest
  | notBoolean => "Input should be a valid boolean"
  | unreadableBoolean => "Input should be a valid boolean, unable to interpret input"
  | notOneOf choices => ("Input should be " : Text) ++ alternatives choices
  | notRecord name => ("Input should be a valid dictionary or instance of " : Text) ++ name
  | notDictionary => "Input should be a valid dictionary"
  | missing => "Field required"
  | unknownField => "Extra inputs are not permitted"
  | refused reason => ("Value error, " : Text) ++ reason

end Problem

/-- A problem, with the names of the fields that lead to it. -/
structure Issue where
  place : List Text
  problem : Problem
deriving DecidableEq, Repr

/-- A value, or all that is wrong with what should have been one. -/
inductive Checked (α : Type) where
  | valid (a : α)
  | invalid (issues : List Issue)
deriving Repr

namespace Checked

variable {α β γ : Type}

def fail (p : Problem) : Checked α := .invalid [⟨[], p⟩]

def issues : Checked α → List Issue
  | valid _ => []
  | invalid is => is

def map (f : α → β) : Checked α → Checked β
  | valid a => valid (f a)
  | invalid is => invalid is

/-- One check after another, the second only if the first one passed. -/
def andThen (c : Checked α) (f : α → Checked β) : Checked β :=
  match c with
  | valid a => f a
  | invalid is => invalid is

/-- Two checks beside each other, of which both report. -/
def zipWith (f : α → β → γ) : Checked α → Checked β → Checked γ
  | valid a, valid b => valid (f a b)
  | valid _, invalid js => invalid js
  | invalid is, valid _ => invalid is
  | invalid is, invalid js => invalid (is ++ js)

/-- Gives a function its next argument. -/
def ap (f : Checked (α → β)) (a : Checked α) : Checked β := zipWith (fun g x => g x) f a

/-- Says under which field the problems are. -/
def under (name : Text) : Checked α → Checked α
  | valid a => valid a
  | invalid is => invalid (is.map fun i => { i with place := name :: i.place })

end Checked

abbrev Check (α : Type) := Value → Checked α

/-- A field with a default for the case that it is not there. -/
def fieldOr {α : Type} (fields : Fields) (name : Text) (default : α) (check : Check α) :
    Checked α :=
  match fields.get? name with
  | some v => (check v).under name
  | none => .valid default

/-- A field that has to be there. -/
def field {α : Type} (fields : Fields) (name : Text) (check : Check α) : Checked α :=
  match fields.get? name with
  | some v => (check v).under name
  | none => .invalid [⟨[name], .missing⟩]

end BundleHost.Validation
