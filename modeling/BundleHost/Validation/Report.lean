import BundleHost.Text.Excerpt
import BundleHost.Validation.Checked
import BundleHost.Value.Display

/-! The text about data that does not pass its check, as it is written to the log: how much is
wrong, and for each problem where it is, what is expected, and what was given instead. -/

namespace BundleHost.Validation

/-! ### Data that came in -/

def explanations : Text := "https://errors.pydantic.dev/2.14/v/"

def shownOctets : Nat := 50

/-- The lines about a problem with a value. -/
def Issue.lines (i : Issue) (given : Value) : Text :=
  '\n' :: Text.join ['.'] i.place ++ ("\n  " : Text) ++ i.problem.message ++
    (" [type=" : Text) ++ i.problem.label ++
    (", input_value=" : Text) ++ Text.excerpt shownOctets given.display ++
    (", input_type=" : Text) ++ given.typeName ++
    ("]\n    For further information visit " : Text) ++ explanations ++ i.problem.label

def countText (n : Nat) : Text :=
  Text.ofNat n ++ if n = 1 then (" validation error for " : Text) else " validation errors for "

/-- The text about all problems of data under a name, each with the value that has it. -/
def report (name : Text) (found : List (Issue × Value)) : Text :=
  countText found.length ++ name ++ found.flatMap fun f => f.1.lines f.2

/-! ### Data that was to go out -/

def itemLine (place : Nat) (item : Value) : Text :=
  ("  \x7b'type': " : Text) ++ Text.quoted Problem.notText.label ++
    (", 'loc': ('response', " : Text) ++ Text.ofNat place ++ ("), 'msg': " : Text) ++
    Text.quoted Problem.notText.message ++ (", 'input': " : Text) ++ item.display ++ ['\x7d']

/-- The lines about the items of an answer that are no texts, from the item at a place on. -/
def itemLines (place : Nat) : List Value → List Text
  | [] => []
  | .text _ :: rest => itemLines (place + 1) rest
  | item :: rest => itemLine place item :: itemLines (place + 1) rest

/-- The text about an answer that was to be a list of texts. -/
def answerReport (items : List Value) : Text :=
  let lines := itemLines 0 items
  Text.ofNat lines.length ++
    (if lines.length = 1 then (" validation error:\n" : Text) else " validation errors:\n") ++
    Text.join "\n" lines

end BundleHost.Validation
