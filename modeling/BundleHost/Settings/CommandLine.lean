import BundleHost.Text.Blank
import BundleHost.Text.Case
import BundleHost.Value.Basic

/-! A command line that gives settings. Every setting has an option that takes a value, which stands
behind an equals sign or in the next argument; settings that are a yes or a no may have options
without a value instead. An option of one letter may have its value, or further such options, right
behind the letter. Of several values of a setting the last one counts. -/

namespace BundleHost.Settings

namespace CommandLine

/-- What an option does. -/
inductive Effect
  | takes (setting : Text)
  | turns (setting : Text) (on : Bool)
  | help
deriving DecidableEq, Repr

/-- A step that an argument asks for. -/
inductive Step
  | gives (setting : Text) (value : Text)
  /-- The value is to follow in the next argument. -/
  | awaits (setting : Text)
  | turns (setting : Text) (on : Bool)
  | help
  /-- Nothing, because there is no option of that letter. -/
  | passes (rest : Text)
deriving DecidableEq, Repr

/-- Text in the argument of an option, after its spelling. -/
structure Attached where
  isAssigned : Bool
  text : Text
deriving DecidableEq, Repr

/-- What an argument is. -/
inductive Argument
  /-- An option, perhaps with text that is attached to it. One of a single letter comes with its
  mark. -/
  | known (effect : Effect) (mark : Option Char) (attached : Option Attached)
  | unknown
  | plain
deriving DecidableEq, Repr

inductive Error
  | mistaken
  | helpAsked
deriving DecidableEq, Repr

end CommandLine

/-- The options of a command line under their spellings, and the characters with which they start.-/
structure CommandLine where
  marks : Text := ['-']
  options : List (Text × CommandLine.Effect) := []

namespace CommandLine

/-- The argument after which there are no more options. -/
def separator : Text := ['-', '-']

def isMark (l : CommandLine) (c : Char) : Bool := l.marks.contains c

def mark? (l : CommandLine) : Text → Option Char
  | mark :: c :: _ => if l.isMark c then none else some mark
  | _ => none

/-- Whether a text is a minus sign with a number behind it. -/
def isNegativeNumber (t : Text) : Bool :=
  match Text.dropLastBreak t with
  | '-' :: r =>
    let rest := r.dropWhile Char.isDigit
    if rest.isEmpty then !r.isEmpty
    else rest.head? = some '.' && 1 < rest.length && (rest.drop 1).all Char.isDigit
  | _ => false

def hasNumericOption (l : CommandLine) : Bool := l.options.any fun o => isNegativeNumber o.1

/-- The spelling before the first equals sign, and the text after it. -/
def atEquals? (a : Text) : Option (Text × Text) :=
  let spelling := a.takeWhile (· != '=')
  match a.drop spelling.length with
  | [] => none
  | _ :: value => some (spelling, value)

/-- The option with a value behind an equals sign that an argument is. -/
def assigned? (l : CommandLine) (a : Text) : Option Argument :=
  (atEquals? a).bind fun p =>
    (l.options.lookup p.1).map fun effect => .known effect (l.mark? p.1) (some ⟨true, p.2⟩)

def short? (l : CommandLine) (a : Text) : Option Argument :=
  (l.mark? a).bind fun mark =>
    (l.options.lookup (a.take 2)).map fun effect =>
      .known effect (some mark) (some ⟨false, a.drop 2⟩)

def argument (l : CommandLine) (a : Text) : Argument :=
  if !(a.head?.any l.isMark) then .plain
  else match l.options.lookup a with
    | some effect => .known effect (l.mark? a) none
    | none =>
      if a.length = 1 then .plain
      else match (l.assigned? a).or (l.short? a) with
        | some found => found
        | none =>
          if isNegativeNumber a && !l.hasNumericOption then .plain
          else if a.contains ' ' then .plain
          else .unknown

def Effect.step : Effect → Step
  | takes setting => .awaits setting
  | turns setting on => .turns setting on
  | help => .help

/-- The steps of a letter that takes no value, with further letters behind it. -/
def letters (l : CommandLine) (mark : Char) (isAssigned : Bool) :
    Effect → Text → Except Error (List Step)
  | .takes setting, t => .ok [.gives setting t]
  | _, [] => .error .mistaken
  | flag, c :: r =>
    if isAssigned || l.isMark c then .error .mistaken
    else match l.options.lookup [mark, c] with
      | none => .ok [flag.step, .passes (mark :: c :: r)]
      | some next =>
        match r with
        | [] => .ok [flag.step, next.step]
        | '=' :: r => (l.letters mark true next r).map (flag.step :: ·)
        | d :: r => (l.letters mark false next (d :: r)).map (flag.step :: ·)

/-- The steps of an option with text attached to it. -/
def steps (l : CommandLine) (effect : Effect) (mark : Option Char) :
    Option Attached → Except Error (List Step)
  | none => .ok [effect.step]
  | some attached =>
    match effect, mark with
    | .takes setting, _ => .ok [.gives setting attached.text]
    | _, some mark => l.letters mark attached.isAssigned effect attached.text
    | _, none => .error .mistaken

def isValue (l : CommandLine) (a : Text) : Bool := a != separator && l.argument a = .plain

/-- The setting that steps leave without its value. -/
def waiting? (steps : List Step) : Option Text :=
  steps.findSome? fun
    | .awaits setting => some setting
    | _ => none

/-- Ends the reading where help is asked for, unless there is a mistake in the same argument. -/
def checkHelp (l : CommandLine) (steps : List Step) (rest : List Text) : Except Error Unit :=
  if !steps.contains .help then .ok ()
  else if (waiting? steps).isNone || (rest.head?.any l.isValue) then .error .helpAsked
  else .error .mistaken

def given (steps : List Step) : Fields :=
  steps.filterMap fun
    | .gives setting t => some (setting, .text t)
    | .turns setting on => some (setting, .bool on)
    | _ => none

def passed (steps : List Step) : List Text :=
  steps.filterMap fun
    | .passes t => some t
    | _ => none

/-- What the arguments give, and those that are no part of any option. A setting may wait for its
value. -/
def read (l : CommandLine) : Option Text → List Text → Except Error (Fields × List Text)
  | none, [] => .ok ([], [])
  | some _, [] => .error .mistaken
  | some setting, a :: rest =>
    if l.isValue a then
      (l.read none rest).map fun found => ((setting, .text a) :: found.1, found.2)
    else .error .mistaken
  | none, a :: rest =>
    if a = separator then .ok ([], a :: rest)
    else match l.argument a with
      | .known effect mark attached => do
        let steps ← l.steps effect mark attached
        l.checkHelp steps rest
        (l.read (waiting? steps) rest).map fun found =>
          (given steps ++ found.1, passed steps ++ found.2)
      | _ => (l.read none rest).map fun found => (found.1, a :: found.2)

/-! ### Letter case -/

/-- An argument with its option in small letters. What comes after a line break in the rest of
it is lost. -/
def lowerOption (mark : Text) (a : Text) : Text :=
  let rest := a.drop mark.length
  let spelling := rest.takeWhile fun c => !Text.isBlank c && c != '='
  if mark.isPrefixOf a && !spelling.isEmpty then
    Text.lower (mark ++ spelling) ++ (rest.drop spelling.length).takeWhile (· != '\n')
  else a

end CommandLine
end BundleHost.Settings
