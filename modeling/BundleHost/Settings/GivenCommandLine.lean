import BundleHost.Settings.Check
import BundleHost.Settings.CommandLine
import BundleHost.Settings.Options
import BundleHost.Text.Identifier
import BundleHost.Value.Numeric
import BundleHost.Value.Use

/-! The command line that options describe: which arguments there are, how the options for the
settings are written, and what is done about a mistake. -/

namespace BundleHost.Settings.GivenCommandLine

/-! ### Spellings -/

/-- What stands before the names of settings: names with full stops between them. -/
def nameStart (given : Fields) : Except Failure Text :=
  match option? given "_cli_prefix" with
  | none => .ok []
  | some (.text []) => .ok []
  | some (.text t) =>
    if t.head? != some '.' && t.getLast? != some '.' && Text.isIdentifier (t.filter (· != '.')) then
      .ok (t ++ ['.'])
    else .error (.source .unnamed)
  | some v => .error (if v.holds then .lacking [] else .wrongType [])

def marks (given : Fields) : Except Failure Text :=
  match option? given "_cli_flag_prefix_char" with
  | none => .ok ['-']
  | some (.text []) => .error (.source .unwritten)
  | some (.text t) => .ok t
  | some _ => .error (.wrongType [])

def hyphenated (name : Text) : Text := name.map fun c => if c = '_' then '-' else c

/-- An option as it is written: one mark before a single letter, and two before a longer name. -/
def spelled (marks name : Text) : Text := (marks ++ marks).take name.length ++ name

def shortcutOf : Value → Except Failure Text
  | .text [] => .error (.source .unwritten)
  | .text t => .ok t
  | _ => .error (.wrongType [])

/-- The further names under the name of an option. -/
def shortcutsOf : Value → Except Failure (List Text)
  | .text t => (shortcutOf (.text t)).map ([·])
  | v => do (← v.elements).mapM shortcutOf

def shortcuts (given : Fields) (name : Text) : Except Failure (List Text) :=
  match option? given "_cli_shortcuts" with
  | some (.record fs) => do
    let named := fs.filter fun f => f.1 = name || f.1 = hyphenated name
    return (← named.mapM fun f => shortcutsOf f.2).flatten
  | some v => if v.holds then .error (.lacking []) else .ok []
  | none => .ok []

/-! ### Options -/

def noStart : Text := "--no-"

/-- Whether an option without a value says yes. -/
def saysYes (spelling : Text) : Bool := !noStart.isPrefixOf spelling

/-- The options of a yes-or-no setting that take no value: one for each answer, or only that for
yes. -/
def answers (onlyYes : Bool) (setting spelling : Text) : List (Text × CommandLine.Effect) :=
  if onlyYes then [(spelling, .turns setting true)]
  else
    let no := if CommandLine.separator.isPrefixOf spelling then
      [(noStart ++ spelling.drop 2, CommandLine.Effect.turns setting false)] else []
    (spelling, .turns setting (saysYes spelling)) :: no

def yesNoNames : List Text := ["api_only"]

/-- The options of a setting under one spelling. -/
def effects (given : Fields) (setting spelling : Text) : List (Text × CommandLine.Effect) :=
  if yesNoNames.contains setting && isOn given "_cli_implicit_flags" then
    let onlyYes := match option? given "_cli_implicit_flags" with
      | some (.text t) => t = "toggle".toList
      | _ => false
    answers onlyYes setting spelling
  else [(spelling, .takes setting)]

def optionsOf (given : Fields) (start marks setting : Text) :
    Except Failure (List (Text × CommandLine.Effect)) := do
  let name := start ++ setting
  let more ← shortcuts given name
  let shown := if isOn given "_cli_kebab_case" then hyphenated name else name
  return (shown :: more).flatMap fun n => effects given setting (spelled marks n)

def helpOptions (marks : Text) : List (Text × CommandLine.Effect) :=
  let mark := if marks.contains '-' then '-' else (marks.head?).getD '-'
  [([mark, 'h'], .help), (mark :: mark :: "help".toList, .help)]

/-- Adds the options of a setting, of which none may be there already. -/
def addOptions (known more : List (Text × CommandLine.Effect)) :
    Except Failure (List (Text × CommandLine.Effect)) :=
  if more.any fun o => (known.lookup o.1).isSome then .error (.source .clashingOptions)
  else .ok (known ++ more)

def grammar (given : Fields) : Except Failure CommandLine := do
  let start ← nameStart given
  let marks ← marks given
  let options ← names.foldlM (fun known setting => do
    addOptions known (← optionsOf given start marks setting)) (helpOptions marks)
  return { marks, options }

/-! ### Arguments -/

/-- Whether the letter case of options counts: always, unless it is said plainly that it does not.-/
def isExact (given : Fields) : Bool :=
  match option? given "_case_sensitive" with
  | none => false
  | some (.bool b) => b
  | some _ => true

/-- An argument. One that counts as a no is empty, unless letter case counts and all arguments have
to be known. -/
def argumentOf (given : Fields) : Value → Except Failure Text
  | .text t => .ok t
  | v =>
    if v.holds || (isExact given && !isOn given "_cli_ignore_unknown_args") then
      .error (.wrongType [])
    else .ok []

/-- The arguments, if there are any to be read. A plain yes means those of the program, of which
there are none. -/
def arguments (given : Fields) : Except Failure (Option (List Text)) :=
  match option? given "_cli_parse_args" with
  | none => .ok none
  | some (.bool true) => .ok (some [])
  | some (.list items) => (items.mapM (argumentOf given)).map some
  | some v =>
    if !v.holds && v.number?.isSome then .ok none else .error (.source .noCommandLine)

def nothing (given : Fields) : Option Text :=
  match option? given "_cli_parse_none_str" with
  | some (.text (c :: r)) => some (c :: r)
  | v =>
    if v.any Value.holds then none
    else match option? given "_cli_avoid_json" with
      | some (.bool true) => some "None"
      | _ => some "null"

def mistake (given : Fields) : Failure :=
  .source (if ((option? given "_cli_exit_on_error").map Value.holds).getD true then .ended
    else .badArguments)

def failureOf (given : Fields) : CommandLine.Error → Failure
  | .mistaken => mistake given
  | .helpAsked => .source .ended

/-- What arguments say about the settings. -/
def read (given : Fields) (l : CommandLine) (arguments : List Text) : Except Failure Fields := do
  let arguments := if isExact given then arguments
    else arguments.map (CommandLine.lowerOption l.marks)
  let (found, more) ← (l.read none arguments).mapError (failureOf given)
  if !more.isEmpty && !isOn given "_cli_ignore_unknown_args" then throw (mistake given)
  let nothing := nothing given
  return found.foldl (fun fs f =>
    let v := match f.2 with
      | .text t => if nothing = some t then .null else .text t
      | other => other
    fs.put f.1 v) []

/-- The settings that the command line gives. -/
def values (given : Fields) : Except Failure Fields :=
  match option? given "_cli_parse_args" with
  | none => .ok []
  | some _ => do
    let l ← grammar given
    match ← arguments given with
    | none => return []
    | some as => read given l as

end BundleHost.Settings.GivenCommandLine
