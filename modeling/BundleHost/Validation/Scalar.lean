import BundleHost.Text.Blank
import BundleHost.Text.Case
import BundleHost.Validation.Checked

/-! Checks of single values. Numbers and switches may be written as text, since that is the only
form in which an environment can hold them; texts are never made out of anything else. -/

namespace BundleHost.Validation

def checkText : Check Text
  | .text t => .valid t
  | _ => .fail .notText

def checkOptional {α : Type} (check : Check α) : Check (Option α)
  | .null => .valid none
  | v => (check v).map some

/-! ### Whole numbers -/

/-- The text from its first digit other than zero on. Zeros may have low lines between them, and
one zero is kept if no other digit comes. A minus sign may also stand after the zeros. -/
def dropZeros (t : Text) : Option Text :=
  let isFiller (c : Char) : Bool := c == '0' || c == '_'
  match t with
  | [] => none
  | first :: _ =>
    if first = '0' then
      let zeros := t.takeWhile isFiller
      match t.dropWhile isFiller with
      | [] => some (zeros.drop (zeros.length - 1))
      | c :: r =>
        if c = '.' then some (zeros.drop (zeros.length - 1) ++ c :: r)
        else if c.isDigit || c = '-' then some (c :: r)
        else none
    else if first.isDigit || first = '-' then some t
    else none

/-- A text without a point and the zeros after it, of which there is at least one. -/
def dropZeroFraction (t : Text) : Text :=
  let whole := t.takeWhile (· != '.')
  let fraction := t.drop (whole.length + 1)
  if fraction != [] && fraction.all (· == '0') then whole else t

/-- Whether low lines stand only between other characters, and no two of them together. -/
def spacesWell (t : Text) : Bool := (Text.split '_' t).all fun piece => !piece.isEmpty

/-- The text without its low lines, if they stand where they may. -/
def dropSpacing (t : Text) : Text := if spacesWell t then t.filter (· != '_') else t

/-- The plain form of a written whole number: what is allowed around and inside of it is gone. -/
def plainInteger (t : Text) : Option Text :=
  let bare := match Text.trim Text.isNumberBlank t with
    | '+' :: '-' :: _ => none
    | '+' :: r => some r
    | r => some r
  bare.bind fun t => match t with
    | '-' :: r => (dropZeros r).map fun r => '-' :: dropSpacing (dropZeroFraction r)
    | r => (dropZeros r).map fun r => dropSpacing (dropZeroFraction r)

def longestInteger : Nat := 4300

/-- A whole number in its plain form: no zero before other digits. Too many digits are too many
whatever comes after them. -/
def readPlain (t : Text) : Except Problem Int :=
  let digits := if t.head? = some '-' then t.drop 1 else t
  let read := digits.takeWhile Char.isDigit
  if read.head? != some '0' && longestInteger < read.length then .error .oversizedInteger
  else if read.isEmpty || read != digits || (read.head? = some '0' && read.length != 1) then
    .error .unreadableInteger
  else .ok (if t.head? = some '-' then -(Text.digitsValue read : Int) else Text.digitsValue read)

/-- A whole number as it is written: in its plain form, or so that its plain form can be had. Only
a text that has no need of that is too long; any other is no number. -/
def readInteger (t : Text) : Except Problem Int :=
  match readPlain t with
  | .error .unreadableInteger =>
    match (plainInteger t).map readPlain with
    | some (.ok n) => .ok n
    | _ => .error .unreadableInteger
  | read => read

/-- Whole numbers below this and above its opposite are exact in a machine word. -/
def wordLimit : Int := 9223372036854775808

def fitsWord (n : Int) : Bool := -wordLimit < n && n < wordLimit

def checkInteger : Check Int
  | .int n => .valid n
  | .bool b => .valid (if b then 1 else 0)
  | .real x =>
    if !x.isFinite then .fail .notFinite
    else match x.whole? with
    | some n => if fitsWord n then .valid n else .fail .oversizedInteger
    | none => .fail .fractionalInteger
  | .text t =>
    match readInteger t with
    | .ok n => .valid n
    | .error p => .fail p
  | _ => .fail .notInteger

def checkAtLeast (least : Int) : Check Int := fun v =>
  (checkInteger v).andThen fun n => if n < least then .fail (.below least) else .valid n

def checkBetween (least greatest : Int) : Check Int := fun v =>
  (checkAtLeast least v).andThen fun n => if greatest < n then .fail (.above greatest) else .valid n

/-! ### Switches -/

def onWords : List Text := ["1", "on", "t", "true", "y", "yes"]

def offWords : List Text := ["0", "off", "f", "false", "n", "no"]

def readSwitch (t : Text) : Option Bool :=
  let word := Text.lowerAscii t
  if onWords.contains word then some true
  else if offWords.contains word then some false
  else none

def switchOfInt (n : Int) : Checked Bool :=
  if n = 0 then .valid false else if n = 1 then .valid true else .fail .unreadableBoolean

def checkBool : Check Bool
  | .bool b => .valid b
  | .int n => if n = -wordLimit || fitsWord n then switchOfInt n else .fail .notBoolean
  | .real x =>
    match x.whole? with
    | some n => if fitsWord n then switchOfInt n else .fail .notBoolean
    | none => .fail .notBoolean
  | .text t =>
    match readSwitch t with
    | some b => .valid b
    | none => .fail .unreadableBoolean
  | _ => .fail .notBoolean

/-! ### Choices and records -/

/-- A value that is written with one of a few labels. -/
def checkChoice {α : Type} (choices : List α) (label : α → Text) : Check α := fun v =>
  let found := match v with
    | .text t => choices.find? fun a => label a = t
    | _ => none
  match found with
  | some a => .valid a
  | none => .fail (.notOneOf (choices.map label))

/-- A record under a name. Fields that the check does not ask for are passed over. -/
def checkRecord {α : Type} (name : Text) (check : Fields → Checked α) : Check α
  | .record fields => check fields
  | _ => .fail (.notRecord name)

def checkDictionary : Check Fields
  | .record fields => .valid fields
  | _ => .fail .notDictionary

end BundleHost.Validation
