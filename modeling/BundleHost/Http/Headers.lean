import BundleHost.Text.Blank
import BundleHost.Text.Case

/-! Header fields, in the order in which they are sent. Names are compared without regard to
letter case, and one name may occur more than once. -/

namespace BundleHost

abbrev Headers := List (Text × Text)

namespace Headers

def sameName (a b : Text) : Bool := Text.lower a == Text.lower b

/-- The headers with their names in small letters. -/
def ofList (fields : List (Text × Text)) : Headers :=
  fields.map fun field => (Text.lower field.1, field.2)

def get? (h : Headers) (name : Text) : Option Text :=
  (h.find? fun field => sameName field.1 name).map Prod.snd

def contains (h : Headers) (name : Text) : Bool := h.any fun field => sameName field.1 name

def values (h : Headers) (name : Text) : List Text :=
  (h.filter fun field => sameName field.1 name).map Prod.snd

def erase (h : Headers) (name : Text) : Headers := h.filter fun field => !sameName field.1 name

/-- Gives the first header of a name a value and drops the others, or adds one at the end. -/
def set (h : Headers) (name value : Text) : Headers :=
  match h with
  | [] => [(Text.lower name, value)]
  | (n, v) :: rest =>
    if sameName n name then (Text.lower name, value) :: erase rest name
    else (n, v) :: set rest name value

/-- Adds a header at the end, unless there is one of the name. -/
def setNew (h : Headers) (name value : Text) : Headers :=
  if contains h name then h else h ++ [(Text.lower name, value)]

/-- Names one more request header on which the answer depends. -/
def addVary (h : Headers) (name : Text) : Headers :=
  match get? h "vary" with
  | some value => set h "vary" (value ++ (", " : Text) ++ name)
  | none => set h "vary" name

theorem contains_eq_isEmpty_values (h : Headers) (name : Text) :
    contains h name = !(values h name).isEmpty := by
  induction h with
  | nil => rfl
  | cons field rest ih =>
    simp only [contains, values, List.any_cons, List.filter_cons] at ih ⊢
    by_cases hn : sameName field.1 name <;> simp [hn, ih]

end Headers
end BundleHost
