import BundleHost.Bundle.FileSystem

/-! Homes in paths to what settings are read from. A path that starts with a tilde starts at the
home of a person: of the one who runs the program, for which the environment may name another place,
or of the one whose name follows. -/

namespace BundleHost.Settings

open BundleHost.Bundle (FileSystem Way)

def fileName : Text := ".env"

def knownHome (fs : FileSystem) (person : Text) : Except Failure Way :=
  match fs.homes.lookup person with
  | some place => .ok ⟨true, place⟩
  | none => .error (.breakdown [])

/-- The home of a person, or of the one who runs the program, who has no name here and for whom the
environment may name a place. -/
def homeOf (fs : FileSystem) (place : Option Text) (person : Text) : Except Failure Way :=
  if person.isEmpty then
    match place with
    | none => knownHome fs person
    | some ('~' :: _) => .error (.breakdown [])
    | some [] => .ok { fromTop := true }
    | some t => .ok (.ofText t)
  else if person.contains Bundle.zero then .error (.badValue [])
  else knownHome fs person

/-- The path with a home in place of a tilde in front. -/
def expanded (fs : FileSystem) (place : Option Text) (w : Way) : Except Failure Way :=
  match w.fromTop, w.names with
  | false, ('~' :: person) :: rest =>
    (homeOf fs place person).map fun home => { home with names := home.names ++ rest }
  | _, _ => .ok w

end BundleHost.Settings
