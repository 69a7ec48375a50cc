/-! Sorting where not every question about the order of two things has an answer. The things are
taken up one after another. Those at the start that go on in one direction are in order already,
or in the opposite order; each of the others is put in its place among those before it by halving.
A question without an answer ends the sorting, and the questions come in an order of their own,
so that it is always the same question that ends it. -/

namespace BundleHost.Sorting

variable {α ε : Type}

/-- How many things go on in the direction of a first one, each of them less than the one before if
the direction is down. -/
def runAfter (less : α → α → Except ε Bool) (down : Bool) (last : α) : List α → Except ε Nat
  | [] => .ok 0
  | a :: rest => do
    if (← less a last) == down then
      let n ← runAfter less down a rest
      return n + 1
    else return 0

/-- The place of a thing among the sorted ones from `low` on and below `high`, behind those that it
is not less than. -/
def placeOf (less : α → α → Except ε Bool) (a : α) (sorted : List α) (low high : Nat) :
    Except ε Nat :=
  if _ : low < high then
    let middle := low + (high - low) / 2
    match sorted[middle]? with
    | none => .ok low
    | some b =>
      match less a b with
      | .error e => .error e
      | .ok true => placeOf less a sorted low middle
      | .ok false => placeOf less a sorted (middle + 1) high
  else .ok low
termination_by high - low

/-- Puts things in their places among sorted ones, one after another. -/
def insertAll (less : α → α → Except ε Bool) (sorted : List α) : List α → Except ε (List α)
  | [] => .ok sorted
  | a :: rest => do
    let n ← placeOf less a sorted 0 sorted.length
    insertAll less (sorted.take n ++ a :: sorted.drop n) rest

def sort (less : α → α → Except ε Bool) : List α → Except ε (List α)
  | a :: b :: rest => do
    let down ← less b a
    let n ← runAfter less down b rest
    let run := a :: b :: rest.take n
    insertAll less (if down then run.reverse else run) (rest.drop n)
  | few => .ok few

end BundleHost.Sorting
