/-!
# Reserved names

Within a file every name belongs to the first record that reserves it.

* `Reservations` — the names taken in one file, with `Reservations.reserve`.
* `ReservationsByFile` — the names taken in several files, each with names of its own.
-/

namespace ComponentSurvey

/-- The names taken in one file, in the order they were reserved. -/
structure Reservations where
  names : List String
deriving DecidableEq, Repr, Inhabited

namespace Reservations

/-- No name is taken. -/
def empty : Reservations := ⟨[]⟩

/-- Whether a name is taken. -/
def has (taken : Reservations) (name : String) : Bool := taken.names.contains name

/-- Reserves a name: whether it was free, and the names taken afterwards. -/
def reserve (taken : Reservations) (name : String) : Bool × Reservations :=
  if taken.has name then (false, taken) else (true, ⟨taken.names ++ [name]⟩)

end Reservations

/-- The names taken in several files, by the paths of the files. -/
abbrev ReservationsByFile := List (String × Reservations)

namespace ReservationsByFile

/-- Reserves a name in a file: whether it was free there, and the names taken afterwards. -/
def reserve (files : ReservationsByFile) (path name : String) : Bool × ReservationsByFile :=
  match files with
  | [] =>
    let (free, taken) := Reservations.empty.reserve name
    (free, [(path, taken)])
  | (known, taken) :: rest =>
    if known = path then
      let (free, taken) := taken.reserve name
      (free, (known, taken) :: rest)
    else
      let (free, rest) := reserve rest path name
      (free, (known, taken) :: rest)

/-- The names taken in a file, in increasing order. -/
def namesIn (files : ReservationsByFile) (path : String) : List String :=
  ((files.lookup path).getD Reservations.empty).names.mergeSort fun a b => a ≤ b

end ReservationsByFile

end ComponentSurvey
