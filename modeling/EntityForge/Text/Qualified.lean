/-!
Qualified names: dotted names whose last segment is the simple name and the rest the package.
-/

namespace EntityForge.Qualified

/-- The last dotted segment of a name. -/
def simpleName (name : String) : String :=
  String.ofList (name.toList.reverse.takeWhile (· ≠ '.')).reverse

/-- Everything before the last dot; empty for a name without one. -/
def packageName (name : String) : String :=
  String.ofList ((name.toList.reverse.dropWhile (· ≠ '.')).drop 1).reverse

/-- The segments of a text between occurrences of a separator; there is always one. `current` and
`done` are reversed. -/
def splitFrom (separator : Char) (current : List Char) (done : List (List Char)) :
    List Char → List (List Char)
  | [] => (current.reverse :: done).reverse
  | c :: rest =>
    if c = separator then splitFrom separator [] (current.reverse :: done) rest
    else splitFrom separator (c :: current) done rest

/-- The segments of a text between occurrences of a separator. -/
def split (separator : Char) (s : String) : List String :=
  (splitFrom separator [] [] s.toList).map String.ofList

end EntityForge.Qualified
