import LossCascade.Text.Case
import LossCascade.Text.Split

/-!
# Paths

A path is a sequence of parts divided by strokes. The ending of its last part says what a file
holds.
-/

namespace LossCascade.Path

/-- The parts of a path that name something; a single point stands for the place itself. -/
def parts (path : String) : List String :=
  (Text.split '/' path).filter fun part => part != "" && part != "."

/-- The last part of a path, if it names something. -/
def fileName? (path : String) : Option String :=
  match (parts path).getLast? with
  | some ".." | none => none
  | some name => some name

/-- The ending of a path behind the last point of its last part. A point in front of a name does not
begin an ending. -/
def ending (path : String) : String :=
  match fileName? path with
  | none => ""
  | some name =>
    let reversed := name.toList.reverse
    let ending := reversed.takeWhile (· != '.')
    match reversed.drop ending.length with
    | _ :: _ :: _ => String.ofList ending.reverse
    | _ => ""

/-- The ending of a path in lower case. -/
def lowerEnding (path : String) : String :=
  Text.lower (ending path)

end LossCascade.Path
