import SlideDeck.Error

/-!
# Series in files

A series is read from a text file. What enters the error of a file is the first fault alone; warnings
are of no consequence.
-/

namespace SlideDeck.Series

/-- The series in a file. -/
def load (files : File.Tree) (path : File.Path) : Except Error Series :=
  match files.read path with
  | .error cause => .error (.notFound path cause)
  | .ok contents =>
    match contents.utf8? with
    | none => .error (.dataFormat path .seriesNotText)
    | some text =>
      match (ofText text).1 with
      | .ok series => .ok series
      | .error fault => .error (.dataFormat path (.series fault))

end SlideDeck.Series
