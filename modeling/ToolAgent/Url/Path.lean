import ToolAgent.Url.Address
import ToolAgent.Url.Percent

/-!
# Paths of URLs

A path is percent-encoded, and its dot segments are resolved. Paths of files may begin with the
letter of a drive, above which no dot segment leads.
-/

namespace ToolAgent.Path

section Dots

/-- What follows a dot, which may be percent-encoded. -/
def afterDot? : List Char → Option (List Char)
  | '.' :: rest | '%' :: '2' :: 'e' :: rest | '%' :: '2' :: 'E' :: rest => some rest
  | _ => none

/-- Stays at the segment before it. -/
def isDot (segment : List Char) : Bool :=
  afterDot? segment = some []

/-- Goes up one segment. -/
def isDoubleDot (segment : List Char) : Bool :=
  (afterDot? segment).any isDot

end Dots

section Drives

def isDriveMark (c : Char) : Bool :=
  c = ':' || c = '|'

/-- The letter of a drive and a mark, and nothing else. -/
def isDrive : List Char → Bool
  | [letter, mark] => letter.isAlpha && isDriveMark mark
  | _ => false

/-- The letter of a drive and a mark, perhaps with a backslash after them. -/
def beginsWithDrive : List Char → Bool
  | letter :: mark :: rest =>
    letter.isAlpha && isDriveMark mark && (rest.isEmpty || rest.head? = some '\\')
  | _ => false

/-- A drive is marked by a colon. -/
def normalDrive (segment : List Char) : List Char :=
  segment.take 1 ++ [':']

end Drives

/-- The segments, backwards, without the last one, which is kept if it may be a drive. -/
def ascend : List (List Char) → List (List Char)
  | [] => []
  | last :: above => if beginsWithDrive last then last :: above else above

/-- Resolves dot segments; `done` are the segments so far, backwards. A dot segment at the end
leaves an empty one. -/
def resolve (isFile : Bool) (done : List (List Char)) : List (List Char) → List (List Char)
  | [] => done.reverse
  | segment :: rest =>
    if isDoubleDot segment || isDot segment then
      let done := if isDoubleDot segment then ascend done else done
      resolve isFile (if rest.isEmpty then [] :: done else done) rest
    else
      let isFirstDrive := isFile && done.isEmpty && isDrive segment
      resolve isFile ((if isFirstDrive then normalDrive segment else segment) :: done) rest

/-- The segments of a path without the slash that it begins with. -/
def segments (isFile : Bool) (isSlash : Char → Bool) (cs : List Char) : List (List Char) :=
  resolve isFile [] ((splitAt isSlash cs).map (Percent.encode Percent.inPath))

/-- The text of segments, each after a slash. -/
def written (segments : List (List Char)) : String :=
  String.ofList (segments.flatMap ('/' :: ·))

/-- What follows the letter and colon of a drive is a segment of its own, even without a slash. -/
def driveApart : List (List Char) → List (List Char)
  | (letter :: ':' :: c :: cs) :: rest =>
    if letter.isAlpha then [letter, ':'] :: (c :: cs) :: rest
    else (letter :: ':' :: c :: cs) :: rest
  | segments => segments

/-- The text of a path of a file, which begins with a single slash. -/
def writtenFile (segments : List (List Char)) : String :=
  String.ofList ('/' :: ((driveApart segments).flatMap ('/' :: ·)).dropWhile (· = '/'))

end ToolAgent.Path
