import ServiceExposure.Url.Percent

/-! # Paths of URLs

A path is a sequence of segments, each after a slash. Dot segments are resolved while it is read. -/

namespace ServiceExposure.Url.Path

def isOneDot (segment : List Char) : Bool :=
  String.ofList segment ∈ [".", "%2e", "%2E"]

def isTwoDots (segment : List Char) : Bool :=
  String.ofList segment ∈ ["..", "%2e%2e", "%2e%2E", "%2E%2e", "%2E%2E", "%2e.", "%2E.",
    ".%2e", ".%2E"]

/-- A letter with a colon or a bar, which names a drive. A backslash that is part of the segment may
end the name. -/
def namesDrive (segment : List Char) : Bool :=
  match segment with
  | letter :: mark :: rest =>
    letter.isAlpha && (mark = ':' || mark = '|') && rest.head?.all (· = '\\')
  | _ => false

/-- The segments, last one first, that two dots lead to: all but the last one, but no drive is
left. -/
def parent : List (List Char) → List (List Char)
  | [] => []
  | last :: before => if namesDrive last then last :: before else before

/-- Adds a segment to those before it, of which the last comes first. A dot segment at the end
leaves an empty segment behind. -/
def addSegment (before : List (List Char)) (segment : List Char) (isLast : Bool) :
    List (List Char) :=
  if isTwoDots segment then if isLast then [] :: parent before else parent before
  else if isOneDot segment then if isLast then [] :: before else before
  else segment :: before

def resolveFrom (before : List (List Char)) : List (List Char) → List (List Char)
  | [] => before.reverse
  | segment :: rest => resolveFrom (addSegment before segment rest.isEmpty) rest

/-- Resolves the dot segments. -/
def resolve (segments : List (List Char)) : List (List Char) := resolveFrom [] segments

def write (segments : List (List Char)) : List Char :=
  segments.flatMap fun segment => '/' :: segment

/-- The segments of a text after the first slash; where `special` holds, a backslash separates them
as well. -/
def segments (special : Bool) (cs : List Char) : List (List Char) :=
  Text.splitChars '/' (if special then cs.map fun c => if c = '\\' then '/' else c else cs)

/-- The path that follows the first slash. -/
def afterSlash (special : Bool) (cs : List Char) : List Char :=
  write (resolve ((segments special cs).map (percentEncode escapedInPath)))

/-! ## Files -/

/-- Tabs and line ends, which are no part of a URL. -/
def isGap (c : Char) : Bool := c = '\t' || c = '\n' || c = '\r'

def withoutGaps (cs : List Char) : List Char := cs.filter (!isGap ·)

/-- A letter with a colon, or a bar that stands for one. -/
def isDrive (segment : List Char) : Bool :=
  match segment with
  | [letter, mark] => letter.isAlpha && (mark = ':' || mark = '|')
  | _ => false

/-- A drive that a gap sets off from the rest of its segment, and that rest. -/
def cutDrive? (segment : List Char) : Option (List Char × List Char) :=
  match segment.dropWhile isGap with
  | letter :: afterLetter =>
    match afterLetter.dropWhile isGap with
    | ':' :: gap :: rest =>
      if letter.isAlpha && isGap gap && rest.any (!isGap ·) then
        some ([letter, ':'], withoutGaps rest)
      else none
    | _ => none
  | [] => none

/-- The path of a file while it is read. -/
structure FilePath where
  /-- The segments, last one first. -/
  segments : List (List Char) := []
  /-- Whether a drive came first. -/
  hasDrive : Bool := false
deriving DecidableEq, Repr

namespace FilePath

/-- Adds a segment in which gaps still stand. A drive that comes first is written with a colon. One
that a gap sets off is a segment of its own, and the rest of its segment another one, whatever it
is. -/
def add (p : FilePath) (segment : List Char) (isLast : Bool) : FilePath :=
  let encoded := percentEncode escapedInPath (withoutGaps segment)
  if p.segments.isEmpty then
    match cutDrive? segment with
    | some (drive, rest) => { p with segments := [percentEncode escapedInPath rest, drive] }
    | none =>
      if isDrive encoded then { segments := [encoded.take 1 ++ [':']], hasDrive := true }
      else { p with segments := addSegment [] encoded isLast }
  else { p with segments := addSegment p.segments encoded isLast }

def addAll (p : FilePath) : List (List Char) → FilePath
  | [] => p
  | segment :: rest => (p.add segment rest.isEmpty).addAll rest

/-- Reads the path of a file after its first slash. -/
def read (cs : List Char) : FilePath := addAll {} (Path.segments true cs)

/-- A path of a file has no empty segments at its start. -/
def write (p : FilePath) : List Char :=
  match p.segments.reverse.dropWhile List.isEmpty with
  | [] => ['/']
  | rest => Path.write rest

example : (read "C|/../a".toList).write = "/C:/a".toList := by decide +kernel
example : (read "C:\n..".toList).write = "/C:/..".toList := by decide +kernel
example : (read "/C|/..".toList).write = "/C|/".toList := by decide +kernel

end FilePath

end ServiceExposure.Url.Path
