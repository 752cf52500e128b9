/-!
# Paths of Addresses

The path of an address is straightened while it is read: a segment of one dot is
left out, and one of two dots takes away the segment in front of it. A dot may
be written as its number. A segment that looks like the letter of a drive is
never taken away.

## Main definitions

* `Manner`: What a scheme lets paths look like.
* `isDot`, `isDoubleDot`: The segments of one and of two dots.
* `closeSegment`: What a path becomes when a segment of it is complete.
* `readPath`: Reads a path up to a question mark or a number sign.
-/

namespace Rulebook
namespace Database
namespace Address

/-- What a scheme lets paths look like. -/
inductive Manner where
  /-- Backslashes are ordinary characters. -/
  | opaquely
  /-- Backslashes separate segments, as slashes do. -/
  | net
  /-- As in the net, and a path may start with the letter of a drive. -/
  | file
  deriving DecidableEq, Repr

/-- Whether a character separates segments. -/
def Manner.separates (manner : Manner) (c : Char) : Bool :=
  c = '/' || (c = '\\' && manner ≠ .opaquely)

/-- A segment with dots for their numbers. -/
def plainDots : List Char → List Char
  | '%' :: '2' :: 'e' :: rest | '%' :: '2' :: 'E' :: rest => '.' :: plainDots rest
  | c :: rest => c :: plainDots rest
  | [] => []

/-- Whether a segment is one dot. -/
def isDot (segment : List Char) : Bool :=
  plainDots segment = ['.']

/-- Whether a segment is two dots. -/
def isDoubleDot (segment : List Char) : Bool :=
  plainDots segment = ['.', '.']

/-- Whether a text starts with the letter of a drive and a mark behind it. -/
def startsWithDrive : List Char → Bool
  | letter :: mark :: rest =>
    letter.isAlpha && (mark = ':' || mark = '|') &&
      (rest.isEmpty || rest.head?.any (['/', '\\', '?', '#'].contains ·))
  | _ => false

/-- Whether a segment is the letter of a drive and a mark. -/
def isDrive (segment : List Char) : Bool :=
  segment.length = 2 && startsWithDrive segment

/-- Whether a segment is the letter of a drive and a colon. -/
def isColonDrive (segment : List Char) : Bool :=
  isDrive segment && segment.getLast? = some ':'

/-- How long a path is up to its last slash, that one included. -/
def lengthToSlash (path : List Char) : Nat :=
  path.length - (path.reverse.takeWhile (· ≠ '/')).length

/-- A path without the slash at its end, if a segment other than the letter of a
    drive stands in front of that. -/
def withoutSlash (path : List Char) : List Char :=
  let front := path.dropLast
  let lastSegment := path.drop (lengthToSlash front)
  if path.getLast? = some '/' ∧ '/' ∈ front ∧ ¬ startsWithDrive lastSegment then front else path

/-- A path without its last segment. -/
def withoutSegment (manner : Manner) (path : List Char) : List Char :=
  let n := lengthToSlash path
  if manner = .file ∧ (isColonDrive path ∨ isColonDrive (path.drop n)) then path else path.take n

/-- A path with a slash at its end. -/
def withSlash (path : List Char) : List Char :=
  if path.getLast? = some '/' then path else path ++ ['/']

/-- What a path becomes when the segment from a place on is complete. `slash`
    says that a slash has been read behind it. -/
def closeSegment (manner : Manner) (start : Nat) (slash : Bool) (path : List Char) : List Char :=
  let front := path.take start
  let segment := path.drop start
  if isDoubleDot segment then
    let path := withoutSegment manner (withoutSlash front)
    if slash then withSlash path else path
  else if isDot segment then withSlash front
  else
    let segment := if manner = .file ∧ isDrive segment then segment.take 1 ++ [':'] else segment
    front ++ segment ++ if slash then ['/'] else []

/-- Reads a path up to a question mark or a number sign, behind what has been
    read of it. `start` is where the segment in reading starts. -/
def readPath (manner : Manner) (path : List Char) (start : Nat) :
    List Char → List Char × List Char
  | [] => (closeSegment manner start false path, [])
  | c :: rest =>
    if manner.separates c then
      let path := closeSegment manner start true path
      readPath manner path path.length rest
    else if c = '?' ∨ c = '#' then (closeSegment manner start false path, c :: rest)
    else if manner = .file ∧ isColonDrive (path.drop 1) then
      readPath manner (path ++ ['/', c]) (start + 1) rest
    else readPath manner (path ++ [c]) start rest

end Address
end Database
end Rulebook
