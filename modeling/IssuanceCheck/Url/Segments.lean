import IssuanceCheck.Url.Basic
import IssuanceCheck.Url.Percent

namespace IssuanceCheck.Url

def isSlash (special : Bool) (c : Char) : Bool := c == '/' || (special && c == '\\')

def isQueryOrFragment (c : Char) : Bool := c == '?' || c == '#'

def isDriveLetter : List Char → Bool
  | [a, b] => a.isAlpha && (b == ':' || b == '|')
  | _ => false

def isNormalDriveLetter (cs : List Char) : Bool := isDriveLetter cs && cs.getLast? == some ':'

def startsWithDriveLetter (cs : List Char) : Bool :=
  isDriveLetter (cs.take 2) &&
    (match cs.drop 2 with
      | [] => true
      | c :: _ => isSlash true c || isQueryOrFragment c)

def isSingleDot (cs : List Char) : Bool :=
  cs == ['.'] || cs.map Char.toLower == ['%', '2', 'e']

def isDoubleDot (cs : List Char) : Bool :=
  match cs with
  | '.' :: rest => isSingleDot rest
  | a :: b :: c :: rest => isSingleDot [a, b, c] && isSingleDot rest
  | _ => false

/-- Takes the last segment away, but never a drive letter. -/
def shorten (segments : List (List Char)) : List (List Char) :=
  if segments.getLast?.any isDriveLetter then segments else segments.dropLast

/-- What a segment does to the segments before it. One dot stands for nothing and two dots for a
step up; at the end of a path either leaves an empty segment. The first segment of a file path may
be a drive letter, whose bar becomes a colon. -/
def addSegment (kind : Kind) (segments : List (List Char)) (segment : List Char) (isLast : Bool) :
    List (List Char) :=
  let encoded := percentEncode isPathEscaped segment
  if isDoubleDot encoded then
    if isLast then shorten segments ++ [[]] else shorten segments
  else if isSingleDot encoded then
    if isLast then segments ++ [[]] else segments
  else if kind = .file && segments.isEmpty && isDriveLetter encoded then
    [encoded.take 1 ++ [':']]
  else segments ++ [encoded]

def readSegments (kind : Kind) (segments : List (List Char)) (segment : List Char) :
    List Char → List (List Char) × List Char
  | [] => (addSegment kind segments segment.reverse true, [])
  | c :: rest =>
      if isQueryOrFragment c then (addSegment kind segments segment.reverse true, c :: rest)
      else if isSlash kind.isSpecial c then
        readSegments kind (addSegment kind segments segment.reverse false) [] rest
      else readSegments kind segments (c :: segment) rest

def normalizeFile (segments : List (List Char)) : List (List Char) :=
  match segments.dropWhile List.isEmpty with
  | [] => [[]]
  | segments => segments

def readPath (kind : Kind) (segments : List (List Char)) (cs : List Char) :
    Path × List Char :=
  let (segments, rest) := readSegments kind segments [] cs
  let segments := if kind = .file then normalizeFile segments else segments
  (.rooted (segments.map String.ofList), rest)

end IssuanceCheck.Url
