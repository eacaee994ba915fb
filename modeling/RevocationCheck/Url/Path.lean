import RevocationCheck.Url.Percent

/-!
# Paths

A hierarchical path is a list of segments.  Segments of one or two dots are resolved while the
path is read: one dot stays in the directory, two leave it.  A drive letter is never left.
-/

namespace RevocationCheck.Url.Path

/-- Is a segment one dot, possibly encoded? -/
def isSingleDot (segment : List Char) : Bool :=
  [".", "%2e"].contains (String.ofList (segment.map Char.toLower))

/-- Is a segment two dots, possibly encoded? -/
def isDoubleDot (segment : List Char) : Bool :=
  ["..", ".%2e", "%2e.", "%2e%2e"].contains (String.ofList (segment.map Char.toLower))

/-- Is a segment a letter followed by a colon or a bar? -/
def isDriveLetter : List Char → Bool
  | [letter, mark] => letter.isAlpha && (mark = ':' || mark = '|')
  | _ => false

/-- A path without its last segment, unless that is a drive letter. -/
def shorten (path : List (List Char)) : List (List Char) :=
  match path.getLast? with
  | none => path
  | some last => if isDriveLetter last then path else path.dropLast

/-- Resolve segments behind a path that is already resolved.  In a file path a drive letter in
front is written with a colon. -/
def resolveOnto (isFile : Bool) (path : List (List Char)) : List (List Char) → List (List Char)
  | [] => path
  | segment :: rest =>
    let atEnd := rest.isEmpty
    let path :=
      if isDoubleDot segment then
        if atEnd then shorten path ++ [[]] else shorten path
      else if isSingleDot segment then
        if atEnd then path ++ [[]] else path
      else
        match isFile && path.isEmpty && isDriveLetter segment, segment with
        | true, [letter, _] => [[letter, ':']]
        | _, _ => path ++ [segment]
    resolveOnto isFile path rest

/-- The resolved segments of a path, which are percent-encoded first.  A file path loses empty
segments in front. -/
def resolve (isFile : Bool) (segments : List (List Char)) : List (List Char) :=
  let path := resolveOnto isFile [] (segments.map (Percent.encode Percent.inPath))
  if isFile then
    match path.dropWhile List.isEmpty with
    | [] => [[]]
    | path => path
  else path

/-- The text of a path: a slash in front of each segment. -/
def text (path : List (List Char)) : List Char := path.flatMap ('/' :: ·)

end RevocationCheck.Url.Path
