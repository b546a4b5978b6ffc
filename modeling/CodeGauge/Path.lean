/-
Module: CodeGauge.Path
Purpose: Slash-separated paths as texts.
Main exports:
  Path.clean, Path.join, Path.base, Path.extension
-/
import CodeGauge.Text.Split

namespace CodeGauge.Path

open CodeGauge.Text

/-!
A path is a text whose elements are separated by slashes; it is rooted if it begins with one.  The
shortest equivalent path has no empty element, no `.`, and no `..` behind an element that it would
cancel; a rooted path has no `..` at all, because the root is its own parent.
-/

/-- One element of a path. -/
abbrev Element := List Char

/-- Add an element to the elements kept so far, of which the last one comes first. -/
def push (rooted : Bool) (kept : List Element) (element : Element) : List Element :=
  if element = [] ∨ element = ['.'] then kept
  else if element = ['.', '.'] then
    match kept with
    | [] => if rooted then [] else [element]
    | last :: others => if last = ['.', '.'] then element :: kept else others
  else element :: kept

/-- Whether a path begins at the root. -/
def isRooted (path : String) : Bool := path.toList.head? == some '/'

/-- The elements of the shortest equivalent path. -/
def elements (path : String) : List Element :=
  ((split '/' path.toList).foldl (push (isRooted path)) []).reverse

/-- The shortest equivalent path; a path without elements is the root or the current directory. -/
def clean (path : String) : String :=
  let body := Text.join ['/'] (elements path)
  if isRooted path then String.ofList ('/' :: body)
  else if body.isEmpty then "."
  else String.ofList body

/-- Join paths with slashes, leaving out empty ones, and clean the result; nothing joined is the
empty path. -/
def join (paths : List String) : String :=
  match paths.filter (fun p => !p.isEmpty) with
  | [] => ""
  | present => clean (String.ofList (Text.join ['/'] (present.map String.toList)))

/-- The characters behind the last slash. -/
def lastElement (path : List Char) : Element :=
  (path.reverse.takeWhile (fun c => c != '/')).reverse

/-- The last element of a path, slashes at the end left aside; the empty path gives `.`, a path of
slashes alone gives `/`. -/
def base (path : String) : String :=
  if path.isEmpty then "."
  else
    let stripped := (path.toList.reverse.dropWhile (fun c => c == '/')).reverse
    if stripped.isEmpty then "/" else String.ofList (lastElement stripped)

/-- The text from the last point of the last element on; empty if it has no point. -/
def extension (path : String) : String :=
  let element := lastElement path.toList
  if element.contains '.' then
    String.ofList ('.' :: (element.reverse.takeWhile (fun c => c != '.')).reverse)
  else ""

end CodeGauge.Path
