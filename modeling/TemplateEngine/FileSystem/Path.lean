/-!
# Paths

A path is a text whose components are separated by slashes. Two paths denote
the same place by their components; empty components and dots count for nothing
there, except for a dot that a relative path starts with.
-/

namespace TemplateEngine.Path

/-- The pieces between slashes. -/
def splitSlash : List Char → List (List Char)
  | [] => [[]]
  | c :: rest =>
    if c = '/' then [] :: splitSlash rest
    else
      match splitSlash rest with
      | [] => [[c]]
      | piece :: pieces => (c :: piece) :: pieces

/-- All pieces of a path, also the empty ones. -/
def segments (path : String) : List String := (splitSlash path.toList).map String.ofList

def isAbsolute (path : String) : Bool := path.toList.head? == some '/'

/-- A piece that stays where it is. -/
def isIdle (segment : String) : Bool := segment == "" || segment == "."

/-- The place, as names from the root, that one more piece leads to. -/
def follow (place : List String) (segment : String) : List String :=
  if isIdle segment then place
  else if segment = ".." then place.dropLast
  else place ++ [segment]

/-- The components by which paths are compared, `/` for the root. -/
def components (path : String) : List String :=
  let proper := (segments path).filter fun segment => !isIdle segment
  if isAbsolute path then "/" :: proper
  else if (segments path).head? = some "." then "." :: proper
  else proper

/-- Whether two paths have the same components. -/
def same (a b : String) : Bool := components a == components b

/-- The path of a name below a directory; an absolute name stands for itself. -/
def join (directory name : String) : String :=
  if isAbsolute name || directory == "" then name
  else if directory.toList.getLast? = some '/' then directory ++ name
  else directory ++ "/" ++ name

/-- Whether a name stays below the directory that it is joined to: it is not
empty, and neither the root nor the way upwards is among its components. -/
def isConfined (name : String) : Bool :=
  name != "" && (components name).all fun component => component != "/" && component != ".."

theorem splitSlash_ne_nil (cs : List Char) : splitSlash cs ≠ [] := by
  cases cs with
  | nil => simp [splitSlash]
  | cons c rest =>
    simp only [splitSlash]
    split
    · simp
    · split <;> simp

theorem splitSlash_append_slash (xs ys : List Char) :
    splitSlash (xs ++ '/' :: ys) = splitSlash xs ++ splitSlash ys := by
  induction xs with
  | nil => simp [splitSlash]
  | cons x xs ih =>
    by_cases h : x = '/'
    · simp [splitSlash, h, ih]
    · simp only [List.cons_append, splitSlash, h, if_false, ih]
      cases e : splitSlash xs with
      | nil => exact absurd e (splitSlash_ne_nil xs)
      | cons piece pieces => simp

end TemplateEngine.Path
