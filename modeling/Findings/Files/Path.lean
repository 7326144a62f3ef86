/-!
# Paths

A path is a text of components between slashes. It is absolute if it begins with a slash. Empty
components and single dots mean nothing, except for a dot that begins a path.
-/
namespace Findings.Files

/-- Whether a path begins at the root. -/
def isAbsolute (path : String) : Bool := path.toList.head? == some '/'

/-- A path below another; an absolute one replaces it. -/
def join (base child : String) : String :=
  if isAbsolute child then child
  else if base.isEmpty || base.toList.getLast? == some '/' then base ++ child
  else base ++ "/" ++ child

def splitSlashes : List Char → List (List Char)
  | [] => [[]]
  | '/' :: rest => [] :: splitSlashes rest
  | c :: rest =>
    match splitSlashes rest with
    | first :: later => (c :: first) :: later
    | [] => [[c]]

/-- The components of a path that mean something to the directories on its way. -/
def components (path : String) : List String :=
  ((splitSlashes path.toList).map String.ofList).filter fun name => name != "" && name != "."

def endsInDot (path : String) : Bool :=
  ((splitSlashes path.toList).filter (!·.isEmpty)).getLast? == some ['.']

/-- Whether a path can only name a directory because of how it ends. -/
def namesDirectory (path : String) : Bool :=
  path.toList.getLast? == some '/' || endsInDot path

/-- A reversed path without the slashes and the meaningless dots at its end. -/
def trimEnd : List Char → List Char
  | '/' :: rest => trimEnd rest
  | '.' :: '/' :: rest => trimEnd ('/' :: rest)
  | reversed => reversed

/-- The path of the directory that holds a path; a single component lies in the empty path, and
the root and the empty path lie in none. -/
def parent? (path : String) : Option String :=
  let last := trimEnd path.toList.reverse
  if last.isEmpty then none
  else
    let above := last.dropWhile (· != '/')
    let kept := trimEnd above
    if kept.isEmpty && !above.isEmpty && isAbsolute path then some "/"
    else some (String.ofList kept.reverse)

/-- What a path is taken for where a store is opened: a file, or a store that has no file and
lives as long as its handle. -/
inductive Target where
  | file (path : String)
  | own
  deriving DecidableEq

/-- Whether a path is read as an address. -/
def isAddress (path : String) : Bool := "file:".toList.isPrefixOf path.toList

/-- Whether a path names no file, so that a store is opened in memory. -/
def isPrivate (path : String) : Bool := path == "" || path == ":memory:"

end Findings.Files
