namespace Highlighter.Path

/-- Drops what says nothing at the end of a path that is given backwards. -/
def trimBack : List Char → List Char
  | ['/'] => ['/']
  | '/' :: rest => trimBack rest
  | '.' :: '/' :: rest => trimBack ('/' :: rest)
  | path => path

/-- The last part of a path, if it is a name. -/
def fileName? (path : String) : Option String :=
  let part := ((trimBack path.toList.reverse).takeWhile (· ≠ '/')).reverse
  if part = [] || part = ['.'] || part = ['.', '.'] then none else some (String.ofList part)

/-- What follows the last dot of a file's name. A dot at its front does not count. -/
def extension? (path : String) : Option String := do
  let backwards := (← fileName? path).toList.reverse
  let extension := backwards.takeWhile (· ≠ '.')
  let stem := backwards.drop (extension.length + 1)
  if stem.isEmpty then none else some (String.ofList extension.reverse)

/-- The path without its last part. -/
def parent? (path : String) : Option String :=
  match trimBack path.toList.reverse with
  | [] | ['/'] => none
  | backwards => some (String.ofList (trimBack (backwards.dropWhile (· ≠ '/'))).reverse)

/-- A path that is taken from another one, unless it starts at the root. -/
def join (base path : String) : String :=
  if path.startsWith "/" then path
  else if base.isEmpty || base.endsWith "/" then base ++ path
  else base ++ "/" ++ path

/-- A path, and what is left of it after each of its last parts is taken away. -/
def ancestors : Nat → String → List String
  | 0, path => [path]
  | fuel + 1, path => path :: ((parent? path).map (ancestors fuel)).getD []

end Highlighter.Path
