import AccumulatorMachine.Text.Split

/-!
# File paths

A path is a list of components between slashes. Its extension is what follows
the last dot of its last component, unless that dot is the first character:
a file whose name only begins with a dot has no extension.

`Path.withExtension` puts another extension in place of that of a path. One kind
of path has no such other: where the name is two dots and an extension, the path
without the extension is that of a directory, and remains so.
-/

namespace AccumulatorMachine

namespace Path

/-- The bytes that a path can have. -/
def maxBytes : Nat := 4095

/-- The bytes that one component of a path can have. -/
def maxNameBytes : Nat := 255

/-- The components of a path. Two slashes in a row have an empty one between them. -/
def components (path : String) : List (List Char) :=
  Text.splitOn '/' path.toList

/-- Whether the path ends in a slash. -/
def endsInSlash (path : String) : Bool :=
  path.toList.getLast? == some '/'

/-- The last component of a path that is not empty, and the components in front
of it. A path of slashes alone has none. -/
def splitLast? (path : String) : Option (List (List Char) × List Char) :=
  match (components path).reverse.dropWhile List.isEmpty with
  | [] => none
  | last :: before => some (before.reverse, last)

/-- The name of the file or directory that a path leads to, if its last
component is a name. -/
def fileName? (path : String) : Option (List Char) :=
  let named := (components path).filter fun part => part != [] && part != ['.']
  match named.getLast? with
  | none => none
  | some name => if name = ['.', '.'] then none else some name

/-- The part of a file name in front of its last dot and the part behind it. -/
def splitName? (name : List Char) : Option (List Char × List Char) :=
  match (Text.splitOn '.' name).getLast?, (Text.splitOn '.' name).dropLast with
  | some extension, stem :: stems =>
    let front := Text.joinWith '.' (stem :: stems)
    if front.isEmpty then none else some (front, extension)
  | _, _ => none

/-- The extension of a path. -/
def extension? (path : String) : Option String :=
  match (fileName? path).bind splitName? with
  | some (_, extension) => some (String.ofList extension)
  | none => none

/-- The path, which ends in a file name, with another extension in place of its
own, or behind it if it has none. Where only the two dots of the directory above
are left without the extension, nothing is put behind them. -/
def withExtension (path extension : String) : String :=
  match (fileName? path).bind splitName? with
  | some (stem, old) =>
    let front := String.ofList (path.toList.take (path.toList.length - old.length))
    if stem = ['.'] then front else front ++ extension
  | none => path ++ "." ++ extension

end Path

end AccumulatorMachine
