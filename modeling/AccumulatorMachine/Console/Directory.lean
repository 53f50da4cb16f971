import AccumulatorMachine.Console.Path
import AccumulatorMachine.Source.Span

/-!
# Directories as values

A `Directory` is the content of the directory that commands work in: files,
each under a path from there. Directories below it exist as far as files lie in
them. Of the world around it only the directories above it and the root are
known, and what was written there.

A place is a path without detours: the components that lead down to it from the
directory, from a directory above it, which takes a `..` for each level, or
from the root, which is an empty component in front. Reading and writing follow
a path component by component, and fail where a component leads nowhere, has
too long a name, or leads through a file. A file that is written need not be
there yet, so its own name is looked at last.
-/

namespace AccumulatorMachine

/-- A reason why a file cannot be read or written. -/
inductive FileFault
  /-- Nothing is there. -/
  | notFound
  /-- A file stands where the path goes on. -/
  | notADirectory
  /-- A directory stands where a file should be. -/
  | isADirectory
  /-- The path, or a name in it, is longer than any can be. -/
  | nameTooLong
  /-- The content of the file is no text. -/
  | notText
  /-- Something else went wrong. -/
  | other (description : String)
  deriving DecidableEq

namespace FileFault

/-- What went wrong, in words. -/
def message : FileFault → String
  | notFound => "No such file or directory (os error 2)"
  | notADirectory => "Not a directory (os error 20)"
  | isADirectory => "Is a directory (os error 21)"
  | nameTooLong => "File name too long (os error 36)"
  | notText => "stream did not contain valid UTF-8"
  | other description => description

end FileFault

/-- The content of a directory. -/
structure Directory where
  /-- The files with their paths from this directory. -/
  files : List (String × List UInt8)
  deriving DecidableEq

namespace Directory

/-- The path to a place. -/
def join (place : List (List Char)) : String :=
  String.ofList (Text.joinWith '/' place)

/-- The content of the file under a path from the directory. -/
def file? (directory : Directory) (path : String) : Option (List UInt8) :=
  directory.files.lookup path

/-- Whether a place is the directory itself or one above it. -/
def isAbove (place : List (List Char)) : Bool :=
  place.all (· == ['.', '.'])

/-- Whether a place is the root. -/
def isRoot (place : List (List Char)) : Bool :=
  place == [[]]

/-- Whether there is a directory at a place. -/
def isFolder (directory : Directory) (place : List (List Char)) : Bool :=
  isAbove place || isRoot place || directory.files.any fun file =>
    (join place ++ "/").toList.isPrefixOf file.1.toList

/-- The place of the directory around the one at a place. The root is around itself. -/
def parent (place : List (List Char)) : List (List Char) :=
  if isAbove place then place ++ [['.', '.']]
  else if isRoot place then place
  else place.dropLast

/-- Follows components from a place. Every component but the last must lead to a
directory. -/
def follow (directory : Directory) (here : List (List Char)) :
    List (List Char) → Except FileFault (List (List Char))
  | [] => .ok here
  | part :: parts =>
    if directory.isFolder here then
      if part = [] ∨ part = ['.'] then directory.follow here parts
      else if part = ['.', '.'] then directory.follow (parent here) parts
      else if Text.byteLength part > Path.maxNameBytes then .error .nameTooLong
      else directory.follow (here ++ [part]) parts
    else if (directory.file? (join here)).isSome then .error .notADirectory
    else .error .notFound

/-- The place to which the components of a path lead. With an empty one in front
of others, the path begins at the root. -/
def locate (directory : Directory) (path : List (List Char)) :
    Except FileFault (List (List Char)) :=
  match path with
  | [] :: part :: parts => directory.follow [[]] (part :: parts)
  | _ => directory.follow [] path

/-- The content of the file that a path leads to. -/
def read (directory : Directory) (path : String) : Except FileFault (List UInt8) :=
  if path.utf8ByteSize > Path.maxBytes then .error .nameTooLong
  else
    match directory.locate (Path.components path) with
    | .error fault => .error fault
    | .ok place =>
      if directory.isFolder place then .error .isADirectory
      else
        match directory.file? (join place) with
        | some content => .ok content
        | none => .error .notFound

/-- The directory with a file under a path from it, new or in place of the old one. -/
def store (directory : Directory) (path : String) (content : List UInt8) : Directory :=
  if (directory.file? path).isSome then
    ⟨directory.files.map fun file => if file.1 = path then (path, content) else file⟩
  else ⟨directory.files ++ [(path, content)]⟩

/-- The directory after a file of a name was written to the place of a folder. -/
def writeAt (directory : Directory) (folder : List (List Char)) (name : List Char)
    (content : List UInt8) : Except FileFault Directory :=
  if Text.byteLength name > Path.maxNameBytes then .error .nameTooLong
  else if directory.isFolder (folder ++ [name]) then .error .isADirectory
  else .ok (directory.store (join (folder ++ [name])) content)

/-- The directory after a file was written where a path leads. The path up to
its last name must lead to a directory. A path that ends in a slash or a dot can
only mean a directory, whether there is one or not. -/
def write (directory : Directory) (path : String) (content : List UInt8) :
    Except FileFault Directory :=
  if path.utf8ByteSize > Path.maxBytes then .error .nameTooLong
  else
    match Path.splitLast? path with
    | none => .error .isADirectory
    | some (around, name) =>
      match directory.locate (around ++ [[]]) with
      | .error fault => .error fault
      | .ok folder =>
        if Path.endsInSlash path ∨ name = ['.'] ∨ name = ['.', '.'] then .error .isADirectory
        else directory.writeAt folder name content

/-- Whether a path from the directory leads down from it. -/
def isOwn (path : String) : Bool :=
  match (Path.components path).head? with
  | none => false
  | some first => first != [] && first != ['.', '.']

/-- The files in the directory and below it. -/
def ownFiles (directory : Directory) : List (String × List UInt8) :=
  directory.files.filter fun file => isOwn file.1

end Directory

end AccumulatorMachine
