import ModalKeymap.FileSystem

/-!
# Locations

Where a file is, as a person writes it: names between slashes, from the
working directory or from the root of everything.  Empty names and single dots
say nothing; a double dot leads back up, which is only known once the
directories on the way are.
-/

namespace ModalKeymap

/-- A location as written. -/
structure Location where
  /-- The slashes in front: none, one, or exactly two. -/
  root : String
  names : List String
  deriving DecidableEq, Repr

namespace Location

/-- The location that a text writes. -/
def ofText (text : String) : Location :=
  let slashes := (text.toList.takeWhile (· = '/')).length
  { root :=
      if slashes = 0 then "" else if slashes = 2 then "//" else "/"
    names := ((text.toList.splitOn '/').map String.ofList).filter
      fun name => !name.isEmpty && name ≠ "." }

/-- A location in text, without what says nothing. -/
def display (location : Location) : String :=
  if location.root.isEmpty && location.names.isEmpty then
    "."
  else
    location.root ++ "/".intercalate location.names

/-- The directory that a location is in. -/
def parent (location : Location) : Location :=
  { location with names := location.names.dropLast }

/-- The last name of a location; none for a root or the working directory. -/
def name (location : Location) : String :=
  location.names.getLastD ""

/-- The most bytes that a location may have. -/
def sizeLimit : Nat := 4095

/-- Whether a location has more bytes than a system call takes. -/
def isTooLong (location : Location) : Bool :=
  sizeLimit < location.display.utf8ByteSize

/-- Whether no name holds the null character, which no system call takes. -/
def isUsable (location : Location) : Bool :=
  location.names.all fun name => !name.toList.contains '\x00'

end Location

namespace FileSystem

/--
The path that names lead to from a directory.  Every name but the last has
to lead to a directory, and from the root a double dot leads nowhere else.
-/
def follow? (files : FileSystem) (from_ : FilePath) :
    List String → Option FilePath
  | [] => some from_
  | name :: rest =>
      if !files.isDirectory from_ then
        none
      else if name = ".." then
        follow? files from_.dropLast rest
      else
        follow? files (from_ ++ [name]) rest

/-- The path that a location leads to. -/
def resolve? (files : FileSystem) (location : Location) : Option FilePath :=
  if location.isTooLong then
    none
  else if location.root.isEmpty then
    files.follow? files.working location.names
  else
    files.follow? [] location.names

end FileSystem

end ModalKeymap
