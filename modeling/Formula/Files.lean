/-!
# Files

A path is read name by name, from the root if it starts with a slash and from the working directory otherwise.

* `Files.text?` : the text of the file that a path leads to, or why it leads to none.
* `FileError.message` : what the system says of a file that cannot be read.
-/

namespace Formula

/-- Why a file cannot be read. -/
inductive FileError
  | notFound
  | noDevice
  | permissionDenied
  | notADirectory
  | isADirectory
  | nameTooLong
  | tooManyLinks
  | notText
  | other (code : Nat) (text : String)
  deriving DecidableEq, Repr

namespace FileError

/-- The words of the system and the number that it gives to the refusal. -/
def coded (text : String) (code : Nat) : String := text ++ " (os error " ++ toString code ++ ")"

def message : FileError → String
  | notFound => coded "No such file or directory" 2
  | noDevice => coded "No such device or address" 6
  | permissionDenied => coded "Permission denied" 13
  | notADirectory => coded "Not a directory" 20
  | isADirectory => coded "Is a directory" 21
  | nameTooLong => coded "File name too long" 36
  | tooManyLinks => coded "Too many levels of symbolic links" 40
  | notText => "stream did not contain valid UTF-8"
  | other code text => coded text code

/-- The refusal of a number; the words are those of a number without a name of its own. -/
def ofCode (code : Nat) (text : String) : FileError :=
  match code with
  | 2 => notFound
  | 6 => noDevice
  | 13 => permissionDenied
  | 20 => notADirectory
  | 21 => isADirectory
  | 36 => nameTooLong
  | 40 => tooManyLinks
  | _ => other code text

end FileError

/-- Directories and texts, each under its names from the root on, and the directory where the paths start that have no
slash in front. The root is a directory without being listed. -/
structure Files where
  directories : List (List String)
  texts : List (List String × String)
  working : List String
  deriving DecidableEq, Repr

namespace Files

/-- What every system has: directories for devices and for temporary files, and an empty file. The working directory is
one that no path can name, since no path has a name without characters. -/
def standard : Files where
  directories := [["dev"], ["tmp"], [""]]
  texts := [(["dev", "null"], "")]
  working := [""]

/-- The files with one more in front. -/
def add (names : List String) (text : String) (files : Files) : Files :=
  { files with texts := (names, text) :: files.texts }

/-- The most bytes that a name can have. -/
def greatestName : Nat := 255

/-- The most bytes that a path can have. -/
def greatestPath : Nat := 4095

/-- The text at the end of the names that lead on from a directory. An empty name and a dot stay there, two dots go up,
and the root is above itself. A name is only looked at where it stands in a directory. -/
def follow (files : Files) : List String → List String → Except FileError String
  | _, [] => .error .isADirectory
  | directory, name :: rest =>
    if name = "" ∨ name = "." then files.follow directory rest
    else if name = ".." then files.follow directory.dropLast rest
    else if greatestName < name.utf8ByteSize then .error .nameTooLong
    else
      let place := directory ++ [name]
      match files.texts.lookup place with
      | some text => if rest = [] then .ok text else .error .notADirectory
      | none => if place ∈ files.directories then files.follow place rest else .error .notFound

/-- The path of names from the root on. -/
def pathOf (names : List String) : String := "/" ++ "/".intercalate names

/-- The names of a path: what stands between its slashes. -/
def namesOf (path : String) : List String := (path.toList.splitOn '/').map String.ofList

/-- The text of the file that a path leads to. An empty path leads nowhere. -/
def text? (files : Files) (path : String) : Except FileError String :=
  if path = "" then .error .notFound
  else if greatestPath < path.utf8ByteSize then .error .nameTooLong
  else files.follow (if path.toList.head? = some '/' then [] else files.working) (namesOf path)

end Files

end Formula
