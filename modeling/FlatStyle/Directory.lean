import FlatStyle.Text.Split

/-!
A directory whose files are held in memory, and the reading of the file that a path leads to. A path
is followed name by name from the directory; what lies outside of it is not known and counts as
missing.
-/

namespace FlatStyle

open Text

inductive ReadError where
  | missing
  | notDirectory
  | directory
  | nameTooLong
  | notUtf8
  | other (reason : String)

def ReadError.message : ReadError → String
  | .missing => "No such file or directory (os error 2)"
  | .notDirectory => "Not a directory (os error 20)"
  | .directory => "Is a directory (os error 21)"
  | .nameTooLong => "File name too long (os error 36)"
  | .notUtf8 => "stream did not contain valid UTF-8"
  | .other reason => reason

def decodeFile (bytes : ByteArray) : Except ReadError String :=
  match String.fromUTF8? bytes with
  | some text => .ok text
  | none => .error .notUtf8

structure Directory where
  files : List (List String × ByteArray)

namespace Directory

/-- A place that a path has led to. -/
inductive Place where
  /-- The directory itself or one inside it, by the names that lead there, innermost first. -/
  | inside (names : List String)
  /-- A directory around it. -/
  | outside
  | file (bytes : ByteArray)

def longestName : Nat := 255

def longestPath : Nat := 4095

def names (path : String) : List String := (fields (· == '/') path.toList).map String.ofList

def ofFiles (files : List (String × ByteArray)) : Directory :=
  ⟨files.map fun file => (names file.1, file.2)⟩

def child (d : Directory) (place : Place) (name : String) : Except ReadError Place :=
  match place with
  | .file _ => .error .notDirectory
  | .outside => if name = "" || name = "." || name = ".." then .ok .outside else missing name
  | .inside parents =>
      if name = "" || name = "." then .ok (.inside parents)
      else if name = ".." then
        match parents with
        | [] => .ok .outside
        | _ :: parents => .ok (.inside parents)
      else
        let names := (name :: parents).reverse
        match d.files.find? (·.1 == names) with
        | some file => .ok (.file file.2)
        | none =>
            if d.files.any fun file => names.isPrefixOf file.1 then .ok (.inside (name :: parents))
            else missing name
where
  missing (name : String) : Except ReadError Place :=
    .error (if name.utf8ByteSize > longestName then .nameTooLong else .missing)

/-- The place that a path leads to. A path that begins with a slash starts outside. -/
def find (d : Directory) (path : String) : Except ReadError Place :=
  if path.utf8ByteSize > longestPath then .error .nameTooLong
  else
    match names path with
    | [""] => .error .missing
    | "" :: names => names.foldlM d.child .outside
    | names => names.foldlM d.child (.inside [])

def read (d : Directory) (path : String) : Except ReadError String := do
  match ← d.find path with
  | .file bytes => decodeFile bytes
  | .inside _ => .error .directory
  | .outside => .error .directory

end Directory

end FlatStyle
