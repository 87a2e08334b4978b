/-
# ScopeTable.Console.Files -- reading the file of a program

A path is followed name by name, starting from a directory that holds some files. What is read are bytes,
and bytes are a text if they are UTF-8.
-/

namespace ScopeTable.Console

/-- Why a file cannot be read. -/
inductive ReadError where
  | notFound
  | notADirectory
  | isADirectory
  | nameTooLong
  | nullInPath
  | notUtf8
  | other (words : String)
  deriving DecidableEq, Repr

/-- The words of the operating system, or of the text encoding. -/
def ReadError.message : ReadError → String
  | notFound => "No such file or directory (os error 2)"
  | notADirectory => "Not a directory (os error 20)"
  | isADirectory => "Is a directory (os error 21)"
  | nameTooLong => "File name too long (os error 36)"
  | nullInPath => "file name contained an unexpected NUL byte"
  | notUtf8 => "stream did not contain valid UTF-8"
  | other words => words

/-- The text that bytes spell. -/
def readText (contents : Except ReadError ByteArray) : Except ReadError String := do
  match String.fromUTF8? (← contents) with
  | some text => .ok text
  | none => .error .notUtf8

/-- A directory that holds files and nothing else. Around it nothing is known but that its ancestors are
directories. -/
structure Directory where
  files : List (String × ByteArray)

/-- Where a path has led so far: to the directory itself, above it, or to a file. -/
inductive Place where
  | here
  | above
  | file (bytes : ByteArray)

namespace Directory

/-- The place that a path leads to by one more name. -/
def follow (directory : Directory) (place : Place) (name : String) : Except ReadError Place :=
  match place with
  | .file _ => .error .notADirectory
  | place =>
    if name = "" ∨ name = "." then .ok place
    else if name = ".." then .ok .above
    else if 255 < name.utf8ByteSize then .error .nameTooLong
    else
      match place, directory.files.lookup name with
      | .here, some bytes => .ok (.file bytes)
      | _, _ => .error .notFound

/-- The bytes of the file that a path leads to. -/
def read (directory : Directory) (path : String) : Except ReadError ByteArray := do
  if path.toList.contains '\x00' then .error .nullInPath
  else if 4096 ≤ path.utf8ByteSize then .error .nameTooLong
  else
    let start := if path.toList.head? = some '/' then Place.above else .here
    match ← (path.splitOn "/").foldlM directory.follow start with
    | .file bytes => .ok bytes
    | _ => .error .isADirectory

end Directory

end ScopeTable.Console
