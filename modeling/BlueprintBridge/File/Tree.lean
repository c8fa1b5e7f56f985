import BlueprintBridge.Text.Utf8

/-!
A tree of files, and what reading a path in it gives.

A path is resolved part by part; what goes wrong first is what is reported. Directories can be
opened but not read.
-/

namespace BlueprintBridge

set_option autoImplicit false

/-- Why a file cannot be read as a text. -/
inductive FileError where
  | notFound
  | notADirectory
  | isADirectory
  | nameTooLong
  | zeroInName
  | notUtf8
deriving DecidableEq, Repr

def FileError.message : FileError → String
  | notFound => "No such file or directory (os error 2)"
  | notADirectory => "Not a directory (os error 20)"
  | isADirectory => "Is a directory (os error 21)"
  | nameTooLong => "File name too long (os error 36)"
  | zeroInName => "file name contained an unexpected NUL byte"
  | notUtf8 => "stream did not contain valid UTF-8"

/-- A file with its bytes, or a directory with what it holds. -/
inductive FileTree where
  | file (bytes : List UInt8)
  | directory (entries : List (String × FileTree))

namespace FileTree

/-- The longest name of a file, in bytes. -/
def longestName : Nat := 255

/-- The longest path, in bytes. -/
def longestPath : Nat := 4095

/-- The node that some names lead to from a node, whose ancestors are given, the nearest first. -/
def walk (ancestors : List FileTree) (node : FileTree) : List String → Except FileError FileTree
  | [] => .ok node
  | name :: rest =>
    match node with
    | .file _ => .error .notADirectory
    | .directory entries =>
      if name = "" || name = "." then walk ancestors node rest
      else if name = ".." then
        match ancestors with
        | parent :: ancestors => walk ancestors parent rest
        | [] => walk [] node rest
      else if name.utf8ByteSize > longestName then .error .nameTooLong
      else
        match entries.find? fun entry => entry.1 = name with
        | some entry => walk (node :: ancestors) entry.2 rest
        | none => .error .notFound

/-- The bytes of the file at a path; one that does not start at the root starts at a directory
below it. -/
def read (root : FileTree) (workingDirectory : List FileTree × FileTree) (path : String) :
    Except FileError (List UInt8) :=
  if path.toList.contains '\x00' then .error .zeroInName
  else if path = "" then .error .notFound
  else if path.utf8ByteSize > longestPath then .error .nameTooLong
  else
    let names := path.splitOn "/"
    let found := if path.startsWith "/" then walk [] root names
      else walk workingDirectory.1 workingDirectory.2 names
    match found with
    | .ok (.file bytes) => .ok bytes
    | .ok (.directory _) => .error .isADirectory
    | .error e => .error e

def textOf (bytes : List UInt8) : Except FileError String :=
  match Text.decodeUtf8 bytes with
  | .ok text => .ok text
  | .error _ => .error .notUtf8

def emptyDirectory : FileTree := .directory []

/-- The directories every machine of the bridge has, and the empty device. -/
def standard : FileTree :=
  .directory
    [("bin", .directory []), ("boot", .directory []), ("dev", .directory [("null", .file [])]),
      ("etc", .directory []), ("home", .directory []), ("lib", .directory []),
      ("media", .directory []), ("mnt", .directory []), ("opt", .directory []),
      ("proc", .directory []), ("root", .directory []), ("run", .directory []),
      ("sbin", .directory []), ("srv", .directory []), ("sys", .directory []),
      ("tmp", .directory []), ("usr", .directory []), ("var", .directory [])]

end FileTree

end BlueprintBridge
