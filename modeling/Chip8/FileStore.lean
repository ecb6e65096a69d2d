import Chip8.Text.Quoted

/-! A store of files under one directory, and the names that lead to them. A name
is a path from that directory: parts between slashes, of which an empty one and
`.` stay where they are and `..` goes up. Each part but the last must lead to a
directory. Parts and whole names have a greatest size in bytes. Of what lies above
the store only that it consists of directories is known. -/

namespace Chip8

inductive OpenError
  | notFound
  | notDirectory
  | isDirectory
  | nameTooLong
  /-- Any other refusal of the system, by its number. -/
  | refused (number : Nat) (reason : String)
deriving DecidableEq, Repr

def OpenError.condition : OpenError → String
  | notFound => "[Errno 2] No such file or directory"
  | notDirectory => "[Errno 20] Not a directory"
  | isDirectory => "[Errno 21] Is a directory"
  | nameTooLong => "[Errno 36] File name too long"
  | refused number reason => "[Errno " ++ toString number ++ "] " ++ reason

def OpenError.message (e : OpenError) (path : String) : String :=
  e.condition ++ ": " ++ Text.Quoted.quote path

/-- Files by the parts of their paths. The directories are the beginnings of these
paths. -/
structure FileStore where
  files : List (List String × List UInt8)

namespace FileStore

inductive Entry
  | file (bytes : List UInt8)
  | directory

/-- Where a path has led so far. -/
inductive Place
  | inside (parts : List String)
  | above
  | nowhere

def entry? (store : FileStore) : Place → Option Entry
  | .above => some .directory
  | .nowhere => none
  | .inside parts =>
    match store.files.lookup parts with
    | some bytes => some (.file bytes)
    | none =>
      if parts.isEmpty || store.files.any fun (path, _) => parts.isPrefixOf path then
        some .directory
      else none

/-- Goes one part further from a directory. -/
def follow (place : Place) (part : String) : Place :=
  if part = "" || part = "." then place
  else
    match place with
    | .inside parts =>
      if part = ".." then (if parts.isEmpty then .above else .inside parts.dropLast)
      else .inside (parts ++ [part])
    | .above => if part = ".." then .above else .nowhere
    | .nowhere => .nowhere

/-- The bytes that one part of a name may have. -/
def partLimit : Nat := 255

def walk (store : FileStore) (place : Place) : List String → Except OpenError Place
  | [] => .ok place
  | part :: rest =>
    match store.entry? place with
    | none => .error .notFound
    | some (.file _) => .error .notDirectory
    | some .directory =>
      if partLimit < part.utf8ByteSize then .error .nameTooLong
      else walk store (follow place part) rest

def parts (path : String) : List String := (path.splitOn "/")

/-- A store of files under names that lead down only. -/
def ofFiles (files : List (String × List UInt8)) : FileStore where
  files := files.map fun (name, bytes) =>
    ((parts name).filter fun part => part ≠ "" && part ≠ ".", bytes)

/-- The bytes that a name may have. -/
def nameLimit : Nat := 4095

/-- The system takes no name with a null character in it. -/
def isNameable (path : String) : Bool := !path.toList.contains '\x00'

def read (store : FileStore) (path : String) : Except OpenError (List UInt8) :=
  if path.isEmpty then .error .notFound
  else if nameLimit < path.utf8ByteSize then .error .nameTooLong
  else
    let start := if path.startsWith "/" then .above else .inside []
    match store.walk start (parts path) with
    | .error e => .error e
    | .ok place =>
      match store.entry? place with
      | none => .error .notFound
      | some .directory => .error .isDirectory
      | some (.file bytes) => .ok bytes

/-- The last part of a path; empty if the path ends in a slash. -/
def baseName (path : String) : String := (parts path).getLast?.getD ""

end FileStore

end Chip8
