/-
A file system as far as settings and logs need one: directories, files, and two devices.

Names are bytes.  A path is walked name by name from the root or from the working directory, and
every name on the way but the last has to be a directory.  A path that ends in a slash leads to a
directory.  A directory that has been removed while it was the working directory has no entries, but
its parent can still be reached.

Main definitions:

* `FrameShader.FileError` — why a file cannot be used;
* `FrameShader.FileSystem` — a file system;
* `FrameShader.FileSystem.read` — the bytes of a file;
* `FrameShader.FileSystem.openForWriting` — a file to write to, made if there is none;
* `FrameShader.WriteHandle`, `FrameShader.FileSystem.write` — an open file, and writing to it.
-/

import FrameShader.Word

set_option relaxedAutoImplicit false
set_option autoImplicit false

namespace FrameShader

/-! ### Errors -/

/-- Why a file cannot be used. -/
inductive FileError where
  | notFound
  | notDirectory
  | isDirectory
  | nameTooLong
  | noSpace
  /-- The path holds a zero byte. -/
  | zeroByte
  /-- The bytes of a file are no text. -/
  | notText
  deriving DecidableEq, Repr

/-- The text of an error, with its number where it has one. -/
def FileError.message : FileError → String
  | .notFound => "No such file or directory (os error 2)"
  | .notDirectory => "Not a directory (os error 20)"
  | .isDirectory => "Is a directory (os error 21)"
  | .nameTooLong => "File name too long (os error 36)"
  | .noSpace => "No space left on device (os error 28)"
  | .zeroByte => "file name contained an unexpected NUL byte"
  | .notText => "stream did not contain valid UTF-8"

/-! ### File systems -/

/-- The name of an entry. -/
abbrev FileName := List UInt8

/-- The names from the root to a place. -/
abbrev Location := List FileName

/-- What a location holds besides directories. -/
inductive FileEntry where
  /-- A file with the number of its contents. -/
  | regular (number : Nat)
  /-- The device that keeps nothing. -/
  | null
  /-- The device that has no room. -/
  | full
  deriving DecidableEq, Repr

/-- Directories, files, and the contents of files.  Contents stay as long as they are in use, also
if the file that held them has been removed. -/
structure FileSystem where
  directories : List Location := [[]]
  files : List (Location × FileEntry) := []
  contents : List (Nat × List UInt8) := []
  /-- The number of the next file. -/
  nextNumber : Nat := 0
  deriving DecidableEq, Repr

namespace FileSystem

/-- Whether a location is a directory. -/
def isDirectory (fs : FileSystem) (l : Location) : Bool := fs.directories.contains l

/-- What a location holds, if it is no directory. -/
def entry? (fs : FileSystem) (l : Location) : Option FileEntry := fs.files.lookup l

/-- Whether a location is a file, and no device. -/
def isFile (fs : FileSystem) (l : Location) : Bool :=
  match fs.entry? l with
  | some (.regular _) => true
  | _ => false

/-- The bytes of a file by its number. -/
def contentOf (fs : FileSystem) (number : Nat) : List UInt8 :=
  (fs.contents.lookup number).getD []

/-- The file system where a file has other bytes. -/
def setContent (fs : FileSystem) (number : Nat) (bytes : List UInt8) : FileSystem :=
  { fs with contents := (number, bytes) :: fs.contents.filter fun c => c.1 != number }

/-- The file system with one more file. -/
def addFile (fs : FileSystem) (l : Location) (bytes : List UInt8) : FileSystem :=
  { fs with
    files := fs.files ++ [(l, .regular fs.nextNumber)]
    contents := (fs.nextNumber, bytes) :: fs.contents
    nextNumber := fs.nextNumber + 1 }

/-- The file system with one more directory. -/
def addDirectory (fs : FileSystem) (l : Location) : FileSystem :=
  if fs.isDirectory l then fs else { fs with directories := fs.directories ++ [l] }

/-- The file system without a directory and everything below it. -/
def removeDirectory (fs : FileSystem) (l : Location) : FileSystem :=
  { fs with
    directories := fs.directories.filter fun d => !l.isPrefixOf d
    files := fs.files.filter fun f => !l.isPrefixOf f.1 }

/-! ### Paths -/

/-- A path as the names between its slashes. -/
def splitPath : List UInt8 → List FileName
  | [] => [[]]
  | b :: rest =>
      if b = 0x2F then [] :: splitPath rest
      else
        match splitPath rest with
        | [] => [[b]]
        | name :: names => (b :: name) :: names

/-- The name of a directory itself. -/
def here : FileName := [0x2E]

/-- The name of the directory above. -/
def above : FileName := [0x2E, 0x2E]

/-- How many bytes a name may have. -/
def nameLimit : Nat := 255

/-- How many bytes a path may have. -/
def pathLimit : Nat := 4095

/-- One name further on a path.  What is not the last name of a path has to lead to a directory. -/
def enter (fs : FileSystem) (l : Location) (name : FileName) : Except FileError Location :=
  if name = [] ∨ name = here then .ok l
  else if name = above then .ok l.dropLast
  else if !fs.isDirectory l then .error .notFound
  else if nameLimit < name.length then .error .nameTooLong
  else
    let next := l ++ [name]
    if fs.isDirectory next then .ok next
    else if (fs.entry? next).isSome then .error .notDirectory
    else .error .notFound

/-- One name further on a path, where a directory is made if it is missing. -/
def enterMade (fs : FileSystem) (l : Location) (name : FileName) : FileSystem × Location :=
  if name = [] ∨ name = here then (fs, l)
  else if name = above then (fs, l.dropLast)
  else (fs.addDirectory (l ++ [name]), l ++ [name])

/-- The file system with all directories on a path, and where the path leads to. -/
def makeDirectories (fs : FileSystem) (start : Location) (names : List FileName) :
    FileSystem × Location :=
  names.foldl (fun found name => enterMade found.1 found.2 name) (fs, start)

/-- All names of a path but the last, and the last one, which may be empty. -/
def splitLast (path : List UInt8) : List FileName × FileName :=
  let names := splitPath path
  (names.dropLast, names.getLast?.getD [])

/-- Whether a path ends in a slash. -/
def endsInSlash (path : List UInt8) : Bool := path.getLast? == some 0x2F

/-- The directory that the last name of a path is looked up in, and that name.  It is empty if the
path has slashes only. -/
def walk (fs : FileSystem) (cwd : Location) (path : List UInt8) :
    Except FileError (Location × FileName) := do
  if path.contains 0 then throw .zeroByte
  if path.isEmpty then throw .notFound
  if pathLimit < path.length then throw .nameTooLong
  let start := if path.head? = some 0x2F then [] else cwd
  let (names, last) := splitLast (path.reverse.dropWhile (· == 0x2F)).reverse
  let parent ← names.foldlM fs.enter start
  return (parent, last)

/-- Whether a name always stands for a directory. -/
def standsForDirectory (name : FileName) : Bool := name == [] || name == here || name == above

/-- The place of a name in a directory, which may hold nothing. -/
def place (fs : FileSystem) (parent : Location) (name : FileName) : Except FileError Location := do
  if !fs.isDirectory parent then throw .notFound
  if nameLimit < name.length then throw .nameTooLong
  return parent ++ [name]

/-! ### Reading -/

/-- The bytes of the file that a path leads to. -/
def read (fs : FileSystem) (cwd : Location) (path : List UInt8) :
    Except FileError (List UInt8) := do
  let (parent, last) ← fs.walk cwd path
  if standsForDirectory last then throw .isDirectory
  let l ← fs.place parent last
  if fs.isDirectory l then throw .isDirectory
  match fs.entry? l with
  | none => throw .notFound
  | some entry =>
      if endsInSlash path then throw .notDirectory
      match entry with
      | .regular number => return fs.contentOf number
      | .null | .full => return []

/-- The text of the file that a path leads to. -/
def readText (fs : FileSystem) (cwd : Location) (path : List UInt8) : Except FileError String := do
  match textOfUtf8? (← fs.read cwd path) with
  | some s => return s
  | none => throw .notText

end FileSystem

/-! ### Writing -/

/-- An open file. -/
inductive WriteHandle where
  /-- A file that grows at its end. -/
  | appending (number : Nat)
  /-- A file that is written from `offset` on. -/
  | positioned (number offset : Nat)
  /-- The device that keeps nothing. -/
  | null
  /-- The device that has no room. -/
  | full
  deriving DecidableEq, Repr

namespace FileSystem

/-- A file to write to, made if there is none: with what it holds if `append`, else emptied. -/
def openForWriting (fs : FileSystem) (cwd : Location) (path : List UInt8) (append : Bool) :
    Except FileError (WriteHandle × FileSystem) := do
  let handle (number : Nat) : WriteHandle :=
    if append then .appending number else .positioned number 0
  let (parent, last) ← fs.walk cwd path
  if standsForDirectory last || endsInSlash path then throw .isDirectory
  let l ← fs.place parent last
  if fs.isDirectory l then throw .isDirectory
  match fs.entry? l with
  | some (.regular number) =>
      return (handle number, if append then fs else fs.setContent number [])
  | some .null => return (.null, fs)
  | some .full => return (.full, fs)
  | none => return (handle fs.nextNumber, fs.addFile l [])

/-- Bytes with other bytes written over them from `offset` on; what lies between is zero. -/
def overwrite (old : List UInt8) (offset : Nat) (bytes : List UInt8) : List UInt8 :=
  old.take offset ++ List.replicate (offset - old.length) 0 ++ bytes
    ++ old.drop (offset + bytes.length)

/-- Writes bytes to an open file. -/
def write (fs : FileSystem) (bytes : List UInt8) :
    WriteHandle → Except FileError (WriteHandle × FileSystem)
  | .appending number =>
      .ok (.appending number, fs.setContent number (fs.contentOf number ++ bytes))
  | .positioned number offset =>
      .ok (.positioned number (offset + bytes.length),
        fs.setContent number (overwrite (fs.contentOf number) offset bytes))
  | .null => .ok (.null, fs)
  | .full => .error .noSpace

/-- Puts a file in the place that a path leads to, or replaces what it holds. -/
def save (fs : FileSystem) (cwd : Location) (path bytes : List UInt8) :
    Except FileError FileSystem := do
  let (handle, fs) ← fs.openForWriting cwd path false
  if bytes.isEmpty then return fs
  let (_, fs) ← fs.write bytes handle
  return fs

end FileSystem

end FrameShader
