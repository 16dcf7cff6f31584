import Keyspaces.Failure
import Keyspaces.Text.Split

/-
  This file defines the files that declarations and
  configurations are read from: a tree below the working
  directory, and how a path leads to a file in it.

  Main definitions:
    * `FileTree`
    * `FileTree.write`
    * `FileTree.isDirectory`
    * `FileTree.read`
-/

namespace Keyspaces

/-
  Files by their path, a list of names. Every proper initial
  part of a path is a directory.
-/
structure FileTree where
  files : List (List String × List UInt8)
deriving Inhabited, Repr

namespace FileTree

------------------------------------------------------------
-- Paths
------------------------------------------------------------

/- The names in a path, with empty ones where slashes meet. -/
def splitPath (path : List Char) : List String :=
  (Text.pieces '/' path).map String.ofList

/- The names of a path that stand for a step down. -/
def stepNames (path : String) : List String :=
  (splitPath path.toList).filter fun name =>
    !(name.isEmpty || name == ".")

------------------------------------------------------------
-- Trees
------------------------------------------------------------

/- The tree without files. -/
def empty : FileTree :=
  ⟨[]⟩

/- Write a file, in place of one that has the same path. -/
def write
    (tree : FileTree)
    (path : String)
    (content : List UInt8) : FileTree :=
  let names := stepNames path
  ⟨tree.files.filter (fun file => !(file.1 == names)) ++
    [(names, content)]⟩

/- Write files in order. -/
def writeAll
    (tree : FileTree)
    (files : List (String × List UInt8)) : FileTree :=
  files.foldl (fun t file => t.write file.1 file.2) tree

/- The content of the file with a path. -/
def file?
    (tree : FileTree)
    (names : List String) : Option (List UInt8) :=
  tree.files.lookup names

/- The path is that of a directory. -/
def isDirectory
    (tree : FileTree)
    (names : List String) : Bool :=
  names.isEmpty || tree.files.any fun file =>
    names.isPrefixOf file.1 && names != file.1

------------------------------------------------------------
-- Following a Path
------------------------------------------------------------

/- The longest name and the longest path, in bytes. -/
def maxNameSize : Nat := 255

/- A path of this many bytes is too long. -/
def pathSizeLimit : Nat := 4096

/- Why a path leads nowhere. -/
inductive Obstacle
| missing
| notDirectory
| tooLong
deriving DecidableEq, Repr

/-
  Where a walk is: in a directory of the tree, outside of it
  in a directory so many levels up, or at a file.
-/
inductive Place
| directory (names : List String)
| above (levels : Nat)
| file (content : List UInt8)
deriving DecidableEq, Repr

/- Take one step from a place. -/
def step
    (tree : FileTree)
    (place : Place)
    (name : String) : Except Obstacle Place :=
  match place with
  | .file _ => .error .notDirectory
  | .above levels =>
      if name.isEmpty || name == "." then
        .ok place
      else if name == ".." then
        .ok (.above (levels + 1))
      else if maxNameSize < Text.Utf8.size name.toList then
        .error .tooLong
      else
        .error .missing
  | .directory names =>
      if name.isEmpty || name == "." then
        .ok place
      else if name == ".." then
        .ok (if names.isEmpty then .above 1
          else .directory names.dropLast)
      else if maxNameSize < Text.Utf8.size name.toList then
        .error .tooLong
      else
        let next := names ++ [name]
        match tree.file? next with
        | some content => .ok (.file content)
        | none =>
            if tree.isDirectory next then
              .ok (.directory next)
            else
              .error .missing

/- Follow the names of a path. -/
def walk
    (tree : FileTree)
    (place : Place) :
    List String → Except Obstacle Place
| [] => .ok place
| name :: names =>
    match tree.step place name with
    | .ok next => tree.walk next names
    | .error obstacle => .error obstacle

/- Follow a path from the working directory or the root. -/
def find
    (tree : FileTree)
    (path : List Char) : Except Obstacle Place :=
  if path.isEmpty then
    .error .missing
  else if pathSizeLimit ≤ Text.Utf8.size path then
    .error .tooLong
  else
    tree.walk
      (if path.head? = some '/' then .above 0
      else .directory [])
      (splitPath path)

------------------------------------------------------------
-- Reading
------------------------------------------------------------

/- The characters of a path given as bytes. -/
def pathOfBytes (bytes : List UInt8) : List Char :=
  match Text.Utf8.decode bytes with
  | .ok chars => chars
  | .error _ => bytes.map fun byte => Char.ofNat byte.toNat

/- Read the file that a path leads to. -/
def readPath
    (tree : FileTree)
    (path : Value)
    (chars : List Char) : Except Failure (List UInt8) :=
  if chars.contains '\x00' then
    .error .nullInPath
  else
    match tree.find chars with
    | .ok (.file content) => .ok content
    | .ok _ => .error (.isDirectory path)
    | .error .missing => .error (.fileNotFound path)
    | .error .notDirectory => .error (.notDirectory path)
    | .error .tooLong => .error (.fileNameTooLong path)

/-
  Read the file that a value names: a path as text or bytes.
  Integers would be descriptors of open files, of which there
  are none.
-/
def read
    (tree : FileTree)
    (path : Value) : Except Failure (List UInt8) :=
  match path with
  | .text s => tree.readPath path s.toList
  | .bytes content => tree.readPath path (pathOfBytes content)
  | .int n =>
      .error (if n < 0 then .negativeDescriptor
        else .badDescriptor)
  | .bool _ => .error .badDescriptor
  | _ => .error (.notPath path.kindName)

end FileTree

end Keyspaces
