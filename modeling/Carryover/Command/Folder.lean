import Carryover.Command.Path

/-!
# Folders

Files by name, and the paths that lead to them. A path is shortened before it is used: its empty
parts and those that stay where they are, `.`, are left out, and the empty path is `.`.

| path | read |
| --- | --- |
| of a file | its bytes |
| `.`, `..`, or the beginning of the path of a file | refused as a directory |
| through a file | refused |
| any other | absent |
-/

namespace Carryover
namespace Command

/-- The slashes that a shortened path keeps in front: two only where there are exactly two. -/
def leadingSlashes (path : List Char) : List Char :=
  match path.takeWhile (· == '/') with
  | [] => []
  | ['/', '/'] => ['/', '/']
  | _ => ['/']

/-- A path without the parts that lead nowhere. -/
def shorten (path : String) : String :=
  let cs := path.toList
  let parts := (splitChars '/' cs).filter fun p => !p.isEmpty && p != ['.']
  let text := leadingSlashes cs ++ List.intercalate ['/'] parts
  if text.isEmpty then "." else String.ofList text

/-- A folder: the bytes of its files. -/
structure Folder where
  files : Entries String (List UInt8)

namespace Folder

/-- Whether one path leads through another. -/
def leadsThrough (inner outer : String) : Bool :=
  (outer.toList ++ ['/']).isPrefixOf inner.toList

/-- The bytes under a shortened path. -/
def read (f : Folder) (path : String) : Except FileFault (List UInt8) :=
  match Entries.get? f.files path with
  | some bytes => .ok bytes
  | none =>
    if path == "." || path == ".." || path == "/" || path == "//" ||
        f.files.any fun (name, _) => leadsThrough name path then .error .directory
    else if f.files.any fun (name, _) => leadsThrough path name then .error .notDirectory
    else .error .absent

end Folder
end Command
end Carryover
