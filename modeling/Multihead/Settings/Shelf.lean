import Multihead.Settings.Location
import Multihead.Settings.Reader

/-! # Shelves
A host with a simulated file tree: entries at paths. A path that leads to an entry makes directories of all that it
passes through, and a directory can be opened but not read. A path that is too long leads nowhere. -/

set_option autoImplicit false

namespace Multihead

/-- What is put at a path. -/
inductive Item where
  | file (bytes : ByteArray)
  | directory
  /-- Something that is there but cannot be opened. -/
  | socket
  /-- A link to nothing. -/
  | dangling

/-- The items of a file tree, each at the names that lead to it from the root. -/
structure Shelf where
  items : List (List String × Item)

namespace Shelf

/-- What an opened file gives to read, if it can be read at all. -/
abbrev Content := Option ByteArray

def entry : Item → Entry Content
  | .file bytes => .file (some bytes)
  | .directory => .file none
  | .socket => .closed
  | .dangling => .nothing

/-- The item at a path, or a directory if the path leads on to one. -/
def item (s : Shelf) (path : List String) : Option Item :=
  match s.items.find? (·.1 = path) with
  | some (_, i) => some i
  | none => if s.items.any fun i => path.isPrefixOf i.1 then some .directory else none

def isDirectory : Option Item → Bool
  | some .directory => true
  | _ => false

/-- Follows names from a directory that was reached by `done`. -/
def follow (s : Shelf) (done : List String) : List String → Entry Content
  | [] => ((s.item done).map entry).getD .nothing
  | name :: names =>
    if isDirectory (s.item done) then
      if name = "" ∨ name = "." then follow s done names
      else if name = ".." then follow s done.dropLast names
      else follow s (done ++ [name]) names
    else .nothing

/-- The first length in bytes that a path cannot have. -/
def pathLimit : Nat := 4096

/-- What stands at an absolute path. -/
def look (s : Shelf) (path : String) : Entry Content :=
  if path.utf8ByteSize < pathLimit then s.follow [] (path.splitOn "/") else .nothing

def host (s : Shelf) (user : Option (String → String)) : Host Content := ⟨user, s.look, (·.bind Settings.ofBytes?)⟩

end Shelf

end Multihead
