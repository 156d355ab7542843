/-!
# File trees

A snapshot of the files under a folder: each item is a file (its bytes) or a folder, at a
relative path given by its components; the folders on the way to an item exist with it. A place
that should hold a folder may be missing, or be a plain file instead.

Profile files are the files whose name has the extension `yaml` or `yml` (exactly so: the
extension is what follows the last dot, and a name whose only dot is its first character has
none). They are taken in path order, component by component.
-/

namespace KeyMidi

/-- What stands at a relative path of a folder. -/
inductive Item where
  | file (bytes : List UInt8)
  | folder
  deriving Repr, DecidableEq, Inhabited

/-- A folder: its items by relative path. -/
structure Folder where
  items : List (List String × Item) := []
  deriving Repr, DecidableEq, Inhabited

/-- What stands at a place that should be a folder. -/
inductive Place where
  | missing
  | plain (bytes : List UInt8)
  | folder (f : Folder)
  deriving Repr, DecidableEq, Inhabited

namespace Folder

/-- Puts an item at a path, replacing what was there. -/
def put (f : Folder) (path : List String) (item : Item) : Folder :=
  ⟨(f.items.filter (·.1 != path)) ++ [(path, item)]⟩

/-- The item at a path, if any. -/
def get? (f : Folder) (path : List String) : Option Item := (f.items.find? (·.1 == path)).map (·.2)

/-- Removes the item at a path. -/
def remove (f : Folder) (path : List String) : Folder := ⟨f.items.filter (·.1 != path)⟩

/-- The folders that exist: those given, and those on the way to every item. -/
def folders (f : Folder) : List (List String) :=
  let explicit := f.items.filterMap fun (p, i) => if i == .folder then some p else none
  let implied := f.items.flatMap fun (p, _) => (List.range p.length).filterMap fun k =>
    if k == 0 then none else some (p.take k)
  (explicit ++ implied).eraseDups

end Folder

/-- The extension of a file name: what follows the last dot, unless that dot starts the name. -/
def extension (name : String) : Option String :=
  match (name.toList.splitOn '.').reverse with
  | [] | [_] => none
  | ext :: before => if before.reverse == [[]] then none else some (String.ofList ext)

/-- A profile file name. -/
def isProfileFile (name : String) : Bool :=
  match extension name with
  | some "yaml" | some "yml" => true
  | _ => false

/-- Path order: component by component. -/
def pathLE : List String → List String → Bool
  | [], _ => true
  | _ :: _, [] => false
  | a :: as, b :: bs => if a < b then true else if a == b then pathLE as bs else false

/-- Puts a file among files in path order, after every file whose path does not come after its
own. -/
def insertByPath (x : List String × List UInt8) :
    List (List String × List UInt8) → List (List String × List UInt8)
  | [] => [x]
  | y :: ys => if pathLE y.1 x.1 then y :: insertByPath x ys else x :: y :: ys

/-- The profile files of a folder, in path order; files of one path keep their order. -/
def Folder.profileFiles (f : Folder) : List (List String × List UInt8) :=
  let files := f.items.filterMap fun (p, i) => match i, p.getLast? with
    | .file bytes, some name => if isProfileFile name then some (p, bytes) else none
    | _, _ => none
  files.foldl (fun sorted x => insertByPath x sorted) []

/-- A path under a root, each name joined with a slash unless the path so far is empty or
ends with one. -/
def underRoot (root : String) (path : List String) : String :=
  path.foldl (fun acc name => if acc.isEmpty || acc.endsWith "/" then acc ++ name else acc ++ "/" ++ name) root

end KeyMidi
