import KeyMidi.Store.Tree
/-!
# A disk under a root

The files a program sees lie under one root folder, whose path is written as a fixed text (for
instance `<root>`). A path is absolute when it starts with `/` or with the root's text; a relative
path is taken from the working folder. An absolute path outside the root leads nowhere this
model knows of.

A path is followed name by name, as the system does: `.` and empty names (from repeated or
trailing slashes) stay where they are, `..` goes up, and every other name must stand in the
folder reached so far. So `..` and `.` and a trailing slash need a folder before them, and a
name that is missing stops the walk even when a `..` would come back. The empty path leads
nowhere. Above the root lie folders whose contents are not known: `..` from the root reaches
one, and no known name stands there.

Making a folder with its parents works as it does on the system: make the folder; if a folder on
the way is missing, make its parent first (the path with its last name taken off) and try again;
any other failure is forgiven when a folder stands at the path after all. Writing a file makes
the folders on the way too.
-/

namespace KeyMidi

/-- The components of a path, with `.` dropped and `..` going up. -/
def pathComponents (s : String) : List String :=
  ((s.splitOn "/").foldl (fun acc c =>
    if c == "" || c == "." then acc
    else if c == ".." then acc.dropLast
    else acc ++ [c]) [])

/-- The files under a root, seen from a working folder. -/
structure Disk where
  root : String
  cwd : List String
  files : Folder
  deriving Repr, Inhabited

/-- What stands at a place of the disk. -/
inductive Entry where
  | missing
  | file (bytes : List UInt8)
  | folder
  /-- A folder on the way is a file. -/
  | blocked
  deriving Repr, DecidableEq, Inhabited

namespace Disk

/-- The path is absolute: it starts with `/` or with the root. -/
def isAbsolute (d : Disk) (path : String) : Bool :=
  path.startsWith "/" || path == d.root || path.startsWith (d.root ++ "/")

/-- The place a path names, read as text: `.` dropped and `..` going up, whatever stands on the
way; none when it lies outside the root. -/
def lexicalPlace (d : Disk) (path : String) : Option (List String) :=
  if path == d.root then some []
  else if path.startsWith (d.root ++ "/") then some (pathComponents (path.drop (d.root.length + 1)).toString)
  else if path.startsWith "/" then none
  else some (pathComponents (String.intercalate "/" d.cwd ++ "/" ++ path))

/-- What stands at a place. -/
def entryAt (d : Disk) (p : List String) : Entry :=
  let onWay := (List.range p.length).any fun k =>
    k > 0 && match d.files.get? (p.take k) with
      | some (.file _) => true
      | _ => false
  if onWay then .blocked
  else if p.isEmpty then .folder
  else match d.files.get? p with
    | some (.file bytes) => .file bytes
    | _ => if d.files.folders.contains p then .folder else .missing

end Disk

/-- Where a walk along a path stands: in a folder under the root, in a folder above it, or at a
file. -/
inductive Walk where
  | folder (p : List String)
  | above
  | file (p : List String)
  deriving Repr, DecidableEq, Inhabited

/-- Where a path leads. -/
inductive Reach where
  /-- To a place under the root where a folder or a file stands. -/
  | place (p : List String)
  /-- To a folder above the root. -/
  | above
  /-- Nowhere: a name on the way is missing. -/
  | missing
  /-- Nowhere: the walk went on from a file. -/
  | throughFile
  deriving Repr, DecidableEq, Inhabited

namespace Disk

/-- Walks one name of a path. -/
def stepWalk (d : Disk) (w : Walk) (name : String) : Except Reach Walk :=
  match w with
  | .file _ => .error .throughFile
  | .above => if name == "" || name == "." || name == ".." then .ok .above else .error .missing
  | .folder p =>
    if name == "" || name == "." then .ok (.folder p)
    else if name == ".." then .ok (if p.isEmpty then .above else .folder p.dropLast)
    else match d.entryAt (p ++ [name]) with
      | .file _ => .ok (.file (p ++ [name]))
      | .folder => .ok (.folder (p ++ [name]))
      | _ => .error .missing

/-- Where the walk along a path starts, and the names it takes. -/
def startOf (d : Disk) (path : String) : Walk × List String :=
  if path == d.root then (.folder [], [])
  else if path.startsWith (d.root ++ "/") then (.folder [], (path.drop (d.root.length + 1)).toString.splitOn "/")
  else if path.startsWith "/" then (.above, (path.drop 1).toString.splitOn "/")
  else (.folder d.cwd, path.splitOn "/")

/-- Where a path leads. -/
def reach (d : Disk) (path : String) : Reach :=
  if path.isEmpty then .missing
  else
    let (start, names) := d.startOf path
    match names.foldlM d.stepWalk start with
    | .ok (.folder p) | .ok (.file p) => .place p
    | .ok .above => .above
    | .error r => r

/-- The place of the disk a path leads to. -/
def locate (d : Disk) (path : String) : Option (List String) :=
  match d.reach path with
  | .place p => some p
  | _ => none

/-- The place a watch of a folder covers: its own, or the whole root for a folder above it. -/
def watchedPlace (d : Disk) (path : String) : Option (List String) :=
  match d.reach path with
  | .place p => some p
  | .above => some []
  | _ => none

/-- What stands at a path. -/
def entry (d : Disk) (path : String) : Entry :=
  match d.reach path with
  | .place p => d.entryAt p
  | .above => .folder
  | .missing => .missing
  | .throughFile => .blocked

/-- A folder stands at the path. -/
def isFolder (d : Disk) (path : String) : Bool := d.entry path == .folder

/-- The place as a folder that may be missing or a plain file; a folder above the root holds
nothing known. -/
def place (d : Disk) (path : String) : Place :=
  match d.reach path with
  | .place p =>
    match d.entryAt p with
    | .file bytes => .plain bytes
    | .folder => .folder ⟨d.files.items.filterMap fun (q, i) =>
        if p.isPrefixOf q && q.length > p.length then some (q.drop p.length, i) else none⟩
    | _ => .missing
  | .above => .folder {}
  | _ => .missing

/-- Why making a folder failed. -/
inductive MakeError where
  | notFound
  | notFolder
  | occupied
  deriving Repr, DecidableEq, Inhabited

/-- The text of a failure, as the system words it. -/
def MakeError.text : MakeError → String
  | .notFound => "No such file or directory (os error 2)"
  | .notFolder => "Not a directory (os error 20)"
  | .occupied => "File exists (os error 17)"

/-- The names of a path without the empty ones at its end. -/
def trimmedNames (names : List String) : List String :=
  (names.reverse.dropWhile (· == "")).reverse

/-- Makes one folder: the folders before its last name must stand; the last name must be free. -/
def makeDir (d : Disk) (path : String) : Except MakeError Disk :=
  if path.isEmpty then .error .notFound
  else
    let (start, names) := d.startOf path
    match (trimmedNames names).reverse with
    | [] => .error .occupied
    | last :: before =>
      match before.reverse.foldlM d.stepWalk start with
      | .error .throughFile => .error .notFolder
      | .error _ => .error .notFound
      | .ok (.file _) => .error .notFolder
      | .ok .above => if last == "" || last == "." || last == ".." then .error .occupied else .ok d
      | .ok (.folder p) =>
        if last == "." || last == ".." then .error .occupied
        else match d.entryAt (p ++ [last]) with
          | .missing => .ok { d with files := d.files.put (p ++ [last]) .folder }
          | _ => .error .occupied

/-- The parent of a path as text: its last name taken off, with the slashes and `.` names around
it; none for a path that is only a slash. -/
def parentPath (path : String) : Option String :=
  let names := path.splitOn "/"
  let strip (ns : List String) : List String :=
    match ns with
    | [] => []
    | first :: rest => first :: (rest.reverse.dropWhile (fun n => n == "" || n == ".")).reverse
  match (strip names).reverse with
  | [] => none
  | [""] => none
  | [_] => some ""
  | _ :: before =>
    match strip before.reverse with
    | [""] => some "/"
    | ns => some ("/".intercalate ns)

/-- Makes a folder and its parents, for at most `fuel` parents. -/
def makeDirsWith : Nat → Disk → String → Except MakeError Disk
  | 0, d, _ => .ok d
  | fuel + 1, d, path =>
    if path.isEmpty then .ok d
    else
      let forgive (e : MakeError) (d : Disk) : Except MakeError Disk :=
        if d.isFolder path then .ok d else .error e
      match d.makeDir path with
      | .ok d => .ok d
      | .error .notFound =>
        match parentPath path with
        | none => .error .notFound
        | some parent => do
          let d ← makeDirsWith fuel d parent
          match d.makeDir path with
          | .ok d => .ok d
          | .error e => forgive e d
      | .error e => forgive e d

/-- Makes a folder and its parents: the error text when it cannot. -/
def makeDirs (d : Disk) (path : String) : Except String Disk :=
  (makeDirsWith (path.length + 1) d path).mapError MakeError.text

/-- Writes a file, making the folders on the way: the new disk and the place whose change can be
seen from outside (the first folder made, or else the file itself); none when a file stands on
the way or a folder at the place. -/
def writeFile (d : Disk) (p : List String) (bytes : List UInt8) : Option (Disk × List String) :=
  if p.isEmpty then none
  else match d.entryAt p with
    | .file _ | .missing =>
      let made := ((List.range p.length).map fun k => p.take (k + 1)).find? fun q =>
        q.length < p.length && d.entryAt q == .missing
      some ({ d with files := d.files.put p (.file bytes) }, made.getD p)
    | _ => none

/-- Removes a file; none when there is no file there. -/
def removeFile (d : Disk) (p : List String) : Option Disk :=
  match d.entryAt p with
  | .file _ => some { d with files := d.files.remove p }
  | _ => none

/-- The names in a folder, sorted. -/
def names (d : Disk) (p : List String) : List String :=
  let inside := (d.files.items.map (·.1) ++ d.files.folders).filterMap fun q =>
    if p.isPrefixOf q && q.length > p.length then q[p.length]? else none
  (inside.eraseDups).mergeSort fun a b => a ≤ b

end Disk

end KeyMidi
