import KeyMidi.Store.Tree
/-!
# Watching the profile folders

A watch covers the folders it was given that were folders when it started, with everything
below them. A change below a covered folder (a file written, a folder made, an item removed)
touches paths; when a touched path names a profile file, a change signal follows 100 ms later.
The signal channel holds one signal, so a burst of changes gives one signal; whoever waits
drains it.

Making folders and writing files create the missing folders on the way. A folder made that way
is seen, but what is put into it at once is not: the folder is not covered yet when that
happens. Removing a folder touches it and everything in it; removing a covered folder itself
also touches it.
-/

namespace KeyMidi

/-- A change to the files, or a wait. -/
inductive TreeStep where
  | write (path : List String) (bytes : List UInt8)
  | mkdir (path : List String)
  | remove (path : List String)
  | wait (ms : Nat)
  deriving Repr, Inhabited

/-- A watch over some folders of a tree. -/
structure ProfileWatch where
  tree : Folder
  covered : List (List String)
  now : Nat := 0
  /-- When the signals of the changes so far arrive. -/
  pending : List Nat := []
  deriving Inhabited

namespace ProfileWatch

/-- A folder of the tree; the empty path is the root. -/
def isFolder (f : Folder) (p : List String) : Bool := p.isEmpty || f.folders.contains p

/-- Starts a watch over those of `paths` that are folders. -/
def start (f : Folder) (paths : List (List String)) : ProfileWatch :=
  { tree := f, covered := paths.filter (isFolder f) }

/-- The watch sees changes at a path: below a covered folder, or at a covered folder itself. -/
def sees (w : ProfileWatch) (p : List String) : Bool :=
  w.covered.any fun c => c.isPrefixOf p

/-- A path names a profile file. -/
def namesProfile (p : List String) : Bool := (p.getLast?.map isProfileFile).getD false

/-- Notes that paths were touched: each seen path that names a profile file brings a signal. -/
def touch (w : ProfileWatch) (ps : List (List String)) : ProfileWatch :=
  if ps.any fun p => w.sees p && namesProfile p then { w with pending := w.pending ++ [w.now + 100] }
  else w

/-- The shortest prefix of `p` that is not a folder yet, if any. -/
def firstMissing (w : ProfileWatch) (p : List String) : Option (List String) :=
  ((List.range p.length).map fun k => p.take (k + 1)).find? fun q => !isFolder w.tree q

/-- Some prefix of `p` (or `p` itself) is a file. -/
def blocked (w : ProfileWatch) (p : List String) : Bool :=
  ((List.range p.length).map fun k => p.take (k + 1)).any fun q =>
    match w.tree.get? q with
    | some (.file _) => true
    | _ => false

/-- Makes a folder with the folders on the way. -/
def mkdir (w : ProfileWatch) (p : List String) : ProfileWatch :=
  if w.blocked p then w
  else match w.firstMissing p with
    | none => w
    | some q => { w.touch [q] with tree := w.tree.put p .folder }

/-- Writes a file, making the folders on the way. -/
def write (w : ProfileWatch) (p : List String) (bytes : List UInt8) : ProfileWatch :=
  if p.isEmpty || w.blocked p.dropLast || isFolder w.tree p then w
  else match w.firstMissing p.dropLast with
    | some q => { w.touch [q] with tree := w.tree.put p (.file bytes) }
    | none => { w.touch [p] with tree := w.tree.put p (.file bytes) }

/-- Removes a file, or a folder with everything in it. -/
def remove (w : ProfileWatch) (p : List String) : ProfileWatch :=
  if p.isEmpty then w
  else match w.tree.get? p with
    | some (.file _) => { w.touch [p] with tree := w.tree.remove p }
    | _ =>
      if !isFolder w.tree p then w
      else
        let inside := (w.tree.folders ++ w.tree.items.map (·.1)).filter fun q => p.isPrefixOf q
        { w.touch inside with tree := ⟨w.tree.items.filter fun (q, _) => !p.isPrefixOf q⟩ }

/-- Waits, then drains the signal channel: whether a signal came. -/
def wait (w : ProfileWatch) (ms : Nat) : ProfileWatch × Bool :=
  let now := w.now + ms
  ({ w with now, pending := w.pending.filter (· > now) }, w.pending.any (· ≤ now))

/-- Takes a step; a wait tells whether a signal came. -/
def step (w : ProfileWatch) : TreeStep → ProfileWatch × Option Bool
  | .write p bytes => (w.write p bytes, none)
  | .mkdir p => (w.mkdir p, none)
  | .remove p => (w.remove p, none)
  | .wait ms => let (w, s) := w.wait ms; (w, some s)

/-- Runs steps in order, collecting what each wait saw. -/
def run (w : ProfileWatch) : List TreeStep → List (Option Bool)
  | [] => []
  | s :: rest => let (w, out) := w.step s; out :: w.run rest

end ProfileWatch

end KeyMidi
