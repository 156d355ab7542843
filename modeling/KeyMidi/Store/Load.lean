import KeyMidi.Store.Tree
import KeyMidi.Profile.Error
/-!
# The profile store

Profiles live in two folders: the user's, which comes first, and the factory's. Loading reads
every profile file of both folders in path order; the first file that cannot be read or does not
hold a valid profile stops the load, and the profiles loaded before stay. A missing folder holds
no profiles.

A device gets, in this order of preference: the user's profile for its model, the user's default
profile for its kind, the factory's profile for its model, the factory's default profile. Within
a folder the first matching profile in path order wins.
-/

namespace KeyMidi

/-- The text of a file, if it is UTF-8. -/
def textOfBytes (bytes : List UInt8) : Option String := String.fromUTF8? ⟨bytes.toArray⟩

/-- Reads the profiles under a folder. -/
def loadProfiles (root : String) : Place → Except ProfileError (List Profile)
  | .missing => pure []
  | .plain _ => throw (.unreadable root "Not a directory (os error 20)")
  | .folder f => f.profileFiles.mapM fun (p, bytes) =>
    let path := underRoot root p
    match textOfBytes bytes with
    | none => throw (.unreadable path "stream did not contain valid UTF-8")
    | some text => Profile.ofText text path

/-- The profiles of the two folders. -/
structure ProfileStore where
  userDir : String
  factoryDir : String
  user : List Profile := []
  factory : List Profile := []
  deriving Inhabited

namespace ProfileStore

/-- Loads both folders; on failure the store is unchanged. -/
def load (s : ProfileStore) (user factory : Place) : Except ProfileError ProfileStore := do
  let u ← loadProfiles s.userDir user
  let f ← loadProfiles s.factoryDir factory
  return { s with user := u, factory := f }

/-- The profile of a folder for a model (not a default one). -/
def specific (ps : List Profile) (model : Identity) (kind : DeviceKind) : Option Profile :=
  ps.find? fun p => p.kind == kind && !p.isDefault && p.identifier.model == model

/-- The default profile of a folder for a kind. -/
def defaultFor (ps : List Profile) (kind : DeviceKind) : Option Profile :=
  ps.find? fun p => p.kind == kind && p.isDefault

/-- The profile for a device. -/
def find (s : ProfileStore) (identity : Identity) (kind : DeviceKind) : Except ProfileError Profile :=
  if !kind.isSupported then throw (.unsupportedKind kind)
  else
    let model := identity.model
    match specific s.user model kind <|> defaultFor s.user kind <|> specific s.factory model kind <|>
        defaultFor s.factory kind with
    | some p => pure p
    | none => throw (.notFound identity kind)

end ProfileStore

end KeyMidi
