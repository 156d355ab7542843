import Mathlib
import KeyMidi.Store.Load

/-!
# Where a device's profile comes from

After a load, the store holds the profiles of the user's folder and of the factory's, each the list
of a folder's profile files in path order, read and checked (`Shelf`). A device then gets the first
of its candidates: the user's profiles for its model, the user's default of its kind, then the same
two from the factory. The candidates read the identity through its model only; the error for a
device with none names the identity in full.
-/

namespace KeyMidi

/-! ## Path order -/

theorem pathLE_cons {a b : String} {as bs : List String} :
    pathLE (a :: as) (b :: bs) = true ↔ a < b ∨ (a = b ∧ pathLE as bs = true) := by
  simp only [pathLE]
  by_cases hab : a < b
  · simp [hab]
  · by_cases he : a = b <;> simp [hab, he]

theorem pathLE_total : ∀ as bs : List String, (pathLE as bs || pathLE bs as) = true
  | [], _ => by simp [pathLE]
  | _ :: _, [] => by simp [pathLE]
  | a :: as, b :: bs => by
    simp only [Bool.or_eq_true, pathLE_cons]
    rcases lt_trichotomy a b with h | rfl | h
    · exact .inl (.inl h)
    · rcases Bool.or_eq_true _ _ ▸ pathLE_total as bs with h | h
      · exact .inl (.inr ⟨rfl, h⟩)
      · exact .inr (.inr ⟨rfl, h⟩)
    · exact .inr (.inl h)

theorem pathLE_trans : ∀ as bs cs : List String,
    pathLE as bs = true → pathLE bs cs = true → pathLE as cs = true
  | [], _, _, _, _ => by simp [pathLE]
  | _ :: _, [], _, h, _ => by simp [pathLE] at h
  | _ :: _, _ :: _, [], _, h => by simp [pathLE] at h
  | a :: as, b :: bs, c :: cs, h₁, h₂ => by
    rw [pathLE_cons] at h₁ h₂ ⊢
    rcases h₁ with h₁ | ⟨rfl, h₁⟩ <;> rcases h₂ with h₂ | ⟨rfl, h₂⟩
    · exact .inl (lt_trans h₁ h₂)
    · exact .inl h₁
    · exact .inl h₂
    · exact .inr ⟨rfl, pathLE_trans as bs cs h₁ h₂⟩

/-! ## Files in path order -/

theorem mem_insertByPath {x z : List String × List UInt8} :
    ∀ {l : List (List String × List UInt8)}, z ∈ insertByPath x l ↔ z = x ∨ z ∈ l
  | [] => by simp [insertByPath]
  | y :: ys => by
    unfold insertByPath
    split
    · rw [List.mem_cons, mem_insertByPath, List.mem_cons]
      tauto
    · simp only [List.mem_cons]

/-- A file put among files in path order leaves them in path order: it goes after the files
that do not come after it, and before the others, which all come after it. -/
theorem pairwise_insertByPath (x : List String × List UInt8) :
    ∀ {l : List (List String × List UInt8)}, (l.Pairwise fun a b => pathLE a.1 b.1 = true) →
      (insertByPath x l).Pairwise fun a b => pathLE a.1 b.1 = true
  | [], _ => List.pairwise_singleton _ x
  | y :: ys, hl => by
    rw [List.pairwise_cons] at hl
    unfold insertByPath
    split
    · rename_i hyx
      refine List.pairwise_cons.mpr ⟨fun z hz => ?_, pairwise_insertByPath x hl.2⟩
      rcases mem_insertByPath.mp hz with rfl | hz
      · exact hyx
      · exact hl.1 z hz
    · rename_i hyx
      have hxy : pathLE x.1 y.1 = true := by
        simpa [hyx] using pathLE_total x.1 y.1
      refine List.pairwise_cons.mpr ⟨fun z hz => ?_, List.pairwise_cons.mpr hl⟩
      rcases List.mem_cons.mp hz with rfl | hz
      · exact hxy
      · exact pathLE_trans _ _ _ hxy (hl.1 z hz)

theorem mem_foldl_insertByPath {z : List String × List UInt8} :
    ∀ {files sorted : List (List String × List UInt8)},
      z ∈ files.foldl (fun sorted x => insertByPath x sorted) sorted ↔ z ∈ files ∨ z ∈ sorted
  | [], _ => by simp
  | x :: xs, sorted => by
    rw [List.foldl_cons, mem_foldl_insertByPath, mem_insertByPath, List.mem_cons]
    tauto

theorem pairwise_foldl_insertByPath :
    ∀ (files : List (List String × List UInt8)) {sorted : List (List String × List UInt8)},
      (sorted.Pairwise fun a b => pathLE a.1 b.1 = true) →
        (files.foldl (fun sorted x => insertByPath x sorted) sorted).Pairwise
          fun a b => pathLE a.1 b.1 = true
  | [], _, h => h
  | x :: xs, _, h => pairwise_foldl_insertByPath xs (pairwise_insertByPath x h)

/-! ## The profile files of a folder -/

/-- A profile file of a place: a file of a folder whose name has the extension `yaml` or `yml`,
with its path and bytes. -/
def Place.HasProfileFile (place : Place) (x : List String × List UInt8) : Prop :=
  ∃ f, place = .folder f ∧ (x.1, Item.file x.2) ∈ f.items ∧
    ∃ name, x.1.getLast? = some name ∧ isProfileFile name = true

namespace Folder

theorem pairwise_profileFiles (f : Folder) :
    f.profileFiles.Pairwise fun a b => pathLE a.1 b.1 = true :=
  pairwise_foldl_insertByPath _ List.Pairwise.nil

theorem mem_profileFiles {f : Folder} {x : List String × List UInt8} :
    x ∈ f.profileFiles ↔ (Place.folder f).HasProfileFile x := by
  simp only [profileFiles, mem_foldl_insertByPath, List.not_mem_nil, or_false,
    List.mem_filterMap, Place.HasProfileFile, Place.folder.injEq, exists_eq_left']
  constructor
  · rintro ⟨⟨p, i⟩, hi, hx⟩
    cases i with
    | folder => simp at hx
    | file bytes =>
      cases hname : p.getLast? with
      | none => simp [hname] at hx
      | some name =>
        by_cases hp : isProfileFile name = true
        · simp only [hname, hp, if_true, Option.some.injEq] at hx
          subst hx
          exact ⟨hi, name, hname, hp⟩
        · simp [hname, hp] at hx
  · rintro ⟨hi, name, hname, hp⟩
    exact ⟨(x.1, .file x.2), hi, by simp [hname, hp]⟩

end Folder

/-! ## Loading -/

/-- `mapM` in `Except` succeeds exactly when every element does, with the results in order. -/
theorem mapM_eq_ok {ε α β : Type} {f : α → Except ε β} {xs : List α} {ys : List β} :
    xs.mapM f = .ok ys ↔ List.Forall₂ (fun x y => f x = .ok y) xs ys := by
  induction xs generalizing ys with
  | nil => cases ys <;> simp [pure, Except.pure]
  | cons x xs ih =>
    rw [List.forall₂_cons_left_iff, List.mapM_cons]
    cases hx : f x with
    | error e => simp [bind, Except.bind]
    | ok y =>
      cases hxs : xs.mapM f with
      | error e =>
        simp only [bind, Except.bind, reduceCtorEq, false_iff, not_exists, not_and]
        intro y' ys' _ hxs' _
        exact absurd (ih.mpr hxs') (by simp [hxs])
      | ok ys' =>
        simp only [bind, Except.bind, pure, Except.pure, Except.ok.injEq]
        constructor
        · rintro rfl
          exact ⟨y, ys', rfl, ih.mp hxs, rfl⟩
        · rintro ⟨y'', ys'', hy, hys, rfl⟩
          cases hy
          rw [ih.mpr hys] at hxs
          cases hxs
          rfl

/-- The bytes of a file read as a checked profile; `path` names the file in errors. -/
def ReadsAs (path : String) (bytes : List UInt8) (p : Profile) : Prop :=
  ∃ text, textOfBytes bytes = some text ∧ Profile.ofText text path = .ok p

/-- The profiles `ps` are what a place under `root` holds: one for each of its profile files, read
from it, the files in path order. -/
def Shelf (root : String) (place : Place) (ps : List Profile) : Prop :=
  ∃ files : List (List String × List UInt8),
    (files.Pairwise fun a b => pathLE a.1 b.1 = true) ∧ (∀ x, x ∈ files ↔ place.HasProfileFile x) ∧
    List.Forall₂ (fun x p => ReadsAs (underRoot root x.1) x.2 p) files ps

theorem shelf_of_loadProfiles {root : String} {place : Place} {ps : List Profile}
    (h : loadProfiles root place = .ok ps) : Shelf root place ps := by
  cases place with
  | missing =>
    cases h
    exact ⟨[], List.Pairwise.nil, fun x => by simp [Place.HasProfileFile], List.Forall₂.nil⟩
  | plain bytes => cases h
  | folder f =>
    refine ⟨f.profileFiles, f.pairwise_profileFiles, fun x => Folder.mem_profileFiles, ?_⟩
    refine (mapM_eq_ok.mp h).imp fun x p hx => ?_
    simp only at hx
    split at hx
    · cases hx
    · exact ⟨_, ‹_›, hx⟩

namespace ProfileStore

theorem load_eq_ok {s s' : ProfileStore} {user factory : Place} (h : s.load user factory = .ok s') :
    loadProfiles s.userDir user = .ok s'.user ∧ loadProfiles s.factoryDir factory = .ok s'.factory ∧
      s'.userDir = s.userDir ∧ s'.factoryDir = s.factoryDir := by
  unfold load at h
  cases hu : loadProfiles s.userDir user with
  | error e => simp [hu, bind, Except.bind] at h
  | ok us =>
    cases hf : loadProfiles s.factoryDir factory with
    | error e => simp [hu, hf, bind, Except.bind] at h
    | ok fs =>
      simp only [hu, hf, bind, Except.bind, pure, Except.pure, Except.ok.injEq] at h
      subst h
      exact ⟨rfl, rfl, rfl, rfl⟩

end ProfileStore

/-! ## Lookup -/

namespace Profile

/-- A profile made for one model of a kind: of that kind, not a default one, for that model. -/
def ForModel (m : Identity) (k : DeviceKind) (p : Profile) : Prop :=
  p.kind = k ∧ p.identifier.isDefault = false ∧ p.identifier.model = m

/-- A default profile of a kind. -/
def DefaultOf (k : DeviceKind) (p : Profile) : Prop := p.kind = k ∧ p.identifier.isDefault = true

instance (m : Identity) (k : DeviceKind) (p : Profile) : Decidable (p.ForModel m k) :=
  inferInstanceAs (Decidable (_ ∧ _))

instance (k : DeviceKind) (p : Profile) : Decidable (p.DefaultOf k) :=
  inferInstanceAs (Decidable (_ ∧ _))

end Profile

/-- The profiles a device of model `m` and kind `k` may get, in order of preference: the user's
for its model, the user's defaults, the factory's for its model, the factory's defaults; each
group in the order of its list. -/
def candidates (user factory : List Profile) (m : Identity) (k : DeviceKind) : List Profile :=
  user.filter (fun p => decide (p.ForModel m k)) ++ user.filter (fun p => decide (p.DefaultOf k)) ++
    factory.filter (fun p => decide (p.ForModel m k)) ++ factory.filter (fun p => decide (p.DefaultOf k))

namespace ProfileStore

theorem specific_eq (ps : List Profile) (m : Identity) (k : DeviceKind) :
    specific ps m k = (ps.filter fun p => decide (p.ForModel m k)).head? := by
  rw [List.head?_filter, specific]
  congr 1
  funext p
  rw [Bool.eq_iff_iff, decide_eq_true_iff]
  simp [Profile.ForModel, Profile.isDefault, and_assoc]

theorem defaultFor_eq (ps : List Profile) (k : DeviceKind) :
    defaultFor ps k = (ps.filter fun p => decide (p.DefaultOf k)).head? := by
  rw [List.head?_filter, defaultFor]
  congr 1
  funext p
  rw [Bool.eq_iff_iff, decide_eq_true_iff]
  simp [Profile.DefaultOf, Profile.isDefault]

/-- The profile of a device is the first of its candidates; only keyboards and gamepads have
one. -/
theorem find_eq (s : ProfileStore) (i : Identity) (k : DeviceKind) :
    s.find i k =
      if k = .mouse ∨ k = .other then .error (.unsupportedKind k)
      else match (candidates s.user s.factory i.model k).head? with
        | some p => .ok p
        | none => .error (.notFound i k) := by
  have hk : (!k.isSupported) = true ↔ (k = .mouse ∨ k = .other) := by
    cases k <;> simp [DeviceKind.isSupported]
  simp only [find, hk, candidates, List.head?_append, specific_eq, defaultFor_eq,
    Option.orElse_eq_orElse, Option.orElse_eq_or, Option.or_assoc]
  rfl

/-- An all-zero identity finds no profile made for its model: such a profile would be a default
one. -/
theorem isDefault_of_mem_candidates {us fs : List Profile} {i : Identity} {k : DeviceKind}
    {p : Profile} (hi : i.isDefault = true) (hp : p ∈ candidates us fs i.model k) :
    p.identifier.isDefault = true := by
  have hspec : ¬p.ForModel i.model k := by
    rintro ⟨-, hd, hm⟩
    have : p.identifier.model.isDefault = i.model.isDefault := by rw [hm]
    simp_all [Identity.model, Identity.isDefault]
  simp only [candidates, List.mem_append, List.mem_filter, decide_eq_true_eq] at hp
  rcases hp with ((⟨-, h⟩ | ⟨-, h⟩) | ⟨-, h⟩) | ⟨-, h⟩
  · exact absurd h hspec
  · exact h.2
  · exact absurd h hspec
  · exact h.2

/-! ## Two sample folders -/

/-- A gamepad profile made for one model, its identifier written as a block. -/
def samplePadText : String :=
  "name: pad\ndevice_type: gamepad\nidentifier:\n  vendor: 1118\n  product: 654\n" ++
    "mappings:\n  - name: main\n"

/-- A keyboard profile made for the same model, its identifier written in flow style. -/
def sampleKeysText : String :=
  "name: keys\ndevice_type: keyboard\nidentifier: \x7b vendor: 1118, product: 654 \x7d\n" ++
    "mappings:\n  - name: main\n"

/-- A default profile of a kind: no identifier. -/
def sampleDefaultText (name kind : String) : String :=
  "name: " ++ name ++ "\ndevice_type: " ++ kind ++ "\nmappings:\n  - name: main\n"

/-- The user's folder: a gamepad profile for the model, a default gamepad profile, and a file
that is not a profile. -/
def sampleUserFolder : Place :=
  .folder ⟨[(["pad.yaml"], .file samplePadText.toUTF8.toList),
    (["default.yml"], .file (sampleDefaultText "any pad" "gamepad").toUTF8.toList),
    (["notes.txt"], .file [])]⟩

/-- The factory's folder: a keyboard profile for the model and, in a subfolder, a default
keyboard profile. -/
def sampleFactoryFolder : Place :=
  .folder ⟨[(["keys.yaml"], .file sampleKeysText.toUTF8.toList),
    (["any", "keys.yaml"], .file (sampleDefaultText "any keys" "keyboard").toUTF8.toList)]⟩

/-- A store over the folders `user` and `factory`, not loaded yet. -/
def sampleStore : ProfileStore := { userDir := "user", factoryDir := "factory" }

/-- One unit of the model the sample profiles are made for. -/
def samplePad : Identity := { vendor := 1118, product := 654, uniq := "serial-1" }

/-- **The profile a device gets after a load.** Once both folders have loaded, the store holds the
profiles of the user's profile files and of the factory's, each read from its file, the files in
path order. A device of a kind without profiles is refused; any other gets the first of its
candidates: the user's profiles for its model (not a default one), the user's defaults of its
kind, then the same two from the factory, each group in path order; with none it is not found.
The profile found depends on the identity through its model only, and an all-zero identity only
ever gets a default profile. -/
theorem resolution_order {s s' : ProfileStore} {user factory : Place}
    (h : s.load user factory = .ok s') :
    Shelf s.userDir user s'.user ∧ Shelf s.factoryDir factory s'.factory ∧
    ∀ (i : Identity) (k : DeviceKind),
      (s'.find i k =
        if k = .mouse ∨ k = .other then .error (.unsupportedKind k)
        else match (candidates s'.user s'.factory i.model k).head? with
          | some p => .ok p
          | none => .error (.notFound i k)) ∧
      (∀ j : Identity, j.model = i.model → (s'.find j k).toOption = (s'.find i k).toOption) ∧
      (i.isDefault = true → ∀ p, s'.find i k = .ok p → p.identifier.isDefault = true) := by
  obtain ⟨hu, hf, -, -⟩ := load_eq_ok h
  refine ⟨shelf_of_loadProfiles hu, shelf_of_loadProfiles hf, fun i k => ⟨find_eq s' i k, ?_, ?_⟩⟩
  · intro j hj
    rw [find_eq, find_eq, hj]
    split
    · rfl
    · split <;> rfl
  · intro hi p hp
    rw [find_eq] at hp
    split at hp
    · cases hp
    · split at hp
      · rename_i q hq
        cases hp
        exact isDefault_of_mem_candidates hi (List.mem_of_mem_head? hq)
      · cases hp

/-- A load of the two sample folders: the user's gamepad profiles and the factory's keyboard
profiles, each folder in path order; a pad of the model gets the user's profile for it, another
pad the user's default, and the same two keyboards the factory's profile and default. -/
theorem resolution_order_sample_folders :
    ∃ s' : ProfileStore, sampleStore.load sampleUserFolder sampleFactoryFolder = .ok s' ∧
      (Shelf "user" sampleUserFolder s'.user ∧ Shelf "factory" sampleFactoryFolder s'.factory ∧
        ∀ (i : Identity) (k : DeviceKind),
          (s'.find i k =
            if k = .mouse ∨ k = .other then .error (.unsupportedKind k)
            else match (candidates s'.user s'.factory i.model k).head? with
              | some p => .ok p
              | none => .error (.notFound i k)) ∧
          (∀ j : Identity, j.model = i.model → (s'.find j k).toOption = (s'.find i k).toOption) ∧
          (i.isDefault = true → ∀ p, s'.find i k = .ok p → p.identifier.isDefault = true)) ∧
      s'.user.map (·.name) = ["any pad", "pad"] ∧ s'.factory.map (·.name) = ["any keys", "keys"] ∧
      (s'.find samplePad .gamepad).toOption.map (·.name) = some "pad" ∧
      (s'.find { vendor := 1118, product := 655 } .gamepad).toOption.map (·.name) = some "any pad" ∧
      (s'.find samplePad .keyboard).toOption.map (·.name) = some "keys" ∧
      (s'.find { vendor := 1118, product := 655 } .keyboard).toOption.map (·.name) =
        some "any keys" := by
  have hload : (sampleStore.load sampleUserFolder sampleFactoryFolder).toOption.map (fun s =>
      (s.user.map (·.name), s.factory.map (·.name),
        [(s.find samplePad .gamepad).toOption.map (·.name),
          (s.find { vendor := 1118, product := 655 } .gamepad).toOption.map (·.name),
          (s.find samplePad .keyboard).toOption.map (·.name),
          (s.find { vendor := 1118, product := 655 } .keyboard).toOption.map (·.name)])) =
      some (["any pad", "pad"], ["any keys", "keys"],
        [some "pad", some "any pad", some "keys", some "any keys"]) := by
    decide +kernel
  cases h : sampleStore.load sampleUserFolder sampleFactoryFolder with
  | error e => simp [h, Except.toOption] at hload
  | ok s' =>
    simp only [h, Except.toOption, Option.map_some, Option.some.injEq, Prod.mk.injEq,
      List.cons.injEq, and_true] at hload
    obtain ⟨hu, hf, h₁, h₂, h₃, h₄⟩ := hload
    exact ⟨s', rfl, resolution_order h, hu, hf, h₁, h₂, h₃, h₄⟩

/-- Two identities of one model that are both not found get two different errors: the error
names the identity asked for, its serial included. -/
theorem find_names_identity :
    ({ bus := 3, vendor := 1118, product := 654, version := 272, uniq := "serial-1" } : Identity).model =
        ({ bus := 3, vendor := 1118, product := 654, version := 272 } : Identity).model ∧
      ({ userDir := "user", factoryDir := "factory" } : ProfileStore).find
          { bus := 3, vendor := 1118, product := 654, version := 272 } .gamepad ≠
        ({ userDir := "user", factoryDir := "factory" } : ProfileStore).find
          { bus := 3, vendor := 1118, product := 654, version := 272, uniq := "serial-1" } .gamepad := by
  refine ⟨rfl, fun h => ?_⟩
  change Except.error (ProfileError.notFound { bus := 3, vendor := 1118, product := 654, version := 272 } .gamepad) =
    Except.error (ProfileError.notFound { bus := 3, vendor := 1118, product := 654, version := 272, uniq := "serial-1" }
      .gamepad) at h
  simp at h

end ProfileStore

end KeyMidi
