import Mathlib.Data.List.Basic
import SchemaCompiler.FileTree.Basic

/-!
# What an operation leaves of a file tree

Two trees are compared place by place: `Keeps` says that every file is as before and that nothing
has gone, `Replaces` says the same except for one place, where there is a file of known bytes, and
`Leaves` except for one place where there was nothing and is a file now. All of them leave it open
which directories are new. A path keeps its place as long as the directories on its way stay
(`locate_of_directories`).
-/

set_option autoImplicit false

namespace SchemaCompiler

namespace FileTree

variable {t t' t'' : FileTree} {place other : List String} {bytes : List UInt8}

/-! ## A place after a change -/

@[simp] theorem directories_putFile : (t.putFile place bytes).directories = t.directories := by
  unfold putFile
  split <;> rfl

@[simp] theorem workingDirectory_putFile :
    (t.putFile place bytes).workingDirectory = t.workingDirectory := by
  unfold putFile
  split <;> rfl

/-- Putting a file where there is one changes its bytes and the bytes of no other file. -/
theorem find?_overwritten (files : List (List String × List UInt8)) :
    ((files.map fun f => if f.1 == place then (place, bytes) else f).find? (·.1 == other)).map
        (·.2) =
      (files.find? (·.1 == other)).map fun f => if f.1 == place then bytes else f.2 := by
  have named : ((·.1 == other) : List String × List UInt8 → Bool) ∘
      (fun f => if f.1 == place then (place, bytes) else f) = (·.1 == other) := by
    funext f
    by_cases same : f.1 = place <;> simp [same]
  rw [List.find?_map, named, Option.map_map]
  refine congrArg (fun change => Option.map change _) (funext fun f => ?_)
  by_cases same : f.1 = place <;> simp [same]

theorem bytesAt?_putFile :
    (t.putFile place bytes).bytesAt? other =
      if other = place then some bytes else t.bytesAt? other := by
  unfold putFile
  split
  next there =>
    rw [bytesAt?, find?_overwritten]
    cases found : t.files.find? (·.1 == other) with
    | none =>
      have absent : t.bytesAt? other = none := by rw [bytesAt?, found]; rfl
      have apart : other ≠ place := by
        rintro rfl
        rw [absent] at there
        cases there
      simp [absent, apart]
    | some f =>
      have named : f.1 = other := by simpa using List.find?_some found
      simp [bytesAt?, found, named]
      split <;> rfl
  next absent =>
    have fresh : t.bytesAt? place = none := by simpa using absent
    rw [bytesAt?, List.find?_append, Option.map_or, ← bytesAt?]
    by_cases same : other = place
    · simp [same, fresh]
    · simp [same, Ne.symm same]

theorem kindAt?_congr (directories : t'.directories = t.directories)
    (bytes : t'.bytesAt? place = t.bytesAt? place) : t'.kindAt? place = t.kindAt? place := by
  rw [kindAt?, kindAt?, directories, bytes]

/-! ## Paths -/

/-- Every file is as before, and nothing has gone. There may be new directories. -/
structure Keeps (t t' : FileTree) : Prop where
  workingDirectory : t'.workingDirectory = t.workingDirectory
  bytes : ∀ place, t'.bytesAt? place = t.bytesAt? place
  kinds : ∀ place kind, t.kindAt? place = some kind → t'.kindAt? place = some kind

/-- There is a file of some bytes at a place, every other file is as before, and nothing has gone.
There may be new directories. -/
structure Replaces (t t' : FileTree) (place : List String) (bytes : List UInt8) : Prop where
  workingDirectory : t'.workingDirectory = t.workingDirectory
  written : t'.bytesAt? place = some bytes
  isFile : t'.kindAt? place = some .file
  others : ∀ other, other ≠ place → t'.bytesAt? other = t.bytesAt? other
  kinds : ∀ other kind, t.kindAt? other = some kind → t'.kindAt? other = some kind

/-- There is a file at a place where there was nothing, every other file is as before, and nothing
has gone. There may be new directories. -/
structure Leaves (t t' : FileTree) (place : List String) : Prop where
  workingDirectory : t'.workingDirectory = t.workingDirectory
  free : t.kindAt? place = none
  left : (t'.bytesAt? place).isSome
  others : ∀ other, other ≠ place → t'.bytesAt? other = t.bytesAt? other
  kinds : ∀ other kind, t.kindAt? other = some kind → t'.kindAt? other = some kind

/-- Two trees of the same directories differ at one place at most. -/
structure AgreesBut (t t' : FileTree) (place : List String) : Prop where
  workingDirectory : t'.workingDirectory = t.workingDirectory
  directories : t'.directories = t.directories
  others : ∀ other, other ≠ place → t'.bytesAt? other = t.bytesAt? other

theorem Keeps.refl (t : FileTree) : t.Keeps t := ⟨rfl, fun _ => rfl, fun _ _ h => h⟩

theorem Keeps.trans (h : t.Keeps t') (h' : t'.Keeps t'') : t.Keeps t'' where
  workingDirectory := h'.workingDirectory.trans h.workingDirectory
  bytes p := (h'.bytes p).trans (h.bytes p)
  kinds p k there := h'.kinds p k (h.kinds p k there)

theorem Keeps.leaves (h : t.Keeps t') (free : t.kindAt? place = none) (h' : t'.Leaves t'' place) :
    t.Leaves t'' place where
  workingDirectory := h'.workingDirectory.trans h.workingDirectory
  free := free
  left := h'.left
  others p apart := (h'.others p apart).trans (h.bytes p)
  kinds p k there := h'.kinds p k (h.kinds p k there)

/-- What is free after a change that keeps everything was free before. -/
theorem Keeps.free (h : t.Keeps t') (free : t'.kindAt? place = none) : t.kindAt? place = none := by
  cases there : t.kindAt? place with
  | none => rfl
  | some kind => cases free.symm.trans (h.kinds place kind there)

namespace AgreesBut

theorem refl (t : FileTree) (place : List String) : t.AgreesBut t place :=
  ⟨rfl, rfl, fun _ _ => rfl⟩

theorem putFile (h : t.AgreesBut t' place) (bytes : List UInt8) :
    t.AgreesBut (t'.putFile place bytes) place where
  workingDirectory := workingDirectory_putFile.trans h.workingDirectory
  directories := directories_putFile.trans h.directories
  others p apart := by rw [bytesAt?_putFile, if_neg apart, h.others p apart]

/-- A file that was put where there was nothing is left. -/
theorem leaves (h : t.AgreesBut t' place) (free : t.kindAt? place = none)
    (left : (t'.bytesAt? place).isSome) : t.Leaves t' place where
  workingDirectory := h.workingDirectory
  free := free
  left := left
  others := h.others
  kinds p kind there := by
    have apart : p ≠ place := by
      rintro rfl
      cases free.symm.trans there
    rw [← there]
    exact kindAt?_congr h.directories (h.others p apart)

end AgreesBut

end FileTree

end SchemaCompiler
