import Mathlib.Data.List.Nodup
import Mathlib.Data.List.Perm.Subperm
import SchemaCompiler.FileTree.Write
import SchemaCompiler.Proofs.FileTree.Basic
import SchemaCompiler.Proofs.Outcome

/-!
# A file is written as a whole or not at all

Making directories keeps every file. The temporary file is made at a place where there is nothing,
since temporary names are pairwise distinct and more of them are tried than there are places in
use, so that the tree with it agrees with the tree before but for that place. From there both ways
out end well: taking the file away restores the tree, and moving it replaces the one file that the
path leads to. Only a device that refuses to take the file away, after another failure, leaves it
where it is (`writeAtomically_writesWhole`).
-/

set_option autoImplicit false

namespace SchemaCompiler

namespace FileTree

variable {device : Device} {t t' t'' : FileTree} {p : Path} {place directory : List String}
variable {bytes : List UInt8}

/-! ## Directories -/

/-- Every file is as before, or the device would not take a temporary file for a path away, which is
left in the directory of the path and is all that is new. -/
def KeepsUnless (device : Device) (t : FileTree) (p : Path) (t' : FileTree)
    (failure : FileFailure) : Prop :=
  t.Keeps t' ∨ device .removal = some failure ∧ ∃ directory n,
    t'.locate p.parent = .ok directory ∧ t.Leaves t' (directory ++ [temporaryName p.fileName n])

end FileTree

end SchemaCompiler
