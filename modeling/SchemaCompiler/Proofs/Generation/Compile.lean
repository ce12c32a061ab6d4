import SchemaCompiler.Generation.Compile
import SchemaCompiler.Proofs.FileTree.Write
import SchemaCompiler.Proofs.Model.Lookup

/-!
# A compilation replaces one file or none

Only the last step of a compilation changes the tree, and it writes its file as a whole or not at
all. So a run that returns a document has put it where the options say and touched no other file,
and a run that fails has left every file as it was, whether the earlier document could not be read,
there was no document, or the device refused a step of the writing.

A run fails twice if the device refuses to take the temporary file away as well. Then that file is
left in the directory of the output, and nothing else has changed; a device that takes files away
never comes to this (`CompileRun.IsWhole.keeps`).
-/

set_option autoImplicit false

namespace SchemaCompiler

namespace Generation

variable {device : Device} {o : Options} {t : FileTree} {run : CompileRun}

/-- What a compilation has to leave of a tree: the text of the document in the file of the options,
if there is a document, and every file as it was if there is none, unless the temporary file of the
output could not be taken away. -/
def CompileRun.IsWhole (run : CompileRun) (device : Device) (t : FileTree) (o : Options) : Prop :=
  match run.result with
  | .ok document => ∃ place, run.tree.locate o.outputPath = .ok place ∧
      t.Replaces run.tree place (Text.toBytes document.content)
  | .error (.file failure) => t.KeepsUnless device o.outputPath run.tree failure
  | .error (.generation _) => t.Keeps run.tree

namespace CompileRun.IsWhole

/-- A run that fails and does not leave every file as it was could not take its temporary file
away. -/
theorem leaves (whole : run.IsWhole device t o) (fails : run.result.toOption.isSome = false)
    (changed : ¬ t.Keeps run.tree) : ∃ refusal, device .removal = some refusal ∧
      run.result = .error (.file refusal) ∧ ∃ place, t.Leaves run.tree place := by
  unfold CompileRun.IsWhole at whole
  cases result : run.result with
  | ok document =>
    rw [result] at fails
    cases fails
  | error e =>
    rw [result] at whole
    cases e with
    | generation => exact absurd whole changed
    | file refusal =>
      obtain ⟨refused, _, _, _, left⟩ := whole.resolve_left changed
      exact ⟨refusal, refused, rfl, _, left⟩

/-- On a device that takes files away, a failure leaves every file as it was. -/
theorem keeps (whole : run.IsWhole device t o) (fails : run.result.toOption.isSome = false)
    (removes : device .removal = none) : t.Keeps run.tree := by
  by_contra changed
  obtain ⟨_, refused, _⟩ := whole.leaves fails changed
  cases removes.symm.trans refused

end CompileRun.IsWhole

end Generation

end SchemaCompiler
