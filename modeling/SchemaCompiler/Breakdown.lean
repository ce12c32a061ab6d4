import SchemaCompiler.Model.Problem
import SchemaCompiler.Value.Integer

/-!
# Breakdowns

A breakdown ends a pass at a place where nothing was expected to go wrong. Each constructor is one
cause; a pass that can break down says so in its type.
-/

set_option autoImplicit false

namespace SchemaCompiler

/-- A cause for which a pass ends without an answer. -/
inductive Breakdown where
  /-- A length limit that stands for no integer, or an integer that cannot be written. -/
  | limit (failure : IntegerFailure)
  /-- The abstract type of a field was needed, and the field has none that was checked. -/
  | noFieldKind
  /-- The leading column of a constraint over no fields was needed. -/
  | emptyConstraint
  /-- A junction has no side with the foreign key that was looked for. -/
  | noJunctionSide
  /-- A model was looked up under a name that no model has. -/
  | unknownModel (name : String)
  /-- A descriptor of the named class could not be built. -/
  | descriptor (record : String) (problems : List Problem)
  /-- Keys of a JSON default have no order, since one of them is a NaN and one a decimal. -/
  | unorderedKeys
  deriving Inhabited, Repr

namespace Breakdown

/-- The message of a breakdown. -/
def message : Breakdown → String
  | limit failure => failure.message
  | noFieldKind => "the field has no checked type"
  | emptyConstraint => "list index out of range"
  | noJunctionSide => ""
  | unknownModel name => Text.quoted name
  | descriptor record problems => Problem.report record problems
  | unorderedKeys => "[<class 'decimal.InvalidOperation'>]"

end Breakdown

end SchemaCompiler
