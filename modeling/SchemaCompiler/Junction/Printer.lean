import SchemaCompiler.Junction.Plan
import SchemaCompiler.Value.Basic

/-!
# Rendering junction plans

A plan as a value: its junctions, the side that each relation uses, and its problems.
-/

set_option autoImplicit false

namespace SchemaCompiler

namespace Junction

open Value

/-- A side in full. -/
def Side.toValue (s : Side) : Value :=
  record [("junction", str s.junction), ("model", str s.model), ("relation", str s.relation),
    ("foreign_key", str s.foreignKey), ("label", str s.label)]

/-- A junction in full. -/
def Implicit.toValue (j : Implicit) : Value :=
  record [("name", str j.name), ("pair", texts [j.pair.1, j.pair.2]),
    ("sides", list (j.sides.map (·.toValue)))]

/-- A side under the relation that uses it. -/
def Side.toEntry (s : Side) : Value :=
  record [("key", texts [s.model, s.relation]), ("side", s.toValue)]

/-- A problem by its relation and its message. -/
def PlanProblem.toValue (p : PlanProblem) : Value := texts [p.model, p.relation, p.fault.message]

/-- A plan in full. -/
def Plan.toValue (p : Plan) : Value :=
  record [("junctions", list (p.junctions.map (·.toValue))),
    ("sides", list (p.sideTable.map (·.toEntry))),
    ("problems", list (p.problems.map (·.toValue)))]

end Junction

end SchemaCompiler
