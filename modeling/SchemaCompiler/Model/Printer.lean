import SchemaCompiler.Model.Basic

/-!
# Rendering descriptors

A descriptor as a value in full: every key is present, kinds are their spellings, and what was given
as it is stays as it is. Reading the rendering of a checked descriptor gives the descriptor back.
-/

set_option autoImplicit false

namespace SchemaCompiler

open Value

/-- A rule in full. -/
def Rule.toValue (r : Rule) : Value :=
  record [("kind", str r.kind.name), ("value", r.value), ("message", ofText? r.message)]

/-- A field in full. What nobody has checked is shown as it was given. -/
def Field.toValue (f : Field) : Value :=
  let entries :=
    [("name", str f.name), ("type", ofText? (f.type.map (·.spelling))),
      ("required", bool f.required), ("unique", bool f.unique), ("default", f.default),
      ("primary_key", bool f.primaryKey), ("auto_increment", bool f.autoIncrement),
      ("indexed", bool f.indexed), ("validation", list (f.rules.map (·.toValue))),
      ("db_type", ofText? f.dbType), ("db_default", ofText? f.dbDefault),
      ("description", ofText? f.description), ("ui", dict f.ui)]
  record (entries.map fun (key, v) => (key, (lookup? f.asGiven key).getD v))

/-- An explicit junction in full. -/
def Through.toValue (t : Through) : Value :=
  record [("model", str t.model), ("source_key", str t.sourceKey), ("target_key", str t.targetKey)]

/-- A relation in full. -/
def Relation.toValue (r : Relation) : Value :=
  record [("name", str r.name), ("kind", ofText? (r.kind.map (·.name))), ("target", str r.target),
    ("foreign_key", ofText? r.foreignKey), ("inverse", ofText? r.inverse),
    ("through", (r.through.map (·.toValue)).getD null), ("required", bool r.required),
    ("on_delete", ofText? (r.onDelete.map (·.name))), ("description", ofText? r.description)]

/-- A constraint in full. -/
def Constraint.toValue (c : Constraint) : Value :=
  record [("kind", str c.kind.name), ("fields", texts c.fields)]

/-- The roles of each operation in full. -/
def Access.toValue (a : Access) : Value :=
  record [("create", texts a.create), ("read", texts a.read), ("update", texts a.update),
    ("delete", texts a.delete), ("count", texts a.count)]

/-- An ownership filter in full. -/
def Ownership.toValue (o : Ownership) : Value :=
  record [("field", str o.field), ("auto_filter", bool o.autoFilter),
    ("operations", texts o.operations), ("admin_bypass", bool o.adminBypass)]

/-- The event names in full. -/
def Events.toValue (e : Events) : Value :=
  record [("after_create", ofText? e.afterCreate), ("after_update", ofText? e.afterUpdate),
    ("after_delete", ofText? e.afterDelete)]

/-- A table reference. -/
def TableRef.toValue (t : TableRef) : Value :=
  record [("module", str t.module), ("table", str t.table)]

/-- A model in full. -/
def Model.toValue (m : Model) : Value :=
  record [("name", str m.name), ("module", str m.module), ("table_name", ofText? m.tableName),
    ("fields", list (m.fields.map (·.toValue))), ("relations", list (m.relations.map (·.toValue))),
    ("primary_key", (m.primaryKey.map texts).getD null),
    ("constraints", list (m.constraints.map (·.toValue))),
    ("access", (m.access.map (·.toValue)).getD null),
    ("ownership", (m.ownership.map (·.toValue)).getD null),
    ("events", (m.events.map (·.toValue)).getD null),
    ("config", record [("timestamps", bool m.timestamps)]),
    ("description", ofText? m.description)]

end SchemaCompiler
