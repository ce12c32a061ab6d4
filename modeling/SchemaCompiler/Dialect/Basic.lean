/-!
# Dialects

The database engine families that a document can be made for, and the two layouts it can have.
-/

set_option autoImplicit false

namespace SchemaCompiler

/-- A family of database engines. -/
inductive Dialect where
  | mysql
  | postgresql
  | sqlite
  deriving DecidableEq, Inhabited, Repr

namespace Dialect

/-- Every dialect, in the order in which messages list them. -/
def all : List Dialect := [mysql, postgresql, sqlite]

/-- The name of a dialect, which is also its provider in the document. -/
def name : Dialect → String
  | mysql => "mysql"
  | postgresql => "postgresql"
  | sqlite => "sqlite"

/-- The dialect of a name. -/
def ofName? (s : String) : Option Dialect := all.find? (·.name == s)

end Dialect

/-- The layout of a document: aligned with comments, or one space between tokens. -/
inductive OutputFormat where
  | pretty
  | compact
  deriving DecidableEq, Inhabited, Repr

namespace OutputFormat

/-- Every layout, in the order in which messages list them. -/
def all : List OutputFormat := [pretty, compact]

/-- The name of a layout. -/
def name : OutputFormat → String
  | pretty => "pretty"
  | compact => "compact"

/-- The layout of a name. -/
def ofName? (s : String) : Option OutputFormat := all.find? (·.name == s)

end OutputFormat

end SchemaCompiler
