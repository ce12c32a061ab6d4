/-!
# Trail entries

What a pass reports while it runs: a level, the component that reports, and a message. A pass
returns its entries in order; writing them anywhere is for the outer layer.
-/

set_option autoImplicit false

namespace SchemaCompiler

namespace Log

/-- The severity of an entry. -/
inductive Level where
  | debug
  | info
  | warning
  | error
  | critical
  deriving DecidableEq, Inhabited, Repr

namespace Level

/-- The word for a level. -/
def name : Level → String
  | debug => "DEBUG"
  | info => "INFO"
  | warning => "WARNING"
  | error => "ERROR"
  | critical => "CRITICAL"

/-- The number that orders the levels. -/
def number : Level → Int
  | debug => 10
  | info => 20
  | warning => 30
  | error => 40
  | critical => 50

/-- The level with a given number. -/
def ofNumber? (n : Int) : Option Level :=
  [debug, info, warning, error, critical].find? (·.number == n)

end Level

/-- One entry of a trail. -/
structure Entry where
  level : Level
  component : String
  message : String
  deriving DecidableEq, Inhabited, Repr

/-- The entries of a pass, in order. -/
abbrev Trail := List Entry

end Log

end SchemaCompiler
