import SchemaCompiler.Dialect.Basic
import SchemaCompiler.FileTree.Path
import SchemaCompiler.Model.Field

/-!
# Generation options

What the generator is told apart from the models.
-/

set_option autoImplicit false

namespace SchemaCompiler

/-- The options of a generation. -/
structure Options where
  dialect : Dialect
  outputPath : Path
  includeAuditFields : Bool
  includeIndexes : Bool
  outputFormat : OutputFormat
  /-- An existing document whose other models are carried over. -/
  baselinePath : Option Path
  /-- The environment variable that holds the connection string. -/
  connectionEnv : String
  clientOutput : String
  binaryTargets : List String
  includeTimestamp : Bool
  auditActorType : FieldKind
  deriving DecidableEq, Inhabited, Repr

namespace Options

/-- The engine binaries that the client is made for unless the options name them. -/
def usualBinaryTargets : List String :=
  ["native", "debian-openssl-3.0.x", "debian-openssl-1.1.x"]

/-- The options when nothing is said. -/
def standard : Options :=
  { dialect := .mysql
    outputPath := Path.parse "prisma/schema.prisma"
    includeAuditFields := true
    includeIndexes := true
    outputFormat := .pretty
    baselinePath := none
    connectionEnv := "DATABASE_URL"
    clientOutput := "../generated/client"
    binaryTargets := usualBinaryTargets
    includeTimestamp := false
    auditActorType := .integer }

/-- The document is aligned and commented. -/
def isPretty (o : Options) : Bool := o.outputFormat == .pretty

end Options

end SchemaCompiler
