import SchemaCompiler.Text.Class
import SchemaCompiler.Text.Lines

/-!
# Blocks of a document

A document split into its top-level blocks. A block begins at a line that opens one and ends at the
line where its braces are balanced again; braces after a double slash do not count, and text outside
blocks is dropped. A block that is never closed is no block.
-/

set_option autoImplicit false

namespace SchemaCompiler

/-- The kinds of top-level blocks. -/
inductive BlockKind where
  | model
  | enumeration
  | view
  | type
  | datasource
  | generator
  deriving DecidableEq, Inhabited, Repr

namespace BlockKind

/-- Every kind. -/
def all : List BlockKind := [model, enumeration, view, type, datasource, generator]

/-- The word that opens a block. -/
def name : BlockKind → String
  | model => "model"
  | enumeration => "enum"
  | view => "view"
  | type => "type"
  | datasource => "datasource"
  | generator => "generator"

/-- A block of this kind is kept when it is found in an existing document. -/
def isCarriedOver : BlockKind → Bool
  | model | enumeration | view | type => true
  | datasource | generator => false

end BlockKind

/-- A top-level block with its complete text. -/
structure Block where
  kind : BlockKind
  name : String
  text : String
  deriving DecidableEq, Inhabited, Repr

namespace Block

/-- The text after a word, if the text begins with it. -/
def afterWord? (word : List Char) : List Char → Option (List Char)
  | cs => if Text.startsWith cs word then some (cs.drop word.length) else none

/-- The kind and name of the block that a line opens: the word of the kind, blanks, the name, and a
brace, with blanks around. -/
def opening? (line : List Char) : Option (BlockKind × String) :=
  let body := line.dropWhile Text.isBlank
  BlockKind.all.findSome? fun kind => do
    let rest ← afterWord? kind.name.toList body
    let named := rest.dropWhile Text.isBlank
    let name := named.takeWhile Text.isWord
    let tail := (named.dropWhile Text.isWord).dropWhile Text.isBlank
    if named.length < rest.length && !name.isEmpty && tail.head? == some '\x7b' then
      some (kind, String.ofList name)
    else none

/-- A line up to its first double slash. -/
def code : List Char → List Char
  | [] => []
  | '/' :: '/' :: _ => []
  | c :: cs => c :: code cs

/-- The opening braces of a line less its closing ones, comments apart. -/
def balance (line : List Char) : Int :=
  ((code line).count '\x7b' : Int) - (code line).count '\x7d'

/-- A block being read: what its first line says, its lines in reverse, and its open braces. -/
structure Open where
  kind : BlockKind
  name : String
  lines : List (List Char)
  depth : Int
  deriving Inhabited, Repr

/-- The text of lines in reverse. -/
def joinLines (reversed : List (List Char)) : String :=
  String.intercalate "\n" (reversed.reverse.map String.ofList)

/-- The block that a line leaves behind: finished, or still open. -/
def finish (o : Open) : Block ⊕ Open :=
  if o.depth ≤ 0 then .inl ⟨o.kind, o.name, joinLines o.lines⟩ else .inr o

/-- The blocks of some lines, after the beginning of one. -/
def ofLines : Option Open → List (List Char) → List Block
  | _, [] => []
  | none, line :: rest =>
    match opening? line with
    | none => ofLines none rest
    | some (kind, name) =>
      match finish ⟨kind, name, [line], balance line⟩ with
      | .inl b => b :: ofLines none rest
      | .inr o => ofLines (some o) rest
  | some o, line :: rest =>
    match finish { o with lines := line :: o.lines, depth := o.depth + balance line } with
    | .inl b => b :: ofLines none rest
    | .inr o => ofLines (some o) rest

/-- The blocks of a document. -/
def extract (text : String) : List Block := ofLines none (Text.lines text)

/-- A text holds the mark of a primary key: the attribute, which also ends the directive of a
composite key, with no further word character behind it. -/
def hasKeyMark : List Char → Bool
  | [] => false
  | '@' :: 'i' :: 'd' :: rest => !rest.head?.any Text.isWord || hasKeyMark rest
  | _ :: rest => hasKeyMark rest

/-- Warnings about the model blocks of a finished document that have no primary key. -/
def lint (text : String) : List String :=
  ((extract text).filter fun b => b.kind == .model && !hasKeyMark b.text.toList).map fun b =>
    "Model " ++ b.name ++ " appears to be missing a primary key"

/-- The blocks of an existing document that are carried over, apart from excluded names. -/
def legacy (text : String) (exclude : List String) : List Block :=
  (extract text).filter fun b => b.kind.isCarriedOver && !exclude.contains b.name

end Block

end SchemaCompiler
