import SchemaCompiler.Value.Literal

/-!
# Problems of descriptors

Reading a descriptor from a value either succeeds or reports every problem found, each with the
path to where it is. `Reading` is the applicative of such readings: both sides of a combination are
read, and their problems are put one after the other.
-/

set_option autoImplicit false

namespace SchemaCompiler

/-- One step of the path to a problem. -/
inductive PathStep where
  | key (name : String)
  | index (i : Int)
  deriving DecidableEq, Inhabited, Repr

/-- What is wrong with a part of a descriptor. -/
inductive ProblemKind where
  | missing
  | stringType
  | stringEncoding
  | boolType
  | boolParsing
  | listType
  | dictType
  /-- A part that should be a descriptor of a named class. -/
  | recordType (record : String)
  /-- A part that should be one of some texts. -/
  | choice (allowed : List String)
  | pathType
  /-- A part that a rule of its own refuses. -/
  | refused (reason : String)
  deriving DecidableEq, Inhabited, Repr

namespace ProblemKind

/-- The tag of a kind of problem. -/
def tag : ProblemKind → String
  | missing => "missing"
  | stringType => "string_type"
  | stringEncoding => "string_unicode"
  | boolType => "bool_type"
  | boolParsing => "bool_parsing"
  | listType => "list_type"
  | dictType => "dict_type"
  | recordType _ => "model_type"
  | choice _ => "enum"
  | pathType => "path_type"
  | refused _ => "value_error"

/-- Texts quoted and listed as alternatives. -/
def alternatives (texts : List String) : String :=
  let quoted := texts.map fun t => "'" ++ t ++ "'"
  match quoted.reverse with
  | [] => ""
  | [only] => only
  | last :: earlier => String.intercalate ", " earlier.reverse ++ " or " ++ last

/-- The message of a kind of problem. -/
def message : ProblemKind → String
  | missing => "Field required"
  | stringType => "Input should be a valid string"
  | stringEncoding =>
    "Input should be a valid string, unable to parse raw data as a unicode string"
  | boolType => "Input should be a valid boolean"
  | boolParsing => "Input should be a valid boolean, unable to interpret input"
  | listType => "Input should be a valid list"
  | dictType => "Input should be a valid dictionary"
  | recordType record => "Input should be a valid dictionary or instance of " ++ record
  | choice allowed => "Input should be " ++ alternatives allowed
  | pathType => "Input is not a valid path for <class 'pathlib.Path'>"
  | refused reason => "Value error, " ++ reason

end ProblemKind

/-- Where the kinds of problems are explained: the host of the pages, and the release of the library
that reads descriptors. -/
structure HelpSite where
  host : String
  release : String
  deriving DecidableEq, Inhabited, Repr

namespace HelpSite

/-- The help for the release that reports are those of. -/
def current : HelpSite := ⟨"errors.pydantic.dev", "2.14"⟩

/-- The page about a kind of problem, which is found under its tag. -/
def page (site : HelpSite) (kind : ProblemKind) : String :=
  "https://" ++ site.host ++ "/" ++ site.release ++ "/v/" ++ kind.tag

end HelpSite

/-- A problem, the path to it, and the value that was found there. -/
structure Problem where
  path : List PathStep
  kind : ProblemKind
  input : Value
  deriving Inhabited, Repr

namespace PathStep

/-- A step as text. -/
def text : PathStep → String
  | key name => name
  | index i => toString i

end PathStep

namespace Problem

/-- The path of a problem as text. -/
def pathText (p : Problem) : String := String.intercalate "." (p.path.map (·.text))

/-- The longest prefix of a text that has at most `limit` bytes. -/
def takeBytes (limit : Nat) : List Char → List Char
  | [] => []
  | c :: cs => if c.utf8Size ≤ limit then c :: takeBytes (limit - c.utf8Size) cs else []

/-- A literal of more than fifty bytes is shown by its first twenty-five and last twenty-four. -/
def abridged (s : String) : String :=
  if s.utf8ByteSize ≤ 50 then s
  else
    String.ofList (takeBytes 25 s.toList) ++ "..." ++
      String.ofList (takeBytes 24 s.toList.reverse).reverse

/-- The full report of the problems of one descriptor of class `record`. Each problem takes a line
for its path, one for what is wrong, and one for the page about it. -/
def report (record : String) (problems : List Problem) : String :=
  let count := problems.length
  let head := toString count ++ " validation error" ++ (if count == 1 then "" else "s") ++ " for "
    ++ record
  String.intercalate "\n" (head :: problems.flatMap fun p =>
    (if p.path.isEmpty then [] else [p.pathText]) ++
    ["  " ++ p.kind.message ++ " [type=" ++ p.kind.tag ++ ", input_value=" ++
       abridged p.input.literal ++ ", input_type=" ++ p.input.kindName ++ "]",
     "    For further information visit " ++ HelpSite.current.page p.kind])

end Problem

/-- A value read from a descriptor, or everything that is wrong with it. -/
def Reading (α : Type) : Type := Except (List Problem) α

namespace Reading

variable {α β : Type}

/-- A successful reading. -/
def accept (a : α) : Reading α := Except.ok a

/-- A reading that fails with one problem at the place being read. -/
def refuse (kind : ProblemKind) (input : Value) : Reading α := Except.error [⟨[], kind, input⟩]

/-- Applies a function to what is read. -/
def map (f : α → β) : Reading α → Reading β
  | .ok a => .ok (f a)
  | .error ps => .error ps

/-- Reads two parts and keeps the problems of both. -/
def combine (f : Reading (α → β)) (x : Reading α) : Reading β :=
  match f, x with
  | .ok f, .ok a => .ok (f a)
  | .ok _, .error ps => .error ps
  | .error ps, .ok _ => .error ps
  | .error ps, .error qs => .error (ps ++ qs)

instance : Functor Reading where
  map := Reading.map

instance : Applicative Reading where
  pure := Reading.accept
  seq f x := Reading.combine f (x ())

/-- Puts a step in front of the path of every problem. -/
def under (step : PathStep) : Reading α → Reading α
  | .ok a => .ok a
  | .error ps => .error (ps.map fun p => { p with path := step :: p.path })

/-- Reads the items of a list, the first of which has position `i`. -/
def itemsFrom (read : Value → Reading α) : Int → List Value → Reading (List α)
  | _, [] => accept []
  | i, v :: vs => combine (map List.cons (under (.index i) (read v))) (itemsFrom read (i + 1) vs)

/-- The reading as a result: what was read, or the problems. -/
def result (r : Reading α) : Except (List Problem) α := r

end Reading

end SchemaCompiler
