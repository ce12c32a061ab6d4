import SchemaCompiler.CommandLine.Style
import SchemaCompiler.Text.Emoji
import SchemaCompiler.Text.Lines
import SchemaCompiler.Text.Wrap

/-!
# Markup

The lines that commands print are written in a small markup. A tag in brackets opens a style, and
a tag that begins with a slash closes one; backslashes in front of a bracket take a tag for text;
names between colons stand for emoji. What is printed has no styles, so that only the text is left.

`escape` makes markup of a text that is to be printed as it stands.
-/

set_option autoImplicit false

namespace SchemaCompiler

namespace CommandLine

namespace Markup

/-! ## Pieces -/

/-- A piece of markup: text, or what stands in brackets with the number of backslashes in front. -/
inductive Piece where
  | text (cs : List Char)
  | tag (slashes : Nat) (content : List Char)
  deriving DecidableEq, Repr

/-- A character that a tag begins with. -/
def beginsTag (c : Char) : Bool := Text.isSmall c || c == '#' || c == '/' || c == '@'

/-- What follows an opening bracket is a tag: it begins as one, and it is closed before another
bracket opens. -/
def isTag : List Char → Bool
  | [] => false
  | c :: cs => beginsTag c && cs.find? (fun c => c == '[' || c == ']') == some ']'

/-- Some backslashes. -/
def backslashes (n : Nat) : List Char := List.replicate n '\\'

/-- Cuts markup into its pieces. `held` is the piece being read, in reverse, which is a tag or text,
and `slashes` is the number of backslashes in front of the tag or after the text. -/
def pieces (inTag : Bool) (slashes : Nat) (held : List Char) : List Char → List Piece
  | [] => [.text (backslashes slashes ++ held).reverse]
  | c :: cs =>
    if inTag then
      if c == ']' then .tag slashes held.reverse :: pieces false 0 [] cs
      else pieces true slashes (c :: held) cs
    else if c == '\\' then pieces false (slashes + 1) held cs
    else if c == '[' && isTag cs then .text held.reverse :: pieces true slashes [] cs
    else pieces false 0 (c :: backslashes slashes ++ held) cs

/-- The pieces of markup. -/
def ofChars (cs : List Char) : List Piece := pieces false 0 [] cs

/-! ## Writing -/

/-- A piece as markup that stands for the piece as it is written. -/
def escapePiece : Piece → List Char
  | .text cs => cs
  | .tag slashes content => backslashes (2 * slashes + 1) ++ '[' :: content ++ [']']

/-- A single backslash at the end is doubled. -/
def closeSlash (cs : List Char) : List Char :=
  match cs.reverse with
  | '\\' :: '\\' :: _ => cs
  | '\\' :: _ => cs ++ ['\\']
  | _ => cs

/-- A text as markup. -/
def escape (s : String) : String :=
  String.ofList (closeSlash ((ofChars s.toList).flatMap escapePiece))

/-- Markup in a style. -/
def styled (style markup : String) : String :=
  "[" ++ style ++ "]" ++ markup ++ "[/" ++ style ++ "]"

/-! ## Reading -/

/-- Why markup cannot be read. -/
inductive Failure where
  /-- A tag closes a style that is not open. -/
  | unmatched (tag : String)
  /-- A tag closes the last style, and none is open. -/
  | nothingOpen
  deriving DecidableEq, Inhabited, Repr

/-- The message of a failure. -/
def Failure.message : Failure → String
  | unmatched tag => "closing tag '[" ++ tag ++ "]' doesn't match any open tag"
  | nothingOpen => "closing tag '[/]' has nothing to close"

/-- A text without the backslashes in front of brackets. -/
def bareBrackets : List Char → List Char
  | '\\' :: '[' :: cs => '[' :: bareBrackets cs
  | c :: cs => c :: bareBrackets cs
  | [] => []

/-- The text that a piece of text stands for. -/
def plain (cs : List Char) : List Char := Text.withEmoji none (bareBrackets cs)

/-- The name of the style of a tag, without what is set for it. -/
def styleOf (content : List Char) : List Char := content.takeWhile (· != '=')

/-- The styles that are open after a tag. -/
def openAfter (opened : List String) (content : List Char) : Except Failure (List String) :=
  match styleOf content with
  | '/' :: name =>
    if (Text.trimBlanks name).isEmpty then
      match opened with
      | [] => .error .nothingOpen
      | _ :: earlier => .ok earlier
    else
      let style := Style.normalName (Text.trimBlanks name)
      if opened.contains style then .ok (opened.erase style)
      else .error (.unmatched (String.ofList content))
  | name => .ok (Style.normalName name :: opened)

/-- The text that pieces stand for, where `opened` are the styles that are open, latest first. An
odd number of backslashes takes a tag for text; any two of them stand for one. -/
def visible (opened : List String) : List Piece → Except Failure (List Char)
  | [] => .ok []
  | .text cs :: rest => do return plain cs ++ (← visible opened rest)
  | .tag slashes content :: rest => do
    if slashes % 2 = 1 then
      return backslashes (slashes / 2) ++ plain ('[' :: content ++ [']']) ++
        (← visible opened rest)
    else
      return backslashes (slashes / 2) ++ (← visible (← openAfter opened content) rest)

/-- A control character that is never printed: the bell, the backspace, and those that move the
cursor elsewhere than to the next line or tab stop. -/
def isDropped (c : Char) : Bool := [7, 8, 11, 12, 13].contains c.toNat

/-- The text that markup stands for. -/
def render (markup : String) : Except Failure String := do
  return String.ofList ((← visible [] (ofChars markup.toList)).filter fun c => !isDropped c)

/-- The cells of a line that is printed. -/
def lineWidth : Nat := 10000

/-- The lines that are printed for a line of text. -/
def printedLines (line : List Char) : List (List Char) :=
  let line := Text.expandTabs line
  if Text.width line ≤ lineWidth then [line] else Text.wrap true lineWidth line

/-- The text that is printed for markup, which has no tabs. -/
def printed (markup : String) : Except Failure String := do
  let lines := Text.cutAt '\n' [] (← render markup).toList
  return Text.unlines ((lines.flatMap printedLines).map String.ofList)

end Markup

end CommandLine

end SchemaCompiler
