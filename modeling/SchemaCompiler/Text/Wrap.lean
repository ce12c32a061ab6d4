import SchemaCompiler.Text.Width

/-!
# Wrapping

The breaking of a text between its words, so that each line fits a number of cells as far as its
words do. A word that does not fit a line of its own is cut, or stands out. Nothing of the text is
lost: blanks stay with the word before them.
-/

set_option autoImplicit false

namespace SchemaCompiler.Text

/-- Drops the blanks at the end. -/
def trimEnd (cs : List Char) : List Char := (cs.reverse.dropWhile isBlank).reverse

/-- The words of a text, each with the blanks after it and the first with those before it. `word` is
the word being read, in reverse. -/
def wordsAfter (word : List Char) : List Char → List (List Char)
  | [] => [word.reverse]
  | c :: cs =>
    if !isBlank c && word.head?.any isBlank && !word.all isBlank then
      word.reverse :: wordsAfter [c] cs
    else wordsAfter (c :: word) cs

/-- Cuts a text into pieces of at most some cells. `piece` is the piece being filled, in reverse,
and `filled` is its width. -/
def chop (cells : Nat) (piece : List Char) (filled : Nat) : List Char → List (List Char)
  | [] => [piece.reverse]
  | c :: cs =>
    if filled + charWidth c ≤ cells then chop cells (c :: piece) (filled + charWidth c) cs
    else piece.reverse :: chop cells [c] (charWidth c) cs

/-- A line, unless it is empty. -/
def begun (line : List Char) : List (List Char) := if line.isEmpty then [] else [line]

/-- Puts words on lines, where `line` is the line being filled. A word that does not fit it begins a
line; one that fits no line is cut if `folds` says so. -/
def fillLines (folds : Bool) (cells : Nat) (line : List Char) :
    List (List Char) → List (List Char)
  | [] => [line]
  | w :: ws =>
    if width line + width (trimEnd w) ≤ cells then fillLines folds cells (line ++ w) ws
    else if folds && cells < width (trimEnd w) then
      let pieces := chop cells [] 0 w
      begun line ++ pieces.dropLast ++ fillLines folds cells (pieces.getLast?.getD []) ws
    else begun line ++ fillLines folds cells w ws

/-- Takes blanks away from the end of a line as long as it has more characters than there are
cells. -/
def cropBlanks (cells : Nat) (line : List Char) : List Char :=
  line.take (max cells (trimEnd line).length)

/-- A text on lines of at most some cells. -/
def wrap (folds : Bool) (cells : Nat) (cs : List Char) : List (List Char) :=
  (fillLines folds cells [] (wordsAfter [] cs)).map (cropBlanks cells)

end SchemaCompiler.Text
