import SchemaCompiler.Text.Class
import SchemaCompiler.Text.WidthTable

/-!
# Widths on a terminal

The number of cells that a text takes on a terminal. A joiner hides the character after it, and a
selector makes an emoji of the character before it.
-/

set_option autoImplicit false

namespace SchemaCompiler.Text

/-- The character that joins its two neighbours to one emoji. -/
def emojiJoiner : Char := '\u200d'

/-- The character that asks for the emoji form of the character before it. -/
def emojiSelector : Char := '\ufe0f'

/-- The number of cells of a character on its own. -/
def charWidth (c : Char) : Nat :=
  if c.toNat < 0x20 then 0
  else if c.toNat < 0x7f then 1
  else if c.toNat < 0xa0 || inRanges zeroWidthRanges c.toNat then 0
  else if inRanges wideRanges c.toNat then 2
  else 1

/-- The cells that a selector adds to the character it applies to. -/
def selectorWidth : Option Char → Nat
  | some c => if inRanges emojiRanges c.toNat then 1 else 0
  | none => 0

/-- The number of cells of the rest of a text, where `last` is the character that a selector would
apply to: the last one that takes a cell, unless a selector has been there since. -/
def widthAfter (last : Option Char) : List Char → Nat
  | [] => 0
  | c :: cs =>
    if c == emojiJoiner then match cs with
      | [] => 0
      | _ :: rest => widthAfter last rest
    else if c == emojiSelector then selectorWidth last + widthAfter none cs
    else charWidth c + widthAfter (if charWidth c = 0 then last else some c) cs

/-- The number of cells of a text. -/
def width (cs : List Char) : Nat := widthAfter none cs

/-- Some spaces. -/
def spaces (n : Nat) : List Char := List.replicate n ' '

/-- Adds as many spaces as a text lacks of a number of cells. -/
def padRight (cells : Nat) (cs : List Char) : List Char := cs ++ spaces (cells - width cs)

/-- Puts a text at the left of a number of cells. A joiner at the end of the text hides a space,
which is made up for. -/
def alignLeft (cells : Nat) (cs : List Char) : List Char := padRight cells (padRight cells cs)

/-- Puts a text at the right of a number of cells. -/
def alignRight (cells : Nat) (cs : List Char) : List Char := spaces (cells - width cs) ++ cs

/-- Puts a text in the middle of a number of cells. An odd space goes to the right. -/
def alignCenter (cells : Nat) (cs : List Char) : List Char :=
  let before := (cells - width cs) / 2
  spaces before ++ cs ++ spaces (cells - width cs - before)

/-! ## Cutting to a width -/

/-- The longest beginning of a text that takes at most some cells. -/
def takeWidth (cells : Nat) (cs : List Char) : List Char :=
  ((List.range (cs.length + 1)).reverse.map cs.take |>.find? (width · ≤ cells)).getD []

/-- A text of at most some cells: one that is too wide is cut and ends in an ellipsis. A cell that
half a character would have taken is left blank. -/
def truncate (cells : Nat) (cs : List Char) : List Char :=
  if width cs ≤ cells then cs
  else padRight (cells - 1) (takeWidth (cells - 1) cs) ++ ['…']

/-! ## Tabs -/

/-- The cells from one tab stop to the next. -/
def tabStop : Nat := 8

/-- Puts spaces in place of the tabs of a line. `part` is what was read since the last tab, in
reverse, and `cells` is the width of the line before it. -/
def expandTabsFrom (part : List Char) (cells : Nat) : List Char → List Char
  | [] => part.reverse
  | c :: cs =>
    if c == '\t' then
      let begun := part.reverse ++ [' ']
      let reached := cells + width begun
      let stop := (reached + tabStop - 1) / tabStop * tabStop
      begun ++ spaces (stop - reached) ++ expandTabsFrom [] stop cs
    else expandTabsFrom (c :: part) cells cs

/-- A line with spaces in place of its tabs. -/
def expandTabs (line : List Char) : List Char := expandTabsFrom [] 0 line

end SchemaCompiler.Text
