import SchemaCompiler.Text.Case
import SchemaCompiler.Text.EmojiTable
import SchemaCompiler.Text.Lines
import SchemaCompiler.Text.Quoted

/-!
# Emoji

Names between colons stand for emoji. A name may end in the variant that is asked for; a name that
no emoji has stays as it is, with its colons.
-/

set_option autoImplicit false

namespace SchemaCompiler.Text

/-- The characters of an emoji that are stated by their code points. -/
def emojiChars (codePoints : List Char) : List Char :=
  (cutAt '-' [] codePoints).filterMap fun n => (hexNumber? n).map Char.ofNat

/-- An entry of the names as the name and the characters. -/
def emojiEntry (entry : List Char) : List Char × List Char :=
  (entry.takeWhile (· != ':'), emojiChars ((entry.dropWhile (· != ':')).drop 1))

/-- Every name with its emoji. -/
def emojiEntries : List (List Char × List Char) := (words [] emojiNames.toList).map emojiEntry

/-- The emoji of a name. -/
def emojiOf? (name : List Char) : Option (List Char) :=
  (emojiEntries.find? (·.1 == name)).map (·.2)

/-- The variants of an emoji: the ending of a name that asks for one, and the character that selects
it. -/
def emojiVariants : List (List Char × Char) :=
  [("-emoji".toList, '\ufe0f'), ("-text".toList, '\ufe0e')]

/-- A name without an ending that asks for a variant, and what selects that variant. -/
def splitVariant (name : List Char) : List Char × List Char :=
  match emojiVariants.find? fun v => v.1.isSuffixOf name with
  | some (ending, selector) => (name.take (name.length - ending.length), [selector])
  | none => (name, [])

/-- What a name between colons stands for. -/
def emojiOrName (between : List Char) : List Char :=
  let (name, selector) := splitVariant between
  match emojiOf? (lowerChars name) with
  | some emoji => emoji ++ selector
  | none => ':' :: between ++ [':']

/-- A text with its emoji in place of their names. `held` is what was read since a colon that may
begin a name, in reverse. A name has no blanks. -/
def withEmoji (held : Option (List Char)) : List Char → List Char
  | [] => match held with
    | some name => ':' :: name.reverse
    | none => []
  | c :: cs => match held with
    | none => if c == ':' then withEmoji (some []) cs else c :: withEmoji none cs
    | some name =>
      if c == ':' then emojiOrName name.reverse ++ withEmoji none cs
      else if isBlank c then ':' :: name.reverse ++ c :: withEmoji none cs
      else withEmoji (some (c :: name)) cs

end SchemaCompiler.Text
