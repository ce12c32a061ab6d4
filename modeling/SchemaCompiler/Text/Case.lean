import SchemaCompiler.Text.CaseTable
import SchemaCompiler.Text.Class

/-!
# Upper and lower case

Case mapping of a whole text. Lower-casing works letter by letter with one exception that looks at
the neighbours: a capital sigma becomes the final form at the end of a word.
-/

set_option autoImplicit false

namespace SchemaCompiler.Text

/-- The run of a case table that holds a code point, applied to it. -/
def applyRuns (runs : List (Nat × Nat × Nat × Nat)) (n : Nat) : Option Nat :=
  match runs.find? fun (first, last, step, _) =>
      first ≤ n && n ≤ last && (n - first) % step == 0 with
  | some (first, _, _, target) => some (target + (n - first))
  | none => none

/-- A letter that takes part in the rule for the final sigma. -/
def isCased (c : Char) : Bool := isCapital c || isSmall c || inRanges casedRanges c.toNat

/-- A character that the rule for the final sigma looks past. -/
def isCaseIgnorable (c : Char) : Bool :=
  c == '\x27' || c == '.' || c == ':' || c == '^' || c == '\x60' ||
    inRanges caseIgnorableRanges c.toNat

/-- The lower case of one character on its own. -/
def lowerLetter (c : Char) : List Char :=
  if c.toNat < 0x80 then [if isCapital c then Char.ofNat (c.toNat + 32) else c]
  else if c == '\u0130' then ['i', '\u0307']
  else match applyRuns lowerRuns c.toNat with
    | some n => [Char.ofNat n]
    | none => [c]

/-- A sigma is final when a cased letter comes before it and none after it, looking past the
ignorable characters on both sides. `before` is the text before it, nearest character first. -/
def isFinalSigma (before after : List Char) : Bool :=
  (before.dropWhile isCaseIgnorable).head?.any isCased &&
    !(after.dropWhile isCaseIgnorable).head?.any isCased

/-- Lower case of the rest of a text, after the reversed text `before`. -/
def lowerAfter (before : List Char) : List Char → List Char
  | [] => []
  | c :: rest =>
    let letter :=
      if c == '\u03a3' then [if isFinalSigma before rest then '\u03c2' else '\u03c3']
      else lowerLetter c
    letter ++ lowerAfter (c :: before) rest

/-- Lower case of a text. -/
def lowerChars (cs : List Char) : List Char := lowerAfter [] cs

/-- Lower case of a string. -/
def lower (s : String) : String := String.ofList (lowerChars s.toList)

/-- The upper case of one character. -/
def upperLetter (c : Char) : List Char :=
  if c.toNat < 0x80 then [if isSmall c then Char.ofNat (c.toNat - 32) else c]
  else match upperExpansions.find? (·.1 == c.toNat) with
    | some (_, letters) => letters.map Char.ofNat
    | none => match applyRuns upperRuns c.toNat with
      | some n => [Char.ofNat n]
      | none => [c]

/-- Upper case of a string. -/
def upper (s : String) : String := String.ofList (s.toList.flatMap upperLetter)

end SchemaCompiler.Text
