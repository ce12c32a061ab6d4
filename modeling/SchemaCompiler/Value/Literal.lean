import SchemaCompiler.Value.Integer

/-!
# Literals

The form in which messages show a value: texts quoted, containers in their brackets, and a tuple of
one item with a comma after it. A value has a literal unless an integer in it has too many digits.
-/

set_option autoImplicit false

namespace SchemaCompiler

namespace Value

mutual

/-- The literal of a value, if its integers can be written. -/
def literal? : Value → Except IntegerFailure String
  | null => .ok "None"
  | bool true => .ok "True"
  | bool false => .ok "False"
  | int n => integerText n
  | float x => .ok (DecimalLayout.plain.render x)
  | decimal d => .ok ("Decimal('" ++ d.render ++ "')")
  | bytes b => .ok (Text.quotedBytes b)
  | str s => .ok (Text.quoted s)
  | moment s => .ok s
  | list items => do return "[" ++ String.intercalate ", " (← literals? items) ++ "]"
  | tuple [item] => do return "(" ++ (← item.literal?) ++ ",)"
  | tuple items => do return "(" ++ String.intercalate ", " (← literals? items) ++ ")"
  | dict entries => do return "\x7b" ++ String.intercalate ", " (← entryLiterals? entries) ++ "\x7d"

/-- The literals of the items of a list. -/
def literals? : List Value → Except IntegerFailure (List String)
  | [] => .ok []
  | v :: vs => do return (← v.literal?) :: (← literals? vs)

/-- The literals of the entries of a dictionary. -/
def entryLiterals? : List (Value × Value) → Except IntegerFailure (List String)
  | [] => .ok []
  | (k, v) :: rest => do
    return ((← k.literal?) ++ ": " ++ (← v.literal?)) :: (← entryLiterals? rest)

end

/-- The literal of a value, or a note that it has none. -/
def literal (v : Value) : String :=
  match v.literal? with
  | .ok text => text
  | .error _ => "<unprintable " ++ v.kindName ++ " object>"

/-- The literal of a list of texts. -/
def textsLiteral (items : List String) : String := (texts items).literal

/-- The plain text of a value: a text is itself, and a decimal its numeral. -/
def plainText : Value → String
  | str s => s
  | decimal d => d.render
  | v => v.literal

end Value

end SchemaCompiler
