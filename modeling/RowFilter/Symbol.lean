import RowFilter.Column
/-!
# Operator symbols

An operator can also be written as a symbol. Datetime columns have a table of
their own, in which the ordering symbols are date words.
-/
namespace RowFilter

/-- Which table of symbols a column uses. -/
inductive SymbolFamily
  | generic | datetime
  deriving DecidableEq, Repr

def CellKind.symbolFamily : CellKind → SymbolFamily
  | .datetime => .datetime
  | _ => .generic

namespace SymbolFamily

def table : SymbolFamily → List (String × Operator)
  | generic =>
    [("=", .equals), ("!=", .notEquals), (">", .greaterThan), (">=", .greaterOrEqual),
      ("<", .lessThan), ("<=", .lessOrEqual), ("LIKE", .contains), ("NOT LIKE", .notContains),
      ("IN", .anyOf), ("NOT IN", .noneOf), ("HAS", .allOf), ("==", .exactly),
      ("IS NULL", .isEmpty), ("IS NOT NULL", .isNotEmpty)]
  | datetime =>
    [("=", .equals), ("!=", .notEquals), ("<", .before), (">", .after), ("<=", .onOrBefore),
      (">=", .onOrAfter), ("IS WITHIN", .within), ("IS NULL", .isEmpty),
      ("IS NOT NULL", .isNotEmpty)]

/-- A symbol with one space between its words, in upper case. -/
def normalize (symbol : String) : String :=
  (String.intercalate " " (Text.words symbol)).map Char.toUpper

/-- The operator of a symbol, whatever its case and the blanks in it. -/
def operator? (f : SymbolFamily) (symbol : String) : Option Operator :=
  let symbol := normalize symbol
  (f.table.find? fun (s, _) => s = symbol).map Prod.snd

/-- The symbol of an operator. An ordering operator has the symbol of its date word
where it has none itself. -/
def symbol? (f : SymbolFamily) (op : Operator) : Option String :=
  ((f.table.find? fun (_, o) => o = op) <|> f.table.find? fun (_, o) => o.canonical = op).map
    Prod.fst

end SymbolFamily

end RowFilter
