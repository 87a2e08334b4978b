/-
# ScopeTable.Analysis.Listing -- a symbol table as text

A listing has one row for every entry. Classes, fields and methods stand in the order of their folded
names; the variables of a method in the order of their kind, then their line, then their folded name; and
the members of a class or method follow it, further to the right. The order in which a table happens to
hold its entries plays no part.

A listing is written to any writer, piece by piece, and ends at the first piece that fails. The text of a
listing is what is written to a text in memory.
-/
import ScopeTable.Analysis.Table
import ScopeTable.Text.PieceWriter

namespace ScopeTable

open Text Decimal

/-! ## §A Rows -/

/-- A row of a listing. -/
inductive Row where
  | ofClass (name : Ident) (parent : Option Ident)
  | ofField (spelling : String) (type : TypeDenoter)
  | ofMethod (name : Ident) (type : TypeDenoter)
  | ofVariable (v : Variable)

namespace Row

/-- The pieces in which a row is written: one line, with its indentation and its line break. -/
def pieces : Row → List String
  | ofClass name none => ["class ", name.spelling, " (line ", integerText name.line.toNat, ")\n"]
  | ofClass name (some parent) =>
    ["class ", name.spelling, " extends ", parent.spelling, " (line ", integerText name.line.toNat, ")\n"]
  | ofField spelling type => "  field " :: spelling :: ": " :: type.pieces ++ ["\n"]
  | ofMethod name type =>
    "  method " :: name.spelling :: ": " :: type.pieces ++ [" (line ", integerText name.line.toNat, ")\n"]
  | ofVariable v =>
    "    " :: v.kind.word :: " " :: v.name.spelling :: ": " :: v.type.pieces ++
      [" (line ", integerText v.line.toNat, ")\n"]

/-- The row as it is written. -/
def written (row : Row) : String := String.join row.pieces

/-- How far a row is indented. -/
def depth : Row → Nat
  | ofClass _ _ => 0
  | ofField _ _ => 2
  | ofMethod _ _ => 2
  | ofVariable _ => 4

/-- The place of an entry in the source text. -/
def place (line : UInt64) : String := " (line " ++ integerText line.toNat ++ ")"

/-- The row as a text without indentation and line break. -/
def text : Row → String
  | ofClass name none => "class " ++ name.spelling ++ place name.line
  | ofClass name (some parent) =>
    "class " ++ name.spelling ++ " extends " ++ parent.spelling ++ place name.line
  | ofField spelling type => "field " ++ spelling ++ ": " ++ type.text
  | ofMethod name type => "method " ++ name.spelling ++ ": " ++ type.text ++ place name.line
  | ofVariable v => v.kind.word ++ " " ++ v.name.spelling ++ ": " ++ v.type.text ++ place v.line

/-- **written_eq**: a row is written as blanks, its text and one line break. -/
theorem written_eq (row : Row) :
    row.written = String.ofList (List.replicate row.depth ' ') ++ row.text ++ "\n" := by
  -- Blanks and the word behind them are one piece.
  have hjoin : ∀ blanks word rest : String, blanks ++ word ++ rest = blanks ++ (word ++ rest) :=
    fun _ _ _ => String.append_assoc
  cases row with
  | ofClass name parent =>
    cases parent <;> simp [written, pieces, text, place, depth, String.append_assoc]
  | ofField spelling type =>
    simpa [written, pieces, text, depth, TypeDenoter.join_pieces, String.append_assoc] using hjoin "  " "field " _
  | ofMethod name type =>
    simpa [written, pieces, text, place, depth, TypeDenoter.join_pieces, String.append_assoc] using
      hjoin "  " "method " _
  | ofVariable v => simp [written, pieces, text, place, depth, TypeDenoter.join_pieces, String.append_assoc]

end Row

/-! ## §B Order -/

/-- Whether one name comes before another or is the same. -/
def nameOrder (a b : String) : Bool := fold a ≤ fold b

/-- The place of a kind of variable among the variables of a method. -/
def VariableKind.rank : VariableKind → Nat
  | result => 0
  | parameter => 1
  | localVar => 2

/-- Whether one variable comes before another or in its place. -/
def variableOrder (a b : Variable) : Bool :=
  if a.kind.rank ≠ b.kind.rank then a.kind.rank < b.kind.rank
  else if a.line ≠ b.line then a.line < b.line
  else nameOrder a.name.spelling b.name.spelling

/-! ## §C Listings -/

/-- The row of a variable. -/
def Variable.row (v : Variable) : Row := .ofVariable v

/-- The row of a method. -/
def MethodTable.row (method : MethodTable) : Row := .ofMethod method.name method.decl.returnType

/-- The row of a class. -/
def ClassTable.row (cls : ClassTable) : Row := .ofClass cls.name cls.parent

/-- The rows of a method: its own, then those of its variables. -/
def MethodTable.rows (method : MethodTable) : List Row :=
  method.row :: (method.scope.values.mergeSort variableOrder).map Variable.row

/-- The rows of a class: its own, then those of its fields, then those of its methods. -/
def ClassTable.rows (cls : ClassTable) : List Row :=
  cls.row ::
    (cls.fields.toList.mergeSort fun a b => nameOrder a.1 b.1).map (fun f => .ofField f.1 f.2.type) ++
    (cls.methods.values.mergeSort fun a b => nameOrder a.name.spelling b.name.spelling).flatMap
      MethodTable.rows

/-- The rows of a table. -/
def SymbolTable.rows (table : SymbolTable) : List Row :=
  (table.classes.values.mergeSort fun a b => nameOrder a.name.spelling b.name.spelling).flatMap
    ClassTable.rows

/-- Writes the listing of a table, up to the first piece that fails. -/
def SymbolTable.render {ω ε : Type} (table : SymbolTable) (out : PieceWriter ω ε) (held : ω) : ω × Option ε :=
  out.writeAll held (table.rows.flatMap Row.pieces)

/-- The listing of a table. -/
def SymbolTable.listing (table : SymbolTable) : String := (table.render .string "").1

/-- **listing_eq**: a listing consists of the rows as they are written. -/
theorem SymbolTable.listing_eq (table : SymbolTable) :
    table.listing = String.join (table.rows.map Row.written) := by
  rw [listing, render, PieceWriter.writeAll_string, String.empty_append]
  dsimp only
  induction table.rows with
  | nil => rfl
  | cons row rows ih =>
    rw [List.flatMap_cons, String.join_append, ih, List.map_cons, String.join_cons, Row.written]

end ScopeTable
