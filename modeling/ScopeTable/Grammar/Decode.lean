/-
# ScopeTable.Grammar.Decode -- reading nodes from JSON

One reader serves every shape and goes by the layouts of the node grammar. It takes the tree of a text
from left to right and stops at the first thing wrong, be it with the text or with the node. A value that
is not wanted is passed over.

The number of arrays and objects that may be open at once is bounded while values are read, and not while
they are passed over. The reader of a value inside an array or object is the reader with one less to open;
at the bound there is none.
-/
import ScopeTable.Grammar.Layout

namespace ScopeTable.Grammar

open ScopeTable.Json

/-- What reading a value gives. -/
abbrev Outcome (α : Type) := Except DecodeError α

/-- A reader of values of every shape. -/
abbrev Reader := (s : Shape) → Json → Outcome s.Value

/-! ## §A What is common to all values -/

/-- What is wrong with the text, as an outcome. -/
def ofText {α : Type} (r : Except Fault α) : Outcome α := r.mapError .text

/-- What is wrong with the node, as an outcome. -/
def ofNode {α : Type} (r : Except Mismatch α) : Outcome α := r.mapError .data

/-- A fault of the text. -/
def fail {α : Type} (fault : Fault) : Outcome α := .error (.text fault)

/-- A miss of the grammar. -/
def miss {α : Type} (mismatch : Mismatch) : Outcome α := .error (.data mismatch)

/-- A value of the wrong kind. A value without structure is read to its end before it is found wrong, so a
fault inside it counts first. -/
def wrongType {α : Type} (expected : String) : Json → Outcome α
  | .absent fault => fail fault
  | .nothing lexeme => do
    ofText lexeme.value
    miss (.invalidType .null expected)
  | .scalar lexeme => do
    let value ← ofText lexeme.value
    miss (.invalidType (.ofScalar value) expected)
  | .text lexeme => do
    let value ← ofText lexeme.value
    miss (.invalidType (.text value) expected)
  | .array _ _ => miss (.invalidType .sequence expected)
  | .object _ _ => miss (.invalidType .map expected)

/-! ## §B Leaves -/

/-- Reads a string. -/
def readText (expected : String) : Json → Outcome String
  | .text lexeme => ofText lexeme.value
  | j => wrongType expected j

/-- Reads a string of exactly one character. -/
def readCharacter (expected : String) (j : Json) : Outcome Char := do
  let s ← readText expected j
  match s.toList with
  | [c] => .ok c
  | _ => miss (.invalidValue (.text s) expected)

/-- Reads a number. -/
def readNumber (expected : String) : Json → Outcome Number
  | .scalar lexeme => do
    match ← ofText lexeme.value with
    | .number n => .ok n
    | value => miss (.invalidType (.ofScalar value) expected)
  | j => wrongType expected j

/-- Reads a whole number between two bounds. -/
def readWhole (low high : Int) (expected : String) (j : Json) : Outcome Int := do
  let within (n : Int) : Outcome Int :=
    if low ≤ n ∧ n ≤ high then .ok n else miss (.invalidValue (.integer n) expected)
  match ← readNumber expected j with
  | .natural n => within n.toNat
  | .negative n => within n.toInt
  | .real x => miss (.invalidType (.real x) expected)

/-- Reads a number as a real. The range is the same for whole numbers, and none of 64 bits exceeds it. -/
def readReal (expected : String) (j : Json) : Outcome Float := do
  let n ← readNumber expected j
  ofText (inRange n.toFloat)

/-- Reads a truth value. -/
def readBoolean (expected : String) : Json → Outcome Bool
  | .scalar lexeme => do
    match ← ofText lexeme.value with
    | .boolean b => .ok b
    | value => miss (.invalidType (.ofScalar value) expected)
  | j => wrongType expected j

/-- Reads `null`. -/
def readNull : Json → Outcome Unit
  | .nothing lexeme => ofText lexeme.value
  | j => wrongType "unit" j

/-! ## §C Fields -/

/-- Reads the value of a field. -/
def readField (inner : Reader) : (f : Field) → Json → Outcome f.Value
  | .required _ shape, j => inner shape j
  | .defaulted _ shape _, j => inner shape j
  | .nullable _ _, .nothing lexeme => do
    ofText lexeme.value
    .ok none
  | .nullable _ shape, j => some <$> inner shape j

/-- Reads the fields of a record from an array, in the order of declaration; `place` is the place of the
first of them. Nothing may follow the last one. -/
def readRow (inner : Reader) (expected : String) :
    Nat → (fs : List Field) → List Json → Ending → Outcome (Values fs)
  | _, [], [], ending => ofText ending
  | _, [], _ :: _, _ => fail .malformed
  | place, f :: fs, [], ending => do
    ofText ending
    match f.absent? with
    | some value =>
      let values ← readRow inner expected (place + 1) fs [] ending
      .ok (value, values)
    | none => miss (.invalidLength place expected)
  | place, f :: fs, item :: items, ending => do
    let value ← readField inner f item
    let values ← readRow inner expected (place + 1) fs items ending
    .ok (value, values)

/-- A record of which no field has been read yet. -/
def Slots.empty : (fs : List Field) → Slots fs
  | [] => ()
  | _ :: fs => (none, Slots.empty fs)

/-- Reads the value of the field with the given name into its place. A value of no field is passed over. -/
def Slots.fill (inner : Reader) (name : String) (j : Json) :
    (fs : List Field) → Slots fs → Outcome (Slots fs)
  | [], () => ofText j.pass
  | f :: fs, (slot, slots) =>
    if f.name = name then
      match slot with
      | some _ => miss (.duplicateField name)
      | none => do
        let value ← readField inner f j
        .ok (some value, slots)
    else do
      let slots ← Slots.fill inner name j fs slots
      .ok (slot, slots)

/-- The values of a record whose members have all been read. The first field that is missing and may not
be is at fault. -/
def Slots.complete : (fs : List Field) → Slots fs → Outcome (Values fs)
  | [], () => .ok ()
  | f :: fs, (slot, slots) => do
    match slot <|> f.absent? with
    | some value =>
      let values ← Slots.complete fs slots
      .ok (value, values)
    | none => miss (.missingField f.name)

/-- Reads the name of a member. -/
def readKey : Json → Outcome String
  | .text lexeme => ofText lexeme.value
  | .absent fault => fail fault
  | _ => fail .malformed

/-- Reads the members of an object into the places of their fields. -/
def readMembers (inner : Reader) (fs : List Field) :
    Slots fs → List Member → Outcome (Slots fs)
  | slots, [] => .ok slots
  | slots, .mk key value :: members => do
    let name ← readKey key
    let slots ← slots.fill inner name value
    readMembers inner fs slots members

/-- How many fields a record has, in words. -/
def countWords (count : Nat) : String :=
  Decimal.integerText count ++ (if count = 1 then " element" else " elements")

/-! ## §D Records, choices, sequences -/

/-- Reads a record: an object of its fields or an array of their values. -/
def readRecord (inner : Option Reader) (expected : String) (fs : List Field) :
    Json → Outcome (Values fs)
  | .array items ending =>
    match inner with
    | none => fail .malformed
    | some inner => readRow inner (expected ++ " with " ++ countWords fs.length) 0 fs items ending
  | .object members ending =>
    match inner with
    | none => fail .malformed
    | some inner => do
      let slots ← readMembers inner fs (.empty fs) members
      ofText ending
      slots.complete
  | j => wrongType expected j

/-- The variant with the given name. -/
def findVariant {α : Type} (variants : List (Variant α)) (name : String) : Outcome (Variant α) :=
  match variants.find? fun v => v.name == name with
  | some variant => .ok variant
  | none => miss (.unknownVariant name (variants.map Variant.name))

/-- A variant given by its name alone. -/
def Variant.alone {α : Type} : Variant α → Outcome α
  | .plain _ value => .ok value
  | .holding _ shape _ => miss (.invalidType .unitVariant shape.variantWords)

/-- Reads a variant given as a member of an object. -/
def Variant.read {α : Type} (inner : Reader) : Variant α → Json → Outcome α
  | .plain _ value, j => do
    readNull j
    .ok value
  | .holding _ shape make, j => make <$> inner shape j

/-- Reads a choice: the name of a variant, or an object with one member. No other value is looked at. -/
def readChoice {α : Type} (inner : Option Reader) (variants : List (Variant α)) : Json → Outcome α
  | .text lexeme => do
    let name ← ofText lexeme.value
    let variant ← findVariant variants name
    variant.alone
  | .object members ending =>
    match inner, members with
    | none, _ => fail .malformed
    | some _, [] => do
      ofText ending
      fail .malformed
    | some inner, .mk key value :: others => do
      let name ← readKey key
      let variant ← findVariant variants name
      let node ← variant.read inner value
      match others with
      | [] => do
        ofText ending
        .ok node
      | _ :: _ => fail .malformed
  | .absent fault => fail fault
  | .nothing _ => fail .malformed
  | .scalar _ => fail .malformed
  | .array _ _ => fail .malformed

/-- Reads a node by its layout. -/
def readNode {α : Type} (inner : Option Reader) (expected : String) : Layout α → Json → Outcome α
  | .record fs make, j => do
    let values ← readRecord inner expected fs j
    ofNode (make values)
  | .choice variants, j => readChoice inner variants j

/-- Reads the items of an array. -/
def readItems (inner : Reader) (s : Shape) : List Json → Outcome (List s.Value)
  | [] => .ok []
  | item :: items => do
    let value ← inner s item
    let values ← readItems inner s items
    .ok (value :: values)

/-- The reader of a place, given the reader of the places inside it, if there can be any. -/
def readShape (inner : Option Reader) : Reader
  | .text, j => readText Shape.text.words j
  | .line, j => do
    let n ← readWhole 0 (UInt64.size - 1) Shape.line.words j
    .ok (UInt64.ofNat n.toNat)
  | .offset, j => do
    let n ← readWhole 0 (UInt32.size - 1) Shape.offset.words j
    .ok (UInt32.ofNat n.toNat)
  | .integer, j => do
    let n ← readWhole Int64.minValue.toInt Int64.maxValue.toInt Shape.integer.words j
    .ok (Int64.ofInt n)
  | .real, j => readReal Shape.real.words j
  | .character, j => readCharacter Shape.character.words j
  | .boolean, j => readBoolean Shape.boolean.words j
  | .list item, .array items ending =>
    match inner with
    | none => fail .malformed
    | some inner => do
      let values ← readItems inner item items
      ofText ending
      .ok values
  | .list item, j => wrongType (Shape.list item).words j
  | .pair first second, .array items ending =>
    match inner with
    | none => fail .malformed
    | some inner => do
      let values ← readRow inner (Shape.pair first second).words 0
        [.required "first" first, .required "second" second] items ending
      .ok (values.1, values.2.1)
  | .pair first second, j => wrongType (Shape.pair first second).words j
  | .node kind, j => readNode inner kind.recordWords (layoutOf kind) j

/-- The reader of a place inside which the given number of arrays and objects may be open. -/
def read : Nat → Reader
  | 0 => readShape none
  | room + 1 => readShape (some (read room))

/-! ## §E Texts -/

/-- How many arrays and objects may be open at once where values are read. -/
def greatestDepth : Nat := 127

/-- Reads a node from a document. Nothing may follow it. -/
def decodeDocument (k : Kind) (document : Document) : Outcome k.Node := do
  let node ← read greatestDepth (.node k) document.root
  ofText document.ending
  .ok node

/-- Reads a node from a text. -/
def decode (k : Kind) (text : String) : Outcome k.Node :=
  decodeDocument k (Document.ofChars text.toList)

end ScopeTable.Grammar
