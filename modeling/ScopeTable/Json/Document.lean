/-
# ScopeTable.Json.Document -- a JSON text as a tree, as far as it is one

Reading a text as JSON never fails: where the text stops being JSON, the tree holds the fault at that
place. A reader that walks the tree from left to right therefore meets its own complaints and those about
the text in the order in which they stand there, and the first one counts.

The tree is built by a machine that takes one lexical element at a time. Its state is the list of open
arrays and objects, innermost first, and what may come next.
-/
import ScopeTable.Json.Token

namespace ScopeTable

/-! ## §A Trees -/

/-- How an array or object ends: with its bracket, or with the fault that stands in its place. -/
abbrev Json.Ending := Except Json.Fault Unit

mutual
/-- A JSON value, as far as the text is one. `absent` stands where a value should begin and none does;
`nothing` is the value `null`. -/
inductive Json where
  | absent (fault : Json.Fault)
  | nothing (lexeme : Json.Lexeme Unit)
  | scalar (lexeme : Json.Lexeme Json.Scalar)
  | text (lexeme : Json.Lexeme String)
  | array (items : List Json) (ending : Json.Ending)
  | object (members : List Json.Member) (ending : Json.Ending)
/-- A member of an object. In sound JSON its key is a string. -/
inductive Json.Member where
  | mk (key value : Json)
end

namespace Json

/-- A text as one value and what follows it: nothing, or something that should not be there. -/
structure Document where
  root : Json
  ending : Ending

namespace Member

/-- What stands for the name of a member. -/
def key : Member → Json
  | mk key _ => key

/-- The value of a member. -/
def value : Member → Json
  | mk _ value => value

end Member

/-- The value `null`. -/
def null : Json := .nothing (.sound ())

/-- A truth value. -/
def boolean (b : Bool) : Json := .scalar (.sound (.boolean b))

/-- A number. -/
def number (n : Number) : Json := .scalar (.sound (.number n))

/-- A whole number that is not negative. -/
def natural (n : UInt64) : Json := .number (.natural n)

/-- A whole number with sign. -/
def integer (n : Int64) : Json := .number (if n < 0 then .negative n else .natural n.toUInt64)

/-- A real. -/
def real (x : Float) : Json := .number (.real x)

/-- A string. -/
def string (s : String) : Json := .text (.sound s)

/-- A string of one character. -/
def character (c : Char) : Json := .string (String.ofList [c])

/-- A value that may be missing: `null` stands for one that is. -/
def nullable {α : Type} (write : α → Json) : Option α → Json
  | none => null
  | some a => write a

/-- An array of complete values. -/
def ofList (items : List Json) : Json := .array items (.ok ())

/-- An object of complete members. -/
def ofFields (fields : List (String × Json)) : Json :=
  .object (fields.map fun field => .mk (.string field.1) field.2) (.ok ())

/-- An object of one complete member. -/
def single (name : String) (value : Json) : Json := .ofFields [(name, value)]

/-! ## §B Passing over a value -/

/-- Passing over the key of a member: nothing but a string will do. -/
def passKey : Json → Except Fault Unit
  | .text lexeme => lexeme.passed
  | .absent fault => .error fault
  | _ => .error .malformed

mutual
/-- Passing over a value: nothing is asked of it except that it is JSON. -/
def pass : Json → Except Fault Unit
  | .absent fault => .error fault
  | .nothing lexeme => lexeme.passed
  | .scalar lexeme => lexeme.passed
  | .text lexeme => lexeme.passed
  | .array items ending => do
    passItems items
    ending
  | .object members ending => do
    passMembers members
    ending
/-- Passing over the items of an array. -/
def passItems : List Json → Except Fault Unit
  | [] => .ok ()
  | item :: items => do
    pass item
    passItems items
/-- Passing over the members of an object. -/
def passMembers : List Member → Except Fault Unit
  | [] => .ok ()
  | .mk key value :: members => do
    passKey key
    pass value
    passMembers members
end

/-! ## §C The machine -/

/-- An array or object that is still open, with what it holds so far, latest first. -/
inductive Frame where
  | array (earlier : List Json)
  | object (earlier : List Member) (key : Json)

/-- What may come next: a value; the key of a member; the colon behind a key; or what follows a value that
has just been completed. A machine that has stopped takes no more. -/
inductive Machine where
  | atValue (outer : List Frame)
  | atKey (outer : List Frame) (earlier : List Member)
  | atColon (outer : List Frame) (earlier : List Member) (key : Json)
  | afterValue (outer : List Frame) (value : Json)
  | stopped (document : Document)

namespace Machine

/-- The whole tree, when its innermost open part is the given value and nothing more can be added. -/
def enclose (fault : Fault) : List Frame → Json → Json
  | [], value => value
  | .array earlier :: outer, value =>
    enclose fault outer (.array (value :: earlier).reverse (.error fault))
  | .object earlier key :: outer, value =>
    enclose fault outer (.object (.mk key value :: earlier).reverse (.error fault))

/-- Stops with a fault in the place of what should have come next. -/
def interrupt (fault : Fault) : Machine → Document
  | .atValue outer => ⟨enclose fault outer (.absent fault), .ok ()⟩
  | .atKey outer earlier =>
    ⟨enclose fault outer
      (.object (.mk (.absent fault) (.absent fault) :: earlier).reverse (.error fault)), .ok ()⟩
  | .atColon outer earlier key => ⟨enclose fault (.object earlier key :: outer) (.absent fault), .ok ()⟩
  | .afterValue [] value => ⟨value, .error fault⟩
  | .afterValue (.array earlier :: outer) value =>
    ⟨enclose fault outer (.array (value :: earlier).reverse (.error fault)), .ok ()⟩
  | .afterValue (.object earlier key :: outer) value =>
    ⟨enclose fault outer (.object (.mk key value :: earlier).reverse (.error fault)), .ok ()⟩
  | .stopped document => document

/-- Stops at a key that is no string. -/
def refuseKey (outer : List Frame) (earlier : List Member) (key : Json) : Machine :=
  .stopped
    ⟨enclose .malformed outer
      (.object (.mk key (.absent .malformed) :: earlier).reverse (.error .malformed)), .ok ()⟩

/-- Takes one lexical element. -/
def step : Machine → Token → Machine
  | .atValue outer, .nothing lexeme => .afterValue outer (.nothing lexeme)
  | .atValue outer, .scalar lexeme => .afterValue outer (.scalar lexeme)
  | .atValue outer, .text lexeme => .afterValue outer (.text lexeme)
  | .atValue outer, .openBracket => .atValue (.array [] :: outer)
  | .atValue outer, .openBrace => .atKey outer []
  | .atValue (.array [] :: outer), .closeBracket => .afterValue outer (.array [] (.ok ()))
  | .atKey outer earlier, .text lexeme => .atColon outer earlier (.text lexeme)
  | .atKey outer [], .closeBrace => .afterValue outer (.object [] (.ok ()))
  | .atKey outer earlier, .nothing lexeme => refuseKey outer earlier (.nothing lexeme)
  | .atKey outer earlier, .scalar lexeme => refuseKey outer earlier (.scalar lexeme)
  | .atKey outer earlier, .openBracket => refuseKey outer earlier (.array [] (.error .malformed))
  | .atKey outer earlier, .openBrace => refuseKey outer earlier (.object [] (.error .malformed))
  | .atColon outer earlier key, .colon => .atValue (.object earlier key :: outer)
  | .afterValue (.array earlier :: outer) value, .comma => .atValue (.array (value :: earlier) :: outer)
  | .afterValue (.array earlier :: outer) value, .closeBracket =>
    .afterValue outer (.array (value :: earlier).reverse (.ok ()))
  | .afterValue (.object earlier key :: outer) value, .comma => .atKey outer (.mk key value :: earlier)
  | .afterValue (.object earlier key :: outer) value, .closeBrace =>
    .afterValue outer (.object (.mk key value :: earlier).reverse (.ok ()))
  | machine, _ => .stopped (machine.interrupt .malformed)

/-- The document, when no more lexical elements come. -/
def finish : Machine → Document
  | .afterValue [] value => ⟨value, .ok ()⟩
  | machine => machine.interrupt .truncated

end Machine

namespace Document

/-- The document that lexical elements make up. -/
def ofTokens (tokens : List Token) : Document := (tokens.foldl Machine.step (.atValue [])).finish

/-- The document that a text spells. -/
def ofChars (cs : List Char) : Document := ofTokens (Token.scan cs)

end Document

end Json

end ScopeTable
