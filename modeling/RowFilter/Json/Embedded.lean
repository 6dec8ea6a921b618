import RowFilter.Json.Reader
/-!
# Documents within documents

In a document that was read from text an object may hold a key more than once, and an
object with `embeddedKey` as its first key stands for the document whose text it holds. A
settled document has neither: each key is there once, and every document that was held as
text stands in the place of the text.

* `Json.settle?`: the settled form of a document.
* `Json.ofText?`: the settled document that a whole text is.
-/
namespace RowFilter.Json

/-- The first key of an object that holds the text of the document it stands for. -/
def embeddedKey : String := "$serde_json::private::RawValue"

/-- Whether an object with these fields stands for another document. -/
def isEmbedded : List (String × Json) → Bool
  | (key, _) :: _ => key = embeddedKey
  | [] => false

/-- The text an object holds that stands for another document: its only value. -/
def embeddedText? : List (String × Json) → Option String
  | [(_, .str text)] => some text
  | _ => none

mutual

/-- The settled form of a document, where `ofText` reads the texts it holds. -/
def settleWith? (ofText : String → Option Json) : Json → Option Json
  | .arr items => (settleItems? ofText items).map .arr
  | .obj fields =>
    if isEmbedded fields then (embeddedText? fields).bind ofText
    else (settleValues? ofText fields).map fun fs => .obj (settleFields fs)
  | j => some j

def settleItems? (ofText : String → Option Json) : List Json → Option (List Json)
  | [] => some []
  | j :: items => do
    let j ← settleWith? ofText j
    let js ← settleItems? ofText items
    return j :: js

/-- The fields with their values settled, as many as there were. -/
def settleValues? (ofText : String → Option Json) :
    List (String × Json) → Option (List (String × Json))
  | [] => some []
  | (key, j) :: fields => do
    let j ← settleWith? ofText j
    let fs ← settleValues? ofText fields
    return (key, j) :: fs

end

/-- The settled document that a whole text is, if fewer than `depth` texts stand around
any text in it. -/
def ofTextWithin? : Nat → String → Option Json
  | 0, _ => none
  | depth + 1, text =>
    match read? text with
    | some (j, rest) => if isEnd rest then settleWith? (ofTextWithin? depth) j else none
    | none => none

/-- The settled document that a whole text is. The texts it holds are shorter than itself,
so that its length bounds how often they stand within each other. -/
def ofText? (text : String) : Option Json := ofTextWithin? text.length text

/-- The settled form of a document. -/
def settle? (j : Json) : Option Json := settleWith? ofText? j

end RowFilter.Json
