import ChatMarkup.Text.Lines

/-!
What each element contributes to a message. A rule gets the formatted text of the element's
children and gives the element's own text. Elements without an entry pass their text through.
-/

namespace ChatMarkup

inductive ListKind where
  | unordered
  | ordered
deriving DecidableEq, Repr

inductive Rule where
  /-- Text between two markers; nothing for no text. -/
  | surround (marker : String)
  /-- A marker in front of the text, however empty the text is. -/
  | lead (marker : String)
  /-- Text between an opening and a closing, and then some spacing; nothing for no text. -/
  | block (opening closing spacing : String)
  /-- A paragraph with a blank line after it. -/
  | paragraph
  /-- A block of code between two fences. -/
  | fence
  /-- Every line behind a quotation mark. -/
  | quote
  | list (kind : ListKind)
  /-- Text with a line break on either side. -/
  | table
  /-- Text with a line break after it. -/
  | row
  /-- Text with a tab after it, between markers if there is one. -/
  | cell (marker : Option String)
  /-- The same text whatever the content. -/
  | fixed (literal : String)
  | drop
  | passThrough
deriving DecidableEq, Repr

namespace Rule

/-! ## The rule of an element -/

def bold : String := "*"

def italic : String := "_"

def struck : String := "~"

def code : String := "`"

def elements : List (List String × Rule) := [
  (["strong", "b", "mark"], .surround bold),
  (["em", "i", "u", "ins"], .surround italic),
  (["s", "strike", "del"], .surround struck),
  (["code", "kbd", "samp", "var", "tt"], .surround code),
  (["pre"], .fence),
  (["sup"], .lead "^"),
  (["sub"], .lead "_"),
  (["blockquote", "q", "cite"], .quote),
  (["ul"], .list .unordered),
  (["ol"], .list .ordered),
  (["dl"], .block "" "" "\n"),
  (["dt"], .block bold bold "\n"),
  (["dd"], .block "- " "" "\n"),
  (["br"], .fixed "\n"),
  (["hr"], .fixed "\n---\n"),
  (["p", "div", "section", "article"], .paragraph),
  (["h1", "h2", "h3", "h4", "h5", "h6"], .block bold bold "\n\n"),
  (["address"], .block "" "" "\n\n"),
  (["table"], .table),
  (["tr"], .row),
  (["th"], .cell (some bold)),
  (["td"], .cell none),
  (["script", "style", "meta", "link", "head", "title", "img"], .drop)
]

/-- The rule of an element, by its name as it is written: case matters. -/
def ofElement (name : String) : Rule :=
  match elements.find? fun entry => entry.1.contains name with
  | some entry => entry.2
  | none => .passThrough

example : ofElement "mark" = .surround "*" := by decide +kernel

example : ofElement "MARK" = .passThrough := by decide +kernel

/-! ## Applying a rule -/

open Text

def surrounded (marker : String) (inner : List Char) : List Char :=
  if inner.isEmpty then [] else marker.toList ++ inner ++ marker.toList

def quotedLine (line : List Char) : List Char :=
  match trim line with
  | [] => ['>']
  | trimmed => '>' :: ' ' :: trimmed

def quoted (inner : List Char) : List Char :=
  if inner.isEmpty then [] else unlines ((lines inner).map quotedLine)

def applyVoid : Rule → List Char
  | .fixed literal => literal.toList
  | _ => []

/-- What an element whose children have been formatted contributes. A list goes by its items, so
it makes nothing of the joined text. -/
def apply (inner : List Char) : Rule → List Char
  | .surround marker => surrounded marker inner
  | .lead marker => marker.toList ++ inner
  | .block opening closing spacing =>
    if inner.isEmpty then []
    else opening.toList ++ inner ++ closing.toList ++ spacing.toList
  | .paragraph =>
    match trim (collapseInner inner) with
    | [] => []
    | trimmed => trimmed ++ ['\n', '\n']
  | .fence =>
    if inner.isEmpty then []
    else "```\n".toList ++ trimWhere (· == '\n') inner ++ "\n```".toList
  | .quote => quoted inner
  | .list _ => []
  | .table => '\n' :: inner ++ ['\n']
  | .row => inner ++ ['\n']
  | .cell none => inner ++ ['\t']
  | .cell (some marker) => surrounded marker inner ++ ['\t']
  | .fixed literal => literal.toList
  | .drop => []
  | .passThrough => inner

/-! ## Lists -/

/-- The items that are not blank, without the white space around them. -/
def survivors (items : List (List Char)) : List (List Char) :=
  (items.map trim).filter (!·.isEmpty)

def bullet : ListKind → Nat → List Char
  | .unordered, _ => "- ".toList
  | .ordered, position => Nat.toDigits 10 (position + 1) ++ ". ".toList

/-- One line for every item that is not blank. Blank items are left out of the count. -/
def applyList (kind : ListKind) (items : List (List Char)) : List Char :=
  unlines ((survivors items).mapIdx fun position item => bullet kind position ++ item)

example : applyList .ordered ["a".toList, " ".toList, " b\n".toList] = "1. a\n2. b".toList := by
  decide +kernel

example : Rule.quote.apply "a\n\n b".toList = "> a\n>\n> b".toList := by decide +kernel

/-! ## Elements with children -/

/-- What an element with children contributes, by the texts of those children that are items and by
the joined text of all of them. Some rules ignore the children. -/
def applyContent (items : List (List Char)) (inner : List Char) : Rule → List Char
  | .drop => apply [] .drop
  | .fixed literal => apply [] (.fixed literal)
  | .list kind => applyList kind items
  | rule => rule.apply inner

end Rule

end ChatMarkup
