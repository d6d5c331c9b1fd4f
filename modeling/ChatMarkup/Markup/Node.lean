/-!
The tree that a message is made from: elements, texts and comments. Attributes are not part of it,
because no message shows them.
-/

namespace ChatMarkup

inductive Node where
  | element (name : String) (children : List Node)
  | text (content : List Char)
  | comment

/-- The ASCII letters in lower case. -/
def lowercaseName (name : String) : String := String.ofList (name.toList.map Char.toLower)

example : lowercaseName "H1É" = "h1É" := by decide +kernel

namespace Node

def children : Node → List Node
  | .element _ children => children
  | _ => []

/-! ## Equality -/

mutual

def decEq : (left right : Node) → Decidable (left = right)
  | .element leftName leftChildren, .element rightName rightChildren =>
    if names : leftName = rightName then
      match decEqAll leftChildren rightChildren with
      | isTrue children => isTrue (by rw [names, children])
      | isFalse children => isFalse fun equal => children (Node.element.inj equal).2
    else isFalse fun equal => names (Node.element.inj equal).1
  | .text left, .text right =>
    if content : left = right then isTrue (by rw [content])
    else isFalse fun equal => content (Node.text.inj equal)
  | .comment, .comment => isTrue rfl
  | .element .., .text _ => isFalse fun equal => nomatch equal
  | .element .., .comment => isFalse fun equal => nomatch equal
  | .text _, .element .. => isFalse fun equal => nomatch equal
  | .text _, .comment => isFalse fun equal => nomatch equal
  | .comment, .element .. => isFalse fun equal => nomatch equal
  | .comment, .text _ => isFalse fun equal => nomatch equal

def decEqAll : (left right : List Node) → Decidable (left = right)
  | [], [] => isTrue rfl
  | left :: leftRest, right :: rightRest =>
    match decEq left right with
    | isTrue head =>
      match decEqAll leftRest rightRest with
      | isTrue tail => isTrue (by rw [head, tail])
      | isFalse tail => isFalse fun equal => tail (List.cons.inj equal).2
    | isFalse head => isFalse fun equal => head (List.cons.inj equal).1
  | [], _ :: _ => isFalse fun equal => nomatch equal
  | _ :: _, [] => isFalse fun equal => nomatch equal

end

instance : DecidableEq Node := decEq

example : Node.element "a" [.text ['x'], .comment] ≠ .element "a" [.text ['x']] := by decide

end Node

end ChatMarkup
