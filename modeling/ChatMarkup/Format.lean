import ChatMarkup.Options
import ChatMarkup.Rule
import ChatMarkup.Text.Reference
import ChatMarkup.Markup.Arena

/-!
What a tree contributes to a message. A node's text is given by recursion on the tree: the children
are formatted first, and the element's rule makes the element's text of theirs. White space at the
edges of the whole message is not looked at here.
-/

namespace ChatMarkup

def elementName (options : Options) (name : String) : String :=
  if options.lowercaseTags then lowercaseName name else name

def elementRule (options : Options) (name : String) : Rule :=
  Rule.ofElement (elementName options name)

def shownText (options : Options) (content : List Char) : List Char :=
  if options.decodeEntities then Text.decodeReferences content else content

namespace Node

def isItem (options : Options) : Node → Bool
  | .element name _ => elementName options name == "li"
  | _ => false

mutual

def format (options : Options) : Node → List Char
  | .text content => shownText options content
  | .comment => []
  | .element name children =>
    match children with
    | [] => (elementRule options name).applyVoid
    | child :: rest =>
      (elementRule options name).applyContent (formatItems options (child :: rest))
        (formatAll options (child :: rest))

def formatAll (options : Options) : List Node → List Char
  | [] => []
  | node :: rest => node.format options ++ formatAll options rest

def formatItems (options : Options) : List Node → List (List Char)
  | [] => []
  | node :: rest =>
    if node.isItem options then node.format options :: formatItems options rest
    else formatItems options rest

end

example : format {} (.element "ul" [.text ['x'], .element "li" [.text ['y']]]) = "- y".toList := by
  decide +kernel

end Node

/-! ## Nodes that are reached by handles -/

namespace Arena

variable {Handle : Type}

def isItem (arena : Arena Handle) (options : Options) (handle : Handle) : Bool :=
  match arena.cell? handle with
  | some (.element name _) => elementName options name == "li"
  | _ => false

set_option linter.unusedVariables false in
def format (arena : Arena Handle) (options : Options) (handle : Handle) : List Char :=
  match found : arena.cell? handle with
  | none => []
  | some .comment => []
  | some (.text content) => shownText options content
  | some (.element name children) =>
    if children.isEmpty then (elementRule options name).applyVoid
    else
      (elementRule options name).applyContent
        ((children.filter (arena.isItem options)).map fun child => arena.format options child)
        (children.flatMap fun child => arena.format options child)
termination_by arena.descendants handle
decreasing_by all_goals exact arena.descendants_lt found ‹_›

end Arena

end ChatMarkup
