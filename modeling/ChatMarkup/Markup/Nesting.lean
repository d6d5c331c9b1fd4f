import ChatMarkup.Markup.Node

/-!
Elements that stand directly inside an element that they should have closed. Page authors leave out
end tags, and a start tag such as `<li>` then ends the item before it. A tree in which such a pair
of parent and child is left was read too literally.
-/

namespace ChatMarkup.Markup

def paragraphClosers : List String :=
  ["address", "article", "aside", "blockquote", "div", "dl", "fieldset", "footer", "form", "h1",
    "h2", "h3", "h4", "h5", "h6", "header", "hr", "menu", "nav", "ol", "p", "pre", "section",
    "table", "ul"]

/-- The start tag of `child` ends an open `parent`. Names are in lower case. -/
def closesParent (parent child : String) : Bool :=
  match parent with
  | "li" => child == "li"
  | "dt" | "dd" => ["dt", "dd"].contains child
  | "tr" => child == "tr"
  | "td" | "th" => ["td", "th", "tr"].contains child
  | "p" => paragraphClosers.contains child
  | _ => false

def misnestedIn (parent : String) : Node → Bool
  | .element name _ => closesParent (lowercaseName parent) (lowercaseName name)
  | _ => false

/-! ## Searching a forest -/

mutual

def nodeCount : Node → Nat
  | .element _ children => nodeCounts children + 1
  | .text _ => 1
  | .comment => 1

def nodeCounts : List Node → Nat
  | [] => 0
  | node :: rest => nodeCount node + nodeCounts rest

end

theorem nodeCounts_append (left right : List Node) :
    nodeCounts (left ++ right) = nodeCounts left + nodeCounts right := by
  induction left with
  | nil => simp [nodeCounts]
  | cons node rest induction => simp only [List.cons_append, nodeCounts, induction]; omega

theorem nodeCounts_reverse (nodes : List Node) : nodeCounts nodes.reverse = nodeCounts nodes := by
  induction nodes with
  | nil => rfl
  | cons node rest induction =>
      simp only [List.reverse_cons, nodeCounts_append, nodeCounts, induction]
      omega

/-- Some element of the pending trees has a child that should have closed it. The tree that was put
in last is looked at first. -/
def anyMisnested : List Node → Bool
  | [] => false
  | .element name children :: pending =>
    children.any (misnestedIn name) || anyMisnested (children.reverse ++ pending)
  | .text _ :: pending => anyMisnested pending
  | .comment :: pending => anyMisnested pending
termination_by pending => nodeCounts pending
decreasing_by
  · simp only [nodeCounts, nodeCount, nodeCounts_append, List.unattach_reverse,
      List.unattach_attach, nodeCounts_reverse]
    omega
  all_goals simp only [nodeCounts, nodeCount]; omega

def hasMisnested (forest : List Node) : Bool := anyMisnested forest.reverse

example : hasMisnested [.element "ul" [.element "LI" [.element "li" []]]] = true := by
  decide +kernel

example : hasMisnested [.element "li" [.element "ul" [.element "li" []]]] = false := by
  decide +kernel

end ChatMarkup.Markup
