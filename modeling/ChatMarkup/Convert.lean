import ChatMarkup.Document.Reader
import ChatMarkup.Markup.Reader
import ChatMarkup.Source.Hidden
import ChatMarkup.Source.SelfClosing
import ChatMarkup.Walk

/-!
From a page to a message. The source is prepared and read; if the author left out end tags in a way
that the forgiving reader cannot see, the page is first completed by the rules of browsers and then
read again. The texts of the top nodes make the message.
-/

namespace ChatMarkup

def pageNodes (prepared : List Char) : List Node :=
  if Markup.hasMisnested (Markup.read prepared) then
    Markup.read (Source.expandSelfClosing (Document.completed prepared))
  else Markup.read prepared

/-- A page without hidden elements and self-closing tags. -/
def prepare (options : Options) (page : List Char) : List Char :=
  Source.expandSelfClosing (Source.removeHidden options page)

def message (options : Options) (nodes : List Node) : List Char :=
  Text.tidy (nodes.flatMap (Walk.format options))

def convertText (options : Options) (page : List Char) : List Char :=
  match Text.trim page with
  | [] => []
  | trimmed => message options (pageNodes (prepare options trimmed))

/-- Converts a page to a message. Every page has one. -/
def convert (html : String) (options : Options := {}) : String :=
  String.ofList (convertText options html.toList)

def convertOptional (html : Option String) : String :=
  match html with
  | some html => convert html
  | none => ""

example : convert "<ul><li>a<li>b &amp; c</ul>" = "- a\n- b & c" := by decide +kernel

end ChatMarkup
