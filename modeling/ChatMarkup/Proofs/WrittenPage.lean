import ChatMarkup.Proofs.RoundTrip
import ChatMarkup.Proofs.TrailingBlanks
import ChatMarkup.Proofs.VisibleText

/-!
The whole conversion on the page of a well-formed forest: every stage before the formatting gives
the forest back, so that the message is what the rules make of it.
-/

namespace ChatMarkup

open Text

/-! ## The message of a forest -/

theorem pageNodes_writeAll {forest : List Node} (wellFormed : Node.areWellFormed forest = true) :
    pageNodes (Node.writeAll forest) = forest := by
  rw [pageNodes, Markup.read_writeAll wellFormed, Node.hasMisnested_eq,
    Node.areMisnested_of_areWellFormed wellFormed]
  rfl

theorem message_eq (options : Options) (forest : List Node) :
    message options forest = tidy (Node.formatAll options forest) := by
  rw [message, Node.flatMap_walk]

/-- An empty page is no exception, because the message of no nodes is empty. -/
theorem convertText_eq_message (options : Options) (page : List Char) :
    convertText options page = message options (pageNodes (prepare options (trim page))) := by
  rw [convertText]
  split
  · rename_i empty
    have nothing : Source.removeHidden options [] = [] := by
      rw [Source.removeHidden, Source.removeHiddenWhere]
    have noNodes : pageNodes (Source.expandSelfClosing []) = [] := by decide +kernel
    rw [empty, prepare, nothing, noNodes]
    rfl
  · rfl

theorem convertText_trim (options : Options) (page : List Char) :
    convertText options (trim page) = convertText options page := by
  rw [convertText_eq_message, convertText_eq_message, trim_trim]

theorem convertText_writeAll (options : Options) {forest : List Node}
    (wellFormed : Node.areWellFormed forest = true)
    (trimmed : trim (Node.writeAll forest) = Node.writeAll forest) :
    convertText options (Node.writeAll forest) = tidy (Node.formatAll options forest) := by
  rw [convertText_eq_message, trimmed, (Node.plainPage_writeAll wellFormed).prepare,
    pageNodes_writeAll wellFormed, message_eq]

/-- The page of a well-formed forest, converted, is what the recursion over the forest makes of it,
with the white space of the message in order. -/
theorem convert_written_page (options : Options) (forest : List Node)
    (wellFormed : Node.areWellFormed forest = true)
    (starts : (Node.writeAll forest).head?.any isBlank = false)
    (ends : (Node.writeAll forest).getLast?.any isBlank = false) :
    convert (String.ofList (Node.writeAll forest)) options =
      String.ofList (tidy (Node.formatAll options forest)) := by
  rw [convert, String.toList_ofList,
    convertText_writeAll options wellFormed (trim_eq_self starts ends)]

theorem convert_written_list :
    convert "a/><ul>x<li>b=\"c\"<br>d</li><li><b>&gt;</b> e</li></ul>" {} =
      "a/>- b=\"c\"\nd\n- *>* e" := by
  have converted := convert_written_page {}
    [.text "a/>".toList,
      .element "ul" [.text "x".toList,
        .element "li" [.text "b=\"c\"".toList, .element "br" [], .text "d".toList],
        .element "li" [.element "b" [.text "&gt;".toList], .text " e".toList]]]
    (by decide +kernel) (by decide +kernel) (by decide +kernel)
  refine Eq.trans (congrArg (convert · {}) ?_) (converted.trans ?_)
  · decide +kernel
  · decide +kernel

end ChatMarkup
