import ChatMarkup.Proofs.CaselessCompleting
import ChatMarkup.Proofs.WrittenPage

/-!
The case of tag names on a page, when rules are looked up without regard to it. The message does not
depend on the case as long as no reader of the page does.
-/

namespace ChatMarkup

open Text

/-- The case of tag names makes a difference somewhere between the page and its message, although
rules are looked up without regard to it. -/
def caseMatters (options : Options) (page : List Char) : Bool :=
  let prepared := prepare options (trim page)
  Markup.mindsCase prepared ||
    (Markup.hasMisnested (Markup.read prepared) && Document.mindsCase prepared)

variable {options : Options}

/-- Respelled pages have the same nodes but for the case of names. -/
theorem lowercaseAll_pageNodes {left right : List Char} (respelled : Respelled false left right)
    (leftReads : Markup.mindsCase left = false) (rightReads : Markup.mindsCase right = false)
    (leftCompletes : (Markup.hasMisnested (Markup.read left) && Document.mindsCase left) = false)
    (rightCompletes :
      (Markup.hasMisnested (Markup.read right) && Document.mindsCase right) = false) :
    Node.lowercaseAll (pageNodes left) = Node.lowercaseAll (pageNodes right) := by
  have nodes := Markup.lowercaseAll_read respelled leftReads rightReads
  have misnested : Markup.hasMisnested (Markup.read left) =
      Markup.hasMisnested (Markup.read right) := by
    rw [Node.hasMisnested_eq, Node.hasMisnested_eq, ← Node.areMisnested_lowercaseAll, nodes,
      Node.areMisnested_lowercaseAll]
  rw [pageNodes, pageNodes]
  rw [misnested] at leftCompletes ⊢
  split
  · rename_i completes
    rw [completes, Bool.true_and] at leftCompletes rightCompletes
    rw [Document.completed_of_respelled respelled leftCompletes rightCompletes]
  · exact nodes

theorem convertText_of_respelled (anyCase : options.lowercaseTags = true) {left right : List Char}
    (respelled : Respelled false left right) (leftSame : caseMatters options left = false)
    (rightSame : caseMatters options right = false) :
    convertText options left = convertText options right := by
  rw [caseMatters, Bool.or_eq_false_iff] at leftSame rightSame
  have nodes := lowercaseAll_pageNodes (respelled.trim.prepare anyCase) leftSame.1 rightSame.1
    leftSame.2 rightSame.2
  rw [convertText_eq_message, convertText_eq_message, message_eq, message_eq,
    ← Node.formatAll_lowercaseAll anyCase, nodes, Node.formatAll_lowercaseAll anyCase]

/-- A page has the message that it has with its tag names in lower case. -/
theorem convert_lowercaseTagNames (options : Options) (anyCase : options.lowercaseTags = true)
    (page : List Char) (same : caseMatters options page = false)
    (sameLower : caseMatters options (lowercaseTagNames page) = false) :
    convert (String.ofList page) options =
      convert (String.ofList (lowercaseTagNames page)) options := by
  rw [convert, convert, String.toList_ofList, String.toList_ofList,
    convertText_of_respelled anyCase (respelled_lowercaseTagNames page) same sameLower]

theorem convert_lowercaseTagNames_mixed :
    convert "<Script>x</sCRIPT><UL><LI>a<B/>b<br/><Li Class=X>c<EM>d</EM></UL>"
      { lowercaseTags := true } = "- ab\n- c_d_" := by
  have same := convert_lowercaseTagNames { lowercaseTags := true } rfl
    "<Script>x</sCRIPT><UL><LI>a<B/>b<br/><Li Class=X>c<EM>d</EM></UL>".toList
    (by decide +kernel) (by decide +kernel)
  rw [String.ofList_toList] at same
  rw [same]
  decide +kernel

/-- What follows a line break in capitals is taken for its content, which no message shows. -/
theorem capital_break_swallows_text :
    ∃ page : List Char,
      convert (String.ofList page) { lowercaseTags := true } ≠
        convert (String.ofList (lowercaseTagNames page)) { lowercaseTags := true } :=
  ⟨"a<BR>b".toList, by decide +kernel⟩

end ChatMarkup
