import ChatMarkup.Proofs.WrittenPage

/-!
Elements that have no rule, because their names are not spelled as in the table. As long as case
matters a name with a capital letter is such a name, and a page of such elements shows its texts and
nothing else. Only a page that has to be completed is another matter: completing it spells every
name in lower case.
-/

namespace ChatMarkup

open Text

/-! ## Names with capital letters -/

/-- No name of the table has a capital letter. -/
theorem Rule.ofElement_of_capital {name : String} (capital : name.toList.any Char.isUpper = true) :
    ofElement name = .passThrough := by
  have table : elements.all (fun entry =>
      entry.1.all fun listed => !listed.toList.any Char.isUpper) = true := by decide +kernel
  rw [ofElement]
  split
  · rename_i entry found
    have listed := List.all_eq_true.mp table entry (List.mem_of_find?_eq_some found)
    have named : name ∈ entry.1 := List.contains_iff_mem.mp (List.find?_some found :)
    have small := List.all_eq_true.mp listed name named
    rw [capital] at small
    cases small
  · rfl

/-! ## The texts of a page -/

namespace Node

mutual

def texts (options : Options) : Node → List Char
  | .text content => shownText options content
  | .comment => []
  | .element _ children => allTexts options children

def allTexts (options : Options) : List Node → List Char
  | [] => []
  | node :: rest => node.texts options ++ allTexts options rest

end

mutual

/-- The name of every element has a capital letter. -/
def isCapital : Node → Bool
  | .element name children => name.toList.any Char.isUpper && areCapital children
  | .text _ => true
  | .comment => true

def areCapital : List Node → Bool
  | [] => true
  | node :: rest => node.isCapital && areCapital rest

end

variable {options : Options}

theorem elementRule_of_capital (keepsCase : options.lowercaseTags = false) {name : String}
    (capital : name.toList.any Char.isUpper = true) :
    elementRule options name = .passThrough := by
  rw [elementRule, elementName, keepsCase]
  exact Rule.ofElement_of_capital capital

mutual

theorem format_of_isCapital (keepsCase : options.lowercaseTags = false) : (node : Node) →
    node.isCapital = true → node.format options = node.texts options
  | .text _, _ => rfl
  | .comment, _ => rfl
  | .element name [], capital => by
      rw [isCapital, Bool.and_eq_true] at capital
      rw [format, elementRule_of_capital keepsCase capital.1]
      rfl
  | .element name (child :: rest), capital => by
      rw [isCapital, Bool.and_eq_true] at capital
      rw [format, elementRule_of_capital keepsCase capital.1]
      exact formatAll_of_areCapital keepsCase (child :: rest) capital.2

theorem formatAll_of_areCapital (keepsCase : options.lowercaseTags = false) :
    (nodes : List Node) → areCapital nodes = true → formatAll options nodes = allTexts options nodes
  | [], _ => rfl
  | node :: rest, capital => by
      rw [areCapital, Bool.and_eq_true] at capital
      rw [formatAll, format_of_isCapital keepsCase node capital.1,
        formatAll_of_areCapital keepsCase rest capital.2]
      rfl

end

end Node

/-! ## The message of a page -/

/-- The message of a page that is read as it is, and not completed first. -/
theorem convertText_of_not_misnested {options : Options} {page : List Char}
    (nested : Markup.hasMisnested (Markup.read (prepare options (trim page))) = false) :
    convertText options page =
      tidy (Node.formatAll options (Markup.read (prepare options (trim page)))) := by
  rw [convertText_eq_message, message_eq, pageNodes, nested]
  rfl

/-- A page whose elements all have a capital letter in their names shows its texts one after the
other, unless it is completed. -/
theorem convert_capital_tags (options : Options) (keepsCase : options.lowercaseTags = false)
    (page : List Char)
    (capital : Node.areCapital (Markup.read (prepare options (trim page))) = true)
    (nested : Markup.hasMisnested (Markup.read (prepare options (trim page))) = false) :
    convert (String.ofList page) options =
      String.ofList (tidy (Node.allTexts options (Markup.read (prepare options (trim page))))) := by
  rw [convert, String.toList_ofList, convertText_of_not_misnested nested,
    Node.formatAll_of_areCapital keepsCase _ capital]

theorem convert_capital_tags_mixed :
    convert "<UL><LI>a &amp; b<Br>c<P>d</P></LI><lI>e</lI></UL>" {} = "a & bcde" := by
  have converted := convert_capital_tags {} rfl
    "<UL><LI>a &amp; b<Br>c<P>d</P></LI><lI>e</lI></UL>".toList (by decide +kernel)
    (by decide +kernel)
  refine Eq.trans (congrArg (convert · {}) ?_) (converted.trans ?_)
  · decide +kernel
  · decide +kernel

/-- Two open paragraphs in capitals are completed, and the message shows them as paragraphs. -/
theorem capital_paragraphs_completed :
    ∃ page : List Char,
      Node.areCapital (Markup.read (prepare {} (trim page))) = true ∧
        convert (String.ofList page) {} ≠
          String.ofList (tidy (Node.allTexts {} (Markup.read (prepare {} (trim page))))) :=
  ⟨"<P>a<P>b".toList, by decide +kernel, by decide +kernel⟩

end ChatMarkup
