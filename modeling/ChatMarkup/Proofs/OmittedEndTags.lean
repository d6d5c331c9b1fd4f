import Mathlib.Data.List.Forall2
import ChatMarkup.Proofs.WrittenPage
import ChatMarkup.Proofs.WrittenTrees

/-!
Pages whose items have no end tags, against the same pages with all of them. Both make the same
message, but for the byte order marks that are lost when the first page is completed.
-/

namespace ChatMarkup

open Text Document

/-! ## What items show -/

section Format

variable (options : Options)

theorem elementRule_of_lower {name : String} (lower : lowercaseName name = name) :
    elementRule options name = Rule.ofElement name := by
  rw [elementRule, elementName, lower, ite_self]

theorem formatAll_pageNode (nodes : List Node) :
    Node.formatAll options [pageNode nodes] = Node.formatAll options nodes := by
  have htmlRule : elementRule options "html" = .passThrough :=
    (elementRule_of_lower options (by decide)).trans (by decide)
  have bodyRule : elementRule options "body" = .passThrough :=
    (elementRule_of_lower options (by decide)).trans (by decide)
  have headRule : elementRule options "head" = .drop :=
    (elementRule_of_lower options (by decide)).trans (by decide)
  cases nodes <;>
    simp [pageNode, Node.formatAll, Node.format, htmlRule, headRule, bodyRule, Rule.applyContent,
      Rule.apply, Rule.applyVoid]

theorem shownText_nil : shownText options [] = [] := by
  rw [shownText]
  split <;> rfl

theorem formatAll_textNodes (text : List Char) :
    Node.formatAll options (textNodes text) = shownText options text := by
  cases text with
  | nil => exact (shownText_nil options).symm
  | cons char rest => exact List.append_nil _

theorem shownText_of_free {text : List Char} (free : '&' ∉ text) :
    shownText options text = text := by
  rw [shownText, decodeReferences_of_free free, ite_self]

theorem formatAll_append (left right : List Node) :
    Node.formatAll options (left ++ right) =
      Node.formatAll options left ++ Node.formatAll options right := by
  induction left with
  | nil => rfl
  | cons node rest induction =>
      rw [List.cons_append, Node.formatAll, Node.formatAll, induction, List.append_assoc]

/-- Most rules make no difference between no children and children without text. -/
theorem format_element {name : String} {rule : Rule} (named : elementRule options name = rule)
    (applies : ∀ items inner, rule.applyContent items inner = rule.apply inner)
    (nothing : rule.applyVoid = rule.apply []) (children : List Node) :
    (Node.element name children).format options =
      rule.apply (Node.formatAll options children) := by
  cases children with
  | nil =>
      rw [Node.format, named]
      exact nothing
  | cons child rest =>
      rw [Node.format, named]
      exact applies _ _

theorem format_item {name : String} {rule : Rule} (named : elementRule options name = rule)
    (applies : ∀ items inner, rule.applyContent items inner = rule.apply inner)
    (nothing : rule.applyVoid = rule.apply []) (text : List Char) :
    (item name text).format options = rule.apply (shownText options text) := by
  rw [item, format_element options named applies nothing, formatAll_textNodes]

def paragraphsText (texts : List (List Char)) : List Char :=
  texts.flatMap fun text => Rule.apply text .paragraph

theorem formatAll_paragraphs (texts : List (List Char)) :
    Node.formatAll options (texts.map (item "p")) =
      paragraphsText (texts.map (shownText options)) := by
  have named : elementRule options "p" = .paragraph :=
    (elementRule_of_lower options (by decide)).trans (by decide)
  induction texts with
  | nil => rfl
  | cons text rest induction =>
      rw [List.map_cons, Node.formatAll, format_item options named (fun _ _ => rfl) rfl, induction]
      rfl

theorem formatItems_listItems (texts : List (List Char)) :
    Node.formatItems options (texts.map (item "li")) = texts.map (shownText options) := by
  have lower : elementName options "li" = "li" := by
    rw [elementName, (by decide : lowercaseName "li" = "li"), ite_self]
  have named : elementRule options "li" = .passThrough :=
    (elementRule_of_lower options (by decide)).trans (by decide)
  induction texts with
  | nil => rfl
  | cons text rest induction =>
      have isItem : (item "li" text).isItem options = true := by
        rw [item, Node.isItem, lower]
        rfl
      rw [List.map_cons, Node.formatItems, if_pos isItem,
        format_item options named (fun _ _ => rfl) rfl, induction]
      rfl

theorem formatItems_append (left right : List Node) :
    Node.formatItems options (left ++ right) =
      Node.formatItems options left ++ Node.formatItems options right := by
  induction left with
  | nil => rfl
  | cons node rest induction =>
      rw [List.cons_append, Node.formatItems, Node.formatItems, induction]
      split <;> rfl

theorem formatItems_textNodes (text : List Char) :
    Node.formatItems options (textNodes text) = [] := by
  cases text <;> rfl

theorem elementRule_list (kind : ListKind) : elementRule options kind.name = .list kind := by
  refine (elementRule_of_lower options ?_).trans ?_
  · cases kind <;> decide
  · cases kind <;> decide

/-- A list goes by its items, and it may have none. -/
theorem format_list (kind : ListKind) (children : List Node) :
    (Node.element kind.name children).format options =
      Rule.applyList kind (Node.formatItems options children) := by
  cases children with
  | nil =>
      rw [Node.format, elementRule_list]
      cases kind <;> rfl
  | cons child rest =>
      rw [Node.format, elementRule_list]
      rfl

theorem formatAll_list (kind : ListKind) (texts : List (List Char)) :
    Node.formatAll options [.element kind.name (texts.map (item "li"))] =
      Rule.applyList kind (texts.map (shownText options)) := by
  rw [Node.formatAll, Node.formatAll, List.append_nil, format_list, formatItems_listItems]

end Format

/-! ## Texts that both pages show -/

section Shown

variable {options : Options} {texts : List (List Char)}

theorem map_shownText (plainTexts : ∀ text ∈ texts, PlainText text) :
    texts.map (shownText options) = texts := by
  have each : ∀ text ∈ texts, shownText options text = text := fun text member =>
    shownText_of_free options fun inText => plainTexts text member '&' inText (by simp)
  exact (List.map_congr_left each).trans (List.map_id texts)

theorem map_shownText_escape (decodes : options.decodeEntities = true) :
    (texts.map fun text => text.flatMap (Tree.escape false)).map (shownText options) = texts := by
  rw [List.map_map]
  have each : ∀ text ∈ texts,
      (shownText options ∘ fun text => text.flatMap (Tree.escape false)) text = text := by
    intro text _
    rw [Function.comp_apply, shownText, if_pos decodes, decodeReferences_escape]
  exact (List.map_congr_left each).trans (List.map_id texts)

end Shown

/-! ## The pages -/

def closedItems (name : String) (texts : List (List Char)) : List Char :=
  texts.flatMap fun text => Node.startTag name ++ (text ++ Node.endTag name)

def closedList (outer name : String) (texts : List (List Char)) : List Char :=
  Node.startTag outer ++ (closedItems name texts ++ Node.endTag outer)

theorem closedItems_eq {name : String} (holds : Markup.contentless.contains name = false)
    (texts : List (List Char)) :
    closedItems name texts = Node.writeAll (texts.map (item name)) := by
  induction texts with
  | nil => rfl
  | cons text rest induction =>
      rw [List.map_cons, Node.writeAll, write_item holds, ← induction]
      rfl

section Pages

variable {options : Options} {texts : List (List Char)}

theorem bracket_notMem (plainTexts : ∀ text ∈ texts, PlainText text) :
    ∀ text ∈ texts, '<' ∉ text :=
  fun text member inText => plainTexts text member '<' inText (by simp)

/-- A page that begins and ends with a tag has nothing to trim. -/
theorem trim_tags (outer : String) (inner : List Char) :
    trim (Node.startTag outer ++ (inner ++ Node.endTag outer)) =
      Node.startTag outer ++ (inner ++ Node.endTag outer) := by
  have page : Node.startTag outer ++ (inner ++ Node.endTag outer) =
      '<' :: (outer.toList ++ '>' :: (inner ++ '<' :: '/' :: outer.toList) ++ ['>']) := by
    simp [Node.startTag, Node.endTag]
  rw [page, trim_bracketed]

theorem convertText_of_plainPage (options : Options) {page trimmed : List Char}
    (isTrimmed : trim page = trimmed) (nonempty : trimmed ≠ []) (plain : PlainPage trimmed) :
    convertText options page = tidy (Node.formatAll options (pageNodes trimmed)) := by
  rw [convertText, isTrimmed]
  split
  · exact absurd rfl nonempty
  · rw [plain.prepare, message_eq]

/-- A page that is read as it is meant is not completed. -/
theorem pageNodes_of_not_misnested {page : List Char}
    (nested : Node.areMisnested (Markup.read page) = false) :
    pageNodes page = Markup.read page := by
  rw [pageNodes, Node.hasMisnested_eq, nested]
  rfl

theorem pageNodes_of_misnested {page : List Char} {nodes : List Node}
    (misnested : Node.areMisnested (Markup.read page) = true)
    (completes : completed page = Node.writeAll nodes)
    (wellFormed : Node.areWellFormed nodes = true) : pageNodes page = nodes := by
  rw [pageNodes, Node.hasMisnested_eq, if_pos misnested, completes,
    (Node.plainPage_writeAll wellFormed).expandSelfClosing, Markup.read_writeAll wellFormed]

/-! ### Paragraphs -/

theorem trim_openParagraphs (front : List (List Char)) (last : List Char) :
    trim (openItems "p" (front ++ [last])) = openItems "p" (front ++ [trimEnd last]) := by
  have split (text : List Char) :
      openItems "p" (front ++ [text]) = (openItems "p" front ++ ['<', 'p']) ++ '>' :: text := by
    simp [openItems, Node.startTag]
  have starts : ∃ tail, openItems "p" (front ++ [last]) = '<' :: tail := by
    cases front <;> exact ⟨_, rfl⟩
  rcases starts with ⟨tail, begun⟩
  rw [trim, trimWhere, begun, List.dropWhile_cons_of_neg (by decide), ← begun, split, split,
    trimEndWhere_append_cons _ (by decide)]
  rfl

theorem plainTexts_trimEnd {front : List (List Char)} {last : List Char}
    (plainTexts : ∀ text ∈ front ++ [last], PlainText text) :
    ∀ text ∈ front ++ [trimEnd last], PlainText text := by
  rcases @exists_trimEndWhere_append isBlank last with ⟨tail, whole, -⟩
  rw [List.forall_mem_append, List.forall_mem_singleton] at plainTexts ⊢
  refine ⟨plainTexts.1, ?_⟩
  intro char member
  apply plainTexts.2
  rw [whole]
  exact List.mem_append_left tail member

/-- Only the last paragraph of a page can be touched when the page is trimmed. -/
theorem convertText_trimEnd {front : List (List Char)} {last : List Char}
    (plainTexts : ∀ text ∈ front ++ [last], PlainText text) :
    convertText options (openItems "p" (front ++ [last])) =
      tidy (Node.formatAll options (pageNodes (openItems "p" (front ++ [trimEnd last])))) := by
  have free := bracket_notMem (plainTexts_trimEnd plainTexts)
  refine convertText_of_plainPage options (trim_openParagraphs front last) ?_
    (plainPage_openItems plainName_p free)
  cases front <;> exact List.cons_ne_nil _ _

/-- The white space at the end of the last paragraph makes no difference. -/
theorem paragraphsText_keptItems_trimEnd (front : List (List Char)) (last : List Char)
    (cursor : Cursor) :
    paragraphsText (cursor.keptItems "p" (front ++ [trimEnd last])) =
      paragraphsText (cursor.keptItems "p" (front ++ [last])) := by
  rcases @exists_trimEndWhere_append isBlank last with ⟨tail, whole, blank⟩
  have keptTail (inner : Cursor) : ∀ char ∈ inner.kept tail, isBlank char = true :=
    fun char member => blank char ((Cursor.kept_sublist tail inner).mem member)
  rw [Cursor.keptItems_append, Cursor.keptItems_append, paragraphsText, paragraphsText,
    List.flatMap_append, List.flatMap_append]
  apply congrArg
  simp only [Cursor.keptItems, List.flatMap_cons, List.flatMap_nil, List.append_nil]
  conv => rhs; rw [whole, Cursor.kept_append, Rule.apply_paragraph_append_blank _ (keptTail _)]
  rfl

theorem convertText_openParagraphs (decodes : options.decodeEntities = true)
    (plainTexts : ∀ text ∈ texts, PlainText text) (several : 1 < texts.length) :
    convertText options (openItems "p" texts) =
      tidy (paragraphsText (Cursor.start.keptItems "p" texts)) := by
  rcases List.eq_nil_or_concat texts with rfl | ⟨front, last, rfl⟩
  · cases several
  rw [List.concat_eq_append] at plainTexts several ⊢
  have trimmedTexts := plainTexts_trimEnd plainTexts
  have trimmedSeveral : 1 < (front ++ [trimEnd last]).length := by
    simpa using several
  have misnested : Node.areMisnested
      (Markup.read (openItems "p" (front ++ [trimEnd last]))) = true := by
    rw [Markup.read_openItems plainName_p (by decide) (bracket_notMem trimmedTexts)]
    exact areMisnested_nested (by decide) trimmedSeveral
  have completes := completed_openParagraphs trimmedTexts (by simp)
  have formed := areWellFormed_writtenItems plainName_p (by decide)
    (Cursor.start.keptItems "p" (front ++ [trimEnd last]))
  rw [convertText_trimEnd plainTexts,
    pageNodes_of_misnested misnested completes (areWellFormed_pageNode formed),
    formatAll_pageNode, writtenItems, formatAll_paragraphs, map_shownText_escape decodes,
    paragraphsText_keptItems_trimEnd]

/-- A single paragraph is read as it is meant. -/
theorem convertText_openParagraph {text : List Char} (plain : PlainText text) :
    convertText options (openItems "p" [text]) = tidy (paragraphsText [text]) := by
  have plainTexts : ∀ other ∈ [] ++ [text], PlainText other := by simpa using plain
  have trimmedTexts : ∀ other ∈ [trimEnd text], PlainText other := plainTexts_trimEnd plainTexts
  have free := bracket_notMem trimmedTexts
  have nodes : Markup.read (openItems "p" [trimEnd text]) = [trimEnd text].map (item "p") := by
    rw [Markup.read_openItems plainName_p (by decide) free, nested_singleton]
  have formed := areWellFormed_items plainName_p (by decide) free
  have single : paragraphsText [trimEnd text] = paragraphsText [text] := by
    rcases @exists_trimEndWhere_append isBlank text with ⟨tail, whole, blank⟩
    simp only [paragraphsText, List.flatMap_cons, List.flatMap_nil, List.append_nil]
    conv => rhs; rw [whole, Rule.apply_paragraph_append_blank _ blank]
    rfl
  refine (convertText_trimEnd plainTexts).trans ?_
  rw [List.nil_append, pageNodes_of_not_misnested, nodes, formatAll_paragraphs,
    map_shownText trimmedTexts, single]
  rw [nodes]
  exact Node.areMisnested_of_areWellFormed formed

theorem closedItems_tags (name : String) (nonempty : texts ≠ []) :
    ∃ inner, closedItems name texts = Node.startTag name ++ (inner ++ Node.endTag name) := by
  induction texts with
  | nil => exact absurd rfl nonempty
  | cons text rest induction =>
      cases rest with
      | nil => exact ⟨text, List.append_nil _⟩
      | cons next others =>
          rcases induction (List.cons_ne_nil next others) with ⟨inner, written⟩
          refine ⟨text ++ (Node.endTag name ++ (Node.startTag name ++ inner)), ?_⟩
          rw [closedItems, List.flatMap_cons]
          refine (congrArg _ written).trans ?_
          simp only [List.append_assoc]

theorem convertText_closedParagraphs (plainTexts : ∀ text ∈ texts, PlainText text)
    (nonempty : texts ≠ []) :
    convertText options (closedItems "p" texts) = tidy (paragraphsText texts) := by
  have formed := areWellFormed_items plainName_p (by decide) (bracket_notMem plainTexts)
  have trimmed : trim (closedItems "p" texts) = closedItems "p" texts := by
    rcases closedItems_tags "p" nonempty with ⟨inner, written⟩
    rw [written, trim_tags]
  rw [closedItems_eq (by decide)] at trimmed ⊢
  rw [convertText_writeAll options formed trimmed, formatAll_paragraphs, map_shownText plainTexts]

/-! ### Lists -/

/-- The page of a list has nothing to trim. -/
theorem convertText_list (kind : ListKind) (plainTexts : ∀ text ∈ texts, PlainText text) :
    convertText options (openList kind.name "li" texts) =
      tidy (Node.formatAll options (pageNodes (openList kind.name "li" texts))) :=
  convertText_of_plainPage options (trim_tags _ _) (List.cons_ne_nil _ _)
    (plainPage_openList (plainName_list kind) plainName_li (bracket_notMem plainTexts))

theorem read_list (kind : ListKind) (plainTexts : ∀ text ∈ texts, PlainText text)
    (nonempty : texts ≠ []) :
    Markup.read (openList kind.name "li" texts) = [.element kind.name (nested "li" texts)] :=
  Markup.read_openList (plainName_list kind) kind.holds_name plainName_li (by decide)
    kind.li_ne_name (bracket_notMem plainTexts) nonempty

theorem convertText_openList (kind : ListKind) (decodes : options.decodeEntities = true)
    (plainTexts : ∀ text ∈ texts, PlainText text) (several : 1 < texts.length) :
    convertText options (openList kind.name "li" texts) =
      tidy (Rule.applyList kind
        ((Cursor.start.pass (Node.startTag kind.name)).keptItems "li" texts)) := by
  have nonempty : texts ≠ [] := List.ne_nil_of_length_pos (Nat.lt_of_succ_lt several)
  have misnested : Node.areMisnested (Markup.read (openList kind.name "li" texts)) = true := by
    rw [read_list kind plainTexts nonempty, Node.areMisnested, Node.isMisnested,
      areMisnested_nested (by decide) several, Bool.or_true, Bool.true_or]
  have completes := completed_openList kind plainTexts nonempty
  have formed := areWellFormed_writtenItems plainName_li (by decide)
    ((Cursor.start.pass (Node.startTag kind.name)).keptItems "li" texts)
  rw [convertText_list kind plainTexts,
    pageNodes_of_misnested misnested completes
      (areWellFormed_pageNode (areWellFormed_list kind formed)),
    formatAll_pageNode, writtenItems, formatAll_list, map_shownText_escape decodes]

/-- A single item is read as it is meant. -/
theorem convertText_openList_singleton (kind : ListKind) {text : List Char}
    (plain : PlainText text) :
    convertText options (openList kind.name "li" [text]) = tidy (Rule.applyList kind [text]) := by
  have plainTexts : ∀ other ∈ [text], PlainText other := by simpa using plain
  have formed := areWellFormed_list kind
    (areWellFormed_items plainName_li (by decide) (bracket_notMem plainTexts))
  have nodes := read_list kind plainTexts (List.cons_ne_nil text [])
  rw [nested_singleton] at nodes
  rw [convertText_list kind plainTexts, pageNodes_of_not_misnested, nodes, formatAll_list,
    map_shownText plainTexts]
  rw [nodes]
  exact Node.areMisnested_of_areWellFormed formed

theorem convertText_closedList (kind : ListKind) (plainTexts : ∀ text ∈ texts, PlainText text) :
    convertText options (closedList kind.name "li" texts) =
      tidy (Rule.applyList kind texts) := by
  have formed := areWellFormed_list kind
    (areWellFormed_items plainName_li (by decide) (bracket_notMem plainTexts))
  have written : closedList kind.name "li" texts =
      Node.writeAll [.element kind.name (texts.map (item "li"))] := by
    rw [Node.writeAll, write_holding kind.holds_name, ← closedItems_eq (by decide),
      Node.writeAll, List.append_nil]
    rfl
  have trimmed : trim (closedList kind.name "li" texts) = closedList kind.name "li" texts :=
    trim_tags _ _
  rw [written] at trimmed ⊢
  rw [convertText_writeAll options formed trimmed, formatAll_list, map_shownText plainTexts]

end Pages

/-! ## Marks -/

section Marks

theorem shows_paragraphsText (texts : List (List Char)) :
    Shows texts.flatten (paragraphsText texts) := by
  induction texts with
  | nil => exact Shows.refl []
  | cons text rest induction =>
      exact (Shows.of_ink_eq (Rule.ink_apply_paragraph text).symm).append induction

theorem shows_list (kind : ListKind) (texts : List (List Char)) :
    Shows texts.flatten (Rule.applyList kind texts) :=
  Rule.shows_applyList kind (List.forall₂_same.mpr fun text _ => Shows.refl text)

/-- Messages that show the same have the same number of marks in their texts. -/
theorem count_eq_of_tidy_eq {left right leftShown rightShown : List Char}
    (leftShows : Shows left leftShown) (rightShows : Shows right rightShown)
    (same : tidy leftShown = tidy rightShown) :
    left.count byteOrderMark = right.count byteOrderMark := by
  have sameInk : ink leftShown = ink rightShown := by
    rw [← ink_tidy leftShown, same, ink_tidy]
  have counts := @count_bare byteOrderMark (by decide) (by decide)
  rw [← counts left, leftShows.noOther, bare, sameInk, ← bare, ← rightShows.noOther, counts]

/-- The message of the items that are kept is that of all items only if no mark was lost. -/
theorem tidy_keptItems_iff {shown : List (List Char) → List Char}
    (shows : ∀ texts : List (List Char), Shows texts.flatten (shown texts)) {name : String}
    (plain : PlainName name.toList) (texts : List (List Char)) (cursor : Cursor) :
    tidy (shown (cursor.keptItems name texts)) = tidy (shown texts) ↔
      cursor.losesMark (openItems name texts) = false := by
  constructor
  · intro same
    rw [Bool.eq_false_iff]
    intro loses
    have fewer := Cursor.count_keptItems_lt plain loses
    exact absurd (count_eq_of_tidy_eq (shows _) (shows _) same) (Nat.ne_of_lt fewer)
  · intro loses
    rw [Cursor.keptItems_eq_self loses]

/-- The tags of a list hold no mark. -/
theorem losesMark_openList (kind : ListKind) (texts : List (List Char)) :
    Cursor.start.losesMark (openList kind.name "li" texts) =
      (Cursor.start.pass (Node.startTag kind.name)).losesMark (openItems "li" texts) := by
  have opens := Cursor.losesMark_of_free (Cursor.mark_notMem_startTag (plainName_list kind))
  have closes : byteOrderMark ∉ Node.endTag kind.name := by cases kind <;> decide
  rw [openList, Cursor.losesMark_append, Cursor.losesMark_append, opens,
    Cursor.losesMark_of_free closes, Bool.false_or, Bool.or_false]

end Marks

theorem convert_eq_iff (options : Options) (left right : List Char) :
    convert (String.ofList left) options = convert (String.ofList right) options ↔
      convertText options left = convertText options right := by
  rw [convert, convert, String.toList_ofList, String.toList_ofList, String.ofList_inj]

/-- Leaving out the end tags of paragraphs or of items makes no difference to a message, except that
a page with more than one of them loses every mark at the beginning of a piece. -/
theorem omitted_end_tags (options : Options) (decodes : options.decodeEntities = true)
    (texts : List (List Char)) (nonempty : texts ≠ [])
    (plainTexts : ∀ text ∈ texts, PlainText text) :
    (convert (String.ofList (openItems "p" texts)) options =
        convert (String.ofList (closedItems "p" texts)) options ↔
      texts.length = 1 ∨ Cursor.start.losesMark (openItems "p" texts) = false) ∧
    ∀ kind : ListKind,
      (convert (String.ofList (openList kind.name "li" texts)) options =
          convert (String.ofList (closedList kind.name "li" texts)) options ↔
        texts.length = 1 ∨
          Cursor.start.losesMark (openList kind.name "li" texts) = false) := by
  rcases Nat.eq_or_lt_of_le (List.length_pos_iff.mpr nonempty) with single | several
  · rcases List.length_eq_one_iff.mp single.symm with ⟨text, rfl⟩
    have plain := plainTexts text (List.mem_singleton_self text)
    refine ⟨iff_of_true ?_ (.inl rfl), fun kind => iff_of_true ?_ (.inl rfl)⟩
    · rw [convert_eq_iff, convertText_openParagraph plain,
        convertText_closedParagraphs plainTexts nonempty]
    · rw [convert_eq_iff, convertText_openList_singleton kind plain,
        convertText_closedList kind plainTexts]
  · have notSingle : texts.length ≠ 1 := Nat.ne_of_gt several
    refine ⟨?_, fun kind => ?_⟩
    · rw [convert_eq_iff, convertText_openParagraphs decodes plainTexts several,
        convertText_closedParagraphs plainTexts nonempty, tidy_keptItems_iff shows_paragraphsText
          plainName_p, or_iff_right notSingle]
    · rw [convert_eq_iff, convertText_openList kind decodes plainTexts several,
        convertText_closedList kind plainTexts, tidy_keptItems_iff (shows_list kind) plainName_li,
        or_iff_right notSingle, losesMark_openList]

theorem omitted_end_tags_mixed :
    convert "<p>a<p> b > c\u00A0<p>" {} = convert "<p>a</p><p> b > c\u00A0</p><p></p>" {} ∧
      convert "<ol><li>a<li> b > c\u00A0<li></ol>" {} =
        convert "<ol><li>a</li><li> b > c\u00A0</li><li></li></ol>" {} := by
  have both := omitted_end_tags {} rfl ["a".toList, " b > c\u00A0".toList, []] (by decide)
    (by decide +kernel)
  have paragraphs := both.1.mpr (.inr (by decide +kernel))
  have items := (both.2 .ordered).mpr (.inr (by decide +kernel))
  refine ⟨Eq.trans (congrArg (convert · {}) ?_) (paragraphs.trans (congrArg (convert · {}) ?_)),
    Eq.trans (congrArg (convert · {}) ?_) (items.trans (congrArg (convert · {}) ?_))⟩
  all_goals decide +kernel

/-- A first paragraph that ends with a mark, which the second block of the page begins with. -/
theorem mark_lost_at_block :
    ∃ texts : List (List Char), texts ≠ [] ∧ (∀ text ∈ texts, PlainText text) ∧
      convert (String.ofList (openItems "p" texts)) {} ≠
        convert (String.ofList (closedItems "p" texts)) {} := by
  have plainTexts : ∀ text ∈ [List.replicate 4093 'x' ++ [byteOrderMark], ['a']],
      PlainText text := by
    have filling : PlainText (List.replicate 4093 'x') := by
      intro char member
      rw [(List.mem_replicate.mp member).2]
      decide
    rw [List.forall_mem_cons, List.forall_mem_singleton]
    refine ⟨List.forall_mem_append.mpr ⟨filling, ?_⟩, ?_⟩
    · exact (by decide : PlainText [byteOrderMark])
    · decide
  have loses : Cursor.start.losesMark
      (openItems "p" [List.replicate 4093 'x' ++ [byteOrderMark], ['a']]) = true := by
    have opened : Cursor.start.pass (Node.startTag "p") = ⟨4093, none⟩ := by decide +kernel
    have filled := @Cursor.pass_replicate 'x' 4093 4093 (by decide)
    have lost : Cursor.losesMark [byteOrderMark] ⟨4093 - 4093 * 'x'.utf8Size, none⟩ = true := by
      decide +kernel
    rw [openItems_cons, Cursor.losesMark_append, Cursor.losesMark_append, opened,
      Cursor.losesMark_append, filled, lost, Bool.or_true, Bool.true_or, Bool.or_true]
  refine ⟨_, List.cons_ne_nil _ _, plainTexts, ?_⟩
  rw [Ne, convert_eq_iff, convertText_openParagraphs rfl plainTexts (by decide),
    convertText_closedParagraphs plainTexts (List.cons_ne_nil _ _),
    tidy_keptItems_iff shows_paragraphsText plainName_p, loses]
  exact Bool.noConfusion

end ChatMarkup
