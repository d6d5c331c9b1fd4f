import ChatMarkup.Proofs.PageBuilding

/-!
Completing a page of items whose end tags are left out. Every item gets its own end tag, and the
page gets its root, its head and its body.
-/

namespace ChatMarkup

def ListKind.name : ListKind → String
  | .unordered => "ul"
  | .ordered => "ol"

namespace Document

open Reader

namespace Site

def At (site : Site) (cursor : Cursor) : List (List Char) → Reader → Prop
  | [], _ => False
  | text :: earlier, reader => ∃ framesetOk lastStart,
      reader = within (.content .markup) text.reverse lastStart (site.builder framesetOk [] earlier)
        cursor

variable {site : Site} {cursor : Cursor} {reader : Reader} {text : List Char}
  {earlier : List (List Char)}

theorem At.foldl_step_text (inItem : site.At cursor (text :: earlier) reader) {more : List Char}
    (plain : PlainText more) :
    site.At (cursor.pass more) ((text ++ cursor.kept more) :: earlier)
      (more.foldl step reader) := by
  rcases inItem with ⟨framesetOk, lastStart, rfl⟩
  refine ⟨framesetOk, lastStart, ?_⟩
  rw [foldl_step_plainText plain, List.reverse_append]

theorem At.foldl_step_startTag (inItem : site.At cursor (text :: earlier) reader)
    (plain : PlainName site.name.toList) (sound : site.Sound) :
    site.At (cursor.pass (Node.startTag site.name)) ([] :: text :: earlier)
      ((Node.startTag site.name).foldl step reader) := by
  rcases inItem with ⟨framesetOk, lastStart, rfl⟩
  rcases sound.foldl_take_next framesetOk text earlier with ⟨stillOk, taken⟩
  exact ⟨stillOk, site.name, Reader.foldl_step_startTag plain taken rfl rfl⟩

theorem At.foldl_step_openItems (inItem : site.At cursor (text :: earlier) reader)
    (plain : PlainName site.name.toList) (sound : site.Sound) {texts : List (List Char)}
    (plainTexts : ∀ text ∈ texts, PlainText text) :
    site.At (cursor.pass (openItems site.name texts))
      ((cursor.keptItems site.name texts).reverse ++ text :: earlier)
      ((openItems site.name texts).foldl step reader) := by
  induction texts generalizing cursor reader text earlier with
  | nil => exact inItem
  | cons next rest induction =>
      rw [List.forall_mem_cons] at plainTexts
      have opened := inItem.foldl_step_startTag plain sound
      have said := opened.foldl_step_text plainTexts.1
      have all := induction said plainTexts.2
      rw [openItems_cons, List.foldl_append, List.foldl_append, Cursor.pass_append,
        Cursor.pass_append, Cursor.keptItems, List.reverse_cons, List.append_assoc]
      exact all

/-- What comes after the last item completes its text first. -/
theorem foldl_take_last (sound : site.Sound) (framesetOk : Bool) (text : List Char)
    (earlier : List (List Char)) (token : Token) :
    ∃ stillOk next, (tokensBefore text.reverse token).foldl Builder.take
        (site.builder framesetOk [] earlier) =
      (Builder.flowing stillOk (site.around (site.items (text :: earlier)))
        (site.owner (site.first + earlier.length) :: site.outer) next).take token := by
  rcases sound.foldl_take_text framesetOk text earlier with ⟨stillOk, taken⟩
  refine ⟨stillOk, site.first + earlier.length + 1, ?_⟩
  rw [Reader.foldl_take_tokensBefore, List.reverse_reverse, taken]
  rfl

theorem At.trees_finish {texts : List (List Char)} (inItem : site.At cursor texts reader)
    (sound : site.Sound)
    (ends : ∀ framesetOk trees number next,
      ((Builder.flowing framesetOk trees (site.owner number :: site.outer) next).take
        .finish).trees = trees) :
    reader.finish.builder.trees = site.around (site.items texts) := by
  cases texts with
  | nil => exact inItem.elim
  | cons text earlier =>
      rcases inItem with ⟨framesetOk, lastStart, rfl⟩
      rcases foldl_take_last sound framesetOk text earlier .finish with ⟨stillOk, next, taken⟩
      rw [builder_finish, taken, ends]

theorem At.trees_endTag {texts : List (List Char)} (inItem : site.At cursor texts reader)
    (sound : site.Sound) {name : String} (plain : PlainName name.toList)
    (closes : ∀ framesetOk trees number next,
      (Builder.flowing framesetOk trees (site.owner number :: site.outer) next).take
        (.endTag name) = .flowing framesetOk trees [body, root] next) :
    ((Node.endTag name).foldl step reader).finish.builder.trees =
      site.around (site.items texts) := by
  cases texts with
  | nil => exact inItem.elim
  | cons text earlier =>
      rcases inItem with ⟨framesetOk, lastStart, rfl⟩
      rcases foldl_take_last sound framesetOk text earlier (.endTag name) with
        ⟨stillOk, next, taken⟩
      rw [closes] at taken
      rw [foldl_step_endTag plain taken rfl, builder_finish]
      rfl

end Site

/-! ## Paragraphs -/

def paragraphs : Site where
  name := "p"
  outer := [body, root]
  first := 3
  around := bodyTrees

theorem paragraphs_sound : paragraphs.Sound where
  appends := by
    intro number later node nodes earlier
    change 3 ≤ number at later
    have notRoot : 0 ≠ number := by omega
    have notBody : 2 ≠ number := by omega
    simp [Tree.appendTo, Tree.changeAny?, Tree.change?, paragraphs, bodyTrees, Site.owner, root,
      body, notRoot, notBody]
  opens framesetOk number next items := ⟨framesetOk, rfl⟩

def listItems (kind : ListKind) : Site where
  name := "li"
  outer := [⟨3, .html, kind.name, []⟩, body, root]
  first := 4
  around items := bodyTrees [.element ⟨3, .html, kind.name, []⟩ items]

theorem listItems_sound (kind : ListKind) : (listItems kind).Sound where
  appends := by
    intro number later node nodes earlier
    change 4 ≤ number at later
    have notRoot : 0 ≠ number := by omega
    have notBody : 2 ≠ number := by omega
    have notList : 3 ≠ number := by omega
    simp [Tree.appendTo, Tree.changeAny?, Tree.change?, listItems, bodyTrees, Site.owner, root,
      body, notRoot, notBody, notList]
  opens framesetOk number next items := by
    cases kind <;> exact ⟨false, rfl⟩

theorem plainName_p : PlainName "p".toList := ⟨by decide, by decide⟩

theorem plainName_li : PlainName "li".toList := ⟨by decide, by decide⟩

theorem plainName_list (kind : ListKind) : PlainName kind.name.toList := by
  cases kind <;> exact ⟨by decide, by decide⟩

/-! ## Whole pages -/

section Read

variable {texts : List (List Char)}

theorem read_openParagraphs (plainTexts : ∀ text ∈ texts, PlainText text) (some : texts ≠ []) :
    read (openItems "p" texts) =
      bodyTrees (paragraphs.items (Cursor.start.keptItems "p" texts).reverse) := by
  cases texts with
  | nil => exact absurd rfl some
  | cons text rest =>
      rw [List.forall_mem_cons] at plainTexts
      have opened : paragraphs.At (Cursor.start.pass (Node.startTag "p")) [[]]
          ((Node.startTag "p").foldl step .start) :=
        ⟨true, "p", Reader.foldl_step_startTag plainName_p rfl rfl rfl⟩
      have said := opened.foldl_step_text plainTexts.1
      have all := said.foldl_step_openItems plainName_p paragraphs_sound plainTexts.2
      have finished := all.trees_finish paragraphs_sound fun _ _ _ _ => rfl
      rw [read, openItems_cons, List.foldl_append, List.foldl_append, Cursor.keptItems,
        List.reverse_cons]
      exact finished

theorem read_openList (kind : ListKind) (plainTexts : ∀ text ∈ texts, PlainText text)
    (some : texts ≠ []) :
    read (openList kind.name "li" texts) =
      bodyTrees [.element ⟨3, .html, kind.name, []⟩ ((listItems kind).items
        ((Cursor.start.pass (Node.startTag kind.name)).keptItems "li" texts).reverse)] := by
  cases texts with
  | nil => exact absurd rfl some
  | cons text rest =>
      rw [List.forall_mem_cons] at plainTexts
      have listed : (Node.startTag kind.name).foldl step .start =
          within (.content .markup) [] kind.name
            (.flowing true (bodyTrees [.element ⟨3, .html, kind.name, []⟩ []])
              [⟨3, .html, kind.name, []⟩, body, root] 4)
            (Cursor.start.pass (Node.startTag kind.name)) := by
        refine Reader.foldl_step_startTag (plainName_list kind) ?_ rfl rfl
        cases kind <;> rfl
      have opened : (listItems kind).At
          ((Cursor.start.pass (Node.startTag kind.name)).pass (Node.startTag "li")) [[]]
          ((Node.startTag "li").foldl step ((Node.startTag kind.name).foldl step .start)) := by
        refine ⟨false, "li", ?_⟩
        rw [listed]
        refine Reader.foldl_step_startTag plainName_li ?_ rfl rfl
        cases kind <;> rfl
      have said := opened.foldl_step_text plainTexts.1
      have all := said.foldl_step_openItems plainName_li (listItems_sound kind) plainTexts.2
      have finished := all.trees_endTag (listItems_sound kind) (plainName_list kind)
        fun _ _ _ _ => by cases kind <;> rfl
      rw [read, openList, openItems_cons, List.foldl_append, List.foldl_append,
        List.foldl_append, List.foldl_append, Cursor.keptItems, List.reverse_cons]
      exact finished

end Read

end Document

end ChatMarkup
