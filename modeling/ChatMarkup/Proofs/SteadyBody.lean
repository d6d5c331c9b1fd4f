import ChatMarkup.Proofs.SteadyBuilding

/-!
The rules of the body keep a builder steady. A tag closes what its element should not stand in
before the element is opened, except for tags that stray.
-/

namespace ChatMarkup.Document

namespace Builder

variable {mode : Mode} {fostering : Bool} {region : Element} {builder : Builder}

/-! ## Tags that do not stray -/

structure StaysAtStart (name : String) (builder : Builder) : Prop where
  common : name ∉ strayNames
  frames : name = "frameset" → builder.framesetOk = false ∧ builder.mode ≠ .afterHead
  table : name = "table" → (builder.tableInParagraph && holdsParagraph builder.stack) = false
  item : ∀ items ∈ itemKinds, name ∈ items →
    (searchEnd? builder.stack).any (Element.isAnyOf tableParts) = false
  form : name = "form" → builder.mode ∈ betweenParts →
    builder.currentIs (Element.isNamed "p") = false

theorem staysAtStart {name : String} (stays : builder.straysAtStart name = false) :
    StaysAtStart name builder := by
  simp only [straysAtStart, Bool.or_eq_false_iff] at stays
  rcases stays with ⟨⟨⟨⟨common, frames⟩, table⟩, item⟩, form⟩
  refine ⟨List.contains_iff_mem.not.mp (Bool.eq_false_iff.mp common), ?_, ?_, ?_, ?_⟩
  · rintro rfl
    simpa using frames
  · rintro rfl
    exact table
  · intro items kind member
    rw [List.contains_iff_mem.mpr (List.mem_flatten.mpr ⟨items, kind, member⟩)] at item
    exact item
  · rintro rfl inTable
    rw [List.contains_iff_mem.mpr inTable] at form
    exact form

/-! ## What may be opened -/

/-- Only paragraphs are in the way of elements with the name. -/
def isUsual (name : String) : Bool :=
  !(regionNames ++ peculiarNames ++ itemKinds.flatten).contains name

theorem isUsual_eq_true {name : String} (usual : isUsual name = true) :
    name ∉ regionNames ∧ name ∉ peculiarNames ∧ name ∉ itemKinds.flatten := by
  rw [isUsual, Bool.not_eq_true', Bool.eq_false_iff, ne_eq, List.contains_iff_mem,
    List.mem_append, List.mem_append, not_or, not_or] at usual
  exact ⟨usual.1.1, usual.1.2, usual.2⟩

theorem SoundIn.usual_isOrdinary (sound : SoundIn [] mode fostering region builder)
    (shows : region.isAnyOf contentRegions = true) {name : String} (usual : isUsual name = true)
    (closed : endsParagraphs name = true → holdsParagraph builder.stack = false) :
    IsOrdinary name builder.stack := by
  rcases isUsual_eq_true usual with ⟨noRegion, common, noItem⟩
  refine ⟨fun _ => noRegion, common, ?_, closed, ?_⟩
  · rw [sound.region]
    exact shows
  · exact fun items kind member => absurd (List.mem_flatten.mpr ⟨items, kind, member⟩) noItem

theorem SoundIn.insertUsual (sound : SoundIn [] mode fostering region builder)
    (shows : region.isAnyOf contentRegions = true) {tag : Tag} (usual : isUsual tag.name = true)
    (closed : endsParagraphs tag.name = true → holdsParagraph builder.stack = false) :
    SoundIn [] mode fostering region (builder.insert tag) :=
  sound.insert (isUsual_eq_true usual).1 (sound.usual_isOrdinary shows usual closed)

/-! ## Start tags of blocks -/

theorem SoundIn.startBlock (sound : SoundIn [] mode fostering region builder)
    (shows : region.isAnyOf contentRegions = true) {tag : Tag} (usual : isUsual tag.name = true) :
    SoundIn [] mode fostering region (Body.startBlock tag builder) := by
  rcases sound.closeParagraph with ⟨closed, none, -⟩
  exact closed.insertUsual shows usual fun _ => none

theorem buttonBounds_eq_false {element : Element} (html : element.isHtml = true)
    (free : element.name ∉ ["button", "applet", "caption", "html", "table", "td", "th", "marquee",
      "object", "template"]) : element.buttonBounds = false := by
  have vocabulary : element.vocabulary = .html := beq_iff_eq.mp html
  rw [List.mem_cons, not_or] at free
  rw [Element.buttonBounds, Element.bounds, Element.isNamed_eq html, Element.isAnyOf_eq html,
    Element.holdsText, Element.holdsHtml, vocabulary, beq_eq_false_iff_ne.mpr free.1,
    Bool.eq_false_iff.mpr (List.contains_iff_mem.not.mpr free.2)]
  rfl

theorem holdsParagraph_tail {element : Element} {outer : List Element}
    (unbounded : element.buttonBounds = false)
    (none : holdsParagraph (element :: outer) = false) : holdsParagraph outer = false := by
  rw [holdsParagraph, reaches, unbounded, Bool.or_eq_false_iff] at none
  exact none.2

theorem SoundIn.startHeading (sound : SoundIn [] mode fostering region builder)
    (shows : region.isAnyOf contentRegions = true) {tag : Tag} (member : tag.name ∈ headings) :
    SoundIn [] mode fostering region (Body.startHeading tag builder) := by
  have all : ∀ name ∈ headings, isUsual name = true ∧ name ∉ ["button", "applet", "caption",
      "html", "table", "td", "th", "marquee", "object", "template"] := by decide
  rcases sound.closeParagraph with ⟨closed, none, -⟩
  rw [Body.startHeading]
  split
  · rename_i heading
    have popped := closed.pop heading fun element named =>
      isRegion_eq_false_of_isAnyOf
        (fun name inHeadings => (isUsual_eq_true (all name inHeadings).1).1) named
    have stillNone : holdsParagraph builder.closeParagraph.pop.stack = false := by
      rcases exists_of_currentIs heading with ⟨element, outer, stack, named⟩
      have unbounded := buttonBounds_eq_false (Element.isHtml_of_isAnyOf named)
        (all _ (Element.name_mem_of_isAnyOf named)).2
      rw [stack] at none
      rw [Builder.pop, stack]
      exact holdsParagraph_tail unbounded none
    exact popped.insertUsual shows (all tag.name member).1 fun _ => stillNone
  · exact closed.insertUsual shows (all tag.name member).1 fun _ => none

theorem SoundIn.startForm (sound : SoundIn [] mode fostering region builder)
    (shows : region.isAnyOf contentRegions = true) {tag : Tag} (named : tag.name = "form") :
    SoundIn [] mode fostering region (Body.startForm tag builder) := by
  have usual : isUsual tag.name = true := by
    rw [named]
    decide
  have opened := sound.startBlock shows usual
  rw [Body.startForm, sound.hasNoTemplate]
  split
  · exact sound
  · exact opened.pointTo (.inl List.mem_cons_self) named

/-! ## Start tags of items -/

theorem endsSearch_of_isRegion {element : Element} (isRegion : element.isRegion = true) :
    element.endsSearch = true := by
  have all : ∀ name ∈ regionNames, name ∈ special ∧ name ∉ transparentToItems := by decide
  rcases all _ (Element.name_mem_of_isAnyOf isRegion) with ⟨isSpecial, noWrapper⟩
  exact endsSearch_of_mem (Element.isHtml_of_isAnyOf isRegion) isSpecial noWrapper

/-- The search for an item stops where any search for one ends. -/
theorem find?_stops {items : List String} (kind : items ∈ itemKinds) {stack : List Element}
    (spine : IsSpine stack) :
    (stack.find? fun element => element.isAnyOf items ||
      (element.isAnyOf special && !element.isAnyOf transparentToItems)) = searchEnd? stack := by
  have all : ∀ items ∈ itemKinds, ∀ item ∈ items, item ∈ special ∧ item ∉ transparentToItems := by
    decide
  induction stack with
  | nil => rfl
  | cons element outer induction =>
      have same : (element.isAnyOf items || element.endsSearch) = element.endsSearch := by
        cases isItem : element.isAnyOf items with
        | false => rfl
        | true =>
            rcases all items kind _ (Element.name_mem_of_isAnyOf isItem) with ⟨isSpecial, noWrapper⟩
            rw [endsSearch_of_mem spine.1 isSpecial noWrapper]
            rfl
      have rest := induction spine.2.2
      rw [searchEnd?] at rest ⊢
      rw [List.find?_cons, List.find?_cons, rest]
      exact congrArg (fun stops => bif stops then some element else outer.find? _) same

/-- What is around an open item is neither an item of its kind nor a part of a table. -/
theorem SoundIn.closeFoundItem (sound : SoundIn [] mode fostering region builder)
    {items : List String} (kind : items ∈ itemKinds) {item : Element}
    (search : searchEnd? builder.stack = some item) (isItem : item.isAnyOf items = true) :
    SoundIn [] mode fostering region (builder.closeNamed item.name) ∧
      ∀ found, searchEnd? (builder.closeNamed item.name).stack = some found →
        found.isAnyOf (items ++ tableParts) = false := by
  rcases List.find?_eq_some_iff_append.mp search with ⟨ends, inner, outer, stack, apart⟩
  have spine := sound.spine
  have itemMember := Element.name_mem_of_isAnyOf isItem
  have all : ∀ items ∈ itemKinds, ∀ item ∈ items,
      item ∈ special ∧ item ∉ transparentToItems ∧ item ∉ regionNames := by decide
  rcases all items kind _ itemMember with ⟨isSpecial, noWrapper, ordinary⟩
  have innerApart : ∀ element ∈ inner, element.endsSearch = false := by
    intro element member
    simpa using apart element member
  have innerHtml : ∀ element ∈ inner, element.isHtml = true := by
    intro element member
    apply spine.isHtml
    rw [stack]
    exact List.mem_append_left _ member
  have unnamed : ∀ element ∈ inner, element.isNamed item.name = false := by
    intro element member
    rw [Element.isNamed_eq (innerHtml element member)]
    refine beq_eq_false_iff_ne.mpr fun same => ?_
    have ends := endsSearch_of_mem (innerHtml element member) (same ▸ isSpecial) (same ▸ noWrapper)
    rw [innerApart element member] at ends
    cases ends
  have named : item.isNamed item.name = true := by
    rw [Element.isNamed_eq (Element.isHtml_of_isAnyOf isItem)]
    exact beq_self_eq_true item.name
  have left : outside (Element.isNamed item.name) builder.stack = outer := by
    rw [stack]
    exact outside_split unnamed named
  have sheds : Sheds builder.stack outer := by
    refine ⟨inner ++ [item], by rw [stack]; simp, fun element member => ?_⟩
    refine Bool.eq_false_iff.mpr fun region => ?_
    rcases List.mem_append.mp member with among | last
    · have ends := endsSearch_of_isRegion region
      rw [innerApart element among] at ends
      cases ends
    · cases List.mem_singleton.mp last
      exact ordinary (Element.name_mem_of_isAnyOf region)
  have closed : builder.closeNamed item.name = { builder with stack := outer } := by
    rw [← left, ← stack_closeNamed]
    rfl
  rw [closed]
  refine ⟨sound.shed sheds, fun found ends => ?_⟩
  rw [stack] at spine
  have stands := (spine.of_suffix (List.suffix_append inner _)).2.1
  exact (stands.ordinary_of_not_region ordinary).item items kind itemMember found ends

/-- Where an item is closed, or none was to be closed, another one of its kind may be opened, if the
search does not end between the parts of a table. -/
theorem SoundIn.closeItem (sound : SoundIn [] mode fostering region builder)
    {items : List String} (kind : items ∈ itemKinds)
    (noPart : (searchEnd? builder.stack).any (Element.isAnyOf tableParts) = false) :
    SoundIn [] mode fostering region (Body.closeItem items builder) ∧
      ∀ found, searchEnd? (Body.closeItem items builder).stack = some found →
        found.isAnyOf (items ++ tableParts) = false := by
  rw [Body.closeItem, find?_stops kind sound.spine]
  cases search : searchEnd? builder.stack with
  | none =>
      refine ⟨sound, fun found ends => ?_⟩
      rw [search] at ends
      cases ends
  | some element =>
      dsimp only
      split
      · rename_i isItem
        exact sound.closeFoundItem kind search isItem
      · rename_i noItem
        refine ⟨sound, fun found ends => ?_⟩
        rw [search] at ends noPart
        cases ends
        rw [Element.isAnyOf_append, Bool.eq_false_iff.mpr noItem]
        exact noPart

theorem SoundIn.startItem (sound : SoundIn [] mode fostering region builder)
    (shows : region.isAnyOf contentRegions = true) {items : List String} (kind : items ∈ itemKinds)
    {tag : Tag} (member : tag.name ∈ items)
    (noPart : (searchEnd? builder.stack).any (Element.isAnyOf tableParts) = false) :
    SoundIn [] mode fostering region (Body.startItem items tag builder) := by
  have forbidden : SoundIn [] mode fostering region builder.forbidFrameset := sound
  rcases forbidden.closeItem kind noPart with ⟨closed, apart⟩
  rcases closed.closeParagraph with ⟨closed, none, same⟩
  rw [← same] at apart
  have all : ∀ items ∈ itemKinds, ∀ name ∈ items, name ∉ regionNames ∧ name ∉ peculiarNames ∧
      ∀ others ∈ itemKinds, name ∈ others → others = items := by decide
  rcases all items kind tag.name member with ⟨noRegion, common, onlyKind⟩
  refine closed.insert noRegion ⟨fun _ => noRegion, common, ?_, fun _ => none, ?_⟩
  · rw [closed.region]
    exact shows
  · intro others otherKind otherMember
    rw [onlyKind others otherKind otherMember]
    exact apart

/-! ## Closing elements by their end tags -/

/-- An element is closed with those inside of it whose end tags are implied. -/
theorem SoundIn.closeEnded (sound : SoundIn [] mode fostering region builder)
    {test : Element → Bool} (apart : ∀ element, element.isAnyOf impliedEnds = true →
      test element = false)
    (noRegion : ∀ element ∈ builder.stack, element.isRegion = true → test element = false)
    (reached : builder.inScope Element.bounds test = true) :
    SoundIn [] mode fostering region (builder.closeImplied.closeThrough test) := by
  have same : builder.closeImplied.closeThrough test = builder.closeThrough test := by
    rw [Builder.closeThrough, Builder.closeThrough, ← outside_dropWhile apart builder.stack]
    rfl
  rw [same]
  exact sound.closeThrough (fun _ => id) noRegion reached

theorem isNamed_of_implied {name : String} (notImplied : name ∉ impliedEnds) (element : Element)
    (implied : element.isAnyOf impliedEnds = true) : element.isNamed name = false := by
  rw [Element.isNamed_eq (Element.isHtml_of_isAnyOf implied)]
  refine beq_eq_false_iff_ne.mpr fun same => notImplied ?_
  rw [← same]
  exact Element.name_mem_of_isAnyOf implied

theorem SoundIn.endBlock (sound : SoundIn [] mode fostering region builder) (name : String)
    (notImplied : name ∉ impliedEnds) (noRegion : name ∉ regionNames) :
    SoundIn [] mode fostering region (Body.endBlock name builder) := by
  rw [Body.endBlock]
  split
  · rename_i reached
    exact sound.closeEnded (isNamed_of_implied notImplied)
      (fun _ _ => isRegion_of_isNamed noRegion) reached
  · exact sound

/-! ## Start tags in lines of text -/

theorem SoundIn.startButton (sound : SoundIn [] mode fostering region builder)
    (shows : region.isAnyOf contentRegions = true) {tag : Tag} (usual : isUsual tag.name = true)
    (keeps : endsParagraphs tag.name = false) :
    SoundIn [] mode fostering region (Body.startButton tag builder) :=
  ((sound.endBlock "button" (by decide) (by decide)).reconstruct shows).insertUsual shows usual
    fun ends => absurd ends (Bool.eq_false_iff.mp keeps)

theorem SoundIn.startLink (sound : SoundIn [] mode fostering region builder)
    (shows : region.isAnyOf contentRegions = true) {tag : Tag}
    (formats : tag.name ∈ formattingTags) :
    SoundIn [] mode fostering region (Body.startLink tag builder) :=
  ((sound.closeEarlierLink shows).reconstruct shows).insertFormatting shows formats

theorem SoundIn.startFormatting (sound : SoundIn [] mode fostering region builder)
    (shows : region.isAnyOf contentRegions = true) {tag : Tag}
    (formats : tag.name ∈ formattingTags) :
    SoundIn [] mode fostering region (Body.startFormatting tag builder) :=
  (sound.reconstruct shows).insertFormatting shows formats

theorem SoundIn.startUnbroken (sound : SoundIn [] mode fostering region builder)
    (shows : region.isAnyOf contentRegions = true) {tag : Tag}
    (formats : tag.name ∈ formattingTags) :
    SoundIn [] mode fostering region (Body.startUnbroken tag builder) := by
  have unbroken : "nobr" ∈ formattingTags := by decide
  have opened := sound.reconstruct shows
  rw [Body.startUnbroken]
  split
  · exact ((opened.closeFormatting shows unbroken).reconstruct shows).insertFormatting shows formats
  · exact opened.insertFormatting shows formats

theorem SoundIn.startEnclosed (sound : SoundIn [] mode fostering region builder)
    (shows : region.isAnyOf contentRegions = true) {tag : Tag} (usual : isUsual tag.name = true)
    (keeps : endsParagraphs tag.name = false) :
    SoundIn [] mode fostering region (Body.startEnclosed tag builder) :=
  ((sound.reconstruct shows).insertUsual shows usual
    fun ends => absurd ends (Bool.eq_false_iff.mp keeps)).addMarker

theorem SoundIn.startOption (sound : SoundIn [] mode fostering region builder)
    (shows : region.isAnyOf contentRegions = true) {tag : Tag} (usual : isUsual tag.name = true)
    (keeps : endsParagraphs tag.name = false) :
    SoundIn [] mode fostering region (Body.startOption tag builder) := by
  have closed : SoundIn [] mode fostering region
      (if builder.currentIs (Element.isNamed "option") then builder.pop else builder) := by
    split
    · rename_i current
      apply sound.pop current
      intro element named
      refine Bool.eq_false_iff.mpr fun isRegion => ?_
      rw [isRegion_of_isNamed (by decide) isRegion] at named
      cases named
    · exact sound
  exact (closed.reconstruct shows).insertUsual shows usual
    fun ends => absurd ends (Bool.eq_false_iff.mp keeps)

theorem SoundIn.startRuby (sound : SoundIn [] mode fostering region builder)
    (shows : region.isAnyOf contentRegions = true) {tag : Tag} (usual : isUsual tag.name = true)
    (keeps : endsParagraphs tag.name = false) (spared : String) :
    SoundIn [] mode fostering region (Body.startRuby spared tag builder) := by
  have keeps' : ∀ {next : Builder}, endsParagraphs tag.name = true →
      holdsParagraph next.stack = false := fun ends => absurd ends (Bool.eq_false_iff.mp keeps)
  rw [Body.startRuby]
  split
  · exact (sound.closeImpliedExcept spared).insertUsual shows usual keeps'
  · exact sound.insertUsual shows usual keeps'

/-! ## Start tags of elements without content -/

theorem SoundIn.startVoid (sound : SoundIn [] mode fostering region builder)
    (shows : region.isAnyOf contentRegions = true) {tag : Tag}
    (welcomes : ∀ builder, Welcomes tag.name builder) :
    SoundIn [] mode fostering region (Body.startVoid tag builder) :=
  (sound.reconstruct shows).insertVoid (welcomes _)

theorem SoundIn.startField (sound : SoundIn [] mode fostering region builder)
    (shows : region.isAnyOf contentRegions = true) {tag : Tag}
    (welcomes : ∀ builder, Welcomes tag.name builder) :
    SoundIn [] mode fostering region (Body.startField tag builder) := by
  have inserted := (sound.reconstruct shows).insertVoid (welcomes _)
  rw [Body.startField]
  split <;> exact inserted

theorem SoundIn.startRuler (sound : SoundIn [] mode fostering region builder)
    (shows : region.isAnyOf contentRegions = true) {tag : Tag} (usual : isUsual tag.name = true) :
    SoundIn [] mode fostering region (Body.startRuler tag builder) := by
  rcases sound.closeParagraph with ⟨closed, none, -⟩
  exact closed.insertVoid
    (.of_ordinary closed.spine (closed.usual_isOrdinary shows usual fun _ => none))

/-! ## Start tags of tables -/

theorem SoundIn.startTable (sound : SoundIn [] mode fostering region builder)
    (shows : region.isAnyOf contentRegions = true) {tag : Tag} (named : tag.name = "table")
    (apart : (builder.tableInParagraph && holdsParagraph builder.stack) = false) :
    Settled fostering .inTable (Body.startTable tag builder) := by
  have closed : SoundIn [] mode fostering region
        (if builder.tableInParagraph then builder else builder.closeParagraph) ∧
      holdsParagraph
        (if builder.tableInParagraph then builder else builder.closeParagraph).stack = false := by
    split
    · rename_i inParagraph
      rw [inParagraph, Bool.true_and] at apart
      exact ⟨sound, apart⟩
    · exact ⟨sound.closeParagraph.1, sound.closeParagraph.2.1⟩
  rw [Body.startTable]
  generalize (if builder.tableInParagraph then builder else builder.closeParagraph) = next
    at closed ⊢
  rcases closed with ⟨closed, none⟩
  rcases closed.assembled with ⟨label, assembled⟩
  have ordinary : IsOrdinary tag.name next.stack := by
    rw [named]
    refine ⟨fun different => absurd rfl different, by decide, ?_, fun _ => none, ?_⟩
    · rw [closed.region]
      exact shows
    · have all : ∀ items ∈ itemKinds, "table" ∉ items := by decide
      exact fun items kind member => absurd member (all items kind)
  rcases exists_openIn assembled (.of_ordinary closed.spine ordinary) (.ordinary ordinary)
    tag.attributes with ⟨trees, opened, more⟩
  have isTable : (next.fresh .html tag.name tag.attributes).isAnyOf ["table"] = true := by
    rw [Element.isAnyOf_eq rfl]
    exact List.contains_iff_mem.mpr (List.mem_singleton.mpr named)
  have isRegion : (next.fresh .html tag.name tag.attributes).isRegion = true :=
    Element.isAnyOf_of_subset (by decide) isTable
  rw [Builder.insert, opened]
  refine ⟨next.fresh .html tag.name tag.attributes, ?_, isTable⟩
  exact { closed with
    mode := rfl
    region := region?_cons isRegion next.stack
    assembled := ⟨_, more⟩ }

/-! ## Start tags of lists of choices and of frames -/

theorem SoundIn.startSelection (sound : SoundIn [] mode fostering region builder)
    (shows : region.isAnyOf contentRegions = true) {tag : Tag} (named : tag.name = "select") :
    Steady fostering (Body.startSelection tag builder) := by
  have opened := sound.reconstruct shows
  have welcomes : Welcomes tag.name builder.reconstruct := by
    rw [named]
    exact .of_notMem (by decide) (by decide) _
  have inserted := opened.insertVoid_kept welcomes
  have isSelect : (builder.reconstruct.fresh .html tag.name tag.attributes).isAnyOf ["select"] =
      true := by
    rw [Element.isAnyOf_eq rfl]
    exact List.contains_iff_mem.mpr (List.mem_singleton.mpr named)
  have selecting : ∀ next, next = .inSelect ∨ next = .inSelectInTable →
      Selecting fostering next ((builder.reconstruct.insert tag).forbidFrameset.goTo next) := by
    intro next selects
    refine ⟨region, builder.reconstruct.fresh .html tag.name tag.attributes, [],
      (builder.reconstruct.insertVoid tag).stack, ?_⟩
    exact {
      stack := rfl
      areChoices := List.forall_mem_nil _
      isSelect := isSelect
      sound := { inserted with mode := rfl }
      shows := shows
      selects := selects }
  rw [Body.startSelection]
  split
  · exact .selecting _ (selecting _ (.inr rfl))
  · exact .selecting _ (selecting _ (.inl rfl))

/-- Frames do not take the place of a body that has shown something. -/
theorem SoundIn.replaceBody (sound : SoundIn [] mode fostering region builder)
    (shown : builder.framesetOk = false) (tag : Tag) :
    SoundIn [] mode fostering region (Body.replaceBody tag builder) := by
  rw [Body.replaceBody]
  split
  · rw [shown]
    exact sound
  · exact sound

/-! ## All start tags -/

theorem SoundIn.mergeBody (sound : SoundIn [] mode fostering region builder) (tag : Tag) :
    SoundIn [] mode fostering region (Body.mergeBody tag builder) := by
  rw [Body.mergeBody]
  split
  · split
    · exact sound
    · exact sound.withTrees fun _ => Tree.allNested_addAttributes tag.attributes
  · exact sound

def ruledStarts : List String :=
  ["html"] ++ Head.metadata ++ ["body", "frameset"] ++ Body.blocks ++ headings ++
    ["pre", "listing", "form", "li", "dd", "dt", "plaintext", "button", "a"] ++
    Body.formattingNames ++ ["nobr"] ++ Body.enclosed ++
    ["table", "area", "br", "embed", "img", "keygen", "wbr", "input", "param", "source", "track",
      "hr", "image", "textarea", "xmp", "iframe", "noembed", "noscript", "select", "optgroup",
      "option", "rb", "rtc", "rp", "rt", "math", "svg"] ++ Body.misplaced

theorem SoundIn.startTag (sound : SoundIn [] mode fostering region builder)
    (there : region.isAnyOf (regionsOf mode) = true)
    (shows : region.isAnyOf contentRegions = true) {tag : Tag}
    (stays : StaysAtStart tag.name builder) :
    Steady fostering (Body.startTag tag builder) := by
  rcases stays with ⟨common, frames, table, item, -⟩
  have settle : ∀ {next : Builder}, SoundIn [] mode fostering region next →
      Steady fostering next := fun sound => .settled mode ⟨region, sound, there⟩
  have usual : ∀ {names : List String}, (∀ name ∈ names, isUsual name = true) →
      tag.name ∈ names → isUsual tag.name = true := fun all named => all tag.name named
  have keeps : ∀ {names : List String}, (∀ name ∈ names, endsParagraphs name = false) →
      tag.name ∈ names → endsParagraphs tag.name = false := fun all named => all tag.name named
  have welcomes : ∀ {names : List String}, (∀ name ∈ names,
      name ∉ Markup.paragraphClosers ∧ name ∉ itemNames) → tag.name ∈ names →
        ∀ builder, Welcomes tag.name builder :=
    fun all named => .of_notMem (all tag.name named).1 (all tag.name named).2
  rw [Body.startTag]
  apply choose_induction (motive := fun rule : Builder → Builder => Steady fostering (rule builder))
  · simp only [List.forall_mem_cons]
    refine ⟨?html, ?metadata, ?body, ?frameset, ?blocks, ?headings, ?preformatted, ?form, ?li,
      ?terms, ?plaintext, ?button, ?a, ?formatting, ?nobr, ?enclosed, ?table, ?void, ?input,
      ?param, ?hr, ?image, ?textarea, ?xmp, ?iframe, ?noembed, ?select, ?option, ?rb, ?rp, ?math,
      ?svg, ?misplaced, List.forall_mem_nil _⟩
    all_goals intro named
    case html => exact settle (sound.mergeRoot tag)
    case metadata => exact sound.insertMetadata there (List.mem_cons_of_mem _ named) common
    case body => exact settle (sound.mergeBody tag)
    case frameset =>
      exact settle (sound.replaceBody (frames (List.mem_singleton.mp named)).1 tag)
    case blocks => exact settle (sound.startBlock shows (usual (by decide) named))
    case headings => exact settle (sound.startHeading shows named)
    case preformatted => exact settle (sound.startBlock shows (usual (by decide) named))
    case form => exact settle (sound.startForm shows (List.mem_singleton.mp named))
    case li =>
      exact settle (sound.startItem shows (by decide) named (item _ (by decide) named))
    case terms =>
      exact settle (sound.startItem shows (by decide) named (item _ (by decide) named))
    case plaintext => exact settle (sound.startBlock shows (usual (by decide) named))
    case button =>
      exact settle (sound.startButton shows (usual (by decide) named) (keeps (by decide) named))
    case a =>
      exact settle (sound.startLink shows ((by decide : ["a"] ⊆ formattingTags) named))
    case formatting =>
      exact settle (sound.startFormatting shows
        ((by decide : Body.formattingNames ⊆ formattingTags) named))
    case nobr =>
      exact settle (sound.startUnbroken shows ((by decide : ["nobr"] ⊆ formattingTags) named))
    case enclosed =>
      exact settle (sound.startEnclosed shows (usual (by decide) named) (keeps (by decide) named))
    case table =>
      have isTable := List.mem_singleton.mp named
      exact .settled .inTable (sound.startTable shows isTable (table isTable))
    case void => exact settle (sound.startVoid shows (welcomes (by decide) named))
    case input => exact settle (sound.startField shows (welcomes (by decide) named))
    case param => exact settle (sound.insertVoid (welcomes (by decide) named builder))
    case hr => exact settle (sound.startRuler shows (usual (by decide) named))
    case image =>
      have closer : "img" ∉ Markup.paragraphClosers := by decide
      have image : "img" ∉ itemNames := by decide
      exact settle (sound.startVoid shows (.of_notMem closer image))
    case textarea =>
      have forbidden : SoundIn [] mode fostering region builder.forbidFrameset := sound
      exact (forbidden.insertRaw there (welcomes (by decide) named _) _).withReading true _ _
    case xmp =>
      have closed : SoundIn [] mode fostering region
          builder.closeParagraph.reconstruct.forbidFrameset :=
        sound.closeParagraph.1.reconstruct shows
      exact closed.insertRaw there (welcomes (by decide) named _) _
    case iframe =>
      have forbidden : SoundIn [] mode fostering region builder.forbidFrameset := sound
      exact forbidden.insertRaw there (welcomes (by decide) named _) _
    case noembed => exact sound.insertRaw there (welcomes (by decide) named builder) _
    case select => exact sound.startSelection shows (List.mem_singleton.mp named)
    case option =>
      exact settle (sound.startOption shows (usual (by decide) named) (keeps (by decide) named))
    case rb =>
      exact settle (sound.startRuby shows (usual (by decide) named) (keeps (by decide) named) _)
    case rp =>
      exact settle (sound.startRuby shows (usual (by decide) named) (keeps (by decide) named) _)
    case math => exact absurd ((by decide : ["math"] ⊆ strayNames) named) common
    case svg => exact absurd ((by decide : ["svg"] ⊆ strayNames) named) common
    case misplaced => exact settle sound
  · intro unruled
    have ruled : tag.name ∉ ruledStarts := unruled
    have free : tag.name ∉ ruledStarts ++ strayNames := by
      rw [List.mem_append, not_or]
      exact ⟨ruled, common⟩
    have plain : tag.name ∉ special := fun member =>
      free ((by decide : special ⊆ ruledStarts ++ strayNames) member)
    have usualName : tag.name ∉ peculiarNames := fun member =>
      free ((by decide : peculiarNames ⊆ ruledStarts ++ strayNames) member)
    have opened := sound.reconstruct shows
    exact settle (opened.insert (fun member => plain ((by decide : regionNames ⊆ special) member))
      (opened.isOrdinary shows plain usualName))

/-! ## End tags -/

/-- The form that is open is closed where no other element is open in it. -/
theorem SoundIn.endForm (sound : SoundIn [] mode fostering region builder)
    (stays : builder.straysAtEnd "form" = false) :
    SoundIn [] mode fostering region (Body.endForm builder) := by
  rw [Body.endForm, sound.hasNoTemplate]
  cases form : builder.form with
  | none => exact sound
  | some number =>
      rw [straysAtEnd, form] at stays
      have forgotten := sound.forgetForm
      dsimp only
      rw [if_neg Bool.false_ne_true]
      split
      · rename_i reached
        have isReached : builder.inScope Element.bounds (·.number == number) = true := reached
        have current : builder.closeImplied.currentIs (·.number == number) = true := by
          rw [Option.any_some, isReached] at stays
          simpa using stays
        rcases exists_of_currentIs current with ⟨element, outer, stack, same⟩
        have closed := sound.closeImplied
        have left : builder.closeImplied.stack.eraseP (·.number == number) = outer := by
          rw [stack]
          exact List.eraseP_cons_of_pos same
        have sheds : Sheds builder.closeImplied.stack outer := by
          rcases closed.assembled with ⟨label, assembled⟩
          have known := assembled.known element (by rw [stack]; exact List.mem_cons_self)
          have named : element.name = "form" := by
            rw [← known.named, beq_iff_eq.mp same]
            exact (assembled.form number form).2
          rw [stack]
          apply sheds_tail
          refine Bool.eq_false_iff.mpr fun isRegion => ?_
          have member := Element.name_mem_of_isAnyOf isRegion
          rw [named] at member
          exact absurd member (by decide)
        have removed := (closed.shed sheds).forgetForm
        rw [← left] at removed
        exact removed
      · exact forgotten

/-- The end tag of a paragraph that is not open makes an empty one. -/
theorem SoundIn.endParagraph (sound : SoundIn [] mode fostering region builder)
    (shows : region.isAnyOf contentRegions = true) :
    SoundIn [] mode fostering region (Body.endParagraph builder) := by
  rw [Body.endParagraph]
  split
  · rename_i reached
    exact sound.closeNamed bounds_le_buttonBounds (by decide) reached
  · rename_i none
    have ordinary : IsOrdinary "p" builder.stack :=
      sound.usual_isOrdinary shows (by decide) fun _ => Bool.eq_false_iff.mpr none
    have opened : SoundIn [] mode fostering region (builder.insertImplied "p") :=
      sound.openIn (by decide) ordinary []
    exact opened.closeNamed bounds_le_buttonBounds (by decide) rfl

theorem SoundIn.endItem (sound : SoundIn [] mode fostering region builder)
    {scope : Element.Scope} (bounded : ∀ element, element.bounds = true → scope element = true)
    {name : String} (noRegion : name ∉ regionNames) :
    SoundIn [] mode fostering region (Body.endItem scope name builder) := by
  rw [Body.endItem]
  split
  · rename_i reached
    exact sound.closeNamed bounded noRegion reached
  · exact sound

theorem SoundIn.endHeading (sound : SoundIn [] mode fostering region builder) :
    SoundIn [] mode fostering region (Body.endHeading builder) := by
  rw [Body.endHeading]
  split
  · rename_i reached
    refine sound.closeEnded ?_ ?_ reached
    · intro element implied
      have apart : ∀ name ∈ impliedEnds, name ∉ headings := by decide
      rw [Element.isAnyOf_eq (Element.isHtml_of_isAnyOf implied)]
      exact Bool.eq_false_iff.mpr (List.contains_iff_mem.not.mpr
        (apart _ (Element.name_mem_of_isAnyOf implied)))
    · intro element _ isRegion
      have apart : ∀ name ∈ regionNames, name ∉ headings := by decide
      rw [Element.isAnyOf_eq (Element.isHtml_of_isAnyOf isRegion)]
      exact Bool.eq_false_iff.mpr (List.contains_iff_mem.not.mpr
        (apart _ (Element.name_mem_of_isAnyOf isRegion)))
  · exact sound

theorem SoundIn.endEnclosed (sound : SoundIn [] mode fostering region builder) {name : String}
    (notImplied : name ∉ impliedEnds) (noRegion : name ∉ regionNames) :
    SoundIn [] mode fostering region (Body.endEnclosed name builder) := by
  rw [Body.endEnclosed]
  split
  · rename_i reached
    exact (sound.closeEnded (isNamed_of_implied notImplied)
      (fun _ _ => isRegion_of_isNamed noRegion) reached).clearToMarker
  · exact sound

/-- A region that is in scope is the latest, if it is one that no other is put into directly. -/
theorem region?_of_reaches {stack : List Element} (spine : IsSpine stack) {name : String}
    (isRegion : name ∈ regionNames) (outermost : ∀ inner, name ∉ holders inner)
    (reached : reaches Element.bounds (Element.isNamed name) stack = true) :
    ∃ region, region? stack = some region ∧ region.name = name := by
  induction stack with
  | nil => cases reached
  | cons element outer induction =>
      rw [reaches, Element.isNamed_eq spine.1, Bool.or_eq_true, Bool.and_eq_true,
        Bool.not_eq_true'] at reached
      rcases reached with named | ⟨unbounded, further⟩
      · have region : element.isRegion = true := by
          rw [Element.isRegion, Element.isAnyOf_eq spine.1, beq_iff_eq.mp named]
          exact List.contains_iff_mem.mpr isRegion
        exact ⟨element, region?_cons region outer, beq_iff_eq.mp named⟩
      · rcases induction spine.2.2 further with ⟨region, latest, named⟩
        refine ⟨region, ?_, named⟩
        rw [← latest]
        refine (sheds_tail (Bool.eq_false_iff.mpr fun elementRegion => ?_)).region.symm
        cases spine.2.1 with
        | root _ none => subst none; cases further
        | part held =>
            rcases isRegion_of_held held with ⟨holder, rest, rfl, holderRegion, holds⟩
            rw [region?_cons holderRegion] at latest
            cases latest
            rw [← named] at outermost
            exact outermost _ (Element.name_mem_of_isAnyOf holds)
        | ordinary ordinary =>
            have named : element.name = "table" := by
              by_contra different
              exact ordinary.noPart different (Element.name_mem_of_isAnyOf elementRegion)
            rw [Element.bounds, Element.isAnyOf_eq spine.1, named] at unbounded
            cases unbounded

theorem notMem_holders_body (inner : String) : "body" ∉ holders inner := by
  unfold holders
  split <;> decide

theorem SoundIn.endBody (sound : SoundIn [] mode fostering region builder)
    (there : region.isAnyOf (regionsOf mode) = true) {outcome : Builder → Outcome}
    (passes : ∀ builder, Steady fostering builder → (outcome builder).All (Steady fostering)) :
    (Body.endBody outcome builder).All (Steady fostering) := by
  rw [Body.endBody]
  split
  · rename_i reached
    apply passes
    rcases region?_of_reaches sound.spine (by decide) notMem_holders_body reached with
      ⟨latest, isLatest, named⟩
    have same : latest = region := Option.some.inj (isLatest.symm.trans sound.region)
    rw [same] at named
    have isBody : region.isAnyOf ["body"] = true := by
      rw [Element.isAnyOf_eq (Element.isHtml_of_isAnyOf there), named]
      rfl
    exact .settled .afterBody ⟨region, sound.goTo .afterBody, isBody⟩
  · exact .settled mode ⟨region, sound, there⟩

def ruledEnds : List String :=
  ["template", "body", "html"] ++ Body.endedBlocks ++ ["form", "p", "li", "dd", "dt"] ++
    headings ++ ["a", "nobr"] ++ Body.formattingNames ++ Body.enclosed ++ ["br"]

theorem SoundIn.endTag (sound : SoundIn [] mode fostering region builder)
    (there : region.isAnyOf (regionsOf mode) = true)
    (shows : region.isAnyOf contentRegions = true) {name : String}
    (apart : name ≠ "body" → region.isNamed name = false)
    (stays : builder.straysAtEnd name = false) :
    (Body.endTag name builder).All (Steady fostering) := by
  have settle : ∀ {next : Builder}, SoundIn [] mode fostering region next →
      Steady fostering next := fun sound => .settled mode ⟨region, sound, there⟩
  have free : ∀ {names : List String}, (∀ name ∈ names, name ∉ impliedEnds ∧
      name ∉ regionNames) → name ∈ names → name ∉ impliedEnds ∧ name ∉ regionNames :=
    fun all named => all name named
  rw [Body.endTag]
  apply choose_induction (motive := fun rule : Builder → Outcome =>
    (rule builder).All (Steady fostering))
  · simp only [List.forall_mem_cons]
    refine ⟨?template, ?body, ?html, ?blocks, ?form, ?p, ?li, ?terms, ?headings, ?formatting,
      ?enclosed, ?br, List.forall_mem_nil _⟩
    all_goals intro named
    case template =>
      rw [Head.endTemplate, sound.hasNoTemplate]
      exact settle sound
    case body => exact sound.endBody there fun _ steady => steady
    case html => exact sound.endBody there fun _ steady => steady
    case blocks =>
      have all := free (by decide) named
      exact settle (sound.endBlock name all.1 all.2)
    case form =>
      cases List.mem_singleton.mp named
      exact settle (sound.endForm stays)
    case p => exact settle (sound.endParagraph shows)
    case li =>
      cases List.mem_singleton.mp named
      exact settle (sound.endItem bounds_le_itemBounds (by decide))
    case terms =>
      have all : ∀ name ∈ ["dd", "dt"], name ∉ regionNames := by decide
      exact settle (sound.endItem (fun _ => id) (all name named))
    case headings => exact settle sound.endHeading
    case formatting =>
      exact settle (sound.closeFormatting shows
        ((by decide : "a" :: "nobr" :: Body.formattingNames ⊆ formattingTags) named))
    case enclosed =>
      have all := free (by decide) named
      exact settle (sound.endEnclosed all.1 all.2)
    case br =>
      have noCloser : "br" ∉ Markup.paragraphClosers := by decide
      have noItem : "br" ∉ itemNames := by decide
      exact settle (sound.startVoid shows (.of_notMem noCloser noItem))
  · intro unruled
    have ruled : name ∉ ruledEnds := unruled
    refine settle (sound.closeOther (apart ?_))
    rintro rfl
    exact ruled (by decide)

/-! ## All tokens -/

theorem SoundIn.inBody (sound : SoundIn [] mode fostering region builder)
    (there : region.isAnyOf (regionsOf mode) = true)
    (shows : region.isAnyOf contentRegions = true) {token : Token}
    (apart : ∀ name, token = .endTag name → name ≠ "body" → region.isNamed name = false)
    (stays : builder.strays token = false) :
    (Body.inBody token builder).All (Steady fostering) := by
  have settle : ∀ {next : Builder}, SoundIn [] mode fostering region next →
      Steady fostering next := fun sound => .settled mode ⟨region, sound, there⟩
  cases token with
  | space content => exact settle ((sound.reconstruct shows).insertText content)
  | text content =>
      have opened : SoundIn [] mode fostering region builder.reconstruct.forbidFrameset :=
        sound.reconstruct shows
      exact settle (opened.insertText content)
  | comment content => exact settle (sound.insertComment content)
  | startTag tag => exact sound.startTag there shows (staysAtStart stays)
  | endTag name => exact sound.endTag there shows (apart name rfl) stays
  | finish =>
      rw [Body.inBody, Body.finish, sound.hasNoTemplate]
      exact settle sound
  | null => exact settle sound
  | doctype _ => exact settle sound
  | fault => exact settle sound

end Builder

end ChatMarkup.Document
