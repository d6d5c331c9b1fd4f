import ChatMarkup.Document.Mode.Body
import ChatMarkup.Proofs.NestedTrees
import Mathlib.Data.List.TakeWhile
import Mathlib.Tactic.FinCases

/-!
The open elements of a page, from the latest to the root. What may have been opened inside of what
is stated for each element in turn, so that it stays true when elements are closed.
-/

namespace ChatMarkup.Document

open Builder

/-! ## Classes of elements -/

def contentRegions : List String :=
  ["body", "table", "caption", "colgroup", "tbody", "tfoot", "thead", "tr", "td", "th"]

/-- The elements that decide the mode of building. -/
def regionNames : List String := "html" :: "head" :: contentRegions

def holders : String → List String
  | "head" | "body" => ["html"]
  | "caption" | "colgroup" | "tbody" | "tfoot" | "thead" => ["table"]
  | "tr" => rowGroups
  | "td" | "th" => ["tr"]
  | _ => []

/-- Elements that rules of their own apply to, or that an open item is not looked for through. -/
def peculiarNames : List String := ["svg", "math", "template", "frameset", "select", "isindex"]

/-- An element with the name is not opened while a paragraph is open that could be closed. -/
def endsParagraphs (name : String) : Bool :=
  name == "table" || special.contains name &&
    !(regionNames ++ ["applet", "button", "marquee", "object"]).contains name

def itemKinds : List (List String) := [["li"], ["dd", "dt"]]

namespace Element

def isRegion (element : Element) : Bool := element.isAnyOf regionNames

/-- An open item is not looked for outside of the element. -/
def endsSearch (element : Element) : Bool :=
  element.isAnyOf special && !element.isAnyOf transparentToItems

end Element

def region? (stack : List Element) : Option Element := stack.find? Element.isRegion

def holdsParagraph (stack : List Element) : Bool :=
  reaches Element.buttonBounds (Element.isNamed "p") stack

def searchEnd? (stack : List Element) : Option Element := stack.find? Element.endsSearch

/-! ## What stands in what -/

structure IsOrdinary (name : String) (outer : List Element) : Prop where
  noPart : name ≠ "table" → name ∉ regionNames
  common : name ∉ peculiarNames
  region : (region? outer).any (Element.isAnyOf contentRegions) = true
  paragraph : endsParagraphs name = true → holdsParagraph outer = false
  item : ∀ items ∈ itemKinds, name ∈ items → ∀ found, searchEnd? outer = some found →
    found.isAnyOf (items ++ tableParts) = false

inductive StandsIn (name : String) (outer : List Element) : Prop where
  | root (named : name = "html") (outermost : outer = [])
  | part (held : outer.head?.any (Element.isAnyOf (holders name)) = true)
  | ordinary (ordinary : IsOrdinary name outer)

/-- Every open element stands in those that were opened before it. -/
def IsSpine : List Element → Prop
  | [] => True
  | element :: outer => element.isHtml = true ∧ StandsIn element.name outer ∧ IsSpine outer

theorem IsSpine.of_suffix {stack rest : List Element} (suffix : rest <:+ stack)
    (spine : IsSpine stack) : IsSpine rest := by
  induction stack with
  | nil =>
      rw [List.suffix_nil.mp suffix]
      trivial
  | cons element outer induction =>
      rcases List.suffix_cons_iff.mp suffix with rfl | suffix
      · exact spine
      · exact induction suffix spine.2.2

theorem IsSpine.isHtml {stack : List Element} (spine : IsSpine stack) {element : Element}
    (member : element ∈ stack) : element.isHtml = true := by
  induction stack with
  | nil => cases member
  | cons first outer induction =>
      rcases List.mem_cons.mp member with rfl | member
      · exact spine.1
      · exact induction spine.2.2 member

namespace Element

variable {element : Element}

theorem isAnyOf_eq (html : element.isHtml = true) (names : List String) :
    element.isAnyOf names = names.contains element.name := by
  rw [isHtml] at html
  rw [isAnyOf, html, Bool.true_and]

theorem isNamed_eq (html : element.isHtml = true) (name : String) :
    element.isNamed name = (element.name == name) := by
  rw [isHtml] at html
  rw [isNamed, html, Bool.true_and]

theorem isHtml_of_isAnyOf {names : List String} (any : element.isAnyOf names = true) :
    element.isHtml = true :=
  (Bool.and_eq_true_iff.mp any).1

theorem name_mem_of_isAnyOf {names : List String} (any : element.isAnyOf names = true) :
    element.name ∈ names :=
  List.contains_iff_mem.mp (Bool.and_eq_true_iff.mp any).2

theorem isAnyOf_append (names more : List String) :
    element.isAnyOf (names ++ more) = (element.isAnyOf names || element.isAnyOf more) := by
  rw [isAnyOf, isAnyOf, isAnyOf, List.contains_append, Bool.and_or_distrib_left]

theorem isAnyOf_of_subset {names more : List String} (subset : names ⊆ more)
    (any : element.isAnyOf names = true) : element.isAnyOf more = true := by
  rw [isAnyOf_eq (isHtml_of_isAnyOf any)]
  exact List.contains_iff_mem.mpr (subset (name_mem_of_isAnyOf any))

end Element

theorem holders_subset (name : String) : holders name ⊆ regionNames := by
  unfold holders
  split <;> decide

/-- The elements in which a part of a page or of a table stands are regions. -/
theorem isRegion_of_held {outer : List Element} {name : String}
    (held : outer.head?.any (Element.isAnyOf (holders name)) = true) :
    ∃ holder rest, outer = holder :: rest ∧ holder.isRegion = true ∧
      holder.isAnyOf (holders name) = true := by
  cases outer with
  | nil => cases held
  | cons holder rest =>
      exact ⟨holder, rest, rfl, Element.isAnyOf_of_subset (holders_subset name) held, held⟩

/-! ## Closing what is no region -/

/-- What is closed down to `rest` are no regions. -/
def Sheds (stack rest : List Element) : Prop :=
  ∃ inner, stack = inner ++ rest ∧ ∀ element ∈ inner, element.isRegion = false

theorem region?_cons {element : Element} (isRegion : element.isRegion = true)
    (outer : List Element) : region? (element :: outer) = some element := by
  rw [region?, List.find?_cons, isRegion]

theorem Sheds.trans {stack rest last : List Element} (first : Sheds stack rest)
    (second : Sheds rest last) : Sheds stack last := by
  rcases first with ⟨inner, rfl, apart⟩
  rcases second with ⟨outer, rfl, restApart⟩
  refine ⟨inner ++ outer, (List.append_assoc ..).symm, ?_⟩
  intro element member
  exact (List.mem_append.mp member).elim (apart element) (restApart element)

theorem Sheds.suffix {stack rest : List Element} (sheds : Sheds stack rest) : rest <:+ stack := by
  rcases sheds with ⟨inner, rfl, -⟩
  exact List.suffix_append inner rest

theorem Sheds.region {stack rest : List Element} (sheds : Sheds stack rest) :
    region? rest = region? stack := by
  rcases sheds with ⟨inner, rfl, apart⟩
  have none : inner.find? Element.isRegion = none :=
    List.find?_eq_none.mpr fun element member => by simp [apart element member]
  rw [region?, region?, List.find?_append, none, Option.none_or]

theorem sheds_tail {element : Element} {outer : List Element}
    (noRegion : element.isRegion = false) : Sheds (element :: outer) outer :=
  ⟨[element], rfl, by simpa using noRegion⟩

theorem sheds_dropWhile {test : Element → Bool}
    (noRegion : ∀ element, test element = true → element.isRegion = false)
    (stack : List Element) : Sheds stack (stack.dropWhile test) :=
  ⟨stack.takeWhile test, (List.takeWhile_append_dropWhile ..).symm, fun element member =>
    noRegion element (List.mem_takeWhile_imp member)⟩

/-- Where a scope that tables and their parts bound reaches an element, no region was opened since
then. -/
theorem exists_of_reaches {scope : Element.Scope} {test : Element → Bool} {stack : List Element}
    (bounded : ∀ element, element.bounds = true → scope element = true)
    (noRegion : ∀ element ∈ stack, element.isRegion = true → test element = false)
    (spine : IsSpine stack) (reached : reaches scope test stack = true) :
    ∃ inner found outer, stack = inner ++ found :: outer ∧ test found = true ∧
      ∀ element ∈ inner, test element = false ∧ scope element = false ∧
        element.isRegion = false := by
  induction stack with
  | nil => cases reached
  | cons element outer induction =>
      rw [reaches] at reached
      cases here : test element with
      | true => exact ⟨[], element, outer, rfl, here, List.forall_mem_nil _⟩
      | false =>
          rw [here, Bool.false_or, Bool.and_eq_true, Bool.not_eq_true'] at reached
          rw [List.forall_mem_cons] at noRegion
          rcases induction noRegion.2 spine.2.2 reached.2 with
            ⟨inner, found, rest, split, passes, apart⟩
          refine ⟨element :: inner, found, rest, by rw [split]; rfl, passes, ?_⟩
          refine List.forall_mem_cons.mpr ⟨⟨here, reached.1, ?_⟩, apart⟩
          refine Bool.eq_false_iff.mpr fun region => ?_
          cases spine.2.1 with
          | root named _ =>
              have : scope element = true := bounded element (by
                simp [Element.bounds, Element.isAnyOf_eq spine.1, named])
              simp_all
          | part held =>
              rcases isRegion_of_held held with ⟨holder, more, rfl, holds, -⟩
              cases inner with
              | nil => simp_all
              | cons first inner => simp_all
          | ordinary ordinary =>
              have named : element.name = "table" := by
                by_contra different
                exact ordinary.noPart different (Element.name_mem_of_isAnyOf region)
              have : scope element = true := bounded element (by
                simp [Element.bounds, Element.isAnyOf_eq spine.1, named])
              simp_all

theorem outside_split {test : Element → Bool} {inner outer : List Element} {found : Element}
    (apart : ∀ element ∈ inner, test element = false) (passes : test found = true) :
    outside test (inner ++ found :: outer) = outer := by
  induction inner with
  | nil => simp [outside, passes]
  | cons first inner induction =>
      rw [List.forall_mem_cons] at apart
      simp [outside, apart.1, induction apart.2]

theorem outside_dropWhile {test drop : Element → Bool}
    (apart : ∀ element, drop element = true → test element = false) (stack : List Element) :
    outside test (stack.dropWhile drop) = outside test stack := by
  induction stack with
  | nil => rfl
  | cons element outer induction =>
      rw [List.dropWhile_cons]
      split
      · rename_i drops
        rw [induction, outside, apart element drops]
        rfl
      · rfl

theorem reaches_split {scope : Element.Scope} {test : Element → Bool} {inner outer : List Element}
    {found : Element} (unbounded : ∀ element ∈ inner, scope element = false)
    (passes : test found = true) : reaches scope test (inner ++ found :: outer) = true := by
  induction inner with
  | nil => simp [reaches, passes]
  | cons first inner induction =>
      rw [List.forall_mem_cons] at unbounded
      simp [reaches, unbounded.1, induction unbounded.2]

/-- What an end tag closes is no region. -/
theorem sheds_outside {scope : Element.Scope} {test : Element → Bool} {stack : List Element}
    (bounded : ∀ element, element.bounds = true → scope element = true)
    (noRegion : ∀ element ∈ stack, element.isRegion = true → test element = false)
    (spine : IsSpine stack) (reached : reaches scope test stack = true) :
    Sheds stack (outside test stack) := by
  rcases exists_of_reaches bounded noRegion spine reached with
    ⟨inner, found, outer, rfl, passes, apart⟩
  rw [outside_split (fun element member => (apart element member).1) passes]
  refine ⟨inner ++ [found], by simp, fun element member => ?_⟩
  rcases List.mem_append.mp member with member | member
  · exact (apart element member).2.2
  · cases List.mem_singleton.mp member
    refine Bool.eq_false_iff.mpr fun region => ?_
    rw [noRegion found (by simp) region] at passes
    cases passes

/-! ## Closing a paragraph -/

theorem StandsIn.ordinary_of_holders {name : String} {outer : List Element}
    (stands : StandsIn name outer) (free : holders name = []) (inside : name ≠ "html") :
    IsOrdinary name outer := by
  cases stands with
  | root named _ => exact absurd named inside
  | part held =>
      rcases isRegion_of_held held with ⟨holder, -, -, -, holds⟩
      rw [free] at holds
      exact absurd (Element.name_mem_of_isAnyOf holds) List.not_mem_nil
  | ordinary ordinary => exact ordinary

theorem StandsIn.ordinary_of_not_region {name : String} {outer : List Element}
    (stands : StandsIn name outer) (noRegion : name ∉ regionNames) : IsOrdinary name outer := by
  refine stands.ordinary_of_holders ?_ ?_
  · unfold holders
    split <;> first | rfl | exact absurd (by decide) noRegion
  · rintro rfl
    exact noRegion (by decide)

/-- A part of a page or of a table stands in its holder. -/
theorem StandsIn.held {name : String} {outer : List Element} (stands : StandsIn name outer)
    (isRegion : name ∈ regionNames) (part : name ∉ ["html", "table"]) :
    outer.head?.any (Element.isAnyOf (holders name)) = true := by
  cases stands with
  | root named _ => exact absurd (by rw [named]; decide) part
  | part held => exact held
  | ordinary ordinary =>
      refine absurd isRegion (ordinary.noPart ?_)
      rintro rfl
      exact part (by decide)

theorem notMem_regionNames {element : Element} (html : element.isHtml = true)
    (noRegion : element.isRegion = false) : element.name ∉ regionNames := by
  rw [Element.isRegion, Element.isAnyOf_eq html] at noRegion
  exact List.contains_iff_mem.not.mp (Bool.eq_false_iff.mp noRegion)

/-- A special element that a paragraph could be closed through would have closed it. -/
theorem endsParagraphs_of_endsSearch {element : Element} (html : element.isHtml = true)
    (noRegion : element.isRegion = false) (unbounded : element.buttonBounds = false)
    (search : element.endsSearch = true) : endsParagraphs element.name = true := by
  have isSpecial := (Bool.and_eq_true_iff.mp search).1
  have noneOfThem : element.name ∉ regionNames ++ ["applet", "button", "marquee", "object"] := by
    intro member
    rcases List.mem_append.mp member with region | open'
    · exact notMem_regionNames html noRegion region
    · simp [Element.buttonBounds, Element.bounds, Element.isNamed_eq html,
        Element.isAnyOf_eq html] at unbounded
      simp_all
  rw [Element.isAnyOf_eq html] at isSpecial
  rw [endsParagraphs, isSpecial, Bool.eq_false_iff.mpr (List.contains_iff_mem.not.mpr noneOfThem)]
  exact Bool.or_true _

theorem isRegion_of_isNamed {element : Element} {name : String} (ordinary : name ∉ regionNames)
    (region : element.isRegion = true) : element.isNamed name = false := by
  rw [Element.isNamed_eq (Element.isHtml_of_isAnyOf region)]
  refine beq_eq_false_iff_ne.mpr fun same => ordinary ?_
  rw [← same]
  exact Element.name_mem_of_isAnyOf region

/-- Where the latest paragraph is closed no other is left that could be closed, and the search for
an open item is not affected. -/
theorem outside_paragraph {stack : List Element} (spine : IsSpine stack)
    (holds : holdsParagraph stack = true) :
    Sheds stack (outside (Element.isNamed "p") stack) ∧
      holdsParagraph (outside (Element.isNamed "p") stack) = false ∧
      searchEnd? (outside (Element.isNamed "p") stack) = searchEnd? stack := by
  have bounded : ∀ element : Element, element.bounds = true → element.buttonBounds = true :=
    fun element bounds => by rw [Element.buttonBounds, bounds, Bool.or_true]
  have noRegion : ∀ element ∈ stack, element.isRegion = true → element.isNamed "p" = false :=
    fun element _ => isRegion_of_isNamed (by decide)
  refine ⟨sheds_outside bounded noRegion spine holds, ?_⟩
  rcases exists_of_reaches bounded noRegion spine holds with
    ⟨inner, paragraph, outer, rfl, passes, apart⟩
  rw [outside_split (fun element member => (apart element member).1) passes]
  have paragraphNamed : paragraph.name = "p" := by
    rw [Element.isNamed_eq (spine.isHtml (by simp))] at passes
    exact beq_iff_eq.mp passes
  have unbounded : ∀ element ∈ inner, element.buttonBounds = false :=
    fun element member => (apart element member).2.1
  constructor
  · have stands := (spine.of_suffix (List.suffix_append inner _)).2.1
    rw [paragraphNamed] at stands
    exact (stands.ordinary_of_not_region (by decide)).paragraph (by decide)
  · have searchesOn : ∀ element ∈ inner, element.endsSearch = false := by
      intro element member
      refine Bool.eq_false_iff.mpr fun search => ?_
      rcases List.append_of_mem member with ⟨later, earlier, rfl⟩
      have rest : IsSpine (element :: (earlier ++ paragraph :: outer)) :=
        spine.of_suffix (by simp)
      have noPart := (apart element member).2.2
      have ends := endsParagraphs_of_endsSearch rest.1 noPart (unbounded element member) search
      have stands := rest.2.1.ordinary_of_not_region (notMem_regionNames rest.1 noPart)
      have shut := stands.paragraph ends
      rw [holdsParagraph, reaches_split (fun other among => unbounded other (by simp [among]))
        passes] at shut
      cases shut
    have paragraphPassed : paragraph.endsSearch = false := by
      rw [Element.endsSearch, Element.isAnyOf_eq (spine.isHtml (by simp)),
        Element.isAnyOf_eq (spine.isHtml (by simp)), paragraphNamed]
      decide
    have none : inner.find? Element.endsSearch = none :=
      List.find?_eq_none.mpr fun element member => by simp [searchesOn element member]
    rw [searchEnd?, searchEnd?, List.find?_append, none, Option.none_or, List.find?_cons,
      paragraphPassed]

/-! ## What fits where -/

theorem endsSearch_of_mem {element : Element} (html : element.isHtml = true)
    (isSpecial : element.name ∈ special) (noWrapper : element.name ∉ transparentToItems) :
    element.endsSearch = true := by
  rw [Element.endsSearch, Element.isAnyOf_eq html, Element.isAnyOf_eq html,
    List.contains_iff_mem.mpr isSpecial,
    Bool.eq_false_iff.mpr (List.contains_iff_mem.not.mpr noWrapper)]
  rfl

theorem searchEnd?_cons {element : Element} (html : element.isHtml = true)
    (isSpecial : element.name ∈ special) (noWrapper : element.name ∉ transparentToItems)
    (outer : List Element) : searchEnd? (element :: outer) = some element := by
  rw [searchEnd?, List.find?_cons, endsSearch_of_mem html isSpecial noWrapper]

theorem fits_holder {name holder : String} (held : holder ∈ holders name) : Fits holder name := by
  unfold holders at held
  split at held <;> fin_cases held <;> decide

/-- What may be opened fits into the latest element. -/
theorem StandsIn.fits {name : String} {current : Element} {outer : List Element}
    (stands : StandsIn name (current :: outer)) (html : current.isHtml = true) :
    Fits current.name name := by
  cases stands with
  | root _ outermost => cases outermost
  | part held => exact fits_holder (Element.name_mem_of_isAnyOf held)
  | ordinary ordinary =>
      refine Bool.eq_false_iff.mpr fun closes => ?_
      have noItem : ∀ items ∈ itemKinds, name ∈ items → current.name ∉ items := by
        intro items kind member current_mem
        have isItem : current.name ∈ special ∧ current.name ∉ transparentToItems := by
          have all : ∀ items ∈ itemKinds, ∀ item ∈ items,
              item ∈ special ∧ item ∉ transparentToItems := by decide
          exact all items kind _ current_mem
        have shut := ordinary.item items kind member current
          (searchEnd?_cons html isItem.1 isItem.2 outer)
        rw [Element.isAnyOf_eq html, Bool.eq_false_iff] at shut
        exact shut (List.contains_iff_mem.mpr (List.mem_append_left _ current_mem))
      rcases closesParent_eq_true closes with
        ⟨paragraph, closer⟩ | ⟨item, named⟩ | ⟨item, named⟩ | ⟨-, named⟩ | ⟨-, named⟩
      · have all : ∀ closer ∈ Markup.paragraphClosers, endsParagraphs closer = true := by decide
        have shut := ordinary.paragraph (all name closer)
        rw [holdsParagraph, reaches, Element.isNamed_eq html, paragraph] at shut
        cases shut
      · exact noItem ["li"] (by decide) (by simp [named]) (by simp [item])
      · exact noItem ["dd", "dt"] (by decide) named item
      · exact ordinary.noPart (by rw [named]; decide) (by rw [named]; decide)
      · have all : ∀ part ∈ ["td", "th", "tr"], part ≠ "table" ∧ part ∈ regionNames := by decide
        exact ordinary.noPart (all name named).1 (all name named).2

/-- Between the parts of a table no items are opened. -/
theorem IsOrdinary.notMem_itemNames {name : String} {current : Element} {outer : List Element}
    (ordinary : IsOrdinary name (current :: outer)) (part : current.isAnyOf tableParts = true) :
    name ∉ itemNames := by
  intro item
  have html := Element.isHtml_of_isAnyOf part
  have isSpecial : ∀ part ∈ tableParts, part ∈ special ∧ part ∉ transparentToItems := by decide
  have found := searchEnd?_cons html (isSpecial _ (Element.name_mem_of_isAnyOf part)).1
    (isSpecial _ (Element.name_mem_of_isAnyOf part)).2 outer
  have kinds : ∀ item ∈ itemNames,
      (∃ items ∈ itemKinds, item ∈ items) ∨ (item ≠ "table" ∧ item ∈ regionNames) := by decide
  rcases kinds name item with ⟨items, kind, member⟩ | ⟨different, region⟩
  · have shut := ordinary.item items kind member current found
    rw [Element.isAnyOf_of_subset (List.subset_append_right items tableParts) part] at shut
    cases shut
  · exact ordinary.noPart different region

/-- Elements that no rule is concerned with may be opened in every region. -/
theorem isOrdinary_of_notMem {name : String} {outer : List Element} (plain : name ∉ special)
    (common : name ∉ peculiarNames)
    (region : (region? outer).any (Element.isAnyOf contentRegions) = true) :
    IsOrdinary name outer where
  noPart := fun _ member => plain ((by decide : regionNames ⊆ special) member)
  common := common
  region := region
  paragraph ends := by
    have noTable : (name == "table") = false := by
      refine beq_eq_false_iff_ne.mpr ?_
      rintro rfl
      exact plain (by decide)
    have noSpecial : special.contains name = false :=
      Bool.eq_false_iff.mpr (List.contains_iff_mem.not.mpr plain)
    rw [endsParagraphs, noTable, noSpecial] at ends
    cases ends
  item items kind member := by
    have all : ∀ items ∈ itemKinds, items ⊆ special := by decide
    exact absurd (all items kind member) plain

/-! ## Stacks that are alike -/

/-- What may be opened inside of both is the same. -/
structure SameOutlook (left right : List Element) : Prop where
  paragraph : holdsParagraph left = holdsParagraph right
  search : searchEnd? left = searchEnd? right
  region : region? left = region? right

theorem SameOutlook.refl (stack : List Element) : SameOutlook stack stack := ⟨rfl, rfl, rfl⟩

theorem SameOutlook.symm {left right : List Element} (same : SameOutlook left right) :
    SameOutlook right left :=
  ⟨same.paragraph.symm, same.search.symm, same.region.symm⟩

theorem SameOutlook.trans {left middle right : List Element} (first : SameOutlook left middle)
    (second : SameOutlook middle right) : SameOutlook left right :=
  ⟨first.paragraph.trans second.paragraph, first.search.trans second.search,
    first.region.trans second.region⟩

theorem SameOutlook.cons {left right : List Element} (same : SameOutlook left right)
    (element : Element) : SameOutlook (element :: left) (element :: right) where
  paragraph := by
    have rest := same.paragraph
    rw [holdsParagraph, holdsParagraph] at rest
    rw [holdsParagraph, holdsParagraph, reaches, reaches, rest]
  search := by
    have rest := same.search
    rw [searchEnd?, searchEnd?] at rest
    rw [searchEnd?, searchEnd?, List.find?_cons, List.find?_cons, rest]
  region := by
    have rest := same.region
    rw [region?, region?] at rest
    rw [region?, region?, List.find?_cons, List.find?_cons, rest]

theorem SameOutlook.append {left right : List Element} (same : SameOutlook left right)
    (inner : List Element) : SameOutlook (inner ++ left) (inner ++ right) := by
  induction inner with
  | nil => exact same
  | cons element inner induction => exact induction.cons element

theorem isAnyOf_eq_false {element : Element} (html : element.isHtml = true)
    (plain : element.name ∉ special) {names : List String} (subset : names ⊆ special) :
    element.isAnyOf names = false := by
  rw [Element.isAnyOf_eq html]
  exact Bool.eq_false_iff.mpr (List.contains_iff_mem.not.mpr fun member => plain (subset member))

theorem bounds_eq_false {element : Element} (html : element.isHtml = true)
    (plain : element.name ∉ special) : element.bounds = false := by
  have vocabulary : element.vocabulary = .html := beq_iff_eq.mp html
  rw [Element.bounds, isAnyOf_eq_false html plain (by decide), Element.holdsText,
    Element.holdsHtml, vocabulary]
  rfl

/-- An element that is not special makes no difference to what may be opened. -/
theorem sameOutlook_cons {element : Element} (html : element.isHtml = true)
    (plain : element.name ∉ special) (outer : List Element) :
    SameOutlook (element :: outer) outer where
  paragraph := by
    have other : ∀ name ∈ special, element.isNamed name = false := by
      intro name member
      rw [Element.isNamed_eq html]
      refine beq_eq_false_iff_ne.mpr fun same => plain ?_
      rw [same]
      exact member
    rw [holdsParagraph, reaches, Element.buttonBounds, other "p" (by decide),
      other "button" (by decide), bounds_eq_false html plain]
    rfl
  search := by
    rw [searchEnd?, List.find?_cons, Element.endsSearch,
      isAnyOf_eq_false html plain (List.Subset.refl special)]
    rfl
  region := by
    rw [region?, List.find?_cons, Element.isRegion, isAnyOf_eq_false html plain (by decide)]
    rfl

theorem sameOutlook_append {inner : List Element} (html : ∀ element ∈ inner, element.isHtml = true)
    (plain : ∀ element ∈ inner, element.name ∉ special) (outer : List Element) :
    SameOutlook (inner ++ outer) outer := by
  induction inner with
  | nil => exact .refl outer
  | cons element inner induction =>
      rw [List.forall_mem_cons] at html plain
      exact (sameOutlook_cons html.1 plain.1 _).trans (induction html.2 plain.2)

theorem IsOrdinary.congr {name : String} {left right : List Element}
    (same : SameOutlook left right) (ordinary : IsOrdinary name left) : IsOrdinary name right where
  noPart := ordinary.noPart
  common := ordinary.common
  region := by rw [← same.region]; exact ordinary.region
  paragraph := by rw [← same.paragraph]; exact ordinary.paragraph
  item := by rw [← same.search]; exact ordinary.item

/-- Elements that are no regions stand where they stood if what is around them is exchanged for
something alike. -/
theorem IsSpine.exchange (inner : List Element) {left right : List Element}
    (same : SameOutlook left right) (spine : IsSpine (inner ++ left))
    (noRegion : ∀ element ∈ inner, element.isRegion = false) (rightSpine : IsSpine right) : IsSpine (inner ++ right) := by
  induction inner with
  | nil => exact rightSpine
  | cons element inner induction =>
      rw [List.forall_mem_cons] at noRegion
      have ordinary := spine.2.1.ordinary_of_not_region (notMem_regionNames spine.1 noRegion.1)
      exact ⟨spine.1, .ordinary (ordinary.congr (same.append inner)),
        induction spine.2.2 noRegion.2⟩

/-! ## Where nodes are put that cannot stand in a table -/

/-- They are put before a table, which does not stand in a paragraph, or into the root. -/
theorem fosterPlace_cases {stack : List Element} (spine : IsSpine stack) {place : Place}
    (found : fosterPlace stack = some place) :
    (∃ root ∈ stack, root.name = "html" ∧ place = .inside root.number) ∨
      ∃ table ∈ stack, ∃ opened ∈ stack, table.name = "table" ∧ opened.name ≠ "p" ∧
        place = .before table.number (some opened.number) := by
  induction stack with
  | nil => cases found
  | cons element outer induction =>
      cases outer with
      | nil =>
          cases found
          refine .inl ⟨element, by simp, ?_, rfl⟩
          cases spine.2.1 with
          | root named _ => exact named
          | part held => cases held
          | ordinary ordinary => cases ordinary.region
      | cons opened outer =>
          rw [fosterPlace] at found
          split at found
          · rename_i template
            have named : element.name = "template" := by
              rw [Element.isNamed_eq spine.1] at template
              exact beq_iff_eq.mp template
            have stands := spine.2.1
            rw [named] at stands
            exact absurd (by decide) (stands.ordinary_of_not_region (by decide)).common
          split at found
          · rename_i table
            cases found
            have named : element.name = "table" := by
              rw [Element.isNamed_eq spine.1] at table
              exact beq_iff_eq.mp table
            refine .inr ⟨element, by simp, opened, by simp, named, ?_, rfl⟩
            have stands := spine.2.1
            rw [named] at stands
            have shut := (stands.ordinary_of_holders rfl (by decide)).paragraph (by decide)
            intro paragraph
            rw [holdsParagraph, reaches, Element.isNamed_eq spine.2.2.1, paragraph] at shut
            cases shut
          · rcases induction spine.2.2 found with
              ⟨root, member, rest⟩ | ⟨table, member, last, lastMember, rest⟩
            · exact .inl ⟨root, List.mem_cons_of_mem _ member, rest⟩
            · exact .inr ⟨table, List.mem_cons_of_mem _ member, last,
                List.mem_cons_of_mem _ lastMember, rest⟩

end ChatMarkup.Document
