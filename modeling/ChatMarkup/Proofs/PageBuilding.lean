import ChatMarkup.Proofs.PageReading

/-!
Building the body of a page from items of text. An item is open while its text is read; the start
tag of the next one closes it, because neither paragraphs nor items of a list hold their like.
-/

namespace ChatMarkup.Document

/-! ## The builder in a body -/

def Builder.flowing (framesetOk : Bool) (trees : List Tree) (stack : List Element)
    (nextNumber : Nat) : Builder where
  mode := .inBody
  returnMode := .initial
  templateModes := []
  trees
  stack
  formatting := []
  headElement := some ⟨1, .html, "head", []⟩
  form := none
  framesetOk
  tableInParagraph := true
  fostering := false
  tableText := []
  skipsBreak := false
  content := .markup
  pauses := false
  nextNumber

def root : Element := ⟨0, .html, "html", []⟩

def body : Element := ⟨2, .html, "body", []⟩

/-- A page with a body, whose nodes are given with the latest first. -/
def bodyTrees (nodes : List Tree) : List Tree :=
  [.element root [.element body nodes, .element ⟨1, .html, "head", []⟩ []]]

def stretches (text : List Char) : List Tree :=
  ((Token.ofText text).map fun token => .text token.content).reverse

/-! ## Items -/

structure Site where
  name : String
  outer : List Element
  first : Nat
  around : List Tree → List Tree

namespace Site

variable (site : Site)

def owner (number : Nat) : Element := ⟨number, .html, site.name, []⟩

def items : List (List Char) → List Tree
  | [] => []
  | text :: earlier =>
    .element (site.owner (site.first + earlier.length)) (stretches text) :: items earlier

/-- The builder while an item is open that has got some nodes, after items with their texts. -/
def builder (framesetOk : Bool) (nodes : List Tree) (earlier : List (List Char)) : Builder :=
  let latest := site.owner (site.first + earlier.length)
  .flowing framesetOk (site.around (.element latest nodes :: site.items earlier))
    (latest :: site.outer) (site.first + earlier.length + 1)

/-- What the place has to do with the tokens that it meets. -/
structure Sound : Prop where
  /-- Nodes go into the open item. -/
  appends (number : Nat) (later : site.first ≤ number) (node : Tree) (nodes earlier : List Tree) :
    Tree.appendTo number node (site.around (.element (site.owner number) nodes :: earlier)) =
      site.around (.element (site.owner number) (node :: nodes) :: earlier)
  /-- A start tag closes the open item and opens the next one. -/
  opens (framesetOk : Bool) (number next : Nat) (items : List Tree) :
    ∃ stillOk, (Builder.flowing framesetOk (site.around items) (site.owner number :: site.outer)
        next).take (.startTag ⟨site.name, [], false⟩) =
      .flowing stillOk (site.around (.element (site.owner next) [] :: items))
        (site.owner next :: site.outer) (next + 1)

variable {site}

theorem Sound.take_stretch (sound : site.Sound) {token : Token} (stretch : token.isStretch = true)
    (framesetOk : Bool) (nodes : List Tree) (earlier : List (List Char)) :
    ∃ stillOk, (site.builder framesetOk nodes earlier).take token =
      site.builder stillOk (.text token.content :: nodes) earlier := by
  have appended := sound.appends (site.first + earlier.length) (Nat.le_add_right _ _)
    (.text token.content) nodes (site.items earlier)
  cases token with
  | space content =>
      refine ⟨framesetOk, ?_⟩
      rw [builder, builder, ← appended]
      rfl
  | text content =>
      refine ⟨false, ?_⟩
      rw [builder, builder, ← appended]
      rfl
  | _ => cases stretch

theorem Sound.foldl_take_stretches (sound : site.Sound) {tokens : List Token}
    (allStretches : ∀ token ∈ tokens, token.isStretch = true) (framesetOk : Bool)
    (nodes : List Tree) (earlier : List (List Char)) :
    ∃ stillOk, tokens.foldl Builder.take (site.builder framesetOk nodes earlier) =
      site.builder stillOk ((tokens.map fun token => .text token.content).reverse ++ nodes)
        earlier := by
  induction tokens generalizing framesetOk nodes with
  | nil => exact ⟨framesetOk, rfl⟩
  | cons token rest induction =>
      rw [List.forall_mem_cons] at allStretches
      rcases sound.take_stretch allStretches.1 framesetOk nodes earlier with ⟨nextOk, taken⟩
      rcases induction allStretches.2 nextOk (.text token.content :: nodes) with ⟨stillOk, all⟩
      refine ⟨stillOk, ?_⟩
      rw [List.foldl_cons, taken, all, List.map_cons, List.reverse_cons, List.append_assoc]
      rfl

/-- The text of the open item is taken. -/
theorem Sound.foldl_take_text (sound : site.Sound) (framesetOk : Bool) (text : List Char)
    (earlier : List (List Char)) :
    ∃ stillOk, (Token.ofText text).foldl Builder.take (site.builder framesetOk [] earlier) =
      site.builder stillOk (stretches text) earlier := by
  have taken := sound.foldl_take_stretches (@Token.isStretch_of_mem_ofText text) framesetOk []
    earlier
  rwa [List.append_nil] at taken

/-- The text of the open item is taken, and then the start tag of the next one. -/
theorem Sound.foldl_take_next (sound : site.Sound) (framesetOk : Bool) (text : List Char)
    (earlier : List (List Char)) :
    ∃ stillOk, (Reader.tokensBefore text.reverse (.startTag ⟨site.name, [], false⟩)).foldl
        Builder.take (site.builder framesetOk [] earlier) =
      site.builder stillOk [] (text :: earlier) := by
  rcases sound.foldl_take_text framesetOk text earlier with ⟨textOk, taken⟩
  rcases sound.opens textOk (site.first + earlier.length)
      (site.first + earlier.length + 1) (site.items (text :: earlier)) with ⟨stillOk, opened⟩
  refine ⟨stillOk, ?_⟩
  rw [Reader.foldl_take_tokensBefore, List.reverse_reverse, taken]
  exact opened

end Site

end ChatMarkup.Document
