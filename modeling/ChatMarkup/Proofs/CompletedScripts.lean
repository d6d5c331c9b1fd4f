import ChatMarkup.Proofs.PageScripts
import ChatMarkup.Proofs.WrittenTrees

/-!
The completed page of a text and a script without an end tag. The script gets its end tag, and what
is in it is written as it was read; only the text is written with references.
-/

namespace ChatMarkup.Document

def scriptBefore (after script : List Char) : List Char :=
  Node.startTag "script" ++ (script ++ (Node.endTag "script" ++ after))

def headPage (script : List Char) : List Char :=
  Node.startTag "html" ++ (Node.startTag "head" ++ scriptBefore (Node.endTag "head" ++
    (Node.startTag "body" ++ (Node.endTag "body" ++ Node.endTag "html"))) script)

def bodyPage (text script : List Char) : List Char :=
  Node.startTag "html" ++ (Node.startTag "head" ++ (Node.endTag "head" ++
    (Node.startTag "body" ++ (text.flatMap (Tree.escape false) ++
      scriptBefore (Node.endTag "body" ++ Node.endTag "html") script))))

theorem Tree.write_script (number : Nat) (after : List Char) (contents : List (List Char)) :
    write false after (.element ⟨number, .html, "script", []⟩ (contents.map .text)) =
      scriptBefore after contents.reverse.flatten := by
  rw [write_closed (by decide) (by decide)]
  exact congrArg (Node.startTag "script" ++ ·) (writeAll_texts true _ contents)

namespace Builder

theorem trees_finish_inHeadScript (content : Content) (nodes : List Tree) :
    ((inHeadScript content nodes).take .finish).trees =
      [.element root [.element ⟨3, .html, "body", []⟩ [],
        .element ⟨1, .html, "head", []⟩ [.element ⟨2, .html, "script", []⟩ nodes]]] :=
  rfl

theorem trees_finish_inBodyScript (framesetOk : Bool) (before : List Tree) (content : Content)
    (nodes : List Tree) :
    ((inBodyScript framesetOk before content nodes).take .finish).trees =
      bodyTrees (.element ⟨3, .html, "script", []⟩ nodes :: before) :=
  rfl

theorem AtScript.writeAll {text script : List Char} {builder : Builder}
    (atScript : AtScript text script builder) :
    (text = [] ∧ Tree.writeAll false [] (builder.take .finish).trees = headPage script) ∨
      Tree.writeAll false [] (builder.take .finish).trees = bodyPage text script := by
  have html : Tree.holdsMarkup "html" = true := by decide
  have head : Tree.holdsMarkup "head" = true := by decide
  have body : Tree.holdsMarkup "body" = true := by decide
  cases atScript with
  | head content contents =>
      refine .inl ⟨rfl, ?_⟩
      rw [trees_finish_inHeadScript]
      simp only [root, Tree.writeAll, Tree.write_element html, Tree.write_element head,
        Tree.write_element body, Tree.write_script, headPage, List.append_nil]
  | body framesetOk texts content contents =>
      right
      rw [trees_finish_inBodyScript]
      simp only [bodyTrees, root, Document.body, Tree.writeAll, Tree.write_element html,
        Tree.write_element head, Tree.write_element body, Tree.write_script, Tree.writeAll_texts,
        bodyPage, List.append_nil]
      rfl

end Builder

/-- The completed page of a text and a script whose end tag is never read. -/
theorem completed_script {before content page : List Char} (free : '<' ∉ before)
    (whole : page = before ++ (Node.startTag "script" ++ content))
    (unended : .endTag "script" ∉ tokens page) :
    (textBeforeTag (tokens page) = [] ∧
      completed page = headPage (textAfterTag (tokens page))) ∨
    completed page = bodyPage (textBeforeTag (tokens page)) (textAfterTag (tokens page)) := by
  rcases exists_atScript free whole unended with ⟨builder, atScript, built⟩
  rw [completed, built]
  exact atScript.writeAll

end ChatMarkup.Document
