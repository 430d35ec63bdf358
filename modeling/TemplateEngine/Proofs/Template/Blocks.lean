import TemplateEngine.Proofs.Template.Tags
import TemplateEngine.Template.Block

/-!
# Putting printed blocks together

The pieces of some nodes add these to the innermost body, whichever blocks are open
around it. Those of a block open one, fill its body and close it. An `IF` block changes
its head on the way: the branches before the current one are kept in it, and its end
joins them to one node.
-/

namespace TemplateEngine

open Assembly

variable {nodes nodes' : List Node} {ps qs : List Piece} {node : Node} {a b : Assembly}
  {head : BlockHead} {span : Span} {root body : List Node} {opened : List OpenBlock} {t : Tag}

namespace Assembly

theorem addPieces_append (h : a.addPieces ps = .ok b) (qs : List Piece) :
    a.addPieces (ps ++ qs) = b.addPieces qs := by
  induction ps generalizing a with
  | nil =>
    cases h
    rfl
  | cons piece ps ih =>
    rw [List.cons_append, addPieces]
    rw [addPieces] at h
    cases taken : a.addPiece piece with
    | error fault =>
      rw [taken] at h
      cases h
    | ok c =>
      rw [taken] at h
      exact ih h

theorem addPieces_tag (h : a.addTag span t = .ok b) (ps : List Piece) :
    a.addPieces (⟨.tag t, span⟩ :: ps) = b.addPieces ps := by
  have taken : a.addPiece ⟨.tag t, span⟩ = .ok b := h
  rw [addPieces, taken]
  rfl

/-- What is added to an open block is the latest part of its body. -/
theorem foldl_add_opened (nodes : List Node) :
    nodes.foldl Assembly.add ⟨root, ⟨head, span, body⟩ :: opened⟩
      = ⟨root, ⟨head, span, nodes.reverse ++ body⟩ :: opened⟩ := by
  induction nodes generalizing body with
  | nil => rfl
  | cons node nodes ih =>
    rw [List.foldl_cons, add, ih, List.reverse_cons, List.append_assoc]
    rfl

theorem foldl_add_root (nodes : List Node) :
    nodes.foldl Assembly.add ⟨root, []⟩ = ⟨nodes.reverse ++ root, []⟩ := by
  induction nodes generalizing root with
  | nil => rfl
  | cons node nodes ih =>
    rw [List.foldl_cons, add, ih, List.reverse_cons, List.append_assoc]
    rfl

end Assembly

theorem unspannedAll_append (nodes nodes' : List Node) : Node.unspannedAll (nodes ++ nodes')
    = Node.unspannedAll nodes ++ Node.unspannedAll nodes' := by
  induction nodes with
  | nil => rfl
  | cons node nodes ih =>
    rw [List.cons_append, Node.unspannedAll, ih, Node.unspannedAll, List.cons_append]

/-- The pieces add the nodes to the innermost body, up to spans. -/
def Builds (nodes : List Node) (ps : List Piece) : Prop :=
  ∃ found, Node.unspannedAll found = Node.unspannedAll nodes ∧
    ∀ a : Assembly, a.addPieces ps = .ok (found.foldl Assembly.add a)

namespace Builds

theorem nil : Builds [] [] := ⟨[], rfl, fun _ => rfl⟩

theorem comment (span : Span) : Builds [] [⟨.comment, span⟩] := ⟨[], rfl, fun _ => rfl⟩

theorem text (s : String) (span : Span) : Builds [.text s] [⟨.text s, span⟩] :=
  ⟨[.text s], rfl, fun _ => rfl⟩

theorem append (first : Builds nodes ps) (second : Builds nodes' qs) :
    Builds (nodes ++ nodes') (ps ++ qs) := by
  obtain ⟨found, same, adds⟩ := first
  obtain ⟨found', same', adds'⟩ := second
  refine ⟨found ++ found', ?_, fun a => ?_⟩
  · rw [unspannedAll_append, same, same', unspannedAll_append]
  · rw [addPieces_append (adds a), adds', List.foldl_append]

/-- A node that is a single tag. -/
theorem tag {node' : Node} (adds : ∀ a : Assembly, a.addTag span t = .ok (a.add node'))
    (same : node'.unspanned = node.unspanned) : Builds [node] [⟨.tag t, span⟩] := by
  refine ⟨[node'], ?_, fun a => addPieces_tag (adds a) []⟩
  rw [Node.unspannedAll, same]
  rfl

/-- What the pieces of a body leave in the block that they are in. -/
theorem inBlock (h : Builds nodes ps) : ∃ found, Node.unspannedAll found = Node.unspannedAll nodes ∧
    ∀ root head span opened qs, addPieces ⟨root, ⟨head, span, []⟩ :: opened⟩ (ps ++ qs)
      = addPieces ⟨root, ⟨head, span, found.reverse⟩ :: opened⟩ qs := by
  obtain ⟨found, same, adds⟩ := h
  refine ⟨found, same, fun root head span opened qs => ?_⟩
  rw [addPieces_append (adds _), foldl_add_opened, List.append_nil]

/-- A node that is a block: a tag that opens it, its body, and the end. -/
theorem block (opens : ∀ a : Assembly, a.addTag span t = .ok (a.push span head))
    (body : Builds nodes ps)
    (closes : ∀ found, Node.unspannedAll found = Node.unspannedAll nodes →
      (OpenBlock.close ⟨head, span, found.reverse⟩).unspanned = node.unspanned) (end' : Span) :
    Builds [node] (⟨.tag t, span⟩ :: (ps ++ [⟨.tag .endTag, end'⟩])) := by
  obtain ⟨found, same, adds⟩ := body.inBlock
  refine ⟨[OpenBlock.close ⟨head, span, found.reverse⟩], ?_, fun a => ?_⟩
  · rw [Node.unspannedAll, closes found same]
    rfl
  · rw [addPieces_tag (opens a), push, adds]
    rfl

end Builds

/-- The pieces end an `IF` block that is in the body of a condition, up to spans. -/
def Joins (rest : Alternatives) (ps : List Piece) : Prop :=
  ∃ rest', rest'.unspanned = rest.unspanned ∧ ∀ root past test span body opened,
    addPieces ⟨root, ⟨.branch past test, span, body⟩ :: opened⟩ ps
      = .ok (Assembly.add ⟨root, opened⟩ (joinBranches (test, body.reverse) past rest'))

namespace Joins

theorem done (end' : Span) : Joins .done [⟨.tag .endTag, end'⟩] :=
  ⟨.done, rfl, fun _ _ _ _ _ _ => rfl⟩

theorem otherwise (h : Builds nodes ps) (else' end' : Span) :
    Joins (.otherwise nodes) (⟨.tag .elseTag, else'⟩ :: (ps ++ [⟨.tag .endTag, end'⟩])) := by
  obtain ⟨found, same, adds⟩ := h.inBlock
  refine ⟨.otherwise found, by rw [Alternatives.unspanned, same, Alternatives.unspanned], ?_⟩
  intro root past test span body opened
  have closed : OpenBlock.close ⟨.otherwise past (test, body.reverse), span, found.reverse⟩
      = joinBranches (test, body.reverse) past (.otherwise found) := by
    rw [OpenBlock.close, OpenBlock.nodes, List.reverse_reverse]
  rw [addPieces_tag rfl, adds, ← closed]
  rfl

theorem elsif {test test' : Expr} {rest : Alternatives} (agrees : test'.unspanned = test.unspanned)
    (h : Builds nodes ps) (others : Joins rest qs) (span : Span) :
    Joins (.elsif test nodes rest) (⟨.tag (.elsifTag (.ok test')), span⟩ :: (ps ++ qs)) := by
  obtain ⟨found, same, adds⟩ := h.inBlock
  obtain ⟨rest', same', joins⟩ := others
  refine ⟨.elsif test' found rest', ?_, ?_⟩
  · rw [Alternatives.unspanned, agrees, same, same', Alternatives.unspanned]
  · intro root past previous span body opened
    rw [addPieces_tag rfl, adds, joins, List.reverse_reverse]
    rfl

end Joins

/-- An `IF` block: its first condition and body, and the rest of it. -/
theorem Builds.branch {test test' : Expr} {rest : Alternatives}
    (agrees : test'.unspanned = test.unspanned) (h : Builds nodes ps) (others : Joins rest qs)
    (span : Span) :
    Builds [.branch test nodes rest] (⟨.tag (.ifTag (.ok test')), span⟩ :: (ps ++ qs)) := by
  obtain ⟨found, same, adds⟩ := h.inBlock
  obtain ⟨rest', same', joins⟩ := others
  refine ⟨[.branch test' found rest'], ?_, fun a => ?_⟩
  · simp only [Node.unspannedAll, Node.unspanned, agrees, same, same']
  · rw [addPieces_tag (show a.addTag span (.ifTag (.ok test')) = .ok (a.push span (.branch [] test'))
      from rfl), push, adds, joins, List.reverse_reverse]
    rfl

end TemplateEngine
