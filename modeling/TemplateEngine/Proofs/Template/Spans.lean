import TemplateEngine.Proofs.Program.Flaws
import TemplateEngine.Proofs.Template.Signs

/-!
# The spans in a template

Filters and macro parameters keep their spans. The spans of a body are those in the signs
that it is written with, and the spans of its flaws are among them, so the compiler points
at nothing that the parser has not pointed at.
-/

namespace TemplateEngine

namespace Expr

mutual

/-- The spans in an expression. -/
def spans : Expr → List Span
  | literal _ | var _ => []
  | list items => spansOfItems items
  | attr object _ => spans object
  | index collection key => spans collection ++ spans key
  | call function args => spans function ++ spansOfItems args
  | filter operand _ span => span :: spans operand
  | unary _ operand => spans operand
  | binary _ left right | logic _ left right => spans left ++ spans right

def spansOfItems : List Expr → List Span
  | [] => []
  | item :: rest => spans item ++ spansOfItems rest

end

mutual

/-- Flaws are at spans of the expression. -/
theorem spans_of_flaws : ∀ e : Expr, (e.flaws.map Prod.fst).Sublist e.spans
  | literal _ | var _ => by rw [flaws]; exact List.nil_sublist _
  | list items => by rw [flaws, spans]; exact spansOfItems_of_flaws items
  | attr object _ => by rw [flaws, spans]; exact spans_of_flaws object
  | index collection key => by
    rw [flaws, spans, List.map_append]
    exact (spans_of_flaws collection).append (spans_of_flaws key)
  | call function args => by
    rw [flaws, spans, List.map_append]
    exact (spans_of_flaws function).append (spansOfItems_of_flaws args)
  | filter operand name span => by
    have own : ((ownFlaws (filter operand name span)).map Prod.fst).Sublist [span] := by
      rw [ownFlaws]
      split
      · exact List.Sublist.refl _
      · exact List.nil_sublist _
    rw [flaws, spans, List.map_append]
    exact own.append (spans_of_flaws operand)
  | unary _ operand => by rw [flaws, spans]; exact spans_of_flaws operand
  | binary _ left right | logic _ left right => by
    rw [flaws, spans, List.map_append]
    exact (spans_of_flaws left).append (spans_of_flaws right)

theorem spansOfItems_of_flaws : ∀ items : List Expr,
    ((flawsOfItems items).map Prod.fst).Sublist (spansOfItems items)
  | [] => by rw [flawsOfItems]; exact List.nil_sublist _
  | item :: rest => by
    rw [flawsOfItems, spansOfItems, List.map_append]
    exact (spans_of_flaws item).append (spansOfItems_of_flaws rest)

end

end Expr

mutual

/-- The spans in a node. -/
def Node.spans : Node → List Span
  | .text _ => []
  | .print e | .assign _ e => e.spans
  | .branch test body rest => test.spans ++ (Node.spansOfBody body ++ rest.spans)
  | .foreach _ iterable body => iterable.spans ++ Node.spansOfBody body
  | .loop test body => test.spans ++ Node.spansOfBody body
  | .define _ params body => params.map Prod.snd ++ Node.spansOfBody body
  | .inclusion template args => template.spans ++ Expr.spansOfItems (args.map Prod.snd)

def Alternatives.spans : Alternatives → List Span
  | .done => []
  | .otherwise body => Node.spansOfBody body
  | .elsif test body rest => test.spans ++ (Node.spansOfBody body ++ rest.spans)

def Node.spansOfBody : List Node → List Span
  | [] => []
  | node :: rest => node.spans ++ Node.spansOfBody rest

end

/-- The spans that a template keeps. -/
def Template.spans (t : Template) : List Span := Node.spansOfBody t.body

def Opener.spans : Opener → List Span
  | branch test | loop test => test.spans
  | foreach _ iterable => iterable.spans
  | define _ params => params.map Prod.snd

def Sign.spans : Sign → List Span
  | leaf l => l.node.spans
  | opener o => o.spans
  | elsif test => test.spans
  | otherwise | stop => []

mutual

theorem Node.spans_signs : ∀ node : Node, node.signs.flatMap Sign.spans = node.spans
  | .text _ | .print _ | .assign _ _ | .inclusion _ _ => by
    simp [Node.signs, Sign.spans, Leaf.node]
  | .branch test body rest => by
    simp [Node.signs, Node.spans, Sign.spans, Opener.spans, Node.spans_signsAll body,
      Alternatives.spans_signs rest]
  | .foreach _ _ body | .loop _ body | .define _ _ body => by
    simp [Node.signs, Node.spans, Sign.spans, Opener.spans, Node.spans_signsAll body]

theorem Alternatives.spans_signs : ∀ rest : Alternatives,
    rest.signs.flatMap Sign.spans = rest.spans
  | .done => by simp [Alternatives.signs, Alternatives.spans, Sign.spans]
  | .otherwise body => by
    simp [Alternatives.signs, Alternatives.spans, Sign.spans, Node.spans_signsAll body]
  | .elsif test body rest => by
    simp [Alternatives.signs, Alternatives.spans, Sign.spans, Node.spans_signsAll body,
      Alternatives.spans_signs rest]

/-- A body has the spans of the signs that it is written with. -/
theorem Node.spans_signsAll : ∀ body : List Node,
    (Node.signsAll body).flatMap Sign.spans = Node.spansOfBody body
  | [] => by simp [Node.signsAll, Node.spansOfBody]
  | node :: rest => by
    simp [Node.signsAll, Node.spansOfBody, Node.spans_signs node, Node.spans_signsAll rest]

end

namespace Node

theorem sublist_params (name : String) (params : List (String × Span)) (body : List Node) :
    ((ownFlaws (.define name params body)).map Prod.fst).Sublist (params.map Prod.snd) := by
  rw [ownFlaws]
  split
  case h_1 param span repeated =>
    obtain ⟨before, after, rfl, -⟩ := repeatedParam?_eq_some.mp repeated
    exact List.singleton_sublist.mpr (by simp)
  case h_2 => exact List.nil_sublist _

mutual

theorem spans_of_flaws : ∀ node : Node, (node.flaws.map Prod.fst).Sublist node.spans
  | .text _ => by rw [flaws]; exact List.nil_sublist _
  | .print e | .assign _ e => by rw [flaws, spans]; exact e.spans_of_flaws
  | .branch test body rest => by
    rw [flaws, spans, List.map_append, List.map_append]
    exact test.spans_of_flaws.append ((spansOfBody_of_flaws body).append (spansOfRest_of_flaws rest))
  | .foreach _ test body | .loop test body => by
    rw [flaws, spans, List.map_append]
    exact test.spans_of_flaws.append (spansOfBody_of_flaws body)
  | .define name params body => by
    rw [flaws, spans, List.map_append]
    exact (sublist_params name params body).append (spansOfBody_of_flaws body)
  | .inclusion template args => by
    rw [flaws, spans, List.map_append]
    exact template.spans_of_flaws.append (Expr.spansOfItems_of_flaws _)

theorem spansOfRest_of_flaws : ∀ rest : Alternatives,
    ((flawsOfRest rest).map Prod.fst).Sublist rest.spans
  | .done => by rw [flawsOfRest]; exact List.nil_sublist _
  | .otherwise body => by rw [flawsOfRest, Alternatives.spans]; exact spansOfBody_of_flaws body
  | .elsif test body rest => by
    rw [flawsOfRest, Alternatives.spans, List.map_append, List.map_append]
    exact test.spans_of_flaws.append ((spansOfBody_of_flaws body).append (spansOfRest_of_flaws rest))

theorem spansOfBody_of_flaws : ∀ body : List Node,
    ((flawsOfBody body).map Prod.fst).Sublist (spansOfBody body)
  | [] => by rw [flawsOfBody]; exact List.nil_sublist _
  | node :: rest => by
    rw [flawsOfBody, spansOfBody, List.map_append]
    exact (spans_of_flaws node).append (spansOfBody_of_flaws rest)

end

end Node

/-- The compiler reports a fault at a span of the template. -/
theorem Template.span_mem_of_compile {t : Template} {options : CompileOptions} {source : String}
    {e : CompileError} (failed : t.compile options source = .error e) : e.span ∈ t.spans := by
  obtain ⟨first, -⟩ := compile_eq_error_iff.mp failed
  have flaw : e.span ∈ (Node.flawsOfBody t.body).map Prod.fst :=
    List.mem_map_of_mem (List.mem_of_head? first)
  exact (Node.spansOfBody_of_flaws t.body).subset flaw

end TemplateEngine
