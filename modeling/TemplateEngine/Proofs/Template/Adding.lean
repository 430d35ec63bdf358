import TemplateEngine.Proofs.Template.Blocks
import TemplateEngine.Proofs.Template.Signs

/-!
# The signs of nodes

The assembly of the blocks reads signs where it reads pieces. The signs that a body is
written with add just its nodes, wherever they stand: those of a block open one, fill its
bodies and close it.
-/

namespace TemplateEngine

/-- A sign and where it stands. -/
abbrev PlacedSign := Sign × Span

variable {read : List PlacedSign} {sign : Sign} {a a' : Assembly} {signs signs' : List Sign}
  {nodes nodes' : List Node} {rest : Alternatives}

def Opener.head : Opener → BlockHead
  | branch test => .branch [] test
  | foreach var iterable => .foreach var iterable
  | loop test => .loop test
  | define name params => .define name params

namespace Assembly

/-- Takes in a sign. -/
def addSign (a : Assembly) (span : Span) : Sign → Checked Assembly
  | .leaf l => .ok (a.add l.node)
  | .opener o => .ok (a.push span o.head)
  | .elsif test => a.addElsif span test
  | .otherwise => a.addElse span
  | .stop => a.addEnd span

def addSigns (a : Assembly) : List PlacedSign → Checked Assembly
  | [] => .ok a
  | (sign, span) :: rest => do
    let a ← a.addSign span sign
    addSigns a rest

theorem addSigns_append (h : a.addSigns read = .ok a') (more : List PlacedSign) :
    a.addSigns (read ++ more) = a'.addSigns more := by
  induction read generalizing a with
  | nil =>
    cases h
    rfl
  | cons placed read ih =>
    obtain ⟨sign, span⟩ := placed
    rw [List.cons_append, addSigns]
    rw [addSigns] at h
    cases taken : a.addSign span sign with
    | error fault =>
      rw [taken] at h
      cases h
    | ok c =>
      rw [taken] at h
      exact ih h

/-- The assembly takes in all signs, or there is a first one that it refuses. -/
theorem addSigns_cases (a : Assembly) (marks : List PlacedSign) :
    (∃ a', a.addSigns marks = .ok a') ∨
      ∃ before sign span after a' fault, marks = before ++ (sign, span) :: after ∧
        a.addSigns before = .ok a' ∧ a'.addSign span sign = .error fault ∧
        a.addSigns marks = .error fault := by
  induction marks generalizing a with
  | nil => exact .inl ⟨a, rfl⟩
  | cons placed marks ih =>
    obtain ⟨sign, span⟩ := placed
    cases taken : a.addSign span sign with
    | error fault =>
      refine .inr ⟨[], sign, span, marks, a, fault, rfl, rfl, taken, ?_⟩
      rw [addSigns, taken]
      rfl
    | ok next =>
      have goes : ∀ marks, a.addSigns ((sign, span) :: marks) = next.addSigns marks := by
        intro marks
        rw [addSigns, taken]
        rfl
      obtain ⟨a', all⟩ | ⟨before, sign', span', after, a', fault, rfl, some, refused, all⟩ :=
        ih next
      · exact .inl ⟨a', (goes _).trans all⟩
      · exact .inr ⟨(sign, span) :: before, sign', span', after, a', fault, rfl,
          (goes _).trans some, refused, (goes _).trans all⟩

end Assembly

theorem map_fst_eq_cons (eq : read.map Prod.fst = sign :: signs) :
    ∃ span others, read = (sign, span) :: others ∧ others.map Prod.fst = signs := by
  obtain ⟨⟨_, span⟩, others, rfl, rfl, rfl⟩ := List.map_eq_cons_iff.mp eq
  exact ⟨span, others, rfl, rfl⟩

theorem map_fst_eq_singleton (eq : read.map Prod.fst = [sign]) : ∃ span, read = [(sign, span)] := by
  obtain ⟨span, others, rfl, none⟩ := map_fst_eq_cons eq
  exact ⟨span, by rw [List.map_eq_nil_iff.mp none]⟩

/-- The signs add these nodes to the innermost body, wherever they stand. -/
def Adds (signs : List Sign) (nodes : List Node) : Prop :=
  ∀ (marks : List PlacedSign), marks.map Prod.fst = signs →
    ∀ a : Assembly, a.addSigns marks = .ok (nodes.foldl Assembly.add a)

/-- The signs end an `IF` block that is in the body of a condition. -/
def Completes (signs : List Sign) (rest : Alternatives) : Prop :=
  ∀ (marks : List PlacedSign), marks.map Prod.fst = signs → ∀ root past test span body opened,
    Assembly.addSigns ⟨root, ⟨.branch past test, span, body⟩ :: opened⟩ marks
      = .ok (Assembly.add ⟨root, opened⟩ (joinBranches (test, body.reverse) past rest))

namespace Adds

theorem nil : Adds [] [] := by
  intro marks eq a
  rw [List.map_eq_nil_iff.mp eq]
  rfl

theorem leaf (l : Leaf) : Adds [.leaf l] [l.node] := by
  intro marks eq a
  obtain ⟨span, rfl⟩ := map_fst_eq_singleton eq
  rfl

theorem append (first : Adds signs nodes) (second : Adds signs' nodes') :
    Adds (signs ++ signs') (nodes ++ nodes') := by
  intro marks eq a
  obtain ⟨front, others, rfl, eq₁, eq₂⟩ := List.map_eq_append_iff.mp eq
  rw [Assembly.addSigns_append (first front eq₁ a), second others eq₂, List.foldl_append]

/-- What the signs of a body leave in the block that was opened before them. -/
theorem inBlock (h : Adds signs nodes) {marks : List PlacedSign}
    (eq : marks.map Prod.fst = signs) (root : List Node) (head : BlockHead) (span : Span)
    (opened : List OpenBlock) (more : List PlacedSign) :
    Assembly.addSigns ⟨root, ⟨head, span, []⟩ :: opened⟩ (marks ++ more)
      = Assembly.addSigns ⟨root, ⟨head, span, nodes.reverse⟩ :: opened⟩ more := by
  rw [Assembly.addSigns_append (h marks eq _), Assembly.foldl_add_opened, List.append_nil]

theorem block (o : Opener) (body : Adds signs nodes) :
    Adds (.opener o :: (signs ++ [.stop])) [o.close nodes] := by
  intro marks eq a
  obtain ⟨span, others, rfl, within⟩ := map_fst_eq_cons eq
  obtain ⟨inner, last, rfl, filled, ended⟩ := List.map_eq_append_iff.mp within
  obtain ⟨span', rfl⟩ := map_fst_eq_singleton ended
  have opens : a.addSigns ((.opener o, span) :: (inner ++ [(.stop, span')]))
      = Assembly.addSigns ⟨a.root, ⟨o.head, span, []⟩ :: a.opened⟩
        (inner ++ [(.stop, span')]) := rfl
  rw [opens, body.inBlock filled]
  have closed : OpenBlock.close ⟨o.head, span, nodes.reverse⟩ = o.close nodes := by
    cases o <;> simp [OpenBlock.close, OpenBlock.nodes, Opener.head, Opener.close, joinBranches]
  rw [← closed]
  rfl

theorem branch (test : Expr) (body : Adds signs nodes) (others : Completes signs' rest) :
    Adds (.opener (.branch test) :: (signs ++ signs')) [.branch test nodes rest] := by
  intro marks eq a
  obtain ⟨span, more, rfl, within⟩ := map_fst_eq_cons eq
  obtain ⟨inner, last, rfl, filled, ended⟩ := List.map_eq_append_iff.mp within
  have opens : a.addSigns ((.opener (.branch test), span) :: (inner ++ last))
      = Assembly.addSigns ⟨a.root, ⟨.branch [] test, span, []⟩ :: a.opened⟩ (inner ++ last) := rfl
  rw [opens, body.inBlock filled, others last ended, List.reverse_reverse]
  rfl

end Adds

namespace Completes

theorem done : Completes [.stop] .done := by
  intro marks eq root past test span body opened
  obtain ⟨span', rfl⟩ := map_fst_eq_singleton eq
  rfl

theorem otherwise (h : Adds signs nodes) :
    Completes (.otherwise :: (signs ++ [.stop])) (.otherwise nodes) := by
  intro marks eq root past test span body opened
  obtain ⟨span', others, rfl, within⟩ := map_fst_eq_cons eq
  obtain ⟨inner, last, rfl, filled, ended⟩ := List.map_eq_append_iff.mp within
  obtain ⟨span'', rfl⟩ := map_fst_eq_singleton ended
  have turns : Assembly.addSigns ⟨root, ⟨.branch past test, span, body⟩ :: opened⟩
      ((.otherwise, span') :: (inner ++ [(.stop, span'')]))
      = Assembly.addSigns ⟨root, ⟨.otherwise past (test, body.reverse), span, []⟩ :: opened⟩
        (inner ++ [(.stop, span'')]) := rfl
  have closed : OpenBlock.close ⟨.otherwise past (test, body.reverse), span, nodes.reverse⟩
      = joinBranches (test, body.reverse) past (.otherwise nodes) := by
    rw [OpenBlock.close, OpenBlock.nodes, List.reverse_reverse]
  rw [turns, h.inBlock filled, ← closed]
  rfl

theorem elsif (next : Expr) (h : Adds signs nodes) (others : Completes signs' rest) :
    Completes (.elsif next :: (signs ++ signs')) (.elsif next nodes rest) := by
  intro marks eq root past test span body opened
  obtain ⟨span', more, rfl, within⟩ := map_fst_eq_cons eq
  obtain ⟨inner, last, rfl, filled, ended⟩ := List.map_eq_append_iff.mp within
  have turns : Assembly.addSigns ⟨root, ⟨.branch past test, span, body⟩ :: opened⟩
      ((.elsif next, span') :: (inner ++ last))
      = Assembly.addSigns ⟨root, ⟨.branch ((test, body.reverse) :: past) next, span, []⟩ :: opened⟩
        (inner ++ last) := rfl
  rw [turns, h.inBlock filled, others last ended, List.reverse_reverse]
  rfl

end Completes

mutual

theorem Node.adds : (node : Node) → Adds node.signs [node]
  | .text s => by rw [Node.signs]; exact .leaf (.text s)
  | .print e => by rw [Node.signs]; exact .leaf (.print e)
  | .assign name value => by rw [Node.signs]; exact .leaf (.assign name value)
  | .inclusion template args => by rw [Node.signs]; exact .leaf (.inclusion template args)
  | .branch test body rest => by
    rw [Node.signs]
    exact .branch test (Node.addsAll body) rest.completes
  | .foreach var iterable body => by
    rw [Node.signs]
    exact .block (.foreach var iterable) (Node.addsAll body)
  | .loop test body => by
    rw [Node.signs]
    exact .block (.loop test) (Node.addsAll body)
  | .define name params body => by
    rw [Node.signs]
    exact .block (.define name params) (Node.addsAll body)

theorem Alternatives.completes : (rest : Alternatives) → Completes rest.signs rest
  | .done => by rw [Alternatives.signs]; exact .done
  | .otherwise body => by
    rw [Alternatives.signs]
    exact .otherwise (Node.addsAll body)
  | .elsif test body rest => by
    rw [Alternatives.signs]
    exact .elsif test (Node.addsAll body) rest.completes

/-- The signs that nodes are written with add just these nodes. -/
theorem Node.addsAll : (nodes : List Node) → Adds (Node.signsAll nodes) nodes
  | [] => by rw [Node.signsAll]; exact .nil
  | node :: rest => by
    rw [Node.signsAll]
    exact node.adds.append (Node.addsAll rest)

end

end TemplateEngine
