import TemplateEngine.Proofs.Template.Adding

/-!
# Assembling signs

The blocks that are open after some signs are those of the grammar: each was opened by
one of the signs, and what has been read since then is what its block would be written
with. So a body that is assembled is written with the signs that were read, and whatever
is open can still be closed.
-/

namespace TemplateEngine

/-- What an `IF` block was opened with, from its branches, latest first. -/
def opening : Branch → List Branch → Opener
  | last, [] => .branch last.1
  | _, previous :: past => opening previous past

/-- The bodies of an `IF` block and the tags between them. -/
def branchSigns : Branch → List Branch → List Sign
  | last, [] => Node.signsAll last.2
  | last, previous :: past => branchSigns previous past ++ .elsif last.1 :: Node.signsAll last.2

theorem signs_joinBranches (last : Branch) (past : List Branch) (rest : Alternatives) :
    (joinBranches last past rest).signs
      = .opener (opening last past) :: (branchSigns last past ++ rest.signs) := by
  induction past generalizing last rest with
  | nil => rw [joinBranches, Node.signs, opening, branchSigns]
  | cons previous past ih =>
    rw [joinBranches, ih, Alternatives.signs, opening, branchSigns, List.append_assoc,
      List.cons_append]

theorem derives_joinBranches (last : Branch) (past : List Branch) (rest : Alternatives) :
    Derives .block (joinBranches last past rest).signs := by
  induction past generalizing last rest with
  | nil =>
    rw [joinBranches, Node.signs]
    exact .branch last.1 (Node.derivesAll last.2) rest.derives
  | cons previous past ih => exact ih previous _

namespace OpenBlock

/-- The opening tag of the block. -/
def opener (b : OpenBlock) : Opener :=
  match b.head with
  | .branch past test => opening (test, b.nodes) past
  | .otherwise past last => opening last past
  | .foreach var iterable => .foreach var iterable
  | .loop test => .loop test
  | .define name params => .define name params

/-- What stands in the block so far. -/
def inner (b : OpenBlock) : List Sign :=
  match b.head with
  | .branch past test => branchSigns (test, b.nodes) past
  | .otherwise past last => branchSigns last past ++ .otherwise :: Node.signsAll b.nodes
  | _ => Node.signsAll b.nodes

variable (b : OpenBlock)

theorem signs_close : b.close.signs = .opener b.opener :: (b.inner ++ [.stop]) := by
  obtain ⟨head, span, body⟩ := b
  cases head with
  | branch past test =>
    rw [close, signs_joinBranches, Alternatives.signs]
    rfl
  | otherwise past last =>
    rw [close, signs_joinBranches, Alternatives.signs]
    simp [opener, inner]
  | foreach | loop | define =>
    rw [close, Node.signs]
    rfl

theorem derives_close : Derives .block (.opener b.opener :: (b.inner ++ [.stop])) := by
  rw [← signs_close]
  obtain ⟨head, span, body⟩ := b
  cases head with
  | branch | otherwise => exact derives_joinBranches _ _ _
  | foreach var iterable =>
    rw [close, Node.signs]
    exact .block (o := .foreach var iterable) (by simp [Opener.kind]) (Node.derivesAll _)
  | loop test =>
    rw [close, Node.signs]
    exact .block (o := .loop test) (by simp [Opener.kind]) (Node.derivesAll _)
  | define name params =>
    rw [close, Node.signs]
    exact .block (o := .define name params) (by simp [Opener.kind]) (Node.derivesAll _)

theorem kind_opening (last : Branch) (past : List Branch) : (opening last past).kind = .branch := by
  induction past generalizing last with
  | nil => rfl
  | cons previous past ih => exact ih previous

theorem kind_opener : b.opener.kind = b.head.kind := by
  obtain ⟨head, span, body⟩ := b
  cases head with
  | branch | otherwise => exact kind_opening _ _
  | foreach | loop | define => rfl

end OpenBlock

theorem opener_head (o : Opener) (span : Span) : OpenBlock.opener ⟨o.head, span, []⟩ = o := by
  cases o <;> rfl

theorem inner_head (o : Opener) (span : Span) : OpenBlock.inner ⟨o.head, span, []⟩ = [] := by
  cases o <;> exact Node.signsAll.eq_1

/-- What has been read is what the assembly would be written with, and each open block
stands at the place of its opening tag. -/
inductive Lays : List PlacedSign → Assembly → Prop
  | root {read nodes} : read.map Prod.fst = Node.signsAll nodes.reverse → Lays read ⟨nodes, []⟩
  | opened {outer inner root b rest} : Lays outer ⟨root, rest⟩ → inner.map Prod.fst = b.inner →
      Lays (outer ++ (.opener b.opener, b.span) :: inner) ⟨root, b :: rest⟩

variable {read more : List PlacedSign} {a a' : Assembly} {node : Node} {span : Span} {sign : Sign}

theorem Node.signsAll_concat (nodes : List Node) (node : Node) :
    Node.signsAll (nodes ++ [node]) = Node.signsAll nodes ++ node.signs := by
  rw [Node.signsAll_append, Node.signsAll, Node.signsAll, List.append_nil]

theorem OpenBlock.inner_add (b : OpenBlock) (node : Node) :
    OpenBlock.inner { b with body := node :: b.body } = b.inner ++ node.signs := by
  obtain ⟨head, span, body⟩ := b
  cases head with
  | branch past test =>
    cases past <;> simp [inner, branchSigns, nodes, Node.signsAll_concat]
  | otherwise | foreach | loop | define => simp [inner, nodes, Node.signsAll_concat]

theorem OpenBlock.opener_add (b : OpenBlock) (node : Node) :
    OpenBlock.opener { b with body := node :: b.body } = b.opener := by
  obtain ⟨head, span, body⟩ := b
  cases head with
  | branch past test => cases past <;> rfl
  | otherwise | foreach | loop | define => rfl

theorem Lays.add (h : Lays read a) (written : more.map Prod.fst = node.signs) :
    Lays (read ++ more) (a.add node) := by
  cases h with
  | root here =>
    refine .root ?_
    rw [List.map_append, here, written, List.reverse_cons, Node.signsAll_concat]
  | @opened outer inner root b rest around here =>
    rw [List.append_assoc, List.cons_append, ← b.opener_add node]
    refine .opened (b := { b with body := node :: b.body }) around ?_
    rw [List.map_append, here, written, b.inner_add]

theorem Lays.push (h : Lays read a) (o : Opener) (span : Span) :
    Lays (read ++ [(.opener o, span)]) (a.push span o.head) := by
  have pushed : Lays (read ++ [(.opener (OpenBlock.opener ⟨o.head, span, []⟩), span)])
      (a.push span o.head) :=
    .opened h (inner_head o span).symm
  rwa [opener_head] at pushed

/-- A tag that goes on with the innermost block. -/
theorem Lays.turn {b b' : OpenBlock} {root : List Node} {rest : List OpenBlock}
    (h : Lays read ⟨root, b :: rest⟩) (opener : b'.opener = b.opener) (place : b'.span = b.span)
    (inner : b'.inner = b.inner ++ [sign]) : Lays (read ++ [(sign, span)]) ⟨root, b' :: rest⟩ := by
  cases h with
  | opened around here =>
    rw [List.append_assoc, List.cons_append, ← opener, ← place]
    refine .opened around ?_
    rw [List.map_append, here, inner, List.map_singleton]

/-- Each sign that is taken in is read. -/
theorem Lays.addSign (h : Lays read a) (taken : a.addSign span sign = .ok a') :
    Lays (read ++ [(sign, span)]) a' := by
  obtain ⟨root, opened⟩ := a
  cases sign with
  | leaf l =>
    cases taken
    exact h.add l.signs_node.symm
  | opener o =>
    cases taken
    exact h.push o span
  | stop =>
    cases h with
    | root => cases taken
    | opened around here =>
      cases taken
      rw [List.append_assoc]
      refine around.add ?_
      rw [OpenBlock.signs_close, List.cons_append, List.map_cons, List.map_append, here,
        List.map_singleton]
  | elsif test =>
    cases opened with
    | nil => cases taken
    | cons b rest =>
      obtain ⟨head, start, body⟩ := b
      cases head with
      | otherwise | foreach | loop | define => cases taken
      | branch past previous =>
        cases taken
        refine h.turn rfl rfl ?_
        simp [OpenBlock.inner, branchSigns, OpenBlock.nodes, Node.signsAll]
  | otherwise =>
    cases opened with
    | nil => cases taken
    | cons b rest =>
      obtain ⟨head, start, body⟩ := b
      cases head with
      | otherwise | foreach | loop | define => cases taken
      | branch past previous =>
        cases taken
        refine h.turn rfl rfl ?_
        simp [OpenBlock.inner, OpenBlock.nodes, Node.signsAll]

theorem Lays.addSigns (h : Lays read a) (taken : a.addSigns more = .ok a') :
    Lays (read ++ more) a' := by
  induction more generalizing read a with
  | nil =>
    cases taken
    rwa [List.append_nil]
  | cons placed more ih =>
    obtain ⟨sign, span⟩ := placed
    rw [Assembly.addSigns] at taken
    cases first : a.addSign span sign with
    | error fault =>
      rw [first] at taken
      cases taken
    | ok next =>
      rw [first] at taken
      rw [List.append_cons]
      exact ih (h.addSign first) taken

theorem Lays.empty : Lays [] Assembly.empty := .root (by rw [List.reverse_nil, Node.signsAll]; rfl)

theorem Assembly.length_opened_add (a : Assembly) (node : Node) :
    (a.add node).opened.length = a.opened.length := by
  obtain ⟨root, opened⟩ := a
  cases opened <;> rfl

/-- Ends can follow, as many as blocks are open. -/
theorem Lays.viable (h : Lays read a) : Viable (read.map Prod.fst) := by
  induction size : a.opened.length generalizing read a with
  | zero =>
    cases h with
    | root here =>
      refine ⟨[], ?_⟩
      rw [List.append_nil, here]
      exact Node.derivesAll _
    | opened => cases size
  | succ n ih =>
    obtain ⟨root, opened⟩ := a
    cases opened with
    | nil => cases size
    | cons b rest =>
      have closed : Lays (read ++ [(.stop, b.span)]) (Assembly.add ⟨root, rest⟩ b.close) :=
        h.addSign rfl
      have fewer : (Assembly.add ⟨root, rest⟩ b.close).opened.length = n := by
        rw [Assembly.length_opened_add]
        exact Nat.succ.inj size
      obtain ⟨more, derived⟩ := ih closed fewer
      refine ⟨.stop :: more, ?_⟩
      simpa using derived

end TemplateEngine
