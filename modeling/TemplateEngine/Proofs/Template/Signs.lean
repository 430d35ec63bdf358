import TemplateEngine.Template.Block

/-!
# The grammar of blocks

For the structure of blocks a piece is a leaf, an opening tag, a tag that goes on with an
`IF` block, or an end; comments count for nothing, and an `UNLESS` is an `IF` with its
condition negated. The bodies of a grammar are sequences of leaves and blocks. A body of
nodes is written with these signs in one way, and a sequence of signs is a body of the
grammar iff it is so written.
-/

namespace TemplateEngine

inductive Leaf where
  | text (s : String)
  | print (e : Expr)
  | assign (name : String) (value : Expr)
  | inclusion (template : Expr) (args : List (String × Expr))

inductive Opener where
  | branch (test : Expr)
  | foreach (var : String) (iterable : Expr)
  | loop (test : Expr)
  | define (name : String) (params : List (String × Span))

inductive Sign where
  | leaf (l : Leaf)
  | opener (o : Opener)
  | elsif (test : Expr)
  | otherwise
  | stop

def Opener.kind : Opener → BlockKind
  | branch _ => .branch
  | foreach _ _ => .foreach
  | loop _ => .loop
  | define _ _ => .define

/-- The sign of a tag, if its expressions can be converted. -/
def Tag.sign? : Tag → Option Sign
  | .print e => e.toOption.map fun e => .leaf (.print e)
  | .assign name e => e.toOption.map fun e => .leaf (.assign name e)
  | .inclusion template args => do
    let template ← template.toOption
    let args ← (Assembly.checkArgs args).toOption
    return .leaf (.inclusion template args)
  | .ifTag test => test.toOption.map fun e => .opener (.branch e)
  | .unlessTag test => test.toOption.map fun e => .opener (.branch (.unary .not e))
  | .elsifTag test => test.toOption.map .elsif
  | .elseTag => some .otherwise
  | .foreachTag var iterable => iterable.toOption.map fun e => .opener (.foreach var e)
  | .whileTag test => test.toOption.map fun e => .opener (.loop e)
  | .macroTag name params => some (.opener (.define name params))
  | .endTag => some .stop

namespace Piece

/-- The sign of a piece; a comment has none. -/
def sign? (p : Piece) : Option Sign :=
  match p.kind with
  | .text s => some (.leaf (.text s))
  | .comment => none
  | .tag t => t.sign?

/-- The expressions of the piece can be converted. -/
def converts (p : Piece) : Bool :=
  match p.kind with
  | .tag t => t.sign?.isSome
  | _ => true

def signs (pieces : List Piece) : List Sign := pieces.filterMap sign?

end Piece

/-- What the rules of the grammar are for. -/
inductive Part where
  | body
  | block
  /-- What follows the first body of an `IF` block. -/
  | branches

/-- The rules: a body is a sequence of leaves and blocks; an `IF` block has any number of
`ELSIF` bodies and at most one `ELSE` body after its first one, and an end; any other
block has one body and an end. -/
inductive Derives : Part → List Sign → Prop
  | nil : Derives .body []
  | leaf (l) {rest} : Derives .body rest → Derives .body (.leaf l :: rest)
  | append {signs rest} : Derives .block signs → Derives .body rest → Derives .body (signs ++ rest)
  | branch (test) {body rest} : Derives .body body → Derives .branches rest →
      Derives .block (.opener (.branch test) :: (body ++ rest))
  | block {o body} : Opener.kind o ≠ .branch → Derives .body body →
      Derives .block (.opener o :: (body ++ [.stop]))
  | elsif (test) {body rest} : Derives .body body → Derives .branches rest →
      Derives .branches (.elsif test :: (body ++ rest))
  | otherwise {body} : Derives .body body → Derives .branches (.otherwise :: (body ++ [.stop]))
  | stop : Derives .branches [.stop]

/-- Some signs can follow so that all is a body. -/
def Viable (signs : List Sign) : Prop := ∃ rest, Derives .body (signs ++ rest)

/-- The last block that is not closed. -/
structure Innermost (signs : List Sign) (o : Opener) (inner : List Sign) : Prop where
  split : ∃ front, signs = front ++ .opener o :: inner
  closes : Derives .block (.opener o :: (inner ++ [.stop]))

namespace Sign

/-- How many more blocks are open after the sign than before. -/
def rise : Sign → Int
  | opener _ => 1
  | stop => -1
  | _ => 0

def rises : List Sign → Int
  | [] => 0
  | sign :: signs => sign.rise + rises signs

@[simp] theorem rises_nil : rises [] = 0 := rfl

@[simp] theorem rises_cons (sign : Sign) (signs : List Sign) :
    rises (sign :: signs) = sign.rise + rises signs := rfl

@[simp] theorem rises_append (front back : List Sign) :
    rises (front ++ back) = rises front + rises back := by
  induction front with
  | nil => exact (Int.zero_add _).symm
  | cons sign front ih => rw [List.cons_append, rises_cons, rises_cons, ih, Int.add_assoc]

end Sign

namespace Part

/-- How many more blocks are open after the part than before. -/
def rise : Part → Int
  | branches => -1
  | _ => 0

/-- A bound on how many more blocks are open after the part than at a place in it. -/
def ceiling : Part → Nat → Int
  | body, _ | block, 0 => 0
  | block, _ + 1 | branches, _ => -1

theorem ceiling_nonpos (part : Part) (n : Nat) : part.ceiling n ≤ 0 := by
  cases part <;> cases n <;> simp [ceiling]

theorem rise_le_ceiling_zero (part : Part) : part.rise ≤ part.ceiling 0 := by
  cases part <;> exact Int.le_refl _

end Part

open Sign

theorem Derives.rises_eq {part : Part} {signs : List Sign} (h : Derives part signs) :
    rises signs = part.rise := by
  induction h with
  | nil => rfl
  | leaf _ _ ih => simpa [Sign.rise] using ih
  | append _ _ ih ih' => simp [ih, ih', Part.rise]
  | branch _ _ _ ih ih' => simp [ih, ih', Part.rise, Sign.rise]
  | block _ _ ih => simp [ih, Part.rise, Sign.rise]
  | elsif _ _ _ ih ih' => simp [ih, ih', Part.rise, Sign.rise]
  | otherwise _ ih => simp [ih, Part.rise, Sign.rise]
  | stop => rfl

theorem rises_drop_append_le {front back : List Sign} {bound : Int} {n : Nat}
    (early : n < front.length → rises (front.drop n) + rises back ≤ bound)
    (late : ∀ k, k < back.length → rises (back.drop k) ≤ bound)
    (inside : n < (front ++ back).length) : rises ((front ++ back).drop n) ≤ bound := by
  by_cases first : n < front.length
  · rw [List.drop_append_of_le_length (Nat.le_of_lt first), rises_append]
    exact early first
  · rw [List.drop_append, List.drop_eq_nil_of_le (Nat.le_of_not_lt first), List.nil_append]
    apply late
    rw [List.length_append] at inside
    omega

theorem rises_drop_stop_le : ∀ n, n < [Sign.stop].length → rises ([Sign.stop].drop n) ≤ -1
  | 0, _ => Int.le_refl _
  | _ + 1, inside => absurd inside (by simp)

/-- A body and what closes its block. -/
theorem rises_drop_closed_le {body rest : List Sign} (closes : Derives .branches rest)
    (inner : ∀ n, n < body.length → rises (body.drop n) ≤ Part.body.ceiling n)
    (outer : ∀ n, n < rest.length → rises (rest.drop n) ≤ -1) {n : Nat}
    (inside : n < (body ++ rest).length) : rises ((body ++ rest).drop n) ≤ -1 := by
  apply rises_drop_append_le _ outer inside
  intro early
  rw [closes.rises_eq]
  exact Int.add_le_add_right (inner n early) (-1)

theorem Derives.rises_drop_le_of_succ {part : Part} {signs : List Sign} (h : Derives part signs)
    (later : ∀ n, n + 1 < signs.length → rises (signs.drop (n + 1)) ≤ part.ceiling (n + 1)) :
    ∀ n, n < signs.length → rises (signs.drop n) ≤ part.ceiling n
  | 0, _ => h.rises_eq ▸ part.rise_le_ceiling_zero
  | n + 1, inside => later n inside

/-- The blocks that are open at a place in a part are closed in it. -/
theorem Derives.rises_drop_le {part : Part} {signs : List Sign} (h : Derives part signs) :
    ∀ n, n < signs.length → rises (signs.drop n) ≤ part.ceiling n := by
  induction h with
  | nil => exact fun n inside => absurd inside (Nat.not_lt_zero n)
  | leaf l rest ih =>
    apply (leaf l rest).rises_drop_le_of_succ
    exact fun n inside => ih n (Nat.lt_of_succ_lt_succ inside)
  | append first rest ih ih' =>
    intro n inside
    apply rises_drop_append_le _ ih' inside
    intro early
    have closed : rises _ = 0 := rest.rises_eq
    rw [closed, Int.add_zero]
    exact Int.le_trans (ih n early) (Part.ceiling_nonpos _ n)
  | branch test body rest ih ih' =>
    apply (branch test body rest).rises_drop_le_of_succ
    exact fun n inside => rises_drop_closed_le rest ih ih' (Nat.lt_of_succ_lt_succ inside)
  | block kind body ih =>
    apply (block kind body).rises_drop_le_of_succ
    exact fun n inside => rises_drop_closed_le .stop ih rises_drop_stop_le (Nat.lt_of_succ_lt_succ inside)
  | elsif test body rest ih ih' =>
    apply (elsif test body rest).rises_drop_le_of_succ
    exact fun n inside => rises_drop_closed_le rest ih ih' (Nat.lt_of_succ_lt_succ inside)
  | otherwise body ih =>
    apply (otherwise body).rises_drop_le_of_succ
    exact fun n inside => rises_drop_closed_le .stop ih rises_drop_stop_le (Nat.lt_of_succ_lt_succ inside)
  | stop => exact rises_drop_stop_le

namespace Innermost

variable {signs inner inner' : List Sign} {o o' : Opener}

theorem rises_eq (h : Innermost signs o inner) : rises inner = 0 := by
  have closed := h.closes.rises_eq
  simp only [rises_cons, rises_append, rises_nil, Sign.rise, Part.rise] at closed
  omega

theorem rises_drop_le (h : Innermost signs o inner) (n : Nat) : rises (inner.drop n) ≤ 0 := by
  by_cases inside : n < inner.length
  · have closed := h.closes.rises_drop_le (n + 1) (by simp; omega)
    rw [List.drop_succ_cons, List.drop_append_of_le_length (Nat.le_of_lt inside), rises_append]
      at closed
    simp only [rises_cons, rises_nil, Sign.rise, Part.ceiling] at closed
    omega
  · rw [List.drop_eq_nil_of_le (Nat.le_of_not_lt inside)]
    exact Int.le_refl _

/-- A body has no open block. -/
theorem not_derives (h : Innermost signs o inner) : ¬ Derives .body signs := by
  intro derives
  obtain ⟨front, rfl⟩ := h.split
  have closed := derives.rises_drop_le front.length (by simp)
  rw [List.drop_left] at closed
  simp only [rises_cons, h.rises_eq, Sign.rise, Part.ceiling] at closed
  omega

theorem length_le (h : Innermost signs o inner) (h' : Innermost signs o' inner') :
    inner'.length ≤ inner.length := by
  obtain ⟨front, eq⟩ := h.split
  obtain ⟨front', eq'⟩ := h'.split
  refine Nat.le_of_not_lt fun longer => ?_
  -- The block that is opened later would be open in the other one.
  have later : .opener o :: inner <:+ inner' := by
    have whole : .opener o :: inner <:+ signs := ⟨front, eq.symm⟩
    have whole' : inner' <:+ signs := ⟨front' ++ [.opener o'], by simp [eq']⟩
    apply List.suffix_of_suffix_length_le whole whole'
    rw [List.length_cons]
    omega
  obtain ⟨before, rfl⟩ := later
  have closed := h'.rises_drop_le before.length
  rw [List.drop_left] at closed
  simp only [rises_cons, h.rises_eq, Sign.rise] at closed
  omega

/-- Only one block is the innermost one. -/
theorem unique (h : Innermost signs o inner) (h' : Innermost signs o' inner') :
    o = o' ∧ inner = inner' := by
  obtain ⟨front, eq⟩ := h.split
  obtain ⟨front', eq'⟩ := h'.split
  have same := Nat.le_antisymm (h'.length_le h) (h.length_le h')
  have cut := List.append_inj' (eq.symm.trans eq') (by simp [same])
  obtain ⟨opener, rest⟩ := List.cons.inj cut.2
  exact ⟨Sign.opener.inj opener, rest⟩

end Innermost

def Leaf.node : Leaf → Node
  | text s => .text s
  | print e => .print e
  | assign name value => .assign name value
  | inclusion template args => .inclusion template args

mutual

def Node.signs : Node → List Sign
  | .text s => [.leaf (.text s)]
  | .print e => [.leaf (.print e)]
  | .assign name value => [.leaf (.assign name value)]
  | .inclusion template args => [.leaf (.inclusion template args)]
  | .branch test body rest => .opener (.branch test) :: (Node.signsAll body ++ rest.signs)
  | .foreach var iterable body => .opener (.foreach var iterable) :: (Node.signsAll body ++ [.stop])
  | .loop test body => .opener (.loop test) :: (Node.signsAll body ++ [.stop])
  | .define name params body => .opener (.define name params) :: (Node.signsAll body ++ [.stop])

def Alternatives.signs : Alternatives → List Sign
  | .done => [.stop]
  | .otherwise body => .otherwise :: (Node.signsAll body ++ [.stop])
  | .elsif test body rest => .elsif test :: (Node.signsAll body ++ rest.signs)

/-- Nodes as the signs that they are written with. -/
def Node.signsAll : List Node → List Sign
  | [] => []
  | node :: rest => node.signs ++ Node.signsAll rest

end

variable {signs : List Sign} {part : Part}

theorem Node.signsAll_append (nodes nodes' : List Node) :
    Node.signsAll (nodes ++ nodes') = Node.signsAll nodes ++ Node.signsAll nodes' := by
  induction nodes with
  | nil => rfl
  | cons node nodes ih => rw [List.cons_append, signsAll, ih, signsAll, List.append_assoc]

theorem Leaf.signs_node (l : Leaf) : l.node.signs = [.leaf l] := by
  cases l <;> rw [Leaf.node, Node.signs]

/-- A block that is no `IF`, with its body. -/
def Opener.close (body : List Node) : Opener → Node
  | branch test => .branch test body .done
  | foreach var iterable => .foreach var iterable body
  | loop test => .loop test body
  | define name params => .define name params body

theorem Opener.signs_close (o : Opener) (body : List Node) :
    (o.close body).signs = .opener o :: (Node.signsAll body ++ [.stop]) := by
  cases o <;> rw [Opener.close, Node.signs]
  rw [Alternatives.signs]

mutual

theorem Node.derives : (node : Node) → ∀ {rest}, Derives .body rest →
    Derives .body (node.signs ++ rest)
  | .text s, _, h => by rw [Node.signs]; exact .leaf (.text s) h
  | .print e, _, h => by rw [Node.signs]; exact .leaf (.print e) h
  | .assign name value, _, h => by rw [Node.signs]; exact .leaf (.assign name value) h
  | .inclusion template args, _, h => by rw [Node.signs]; exact .leaf (.inclusion template args) h
  | .branch test body rest, _, h => by
    rw [Node.signs]
    exact .append (.branch test (Node.derivesAll body) rest.derives) h
  | .foreach var iterable body, _, h => by
    rw [Node.signs]
    exact .append (.block (o := .foreach var iterable) nofun (Node.derivesAll body)) h
  | .loop test body, _, h => by
    rw [Node.signs]
    exact .append (.block (o := .loop test) nofun (Node.derivesAll body)) h
  | .define name params body, _, h => by
    rw [Node.signs]
    exact .append (.block (o := .define name params) nofun (Node.derivesAll body)) h

theorem Alternatives.derives : (rest : Alternatives) → Derives .branches rest.signs
  | .done => by rw [Alternatives.signs]; exact .stop
  | .otherwise body => by
    rw [Alternatives.signs]
    exact .otherwise (Node.derivesAll body)
  | .elsif test body rest => by
    rw [Alternatives.signs]
    exact .elsif test (Node.derivesAll body) rest.derives

/-- What nodes are written with is a body of the grammar. -/
theorem Node.derivesAll : (nodes : List Node) → Derives .body (Node.signsAll nodes)
  | [] => by rw [Node.signsAll]; exact .nil
  | node :: rest => by
    rw [Node.signsAll]
    exact node.derives (Node.derivesAll rest)

end

/-- What the signs of a part are written for. -/
def Part.Written : Part → List Sign → Prop
  | .body, signs => ∃ nodes, Node.signsAll nodes = signs
  | .block, signs => ∃ node : Node, node.signs = signs
  | .branches, signs => ∃ rest : Alternatives, rest.signs = signs

/-- The grammar has nothing but what nodes are written with. -/
theorem Derives.written (h : Derives part signs) : part.Written signs := by
  induction h with
  | nil => exact ⟨[], Node.signsAll.eq_1⟩
  | leaf l _ ih =>
    obtain ⟨nodes, rfl⟩ := ih
    exact ⟨l.node :: nodes, by rw [Node.signsAll, l.signs_node]; rfl⟩
  | append _ _ ih ih' =>
    obtain ⟨node, rfl⟩ := ih
    obtain ⟨nodes, rfl⟩ := ih'
    exact ⟨node :: nodes, by rw [Node.signsAll]⟩
  | branch test _ _ ih ih' =>
    obtain ⟨body, rfl⟩ := ih
    obtain ⟨rest, rfl⟩ := ih'
    exact ⟨.branch test body rest, by rw [Node.signs]⟩
  | @block o _ _ _ ih =>
    obtain ⟨body, rfl⟩ := ih
    exact ⟨o.close body, o.signs_close body⟩
  | elsif test _ _ ih ih' =>
    obtain ⟨body, rfl⟩ := ih
    obtain ⟨rest, rfl⟩ := ih'
    exact ⟨.elsif test body rest, by rw [Alternatives.signs]⟩
  | otherwise _ ih =>
    obtain ⟨body, rfl⟩ := ih
    exact ⟨.otherwise body, by rw [Alternatives.signs]⟩
  | stop => exact ⟨.done, by rw [Alternatives.signs]⟩

theorem derives_body_iff : Derives .body signs ↔ ∃ nodes, Node.signsAll nodes = signs :=
  ⟨Derives.written, fun ⟨nodes, eq⟩ => eq ▸ Node.derivesAll nodes⟩

end TemplateEngine
