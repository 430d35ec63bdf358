import TemplateEngine.Proofs.Template.Assembled
import TemplateEngine.Proofs.Template.Tiles

/-!
# The structure of blocks

The text of a template is cut into pieces, and the pieces are read as blocks. Parsing
gives the one tree that is written with the pieces, if there is one. Otherwise the fault
is at the first tag after which no template can follow; and if each tag fits, at the
innermost block that is still open.
-/

namespace TemplateEngine

/-- The innermost block is an `IF` block in its `ELSE` body. -/
def InElse (signs : List Sign) : Prop :=
  ∃ test inner body, Innermost signs (.branch test) (inner ++ .otherwise :: body) ∧
    Derives .body body

/-- No block is open, or the innermost one is no `IF` block. -/
def OutOfIf (signs : List Sign) : Prop :=
  Derives .body signs ∨ ∃ o inner, Innermost signs o inner ∧ o.kind ≠ .branch

/-- Why a sign cannot follow the signs before it. -/
inductive Misfit (before : List Sign) : Sign → Misplaced → Prop
  | endWithoutBlock : Derives .body before → Misfit before .stop .endWithoutBlock
  | elsifAfterElse (test) : InElse before → Misfit before (.elsif test) .elsifAfterElse
  | elsifWithoutIf (test) : OutOfIf before → Misfit before (.elsif test) .elsifWithoutIf
  | duplicateElse : InElse before → Misfit before .otherwise .duplicateElse
  | elseWithoutIf : OutOfIf before → Misfit before .otherwise .elseWithoutIf

variable {read : List PlacedSign} {a : Assembly} {span : Span} {sign : Sign}
  {fault : Span × ParseFault} {root : List Node} {rest : List OpenBlock}

theorem Lays.derives (h : Lays read ⟨root, []⟩) : Derives .body (read.map Prod.fst) := by
  cases h with
  | root here =>
    rw [here]
    exact Node.derivesAll _

/-- The innermost open block starts at its opening tag. -/
theorem Lays.split {b : OpenBlock} (h : Lays read ⟨root, b :: rest⟩) :
    ∃ outer inner, read = outer ++ (.opener b.opener, b.span) :: inner ∧
      inner.map Prod.fst = b.inner := by
  cases h with
  | opened around here => exact ⟨_, _, rfl, here⟩

theorem Lays.innermost {b : OpenBlock} (h : Lays read ⟨root, b :: rest⟩) :
    Innermost (read.map Prod.fst) b.opener b.inner := by
  obtain ⟨outer, inner, rfl, here⟩ := h.split
  refine ⟨⟨outer.map Prod.fst, ?_⟩, b.derives_close⟩
  rw [List.map_append, List.map_cons, here]

theorem InElse.not_outOfIf {signs : List Sign} (h : InElse signs) : ¬ OutOfIf signs := by
  obtain ⟨test, inner, body, innermost, -⟩ := h
  rintro (derives | ⟨o, inner', other, kind⟩)
  · exact innermost.not_derives derives
  · obtain ⟨rfl, -⟩ := innermost.unique other
    exact kind rfl

/-- There is one reason why a sign cannot follow. -/
theorem Misfit.unique {before : List Sign} {cause cause' : Misplaced}
    (h : Misfit before sign cause) (h' : Misfit before sign cause') : cause = cause' := by
  cases h with
  | endWithoutBlock =>
    cases h'
    rfl
  | elsifAfterElse test inElse =>
    cases h' with
    | elsifAfterElse => rfl
    | elsifWithoutIf _ out => exact absurd out inElse.not_outOfIf
  | elsifWithoutIf test out =>
    cases h' with
    | elsifAfterElse _ inElse => exact absurd out inElse.not_outOfIf
    | elsifWithoutIf => rfl
  | duplicateElse inElse =>
    cases h' with
    | duplicateElse => rfl
    | elseWithoutIf out => exact absurd out inElse.not_outOfIf
  | elseWithoutIf out =>
    cases h' with
    | duplicateElse inElse => exact absurd out inElse.not_outOfIf
    | elseWithoutIf => rfl

theorem exists_branch {o : Opener} (h : o.kind = .branch) : ∃ test, o = .branch test := by
  cases o with
  | branch test => exact ⟨test, rfl⟩
  | foreach | loop | define => cases h

theorem Lays.inElse {past : List Branch} {last : Branch} {start : Span} {body : List Node}
    (h : Lays read ⟨root, ⟨.otherwise past last, start, body⟩ :: rest⟩) :
    InElse (read.map Prod.fst) := by
  have most := h.innermost
  obtain ⟨test, eq⟩ := exists_branch (OpenBlock.kind_opener ⟨.otherwise past last, start, body⟩)
  rw [eq] at most
  exact ⟨test, _, _, most, Node.derivesAll _⟩

theorem Lays.outOfIf {b : OpenBlock} (h : Lays read ⟨root, b :: rest⟩)
    (other : b.head.kind ≠ .branch) : OutOfIf (read.map Prod.fst) :=
  .inr ⟨b.opener, b.inner, h.innermost, by rwa [b.kind_opener]⟩

/-- The assembly refuses only what does not fit, and says why. -/
theorem Lays.refused (h : Lays read a) (refused : a.addSign span sign = .error fault) :
    ∃ cause, fault = (span, .misplaced cause) ∧ Misfit (read.map Prod.fst) sign cause := by
  obtain ⟨root, opened⟩ := a
  cases sign with
  | leaf | opener => cases refused
  | stop =>
    cases opened with
    | cons => cases refused
    | nil =>
      cases refused
      exact ⟨_, rfl, .endWithoutBlock h.derives⟩
  | elsif test =>
    cases opened with
    | nil =>
      cases refused
      exact ⟨_, rfl, .elsifWithoutIf test (.inl h.derives)⟩
    | cons b rest =>
      obtain ⟨head, start, body⟩ := b
      cases head with
      | branch => cases refused
      | otherwise =>
        cases refused
        exact ⟨_, rfl, .elsifAfterElse test h.inElse⟩
      | foreach | loop | define =>
        cases refused
        exact ⟨_, rfl, .elsifWithoutIf test (h.outOfIf nofun)⟩
  | otherwise =>
    cases opened with
    | nil =>
      cases refused
      exact ⟨_, rfl, .elseWithoutIf (.inl h.derives)⟩
    | cons b rest =>
      obtain ⟨head, start, body⟩ := b
      cases head with
      | branch => cases refused
      | otherwise =>
        cases refused
        exact ⟨_, rfl, .duplicateElse h.inElse⟩
      | foreach | loop | define =>
        cases refused
        exact ⟨_, rfl, .elseWithoutIf (h.outOfIf nofun)⟩

section

variable {marks more : List PlacedSign} {before : List PlacedSign} {body : List Node}

/-- The assembly ends without an open block iff the signs are those of its body. -/
theorem addSigns_empty_iff :
    Assembly.empty.addSigns marks = .ok ⟨body.reverse, []⟩
      ↔ marks.map Prod.fst = Node.signsAll body := by
  constructor
  · intro taken
    have read := Lays.empty.addSigns taken
    cases read with
    | root here => rwa [List.nil_append, List.reverse_reverse] at here
  · intro written
    rw [Node.addsAll body marks written, Assembly.empty, Assembly.foldl_add_root, List.append_nil]

/-- What the assembly refuses, no template can go on with. -/
theorem not_viable (taken : Assembly.empty.addSigns before = .ok a)
    (refused : a.addSign span sign = .error fault) :
    ¬ Viable (before.map Prod.fst ++ [sign]) := by
  rintro ⟨after, derived⟩
  obtain ⟨nodes, written⟩ := derives_body_iff.mp derived
  let marks : List PlacedSign := before ++ (sign, span) :: after.map fun sign => (sign, span)
  have same : marks.map Prod.fst = Node.signsAll nodes := by
    rw [written]
    simp [marks, Function.comp_def]
  have whole := addSigns_empty_iff.mpr same
  rw [Assembly.addSigns_append taken, Assembly.addSigns, refused] at whole
  cases whole

end

namespace Piece

/-- The signs of pieces and where they stand. -/
def marks (pieces : List Piece) : List PlacedSign :=
  pieces.filterMap fun p => p.sign?.map fun sign => (sign, p.span)

variable {p : Piece} {pieces : List Piece}

theorem map_fst_marks (pieces : List Piece) : (marks pieces).map Prod.fst = signs pieces := by
  rw [marks, signs, List.map_filterMap]
  congr
  funext p
  cases p.sign? <;> rfl

theorem addTag_eq {t : Tag} (h : t.sign? = some sign) (a : Assembly) (span : Span) :
    a.addTag span t = a.addSign span sign := by
  cases t with
  | elseTag | macroTag | endTag =>
    cases h
    rfl
  | inclusion template args =>
    obtain ⟨template, rfl⟩ : ∃ e, template = .ok e := by
      cases template with
      | error => cases h
      | ok e => exact ⟨e, rfl⟩
    obtain ⟨args', made⟩ : ∃ args', Assembly.checkArgs args = .ok args' := by
      cases checked : Assembly.checkArgs args with
      | error => simp [Tag.sign?, checked, Except.toOption] at h
      | ok args' => exact ⟨args', rfl⟩
    simp only [Tag.sign?, made, Except.toOption] at h
    cases h
    rw [Assembly.addTag, made]
    rfl
  | print e | assign _ e | ifTag e | unlessTag e | elsifTag e | foreachTag _ e | whileTag e =>
    cases e with
    | error => cases h
    | ok e =>
      cases h
      rfl

theorem addPiece_eq (h : p.converts) (a : Assembly) :
    a.addPiece p = match p.sign? with
      | some sign => a.addSign p.span sign
      | none => .ok a := by
  obtain ⟨kind, span⟩ := p
  cases kind with
  | text | comment => rfl
  | tag t =>
    obtain ⟨sign, converted⟩ := Option.isSome_iff_exists.mp (show t.sign?.isSome from h)
    have same : (⟨.tag t, span⟩ : Piece).sign? = some sign := converted
    rw [same]
    exact addTag_eq converted a span

/-- The assembly reads pieces as their signs. -/
theorem addPieces_eq (h : ∀ p ∈ pieces, p.converts) (a : Assembly) :
    a.addPieces pieces = a.addSigns (marks pieces) := by
  induction pieces generalizing a with
  | nil => rfl
  | cons p pieces ih =>
    obtain ⟨converts, others⟩ := List.forall_mem_cons.mp h
    rw [Assembly.addPieces, addPiece_eq converts, marks, List.filterMap_cons]
    cases p.sign? with
    | none => exact ih others a
    | some sign =>
      dsimp only [Option.map_some]
      rw [Assembly.addSigns]
      cases a.addSign p.span sign with
      | error => rfl
      | ok a' => exact ih others a'

theorem marks_eq_split {before after : List PlacedSign}
    (h : marks pieces = before ++ (sign, span) :: after) :
    ∃ front p back, pieces = front ++ p :: back ∧ marks front = before ∧ marks back = after ∧
      p.sign? = some sign ∧ p.span = span := by
  obtain ⟨front, others, rfl, here, later⟩ := List.filterMap_eq_append_iff.mp h
  obtain ⟨skipped, p, back, rfl, unmarked, marked, rest⟩ := List.filterMap_eq_cons_iff.mp later
  obtain ⟨sign', signed, same⟩ := Option.map_eq_some_iff.mp marked
  cases same
  refine ⟨front ++ skipped, p, back, by rw [List.append_assoc], ?_, rest, signed, rfl⟩
  have none : marks skipped = [] := List.filterMap_eq_nil_iff.mpr unmarked
  rw [marks, List.filterMap_append, here, show skipped.filterMap _ = [] from none, List.append_nil]

/-- Where the pieces that make up no template go wrong, and how. -/
inductive Blames (pieces : List Piece) : Span → ParseFault → Prop
  /-- The first tag that cannot go on with the pieces before it. -/
  | misplaced {before p after cause} (sign : Sign) : pieces = before ++ p :: after →
      p.sign? = some sign → Viable (signs before) → ¬ Viable (signs before ++ [sign]) →
      Misfit (signs before) sign cause → Blames pieces p.span (.misplaced cause)
  /-- Each tag fits; this one opened the innermost block that is still open. -/
  | unclosed {before p after} (o : Opener) : Viable (signs pieces) →
      pieces = before ++ p :: after → p.sign? = some (.opener o) →
      Innermost (signs pieces) o (signs after) → Blames pieces p.span (.unclosed o.kind)

theorem signs_cut {before after : List Piece} (signed : p.sign? = some sign) :
    signs (before ++ p :: after) = signs before ++ sign :: signs after := by
  simp [signs, signed]

/-- What can be gone on with ends before a piece that cannot follow. -/
theorem length_le_of_refused {read rest before after : List Piece}
    (cut : pieces = before ++ p :: after) (signed : p.sign? = some sign)
    (refused : ¬ Viable (signs before ++ [sign])) (split : pieces = read ++ rest)
    (viable : Viable (signs read)) : read.length ≤ before.length := by
  refine Nat.le_of_not_lt fun longer => refused ?_
  have whole : before ++ [p] <+: pieces := ⟨after, by simp [cut]⟩
  obtain ⟨more, rfl⟩ : before ++ [p] <+: read := by
    apply List.prefix_of_prefix_length_le whole ⟨rest, split.symm⟩
    rw [List.length_append]
    exact longer
  obtain ⟨future, derives⟩ := viable
  refine ⟨signs more ++ future, ?_⟩
  rw [List.append_assoc, List.singleton_append, signs_cut signed] at derives
  simpa using derives

/-- An opening tag with fewer signs behind it does not come earlier. -/
theorem length_le_of_opened {before after before' after' : List Piece} {p' : Piece}
    {sign' : Sign} (cut : pieces = before ++ p :: after) (cut' : pieces = before' ++ p' :: after')
    (signed' : p'.sign? = some sign') (same : signs after = signs after') :
    after.length ≤ after'.length := by
  refine Nat.le_of_not_lt fun longer => ?_
  have whole : after <:+ pieces := ⟨before ++ [p], by simp [cut]⟩
  obtain ⟨between, rfl⟩ : p' :: after' <:+ after :=
    List.suffix_of_suffix_length_le ⟨before', cut'.symm⟩ whole longer
  have size := congrArg List.length same
  rw [signs_cut signed', List.length_append, List.length_cons] at size
  omega

theorem Blames.not_derives {span : Span} {fault : ParseFault} (h : Blames pieces span fault) :
    ¬ Derives .body (signs pieces) := by
  intro derives
  cases h with
  | @misplaced before p after _ sign cut signed _ refused =>
    rw [cut, signs_cut signed] at derives
    exact refused ⟨signs after, by simpa using derives⟩
  | unclosed o _ _ _ innermost => exact innermost.not_derives derives

/-- There is one place where pieces go wrong, and one way how. -/
theorem Blames.unique {span span' : Span} {fault fault' : ParseFault}
    (h : Blames pieces span fault) (h' : Blames pieces span' fault') :
    span = span' ∧ fault = fault' := by
  cases h with
  | misplaced sign cut signed viable refused misfit =>
    cases h' with
    | misplaced sign' cut' signed' viable' refused' misfit' =>
      have le := length_le_of_refused cut signed refused cut' viable'
      have le' := length_le_of_refused cut' signed' refused' cut viable
      obtain ⟨rfl, later⟩ := List.append_inj (cut.symm.trans cut') (Nat.le_antisymm le' le)
      obtain ⟨rfl, -⟩ := List.cons.inj later
      obtain rfl := Option.some.inj (signed.symm.trans signed')
      exact ⟨rfl, congrArg _ (misfit.unique misfit')⟩
    | unclosed o viable' cut' =>
      have le := length_le_of_refused cut signed refused (List.append_nil _).symm viable'
      rw [cut, List.length_append, List.length_cons] at le
      omega
  | unclosed o viable cut signed innermost =>
    cases h' with
    | misplaced sign' cut' signed' _ refused' =>
      have le := length_le_of_refused cut' signed' refused' (List.append_nil _).symm viable
      rw [cut', List.length_append, List.length_cons] at le
      omega
    | unclosed o' _ cut' signed' innermost' =>
      obtain ⟨rfl, same⟩ := innermost.unique innermost'
      have le := length_le_of_opened cut cut' signed' same
      have le' := length_le_of_opened cut' cut signed same.symm
      have size := Nat.le_antisymm le le'
      obtain ⟨-, later⟩ := List.append_inj' (cut.symm.trans cut') (congrArg (· + 1) size)
      obtain ⟨rfl, -⟩ := List.cons.inj later
      exact ⟨rfl, rfl⟩

theorem assemble_eq_ok_iff (h : ∀ p ∈ pieces, p.converts) {body : List Node} :
    assemble pieces = .ok body ↔ signs pieces = Node.signsAll body := by
  rw [← map_fst_marks, ← addSigns_empty_iff, assemble, addPieces_eq h]
  cases Assembly.empty.addSigns (marks pieces) with
  | error fault => exact ⟨nofun, nofun⟩
  | ok a =>
    obtain ⟨root, opened⟩ := a
    cases opened with
    | cons b rest => exact ⟨nofun, nofun⟩
    | nil =>
      constructor
      · intro made
        cases made
        rw [List.reverse_reverse]
      · intro made
        cases made
        exact congrArg Except.ok (List.reverse_reverse body)

theorem blames_of_assemble (h : ∀ p ∈ pieces, p.converts) {fault : Span × ParseFault}
    (failed : assemble pieces = .error fault) : Blames pieces fault.1 fault.2 := by
  rw [assemble, addPieces_eq h] at failed
  obtain ⟨⟨root, opened⟩, taken⟩ |
      ⟨before, sign, span, after, a, fault', split, taken, refused, all⟩ :=
    Assembly.addSigns_cases Assembly.empty (marks pieces)
  · have read := Lays.empty.addSigns taken
    rw [List.nil_append] at read
    rw [taken] at failed
    cases opened with
    | nil => cases failed
    | cons b rest =>
      cases failed
      obtain ⟨outer, inner, split, here⟩ := read.split
      obtain ⟨front, p, back, cut, -, later, signed, place⟩ := marks_eq_split split
      have viable := read.viable
      have most := read.innermost
      rw [← here, ← later, map_fst_marks, map_fst_marks] at most
      rw [map_fst_marks] at viable
      rw [← place, ← b.kind_opener]
      exact .unclosed b.opener viable cut signed most
  · rw [all] at failed
    cases failed
    obtain ⟨front, p, back, rfl, here, -, signed, rfl⟩ := marks_eq_split split
    have read := Lays.empty.addSigns taken
    rw [List.nil_append] at read
    obtain ⟨cause, rfl, misfit⟩ := read.refused refused
    have viable := read.viable
    have stuck := not_viable taken refused
    rw [← here, map_fst_marks] at misfit viable stuck
    exact .misplaced sign rfl signed viable stuck misfit

end Piece

namespace Template

variable {source : String} {pieces : List Piece}

theorem parse_eq (scanned : Piece.scan source = .ok pieces) (name : String) :
    parse name source = match Piece.assemble pieces with
      | .ok body => .ok ⟨name, body⟩
      | .error (span, fault) => .error ⟨name, source, span, fault⟩ := by
  rw [parse, scanned]
  rfl

section

variable (scanned : Piece.scan source = .ok pieces) (converts : ∀ p ∈ pieces, p.converts)
  (name : String)
include scanned converts

theorem parse_eq_ok_iff (body : List Node) :
    parse name source = .ok ⟨name, body⟩ ↔ Piece.signs pieces = Node.signsAll body := by
  rw [← Piece.assemble_eq_ok_iff converts, parse_eq scanned]
  cases Piece.assemble pieces <;> simp

theorem exists_parse_iff :
    (∃ t, parse name source = .ok t) ↔ Derives .body (Piece.signs pieces) := by
  rw [derives_body_iff]
  constructor
  · rintro ⟨t, made⟩
    cases assembled : Piece.assemble pieces with
    | error fault =>
      rw [parse_eq scanned, assembled] at made
      cases made
    | ok body => exact ⟨body, ((Piece.assemble_eq_ok_iff converts).mp assembled).symm⟩
  · rintro ⟨body, written⟩
    exact ⟨_, (parse_eq_ok_iff scanned converts name body).mpr written.symm⟩

theorem blames_of_parse {e : ParseError} (failed : parse name source = .error e) :
    e.name = name ∧ e.source = source ∧ Piece.Blames pieces e.span e.fault := by
  cases assembled : Piece.assemble pieces with
  | ok body =>
    rw [parse_eq scanned, assembled] at failed
    cases failed
  | error fault =>
    rw [parse_eq scanned, assembled] at failed
    cases failed
    exact ⟨rfl, rfl, Piece.blames_of_assemble converts assembled⟩

theorem parse_eq_error_iff (e : ParseError) : parse name source = .error e ↔
    e.name = name ∧ e.source = source ∧ Piece.Blames pieces e.span e.fault := by
  constructor
  · exact blames_of_parse scanned converts name
  rintro ⟨named, from_source, blames⟩
  cases result : parse name source with
  | ok t =>
    have derives := (exists_parse_iff scanned converts name).mp ⟨t, result⟩
    exact absurd derives blames.not_derives
  | error e' =>
    obtain ⟨named', from_source', blames'⟩ := blames_of_parse scanned converts name result
    obtain ⟨span, fault⟩ := blames'.unique blames
    have same : e' = e := by
      calc e' = ⟨e'.name, e'.source, e'.span, e'.fault⟩ := rfl
        _ = ⟨e.name, e.source, e.span, e.fault⟩ := by
          rw [named, named', from_source, from_source', span, fault]
        _ = e := rfl
    rw [same]

end

/-- The pieces of a source tile it. If their expressions can be converted, the tree is the
one that is written with the pieces; there is one iff the grammar of blocks derives them,
and else the error is the one that blames the piece where they go wrong. -/
theorem parse_structure (scanned : Piece.scan source = .ok pieces) (name : String) :
    Piece.Tiles 0 source.toList pieces ∧
      (∀ p ∈ pieces, Piece.Writes p.kind (p.span.textIn source).toList) ∧
      String.join (pieces.map fun p => p.span.textIn source) = source ∧
      ((∀ p ∈ pieces, p.converts) →
        (∀ body, parse name source = .ok ⟨name, body⟩ ↔ Piece.signs pieces = Node.signsAll body) ∧
        ((∃ t, parse name source = .ok t) ↔ Derives .body (Piece.signs pieces)) ∧
        ∀ e, parse name source = .error e ↔
          e.name = name ∧ e.source = source ∧ Piece.Blames pieces e.span e.fault) := by
  have tiles : Piece.Tiles (utf8Length []) source.toList pieces := Piece.tiles_of_scan scanned
  have whole : source.toList = [] ++ source.toList ++ [] := by simp
  refine ⟨tiles, tiles.writes_textIn whole, ?_, fun converts => ⟨?_, ?_, ?_⟩⟩
  · rw [tiles.join_textIn whole, String.ofList_toList]
  · exact parse_eq_ok_iff scanned converts name
  · exact exists_parse_iff scanned converts name
  · exact parse_eq_error_iff scanned converts name

end Template

namespace StrayEnd

def source : String := "[% UNLESS x %]a[% ELSE %][% END %]b[% END %]"

theorem parse_structure_stray :
    ∃ pieces, Piece.scan source = .ok pieces ∧ (∀ p ∈ pieces, p.converts) ∧
      String.join (pieces.map fun p => p.span.textIn source) = source ∧
      ¬ Derives .body (Piece.signs pieces) ∧
      ∃ e, Template.parse "page" source = .error e ∧ e.span = ⟨35, 44⟩ ∧
        Piece.Blames pieces e.span e.fault := by
  have scans : (Piece.scan source).toOption.map (fun pieces => pieces.all Piece.converts)
      = some true := by
    decide +kernel
  have fails : (match Template.parse "page" source with
      | .ok _ => none
      | .error e => some e.span) = some ⟨35, 44⟩ := by
    decide +kernel
  obtain ⟨pieces, some, all⟩ := Option.map_eq_some_iff.mp scans
  have scanned : Piece.scan source = .ok pieces := by
    cases result : Piece.scan source with
    | error fault =>
      rw [result] at some
      cases some
    | ok pieces' =>
      rw [result] at some
      cases some
      rfl
  have converts : ∀ p ∈ pieces, p.converts := List.all_eq_true.mp all
  obtain ⟨-, -, joined, whole⟩ := Template.parse_structure scanned "page"
  obtain ⟨-, derives, blames⟩ := whole converts
  split at fails
  · cases fails
  case h_2 e failed =>
    refine ⟨pieces, scanned, converts, joined, fun derived => ?_, e, failed,
      Option.some.inj fails, ((blames e).mp failed).2.2⟩
    obtain ⟨t, made⟩ := derives.mpr derived
    rw [made] at failed
    cases failed

end StrayEnd
end TemplateEngine
