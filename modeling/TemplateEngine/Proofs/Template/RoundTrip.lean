import TemplateEngine.Proofs.Template.Blocks
import TemplateEngine.Proofs.Template.Pieces

/-!
# Printing and parsing

What is printed of a template is parsed to the same template, up to the spans in it.
Each node is cut into pieces that build it again, by induction on the nodes inside of
it. A text must end where it is followed by something else; that is what the comments
between texts are for.
-/

namespace TemplateEngine

open Piece Reader

variable {limit : Nat} {words tail : List Char} {node : Node} {nodes : List Node}
  {T : Tag → Prop} {Q R : List Piece → Prop}

theorem cut_leaf (h : Directs limit words T)
    (builds : ∀ t span, T t → Builds [node] [⟨.tag t, span⟩]) :
    Cut limit (fun _ => True) (Printer.tag words) (Builds [node]) := by
  refine (cut_tag h).imp ?_
  rintro _ ⟨t, span, rfl, holds⟩
  exact builds t span holds

/-- A tag with a body after it, and then something that starts with a tag. -/
theorem cut_section (h : Directs limit words T)
    (body : Cut limit AtMark (Printer.nodes nodes) (Builds nodes))
    (after : Cut limit (fun _ => True) tail Q) (starts : ∀ rest, AtMark (tail ++ rest))
    (whole : ∀ t span ps qs, T t → Builds nodes ps → Q qs → R (⟨.tag t, span⟩ :: (ps ++ qs))) :
    Cut limit (fun _ => True) (Printer.tag words ++ Printer.nodes nodes ++ tail) R := by
  have others : Cut limit (fun _ => True) (Printer.nodes nodes ++ tail)
      fun all => ∃ ps qs, all = ps ++ qs ∧ Builds nodes ps ∧ Q qs :=
    body.append after (fun rest _ => starts rest) fun ps qs builds ends =>
      ⟨ps, qs, rfl, builds, ends⟩
  rw [List.append_assoc]
  refine (cut_tag h).append others (fun _ _ => trivial) ?_
  rintro _ _ ⟨t, span, rfl, holds⟩ ⟨ps, qs, rfl, builds, ends⟩
  exact whole t span ps qs holds builds ends

theorem cut_end : Cut limit (fun _ => True) Printer.endTag
    fun ps => ∃ span, ps = [⟨.tag .endTag, span⟩] := by
  refine (cut_tag directs_end).imp ?_
  rintro _ ⟨_, span, rfl, rfl⟩
  exact ⟨span, rfl⟩

theorem cut_block (h : Directs limit words T)
    (body : Cut limit AtMark (Printer.nodes nodes) (Builds nodes))
    (whole : ∀ t span ps end', T t → Builds nodes ps →
      R (⟨.tag t, span⟩ :: (ps ++ [⟨.tag .endTag, end'⟩]))) :
    Cut limit (fun _ => True) (Printer.tag words ++ Printer.nodes nodes ++ Printer.endTag) R := by
  refine cut_section h body cut_end (fun _ => .inr ⟨_, rfl⟩) ?_
  rintro t span ps _ holds builds ⟨end', rfl⟩
  exact whole t span ps end' holds builds

theorem atMark_alternatives (rest : Alternatives) (text : List Char) :
    AtMark (Printer.alternatives rest ++ text) := by
  cases rest <;> exact .inr ⟨_, rfl⟩

/-- What may come after the text of a node. -/
def Follows : Node → List Char → Prop
  | .text _, rest => AtMark rest
  | _, _ => True

theorem cut_between (node : Node) (nodes : List Node) :
    Cut limit (fun _ => True) (Printer.between node nodes) (Builds []) := by
  rw [Printer.between.eq_def]
  split
  · refine cut_comment.imp ?_
    rintro _ ⟨span, rfl⟩
    exact .comment span
  · exact .nil .nil

theorem follows_between (node : Node) (nodes : List Node) {rest : List Char} (last : AtMark rest) :
    Follows node (Printer.between node nodes ++ Printer.nodes nodes ++ rest) := by
  cases node with
  | text s =>
    cases nodes with
    | nil => exact last
    | cons next nodes => cases next <;> exact .inr ⟨_, rfl⟩
  | _ => trivial

theorem params_unspanned {params params' : List (String × Span)}
    (all : List.Forall₂ (fun param found => found.1 = param.1) params params') :
    params'.map (fun param => (param.1, (default : Span)))
      = params.map fun param => (param.1, default) := by
  induction all with
  | nil => rfl
  | cons first _ ih => rw [List.map_cons, List.map_cons, first, ih]

theorem checkArgs_agrees {args : List (String × Expr)} {found : List (String × Checked Expr)}
    (all : List.Forall₂ AgreesArg args found) :
    ∃ args', Assembly.checkArgs found = .ok args' ∧
      args'.map (fun arg => (arg.1, arg.2.unspanned))
        = args.map fun arg => (arg.1, arg.2.unspanned) := by
  induction all with
  | nil => exact ⟨[], rfl, rfl⟩
  | @cons arg found _ _ first _ ih =>
    obtain ⟨args', checked, same⟩ := ih
    obtain ⟨name, e⟩ := found
    obtain ⟨rfl, e', rfl, same'⟩ := first
    refine ⟨(arg.1, e') :: args', ?_, ?_⟩
    · rw [Assembly.checkArgs, checked]
      rfl
    · rw [List.map_cons, List.map_cons, same, same']

mutual

/-- The pieces of a printed node build it. -/
theorem cut_node : ∀ node : Node, node.Printable → (Printer.node node).length ≤ limit →
    Cut limit (Follows node) (Printer.node node) (Builds [node])
  | .text s => fun plain _ => by
    refine (cut_text plain).imp ?_
    rintro _ ⟨span, rfl⟩
    exact .text s span
  | .print e => fun plain fits => by
    simp only [Printer.node, Printer.tag, List.length_append] at fits
    refine cut_leaf (directs_print plain (by omega)) ?_
    rintro _ span ⟨_, rfl, e', rfl, same⟩
    exact .tag (fun _ => rfl) (by rw [Node.unspanned, same, Node.unspanned])
  | .branch test body rest => fun plain fits => by
    simp only [Printer.node, Printer.tag, List.length_append] at fits
    refine cut_section (directs_if plain.1 (by omega)) (cut_nodes body plain.2.1 (by omega))
      (cut_alternatives rest plain.2.2 (by omega)) (atMark_alternatives rest) ?_
    rintro _ span ps qs ⟨_, rfl, test', rfl, same⟩ builds joins
    exact .branch same builds joins span
  | .foreach var iterable body => fun plain fits => by
    simp only [Printer.node, Printer.tag, List.length_append] at fits
    refine cut_block (directs_foreach plain.1 plain.2.1 (by omega))
      (cut_nodes body plain.2.2 (by omega)) ?_
    rintro _ span ps end' ⟨_, rfl, iterable', rfl, same⟩ builds
    refine builds.block (fun _ => rfl) (fun found same' => ?_) end'
    simp only [OpenBlock.close, OpenBlock.nodes, List.reverse_reverse, Node.unspanned, same, same']
  | .loop test body => fun plain fits => by
    simp only [Printer.node, Printer.tag, List.length_append] at fits
    refine cut_block (directs_while plain.1 (by omega)) (cut_nodes body plain.2 (by omega)) ?_
    rintro _ span ps end' ⟨_, rfl, test', rfl, same⟩ builds
    refine builds.block (fun _ => rfl) (fun found same' => ?_) end'
    simp only [OpenBlock.close, OpenBlock.nodes, List.reverse_reverse, Node.unspanned, same, same']
  | .assign name value => fun plain fits => by
    simp only [Printer.node, Printer.tag, List.length_append] at fits
    refine cut_leaf (directs_set plain.1 plain.2 (by omega)) ?_
    rintro _ span ⟨_, rfl, value', rfl, same⟩
    exact .tag (fun _ => rfl) (by rw [Node.unspanned, same, Node.unspanned])
  | .define name params body => fun plain fits => by
    simp only [Printer.node, Printer.tag, List.length_append, Expression.length_parens] at fits
    have count := length_commas (params.map fun param => param.1.toList)
    rw [List.length_map] at count
    refine cut_block (directs_macroTag plain.1 plain.2.1 (by omega))
      (cut_nodes body plain.2.2 (by omega)) ?_
    rintro _ span ps end' ⟨params', rfl, all⟩ builds
    refine builds.block (fun _ => rfl) (fun found same => ?_) end'
    have names := params_unspanned all
    simp only [OpenBlock.close, OpenBlock.nodes, List.reverse_reverse, Node.unspanned, same, names]
  | .inclusion template args => fun plain fits => by
    simp only [Printer.node, Printer.tag, List.length_append] at fits
    refine cut_leaf (directs_include plain.1 (by omega) plain.2 (by omega)) ?_
    rintro _ span ⟨_, found, rfl, ⟨template', rfl, same⟩, all⟩
    obtain ⟨args', checked, same'⟩ := checkArgs_agrees all
    have adds (a : Assembly) : a.addTag span (.inclusion (.ok template') found)
        = .ok (a.add (.inclusion template' args')) := by
      rw [Assembly.addTag, checked]
      rfl
    exact .tag adds (by rw [Node.unspanned, same, same', Node.unspanned])

theorem cut_nodes : ∀ nodes : List Node, Node.PrintableAll nodes →
    (Printer.nodes nodes).length ≤ limit → Cut limit AtMark (Printer.nodes nodes) (Builds nodes)
  | [] => fun _ _ => .nil .nil
  | node :: nodes => fun plain fits => by
    simp only [Printer.nodes, List.length_append] at fits
    have others : Cut limit AtMark (Printer.between node nodes ++ Printer.nodes nodes) (Builds nodes) :=
      (cut_between node nodes).append (cut_nodes nodes plain.2 (by omega)) (fun _ _ => trivial)
        fun _ _ => Builds.append
    rw [Printer.nodes, List.append_assoc]
    exact (cut_node node plain.1 (by omega)).append others
      (fun _ last => follows_between node nodes last) fun _ _ => Builds.append

theorem cut_alternatives : ∀ rest : Alternatives, rest.Printable →
    (Printer.alternatives rest).length ≤ limit →
    Cut limit (fun _ => True) (Printer.alternatives rest) (Joins rest)
  | .done => fun _ _ => by
    refine cut_end.imp ?_
    rintro _ ⟨end', rfl⟩
    exact .done end'
  | .otherwise body => fun plain fits => by
    simp only [Printer.alternatives, List.length_append] at fits
    refine cut_block directs_else (cut_nodes body plain (by omega)) ?_
    rintro _ span ps end' rfl builds
    exact .otherwise builds span end'
  | .elsif test body rest => fun plain fits => by
    simp only [Printer.alternatives, Printer.tag, List.length_append] at fits
    refine cut_section (directs_elsif plain.1 (by omega)) (cut_nodes body plain.2.1 (by omega))
      (cut_alternatives rest plain.2.2 (by omega)) (atMark_alternatives rest) ?_
    rintro _ span ps qs ⟨_, rfl, test', rfl, same⟩ builds joins
    exact .elsif same builds joins span

end

theorem scan_print {body : List Node} (plain : Node.PrintableAll body) :
    ∃ pieces, Piece.scan (String.ofList (Printer.nodes body)) = .ok pieces ∧ Builds body pieces := by
  have enough := Nat.le_succ (Printer.nodes body).length
  obtain ⟨count, few, cut⟩ := cut_nodes body plain enough
  have none : (many ((Printer.nodes body).length + 1 - count)
      (Piece.one ((Printer.nodes body).length + 1))).Reads [] [] fun found => found = [] :=
    reads_many_nil fun _ => rfl
  have read := cut [] (.inl rfl) _ _ none
  rw [Nat.sub_add_cancel (by omega), List.append_nil] at read
  obtain ⟨_, o, read, pieces, _, rfl, builds, rfl⟩ := reads_pieces read 0
  rw [List.append_nil] at read
  refine ⟨pieces, ?_, builds⟩
  simp only [Piece.scan, Cursor.ofString, String.toList_ofList, read]

/-- Parsing inverts printing: what is parsed is the template, up to spans. -/
theorem Template.parse_print (t : Template) (h : t.Printable) :
    ∃ t', Template.parse t.name t.print = .ok t' ∧ t'.unspanned = t.unspanned := by
  obtain ⟨pieces, scanned, found, same, adds⟩ := scan_print h
  have assembled : Piece.assemble pieces = .ok found := by
    rw [Piece.assemble, adds, Assembly.empty, Assembly.foldl_add_root, List.append_nil]
    exact congrArg Except.ok (List.reverse_reverse found)
  refine ⟨⟨t.name, found⟩, ?_, ?_⟩
  · have body : (do
        let pieces ← Piece.scan t.print
        Piece.assemble pieces) = .ok found := by
      rw [Template.print, scanned]
      exact assembled
    simp only [Template.parse, body]
  · rw [Template.unspanned, same, Template.unspanned]

namespace Template

/-- Two texts after each other, quotes and marks of tags in a literal, and a field that
is called as a keyword. -/
def letter : Template where
  name := "letter"
  body := [
    .text "Dear ", .text "[reader]\n",
    .branch (.binary .eq (.attr (.var "user") "END") (.literal (.str "\"%]\\")))
      [.print (.filter (.var "user") "upper" default)] (.otherwise [.text "?"]),
    .foreach "item" (.list [.literal (.int 1), .unary .not (.literal .undef)])
      [.inclusion (.literal (.str "row")) [("value", .var "item")]]]

example : letter.print
    = "Dear [%# %][reader]\n[% IF (((user).END) == (\"\\\"%]\\\\\")) %][% ((user)|upper) %]"
      ++ "[% ELSE %]?[% END %][% FOREACH item IN ([(1), (!(undef))]) %]"
      ++ "[% INCLUDE (\"row\") WITH value = (item) %][% END %]" := by
  decide +kernel

theorem parse_print_letter : letter.Printable ∧
    ∃ t', Template.parse letter.name letter.print = .ok t' ∧ t'.unspanned = letter.unspanned := by
  have chars {name : String} (all : name.toList.all Token.isWordChar = true) :
      ∀ c ∈ name.toList, c.isAlphanum ∨ c = '_' := fun c member =>
    isWordChar_iff.mp (List.all_eq_true.mp all c member)
  have user : IsIdentifier "user" := ⟨⟨'u', _, rfl, .inl rfl⟩, chars rfl, by decide⟩
  have upper : IsIdentifier "upper" := ⟨⟨'u', _, rfl, .inl rfl⟩, chars rfl, by decide⟩
  have item : IsIdentifier "item" := ⟨⟨'i', _, rfl, .inl rfl⟩, chars rfl, by decide⟩
  have value : IsIdentifier "value" := ⟨⟨'v', _, rfl, .inl rfl⟩, chars rfl, by decide⟩
  have field : IsFieldName "END" := ⟨by decide, chars rfl⟩
  have dear : IsPlainText "Dear " := ⟨by decide, by simp [List.infix_cons_iff]⟩
  have reader : IsPlainText "[reader]\n" := ⟨by decide, by simp [List.infix_cons_iff]⟩
  have unknown : IsPlainText "?" := ⟨by decide, by simp [List.infix_cons_iff]⟩
  have plain : letter.Printable := by
    refine ⟨dear, reader, ⟨⟨⟨user, field⟩, trivial⟩, ⟨⟨user, upper⟩, trivial⟩, unknown, trivial⟩,
      ?_, trivial⟩
    have one : (Literal.int 1).Printable := show (0 : Int64) ≤ 1 by decide
    refine ⟨item, ⟨one, trivial, trivial⟩, ⟨trivial, ?_⟩, trivial⟩
    simpa using ⟨value, item⟩
  exact ⟨plain, Template.parse_print letter plain⟩

end Template
end TemplateEngine
