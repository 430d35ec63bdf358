import TemplateEngine.Proofs.Template.Expressions
import TemplateEngine.Template.Piece

/-!
# Reading printed tags

The first word of a tag says what it is. As words are read whole, the readers of all
other tags fail on it. An expression is the last part of most tags, and the mark at the
end of the tag does not go on with it.
-/

namespace TemplateEngine
namespace Piece

open Reader Expression

variable {limit : Nat} {e : Expr} {name : String} {words rest : List Char}

/-- What the words between the marks of a tag are read as. -/
def Directs (limit : Nat) (words : List Char) (P : Tag → Prop) : Prop :=
  ∀ rest, ∃ mid, skip mid = '%' :: ']' :: rest ∧
    (directive limit).Reads (skip (words ++ ' ' :: '%' :: ']' :: rest)) mid P

theorem reads_tag {P : Tag → Prop} (h : Directs limit words P) (rest : List Char) :
    (firstOf [text, comment, tag limit]).Reads (Printer.tag words ++ rest) rest
      fun kind => ∃ t, kind = .tag t ∧ P t := by
  obtain ⟨mid, left, read⟩ := h rest
  have printed : Printer.tag words ++ rest
      = '[' :: '%' :: ' ' :: (words ++ ' ' :: '%' :: ']' :: rest) := by
    simp [Printer.tag]
  rw [printed]
  refine .later (fun _ => rfl) (.later (fun _ => rfl) (.first (Reads.rule _ ?_)))
  refine (reads_exact ['[', '%'] _).bind fun _ _ => Reads.spaced ?_
  refine read.bind fun t holds => Reads.spaced ?_
  rw [left]
  exact (reads_exact ['%', ']'] rest).bind fun _ _ => .pure ⟨t, rfl, holds⟩

/-- A name and what is read after it. -/
theorem reads_name {β : Type} {next : String → Reader Rule β} {text rest : List Char} {Q : β → Prop}
    (known : IsIdentifier name) (ends : Ends Token.isWordChar text)
    (h : (next name).Reads text rest Q) :
    (Token.identifier >>= next).Reads (skip (name.toList ++ text)) rest Q := by
  rw [known.isRun.skip_word]
  refine (Token.reads_identifier known ends).bind ?_
  rintro _ rfl
  exact h

/-- An expression that is the last part of a tag. -/
theorem reads_last {make : Checked Expr → Tag} (plain : e.Printable)
    (fits : (Printer.parens (Printer.expr e)).length ≤ limit) (rest : List Char) :
    (do space; return make (← expression limit) : Reader Rule Tag).Reads
      (' ' :: (Printer.parens (Printer.expr e) ++ ' ' :: '%' :: ']' :: rest)) ('%' :: ']' :: rest)
      fun t => ∃ found, t = make found ∧ e.Agrees found := by
  apply Reads.spaced
  rw [skip_space, skip_parens]
  have read := reads_expression plain fits (' ' :: '%' :: ']' :: rest) (stops_end rest)
  exact read.thenPure fun found agrees => ⟨found, rfl, agrees⟩

theorem reads_testTag {r kw : Rule} {keyword : String} {make : Checked Expr → Tag}
    (word : IsRun Token.isWordChar keyword.toList) (plain : e.Printable)
    (fits : (Printer.parens (Printer.expr e)).length ≤ limit) (rest : List Char) :
    (testTag limit r kw keyword make).Reads
      (keyword.toList ++ ' ' :: (Printer.parens (Printer.expr e) ++ ' ' :: '%' :: ']' :: rest))
      ('%' :: ']' :: rest) fun t => ∃ found, t = make found ∧ e.Agrees found :=
  Reads.rule _ ((Token.reads_word word (ends_cons rfl)).bind fun _ _ => reads_last plain fits rest)

theorem directs_if (plain : e.Printable) (fits : (Printer.parens (Printer.expr e)).length ≤ limit) :
    Directs limit ("IF ".toList ++ Printer.parens (Printer.expr e))
      fun t => ∃ found, t = .ifTag found ∧ e.Agrees found := by
  intro rest
  refine ⟨'%' :: ']' :: rest, rfl, ?_⟩
  exact .first (reads_testTag (isRun_of_all (by decide) rfl) plain fits rest)

theorem directs_elsif (plain : e.Printable)
    (fits : (Printer.parens (Printer.expr e)).length ≤ limit) :
    Directs limit ("ELSIF ".toList ++ Printer.parens (Printer.expr e))
      fun t => ∃ found, t = .elsifTag found ∧ e.Agrees found := by
  intro rest
  refine ⟨'%' :: ']' :: rest, rfl, .later (fun _ => rfl) ?_⟩
  exact .first (reads_testTag (isRun_of_all (by decide) rfl) plain fits rest)

theorem directs_else : Directs limit "ELSE".toList fun t => t = .elseTag :=
  fun rest => ⟨' ' :: '%' :: ']' :: rest, rfl, fun o => ⟨_, o + 4, rfl, rfl⟩⟩

theorem directs_end : Directs limit "END".toList fun t => t = .endTag :=
  fun rest => ⟨' ' :: '%' :: ']' :: rest, rfl, fun o => ⟨_, o + 3, rfl, rfl⟩⟩

theorem directs_while (plain : e.Printable)
    (fits : (Printer.parens (Printer.expr e)).length ≤ limit) :
    Directs limit ("WHILE ".toList ++ Printer.parens (Printer.expr e))
      fun t => ∃ found, t = .whileTag found ∧ e.Agrees found := by
  intro rest
  refine ⟨'%' :: ']' :: rest, rfl, ?_⟩
  iterate 6 refine .later (fun _ => rfl) ?_
  exact .first (reads_testTag (isRun_of_all (by decide) rfl) plain fits rest)

theorem directs_print (plain : e.Printable)
    (fits : (Printer.parens (Printer.expr e)).length ≤ limit) :
    Directs limit (Printer.parens (Printer.expr e))
      fun t => ∃ found, t = .print found ∧ e.Agrees found := by
  intro rest
  refine ⟨'%' :: ']' :: rest, rfl, ?_⟩
  rw [skip_parens]
  have read := reads_expression plain fits (' ' :: '%' :: ']' :: rest) (stops_end rest)
  rw [parens_append] at read ⊢
  iterate 10 refine .later (fun _ => rfl) ?_
  exact .first (Reads.rule _ (read.thenPure fun found agrees => ⟨found, rfl, agrees⟩))

theorem directs_foreach (known : IsIdentifier name) (plain : e.Printable)
    (fits : (Printer.parens (Printer.expr e)).length ≤ limit) :
    Directs limit ("FOREACH ".toList ++ name.toList ++ " IN ".toList
        ++ Printer.parens (Printer.expr e))
      fun t => ∃ found, t = .foreachTag name found ∧ e.Agrees found := by
  intro rest
  refine ⟨'%' :: ']' :: rest, rfl, ?_⟩
  have printed : "FOREACH ".toList ++ name.toList ++ " IN ".toList
        ++ Printer.parens (Printer.expr e) ++ ' ' :: '%' :: ']' :: rest
      = "FOREACH".toList ++ ' ' :: (name.toList ++ ' ' :: ("IN".toList
        ++ ' ' :: (Printer.parens (Printer.expr e) ++ ' ' :: '%' :: ']' :: rest))) := by
    simp
  rw [printed]
  change Reads _ ("FOREACH".toList ++ _) _ _
  iterate 5 refine .later (fun _ => rfl) ?_
  refine .first (Reads.rule _ ?_)
  refine (Token.reads_word (isRun_of_all (by decide) rfl) (ends_cons rfl)).left.bind fun _ _ => ?_
  refine Reads.spaced (reads_name known (ends_cons rfl) (Reads.spaced ?_))
  refine (Token.reads_word (isRun_of_all (by decide) rfl) (ends_cons rfl)).bind fun _ _ => ?_
  exact reads_last plain fits rest

theorem directs_set (known : IsIdentifier name) (plain : e.Printable)
    (fits : (Printer.parens (Printer.expr e)).length ≤ limit) :
    Directs limit ("SET ".toList ++ name.toList ++ " = ".toList ++ Printer.parens (Printer.expr e))
      fun t => ∃ found, t = .assign name found ∧ e.Agrees found := by
  intro rest
  refine ⟨'%' :: ']' :: rest, rfl, ?_⟩
  have printed : "SET ".toList ++ name.toList ++ " = ".toList
        ++ Printer.parens (Printer.expr e) ++ ' ' :: '%' :: ']' :: rest
      = "SET".toList ++ ' ' :: (name.toList ++ ' ' :: (['=']
        ++ ' ' :: (Printer.parens (Printer.expr e) ++ ' ' :: '%' :: ']' :: rest))) := by
    simp
  rw [printed]
  change Reads _ ("SET".toList ++ _) _ _
  iterate 7 refine .later (fun _ => rfl) ?_
  refine .first (Reads.rule _ ?_)
  refine (Token.reads_word (isRun_of_all (by decide) rfl) (ends_cons rfl)).bind fun _ _ => ?_
  refine Reads.spaced (reads_name known (ends_cons rfl) (Reads.spaced ?_))
  exact (reads_exact ['='] _).bind fun _ _ => reads_last plain fits rest

theorem reads_macroParams {params : List (String × Span)}
    (known : ∀ param ∈ params, IsIdentifier param.1) (fits : params.length ≤ limit + 1)
    (rest : List Char) :
    (macroParams limit).Reads
      (Printer.parens (Printer.commas (params.map fun param => param.1.toList)) ++ rest) rest
      (List.Forall₂ (fun param found => found.1 = param.1) params) := by
  rw [parens_append]
  refine Reads.rule _ ((reads_exact ['('] _).bind fun _ _ => Reads.spaced ?_)
  have close : Ends Token.isWordChar (')' :: rest) ∧ skip (')' :: rest) = ')' :: rest :=
    ⟨ends_cons rfl, rfl⟩
  have read := reads_listed (p := spanned Token.identifier)
    (R := fun param found => found.1 = param.1)
    (fun text => Ends Token.isWordChar text ∧ skip text = text) (fun _ => ⟨ends_cons rfl, rfl⟩)
    close fits (fun _ => rfl) (fun _ => rfl) fun param member text last => by
      rw [(known param member).isRun.skip_word, last.2]
      exact (Token.reads_identifier (known param member) last.1).spanned
  refine read.bind fun found all => Reads.spaced ?_
  exact (reads_exact [')'] rest).bind fun _ _ => .pure all

theorem directs_macroTag {params : List (String × Span)} (known : IsIdentifier name)
    (knownParams : ∀ param ∈ params, IsIdentifier param.1) (fits : params.length ≤ limit + 1) :
    Directs limit ("MACRO ".toList ++ name.toList
        ++ Printer.parens (Printer.commas (params.map fun param => param.1.toList))
        ++ " BLOCK".toList)
      fun t => ∃ found, t = .macroTag name found
        ∧ List.Forall₂ (fun param found => found.1 = param.1) params found := by
  intro rest
  refine ⟨' ' :: '%' :: ']' :: rest, rfl, ?_⟩
  have printed : "MACRO ".toList ++ name.toList
        ++ Printer.parens (Printer.commas (params.map fun param => param.1.toList))
        ++ " BLOCK".toList ++ ' ' :: '%' :: ']' :: rest
      = "MACRO".toList ++ ' ' :: (name.toList
        ++ (Printer.parens (Printer.commas (params.map fun param => param.1.toList))
          ++ ' ' :: ("BLOCK".toList ++ ' ' :: '%' :: ']' :: rest))) := by
    simp
  rw [printed]
  change Reads _ ("MACRO".toList ++ _) _ _
  iterate 8 refine .later (fun _ => rfl) ?_
  refine .first (Reads.rule _ ?_)
  refine (Token.reads_word (isRun_of_all (by decide) rfl) (ends_cons rfl)).bind fun _ _ => ?_
  have ends (text rest : List Char) : Ends Token.isWordChar (Printer.parens text ++ rest) :=
    ends_cons rfl
  refine Reads.spaced (reads_name known (ends _ _) ?_)
  apply Reads.spaced
  rw [skip_parens]
  refine (reads_macroParams knownParams fits _).optional.bind ?_
  rintro _ ⟨found, rfl, all⟩
  refine Reads.spaced ?_
  refine (Token.reads_word (isRun_of_all (by decide) rfl) (ends_cons rfl)).bind fun _ _ => ?_
  exact .pure ⟨found, rfl, all⟩

/-- What was read is the argument, up to spans. -/
def AgreesArg (arg : String × Expr) (found : String × Checked Expr) : Prop :=
  found.1 = arg.1 ∧ arg.2.Agrees found.2

theorem reads_includeArg {arg : String × Expr} (known : IsIdentifier arg.1) (plain : arg.2.Printable)
    (fits : (Printer.parens (Printer.expr arg.2)).length ≤ limit) (stops : Stops (skip rest)) :
    (includeArg limit).Reads (skip (Printer.arg arg ++ rest)) (skip rest) (AgreesArg arg) := by
  have printed : Printer.arg arg ++ rest = arg.1.toList
      ++ ' ' :: (['='] ++ ' ' :: (Printer.parens (Printer.expr arg.2) ++ rest)) := by
    simp [Printer.arg]
  rw [printed]
  apply Reads.rule
  refine reads_name known (ends_cons rfl) (Reads.spaced ?_)
  refine (reads_exact ['='] _).bind fun _ _ => ?_
  apply Reads.spaced
  rw [skip_space, skip_parens]
  exact (reads_expression plain fits rest stops).thenPure fun found agrees => ⟨rfl, agrees⟩

theorem reads_withArgs {args : List (String × Expr)}
    (known : ∀ arg ∈ args, IsIdentifier arg.1 ∧ arg.2.Printable)
    (fits : (Printer.withArgs args).length ≤ limit) (rest : List Char) :
    (optional do
      Token.word .kwWith "WITH"
      space
      separated limit (includeArg limit) : Reader Rule (Option (List (String × Checked Expr)))).Reads
      (skip (Printer.withArgs args ++ ' ' :: '%' :: ']' :: rest)) ('%' :: ']' :: rest)
      fun found => List.Forall₂ AgreesArg args (found.getD []) := by
  cases args with
  | nil =>
    refine (Reads.absent_of_fails fun _ => rfl).imp ?_
    rintro _ rfl
    exact .nil
  | cons arg args =>
    have printed : Printer.withArgs (arg :: args) ++ ' ' :: '%' :: ']' :: rest
        = ' ' :: ("WITH".toList ++ ' ' :: (Printer.commas ((arg :: args).map Printer.arg)
          ++ ' ' :: '%' :: ']' :: rest)) := by
      simp [Printer.withArgs]
    simp only [Printer.withArgs, List.length_append] at fits
    have count := length_commas ((arg :: args).map Printer.arg)
    simp only [List.length_map, List.length_cons] at count
    have stops : Stops (skip (' ' :: '%' :: ']' :: rest)) := stops_end rest
    have read := reads_separated (p := includeArg limit) (R := AgreesArg)
      (fun text => Stops (skip text)) stops_comma stops (show args.length ≤ limit by omega)
      (fun _ => rfl) fun i member text stops => by
        have part := length_le_commas (List.mem_map_of_mem (f := Printer.arg) member)
        simp only [Printer.arg, List.length_append] at part
        exact reads_includeArg (known i member).1 (known i member).2 (by omega) stops
    rw [printed]
    refine ((Token.reads_word (isRun_of_all (by decide) rfl) (ends_cons rfl)).bind fun _ _ =>
      Reads.spaced read).optional.imp ?_
    rintro _ ⟨found, rfl, all⟩
    exact all

theorem directs_include {args : List (String × Expr)} (plain : e.Printable)
    (fits : (Printer.parens (Printer.expr e)).length ≤ limit)
    (known : ∀ arg ∈ args, IsIdentifier arg.1 ∧ arg.2.Printable)
    (fitsArgs : (Printer.withArgs args).length ≤ limit) :
    Directs limit ("INCLUDE ".toList ++ Printer.parens (Printer.expr e) ++ Printer.withArgs args)
      fun t => ∃ found foundArgs, t = .inclusion found foundArgs ∧ e.Agrees found
        ∧ List.Forall₂ AgreesArg args foundArgs := by
  intro rest
  refine ⟨'%' :: ']' :: rest, rfl, ?_⟩
  have printed : "INCLUDE ".toList ++ Printer.parens (Printer.expr e) ++ Printer.withArgs args
        ++ ' ' :: '%' :: ']' :: rest
      = "INCLUDE".toList ++ ' ' :: (Printer.parens (Printer.expr e)
        ++ (Printer.withArgs args ++ ' ' :: '%' :: ']' :: rest)) := by
    simp
  have stops : Stops (skip (Printer.withArgs args ++ ' ' :: '%' :: ']' :: rest)) := by
    cases args with
    | nil => exact stops_end rest
    | cons => exact stops_with _
  rw [printed]
  change Reads _ ("INCLUDE".toList ++ _) _ _
  iterate 9 refine .later (fun _ => rfl) ?_
  refine .first (Reads.rule _ ?_)
  refine (Token.reads_word (isRun_of_all (by decide) rfl) (ends_cons rfl)).bind fun _ _ => ?_
  apply Reads.spaced
  rw [skip_space, skip_parens]
  refine (reads_expression plain fits _ stops).bind fun found agrees => ?_
  apply Reads.spaced
  rw [skip_skip]
  exact (reads_withArgs known fitsArgs rest).thenPure fun foundArgs all =>
    ⟨found, _, rfl, agrees, all⟩

end Piece
end TemplateEngine
