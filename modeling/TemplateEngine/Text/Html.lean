/-!
# Escaping for HTML

The five characters with a meaning in HTML text or quoted attributes are
replaced by entities, all others stay. The escaped text therefore holds none of
`<`, `>`, `"` and `'`.
-/

namespace TemplateEngine.Text

def htmlEntity : Char → List Char
  | '&' => ['&', 'a', 'm', 'p', ';']
  | '<' => ['&', 'l', 't', ';']
  | '>' => ['&', 'g', 't', ';']
  | '"' => ['&', 'q', 'u', 'o', 't', ';']
  | '\'' => ['&', '#', 'x', '2', '7', ';']
  | c => [c]

def escapeHtml (s : String) : String := String.ofList (s.toList.flatMap htmlEntity)

@[simp] theorem toList_escapeHtml (s : String) :
    (escapeHtml s).toList = s.toList.flatMap htmlEntity := by
  simp [escapeHtml]

theorem htmlEntity_markup_free (c d : Char) (h : d ∈ htmlEntity c) :
    d ≠ '<' ∧ d ≠ '>' ∧ d ≠ '"' ∧ d ≠ '\'' := by
  unfold htmlEntity at h
  split at h
  case h_6 => simp_all
  all_goals
    simp only [List.mem_cons, List.not_mem_nil, or_false] at h
    grind

end TemplateEngine.Text
