import Mathlib.Data.List.Basic
import StressBatch.Directive

/-!
# The text of a directive file

Patterns are written into a directive file as they are, between quotes. As long as no pattern has a
quote in it the text determines the rules: every directive shows by its first characters what it is
and ends where its last characters say so, and what stands behind it is no part of it.
-/

namespace StressBatch

/-! ## Patterns without quotes -/

/-- Whether a directive has a pattern with a quote in it. -/
def Directive.QuoteFree : Directive → Prop
  | .inlining _ pattern => '"' ∉ pattern.toList
  | _ => True

instance : (directive : Directive) → Decidable directive.QuoteFree
  | .inlining _ pattern => inferInstanceAs (Decidable ('"' ∉ pattern.toList))
  | .exclude _ | .printAssembly | .backgroundCompilation _ => inferInstanceAs (Decidable True)

/-- Whether neither the pattern of a rule nor those of its directives have a quote in them. -/
def Rule.QuoteFree (rule : Rule) : Prop :=
  '"' ∉ rule.pattern.toList ∧ ∀ directive ∈ rule.directives, directive.QuoteFree

instance (rule : Rule) : Decidable rule.QuoteFree := instDecidableAnd

namespace DirectiveSet

/-- Whether no pattern in a directive file has a quote in it. -/
def QuoteFree (set : DirectiveSet) : Prop := ∀ rule ∈ set.rules, rule.QuoteFree

instance (set : DirectiveSet) : Decidable set.QuoteFree := List.decidableBAll _ _

/-! ## Spellings that can be told apart -/

section ReadingOff

variable {α : Type} {admitted : α → Prop} {spell : α → List Char}

/-- Whether a spelling with any text behind it determines what has been spelled, and the text. -/
def ReadsOff (admitted : α → Prop) (spell : α → List Char) : Prop :=
  ∀ a b, admitted a → admitted b → ∀ rest more, spell a ++ rest = spell b ++ more →
    a = b ∧ rest = more

/-- Spellings one behind the other can be read off if an end mark tells where they stop, and none of
them begins like it. -/
theorem ReadsOff.list (h : ReadsOff admitted spell) {stop : List Char}
    (hstop : ∀ a rest more, spell a ++ rest ≠ stop ++ more) :
    ReadsOff (fun items : List α => ∀ a ∈ items, admitted a)
      (fun items => items.flatMap spell ++ stop) := by
  intro items others hitems hothers rest more heq
  induction items generalizing others with
  | nil =>
    cases others with
    | nil => exact ⟨rfl, List.append_cancel_left heq⟩
    | cons b others =>
      simp only [List.flatMap_nil, List.nil_append, List.flatMap_cons, List.append_assoc] at heq
      exact absurd heq.symm (hstop b _ _)
  | cons a items ih =>
    cases others with
    | nil =>
      simp only [List.flatMap_nil, List.nil_append, List.flatMap_cons, List.append_assoc] at heq
      exact absurd heq (hstop a _ _)
    | cons b others =>
      obtain ⟨ha, hitems⟩ := List.forall_mem_cons.mp hitems
      obtain ⟨hb, hothers⟩ := List.forall_mem_cons.mp hothers
      simp only [List.flatMap_cons, List.append_assoc] at heq
      obtain ⟨hsame, hbehind⟩ := h a b ha hb _ _ heq
      obtain ⟨hbehind, hrest⟩ := ih others hitems hothers (by simpa using hbehind)
      exact ⟨by rw [hsame, hbehind], hrest⟩

/-- A pattern with the quote behind it. -/
def closed (pattern : String) : List Char := pattern.toList ++ ['"']

/-- A pattern is what stands in front of the first quote. -/
theorem takeWhile_closed {pattern : String} (h : '"' ∉ pattern.toList) (rest : List Char) :
    (closed pattern ++ rest).takeWhile (· != '"') = pattern.toList := by
  have hall : ∀ c ∈ pattern.toList, (c != '"') = true := by
    intro c hc
    rw [bne_iff_ne]
    rintro rfl
    exact h hc
  rw [closed, List.append_assoc, List.takeWhile_append_of_pos hall]
  simp

theorem readsOff_closed : ReadsOff (fun pattern : String => '"' ∉ pattern.toList) closed := by
  intro pattern other hpattern hother rest more heq
  have hfront := congrArg (List.takeWhile (· != '"')) heq
  rw [takeWhile_closed hpattern, takeWhile_closed hother] at hfront
  obtain rfl := String.toList_inj.mp hfront
  exact ⟨rfl, List.append_cancel_left heq⟩

end ReadingOff

/-! ## Directives -/

/-- The directives without a pattern. -/
def plainDirectives : List Directive :=
  [.exclude .tier1, .exclude .tier2, .printAssembly, .backgroundCompilation true,
    .backgroundCompilation false]

theorem inlining_or_plain (directive : Directive) :
    (∃ force pattern, directive = .inlining force pattern) ∨ directive ∈ plainDirectives := by
  cases directive with
  | inlining force pattern => exact .inl ⟨force, pattern, rfl⟩
  | exclude tier => cases tier <;> exact .inr (by decide)
  | printAssembly => exact .inr (by decide)
  | backgroundCompilation on => cases on <;> exact .inr (by decide)

/-- No directive without a pattern is spelled like the beginning of another. -/
theorem eq_of_isPrefix : ∀ directive ∈ plainDirectives, ∀ other ∈ plainDirectives,
    (directiveText directive).toList <+: (directiveText other).toList → directive = other := by
  decide

/-- The sign in front of the pattern of methods that are always, or never, inlined. -/
def sign (force : Bool) : Char := if force then '+' else '-'

theorem toList_sign (force : Bool) : (if force then "+" else "-").toList = [sign force] := by
  cases force <;> rfl

theorem sign_inj : ∀ {force other : Bool}, sign force = sign other → force = other := by
  decide

theorem toList_inlining (force : Bool) (pattern : String) :
    (directiveText (.inlining force pattern)).toList =
      "    inline: \"".toList ++ sign force :: (closed pattern ++ ",\n".toList) := by
  have htext : directiveText (.inlining force pattern) =
      "    inline: \"" ++ (if force then "+" else "-") ++ pattern ++ "\",\n" := rfl
  simp [htext, toList_sign, closed]

/-- The fifth character tells a directive with a pattern from one without. -/
theorem inlining_ne_plain {force : Bool} {pattern : String} {plain : Directive}
    (hplain : plain ∈ plainDirectives) (rest more : List Char) :
    (directiveText (.inlining force pattern)).toList ++ rest ≠
      (directiveText plain).toList ++ more := by
  intro heq
  have hfifth : ∀ plain ∈ plainDirectives,
      4 < (directiveText plain).toList.length ∧ (directiveText plain).toList[4]? ≠ some 'i' := by
    decide
  obtain ⟨hlength, hother⟩ := hfifth plain hplain
  have hget := congrArg (fun text : List Char => text[4]?) heq
  rw [List.getElem?_append_left hlength, toList_inlining] at hget
  exact hother (hget.symm.trans rfl)

theorem readsOff_directive :
    ReadsOff Directive.QuoteFree (fun directive => (directiveText directive).toList) := by
  intro directive other hdirective hother rest more heq
  rcases inlining_or_plain directive with ⟨force, pattern, rfl⟩ | hplain
  · rcases inlining_or_plain other with ⟨force', pattern', rfl⟩ | hplain'
    · simp only [toList_inlining, List.append_assoc, List.cons_append] at heq
      obtain ⟨hsign, hbehind⟩ := List.cons.inj (List.append_cancel_left heq)
      obtain ⟨rfl, hrest⟩ := readsOff_closed pattern pattern' hdirective hother _ _ hbehind
      exact ⟨by rw [sign_inj hsign], List.append_cancel_left hrest⟩
    · exact absurd heq (inlining_ne_plain hplain' rest more)
  · rcases inlining_or_plain other with ⟨force', pattern', rfl⟩ | hplain'
    · exact absurd heq.symm (inlining_ne_plain hplain more rest)
    · have hsame : directive = other := by
        rcases List.prefix_or_prefix_of_prefix (List.prefix_append _ rest)
          (heq ▸ List.prefix_append _ more) with h | h
        · exact eq_of_isPrefix directive hplain other hplain' h
        · exact (eq_of_isPrefix other hplain' directive hplain h).symm
      subst hsame
      exact ⟨rfl, List.append_cancel_left heq⟩

theorem directiveText_indented (directive : Directive) :
    ∃ line, (directiveText directive).toList = [' ', ' ', ' ', ' '] ++ line := by
  rcases inlining_or_plain directive with ⟨force, pattern, rfl⟩ | hplain
  · exact ⟨_, toList_inlining force pattern⟩
  · have hindent : ∀ plain ∈ plainDirectives,
        [' ', ' ', ' ', ' '] <+: (directiveText plain).toList := by
      decide
    obtain ⟨line, hline⟩ := hindent directive hplain
    exact ⟨line, hline.symm⟩

/-! ## Rules and files -/

/-- What stands behind the directives of a rule. -/
def ruleEnd : List Char := "  \x7d,\n".toList

/-- What stands behind the rules of a file. -/
def fileEnd : List Char := "]\n".toList

/-- The directives of a rule, up to the end of the rule. -/
def directivesText (directives : List Directive) : List Char :=
  directives.flatMap (fun directive => (directiveText directive).toList) ++ ruleEnd

/-- The rules of a file, up to the end of the file. -/
def rulesText (rules : List Rule) : List Char :=
  rules.flatMap (fun rule => (ruleText rule).toList) ++ fileEnd

theorem toList_ruleText (rule : Rule) :
    (ruleText rule).toList = "  \x7b\n    match: \"".toList ++ (closed rule.pattern ++
      (",\n".toList ++ directivesText rule.directives)) := by
  have htext : ruleText rule = "  \x7b\n    match: \"" ++ rule.pattern ++ "\",\n" ++
      String.join (rule.directives.map directiveText) ++ "  \x7d,\n" := rfl
  simp [htext, String.toList_join, List.flatMap_map, closed, directivesText, ruleEnd]

theorem toList_render (set : DirectiveSet) :
    (render set).toList = "[\n".toList ++ rulesText set.rules := by
  have htext : render set = "[\n" ++ String.join (set.rules.map ruleText) ++ "]\n" := rfl
  simp [htext, String.toList_join, List.flatMap_map, rulesText, fileEnd]

theorem readsOff_directives :
    ReadsOff (fun directives : List Directive => ∀ directive ∈ directives, directive.QuoteFree)
      directivesText := by
  refine readsOff_directive.list fun directive rest more heq => ?_
  obtain ⟨line, hline⟩ := directiveText_indented directive
  rw [hline] at heq
  simp [ruleEnd] at heq

theorem readsOff_rule : ReadsOff Rule.QuoteFree (fun rule => (ruleText rule).toList) := by
  rintro ⟨pattern, directives⟩ ⟨pattern', directives'⟩ hrule hother rest more heq
  simp only [toList_ruleText, List.append_assoc] at heq
  obtain ⟨rfl, hbehind⟩ := readsOff_closed _ _ hrule.1 hother.1 _ _
    (List.append_cancel_left heq)
  obtain ⟨rfl, hrest⟩ := readsOff_directives _ _ hrule.2 hother.2 _ _
    (List.append_cancel_left hbehind)
  exact ⟨rfl, hrest⟩

theorem readsOff_rules :
    ReadsOff (fun rules : List Rule => ∀ rule ∈ rules, rule.QuoteFree) rulesText := by
  refine readsOff_rule.list fun rule rest more heq => ?_
  rw [toList_ruleText] at heq
  simp [fileEnd] at heq

/-- Directive files without a quote in their patterns have the same text exactly if they have the
same rules, so the rules can be recovered from the text. -/
theorem render_eq_iff {set other : DirectiveSet} (hset : set.QuoteFree) (hother : other.QuoteFree) :
    set.render = other.render ↔ set = other := by
  constructor
  · intro htext
    have hchars := congrArg String.toList htext
    rw [toList_render, toList_render] at hchars
    have hrules := List.append_cancel_left hchars
    obtain ⟨hsame, -⟩ := readsOff_rules _ _ hset hother [] [] (by simpa using hrules)
    cases set
    cases other
    exact congrArg DirectiveSet.mk hsame
  · rintro rfl
    rfl

/-- A rule whose pattern looks like a rule with a directive. -/
def lookalike : DirectiveSet := ⟨[⟨"a,\n    PrintAssembly: true", []⟩]⟩

/-- The rule that it looks like. -/
def original : DirectiveSet := ⟨[⟨"a", [.printAssembly]⟩]⟩

theorem render_ne_of_lookalike :
    lookalike.QuoteFree ∧ original.QuoteFree ∧ lookalike.render ≠ original.render := by
  have hlookalike : lookalike.QuoteFree := by decide
  have horiginal : original.QuoteFree := by decide
  have hne : lookalike ≠ original := by decide
  exact ⟨hlookalike, horiginal, fun h => hne ((render_eq_iff hlookalike horiginal).mp h)⟩

/-- With a quote in a pattern the text can be that of other rules. -/
example : render ⟨[⟨"a\",\n    inline: \"+b", []⟩]⟩ = render ⟨[⟨"a", [.inlining true "b"]⟩]⟩ := by
  decide

end DirectiveSet

end StressBatch
