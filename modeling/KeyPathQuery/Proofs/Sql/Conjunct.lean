import KeyPathQuery.Proofs.Sql.ConditionText
import KeyPathQuery.Proofs.Sql.PlainExpression

/-!
Predicates that stay whole in a condition. The text of a condition is split into its conjuncts at
every AND at depth zero, so a predicate stays whole if it shows no such AND itself: either it is
nested, or its operands have no space at depth zero and the words between them do not start with
the letter of the mark. This is a check on neighbours (`Guarded`), which can be told piece by
piece of a template (`Template.Clear`), whatever the values are.

Main statements: `Template.conjuncts_fill_join` says that the conjuncts of clear templates joined
by AND are the texts of the templates, and `Expression.IsConjunct.clear` that the predicates of
the SQL dialects are clear.
-/

set_option autoImplicit false
set_option relaxedAutoImplicit false

namespace KeyPathQuery.Sql

/-! ### Templates that show no mark -/

namespace Template

/-- A template that shows no space with the letter of the mark behind it at depth zero, in
whatever style and with whatever values, and does not end with a space either. -/
def Clear (template : Template) : Prop :=
  ∀ style place, Guarded (.outside ' ', 0) (.outside 'A', 0)
    (Lexeme.withDepth 0 (template.lexemes style place))

/-- The results of a function at templates one after another, given the number of the first slot
of each. -/
def each {β : Type} (f : Nat → Template → β) : Nat → List Template → List β
  | _, [] => []
  | place, template :: rest => f place template :: each f (place + template.slots.length) rest

theorem map_each {β γ : Type} (f : Nat → Template → β) (g : β → γ) (place : Nat)
    (templates : List Template) :
    (each f place templates).map g = each (fun place template ↦ g (f place template)) place
      templates := by
  induction templates generalizing place with
  | nil => rfl
  | cons template rest ih => rw [each, List.map_cons, ih, each]

theorem each_ne_nil {β : Type} {f : Nat → Template → β} {place : Nat} {templates : List Template}
    (hne : templates ≠ []) : each f place templates ≠ [] := by
  cases templates with
  | nil => exact absurd rfl hne
  | cons template rest => exact List.cons_ne_nil _ _

theorem forall_mem_each {β : Type} {f : Nat → Template → β} {property : β → Prop}
    {templates : List Template}
    (hproperty : ∀ place, ∀ template ∈ templates, property (f place template)) {place : Nat} :
    ∀ result ∈ each f place templates, property result := by
  induction templates generalizing place with
  | nil => simp [each]
  | cons template rest ih =>
    have hrest := fun place other hother ↦ hproperty place other (List.mem_cons_of_mem _ hother)
    exact List.forall_mem_cons.mpr ⟨hproperty place template List.mem_cons_self, ih hrest⟩

/-- At depth zero the lexemes of sound templates joined by AND are those of the templates with
marks between them. -/
theorem withDepth_join (style : PlaceholderStyle) {templates : List Template}
    (hsound : ∀ template ∈ templates, template.Sound) (place : Nat) :
    Lexeme.withDepth 0 ((join " AND ".toList templates).lexemes style place) =
      List.intercalate conjunctMark
        (each (fun place template ↦ Lexeme.withDepth 0 (template.lexemes style place)) place
          templates) := by
  induction templates generalizing place with
  | nil => rfl
  | cons template rest ih =>
    obtain ⟨hfirst, hrest⟩ := List.forall_mem_cons.mp hsound
    cases rest with
    | nil => rw [join, each, each, List.intercalate_singleton]
    | cons next others =>
      have hbalanced := hfirst.balanced style place 0
      have hmark : Lexeme.depthAfter 0 (Lexeme.ofCode " AND ".toList) = some 0 := by decide
      have hothers := ih hrest (place + template.slots.length)
      simp only [each] at hothers ⊢
      rw [join, lexemes_append, lexemes, Lexeme.withDepth_append hbalanced,
        Lexeme.withDepth_append hmark, hothers, List.intercalate_cons_cons, List.append_assoc]
      rfl

/-- The conjuncts of clear templates joined by AND are the texts of the templates. -/
theorem conjuncts_fill_join (style : PlaceholderStyle) (place : Nat) {templates : List Template}
    (hne : templates ≠ []) (hsound : ∀ template ∈ templates, template.Sound)
    (hclear : ∀ template ∈ templates, template.Clear) :
    conjuncts ((join " AND ".toList templates).fill style.slotText place) =
      some (each (fun place template ↦ template.fill style.slotText place) place templates) := by
  have hjoin : (join " AND ".toList templates).Sound :=
    Sound.join (.of_all (by decide)) ⟨' ', rfl, by decide⟩ hsound
  have hpieces : splitAtMark conjunctMark (List.intercalate conjunctMark
      (each (fun place template ↦ Lexeme.withDepth 0 (template.lexemes style place)) place
        templates)) =
      each (fun place template ↦ Lexeme.withDepth 0 (template.lexemes style place)) place
        templates :=
    splitAtMark_intercalate (each_ne_nil hne) (forall_mem_each fun place template hmem ↦
      hclear template hmem style place)
  rw [conjuncts, hjoin.orderly.read_fill, Option.map_some, withDepth_join style hsound, hpieces,
    map_each]
  simp only [Lexeme.map_fst_withDepth, textOf_lexemes]

/-! ### Clear templates -/

variable {first second rest : Template} {chars : Text}

theorem Clear.nil : Clear [] :=
  fun _ _ ↦ .nil

theorem Clear.append (hfirst : Clear first) (hsound : Sound first) (hsecond : Clear second) :
    Clear (first ++ second) := by
  intro style place
  rw [lexemes_append, Lexeme.withDepth_append (hsound.balanced style place 0)]
  exact (hfirst style place).append (hsecond style _)

theorem IsFlatCode.withDepth_ofCode (hchars : IsFlatCode chars) :
    Lexeme.withDepth 0 (Lexeme.ofCode chars) = chars.map fun c ↦ (.outside c, 0) := by
  have hopening : .outside '(' ∉ Lexeme.ofCode chars := by
    intro hmem
    exact hchars.noOpening (Lexeme.mem_ofCode.mp hmem)
  have hclosing : .outside ')' ∉ Lexeme.ofCode chars := by
    intro hmem
    exact hchars.noClosing (Lexeme.mem_ofCode.mp hmem)
  rw [Lexeme.withDepth_of_notMem hopening hclosing]
  exact List.map_map

theorem outside_zero_injective :
    Function.Injective fun c : Char ↦ (Lexeme.outside c, (0 : Nat)) := by
  intro c d h
  exact Lexeme.outside.inj (Prod.ext_iff.mp h).1

theorem Clear.cons_code (hchars : IsFlatCode chars) (hguarded : Guarded ' ' 'A' chars)
    (hrest : Clear rest) : Clear (.code chars :: rest) := by
  intro style place
  rw [lexemes, Lexeme.withDepth_append (hchars.balanced 0), hchars.withDepth_ofCode]
  exact (hguarded.map outside_zero_injective).append (hrest style place)

/-- That a template goes on with another letter than that of the mark. -/
def GoesOn (template : Template) : Prop :=
  ∀ style place, ∃ lexeme ∈ (template.lexemes style place).head?, lexeme ≠ .outside 'A'

theorem GoesOn.append (hfirst : GoesOn first) (second : Template) : GoesOn (first ++ second) := by
  intro style place
  obtain ⟨lexeme, hhead, hlexeme⟩ := hfirst style place
  refine ⟨lexeme, ?_, hlexeme⟩
  rw [lexemes_append, List.head?_append, Option.mem_def.mp hhead]
  rfl

theorem head?_ofCode {text : Text} (hne : text ≠ []) {property : Char → Bool}
    (htext : ∀ c ∈ text, property c = true) (hletter : property 'A' = false) :
    ∃ lexeme ∈ (Lexeme.ofCode text).head?, lexeme ≠ .outside 'A' := by
  cases text with
  | nil => exact absurd rfl hne
  | cons c others =>
    refine ⟨.outside c, rfl, ?_⟩
    rintro hc
    obtain rfl := Lexeme.outside.inj hc
    exact Bool.false_ne_true (hletter.symm.trans (htext _ List.mem_cons_self))

/-- No value starts with the letter of the mark, since the words for values that are not texts are
others. -/
theorem GoesOn.slot (value : Json) : GoesOn [.slot value] := by
  intro style place
  rw [lexemes, lexemes, List.append_nil]
  cases style with
  | questionMark => exact ⟨_, rfl, by decide⟩
  | numbered => exact ⟨_, rfl, by decide⟩
  | inline =>
    cases value with
    | null => exact ⟨_, rfl, by decide⟩
    | boolean flag => cases flag <;> exact ⟨_, rfl, by decide⟩
    | number number =>
      exact head?_ofCode number.text_ne_nil (Json.isNumberChar_of_mem_text number) (by decide)
    | string | array | object => exact ⟨_, rfl, by simp⟩

theorem GoesOn.literal (content : Text) : GoesOn [.literal content] :=
  fun _ _ ↦ ⟨_, rfl, by simp⟩

/-- Code that ends with a space may stand before what goes on with another letter. -/
theorem Clear.cons_code_of_goesOn (hchars : IsFlatCode chars)
    (happart : chars.IsChain fun c d ↦ c = ' ' → d ≠ 'A') (hgoesOn : GoesOn rest)
    (hrest : Clear rest) : Clear (.code chars :: rest) := by
  intro style place
  rw [lexemes, Lexeme.withDepth_append (hchars.balanced 0), hchars.withDepth_ofCode]
  obtain ⟨lexeme, hhead, hlexeme⟩ := hgoesOn style place
  refine Guarded.append_of_head (isChain_map_of_injective outside_zero_injective happart)
    (Lexeme.mem_head?_withDepth hhead 0) ?_ (hrest style place)
  intro htagged
  exact hlexeme (Prod.ext_iff.mp htagged).1

theorem Clear.literal (content : Text) : Clear [.literal content] := by
  intro style place
  exact Guarded.of_notMem (by simp [lexemes, Lexeme.withDepth])

theorem Clear.slot (value : Json) : Clear [.slot value] := by
  intro style place
  apply Guarded.of_notMem
  intro hmem
  have hspace : Lexeme.outside ' ' ∈
      (Lexeme.withDepth 0 (lexemes style place [.slot value])).map Prod.fst :=
    List.mem_map_of_mem hmem
  rw [Lexeme.map_fst_withDepth] at hspace
  exact notMem_lexemes_slot (by decide) style place value hspace

/-- What stands between parentheses does not stand at depth zero. -/
theorem Clear.enclosed (hchars : IsFlatCode chars) (hguarded : Guarded ' ' 'A' (chars ++ ['(']))
    (hrest : Sound rest) : Clear (.code (chars ++ ['(']) :: (rest ++ [.code [')']])) := by
  intro style place
  have hopening : Lexeme.depthAfter 0 (Lexeme.ofCode (chars ++ ['('])) = some 1 := by
    rw [Lexeme.ofCode_append, Lexeme.depthAfter_append, hchars.balanced 0]
    rfl
  have hdepth : Lexeme.withDepth 0 (Lexeme.ofCode (chars ++ ['('])) =
      (chars ++ ['(']).map fun c ↦ (.outside c, 0) := by
    rw [Lexeme.ofCode_append, Lexeme.withDepth_append (hchars.balanced 0),
      hchars.withDepth_ofCode, List.map_append]
    rfl
  have hinner : ∀ tagged ∈ Lexeme.withDepth 1 (rest.lexemes style place), 1 ≤ tagged.2 :=
    Lexeme.le_of_mem_withDepth (hrest.balanced style place 0) 1
  rw [lexemes, lexemes_append, Lexeme.withDepth_append hopening, hdepth,
    Lexeme.withDepth_append (hrest.balanced style place 1)]
  refine (hguarded.map outside_zero_injective).append (Guarded.append ?_ ?_)
  · exact Guarded.of_notMem fun hmem ↦ absurd (hinner _ hmem) (by decide)
  · exact Guarded.of_notMem (by simp [lexemes, Lexeme.ofCode, Lexeme.withDepth])

end Template

open Template

/-! ### Operands and conjuncts -/

theorem guarded_of_names {chars : Text} (hchars : ∀ c ∈ chars, isNameChar c = true) :
    Guarded ' ' 'A' chars :=
  Guarded.of_notMem fun hmem ↦ absurd (hchars ' ' hmem) (by decide)

theorem Expression.IsOperand.clear {expression : Expression} (hoperand : expression.IsOperand) :
    expression.template.Clear := by
  induction hoperand with
  | column htable hname =>
    have hnames := isNameChar_of_mem_qualifiedText htable hname
    exact Clear.nil.cons_code (.of_names hnames) (guarded_of_names hnames)
  | string content => exact Clear.literal content
  | @call function arguments hfunction harguments =>
    have hsound : ∀ template ∈ templateList arguments, template.Sound := by
      rw [templateList_eq_map]
      exact List.forall_mem_map.mpr fun argument hargument ↦ (harguments argument hargument).sound
    have hspace : ' ' ∉ function ++ ['('] := by
      rw [List.mem_append]
      rintro (hmem | hmem)
      · exact absurd (isIdentifierChar_of_mem hfunction hmem) (by decide)
      · exact absurd hmem (by decide)
    exact Clear.enclosed (.of_isIdentifier hfunction) (Guarded.of_notMem hspace)
      (sound_join_comma hsound)
  | jsonAccess asText htarget _ ihtarget ihpath =>
    refine ihtarget.append htarget.isPlain.sound (ihpath.cons_code (isFlatCode_arrow asText) ?_)
    cases asText <;> exact Guarded.of_notMem (by decide)

theorem BinaryOperator.isChain_text {operator : BinaryOperator} (hnamed : operator.isNamed = true)
    (hand : operator ≠ .and) :
    ([' '] ++ operator.text ++ [' ']).IsChain fun c d ↦ c = ' ' → d ≠ 'A' := by
  cases operator with
  | custom text => cases hnamed
  | and => exact absurd rfl hand
  | equal | notEqual | less | lessOrEqual | greater | greaterOrEqual => decide

/-- A conjunct shows no mark, whatever its values are. -/
theorem Expression.IsConjunct.clear {expression : Expression} (hconjunct : expression.IsConjunct) :
    expression.template.Clear := by
  cases hconjunct with
  | compare value hnamed hand hleft =>
    exact hleft.clear.append hleft.isPlain.sound
      ((Clear.slot value).cons_code_of_goesOn (BinaryOperator.isFlatCode_of_isNamed hnamed)
        (BinaryOperator.isChain_text hnamed hand) (.slot value))
  | never =>
    intro style place
    have hlexemes : alwaysFalse.template.lexemes style place = Lexeme.ofCode "1 = 0".toList := by
      rfl
    rw [hlexemes]
    exact ⟨by decide, by decide⟩
  | like value escape htarget =>
    have hescape : Clear [.code " ESCAPE ".toList, .literal [escape]] :=
      (Clear.literal [escape]).cons_code_of_goesOn (.of_all (by decide)) (by decide)
        (.literal [escape])
    have hpattern := (Clear.slot value).append (Sound.slot value) hescape
    have hgoesOn := (GoesOn.slot value).append [.code " ESCAPE ".toList, .literal [escape]]
    exact htarget.clear.append htarget.isPlain.sound
      (hpattern.cons_code_of_goesOn (.of_all (by decide)) (by decide) hgoesOn)
  | @inList target items htarget hitems =>
    have hsound : ∀ template ∈ templateList items, template.Sound := by
      rw [templateList_eq_map]
      exact List.forall_mem_map.mpr fun item hitem ↦ (hitems item hitem).sound
    have hlist : Clear (.code (" IN ".toList ++ ['(']) ::
        (Template.join ", ".toList (templateList items) ++ [.code [')']])) :=
      Clear.enclosed (.of_all (by decide)) ⟨by decide, by decide⟩ (sound_join_comma hsound)
    exact htarget.clear.append htarget.isPlain.sound hlist
  | isNotNull hoperand =>
    exact hoperand.clear.append hoperand.isPlain.sound
      (Clear.nil.cons_code (.of_all (by decide)) ⟨by decide, by decide⟩)
  | nested hinner => exact Clear.enclosed .nil ⟨by decide, by decide⟩ hinner.sound

end KeyPathQuery.Sql
