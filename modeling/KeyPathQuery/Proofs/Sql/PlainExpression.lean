import KeyPathQuery.Proofs.Sql.TemplateLexemes

/-!
Plain expressions and statements. An expression is plain if its names are identifiers and its
operators are those of SQL; nothing is asked of its string literals and its values. The template
of a plain expression is sound (`Template.Sound`): it is in order, and it closes the parentheses
that it opens, whatever its literals and values are.

Main statements: `Expression.IsPlain.sound` and `Select.IsPlain.sound`, and
`Select.IsPlain.read_compile`, which says what a reader finds in the text that a store gets.
-/

set_option autoImplicit false
set_option relaxedAutoImplicit false

namespace KeyPathQuery.Sql

/-! ### Sound templates -/

namespace Template

/-- A character of code that is neither a parenthesis nor a hyphen. -/
def isFlatChar (c : Char) : Bool :=
  isCodeChar c && !(['(', ')', '-'].contains c)

/-- Orderly code without parentheses. -/
structure IsFlatCode (chars : Text) : Prop extends IsOrderlyCode chars where
  noOpening : '(' ∉ chars
  noClosing : ')' ∉ chars

/-- A template in order that closes the parentheses it opens, and no other. -/
structure Sound (template : Template) : Prop where
  orderly : Orderly template
  balanced : ∀ style place, Lexeme.Balanced (template.lexemes style place)

variable {first second rest : Template} {chars : Text}

theorem IsFlatCode.of_forall (hchars : ∀ c ∈ chars, isFlatChar c = true) : IsFlatCode chars := by
  have habsent (c : Char) (hc : isFlatChar c = false) : c ∉ chars :=
    fun hmem ↦ Bool.false_ne_true (hc.symm.trans (hchars c hmem))
  exact {
    harmless := fun c hmem ↦ (Bool.and_eq_true_iff.mp (hchars c hmem)).1
    hyphens := Guarded.of_notMem (habsent '-' (by decide))
    noOpening := habsent '(' (by decide)
    noClosing := habsent ')' (by decide) }

/-- A hyphen before code that starts with something else. -/
theorem IsFlatCode.cons_hyphen {c : Char} (hc : c ≠ '-') (hchars : IsFlatCode (c :: chars)) :
    IsFlatCode ('-' :: c :: chars) where
  harmless := List.forall_mem_cons.mpr ⟨by decide, hchars.harmless⟩
  hyphens := hchars.hyphens.cons_cons hc
  noOpening := List.not_mem_cons_of_ne_of_not_mem (by decide) hchars.noOpening
  noClosing := List.not_mem_cons_of_ne_of_not_mem (by decide) hchars.noClosing

theorem IsFlatCode.nil : IsFlatCode [] :=
  .of_forall (by simp)

/-- A character of an identifier, or the point between two of them. -/
def isNameChar (c : Char) : Bool :=
  isIdentifierChar c || c == '.'

theorem isNameChar_of_isIdentifierChar {c : Char} (hc : isIdentifierChar c = true) :
    isNameChar c = true := by
  rw [isNameChar, hc, Bool.true_or]

theorem isFlatChar_of_isNameChar {c : Char} (hc : isNameChar c = true) : isFlatChar c = true := by
  have hsigns : ∀ d ∈ ['(', ')', '-'], (!isNameChar d) = true := List.all_eq_true.mp (by decide)
  have hsign : c ∉ ['(', ')', '-'] := by
    intro hmem
    have hname := hsigns c hmem
    rw [hc] at hname
    cases hname
  have hcode : isCodeChar c = true := by
    rcases Bool.or_eq_true_iff.mp hc with hidentifier | hpoint
    · rw [isCodeChar, hidentifier, Bool.true_or]
    · obtain rfl := beq_iff_eq.mp hpoint
      decide
  rw [isFlatChar, hcode, Bool.true_and, Bool.not_eq_true', List.contains_eq_mem,
    decide_eq_false hsign]

theorem isNameChar_of_mem_qualifiedText {qualifier : Option Text} {name : Text}
    (hqualifier : ∀ table ∈ qualifier, isIdentifier table = true)
    (hname : isIdentifier name = true) :
    ∀ c ∈ qualifiedText qualifier name, isNameChar c = true := by
  have hidentifier {text : Text} (htext : isIdentifier text = true) :
      ∀ c ∈ text, isNameChar c = true :=
    fun _ hmem ↦ isNameChar_of_isIdentifierChar (isIdentifierChar_of_mem htext hmem)
  cases qualifier with
  | none => exact hidentifier hname
  | some table =>
    simp only [qualifiedText, List.forall_mem_append]
    have hpoint : ∀ c ∈ ['.'], isNameChar c = true := List.all_eq_true.mp (by decide)
    exact ⟨⟨hidentifier (hqualifier table rfl), hpoint⟩, hidentifier hname⟩

theorem IsFlatCode.of_all (hchars : chars.all isFlatChar = true) : IsFlatCode chars :=
  .of_forall (List.all_eq_true.mp hchars)

/-- Names are flat code. -/
theorem IsFlatCode.of_names (hchars : ∀ c ∈ chars, isNameChar c = true) : IsFlatCode chars :=
  .of_forall fun c hmem ↦ isFlatChar_of_isNameChar (hchars c hmem)

theorem IsFlatCode.of_isIdentifier {name : Text} (hname : isIdentifier name = true) :
    IsFlatCode name :=
  .of_names fun _ hmem ↦ isNameChar_of_isIdentifierChar (isIdentifierChar_of_mem hname hmem)

theorem Sound.nil : Sound [] :=
  ⟨.nil, fun _ _ ↦ .nil⟩

theorem Sound.literal (content : Text) : Sound [.literal content] := by
  constructor
  · exact .single (by simp)
  · intro style place
    exact Lexeme.Balanced.of_notMem (by simp [lexemes]) (by simp [lexemes])

theorem Sound.slot (value : Json) : Sound [.slot value] := by
  constructor
  · exact .single (by simp)
  · intro style place
    exact Lexeme.Balanced.of_notMem (notMem_lexemes_slot (by decide) style place value)
      (notMem_lexemes_slot (by decide) style place value)

theorem IsFlatCode.balanced (hchars : IsFlatCode chars) :
    Lexeme.Balanced (Lexeme.ofCode chars) := by
  apply Lexeme.Balanced.of_notMem
  · intro hopening
    exact hchars.noOpening (Lexeme.mem_ofCode.mp hopening)
  · intro hclosing
    exact hchars.noClosing (Lexeme.mem_ofCode.mp hclosing)

theorem Sound.cons_code (hchars : IsFlatCode chars) (hrest : Sound rest) :
    Sound (.code chars :: rest) := by
  constructor
  · exact hrest.orderly.cons_code hchars.toIsOrderlyCode
  · intro style place
    exact hchars.balanced.append (hrest.balanced style place)

theorem Sound.code (hchars : IsFlatCode chars) : Sound [.code chars] :=
  Sound.cons_code hchars .nil

theorem Sound.append (hfirst : Sound first) (hsecond : Sound second)
    (hstart : StartsApart second) : Sound (first ++ second) := by
  constructor
  · exact hfirst.orderly.append hsecond.orderly hstart
  · intro style place
    rw [lexemes_append]
    exact (hfirst.balanced _ _).append (hsecond.balanced _ _)

theorem isOrderlyCode_append_opening (hchars : IsFlatCode chars) :
    IsOrderlyCode (chars ++ ['(']) := by
  constructor
  · exact List.forall_mem_append.mpr ⟨hchars.harmless, List.all_eq_true.mp (by decide)⟩
  · exact hchars.hyphens.append (Guarded.of_notMem (by decide))

/-- A sound template between parentheses is sound. -/
theorem Sound.enclosed (hchars : IsFlatCode chars) (hrest : Sound rest) :
    Sound (.code (chars ++ ['(']) :: (rest ++ [.code [')']])) := by
  have hclosing : Orderly [.code [')']] :=
    Orderly.cons_code ⟨List.all_eq_true.mp (by decide), Guarded.of_notMem (by decide)⟩ .nil
  constructor
  · exact (hrest.orderly.append hclosing ⟨')', [], [], rfl, by decide⟩).cons_code
      (isOrderlyCode_append_opening hchars)
  · intro style place
    rw [lexemes, lexemes_append, Lexeme.ofCode_append, List.append_assoc]
    exact hchars.balanced.append (hrest.balanced style place).parenthesized

theorem Sound.join {mark : Text} (hmark : IsFlatCode mark)
    (hseparator : ∃ c ∈ mark.head?, c ∈ separators) {templates : List Template}
    (htemplates : ∀ template ∈ templates, Sound template) : Sound (join mark templates) := by
  induction templates with
  | nil => exact .nil
  | cons template others ih =>
    have hfirst := htemplates template List.mem_cons_self
    have hothers := ih fun other hother ↦ htemplates other (List.mem_cons_of_mem _ hother)
    cases others with
    | nil => exact hfirst
    | cons next others =>
      obtain ⟨c, hc, hseparator⟩ := hseparator
      cases mark with
      | nil => cases hc
      | cons d mark =>
        obtain rfl := Option.some.inj hc
        exact hfirst.append (hothers.cons_code hmark) ⟨d, mark, _, rfl, hseparator⟩

end Template

open Template

/-! ### Plain expressions -/

/-- Whether an operator is one of SQL, not one that is given by its text. -/
def BinaryOperator.isNamed : BinaryOperator → Bool
  | .custom _ => false
  | _ => true

/-- An expression whose names are identifiers and whose operators are those of SQL. -/
inductive Expression.IsPlain : Expression → Prop
  | column {table : Option Text} {name : Text}
    (htable : ∀ qualifier ∈ table, isIdentifier qualifier = true)
    (hname : isIdentifier name = true) : IsPlain (.column table name)
  | literal (value : Literal) : IsPlain (.literal value)
  | bind (value : Json) : IsPlain (.bind value)
  | binary {left right : Expression} {operator : BinaryOperator}
    (hoperator : operator.isNamed = true) (hleft : IsPlain left) (hright : IsPlain right) :
    IsPlain (.binary left operator right)
  | call {function : Text} {arguments : List Expression} (hfunction : isIdentifier function = true)
    (harguments : ∀ argument ∈ arguments, IsPlain argument) : IsPlain (.call function arguments)
  | like {target pattern : Expression} (escape : Char) (htarget : IsPlain target)
    (hpattern : IsPlain pattern) : IsPlain (.like target pattern escape)
  | inList {target : Expression} {items : List Expression} (htarget : IsPlain target)
    (hitems : ∀ item ∈ items, IsPlain item) : IsPlain (.inList target items)
  | isNotNull {operand : Expression} (hoperand : IsPlain operand) : IsPlain (.isNotNull operand)
  | jsonAccess {target path : Expression} (asText : Bool) (htarget : IsPlain target)
    (hpath : IsPlain path) : IsPlain (.jsonAccess target path asText)
  | nested {inner : Expression} (hinner : IsPlain inner) : IsPlain (.nested inner)

theorem isFlatCode_digits (n : Nat) : IsFlatCode (Json.digits n) := by
  apply IsFlatCode.of_names
  intro c hmem
  have hdigit := Json.isDigit_of_mem_digits hmem
  apply isNameChar_of_isIdentifierChar
  simp [isIdentifierChar, Char.isAlphanum, hdigit]

theorem isFlatCode_integerText (value : Int) : IsFlatCode (Json.integerText value) := by
  have hdigits := isFlatCode_digits value.natAbs
  unfold Json.integerText
  by_cases hnegative : value < 0
  · rw [if_pos hnegative]
    cases htext : Json.digits value.natAbs with
    | nil => exact absurd htext (Json.digits_ne_nil _)
    | cons c rest =>
      have hc : c ≠ '-' := by
        rintro rfl
        exact absurd (Json.isDigit_of_mem_digits (htext ▸ List.mem_cons_self)) (by decide)
      exact IsFlatCode.cons_hyphen hc (htext ▸ hdigits)
  · rw [if_neg hnegative]
    exact hdigits

theorem Literal.sound_template (value : Literal) : value.template.Sound := by
  cases value with
  | string content => exact Sound.literal content
  | boolean flag => cases flag <;> exact Sound.code (.of_all (by decide))
  | integer value => exact Sound.code (isFlatCode_integerText value)

theorem BinaryOperator.isFlatCode_of_isNamed {operator : BinaryOperator}
    (hoperator : operator.isNamed = true) : IsFlatCode ([' '] ++ operator.text ++ [' ']) := by
  cases operator with
  | custom text => cases hoperator
  | equal | notEqual | less | lessOrEqual | greater | greaterOrEqual | and =>
    exact .of_all (by decide)

theorem isFlatCode_arrow (asText : Bool) :
    IsFlatCode (if asText then "->>".toList else "->".toList) := by
  cases asText with
  | false => exact IsFlatCode.cons_hyphen (by decide) (.of_all (by decide))
  | true => exact IsFlatCode.cons_hyphen (by decide) (.of_all (by decide))

theorem sound_join_comma {templates : List Template}
    (htemplates : ∀ template ∈ templates, template.Sound) :
    (Template.join ", ".toList templates).Sound :=
  Sound.join (.of_all (by decide)) ⟨',', rfl, by decide⟩ htemplates

/-- The template of a plain expression is sound. -/
theorem Expression.IsPlain.sound {expression : Expression} (hplain : expression.IsPlain) :
    expression.template.Sound := by
  induction hplain with
  | column htable hname =>
    exact Sound.code (.of_names (isNameChar_of_mem_qualifiedText htable hname))
  | literal value => exact value.sound_template
  | bind value => exact Sound.slot value
  | binary hoperator _ _ hleft hright =>
    have hcode := BinaryOperator.isFlatCode_of_isNamed hoperator
    exact hleft.append (hright.cons_code hcode) ⟨' ', _, _, rfl, by decide⟩
  | call hfunction _ harguments =>
    refine Sound.enclosed (.of_isIdentifier hfunction) (sound_join_comma ?_)
    rw [templateList_eq_map]
    exact List.forall_mem_map.mpr harguments
  | like escape _ _ htarget hpattern =>
    have hescape : Sound [.code " ESCAPE ".toList, .literal [escape]] :=
      (Sound.literal [escape]).cons_code (.of_all (by decide))
    have htail := hpattern.append hescape ⟨' ', _, _, rfl, by decide⟩
    exact htarget.append (htail.cons_code (.of_all (by decide))) ⟨' ', _, _, rfl, by decide⟩
  | @inList target items _ _ htarget hitems =>
    have hlist : Sound (.code (" IN ".toList ++ ['(']) ::
        (Template.join ", ".toList (templateList items) ++ [.code [')']])) := by
      refine Sound.enclosed (.of_all (by decide)) (sound_join_comma ?_)
      rw [templateList_eq_map]
      exact List.forall_mem_map.mpr hitems
    exact htarget.append hlist ⟨' ', _, _, rfl, by decide⟩
  | isNotNull _ hoperand =>
    exact hoperand.append (Sound.code (.of_all (by decide))) ⟨' ', _, _, rfl, by decide⟩
  | jsonAccess asText _ _ htarget hpath =>
    refine htarget.append (hpath.cons_code (isFlatCode_arrow asText)) ?_
    cases asText with
    | false => exact ⟨'-', _, _, rfl, by decide⟩
    | true => exact ⟨'-', _, _, rfl, by decide⟩
  | nested _ hinner => exact Sound.enclosed .nil hinner

/-! ### Operands and conjuncts -/

/-- An expression that shows no space at depth zero: a name, a constant, a value, a call, or steps
from one into a JSON value. -/
inductive Expression.IsOperand : Expression → Prop
  | column {table : Option Text} {name : Text}
    (htable : ∀ qualifier ∈ table, isIdentifier qualifier = true)
    (hname : isIdentifier name = true) : IsOperand (.column table name)
  | string (content : Text) : IsOperand (.literal (.string content))
  | call {function : Text} {arguments : List Expression} (hfunction : isIdentifier function = true)
    (harguments : ∀ argument ∈ arguments, argument.IsPlain) : IsOperand (.call function arguments)
  | jsonAccess {target path : Expression} (asText : Bool) (htarget : IsOperand target)
    (hpath : IsOperand path) : IsOperand (.jsonAccess target path asText)

/-- A predicate that does not show an AND at depth zero. What operands are compared with is a
value. -/
inductive Expression.IsConjunct : Expression → Prop
  | compare {operator : BinaryOperator} {left : Expression} (value : Json)
    (hnamed : operator.isNamed = true) (hand : operator ≠ .and) (hleft : left.IsOperand) :
    IsConjunct (.binary left operator (.bind value))
  | never : IsConjunct .alwaysFalse
  | like {target : Expression} (value : Json) (escape : Char) (htarget : target.IsOperand) :
    IsConjunct (.like target (.bind value) escape)
  | inList {target : Expression} {items : List Expression} (htarget : target.IsOperand)
    (hitems : ∀ item ∈ items, item.IsPlain) : IsConjunct (.inList target items)
  | isNotNull {operand : Expression} (hoperand : operand.IsOperand) :
    IsConjunct (.isNotNull operand)
  | nested {inner : Expression} (hinner : inner.IsPlain) : IsConjunct (.nested inner)

theorem Expression.IsOperand.isPlain {expression : Expression} (hoperand : expression.IsOperand) :
    expression.IsPlain := by
  induction hoperand with
  | column htable hname => exact .column htable hname
  | string content => exact .literal _
  | call hfunction harguments => exact .call hfunction harguments
  | jsonAccess asText _ _ htarget hpath => exact .jsonAccess asText htarget hpath

theorem Expression.IsConjunct.isPlain {expression : Expression}
    (hconjunct : expression.IsConjunct) : expression.IsPlain := by
  cases hconjunct with
  | compare value hnamed _ hleft => exact .binary hnamed hleft.isPlain (.bind value)
  | never => exact .binary rfl (.literal _) (.literal _)
  | like value escape htarget => exact .like escape htarget.isPlain (.bind value)
  | inList htarget hitems => exact .inList htarget.isPlain hitems
  | isNotNull hoperand => exact .isNotNull hoperand.isPlain
  | nested hinner => exact .nested hinner

/-! ### Plain statements -/

/-- An item of a projection made of a plain expression and a name of harmless characters. -/
def SelectItem.IsPlain : SelectItem → Prop
  | .wildcard => True
  | .expression content resultName =>
    content.IsPlain ∧ ∀ name ∈ resultName, ∀ c ∈ name, isIdentifierChar c = true

/-- An item of an ordering made of a plain expression and a direction. -/
structure OrderItem.IsPlain (item : OrderItem) : Prop where
  expression : item.expression.IsPlain
  direction : item.direction.isSome = true

/-- A table whose name is an identifier, and so is that of its schema. -/
structure Table.IsPlain (table : Table) : Prop where
  schema : ∀ schema ∈ table.schema, isIdentifier schema = true
  name : isIdentifier table.name = true

/-- A statement of plain parts. -/
structure Select.IsPlain (select : Select) : Prop where
  projections : ∀ item ∈ select.projections, item.IsPlain
  tables : ∀ table ∈ select.tables, table.IsPlain
  condition : ∀ condition ∈ select.condition, condition.IsPlain
  ordering : ∀ item ∈ select.ordering, item.IsPlain

theorem SelectItem.IsPlain.sound {item : SelectItem} (hplain : item.IsPlain) :
    item.template.Sound := by
  rcases item with _ | ⟨content, _ | name⟩
  · exact Sound.code (.of_all (by decide))
  · exact hplain.1.sound
  · have hname : ∀ c ∈ name, isFlatChar c = true :=
      fun c hmem ↦ isFlatChar_of_isNameChar
        (isNameChar_of_isIdentifierChar (hplain.2 name rfl c hmem))
    have hcode : IsFlatCode (" AS ".toList ++ name) :=
      .of_forall (List.forall_mem_append.mpr ⟨List.all_eq_true.mp (by decide), hname⟩)
    exact hplain.1.sound.append (Sound.code hcode) ⟨' ', _, _, rfl, by decide⟩

theorem OrderItem.IsPlain.sound {item : OrderItem} (hplain : item.IsPlain) :
    item.template.Sound := by
  rcases item with ⟨expression, _ | direction⟩
  · cases hplain.direction
  · have hcode : IsFlatCode (directionSuffix (some direction)) := by
      cases direction <;> exact .of_all (by decide)
    exact hplain.expression.sound.append (Sound.code hcode) ⟨' ', _, _, rfl, by decide⟩

theorem Table.IsPlain.isFlatChar_of_mem_text {table : Table} (hplain : table.IsPlain) :
    ∀ c ∈ table.text, isFlatChar c = true :=
  fun c hmem ↦ isFlatChar_of_isNameChar
    (isNameChar_of_mem_qualifiedText hplain.schema hplain.name c hmem)

theorem forall_mem_join {property : Char → Prop} {mark : Text} {pieces : List Text}
    (hmark : ∀ c ∈ mark, property c) (hpieces : ∀ piece ∈ pieces, ∀ c ∈ piece, property c) :
    ∀ c ∈ Text.join mark pieces, property c := by
  induction pieces with
  | nil => simp [Text.join]
  | cons piece rest ih =>
    obtain ⟨hpiece, hrest⟩ := List.forall_mem_cons.mp hpieces
    cases rest with
    | nil => exact hpiece
    | cons next others =>
      simp only [Text.join, List.forall_mem_append]
      exact ⟨⟨hpiece, hmark⟩, ih hrest⟩

namespace Select

variable {select : Select}

theorem IsPlain.sound_projectionTemplate (hplain : select.IsPlain) :
    select.projectionTemplate.Sound := by
  unfold projectionTemplate
  refine Sound.cons_code (.of_all (by decide)) ?_
  split_ifs with hempty
  · exact Sound.code (.of_all (by decide))
  · exact sound_join_comma (List.forall_mem_map.mpr fun item hitem ↦
      (hplain.projections item hitem).sound)

theorem IsPlain.sound_tablesTemplate (hplain : select.IsPlain) :
    ∀ template ∈ select.tablesTemplate, template.Sound := by
  have htables : ∀ c ∈ Text.join ", ".toList (select.tables.map Table.text),
      isFlatChar c = true :=
    forall_mem_join (List.all_eq_true.mp (by decide)) (List.forall_mem_map.mpr fun table htable ↦
      (hplain.tables table htable).isFlatChar_of_mem_text)
  unfold tablesTemplate
  split_ifs with hempty
  · simp
  · exact List.forall_mem_singleton.mpr (Sound.code (.of_forall
      (List.forall_mem_append.mpr ⟨List.all_eq_true.mp (by decide), htables⟩)))

theorem IsPlain.sound_conditionTemplate (hplain : select.IsPlain) :
    ∀ template ∈ select.conditionTemplate, template.Sound := by
  unfold conditionTemplate
  cases hcondition : select.condition with
  | none => simp
  | some condition =>
    exact List.forall_mem_singleton.mpr
      ((hplain.condition condition hcondition).sound.cons_code (.of_all (by decide)))

theorem IsPlain.sound_orderingTemplate (hplain : select.IsPlain) :
    ∀ template ∈ select.orderingTemplate, template.Sound := by
  unfold orderingTemplate
  split_ifs with hempty
  · simp
  · refine List.forall_mem_singleton.mpr (Sound.cons_code (.of_all (by decide)) ?_)
    exact sound_join_comma (List.forall_mem_map.mpr fun item hitem ↦
      (hplain.ordering item hitem).sound)

/-- The template of a plain statement is sound. -/
theorem IsPlain.sound (hplain : select.IsPlain) : select.template.Sound := by
  refine Sound.join (.of_all (by decide)) ⟨' ', rfl, by decide⟩ ?_
  refine List.forall_mem_cons.mpr ⟨hplain.sound_projectionTemplate, ?_⟩
  rw [List.forall_mem_append, List.forall_mem_append]
  exact ⟨⟨hplain.sound_tablesTemplate, hplain.sound_conditionTemplate⟩,
    hplain.sound_orderingTemplate⟩

end Select

/-! ### What a reader finds -/

/-- The placeholders that stores of a dialect expect for a number of values. -/
def placeholdersOf (dialect : Dialect) (count : Nat) : List Lexeme.Placeholder :=
  match dialect with
  | .sqlOperator => (List.range' 1 count).map fun number ↦ .numbered (Json.digits number)
  | _ => List.replicate count .question

theorem Template.Sound.harmless {template : Template} (hsound : template.Sound)
    {style : PlaceholderStyle} (hstyle : style ≠ .inline) (place : Nat) :
    Lexeme.Harmless (template.lexemes style place) := by
  have habsent (c : Char) (hc : (!isCodeChar c && !isSlotChar c) = true) :
      .outside c ∉ template.lexemes style place := by
    intro hmem
    rw [Bool.and_eq_true, Bool.not_eq_true', Bool.not_eq_true'] at hc
    rcases hsound.orderly.isCodeChar_or_isSlotChar hmem with hcode | hslot
    · exact Bool.false_ne_true (hc.1.symm.trans hcode)
    · exact Bool.false_ne_true (hc.2.symm.trans hslot)
  have hmarks : ∀ c ∈ ['\'', '"', '\\', ';', '#'], (!isCodeChar c && !isSlotChar c) = true :=
    List.all_eq_true.mp (by decide)
  exact {
    marks := fun c hc ↦ habsent c (hmarks c hc)
    dashes := hsound.orderly.noDashes hstyle place
    slashStar := fun hblock ↦ habsent '/' (by decide) (hblock.subset List.mem_cons_self)
    parentheses := hsound.balanced style place 0 }

theorem Template.Sound.placeholders_lexemes {template : Template} (hsound : template.Sound)
    (dialect : Dialect) :
    Lexeme.placeholders (template.lexemes (.ofDialect dialect) 1) =
      placeholdersOf dialect template.slots.length := by
  cases dialect with
  | sqlOperator => exact hsound.orderly.placeholders_numbered 1
  | sqlFunction | document | generic => exact hsound.orderly.placeholders_questionMark 1

/-- The text of a plain statement in the style of a store has a reading, which is harmless and in
which every value has its placeholder. -/
theorem Select.IsPlain.read_compile {select : Select} (hplain : select.IsPlain)
    (dialect : Dialect) :
    ∃ lexemes, Lexeme.read (select.compile (.ofDialect dialect)).sql = some lexemes ∧
      Lexeme.Harmless lexemes ∧
      Lexeme.placeholders lexemes =
        placeholdersOf dialect (select.compile (.ofDialect dialect)).bindings.length := by
  have hstyle : PlaceholderStyle.ofDialect dialect ≠ .inline := by cases dialect <;> decide
  refine ⟨select.template.lexemes (.ofDialect dialect) 1, ?_, hplain.sound.harmless hstyle 1, ?_⟩
  · rw [compile, written_eq]
    exact hplain.sound.orderly.read_fill _ 1
  · rw [compile, written_eq, Template.write_bindings]
    exact hplain.sound.placeholders_lexemes dialect

end KeyPathQuery.Sql
