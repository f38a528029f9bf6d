import KeyPathQuery.Sql.Compile
import Mathlib.Data.List.Basic
import Mathlib.Tactic.SplitIfs

/-!
Templates of SQL text. A template is the text of an expression or a statement with the values
left out: pieces of code, string literals, and a slot for every value from a caller. The three
placeholder styles write one and the same template and differ in nothing but the text of a slot,
so whatever holds of the pieces holds of the text in every style.

`Expression.template` and `Select.template` are the templates, `Expression.values` and
`Select.values` the values in the order in which a reader of the tree meets them. The writing of
an expression is the writing of its template from any number of earlier values on
(`Expression.written_eq`), because templates are put together as parts of statements are
(`Template.write_append`, `Template.write_join`).

Main statement: `compile_eq_fill` says that statements, expressions, ordering items and
projection items all have one template whose slots are their values, and that each style fills
it.
-/

set_option autoImplicit false
set_option relaxedAutoImplicit false

namespace KeyPathQuery.Sql

/-! ### Induction on expressions -/

section Induction

variable {motive : Expression → Prop}
  (column : ∀ table name, motive (.column table name))
  (literal : ∀ value, motive (.literal value))
  (bind : ∀ value, motive (.bind value))
  (binary : ∀ left operator right, motive left → motive right →
    motive (.binary left operator right))
  (call : ∀ function arguments, (∀ argument ∈ arguments, motive argument) →
    motive (.call function arguments))
  (like : ∀ target pattern escape, motive target → motive pattern →
    motive (.like target pattern escape))
  (inList : ∀ target items, motive target → (∀ item ∈ items, motive item) →
    motive (.inList target items))
  (isNotNull : ∀ operand, motive operand → motive (.isNotNull operand))
  (jsonAccess : ∀ target path asText, motive target → motive path →
    motive (.jsonAccess target path asText))
  (nested : ∀ inner, motive inner → motive (.nested inner))

include column literal bind binary call like inList isNotNull jsonAccess nested

/-- Induction on an expression, with a hypothesis for every argument of a call and every item of
a list. -/
@[induction_eliminator]
theorem Expression.induct (expression : Expression) : motive expression :=
  @Expression.rec motive (fun list ↦ ∀ item ∈ list, motive item)
    column literal bind binary call like inList isNotNull jsonAccess nested
    (by simp) (fun _ _ hhead htail ↦ List.forall_mem_cons.mpr ⟨hhead, htail⟩) expression

end Induction

/-! ### Values -/

mutual

/-- The values from callers in an expression, from left to right. -/
def Expression.values : Expression → List Json
  | .column _ _ => []
  | .literal _ => []
  | .bind value => [value]
  | .binary left _ right => left.values ++ right.values
  | .call _ arguments => valuesList arguments
  | .like target pattern _ => target.values ++ pattern.values
  | .inList target items => target.values ++ valuesList items
  | .isNotNull operand => operand.values
  | .jsonAccess target path _ => target.values ++ path.values
  | .nested inner => inner.values

/-- The values from callers in some expressions, from left to right. -/
def Expression.valuesList : List Expression → List Json
  | [] => []
  | expression :: rest => expression.values ++ valuesList rest

end

theorem Expression.valuesList_eq_flatMap (expressions : List Expression) :
    valuesList expressions = expressions.flatMap values := by
  induction expressions with
  | nil => rfl
  | cons expression rest ih => rw [valuesList, ih, List.flatMap_cons]

/-- The values from callers in an item of a projection. -/
def SelectItem.values : SelectItem → List Json
  | .wildcard => []
  | .expression content _ => content.values

/-- The values from callers in an item of an ordering. -/
def OrderItem.values (item : OrderItem) : List Json :=
  item.expression.values

/-- The values from callers in a statement: those of the projections, then those of the
condition, then those of the ordering. -/
def Select.values (select : Select) : List Json :=
  select.projections.flatMap SelectItem.values ++
    (select.condition.toList.flatMap Expression.values ++
      select.ordering.flatMap OrderItem.values)

/-! ### Templates -/

/-- A piece of a template. -/
inductive Piece where
  /-- Text that is the same whatever the values are. -/
  | code (chars : Text)
  /-- A string literal, which is the same whatever the values are, by its content. -/
  | literal (content : Text)
  /-- The place of a value. -/
  | slot (value : Json)
deriving Repr

/-- A text with places for values. -/
abbrev Template := List Piece

namespace Template

/-- The values of the slots in order. -/
def slots : Template → List Json
  | [] => []
  | .slot value :: rest => value :: slots rest
  | _ :: rest => slots rest

/-- The text of a template in which the slots are numbered from `place` on, given the text of a
slot by its number and its value. -/
def fill (slotText : Nat → Json → Text) (place : Nat) : Template → Text
  | [] => []
  | .code chars :: rest => chars ++ fill slotText place rest
  | .literal content :: rest => quote content ++ fill slotText place rest
  | .slot value :: rest => slotText place value ++ fill slotText (place + 1) rest

/-- Templates one after another with a text between neighbours. -/
def join (mark : Text) : List Template → Template
  | [] => []
  | [template] => template
  | template :: next :: templates => template ++ .code mark :: join mark (next :: templates)

@[simp] theorem slots_append (first second : Template) :
    (first ++ second).slots = first.slots ++ second.slots := by
  induction first with
  | nil => rfl
  | cons piece rest ih => cases piece <;> simp [slots, ih]

theorem fill_append (slotText : Nat → Json → Text) (first second : Template) (place : Nat) :
    (first ++ second).fill slotText place =
      first.fill slotText place ++ second.fill slotText (place + first.slots.length) := by
  induction first generalizing place with
  | nil => rfl
  | cons piece rest ih =>
    cases piece with
    | code chars => simp only [List.cons_append, fill, slots, ih, List.append_assoc]
    | literal content => simp only [List.cons_append, fill, slots, ih, List.append_assoc]
    | slot value =>
      simp only [List.cons_append, fill, slots, ih, List.append_assoc, List.length_cons]
      rw [Nat.add_assoc, Nat.add_comm 1]

/-- Where the text of a slot does not tell its number, it does not matter where the numbers
start. -/
theorem fill_place {slotText : Nat → Json → Text}
    (hsame : ∀ first second value, slotText first value = slotText second value)
    (template : Template) (first second : Nat) :
    template.fill slotText first = template.fill slotText second := by
  induction template generalizing first second with
  | nil => rfl
  | cons piece rest ih =>
    cases piece with
    | code chars => rw [fill, fill, ih first second]
    | literal content => rw [fill, fill, ih first second]
    | slot value => rw [fill, fill, hsame first second, ih (first + 1) (second + 1)]

end Template

/-! ### Templates in the three styles -/

/-- The text of a slot by its number and its value. -/
def PlaceholderStyle.slotText : PlaceholderStyle → Nat → Json → Text
  | .questionMark, _, _ => ['?']
  | .numbered, place, _ => '$' :: Json.digits place
  | .inline, _, value => inlineText value

/-- The values that stand beside the text, of all the values of the slots. -/
def PlaceholderStyle.collected : PlaceholderStyle → List Json → List Json
  | .inline, _ => []
  | _, values => values

namespace Template

/-- A template as a part of a statement. -/
def write (style : PlaceholderStyle) (template : Template) : Written :=
  fun before ↦ ⟨template.fill style.slotText (before + 1), style.collected template.slots⟩

theorem write_append (style : PlaceholderStyle) (first second : Template) :
    (first ++ second).write style = first.write style ++ second.write style := by
  funext before
  change _ = Written.append (first.write style) (second.write style) before
  cases style with
  | inline =>
    simp only [write, Written.append, fill_append, PlaceholderStyle.collected, List.append_nil]
    rw [fill_place (fun _ _ _ ↦ rfl) second]
  | questionMark | numbered =>
    simp only [write, Written.append, fill_append, slots_append, PlaceholderStyle.collected]
    rw [Nat.add_right_comm]

theorem write_code (style : PlaceholderStyle) (chars : Text) :
    write style [.code chars] = .text chars := by
  funext before
  cases style <;> simp [write, fill, slots, PlaceholderStyle.collected, Written.text]

theorem write_literal (style : PlaceholderStyle) (content : Text) :
    write style [.literal content] = .text (quote content) := by
  funext before
  cases style <;> simp [write, fill, slots, PlaceholderStyle.collected, Written.text]

theorem write_slot (style : PlaceholderStyle) (value : Json) :
    write style [.slot value] = .value style value := by
  funext before
  cases style <;>
    simp [write, fill, slots, PlaceholderStyle.collected, PlaceholderStyle.slotText,
      Written.value]

theorem write_join (style : PlaceholderStyle) (mark : Text) (templates : List Template) :
    (join mark templates).write style = .join mark (templates.map (write style)) := by
  induction templates with
  | nil => funext before; cases style <;> rfl
  | cons template rest ih =>
    cases rest with
    | nil => rfl
    | cons next others =>
      rw [join, List.append_cons, write_append, write_append, write_code, ih]
      rfl

end Template

/-! ### Templates of expressions and statements -/

/-- The template of a constant. -/
def Literal.template : Literal → Template
  | .string content => [.literal content]
  | value => [.code value.text]

mutual

/-- The template of an expression. -/
def Expression.template : Expression → Template
  | .column table name => [.code (qualifiedText table name)]
  | .literal value => value.template
  | .bind value => [.slot value]
  | .binary left operator right =>
    left.template ++ .code ([' '] ++ operator.text ++ [' ']) :: right.template
  | .call function arguments =>
    .code (function ++ ['(']) :: (Template.join ", ".toList (templateList arguments) ++
      [.code [')']])
  | .like target pattern escape =>
    target.template ++ .code " LIKE ".toList :: (pattern.template ++
      [.code " ESCAPE ".toList, .literal [escape]])
  | .inList target items =>
    target.template ++ .code " IN (".toList :: (Template.join ", ".toList (templateList items) ++
      [.code [')']])
  | .isNotNull operand => operand.template ++ [.code " IS NOT NULL".toList]
  | .jsonAccess target path asText =>
    target.template ++ .code (if asText then "->>".toList else "->".toList) :: path.template
  | .nested inner => .code ['('] :: (inner.template ++ [.code [')']])

/-- The templates of some expressions. -/
def Expression.templateList : List Expression → List Template
  | [] => []
  | expression :: rest => expression.template :: templateList rest

end

theorem Expression.templateList_eq_map (expressions : List Expression) :
    templateList expressions = expressions.map template := by
  induction expressions with
  | nil => rfl
  | cons expression rest ih => rw [templateList, ih, List.map_cons]

theorem Expression.writtenList_eq_map (style : PlaceholderStyle) (expressions : List Expression) :
    writtenList style expressions = expressions.map (written style) := by
  induction expressions with
  | nil => rfl
  | cons expression rest ih => rw [writtenList, ih, List.map_cons]

/-- The template of an item of a projection. -/
def SelectItem.template : SelectItem → Template
  | .wildcard => [.code ['*']]
  | .expression content none => content.template
  | .expression content (some name) => content.template ++ [.code (" AS ".toList ++ name)]

/-- The template of an item of an ordering. -/
def OrderItem.template (item : OrderItem) : Template :=
  item.expression.template ++ [.code (directionSuffix item.direction)]

namespace Select

/-- The template of the projection. -/
def projectionTemplate (select : Select) : Template :=
  .code "SELECT ".toList ::
    if select.projections.isEmpty then [.code ['*']]
    else Template.join ", ".toList (select.projections.map SelectItem.template)

/-- The template of the tables, if there are any. -/
def tablesTemplate (select : Select) : List Template :=
  if select.tables.isEmpty then []
  else [[.code ("FROM ".toList ++ Text.join ", ".toList (select.tables.map Table.text))]]

/-- The template of the condition, if there is one. -/
def conditionTemplate (select : Select) : List Template :=
  match select.condition with
  | some condition => [.code "WHERE ".toList :: condition.template]
  | none => []

/-- The template of the ordering, if it has items. -/
def orderingTemplate (select : Select) : List Template :=
  if select.ordering.isEmpty then []
  else
    [.code "ORDER BY ".toList ::
      Template.join ", ".toList (select.ordering.map OrderItem.template)]

/-- The template of a statement. -/
def template (select : Select) : Template :=
  Template.join [' '] (select.projectionTemplate :: (select.tablesTemplate ++
    select.conditionTemplate ++ select.orderingTemplate))

end Select

/-! ### Writing is the writing of the template -/

theorem Literal.template_write (style : PlaceholderStyle) (value : Literal) :
    value.template.write style = .text value.text := by
  cases value with
  | string content => exact Template.write_literal style content
  | boolean value => exact Template.write_code style _
  | integer value => exact Template.write_code style _

theorem Template.write_cons_code (style : PlaceholderStyle) (chars : Text) (rest : Template) :
    write style (.code chars :: rest) = .text chars ++ write style rest := by
  rw [← write_code style chars, ← write_append]
  rfl

theorem Written.text_append (first second : Text) :
    Written.text (first ++ second) = Written.text first ++ Written.text second := rfl

/-- An expression is written as its template is, whatever number of values stands before it. -/
theorem Expression.written_eq (style : PlaceholderStyle) (expression : Expression) :
    expression.written style = expression.template.write style := by
  induction expression with
  | column table name => rw [written, template, Template.write_code]
  | literal value => rw [written, template, Literal.template_write]
  | bind value => rw [written, template, Template.write_slot]
  | binary left operator right hleft hright =>
    rw [written, template, Template.write_append, Template.write_cons_code, hleft, hright,
      Written.append_assoc]
  | call function arguments harguments =>
    rw [written, template, Template.write_cons_code, Template.write_append, Template.write_join,
      Template.write_code, templateList_eq_map, writtenList_eq_map, List.map_map,
      Written.append_assoc, List.map_congr_left harguments]
    rfl
  | like target pattern escape htarget hpattern =>
    rw [written, template, Template.write_append, Template.write_cons_code, Template.write_append,
      Template.write_cons_code, Template.write_literal, ← Written.text_append, htarget, hpattern,
      Written.append_assoc, Written.append_assoc]
  | inList target items htarget hitems =>
    rw [written, template, Template.write_append, Template.write_cons_code, Template.write_append,
      Template.write_join, Template.write_code, templateList_eq_map, writtenList_eq_map,
      List.map_map, List.map_congr_left hitems, htarget, Written.append_assoc,
      Written.append_assoc]
    rfl
  | isNotNull operand hoperand =>
    rw [written, template, Template.write_append, Template.write_code, hoperand]
  | jsonAccess target path asText htarget hpath =>
    rw [written, template, Template.write_append, Template.write_cons_code, htarget, hpath,
      Written.append_assoc]
  | nested inner hinner =>
    rw [written, template, Template.write_cons_code, Template.write_append, Template.write_code,
      hinner, Written.append_assoc]

theorem SelectItem.written_eq (style : PlaceholderStyle) (item : SelectItem) :
    item.written style = item.template.write style := by
  rcases item with _ | ⟨content, _ | name⟩
  · exact (Template.write_code style ['*']).symm
  · exact content.written_eq style
  · rw [written, template, Template.write_append, Template.write_code, content.written_eq]

theorem OrderItem.written_eq (style : PlaceholderStyle) (item : OrderItem) :
    item.written style = item.template.write style := by
  rw [written, template, Template.write_append, Template.write_code, item.expression.written_eq]

namespace Select

theorem projectionWritten_eq (style : PlaceholderStyle) (select : Select) :
    select.projectionWritten style = select.projectionTemplate.write style := by
  unfold projectionWritten projectionTemplate
  rw [Template.write_cons_code]
  split_ifs with hempty
  · rw [Template.write_code]
  · rw [Template.write_join, List.map_map,
      List.map_congr_left fun item _ ↦ item.written_eq style]
    rfl

theorem tablesWritten_eq (style : PlaceholderStyle) (select : Select) :
    select.tablesWritten = select.tablesTemplate.map (Template.write style) := by
  unfold tablesWritten tablesTemplate
  split_ifs with hempty
  · rfl
  · rw [List.map_singleton, Template.write_code]

theorem conditionWritten_eq (style : PlaceholderStyle) (select : Select) :
    select.conditionWritten style = select.conditionTemplate.map (Template.write style) := by
  unfold conditionWritten conditionTemplate
  cases select.condition with
  | none => rfl
  | some condition =>
    simp only [List.map_singleton, Template.write_cons_code, condition.written_eq]

theorem orderingWritten_eq (style : PlaceholderStyle) (select : Select) :
    select.orderingWritten style = select.orderingTemplate.map (Template.write style) := by
  unfold orderingWritten orderingTemplate
  split_ifs with hempty
  · rfl
  · rw [List.map_singleton, Template.write_cons_code, Template.write_join, List.map_map,
      List.map_congr_left fun item _ ↦ item.written_eq style]
    rfl

/-- A statement is written as its template is. -/
theorem written_eq (style : PlaceholderStyle) (select : Select) :
    select.written style = select.template.write style := by
  unfold written template
  rw [Template.write_join, List.map_cons, List.map_append, List.map_append,
    projectionWritten_eq, tablesWritten_eq style, conditionWritten_eq, orderingWritten_eq]

end Select

/-! ### The slots of a template are the values -/

namespace Template

@[simp] theorem slots_nil : slots [] = [] := rfl

@[simp] theorem slots_code (chars : Text) (rest : Template) :
    slots (.code chars :: rest) = slots rest := rfl

@[simp] theorem slots_literal (content : Text) (rest : Template) :
    slots (.literal content :: rest) = slots rest := rfl

@[simp] theorem slots_slot (value : Json) (rest : Template) :
    slots (.slot value :: rest) = value :: slots rest := rfl

@[simp] theorem slots_join (mark : Text) (templates : List Template) :
    (join mark templates).slots = templates.flatMap slots := by
  induction templates with
  | nil => rfl
  | cons template rest ih =>
    cases rest with
    | nil => simp [join]
    | cons next others => simp [join, ih]

end Template

theorem Expression.slots_template (expression : Expression) :
    expression.template.slots = expression.values := by
  induction expression with
  | column table name => rfl
  | literal value => cases value <;> rfl
  | bind value => rfl
  | binary left operator right hleft hright => simp [template, values, hleft, hright]
  | call function arguments harguments =>
    simp only [template, values, Template.slots_code, Template.slots_append, Template.slots_join,
      Template.slots_nil, List.append_nil, templateList_eq_map, valuesList_eq_flatMap,
      List.flatMap_map]
    exact List.flatMap_congr harguments
  | like target pattern escape htarget hpattern => simp [template, values, htarget, hpattern]
  | inList target items htarget hitems =>
    simp only [template, values, Template.slots_code, Template.slots_append, Template.slots_join,
      Template.slots_nil, List.append_nil, templateList_eq_map, valuesList_eq_flatMap,
      List.flatMap_map, htarget]
    rw [List.flatMap_congr hitems]
  | isNotNull operand hoperand => simp [template, values, hoperand]
  | jsonAccess target path asText htarget hpath => simp [template, values, htarget, hpath]
  | nested inner hinner => simp [template, values, hinner]

theorem SelectItem.slots_template (item : SelectItem) : item.template.slots = item.values := by
  rcases item with _ | ⟨content, _ | name⟩
  · rfl
  · exact content.slots_template
  · simp [template, values, content.slots_template]

theorem OrderItem.slots_template (item : OrderItem) : item.template.slots = item.values := by
  simp [template, values, item.expression.slots_template]

/-- The slots of a statement are the values of its projections, its condition and its ordering:
the tables have none. -/
theorem Select.slots_template (select : Select) : select.template.slots = select.values := by
  have hprojection : select.projectionTemplate.slots =
      select.projections.flatMap SelectItem.values := by
    unfold projectionTemplate
    split_ifs with hempty
    · simp [List.isEmpty_iff.mp hempty]
    · simp [List.flatMap_map, SelectItem.slots_template]
  have htables : select.tablesTemplate.flatMap Template.slots = [] := by
    unfold tablesTemplate
    split_ifs <;> simp
  have hcondition : select.conditionTemplate.flatMap Template.slots =
      select.condition.toList.flatMap Expression.values := by
    unfold conditionTemplate
    cases select.condition with
    | none => rfl
    | some condition => simp [condition.slots_template]
  have hordering : select.orderingTemplate.flatMap Template.slots =
      select.ordering.flatMap OrderItem.values := by
    unfold orderingTemplate
    split_ifs with hempty
    · simp [List.isEmpty_iff.mp hempty]
    · simp [List.flatMap_map, OrderItem.slots_template]
  unfold template values
  rw [Template.slots_join, List.flatMap_cons, List.flatMap_append, List.flatMap_append,
    hprojection, htables, hcondition, hordering, List.nil_append]

/-! ### Templates without their values -/

/-- A piece with the value of a slot left out. -/
def Piece.blank : Piece → Piece
  | .slot _ => .slot .null
  | .code chars => .code chars
  | .literal content => .literal content

namespace Template

/-- A template with the values of its slots left out. -/
def blank (template : Template) : Template :=
  template.map Piece.blank

@[simp] theorem blank_append (first second : Template) :
    (first ++ second).blank = first.blank ++ second.blank :=
  List.map_append

@[simp] theorem blank_cons (piece : Piece) (rest : Template) :
    blank (piece :: rest) = piece.blank :: rest.blank := rfl

theorem blank_join (mark : Text) (templates : List Template) :
    (join mark templates).blank = join mark (templates.map blank) := by
  induction templates with
  | nil => rfl
  | cons template rest ih =>
    cases rest with
    | nil => rfl
    | cons next others =>
      rw [join, blank_append, blank_cons, ih]
      rfl

/-- Where the text of a slot does not tell its value, a template has the text of its blank. -/
theorem fill_blank {slotText : Nat → Json → Text}
    (hsame : ∀ place first second, slotText place first = slotText place second)
    (template : Template) (place : Nat) :
    template.blank.fill slotText place = template.fill slotText place := by
  induction template generalizing place with
  | nil => rfl
  | cons piece rest ih =>
    cases piece with
    | code chars => rw [blank_cons, Piece.blank, fill, fill, ih]
    | literal content => rw [blank_cons, Piece.blank, fill, fill, ih]
    | slot value => rw [blank_cons, Piece.blank, fill, fill, ih, hsame place .null value]

/-- In the styles of the stores the text tells nothing of the values. -/
theorem write_sql_blank (dialect : Dialect) (template : Template) (before : Nat) :
    (template.blank.write (.ofDialect dialect) before).sql =
      (template.write (.ofDialect dialect) before).sql := by
  cases dialect <;> exact fill_blank (fun _ _ _ ↦ rfl) template (before + 1)

/-- In the styles of the stores the values of all slots are collected. -/
theorem write_bindings (dialect : Dialect) (template : Template) (before : Nat) :
    (template.write (.ofDialect dialect) before).bindings = template.slots := by
  cases dialect <;> rfl

end Template

/-! ### One template in three styles -/

/-- What it takes for a template to stand behind the compiled texts of the three styles: its
slots are the values, question marks and numbers stand for the slots in the first two styles,
which collect the values, and literals in the third, which collects nothing. The numbers count
the slots from one on. -/
structure Template.StandsBehind (template : Template) (values : List Json)
    (compile : PlaceholderStyle → Compiled) : Prop where
  slots : template.slots = values
  questionMark : compile .questionMark = ⟨template.fill (fun _ _ ↦ ['?']) 1, values⟩
  numbered :
    compile .numbered = ⟨template.fill (fun place _ ↦ '$' :: Json.digits place) 1, values⟩
  inline : compile .inline = ⟨template.fill (fun _ value ↦ inlineText value) 1, []⟩

theorem Template.standsBehind_of_write {template : Template} {values : List Json}
    {compile : PlaceholderStyle → Compiled} (hslots : template.slots = values)
    (hwrite : ∀ style, compile style = template.write style 0) :
    template.StandsBehind values compile := by
  subst hslots
  exact ⟨rfl, hwrite .questionMark, hwrite .numbered, hwrite .inline⟩

/-- The placeholder styles write one template: every statement, expression, ordering item and
projection item has one behind its three compiled texts, whose slots are the values from left to
right. -/
theorem compile_eq_fill :
    (∀ select : Select, ∃ template : Template,
      template.StandsBehind select.values (select.compile ·)) ∧
    (∀ expression : Expression, ∃ template : Template,
      template.StandsBehind expression.values (expression.compile ·)) ∧
    (∀ item : OrderItem, ∃ template : Template,
      template.StandsBehind item.values (item.compile ·)) ∧
    (∀ item : SelectItem, ∃ template : Template,
      template.StandsBehind item.values (item.compile ·)) := by
  refine ⟨fun select ↦ ⟨select.template, ?_⟩, fun expression ↦ ⟨expression.template, ?_⟩,
    fun item ↦ ⟨item.template, ?_⟩, fun item ↦ ⟨item.template, ?_⟩⟩
  · exact Template.standsBehind_of_write select.slots_template
      fun style ↦ congrFun (select.written_eq style) 0
  · exact Template.standsBehind_of_write expression.slots_template
      fun style ↦ congrFun (expression.written_eq style) 0
  · exact Template.standsBehind_of_write item.slots_template
      fun style ↦ congrFun (item.written_eq style) 0
  · exact Template.standsBehind_of_write item.slots_template
      fun style ↦ congrFun (item.written_eq style) 0

end KeyPathQuery.Sql
