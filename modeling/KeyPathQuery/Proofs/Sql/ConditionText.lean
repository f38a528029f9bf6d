import KeyPathQuery.Proofs.Sql.Lexeme

/-!
Conjuncts of the text of a condition. `conjuncts` splits a text at every ` AND ` that stands
outside of literals and outside of parentheses, from left to right. It looks at the text alone:
the text is read as lexemes, every lexeme is told how deep in parentheses it stands, and the mark
is looked for among those at depth zero.

Main statement: `splitAtMark_intercalate` says that pieces in which the mark does not start are
found again between marks.
-/

set_option autoImplicit false
set_option relaxedAutoImplicit false

namespace KeyPathQuery.Sql

/-! ### Splitting at a mark -/

section Split

variable {α : Type} [DecidableEq α] {mark piece rest : List α} {first second : α}

/-- The pieces of a list between the occurrences of a mark, the leftmost occurrence first. A
number of elements, the rest of a mark just found, is passed over before. -/
def splitFrom (mark : List α) : Nat → List α → List (List α)
  | _, [] => [[]]
  | skip + 1, _ :: rest => splitFrom mark skip rest
  | 0, x :: rest =>
    if mark.isPrefixOf (x :: rest) then [] :: splitFrom mark (mark.length - 1) rest
    else (splitFrom mark 0 rest).modifyHead (x :: ·)

/-- The pieces of a list between the occurrences of a mark, which do not overlap and are found
from left to right. -/
def splitAtMark (mark list : List α) : List (List α) :=
  splitFrom mark 0 list

theorem splitFrom_succ (mark : List α) (skip : Nat) (x : α) (rest : List α) :
    splitFrom mark (skip + 1) (x :: rest) = splitFrom mark skip rest :=
  rfl

theorem splitFrom_zero (mark : List α) (x : α) (rest : List α) :
    splitFrom mark 0 (x :: rest) =
      if mark.isPrefixOf (x :: rest) then [] :: splitFrom mark (mark.length - 1) rest
      else (splitFrom mark 0 rest).modifyHead (x :: ·) :=
  rfl

theorem splitFrom_append (mark skipped rest : List α) :
    splitFrom mark skipped.length (skipped ++ rest) = splitFrom mark 0 rest := by
  induction skipped with
  | nil => rfl
  | cons x others ih => rw [List.length_cons, List.cons_append, splitFrom_succ, ih]

theorem splitAtMark_mark (rest : List α) :
    splitAtMark (first :: mark) (first :: mark ++ rest) =
      [] :: splitAtMark (first :: mark) rest := by
  have hprefix : (first :: mark).isPrefixOf (first :: (mark ++ rest)) = true :=
    List.isPrefixOf_iff_prefix.mpr ⟨rest, rfl⟩
  unfold splitAtMark
  rw [List.cons_append, splitFrom_zero, if_pos hprefix, List.length_cons, Nat.add_sub_cancel,
    splitFrom_append]

/-- No mark starts at the first element of a guarded list, whatever follows the list. -/
theorem Guarded.not_prefix {x : α} (hpiece : Guarded first second (x :: piece))
    (mark rest : List α) :
    ¬ (first :: second :: mark).isPrefixOf (x :: piece ++ rest) = true := by
  intro hprefix
  obtain ⟨tail, htail⟩ := List.isPrefixOf_iff_prefix.mp hprefix
  obtain ⟨rfl, hrest⟩ := List.cons.inj htail
  cases piece with
  | nil => exact hpiece.last rfl
  | cons y others =>
    obtain ⟨rfl, -⟩ := List.cons.inj hrest
    exact (List.isChain_cons.mp hpiece.apart).1 second rfl rfl rfl

/-- A guarded piece goes into the first piece of what is behind it. -/
theorem splitAtMark_append (hpiece : Guarded first second piece) (rest : List α) :
    splitAtMark (first :: second :: mark) (piece ++ rest) =
      (splitAtMark (first :: second :: mark) rest).modifyHead (piece ++ ·) := by
  induction piece with
  | nil => exact (congrFun List.modifyHead_id _).symm
  | cons x others ih =>
    have hmark := hpiece.not_prefix mark rest
    unfold splitAtMark at ih ⊢
    rw [List.cons_append] at hmark ⊢
    rw [splitFrom_zero, if_neg hmark, ih hpiece.tail, List.modifyHead_modifyHead]
    rfl

/-- Guarded pieces are found again between marks. -/
theorem splitAtMark_intercalate {pieces : List (List α)} (hne : pieces ≠ [])
    (hpieces : ∀ piece ∈ pieces, Guarded first second piece) :
    splitAtMark (first :: second :: mark) (List.intercalate (first :: second :: mark) pieces) =
      pieces := by
  induction pieces with
  | nil => exact absurd rfl hne
  | cons piece others ih =>
    obtain ⟨hpiece, hothers⟩ := List.forall_mem_cons.mp hpieces
    cases others with
    | nil =>
      have halone : splitAtMark (first :: second :: mark) (piece ++ []) = [piece ++ []] :=
        splitAtMark_append hpiece []
      rw [List.append_nil] at halone
      rw [List.intercalate_singleton, halone]
    | cons next others =>
      rw [List.intercalate_cons_cons, List.append_assoc, splitAtMark_append hpiece,
        splitAtMark_mark, ih (List.cons_ne_nil _ _) hothers, List.modifyHead_cons,
        List.append_nil]

end Split

/-! ### Depth in parentheses -/

namespace Lexeme

/-- The lexemes, each with the number of parentheses that are open before it. A parenthesis that
closes none leaves the number at zero. -/
def withDepth : Nat → List Lexeme → List (Lexeme × Nat)
  | _, [] => []
  | depth, lexeme :: rest => (lexeme, depth) :: withDepth ((depthStep depth lexeme).getD 0) rest

theorem depthAfter_cons_eq_some {depth after : Nat} {lexeme : Lexeme} {rest : List Lexeme}
    (hdepth : depthAfter depth (lexeme :: rest) = some after) :
    ∃ next, depthStep depth lexeme = some next ∧ depthAfter next rest = some after :=
  Option.bind_eq_some_iff.mp hdepth

theorem map_fst_withDepth (depth : Nat) (lexemes : List Lexeme) :
    (withDepth depth lexemes).map Prod.fst = lexemes := by
  induction lexemes generalizing depth with
  | nil => rfl
  | cons lexeme rest ih => rw [withDepth, List.map_cons, ih]

theorem mem_head?_withDepth {lexeme : Lexeme} {lexemes : List Lexeme}
    (hhead : lexeme ∈ lexemes.head?) (depth : Nat) :
    (lexeme, depth) ∈ (withDepth depth lexemes).head? := by
  cases lexemes with
  | nil => cases hhead
  | cons next rest =>
    obtain rfl := Option.some.inj hhead
    rfl

theorem withDepth_append {depth after : Nat} {first : List Lexeme}
    (hfirst : depthAfter depth first = some after) (second : List Lexeme) :
    withDepth depth (first ++ second) = withDepth depth first ++ withDepth after second := by
  induction first generalizing depth with
  | nil =>
    obtain rfl := Option.some.inj hfirst
    rfl
  | cons lexeme rest ih =>
    obtain ⟨next, hstep, hrest⟩ := depthAfter_cons_eq_some hfirst
    rw [List.cons_append, withDepth, withDepth, hstep, Option.getD_some, ih hrest,
      List.cons_append]

theorem depthStep_add {depth after : Nat} {lexeme : Lexeme}
    (hstep : depthStep depth lexeme = some after) (outer : Nat) :
    depthStep (outer + depth) lexeme = some (outer + after) := by
  unfold depthStep at hstep ⊢
  by_cases hopen : lexeme = .outside '('
  · rw [if_pos hopen] at hstep ⊢
    obtain rfl := Option.some.inj hstep
    rfl
  by_cases hclose : lexeme = .outside ')'
  · rw [if_neg hopen, if_pos hclose] at hstep ⊢
    cases depth with
    | zero => cases hstep
    | succ depth =>
      obtain rfl := Option.some.inj hstep
      rfl
  · rw [if_neg hopen, if_neg hclose] at hstep ⊢
    obtain rfl := Option.some.inj hstep
    rfl

/-- Lexemes that close the parentheses they open never stand outside of those that are open
before them. -/
theorem le_of_mem_withDepth {depth after : Nat} {lexemes : List Lexeme}
    (hdepth : depthAfter depth lexemes = some after) (outer : Nat) :
    ∀ tagged ∈ withDepth (outer + depth) lexemes, outer ≤ tagged.2 := by
  induction lexemes generalizing depth with
  | nil => simp [withDepth]
  | cons lexeme rest ih =>
    obtain ⟨next, hstep, hrest⟩ := depthAfter_cons_eq_some hdepth
    rw [withDepth, depthStep_add hstep, Option.getD_some]
    exact List.forall_mem_cons.mpr ⟨Nat.le_add_right outer depth, ih hrest⟩

theorem withDepth_of_notMem {lexemes : List Lexeme} (hopen : .outside '(' ∉ lexemes)
    (hclose : .outside ')' ∉ lexemes) (depth : Nat) :
    withDepth depth lexemes = lexemes.map (·, depth) := by
  induction lexemes with
  | nil => rfl
  | cons lexeme rest ih =>
    have hstep := depthStep_of_ne (List.ne_of_not_mem_cons hopen).symm
      (List.ne_of_not_mem_cons hclose).symm depth
    rw [withDepth, hstep, Option.getD_some, List.map_cons,
      ih (List.not_mem_of_not_mem_cons hopen) (List.not_mem_of_not_mem_cons hclose)]

end Lexeme

/-! ### Conjuncts of a text -/

/-- What stands between conjuncts: ` AND ` outside of literals and parentheses. -/
def conjunctMark : List (Lexeme × Nat) :=
  " AND ".toList.map fun c ↦ (.outside c, 0)

/-- The text between the marks at depth zero, unless a literal is not closed. -/
def conjuncts (text : Text) : Option (List Text) :=
  (Lexeme.read text).map fun lexemes ↦
    (splitAtMark conjunctMark (Lexeme.withDepth 0 lexemes)).map fun piece ↦
      Lexeme.textOf (piece.map Prod.fst)

end KeyPathQuery.Sql
