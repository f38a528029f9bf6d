import KeyPathQuery.Proofs.Composer.Reading
import KeyPathQuery.Proofs.Composer.Step

/-!
The kinds of operations. Four of the six operations put a condition on the result, one orders it
and one adds to it, and a fragment is of the kind of its operation in whatever dialect
(`kind_phrase`). The part of a query that a fragment adds to is told by its kind and its family
(`Fragment.part_eq`).
-/

set_option autoImplicit false
set_option relaxedAutoImplicit false

namespace KeyPathQuery

open Phrasing

/-- What an operation has a say in. -/
inductive Operation.Kind where
  | condition
  | ordering
  | projection
deriving DecidableEq, Repr

/-- The kind of an operation. -/
def Operation.kind : Operation → Kind
  | .filter _ _ _ | .whereIn _ _ | .contains _ _ | .present _ => .condition
  | .orderBy _ _ => .ordering
  | .select _ => .projection

/-- The kind of the operations that a fragment comes from. -/
def Fragment.kind : Fragment → Operation.Kind
  | .filter _ | .documentFilter _ => .condition
  | .order _ | .documentSort _ _ => .ordering
  | .projection _ | .documentProjection _ _ => .projection

/-- The part of a statement or of a document query that operations of a kind add to. -/
def Operation.Kind.part (ofStatement : Bool) : Operation.Kind → QueryPart
  | .condition => if ofStatement then .rawFilter else .documentFilter
  | .ordering => if ofStatement then .rawOrder else .documentSort
  | .projection => if ofStatement then .rawProjection else .documentProjection

theorem Fragment.part_eq (fragment : Fragment) :
    fragment.part = fragment.kind.part fragment.isSql := by
  cases fragment <;> rfl

theorem Phrasing.Extraction.kind_phrase (extraction : Extraction) (path : KeyPath)
    {operation : Operation} {request : Request} (hspells : operation.Spells request) :
    (extraction.phrase path request).kind = operation.kind := by
  cases hspells <;> rfl

theorem Phrasing.Dotted.kind_phrase {path : KeyPath} {operation : Operation} {request : Request}
    (hspells : operation.Spells request) {fragment : Fragment}
    (hphrase : Dotted.phrase path request = .ok fragment) : fragment.kind = operation.kind := by
  cases hspells with
  | filter path operator value =>
    simp only [Dotted.phrase] at hphrase
    split at hphrase
    · obtain rfl := Except.ok.inj hphrase
      rfl
    · cases hphrase
  | select selection hname =>
    obtain rfl := Except.ok.inj hphrase
    unfold Dotted.projection
    split <;> rfl
  | whereIn | contains | present | orderBy =>
    obtain rfl := Except.ok.inj hphrase
    rfl

/-- An operation is phrased as a fragment of its kind. -/
theorem Dialect.kind_phrase {dialect : Dialect} {path : KeyPath} {operation : Operation}
    {request : Request} (hspells : operation.Spells request) {fragment : Fragment}
    (hphrase : dialect.phrase path request = .ok fragment) : fragment.kind = operation.kind := by
  cases dialect with
  | document => exact Dotted.kind_phrase hspells hphrase
  | sqlFunction | sqlOperator | generic =>
    obtain rfl := Except.ok.inj hphrase
    exact Extraction.kind_phrase _ path hspells

/-- An operation adds a fragment of its kind. -/
theorem Composer.kind_fragmentFor {τ : Type} [QueryTarget τ] [LawfulTarget τ] {composer : Composer}
    {query : τ} {operation : Operation} {fragment : Fragment}
    (hfragment : composer.fragmentFor query operation = .ok fragment) :
    fragment.kind = operation.kind := by
  obtain ⟨hphrase, -⟩ := fragmentFor_eq_ok_iff.mp hfragment
  obtain ⟨path, request, hread, hdialect⟩ := phrase_eq_ok_iff.mp hphrase
  exact Dialect.kind_phrase (Operation.spells_of_read_eq_ok hread) hdialect

end KeyPathQuery
