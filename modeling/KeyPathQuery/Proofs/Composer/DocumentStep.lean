import KeyPathQuery.Proofs.Composer.Step

/-!
What operations do to a document query. It takes the parts of document queries, refuses those of
statements, and projects everything from the start, so making sure of a projection leaves it
alone. An addition is what `DocumentQuery.add?` says.
-/

set_option autoImplicit false
set_option relaxedAutoImplicit false

namespace KeyPathQuery

theorem DocumentQuery.ensureSelectAll_eq (query : DocumentQuery) :
    QueryTarget.ensureSelectAll query = query :=
  ite_self query

instance : LawfulTarget DocumentQuery where
  takesSql := false
  isSome_add? _ fragment := by cases fragment <;> rfl
  ensureSelectAll_of_documents _ := DocumentQuery.ensureSelectAll_eq
  setting_selectAll _ := rfl
  setting_add? {_ _ fragment} hadd := by
    cases fragment with
    | filter | order | projection => cases hadd
    | documentFilter | documentSort | documentProjection =>
      obtain rfl := Option.some.inj hadd
      rfl

theorem DocumentQuery.extend_eq (query : DocumentQuery) (fragment : Fragment) :
    QueryTarget.extend query fragment = (query.add? fragment).getD query := by
  unfold QueryTarget.extend
  rw [ensureSelectAll_eq, ite_self]
  rfl

end KeyPathQuery
