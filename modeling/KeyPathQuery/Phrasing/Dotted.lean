import KeyPathQuery.Document.Pattern
import KeyPathQuery.Phrasing.Request

/-!
Phrasing for document stores. Nothing is extracted: `meta->profile->country` is the address
`meta.profile.country`, and every request is a clause, a sort or a projection on that address.
-/

set_option autoImplicit false
set_option relaxedAutoImplicit false

namespace KeyPathQuery.Phrasing.Dotted

/-- The clause that puts a condition on the value at a path. -/
def clause (path : KeyPath) (condition : Json.Fields) : Fragment :=
  .documentFilter [(path.dotted, .object condition)]

/-- The entry of a projection: the address itself, or a name for what the address holds. -/
def projection (path : KeyPath) : Option Text → Fragment
  | some name => .documentProjection name (.string ('$' :: path.dotted))
  | none => .documentProjection path.dotted (.integer 1)

/-- The fragment of a request. A comparison needs an operator of the store. -/
def phrase (path : KeyPath) : Request → Except FilterError Fragment
  | .compare comparison value =>
    match comparison.documentOperator? with
    | some operator => .ok (clause path [(operator, value)])
    | none => .error (.inexpressible .document (.noDocumentOperator comparison))
  | .memberOf values => .ok (clause path [("$in".toList, .array values)])
  | .contains search =>
    .ok (clause path [("$regex".toList, .string (Document.literalPattern search)),
      ("$options".toList, .string ['i'])])
  | .present => .ok (clause path [("$exists".toList, .boolean true), ("$ne".toList, .null)])
  | .orderBy direction => .ok (.documentSort path.dotted direction)
  | .select resultName => .ok (projection path resultName)

end KeyPathQuery.Phrasing.Dotted
