import KeyPathQuery.Phrasing.Dotted
import KeyPathQuery.Phrasing.FunctionCall
import KeyPathQuery.Phrasing.OperatorChain
import KeyPathQuery.Phrasing.RootColumn

/-!
The phrasing of requests as the fragments of each dialect. It looks at a path and a request
and at nothing else, so the same request always gives the same fragment. Only documents have
requests they cannot express.
-/

set_option autoImplicit false
set_option relaxedAutoImplicit false

namespace KeyPathQuery

/-- The fragment of a request in a dialect. -/
def Dialect.phrase (dialect : Dialect) (path : KeyPath) (request : Request) :
    Except FilterError Fragment :=
  match dialect with
  | .sqlFunction => .ok (Phrasing.FunctionCall.extraction.phrase path request)
  | .sqlOperator => .ok (Phrasing.OperatorChain.extraction.phrase path request)
  | .document => Phrasing.Dotted.phrase path request
  | .generic => .ok (Phrasing.RootColumn.extraction.phrase path request)

end KeyPathQuery
