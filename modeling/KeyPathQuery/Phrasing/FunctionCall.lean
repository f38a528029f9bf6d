import KeyPathQuery.Phrasing.Extraction

/-!
Extraction by calls of functions: `meta->profile->country` becomes
`JSON_UNQUOTE(JSON_EXTRACT(meta, '$.profile.country'))`. A leg of the path literal that is no
plain identifier stands between double quotation marks.
-/

set_option autoImplicit false
set_option relaxedAutoImplicit false

namespace KeyPathQuery.Phrasing.FunctionCall

open Sql

/-- One leg of a path literal. -/
def leg (segment : Text) : Text :=
  if isIdentifier segment then '.' :: segment else ['.', '"'] ++ segment ++ ['"']

/-- The path literal of the segments of a path. -/
def pathLiteral (path : KeyPath) : Expression :=
  .string ('$' :: path.segments.flatMap leg)

/-- The JSON value at a path. -/
def extracted (path : KeyPath) : Expression :=
  .call "JSON_EXTRACT".toList [.rootColumn path, pathLiteral path]

/-- The value at a path as a text that compares. -/
def unquoted (path : KeyPath) : Expression :=
  .call "JSON_UNQUOTE".toList [extracted path]

/-- The test that the value at a path is there and not null. An explicit JSON null also counts
as a contained path, so its type is asked for as well. -/
def present (path : KeyPath) : Expression :=
  if path.isNested then
    .nested (.binary
      (.call "JSON_CONTAINS_PATH".toList [.rootColumn path, .string "one".toList, pathLiteral path])
      .and
      (.binary (.call "JSON_TYPE".toList [extracted path]) .notEqual (.string "NULL".toList)))
  else .isNotNull (.rootColumn path)

/-- Extraction by calls of functions. -/
def extraction : Extraction where
  values := unquoted
  present := present
  compare := compareValue
  defaultName := KeyPath.defaultAlias

end KeyPathQuery.Phrasing.FunctionCall
