import KeyPathQuery.Proofs.KeyPath.Grammar

/-!
The name that a projection of a key path gets by itself. It is made from the written path as a
whole: every delimiter becomes an underscore, and then every character that no identifier holds.
Delimiters are looked for where texts are cut into pieces (`underscoreDelimiters_eq`), and the
pieces of a written path are its root and its segments, hyphens at their ends included, so the name
follows the path piece by piece.

Main statement: `defaultAlias_identifies_and_follows`.
-/

set_option autoImplicit false
set_option relaxedAutoImplicit false

namespace KeyPathQuery.KeyPath

/-- Delimiters are replaced where a text is cut. -/
theorem underscoreDelimiters_eq (text : Text) :
    underscoreDelimiters text = (pieces text).1 ++ (pieces text).2.flatMap ('_' :: ·) := by
  fun_induction pieces text with
  | case1 => rfl
  | case2 rest first others heq ih => simpa [underscoreDelimiters, heq] using ih
  | case3 c rest hdelimiter first others heq ih =>
    rw [underscoreDelimiters.eq_3 c rest hdelimiter, ih, heq, List.cons_append]

/-- In a written path each delimiter becomes one underscore, and nothing else changes. -/
theorem underscoreDelimiters_text (path : KeyPath) :
    underscoreDelimiters path.text = path.root ++ path.segments.flatMap ('_' :: ·) := by
  rw [underscoreDelimiters_eq, pieces_text]

theorem defaultAlias_eq (path : KeyPath) :
    path.defaultAlias = (path.root ++ path.segments.flatMap ('_' :: ·)).map
      fun c ↦ if isIdentifierChar c then c else '_' := by
  rw [defaultAlias, underscoreDelimiters_text]

/-- The default alias starts as the root of the path does. -/
theorem isIdentifier_defaultAlias (path : KeyPath) : isIdentifier path.defaultAlias = true := by
  obtain ⟨first, rest, hroot, hfirst⟩ := path.exists_root_eq_cons
  rw [defaultAlias_eq, hroot, List.cons_append, List.map_cons,
    if_pos (isIdentifierChar_of_start hfirst)]
  refine isIdentifier_iff.mpr ⟨first, _, rfl, hfirst, List.forall_mem_map.mpr fun c _ ↦ ?_⟩
  split_ifs with hc
  · exact hc
  · decide

/-- The default alias of a path is an identifier, and it is the root and the segments with one
underscore in front of each segment, every character that no identifier holds replaced by an
underscore. -/
theorem defaultAlias_identifies_and_follows (path : KeyPath) :
    isIdentifier path.defaultAlias = true ∧
      path.defaultAlias = (path.root ++ path.segments.flatMap ('_' :: ·)).map
        fun c ↦ if isIdentifierChar c then c else '_' :=
  ⟨path.isIdentifier_defaultAlias, path.defaultAlias_eq⟩

/-- Hyphens beside a delimiter are replaced one by one, and the delimiter as one. -/
example : (parse "t.m->a-->-b".toList).toOption.map defaultAlias = some "t_m_a___b".toList := by
  decide

end KeyPathQuery.KeyPath
