import KeyPathQuery.Phrasing

/-!
Searches in SQL are literal. A search becomes a LIKE predicate whose pattern is the searched text
between two wildcards, with an escape character in front of every character of the text that a
pattern would not take as it is, the escape character included. A store that tries every place for a
wildcard finds such a pattern in a text exactly if the searched text lies in it as one block.

The pattern is read from left to right: `fits_literally_append` says that the escaped part takes the
searched text and nothing else off the front, and `fits_anyText` that a wildcard takes any text off.

Main statement: `phrase_searchesFor`.
-/

set_option autoImplicit false
set_option relaxedAutoImplicit false

namespace KeyPathQuery

open Sql Phrasing

namespace Sql.Like

variable {c : Char} {rest text : Text}

theorem someSuffix_iff {test : Text → Bool} :
    someSuffix test text = true ↔ ∃ suffix, suffix <:+ text ∧ test suffix = true := by
  induction text with
  | nil => simp [someSuffix]
  | cons c rest ih =>
    rw [someSuffix, Bool.or_eq_true, ih]
    simp only [List.suffix_cons_iff, or_and_right, exists_or, exists_eq_left]

/-- A test of the first character and of what is behind it. -/
theorem beq_head_and_iff {d : Char} {behind : Text} {test : Text → Bool} :
    (c == d && test behind) = true ↔ ∃ others, d :: behind = c :: others ∧ test others = true := by
  rw [Bool.and_eq_true, beq_iff_eq]
  constructor
  · rintro ⟨rfl, htest⟩
    exact ⟨behind, rfl, htest⟩
  · rintro ⟨_, heq, htest⟩
    obtain ⟨rfl, rfl⟩ := List.cons.inj heq
    exact ⟨rfl, htest⟩

/-- A pattern is taken apart at its first character. -/
theorem fits_cons :
    fits escape (c :: rest) text =
      if c = escape then
        match rest, text with
        | literal :: rest, d :: text => literal == d && fits escape rest text
        | _, _ => false
      else if c = '%' then someSuffix (fits escape rest) text
      else
        match text with
        | d :: text => (c == '_' || c == d) && fits escape rest text
        | [] => false :=
  fits.eq_def escape (c :: rest) text

/-- A wildcard takes any text off the front. -/
theorem fits_anyText :
    fits escape ('%' :: rest) text = true ↔
      ∃ suffix, suffix <:+ text ∧ fits escape rest suffix = true := by
  rw [fits_cons, if_neg (by decide), if_pos rfl, someSuffix_iff]

/-- An escape character takes the character behind it off the front, whatever that is. -/
theorem fits_escaped :
    fits escape (escape :: c :: rest) text = true ↔
      ∃ others, text = c :: others ∧ fits escape rest others = true := by
  rw [fits_cons, if_pos rfl]
  cases text with
  | nil => simp
  | cons d behind => exact beq_head_and_iff

/-- A character that is not special takes itself off the front. -/
theorem fits_plain (hc : isSpecial c = false) :
    fits escape (c :: rest) text = true ↔
      ∃ others, text = c :: others ∧ fits escape rest others = true := by
  obtain ⟨⟨hwildcard, hany⟩, hescape⟩ : (c ≠ '%' ∧ c ≠ '_') ∧ c ≠ escape := by
    simpa [isSpecial] using hc
  rw [fits_cons, if_neg hescape, if_neg hwildcard]
  cases text with
  | nil => simp
  | cons d behind =>
    dsimp only
    rw [beq_eq_false_iff_ne.mpr hany, Bool.false_or, beq_head_and_iff]

/-- An escaped text takes itself off the front, and the rest of the pattern goes on behind it. -/
theorem fits_literally_append (search : Text) :
    fits escape (literally search ++ rest) text = true ↔
      ∃ others, text = search ++ others ∧ fits escape rest others = true := by
  induction search generalizing text with
  | nil => simp [literally]
  | cons c search ih =>
    have hcons : literally (c :: search) =
        (if isSpecial c then [escape, c] else [c]) ++ literally search := rfl
    have htakes : fits escape (literally (c :: search) ++ rest) text = true ↔
        ∃ others, text = c :: others ∧ fits escape (literally search ++ rest) others = true := by
      cases hspecial : isSpecial c with
      | true => simpa [hcons, hspecial] using fits_escaped
      | false => simpa [hcons, hspecial] using fits_plain hspecial
    rw [htakes]
    constructor
    · rintro ⟨_, rfl, hfits⟩
      obtain ⟨others, rfl, hrest⟩ := ih.mp hfits
      exact ⟨others, rfl, hrest⟩
    · rintro ⟨others, rfl, hrest⟩
      exact ⟨search ++ others, rfl, ih.mpr ⟨others, rfl, hrest⟩⟩

/-- A text fits the pattern of a search exactly if the searched text lies in it as one block. -/
theorem fits_containsPattern_iff {search : Text} :
    fits escape (containsPattern search) text = true ↔ search <:+: text := by
  have hlast (others : Text) : fits escape ['%'] others = true :=
    fits_anyText.mpr ⟨[], List.nil_suffix, rfl⟩
  have hpattern : containsPattern search = '%' :: (literally search ++ ['%']) := rfl
  rw [hpattern, fits_anyText, List.infix_iff_prefix_suffix]
  constructor
  · rintro ⟨suffix, hsuffix, hfits⟩
    obtain ⟨others, rfl, -⟩ := (fits_literally_append search).mp hfits
    exact ⟨search ++ others, List.prefix_append search others, hsuffix⟩
  · rintro ⟨suffix, ⟨others, rfl⟩, hsuffix⟩
    have hfits := (fits_literally_append search).mpr ⟨others, rfl, hlast others⟩
    exact ⟨search ++ others, hsuffix, hfits⟩

end Sql.Like

/-- A predicate looks for a text in an expression: it binds a pattern that a text fits, with the
escape character of the predicate, exactly if the searched text lies in it as one block. -/
def Sql.Expression.SearchesFor (predicate target : Expression) (search : Text) : Prop :=
  ∃ pattern escape, predicate = .like target (.bind (.string pattern)) escape ∧
    ∀ text, Like.fits escape pattern text = true ↔ search <:+: text

theorem Sql.Expression.searchesFor_textContains (target : Expression) (search : Text) :
    (textContains target search).SearchesFor target search :=
  ⟨_, _, rfl, fun _ ↦ Like.fits_containsPattern_iff⟩

/-- A dialect phrases a request as a search for a text in an expression. -/
def Dialect.PhrasesAsSearch (dialect : Dialect) (path : KeyPath) (request : Request)
    (target : Expression) (search : Text) : Prop :=
  ∃ predicate, dialect.phrase path request = .ok (.filter predicate) ∧
    predicate.SearchesFor target search

/-- Every dialect of SQL asks whether a text is contained by a literal search for it. Where there
are no functions for JSON, comparisons are literal searches too, for the text of the value and
whatever the operator. -/
theorem phrase_searchesFor :
    (∀ (target : Expression) (search : Text),
      (Expression.textContains target search).SearchesFor target search) ∧
    (∀ (path : KeyPath) (search : Text),
      Dialect.sqlFunction.PhrasesAsSearch path (.contains search) (FunctionCall.unquoted path)
        search ∧
      Dialect.sqlOperator.PhrasesAsSearch path (.contains search) (OperatorChain.chain path)
        search ∧
      Dialect.generic.PhrasesAsSearch path (.contains search) (.rootColumn path) search) ∧
    (∀ (path : KeyPath) (comparison : Comparison) (value : Json),
      Dialect.generic.PhrasesAsSearch path (.compare comparison value) (.rootColumn path)
        (RootColumn.valueText value)) := by
  have hsearches := Expression.searchesFor_textContains
  refine ⟨hsearches, fun path search ↦ ⟨?_, ?_, ?_⟩, fun path comparison value ↦ ?_⟩
  · exact ⟨_, rfl, hsearches _ search⟩
  · exact ⟨_, rfl, hsearches _ search⟩
  · exact ⟨_, rfl, hsearches _ search⟩
  · exact ⟨_, rfl, hsearches _ (RootColumn.valueText value)⟩

/-- Neither a wildcard nor the escape character of a search stands for anything else. -/
example :
    Like.fits Like.escape (Like.containsPattern "5_%!".toList) "a5_%!b".toList = true ∧
      Like.fits Like.escape (Like.containsPattern "5_%!".toList) "a55%!b".toList = false := by
  cbv

end KeyPathQuery
