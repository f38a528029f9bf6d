import KeyPathQuery.Phrasing.FunctionCall

/-!
Reading path literals back. A literal is a dollar sign and then legs, each a point with an
identifier or with a name between double quotation marks. A reader of legs need not know which
segments were quoted: an identifier ends where the next point stands, a quoted name at the next
quotation mark, and a segment holds neither.

Main statement: `readLiteral?_segments`.
-/

set_option autoImplicit false
set_option relaxedAutoImplicit false

namespace KeyPathQuery

namespace Phrasing.FunctionCall

/-- The names of the legs of a path literal, each a point and then an identifier or a name between
double quotation marks. -/
def readLegs? (text : Text) : Option (List Text) :=
  match text with
  | [] => some []
  | '.' :: '"' :: rest =>
    match _ : Text.cut rest ['"'] with
    | some (name, after) => (readLegs? after).map (name :: ·)
    | none => none
  | '.' :: rest =>
    if isIdentifier (rest.takeWhile isIdentifierChar) then
      (readLegs? (rest.dropWhile isIdentifierChar)).map (rest.takeWhile isIdentifierChar :: ·)
    else none
  | _ => none
termination_by text.length
decreasing_by
  · have hlength := congrArg List.length (Text.cut_eq_some ‹_›)
    simp only [List.length_append, List.length_cons, List.length_nil] at hlength ⊢
    omega
  · have hlength := (List.dropWhile_sublist (l := rest) isIdentifierChar).length_le
    simp only [List.length_cons]
    omega

/-- The names of the legs of a path literal. -/
def readLiteral? : Text → Option (List Text)
  | '$' :: legs => readLegs? legs
  | _ => none

theorem readLegs?_nil : readLegs? [] = some [] := by
  rw [readLegs?]

theorem readLegs?_quoted {segment : Text} (hsegment : '"' ∉ segment) (rest : Text) :
    readLegs? ('.' :: '"' :: (segment ++ '"' :: rest)) = (readLegs? rest).map (segment :: ·) := by
  have hcut := Text.cut_append_cons hsegment rest
  rw [readLegs?]
  split
  · next name after hfound =>
    rw [hcut] at hfound
    obtain ⟨rfl, rfl⟩ := Prod.mk.inj (Option.some.inj hfound)
    rfl
  · next hnone => rw [hcut] at hnone; cases hnone

theorem readLegs?_identifier {segment rest : Text} (hsegment : isIdentifier segment = true)
    (hrest : rest.takeWhile isIdentifierChar = []) :
    readLegs? ('.' :: (segment ++ rest)) = (readLegs? rest).map (segment :: ·) := by
  have hchars : ∀ c ∈ segment, isIdentifierChar c = true := fun c hc ↦
    isIdentifierChar_of_mem hsegment hc
  have hname : (segment ++ rest).takeWhile isIdentifierChar = segment := by
    rw [List.takeWhile_append_of_pos hchars, hrest, List.append_nil]
  have hafter : (segment ++ rest).dropWhile isIdentifierChar = rest := by
    have hall := List.takeWhile_append_dropWhile (p := isIdentifierChar) (l := segment ++ rest)
    rw [hname] at hall
    exact List.append_cancel_left hall
  obtain ⟨first, others, rfl, hfirst, -⟩ := isIdentifier_iff.mp hsegment
  -- The leg is not taken for a quoted one, since an identifier does not start with a mark.
  have hmark : first ≠ '"' := by rintro rfl; exact absurd hfirst (by decide)
  have hunquoted (name : Text) (hmarked : first :: others ++ rest = '"' :: name) : False :=
    hmark (List.cons.inj hmarked).1
  rw [readLegs?.eq_3 _ hunquoted, hname, hafter, if_pos hsegment]

/-- Where legs start, no identifier goes on. -/
theorem takeWhile_flatMap_leg (segments : List Text) :
    (segments.flatMap leg).takeWhile isIdentifierChar = [] := by
  cases segments with
  | nil => rfl
  | cons segment rest =>
    simp only [List.flatMap_cons, leg]
    split <;> simp [isIdentifierChar_point]

theorem readLegs?_flatMap_leg {segments : List Text}
    (hsegments : ∀ segment ∈ segments, isSegmentName segment = true) :
    readLegs? (segments.flatMap leg) = some segments := by
  induction segments with
  | nil => exact readLegs?_nil
  | cons segment rest ih =>
    obtain ⟨hsegment, hrest⟩ := List.forall_mem_cons.mp hsegments
    have hread : readLegs? (leg segment ++ rest.flatMap leg) =
        (readLegs? (rest.flatMap leg)).map (segment :: ·) := by
      cases hidentifier : isIdentifier segment with
      | true =>
        simpa [leg, hidentifier] using
          readLegs?_identifier hidentifier (takeWhile_flatMap_leg rest)
      | false =>
        simpa [leg, hidentifier] using
          readLegs?_quoted (notMem_of_isSegmentName hsegment (by decide)) (rest.flatMap leg)
    rw [List.flatMap_cons, hread, ih hrest]
    rfl

/-- The legs of the literal of a key path are its segments. -/
theorem readLiteral?_segments (path : KeyPath) :
    readLiteral? ('$' :: path.segments.flatMap leg) = some path.segments :=
  readLegs?_flatMap_leg path.segments_areNames

end Phrasing.FunctionCall

end KeyPathQuery
