import KeyPathQuery.Text.LowerCase
import Mathlib.Data.List.Infix
import Mathlib.Data.List.TakeWhile

/-!
The lower-case form of a part of a text. Characters are brought to lower case one by one, with one
exception: the small letter of a capital sigma depends on what stands around it. So the lower-case
form of a text holds the lower-case form of a part where every capital sigma of the part keeps its
small letter (`lowerCase_infix_of_keepsSigmas`), and need not hold it elsewhere.

A part can settle the form of a sigma by itself. A cased letter behind the sigma makes it one that
does not end a word; so does a character in front of it that is neither cased nor passed over; and a
cased letter in front of it and a character of that kind behind it make it one that ends a word. In
any other case a letter added to the part on one side changes the sigma, and then the lower-case
form of the part is not there: it has more sigmas of the one form than the whole text
(`count_lowerCaseBetween_lt`).

Main statement: `forall_lowerCase_infix_iff`.
-/

set_option autoImplicit false
set_option relaxedAutoImplicit false

namespace KeyPathQuery.Text

/-! ### Lower case between other characters -/

/-- The lower-case form of a text between the characters `before`, the nearest first, and those
after it. -/
def lowerCaseBetween (before after : Text) : Text → Text
  | [] => []
  | c :: rest => lowerCaseChar before c (rest ++ after) ++ lowerCaseBetween (c :: before) after rest

theorem lowerCaseAfter_append (before text after : Text) :
    lowerCaseAfter before (text ++ after) =
      lowerCaseBetween before after text ++ lowerCaseAfter (text.reverse ++ before) after := by
  induction text generalizing before with
  | nil => rfl
  | cons c rest ih =>
    rw [List.cons_append, lowerCaseAfter, ih, lowerCaseBetween, List.reverse_cons,
      List.append_assoc, List.append_assoc, List.singleton_append]

theorem lowerCaseAfter_eq (before text : Text) :
    lowerCaseAfter before text = lowerCaseBetween before [] text := by
  have happend := lowerCaseAfter_append before text []
  rwa [List.append_nil, lowerCaseAfter, List.append_nil] at happend

/-- A text in lower case is its parts in lower case, each between the others. -/
theorem lowerCase_append (before part after : Text) :
    lowerCase (before ++ part ++ after) =
      lowerCaseBetween [] (part ++ after) before ++ lowerCaseBetween before.reverse after part ++
        lowerCaseAfter (part.reverse ++ before.reverse) after := by
  rw [lowerCase, List.append_assoc, lowerCaseAfter_append, lowerCaseAfter_append, List.append_nil,
    List.append_assoc]

theorem lowerCaseBetween_append (before after front back : Text) :
    lowerCaseBetween before after (front ++ back) =
      lowerCaseBetween before (back ++ after) front ++
        lowerCaseBetween (front.reverse ++ before) after back := by
  induction front generalizing before with
  | nil => rfl
  | cons c front ih =>
    rw [List.cons_append, lowerCaseBetween, ih, lowerCaseBetween, List.reverse_cons,
      List.append_assoc, List.append_assoc, List.append_assoc, List.singleton_append]

/-- What stands around a character matters for a capital sigma only. -/
theorem lowerCaseChar_of_ne {c : Char} (hc : c ≠ 'Σ') (before after otherBefore otherAfter : Text) :
    lowerCaseChar before c after = lowerCaseChar otherBefore c otherAfter := by
  simp only [lowerCaseChar, if_neg hc]

theorem lowerCaseChar_sigma (before after : Text) :
    lowerCaseChar before 'Σ' after = [smallSigma before after] :=
  if_pos rfl

/-! ### Capital sigmas -/

section

variable {text before after otherBefore otherAfter : Text}

/-- Where the capital sigmas have the same small letters, the lower-case forms are the same. -/
theorem lowerCaseBetween_congr
    (hsame : ∀ front back, text = front ++ 'Σ' :: back →
      smallSigma (front.reverse ++ before) (back ++ after) =
        smallSigma (front.reverse ++ otherBefore) (back ++ otherAfter)) :
    lowerCaseBetween before after text = lowerCaseBetween otherBefore otherAfter text := by
  induction text generalizing before otherBefore with
  | nil => rfl
  | cons c rest ih =>
    have hfirst : lowerCaseChar before c (rest ++ after) =
        lowerCaseChar otherBefore c (rest ++ otherAfter) := by
      by_cases hc : c = 'Σ'
      · subst hc
        rw [lowerCaseChar_sigma, lowerCaseChar_sigma]
        exact congrArg (fun letter ↦ [letter]) (hsame [] rest rfl)
      · exact lowerCaseChar_of_ne hc _ _ _ _
    rw [lowerCaseBetween, lowerCaseBetween, hfirst, ih fun front back hrest ↦ ?_]
    simpa using hsame (c :: front) back (by rw [hrest, List.cons_append])

/-- Where fewer capital sigmas have a form, no more characters of that form are there. -/
theorem count_lowerCaseBetween_le {letter : Char}
    (hkept : ∀ front back, text = front ++ 'Σ' :: back →
      smallSigma (front.reverse ++ before) (back ++ after) = letter →
        smallSigma (front.reverse ++ otherBefore) (back ++ otherAfter) = letter) :
    (lowerCaseBetween before after text).count letter ≤
      (lowerCaseBetween otherBefore otherAfter text).count letter := by
  induction text generalizing before otherBefore with
  | nil => exact Nat.le_refl 0
  | cons c rest ih =>
    have hfirst : (lowerCaseChar before c (rest ++ after)).count letter ≤
        (lowerCaseChar otherBefore c (rest ++ otherAfter)).count letter := by
      by_cases hc : c = 'Σ'
      · subst hc
        rw [lowerCaseChar_sigma, lowerCaseChar_sigma, List.count_singleton, List.count_singleton]
        have hsigma := hkept [] rest rfl
        simp only [List.reverse_nil, List.nil_append] at hsigma
        split
        · next hletter => simp [hsigma (by simpa using hletter)]
        · exact Nat.zero_le _
      · rw [lowerCaseChar_of_ne hc]
    rw [lowerCaseBetween, lowerCaseBetween, List.count_append, List.count_append]
    refine Nat.add_le_add hfirst (ih fun front back hrest ↦ ?_)
    simpa using hkept (c :: front) back (by rw [hrest, List.cons_append])

/-- Where moreover one capital sigma loses a form, fewer characters of that form are there. -/
theorem count_lowerCaseBetween_lt {letter : Char} {front back : Text}
    (hkept : ∀ front back, text = front ++ 'Σ' :: back →
      smallSigma (front.reverse ++ before) (back ++ after) = letter →
        smallSigma (front.reverse ++ otherBefore) (back ++ otherAfter) = letter)
    (htext : text = front ++ 'Σ' :: back)
    (hlost : smallSigma (front.reverse ++ before) (back ++ after) ≠ letter)
    (hhad : smallSigma (front.reverse ++ otherBefore) (back ++ otherAfter) = letter) :
    (lowerCaseBetween before after text).count letter <
      (lowerCaseBetween otherBefore otherAfter text).count letter := by
  subst htext
  have hfront : (lowerCaseBetween before ('Σ' :: back ++ after) front).count letter ≤
      (lowerCaseBetween otherBefore ('Σ' :: back ++ otherAfter) front).count letter :=
    count_lowerCaseBetween_le fun first rest hsplit ↦ by
      simpa using hkept first (rest ++ 'Σ' :: back) (by simp [hsplit])
  have hback : (lowerCaseBetween ('Σ' :: front.reverse ++ before) after back).count letter ≤
      (lowerCaseBetween ('Σ' :: front.reverse ++ otherBefore) otherAfter back).count letter :=
    count_lowerCaseBetween_le fun first rest hsplit ↦ by
      simpa using hkept (front ++ 'Σ' :: first) rest (by simp [hsplit])
  rw [lowerCaseBetween_append, lowerCaseBetween_append, lowerCaseBetween, lowerCaseBetween,
    lowerCaseChar_sigma, lowerCaseChar_sigma, hhad]
  simp only [List.count_append, List.count_singleton, beq_iff_eq, hlost, if_false, if_true]
  exact Nat.add_lt_add_of_le_of_lt hfront (Nat.add_lt_add_of_lt_of_le Nat.zero_lt_one hback)

end

/-! ### Sigmas at the end of a word -/

theorem smallSigma_eq_final_iff {before after : Text} :
    smallSigma before after = 'ς' ↔ meetsCased before = true ∧ meetsCased after = false := by
  unfold smallSigma
  cases meetsCased before <;> cases meetsCased after <;> decide

theorem smallSigma_eq_inner_iff {before after : Text} :
    smallSigma before after = 'σ' ↔ meetsCased before = false ∨ meetsCased after = true := by
  unfold smallSigma
  cases meetsCased before <;> cases meetsCased after <;> decide

/-- A search for a letter ends at the first character that is not passed over. -/
theorem meetsCased_append_of_counts {text : Text} (hcounts : ∃ c ∈ text, isCaseIgnorable c = false)
    (rest : Text) : meetsCased (text ++ rest) = meetsCased text := by
  have hne : text.dropWhile isCaseIgnorable ≠ [] := by
    rw [ne_eq, List.dropWhile_eq_nil_iff]
    intro hall
    obtain ⟨c, hmem, hc⟩ := hcounts
    rw [hall c hmem] at hc
    cases hc
  obtain ⟨first, others, hdrop⟩ := List.exists_cons_of_ne_nil hne
  rw [meetsCased, List.dropWhile_append, meetsCased, hdrop]
  rfl

/-- Characters that are passed over do not end a search. -/
theorem meetsCased_append_of_ignorable {text : Text}
    (hignorable : ∀ c ∈ text, isCaseIgnorable c = true) (rest : Text) :
    meetsCased (text ++ rest) = meetsCased rest := by
  rw [meetsCased, List.dropWhile_append_of_pos hignorable, meetsCased]

theorem exists_counts_of_meetsCased {text : Text} (hmeets : meetsCased text = true) :
    ∃ c ∈ text, isCaseIgnorable c = false := by
  by_contra hnone
  have hignorable : ∀ c ∈ text, isCaseIgnorable c = true := by simpa using hnone
  have hempty := meetsCased_append_of_ignorable hignorable []
  rw [List.append_nil, hmeets] at hempty
  cases hempty

theorem meetsCased_append {text : Text} (hmeets : meetsCased text = true) (rest : Text) :
    meetsCased (text ++ rest) = true := by
  rw [meetsCased_append_of_counts (exists_counts_of_meetsCased hmeets), hmeets]

theorem meetsCased_eq_false_of_append {text rest : Text}
    (hmeets : meetsCased (text ++ rest) = false) : meetsCased text = false :=
  Bool.eq_false_iff.mpr fun hcased ↦
    Bool.noConfusion ((meetsCased_append hcased rest).symm.trans hmeets)

/-- The characters before a capital sigma, the nearest first, and those after it settle whether it
ends a word, whatever else stands around them. -/
inductive SettlesSigma (before after : Text) : Prop
  /-- A cased letter follows, so the word goes on. -/
  | goesOn (hafter : meetsCased after = true)
  /-- No word is under way. -/
  | starts (hbefore : ∃ c ∈ before, isCaseIgnorable c = false) (hcased : meetsCased before = false)
  /-- A word is under way and goes on with no letter. -/
  | ends (hcased : meetsCased before = true) (hafter : ∃ c ∈ after, isCaseIgnorable c = false)

theorem SettlesSigma.smallSigma_eq {before after : Text} (hsettles : SettlesSigma before after)
    (farBefore farAfter : Text) :
    smallSigma (before ++ farBefore) (after ++ farAfter) = smallSigma before after := by
  cases hsettles with
  | goesOn hafter =>
    rw [smallSigma_eq_inner_iff.mpr (.inr hafter),
      smallSigma_eq_inner_iff.mpr (.inr (meetsCased_append hafter farAfter))]
  | starts hbefore hcased =>
    have hfar : meetsCased (before ++ farBefore) = false :=
      (meetsCased_append_of_counts hbefore farBefore).trans hcased
    rw [smallSigma_eq_inner_iff.mpr (.inl hcased), smallSigma_eq_inner_iff.mpr (.inl hfar)]
  | ends hcased hafter =>
    have hfar := meetsCased_append_of_counts hafter farAfter
    have hbefore := meetsCased_append hcased farBefore
    simp only [smallSigma, hcased, hbefore, hfar]

/-- A letter in front of or behind what does not settle a sigma changes the sigma: it ends a word
then and did not before, or the other way round. -/
theorem changes_of_not_settlesSigma {before after : Text} (hopen : ¬ SettlesSigma before after) :
    (smallSigma before after = 'σ' ∧ smallSigma (before ++ ['a']) after = 'ς') ∨
      (smallSigma before after = 'ς' ∧ smallSigma before (after ++ ['a']) = 'σ') := by
  have hletter : meetsCased ['a'] = true := by decide +kernel
  have hafter : meetsCased after = false := Bool.eq_false_iff.mpr fun h ↦ hopen (.goesOn h)
  cases hcased : meetsCased before with
  | false =>
    have hignorable : ∀ c ∈ before, isCaseIgnorable c = true := by
      by_contra hcounts
      exact hopen (.starts (by simpa using hcounts) hcased)
    have hfar : meetsCased (before ++ ['a']) = true :=
      (meetsCased_append_of_ignorable hignorable ['a']).trans hletter
    exact .inl ⟨smallSigma_eq_inner_iff.mpr (.inl hcased),
      smallSigma_eq_final_iff.mpr ⟨hfar, hafter⟩⟩
  | true =>
    have hignorable : ∀ c ∈ after, isCaseIgnorable c = true := by
      by_contra hcounts
      exact hopen (.ends hcased (by simpa using hcounts))
    have hfar : meetsCased (after ++ ['a']) = true :=
      (meetsCased_append_of_ignorable hignorable ['a']).trans hletter
    exact .inr ⟨smallSigma_eq_final_iff.mpr ⟨hcased, hafter⟩,
      smallSigma_eq_inner_iff.mpr (.inr hfar)⟩

/-! ### Parts in lower case -/

/-- Between other characters, the nearest first before it, every capital sigma of a text has the
small letter that it has in the text alone. -/
def KeepsSigmas (text before after : Text) : Prop :=
  ∀ front back, text = front ++ 'Σ' :: back →
    smallSigma (front.reverse ++ before) (back ++ after) = smallSigma front.reverse back

/-- A text that settles the form of each of its capital sigmas. -/
def SettlesSigmas (text : Text) : Prop :=
  ∀ front back, text = front ++ 'Σ' :: back → SettlesSigma front.reverse back

theorem settlesSigmas_of_notMem {text : Text} (hnone : 'Σ' ∉ text) : text.SettlesSigmas := by
  rintro front back rfl
  exact absurd (List.mem_append_right front List.mem_cons_self) hnone

theorem SettlesSigmas.keepsSigmas {text : Text} (hsettles : text.SettlesSigmas)
    (before after : Text) : text.KeepsSigmas before after := fun front back htext ↦
  (hsettles front back htext).smallSigma_eq before after

/-- A part whose capital sigmas keep their small letters is found in lower case. -/
theorem lowerCase_infix_of_keepsSigmas {part before after : Text}
    (hkeeps : part.KeepsSigmas before.reverse after) :
    part.lowerCase <:+: (before ++ part ++ after).lowerCase := by
  have halone : lowerCaseBetween before.reverse after part = part.lowerCase := by
    rw [lowerCase, lowerCaseAfter_eq]
    exact lowerCaseBetween_congr fun front back htext ↦ by simpa using hkeeps front back htext
  rw [lowerCase_append, halone]
  exact ⟨_, _, rfl⟩

theorem lowerCase_letter_cons (part : Text) :
    lowerCase ('a' :: part) = 'a' :: lowerCaseBetween ['a'] [] part := by
  rw [← lowerCaseAfter_eq]
  rfl

theorem lowerCase_append_letter (part : Text) :
    lowerCase (part ++ ['a']) = lowerCaseBetween [] ['a'] part ++ ['a'] := by
  rw [lowerCase, lowerCaseAfter_append]
  rfl

/-- A capital sigma that a part does not settle takes another form beside a letter, and then the
whole text has fewer sigmas of the old form than the part alone. -/
theorem exists_not_lowerCase_infix {front back : Text}
    (hopen : ¬ SettlesSigma front.reverse back) :
    ∃ whole : Text, front ++ 'Σ' :: back <:+: whole ∧
      ¬ (front ++ 'Σ' :: back).lowerCase <:+: whole.lowerCase := by
  have hcount (whole : Text) (letter : Char)
      (hfewer : whole.lowerCase.count letter < (front ++ 'Σ' :: back).lowerCase.count letter) :
      ¬ (front ++ 'Σ' :: back).lowerCase <:+: whole.lowerCase := fun hfound ↦
    Nat.not_lt.mpr (hfound.sublist.count_le letter) hfewer
  rcases changes_of_not_settlesSigma hopen with ⟨hwas, hnow⟩ | ⟨hwas, hnow⟩
  · -- A letter in front ends more words, so there are fewer sigmas within words.
    refine ⟨'a' :: (front ++ 'Σ' :: back), ⟨['a'], [], by simp⟩, hcount _ 'σ' ?_⟩
    rw [lowerCase_letter_cons, List.count_cons_of_ne (by decide), lowerCase, lowerCaseAfter_eq]
    refine count_lowerCaseBetween_lt (fun first rest _ hinner ↦ ?_) rfl ?_ ?_
    · simp only [smallSigma_eq_inner_iff, List.append_nil] at hinner ⊢
      exact hinner.imp_left meetsCased_eq_false_of_append
    · simp [hnow]
    · simpa using hwas
  · -- A letter behind ends fewer words.
    refine ⟨front ++ 'Σ' :: back ++ ['a'], ⟨[], ['a'], by simp⟩, hcount _ 'ς' ?_⟩
    rw [lowerCase_append_letter, List.count_append, List.count_singleton, if_neg (by decide),
      Nat.add_zero, lowerCase, lowerCaseAfter_eq]
    refine count_lowerCaseBetween_lt (fun first rest _ hfinal ↦ ?_) rfl ?_ ?_
    · simp only [smallSigma_eq_final_iff, List.append_nil] at hfinal ⊢
      exact hfinal.imp_right meetsCased_eq_false_of_append
    · simp [hnow]
    · simpa using hwas

/-- A text is found in lower case in every text that holds it exactly if it settles the form of its
capital sigmas. -/
theorem forall_lowerCase_infix_iff {part : Text} :
    (∀ whole : Text, part <:+: whole → part.lowerCase <:+: whole.lowerCase) ↔
      part.SettlesSigmas := by
  constructor
  · rintro hfound front back rfl
    by_contra hopen
    obtain ⟨whole, hwhole, hnot⟩ := exists_not_lowerCase_infix hopen
    exact hnot (hfound whole hwhole)
  · rintro hsettles _ ⟨before, after, rfl⟩
    exact lowerCase_infix_of_keepsSigmas (hsettles.keepsSigmas _ _)

end KeyPathQuery.Text
