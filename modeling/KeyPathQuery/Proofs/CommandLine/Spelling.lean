import KeyPathQuery.CommandLine.Occurrence
import Mathlib.Data.List.Pairwise

/-!
The grammar of the arguments. An argument names an option by its long name or its letter, and the
values of the option are attached to it or follow it (`Spelling`); a list of arguments spells
occurrences one after another, and may end with two hyphens (`Spells`). Apart from that the order
and the spelling are free, and what occurrences have to satisfy together does not look at spelling
at all (`Fits`): options that do not name operations occur once, the path of a configuration is
not empty, and neither help nor the version is asked for.

Main statement: `readFrom_eq_ok_iff`, by which these two are all that the reader asks.
-/

set_option autoImplicit false
set_option relaxedAutoImplicit false

namespace KeyPathQuery.CommandLine

/-! ### One argument -/

namespace Setting

theorem longName_eq_of_ofLongName? {name : Text} {setting : Setting}
    (hfound : ofLongName? name = some setting) : setting.longName = name := by
  simpa using List.find?_some hfound

theorem longName_ne_nil (setting : Setting) : setting.longName ≠ [] := by
  cases setting <;> decide

theorem equals_notMem_longName (setting : Setting) : '=' ∉ setting.longName := by
  cases setting <;> decide

theorem letter_ne_hyphen {setting : Setting} {letter : Char}
    (hletter : setting.letter? = some letter) : letter ≠ '-' := by
  rintro rfl
  cases setting <;> cases hletter

end Setting

namespace Argument

/-- The arguments that name an option, with the value that is attached to them. Behind the letter
of an option without values anything may stand. -/
inductive Names : Text → Setting → Option Text → Prop
  | long (setting : Setting) : Names ('-' :: '-' :: setting.longName) setting none
  | longEquals (setting : Setting) (value : Text) :
    Names ('-' :: '-' :: (setting.longName ++ '=' :: value)) setting (some value)
  | letter {setting : Setting} {letter : Char} (hletter : setting.letter? = some letter) :
    Names ['-', letter] setting none
  | letterEquals {setting : Setting} {letter : Char} (hletter : setting.letter? = some letter)
    (harity : setting.arity ≠ 0) (value : Text) :
    Names ('-' :: letter :: '=' :: value) setting (some value)
  | letterValue {setting : Setting} {letter : Char} (hletter : setting.letter? = some letter)
    (harity : setting.arity ≠ 0) {c : Char} (hc : c ≠ '=') (rest : Text) :
    Names ('-' :: letter :: c :: rest) setting (some (c :: rest))
  | letterOnly {setting : Setting} {letter : Char} (hletter : setting.letter? = some letter)
    (harity : setting.arity = 0) (behind : Text) : Names ('-' :: letter :: behind) setting none

theorem classify_long {long : Text} (hlong : long ≠ []) :
    classify ('-' :: '-' :: long) =
      match Setting.ofLongName? (long.takeWhile (· != '=')) with
      | none => .unknown
      | some setting =>
        match long.dropWhile (· != '=') with
        | _ :: attached => .option setting (some attached)
        | [] => .option setting none := by
  cases long with
  | nil => exact absurd rfl hlong
  | cons c rest => rfl

theorem classify_letter {letter : Char} (hletter : letter ≠ '-') (behind : Text) :
    classify ('-' :: letter :: behind) =
      match Setting.ofLetter? letter with
      | some setting => ofLetters setting behind
      | none => .unknown :=
  classify.eq_3 letter behind (fun hhyphen _ ↦ hletter hhyphen) hletter

theorem exists_ofLetters_eq (setting : Setting) (behind : Text) :
    ∃ attached, ofLetters setting behind = .option setting attached := by
  unfold ofLetters
  split
  · exact ⟨none, rfl⟩
  · split <;> exact ⟨_, rfl⟩

/-- A hyphen and more is an option, or looks like one, apart from two hyphens alone. -/
theorem classify_hyphen {c : Char} {rest : Text} (hmark : c :: rest ≠ ['-']) :
    classify ('-' :: c :: rest) = .unknown ∨
      ∃ setting attached, classify ('-' :: c :: rest) = .option setting attached := by
  by_cases hc : c = '-'
  · subst hc
    rw [classify_long fun hempty ↦ hmark (hempty ▸ rfl)]
    split
    · exact .inl rfl
    · split <;> exact .inr ⟨_, _, rfl⟩
  · rw [classify_letter hc]
    split
    next setting _ => exact .inr ⟨setting, exists_ofLetters_eq setting rest⟩
    · exact .inl rfl

theorem classify_of_not_hyphen {text : Text} (htext : text = ['-'] ∨ text.head? ≠ some '-') :
    classify text = .value := by
  rcases htext with rfl | hhead
  · rfl
  · unfold classify
    split <;> simp_all

theorem Names.classify_eq {text : Text} {setting : Setting} {attached : Option Text}
    (hnames : Names text setting attached) : classify text = .option setting attached := by
  have hname (setting : Setting) : ∀ c ∈ setting.longName, (c != '=') = true := by
    rintro c hc
    rw [bne_iff_ne]
    rintro rfl
    exact setting.equals_notMem_longName hc
  have hspan (setting : Setting) (rest : Text) (hrest : ∀ c ∈ rest.head?, (c != '=') = false) :
      (setting.longName ++ rest).takeWhile (· != '=') = setting.longName ∧
        (setting.longName ++ rest).dropWhile (· != '=') = rest :=
    Text.span_append (hname setting) hrest
  cases hnames with
  | long =>
    obtain ⟨htake, hdrop⟩ := hspan setting [] (by simp)
    rw [List.append_nil] at htake hdrop
    rw [classify_long setting.longName_ne_nil, htake, hdrop, Setting.ofLongName?_longName]
  | longEquals _ value =>
    obtain ⟨htake, hdrop⟩ := hspan setting ('=' :: value) (by simp)
    rw [classify_long (by simp), htake, hdrop, Setting.ofLongName?_longName]
  | letter hletter =>
    rw [classify_letter (Setting.letter_ne_hyphen hletter),
      Setting.ofLetter?_eq_some_iff.mpr hletter]
    simp [ofLetters]
  | letterEquals hletter harity value =>
    rw [classify_letter (Setting.letter_ne_hyphen hletter),
      Setting.ofLetter?_eq_some_iff.mpr hletter]
    simp [ofLetters, harity]
  | letterValue hletter harity hc rest =>
    rw [classify_letter (Setting.letter_ne_hyphen hletter),
      Setting.ofLetter?_eq_some_iff.mpr hletter]
    simp [ofLetters, harity, hc]
  | letterOnly hletter harity behind =>
    rw [classify_letter (Setting.letter_ne_hyphen hletter),
      Setting.ofLetter?_eq_some_iff.mpr hletter]
    simp [ofLetters, harity]

theorem names_of_ofLetters {setting named : Setting} {letter : Char} {behind : Text}
    {attached : Option Text} (hletter : setting.letter? = some letter)
    (hoption : ofLetters setting behind = .option named attached) :
    Names ('-' :: letter :: behind) named attached := by
  unfold ofLetters at hoption
  split at hoption
  next harity =>
    cases hoption
    exact .letterOnly hletter harity behind
  next harity =>
    split at hoption
    · cases hoption
      exact .letter hletter
    · cases hoption
      exact .letterEquals hletter harity _
    next hequals =>
      cases hoption
      cases behind with
      | nil => simp_all
      | cons c rest =>
        exact .letterValue hletter harity (fun hc ↦ hequals rest (hc ▸ rfl)) rest

theorem names_of_classify {text : Text} {setting : Setting} {attached : Option Text}
    (hoption : classify text = .option setting attached) : Names text setting attached := by
  unfold classify at hoption
  split at hoption
  · cases hoption
  next long hlong =>
    have hsplit := List.takeWhile_append_dropWhile (p := (· != '=')) (l := long)
    simp only at hoption
    split at hoption
    · cases hoption
    next named hnamed =>
      rw [← Setting.longName_eq_of_ofLongName? hnamed] at hsplit
      split at hoption
      next c value hdrop =>
        have hc : (c != '=') = false := by
          have hhead := List.head?_dropWhile_not (· != '=') long
          rw [hdrop] at hhead
          simpa using hhead
        cases hoption
        rw [hdrop, bne_eq_false_iff_eq.mp hc] at hsplit
        rw [← hsplit]
        exact .longEquals _ _
      next hdrop =>
        cases hoption
        rw [hdrop, List.append_nil] at hsplit
        rw [← hsplit]
        exact .long _
  next letter behind hne =>
    split at hoption
    next named hnamed =>
      exact names_of_ofLetters (Setting.ofLetter?_eq_some_iff.mp hnamed) hoption
    · cases hoption
  · cases hoption

/-- An argument is an option with an attached value exactly if it names it so. -/
theorem classify_eq_option_iff {text : Text} {setting : Setting} {attached : Option Text} :
    classify text = .option setting attached ↔ Names text setting attached :=
  ⟨names_of_classify, Names.classify_eq⟩

/-- A value starts with no hyphen, unless it is a lone one. -/
theorem isValue_iff {text : Text} :
    isValue text = true ↔ text = ['-'] ∨ text.head? ≠ some '-' := by
  rw [isValue, beq_iff_eq]
  refine ⟨fun hvalue ↦ ?_, classify_of_not_hyphen⟩
  match text, hvalue with
  | [], _ => exact .inr (by simp)
  | [c], _ =>
    by_cases hc : c = '-'
    · exact .inl (hc ▸ rfl)
    · exact .inr (by simpa using hc)
  | first :: c :: rest, hvalue =>
    refine .inr fun hfirst ↦ ?_
    obtain rfl : first = '-' := by simpa using hfirst
    by_cases hmark : c :: rest = ['-']
    · rw [hmark] at hvalue
      cases hvalue
    · rcases classify_hyphen hmark with hunknown | ⟨setting, attached, hoption⟩
      · rw [hunknown] at hvalue
        cases hvalue
      · rw [hoption] at hvalue
        cases hvalue

theorem classify_eq_endMark_iff {text : Text} : classify text = .endMark ↔ text = ['-', '-'] := by
  refine ⟨fun hend ↦ ?_, fun hend ↦ hend ▸ rfl⟩
  by_contra hother
  by_cases hhead : text = ['-'] ∨ text.head? ≠ some '-'
  · rw [classify_of_not_hyphen hhead] at hend
    cases hend
  · obtain ⟨hlone, hhyphen⟩ := not_or.mp hhead
    match text, hhyphen with
    | [first], hhyphen => exact hlone (by simpa using hhyphen)
    | first :: c :: rest, hhyphen =>
      obtain rfl : first = '-' := by simpa using hhyphen
      have hmark : c :: rest ≠ ['-'] := by simpa using hother
      rcases classify_hyphen hmark with hunknown | ⟨setting, attached, hoption⟩
      · rw [hunknown] at hend
        cases hend
      · rw [hoption] at hend
        cases hend

end Argument

namespace Occurrence

open Argument

/-! ### One occurrence -/

/-- The ways to spell an occurrence: the option and then its values, or the option with its one
value attached. -/
inductive Spelling : Occurrence → List Text → Prop
  | separate {setting : Setting} {text : Text} (hnames : Names text setting none)
    {values : List Text} (hcount : values.length = setting.arity)
    (hvalues : ∀ value ∈ values, isValue value = true) :
    Spelling ⟨setting, values⟩ (text :: values)
  | attached {setting : Setting} {text value : Text} (hnames : Names text setting (some value))
    (hcount : setting.arity = 1) : Spelling ⟨setting, [value]⟩ [text]

/-- A spelled option has as many values as it takes. -/
theorem Spelling.length_values {occurrence : Occurrence} {spelled : List Text}
    (hspelling : Spelling occurrence spelled) :
    occurrence.values.length = occurrence.setting.arity := by
  cases hspelling with
  | separate _ hcount _ => exact hcount
  | attached _ hcount => exact hcount.symm

/-- The values of an option that has none attached are the next arguments. -/
theorem takeValues?_none_eq_some_iff {setting : Setting} {arguments values after : List Text} :
    takeValues? setting none arguments = some (values, after) ↔
      arguments = values ++ after ∧ values.length = setting.arity ∧
        ∀ value ∈ values, isValue value = true := by
  simp only [takeValues?, List.all_eq_true, Option.ite_none_right_eq_some, Option.some.injEq,
    Prod.mk.injEq]
  constructor
  · rintro ⟨⟨hcount, hvalues⟩, rfl, rfl⟩
    exact ⟨(List.take_append_drop _ _).symm, hcount, hvalues⟩
  · rintro ⟨rfl, hcount, hvalues⟩
    rw [List.take_left' hcount, List.drop_left' hcount]
    exact ⟨⟨hcount, hvalues⟩, rfl, rfl⟩

theorem takeValues?_some_eq_some_iff {setting : Setting} {value : Text}
    {arguments values after : List Text} :
    takeValues? setting (some value) arguments = some (values, after) ↔
      setting.arity = 1 ∧ values = [value] ∧ arguments = after := by
  simp only [takeValues?, Option.ite_none_right_eq_some, Option.some.injEq, Prod.mk.injEq,
    eq_comm (a := values)]

/-- The arguments of an occurrence are an argument that names its option, and the values that
stand behind it. -/
theorem Spelling.exists_cons {occurrence : Occurrence} {spelled : List Text}
    (hspelling : Spelling occurrence spelled) (rest : List Text) :
    ∃ argument attached arguments, spelled ++ rest = argument :: arguments ∧
      classify argument = .option occurrence.setting attached ∧
      takeValues? occurrence.setting attached arguments = some (occurrence.values, rest) := by
  cases hspelling with
  | separate hnames hcount hvalues =>
    exact ⟨_, none, _, List.cons_append, hnames.classify_eq,
      takeValues?_none_eq_some_iff.mpr ⟨rfl, hcount, hvalues⟩⟩
  | attached hnames hcount =>
    exact ⟨_, some _, _, List.cons_append, hnames.classify_eq,
      takeValues?_some_eq_some_iff.mpr ⟨hcount, rfl, rfl⟩⟩

theorem exists_spelling {argument : Text} {setting : Setting} {attached : Option Text}
    (hoption : classify argument = .option setting attached) {arguments values rest : List Text}
    (hvalues : takeValues? setting attached arguments = some (values, rest)) :
    ∃ spelled, Spelling ⟨setting, values⟩ spelled ∧ argument :: arguments = spelled ++ rest := by
  have hnames := classify_eq_option_iff.mp hoption
  cases attached with
  | none =>
    obtain ⟨rfl, hcount, hall⟩ := takeValues?_none_eq_some_iff.mp hvalues
    exact ⟨_, .separate hnames hcount hall, List.cons_append.symm⟩
  | some value =>
    obtain ⟨hcount, rfl, rfl⟩ := takeValues?_some_eq_some_iff.mp hvalues
    exact ⟨_, .attached hnames hcount, rfl⟩

theorem length_le_of_takeValues? {setting : Setting} {attached : Option Text}
    {arguments values rest : List Text}
    (hvalues : takeValues? setting attached arguments = some (values, rest)) :
    rest.length ≤ arguments.length := by
  cases attached with
  | none =>
    obtain ⟨rfl, -, -⟩ := takeValues?_none_eq_some_iff.mp hvalues
    rw [List.length_append]
    omega
  | some value =>
    obtain ⟨-, -, rfl⟩ := takeValues?_some_eq_some_iff.mp hvalues
    exact Nat.le_refl _

/-! ### A list of arguments -/

/-- The lists of arguments that spell occurrences one after another. -/
inductive Spells : List Text → List Occurrence → Prop
  | nil : Spells [] []
  | endMark : Spells [['-', '-']] []
  | cons {occurrence : Occurrence} {spelled : List Text} (hspelling : Spelling occurrence spelled)
    {rest : List Text} {occurrences : List Occurrence} (hrest : Spells rest occurrences) :
    Spells (spelled ++ rest) (occurrence :: occurrences)

/-- Spelled options have as many values as they take. -/
theorem Spells.length_values {arguments : List Text} {occurrences : List Occurrence}
    (hspells : Spells arguments occurrences) :
    ∀ occurrence ∈ occurrences, occurrence.values.length = occurrence.setting.arity := by
  induction hspells with
  | nil => simp
  | endMark => simp
  | cons hspelling _ ih => exact List.forall_mem_cons.mpr ⟨hspelling.length_values, ih⟩

/-- What occurrences satisfy together after the options that were seen before them, whatever their
spelling: neither help nor the version is asked for, options that are not repeatable occur once,
and the path of a configuration is not empty. -/
structure Fits (seen : List Setting) (occurrences : List Occurrence) : Prop where
  runs : ∀ occurrence ∈ occurrences, occurrence.setting ≠ .help ∧ occurrence.setting ≠ .version
  fresh : ∀ occurrence ∈ occurrences, occurrence.setting.isRepeatable = false →
    occurrence.setting ∉ seen
  once : occurrences.Pairwise fun first second ↦
    first.setting = second.setting → first.setting.isRepeatable = true
  path : ∀ occurrence ∈ occurrences, occurrence.setting = .config → occurrence.values ≠ [[]]

theorem isAdmissible_iff {seen : List Setting} {occurrence : Occurrence} :
    isAdmissible seen occurrence = true ↔
      (occurrence.setting.isRepeatable = false → occurrence.setting ∉ seen) ∧
        (occurrence.setting = .config → occurrence.values ≠ [[]]) := by
  simp only [isAdmissible, Bool.and_eq_true, Bool.or_eq_true, Bool.not_eq_true',
    Bool.and_eq_false_iff, beq_eq_false_iff_ne, ne_eq, List.contains_eq_mem,
    decide_eq_false_iff_not, imp_iff_not_or, Bool.not_eq_false]

theorem fits_nil (seen : List Setting) : Fits seen [] :=
  ⟨by simp, by simp, .nil, by simp⟩

theorem fits_cons_iff {seen : List Setting} {occurrence : Occurrence}
    {occurrences : List Occurrence} :
    Fits seen (occurrence :: occurrences) ↔
      isAdmissible seen occurrence = true ∧
        (occurrence.setting ≠ .help ∧ occurrence.setting ≠ .version) ∧
        Fits (occurrence.setting :: seen) occurrences := by
  rw [isAdmissible_iff]
  constructor
  · intro hfits
    obtain ⟨hruns, hotherRuns⟩ := List.forall_mem_cons.mp hfits.runs
    obtain ⟨hfresh, hotherFresh⟩ := List.forall_mem_cons.mp hfits.fresh
    obtain ⟨hpath, hotherPath⟩ := List.forall_mem_cons.mp hfits.path
    obtain ⟨honce, hotherOnce⟩ := List.pairwise_cons.mp hfits.once
    refine ⟨⟨hfresh, hpath⟩, hruns, hotherRuns, fun other hother hsingle ↦ ?_, hotherOnce,
      hotherPath⟩
    rw [List.mem_cons, not_or]
    refine ⟨fun hsame ↦ ?_, hotherFresh other hother hsingle⟩
    rw [hsame, honce other hother hsame.symm] at hsingle
    cases hsingle
  · rintro ⟨⟨hfresh, hpath⟩, hruns, hfits⟩
    refine ⟨List.forall_mem_cons.mpr ⟨hruns, hfits.runs⟩, List.forall_mem_cons.mpr ⟨hfresh,
      fun other hother hsingle ↦ ?_⟩, List.pairwise_cons.mpr ⟨fun other hother hsame ↦ ?_,
      hfits.once⟩, List.forall_mem_cons.mpr ⟨hpath, hfits.path⟩⟩
    · exact fun hseen ↦ hfits.fresh other hother hsingle (List.mem_cons_of_mem _ hseen)
    · rw [← Bool.not_eq_false]
      intro hsingle
      rw [hsame] at hsingle
      exact hfits.fresh other hother hsingle (hsame ▸ List.mem_cons_self)

/-- An option that is not repeatable has one occurrence. -/
theorem Fits.eq_of_setting_eq {seen : List Setting} {occurrences : List Occurrence}
    (hfits : Fits seen occurrences) {first second : Occurrence} (hfirst : first ∈ occurrences)
    (hsecond : second ∈ occurrences) (hsame : first.setting = second.setting)
    (hsingle : first.setting.isRepeatable = false) : first = second := by
  by_contra hne
  -- Occurring once is stated of the first and the second of a pair, but holds either way round.
  have : Std.Symm fun first second : Occurrence ↦
      first.setting = second.setting → first.setting.isRepeatable = true :=
    ⟨fun _ _ honce hsame ↦ hsame ▸ honce hsame.symm⟩
  have hrepeatable := hfits.once.forall hfirst hsecond hne hsame
  rw [hsingle] at hrepeatable
  cases hrepeatable

/-! ### Reading -/

theorem readFrom_nil (seen : List Setting) : readFrom seen [] = .ok [] := by
  rw [readFrom]

theorem readFrom_endMark (seen : List Setting) : readFrom seen [['-', '-']] = .ok [] := by
  rw [readFrom]
  rfl

/-- A spelled occurrence is read, and the arguments behind it after it. -/
theorem readFrom_append {occurrence : Occurrence} {spelled : List Text}
    (hspelling : Spelling occurrence spelled) {seen : List Setting}
    (hadmissible : isAdmissible seen occurrence = true)
    (hruns : occurrence.setting ≠ .help ∧ occurrence.setting ≠ .version) (rest : List Text) :
    readFrom seen (spelled ++ rest) =
      (readFrom (occurrence.setting :: seen) rest).map (occurrence :: ·) := by
  obtain ⟨argument, attached, arguments, hcons, hoption, hvalues⟩ := hspelling.exists_cons rest
  have hshorter := length_le_of_takeValues? hvalues
  rw [hcons, readFrom, hoption]
  simp only [hvalues, hadmissible, if_true]
  split
  · exact absurd ‹_› hruns.1
  · exact absurd ‹_› hruns.2
  · rw [if_pos hshorter]
    cases readFrom (occurrence.setting :: seen) rest <;> rfl

/-- An option without as many values as it takes is at fault. -/
theorem readFrom_of_takeValues?_eq_none {argument : Text} {setting : Setting}
    {attached : Option Text} (hoption : classify argument = .option setting attached)
    {arguments : List Text} (hnone : takeValues? setting attached arguments = none)
    (seen : List Setting) : readFrom seen (argument :: arguments) = .error .misuse := by
  rw [readFrom, hoption]
  simp only [hnone]

theorem readFrom_of_spells {arguments : List Text} {occurrences : List Occurrence}
    (hspells : Spells arguments occurrences) {seen : List Setting} (hfits : Fits seen occurrences) :
    readFrom seen arguments = .ok occurrences := by
  induction hspells generalizing seen with
  | nil => exact readFrom_nil seen
  | endMark => exact readFrom_endMark seen
  | cons hspelling _ ih =>
    -- What is behind the first occurrence fits together after its option was seen.
    obtain ⟨hadmissible, hruns, hrest⟩ := fits_cons_iff.mp hfits
    rw [readFrom_append hspelling hadmissible hruns, ih hrest]
    rfl

theorem spells_and_fits_of_readFrom {arguments : List Text} {occurrences : List Occurrence}
    {seen : List Setting} (hread : readFrom seen arguments = .ok occurrences) :
    Spells arguments occurrences ∧ Fits seen occurrences := by
  fun_induction readFrom seen arguments generalizing occurrences with
  | case1 seen =>
    obtain rfl := Except.ok.inj hread
    exact ⟨.nil, fits_nil seen⟩
  | case4 seen argument rest hmark hlast =>
    obtain rfl := Except.ok.inj hread
    obtain rfl := List.isEmpty_iff.mp hlast
    rw [classify_eq_endMark_iff.mp hmark]
    exact ⟨.endMark, fits_nil seen⟩
  | case9 seen argument rest setting attached hoption values after hvalues hadmissible _ others
      hothers hhelp hversion ih =>
    rw [hothers] at hread
    obtain rfl := Except.ok.inj hread
    obtain ⟨hspells, hfits⟩ := ih hothers
    obtain ⟨spelled, hspelling, harguments⟩ := exists_spelling hoption hvalues
    rw [harguments]
    exact ⟨.cons hspelling hspells, fits_cons_iff.mpr ⟨hadmissible, ⟨hhelp, hversion⟩, hfits⟩⟩
  | case10 seen argument rest setting attached hoption values after hvalues hadmissible _ ending
      hending =>
    rw [hending] at hread
    cases hread
  | case2 | case3 | case5 | case6 | case7 | case8 | case11 | case12 => cases hread

/-- The reader accepts the lists of arguments that spell occurrences which fit together, and reads
those occurrences. -/
theorem readFrom_eq_ok_iff {arguments : List Text} {occurrences : List Occurrence}
    {seen : List Setting} :
    readFrom seen arguments = .ok occurrences ↔
      Spells arguments occurrences ∧ Fits seen occurrences :=
  ⟨spells_and_fits_of_readFrom, fun hread ↦ readFrom_of_spells hread.1 hread.2⟩

end Occurrence

end KeyPathQuery.CommandLine
