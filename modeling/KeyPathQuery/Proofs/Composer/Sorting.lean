import KeyPathQuery.Proofs.Composer.DocumentRun
import KeyPathQuery.Proofs.Composer.SqlStep
import KeyPathQuery.Proofs.Phrasing.Address
import Mathlib.Data.List.Find
import Mathlib.Data.List.Forall2

/-!
What sorting by several key paths means. Two records are compared by the paths in order, and the
first path whose values tell them apart decides (`compareBy_eq_find?`), so of the uses of one path
only the first one counts. A SQL query keeps every use at its place and means the same.

A document query keeps every use as well, but renders them as fields. There a path has the place of
its first use and the direction of its last one (`sortDocument_eq`), so the store may be asked for
another order (`not_forall_compareBy_sortItems_eq`). The two orders are the same, whatever the
records, exactly if every path ends in the direction that it starts in.

Main statement: `sortItems_sortDocument_runAll`.
-/

set_option autoImplicit false
set_option relaxedAutoImplicit false

namespace KeyPathQuery

/-! ### Comparison by several keys -/

/-- A result of a comparison as a direction takes it. -/
def Direction.orient : Direction → Ordering → Ordering
  | .ascending, result => result
  | .descending, result => result.swap

section

variable {κ ν α : Type}

/-- Compares two records by keys in order; the first key that tells them apart decides. -/
def compareBy (value : κ → α → α → Ordering) (first second : α) : List (κ × Direction) → Ordering
  | [] => .eq
  | (key, direction) :: rest =>
    (direction.orient (value key first second)).then (compareBy value first second rest)

/-- Whether a key tells two records apart. -/
def tellsApart (value : κ → α → α → Ordering) (first second : α) (key : κ) : Bool :=
  value key first second != .eq

/-- The first use of a key. -/
def firstUse? [BEq κ] (sorts : List (κ × Direction)) (key : κ) : Option (κ × Direction) :=
  sorts.find? (·.1 == key)

/-- The last use of a key. -/
def lastUse? [BEq κ] (sorts : List (κ × Direction)) (key : κ) : Option (κ × Direction) :=
  firstUse? sorts.reverse key

/-- The keys in the order of their first use, each with the direction of its last use. -/
def lastUses [BEq κ] (sorts : List (κ × Direction)) : List (κ × Direction) :=
  (sorts.map (·.1)).eraseDups.filterMap (lastUse? sorts)

/-- Every key has the direction of its first use in its last use, too. -/
def EndAsTheyStart [BEq κ] (sorts : List (κ × Direction)) : Prop :=
  ∀ key, firstUse? sorts key = lastUse? sorts key

theorem compareBy_map (key : ν → κ) (value : κ → α → α → Ordering) (first second : α)
    (sorts : List (ν × Direction)) :
    compareBy value first second (sorts.map fun (name, direction) ↦ (key name, direction)) =
      compareBy (fun name ↦ value (key name)) first second sorts := by
  induction sorts with
  | nil => rfl
  | cons sort rest ih => rw [List.map_cons, compareBy, compareBy, ih]

theorem Direction.orient_eq_eq_iff {direction : Direction} {result : Ordering} :
    direction.orient result = .eq ↔ result = .eq := by
  cases direction with
  | ascending => rfl
  | descending => cases result <;> simp [orient]

/-- The first use of a key that tells two records apart decides. -/
theorem compareBy_eq_find? (value : κ → α → α → Ordering) (first second : α)
    (sorts : List (κ × Direction)) :
    compareBy value first second sorts =
      (sorts.find? fun sort ↦ tellsApart value first second sort.1).elim .eq
        fun (key, direction) ↦ direction.orient (value key first second) := by
  induction sorts with
  | nil => rfl
  | cons sort rest ih =>
    obtain ⟨key, direction⟩ := sort
    rw [compareBy, List.find?_cons]
    by_cases htie : value key first second = .eq
    · simp [tellsApart, htie, Direction.orient_eq_eq_iff.mpr, ih]
    · have hdecided : direction.orient (value key first second) ≠ .eq :=
        mt Direction.orient_eq_eq_iff.mp htie
      simp only [tellsApart, bne_iff_ne.mpr htie, Option.elim]
      cases hresult : direction.orient (value key first second) with
      | eq => exact absurd hresult hdecided
      | lt | gt => rfl

/-- A use of a key is told by its direction. -/
theorem eq_of_elim_orient_eq {key : κ} {first last : Option (κ × Direction)}
    (hfirst : ∀ sort ∈ first, sort.1 = key) (hlast : ∀ sort ∈ last, sort.1 = key)
    (hsame : (first.elim .eq fun sort ↦ sort.2.orient .lt) =
      last.elim .eq fun sort ↦ sort.2.orient .lt) : first = last := by
  rcases first with _ | ⟨firstKey, start⟩ <;> rcases last with _ | ⟨lastKey, finish⟩
  · rfl
  · cases finish <;> cases hsame
  · cases start <;> cases hsame
  · obtain rfl : firstKey = key := hfirst _ rfl
    obtain rfl : lastKey = firstKey := hlast _ rfl
    cases start <;> cases finish <;> first | rfl | cases hsame

end

/-! ### First and last uses -/

section

variable {κ α : Type} [BEq κ] [LawfulBEq κ]

/-- Without repetitions, the first key with a property is the same. -/
theorem find?_eraseDups (test : κ → Bool) (keys : List κ) :
    keys.eraseDups.find? test = keys.find? test := by
  cases keys with
  | nil => rfl
  | cons key rest =>
    rw [List.eraseDups_cons, List.find?_cons, List.find?_cons]
    cases hkey : test key with
    | true => rfl
    | false =>
      -- What is taken out of the rest are repetitions of a key without the property.
      rw [find?_eraseDups test (rest.filter fun other ↦ !other == key), List.find?_filter]
      refine List.find?_congr fun other _ ↦ ?_
      by_cases hother : other = key
      · simp [hother, hkey]
      · simp [hother]
termination_by keys.length
decreasing_by
  have hshorter := List.length_filter_le (fun other ↦ !other == key) rest
  simp only [List.length_cons]
  omega

/-- The first use that has a property of its key is the first use of the first key that has it. -/
theorem find?_eq_bind_firstUse? (test : κ → Bool) (sorts : List (κ × Direction)) :
    sorts.find? (fun sort ↦ test sort.1) =
      ((sorts.map (·.1)).find? test).bind (firstUse? sorts) := by
  induction sorts with
  | nil => rfl
  | cons sort rest ih =>
    obtain ⟨key, direction⟩ := sort
    rw [List.map_cons, List.find?_cons, List.find?_cons]
    cases hkey : test key with
    | true => simp [firstUse?]
    | false =>
      rw [ih]
      refine Option.bind_congr fun other hother ↦ ?_
      have hne : key ≠ other := by
        rintro rfl
        rw [List.find?_some hother] at hkey
        cases hkey
      simp [firstUse?, hne]

theorem fst_of_mem_firstUse? {sorts : List (κ × Direction)} {key : κ} {sort : κ × Direction}
    (hsort : sort ∈ firstUse? sorts key) : sort.1 = key := by
  simpa using List.find?_some hsort

theorem isSome_lastUse?_iff {sorts : List (κ × Direction)} {key : κ} :
    (lastUse? sorts key).isSome = true ↔ key ∈ sorts.map (·.1) := by
  simp [lastUse?, firstUse?]

/-- Among the last uses, the first one that has a property of its key is the last use of the first
key that has it. -/
theorem find?_lastUses (test : κ → Bool) (sorts : List (κ × Direction)) :
    (lastUses sorts).find? (fun sort ↦ test sort.1) =
      ((sorts.map (·.1)).find? test).bind (lastUse? sorts) := by
  have htest : ∀ key ∈ (sorts.map (·.1)).eraseDups,
      (lastUse? sorts key).any (fun sort ↦ test sort.1) = test key := by
    intro key hkey
    obtain ⟨sort, hlast⟩ :=
      Option.isSome_iff_exists.mp (isSome_lastUse?_iff.mpr (List.mem_eraseDups.mp hkey))
    rw [hlast, Option.any_some, fst_of_mem_firstUse? hlast]
  rw [lastUses, List.find?_filterMap, List.find?_congr htest, find?_eraseDups]

theorem firstUse?_lastUses (sorts : List (κ × Direction)) (key : κ) :
    firstUse? (lastUses sorts) key = lastUse? sorts key := by
  rw [firstUse?, find?_lastUses (· == key)]
  cases hfound : (sorts.map (·.1)).find? (· == key) with
  | none =>
    have hkey : key ∉ sorts.map (·.1) := fun hmem ↦ by
      simpa using List.find?_eq_none.mp hfound key hmem
    rw [← isSome_lastUse?_iff, Option.not_isSome_iff_eq_none] at hkey
    rw [hkey, Option.bind_none]
  | some found =>
    obtain rfl : found = key := by simpa using List.find?_some hfound
    rw [Option.bind_some]

/-- A comparison of truth values that sees a difference at one key only. -/
def compareAt (key other : κ) (first second : Bool) : Ordering :=
  if other == key then compare first second else .eq

/-- Such a comparison is decided by the first use of its key. -/
theorem compareBy_compareAt (key : κ) (sorts : List (κ × Direction)) :
    compareBy (compareAt key) false true sorts =
      (firstUse? sorts key).elim .eq fun sort ↦ sort.2.orient .lt := by
  have htells : tellsApart (compareAt key) false true = (· == key) := by
    funext other
    by_cases hother : other = key <;> simp [tellsApart, compareAt, hother]
  rw [compareBy_eq_find?, htells]
  change (firstUse? sorts key).elim _ _ = _
  cases hfirst : firstUse? sorts key with
  | none => rfl
  | some sort =>
    simp only [compareAt, Option.elim, fst_of_mem_firstUse? hfirst, beq_self_eq_true, if_true]
    rfl

/-- Last uses compare all records as all uses do if and only if keys end as they start. -/
theorem forall_compareBy_lastUses_eq_iff (sorts : List (κ × Direction)) :
    (∀ {α : Type} (value : κ → α → α → Ordering) (first second : α),
      compareBy value first second (lastUses sorts) = compareBy value first second sorts) ↔
    EndAsTheyStart sorts := by
  constructor
  · intro hsame key
    have hseen := hsame (compareAt key) false true
    rw [compareBy_compareAt, compareBy_compareAt, firstUse?_lastUses] at hseen
    exact eq_of_elim_orient_eq (fun _ ↦ fst_of_mem_firstUse?) (fun _ ↦ fst_of_mem_firstUse?)
      hseen.symm
  · intro hends α value first second
    rw [compareBy_eq_find?, compareBy_eq_find?, find?_lastUses (tellsApart value first second),
      find?_eq_bind_firstUse? (tellsApart value first second),
      show firstUse? sorts = lastUse? sorts from funext hends]

end

/-! ### Sort documents -/

/-- The direction that a number of a sort document stands for. -/
def Direction.ofOrder? : Json → Option Direction
  | .number (.integer order) =>
    if order = 1 then some .ascending else if order = -1 then some .descending else none
  | _ => none

/-- What a sort document asks a store to sort by: its keys in order, ascending for 1 and descending
for -1. -/
def Json.Fields.sortItems? (fields : Json.Fields) : Option (List (Text × Direction)) :=
  fields.mapM fun (key, order) ↦ (Direction.ofOrder? order).map (key, ·)

/-- The fields that a store reads as the given items. -/
def sortFields (items : List (Text × Direction)) : Json.Fields :=
  items.map fun (key, direction) ↦ (key, .integer direction.order)

theorem sortItems?_sortFields (items : List (Text × Direction)) :
    (sortFields items).sortItems? = some items := by
  induction items with
  | nil => rfl
  | cons item rest ih =>
    obtain ⟨key, direction⟩ := item
    have hdirection : Direction.ofOrder? (.integer direction.order) = some direction := by
      cases direction <;> rfl
    unfold Json.Fields.sortItems? sortFields at ih ⊢
    rw [List.map_cons, List.mapM_cons, ih]
    simp only [hdirection]
    rfl

theorem get?_sortFields (items : List (Text × Direction)) (key : Text) :
    Json.Fields.get? (sortFields items) key =
      (firstUse? items key).map fun item ↦ .integer item.2.order := by
  simp [Json.Fields.get?, sortFields, firstUse?, List.find?_map, Function.comp_def]

/-- The keys of a sort document are in the order of their first use and have the direction of their
last use. -/
theorem DocumentQuery.sortDocument_eq (query : DocumentQuery) :
    query.sortDocument = sortFields (lastUses query.sorts) := by
  obtain ⟨hnodup, hkeys, hget⟩ := query.collects_sortDocument
  have hnames : Json.Fields.keys (sortFields query.sorts) = query.sorts.map (·.1) := by
    simp [Json.Fields.keys, sortFields]
  have hlast (key : Text) : query.sortDocument.get? key =
      (lastUse? query.sorts key).map fun item ↦ .integer item.2.order := by
    rw [hget, lastUse?, ← get?_sortFields, sortFields, List.map_reverse]
  rw [Json.Fields.eq_filterMap_keys hnodup, hkeys]
  change (Json.Fields.keys (sortFields query.sorts)).eraseDups.filterMap _ = _
  rw [hnames, sortFields, lastUses, List.map_filterMap]
  refine List.filterMap_congr fun key _ ↦ ?_
  rw [hlast, Option.map_map]
  refine Option.map_congr fun item hitem ↦ ?_
  rw [← fst_of_mem_firstUse? hitem]
  rfl

/-! ### Runs of sorting operations -/

/-- An operation that sorts by a key path in a direction. -/
def Operation.SortsBy (operation : Operation) (sort : KeyPath × Direction) : Prop :=
  ∃ path direction, operation = .orderBy path direction ∧ KeyPath.read path = .ok sort.1 ∧
    Direction.ofText? direction = some sort.2

theorem Operation.SortsBy.read_eq {operation : Operation} {sort : KeyPath × Direction}
    (hsorts : operation.SortsBy sort) (policy : EmptyListPolicy) :
    operation.read policy = .ok (sort.1, .orderBy sort.2) := by
  obtain ⟨path, direction, rfl, hpath, hdirection⟩ := hsorts
  simp [read, hpath, hdirection, bind, Except.bind, pure, Except.pure]

/-- The statement asks its store to sort by the expressions in order; an item without a direction
is ascending. -/
def Sql.Select.sortItems (select : Sql.Select) : List (Sql.Expression × Direction) :=
  select.ordering.map fun item ↦ (item.expression, item.direction.getD .ascending)

theorem SqlQuery.ordering_foldl_extend (items : List Sql.OrderItem) (query : SqlQuery) :
    ((items.map Fragment.order).foldl QueryTarget.extend query).statement.ordering =
      query.statement.ordering ++ items := by
  induction items generalizing query with
  | nil => simp
  | cons item rest ih =>
    have hprepared : query.statement.prepared.ordering = query.statement.ordering := by
      unfold Sql.Select.prepared
      split <;> rfl
    rw [List.map_cons, List.foldl_cons, ih, extend_eq]
    simp [extend, Sql.Select.extend, hprepared]

namespace Composer

/-- A run in which every operation succeeds adds the fragments of all of them. -/
theorem runAll_of_forall₂ {τ : Type} [QueryTarget τ] [LawfulTarget τ] {composer : Composer}
    {query : τ} {operations : List Operation} {fragments : List Fragment}
    (hfragments : List.Forall₂ (fun operation fragment ↦
      composer.fragmentFor query operation = .ok fragment) operations fragments) :
    composer.runAll query operations =
      (fragments.foldl QueryTarget.extend query, operations.map fun _ ↦ none) := by
  rw [runAll_eq]
  suffices composer.fragmentsFor query operations = fragments ∧
      operations.map (composer.failure? query) = operations.map fun _ ↦ none by
    rw [this.1, this.2]
  induction hfragments with
  | nil => exact ⟨rfl, rfl⟩
  | cons hfragment _ ih =>
    rw [fragmentsFor_cons_of_ok hfragment, List.map_cons, List.map_cons,
      failure?_of_ok hfragment, ih.1, ih.2]
    exact ⟨rfl, rfl⟩

variable {composer : Composer} {operations : List Operation} {sorts : List (KeyPath × Direction)}

/-- The fragments of sorting operations on a query that takes them. -/
theorem forall₂_fragmentFor_of_sortsBy {τ : Type} [QueryTarget τ] [LawfulTarget τ] (query : τ)
    (hsorts : List.Forall₂ Operation.SortsBy operations sorts)
    {fragment : KeyPath → Direction → Fragment}
    (hphrase : ∀ path direction,
      (composer.adapterFor (QueryTarget.connection query)).dialect.phrase path
        (.orderBy direction) = .ok (fragment path direction))
    (hown : ∀ path direction, (fragment path direction).isSql = LawfulTarget.takesSql τ) :
    List.Forall₂ (fun operation fragment ↦ composer.fragmentFor query operation = .ok fragment)
      operations (sorts.map fun (path, direction) ↦ fragment path direction) := by
  rw [List.forall₂_map_right_iff]
  refine hsorts.imp fun operation sort hsort ↦ ?_
  exact fragmentFor_eq_ok_iff.mpr
    ⟨phrase_eq_ok_iff.mpr ⟨sort.1, .orderBy sort.2, hsort.read_eq _, hphrase _ _⟩, hown _ _⟩

/-- Sorting operations on a fresh document query. -/
theorem runAll_documentQuery_of_sortsBy
    (hsorts : List.Forall₂ Operation.SortsBy operations sorts) {connection : Connection}
    (hdocument : (composer.adapterFor connection).dialect = .document) (collection : Text) :
    composer.runAll (composer.documentQuery connection collection) operations =
      ({ connection := connection
         collection := collection
         sorts := sorts.map fun (path, direction) ↦ (path.dotted, direction) },
        operations.map fun _ ↦ none) := by
  have hphrase (path : KeyPath) (direction : Direction) :
      (composer.adapterFor connection).dialect.phrase path (.orderBy direction) =
        .ok (.documentSort path.dotted direction) := by
    rw [hdocument]
    rfl
  have hfragments := forall₂_fragmentFor_of_sortsBy
    (composer.documentQuery connection collection) hsorts hphrase fun _ _ ↦ rfl
  rw [runAll_of_forall₂ hfragments, documentQuery, DocumentQuery.foldl_extend_fresh]
  simp [List.filterMap_map, Function.comp_def, Fragment.clause?, Fragment.sort?, Fragment.entry?,
    Json.Fields.ofPairs]

/-- Sorting operations on a fresh SQL query. -/
theorem sortItems_runAll_sqlQuery_of_sortsBy
    (hsorts : List.Forall₂ Operation.SortsBy operations sorts) {connection : Connection}
    {extraction : Phrasing.Extraction}
    (hextracts : (composer.adapterFor connection).dialect.Extracts extraction) (table : Text) :
    (composer.runAll (composer.sqlQuery connection table) operations).1.statement.sortItems =
        sorts.map (fun (path, direction) ↦ (extraction.values path, direction)) ∧
      (composer.runAll (composer.sqlQuery connection table) operations).2 =
        operations.map fun _ ↦ none := by
  have hfragments := forall₂_fragmentFor_of_sortsBy
    (composer.sqlQuery connection table) hsorts
    (fun path direction ↦ hextracts.phrase_eq path (.orderBy direction)) fun _ _ ↦ rfl
  rw [runAll_of_forall₂ hfragments]
  refine ⟨?_, rfl⟩
  have hitems : (sorts.map fun (path, direction) ↦ extraction.phrase path (.orderBy direction)) =
      (sorts.map fun (path, direction) ↦
        (⟨extraction.values path, some direction⟩ : Sql.OrderItem)).map Fragment.order := by
    rw [List.map_map]
    rfl
  rw [hitems, Sql.Select.sortItems, SqlQuery.ordering_foldl_extend]
  simp [sqlQuery, SqlQuery.ofTable, Function.comp_def]

/-- What sorting operations mean on a document query, next to what they mean by themselves and on a
SQL query. The sort document asks for the addresses in the order of their first use, each in the
direction of its last use. For all records this is the order of the operations exactly if every
address ends in the direction that it starts in. A SQL query asks for the order of the operations,
whatever they are. A field of a record is told by the names on the way to it. -/
theorem sortItems_sortDocument_runAll (composer : Composer) {connection : Connection}
    (hdocument : (composer.adapterFor connection).dialect = .document) (collection : Text)
    {operations : List Operation} {sorts : List (KeyPath × Direction)}
    (hsorts : List.Forall₂ Operation.SortsBy operations sorts) :
    let search := composer.runAll (composer.documentQuery connection collection) operations
    let addresses := sorts.map fun (path, direction) ↦ (path.dotted, direction)
    search.2 = operations.map (fun _ ↦ none) ∧
    search.1.sortDocument.sortItems? = some (lastUses addresses) ∧
    ((∀ {α : Type} (field : List Text → α → α → Ordering) (first second : α),
        compareBy (fun name ↦ field (Text.split '.' name)) first second (lastUses addresses) =
          compareBy (fun path ↦ field path.address.names) first second sorts) ↔
      EndAsTheyStart addresses) ∧
    ∀ (other : Connection) (table : Text) (extraction : Phrasing.Extraction),
      (composer.adapterFor other).dialect.Extracts extraction →
      let statement := composer.runAll (composer.sqlQuery other table) operations
      statement.2 = operations.map (fun _ ↦ none) ∧
      ∀ {β : Type} (value : Sql.Expression → β → β → Ordering) (first second : β),
        compareBy value first second statement.1.statement.sortItems =
          compareBy (fun path ↦ value (extraction.values path)) first second sorts := by
  intro search addresses
  have hsearch : search = _ := runAll_documentQuery_of_sortsBy hsorts hdocument collection
  refine ⟨by rw [hsearch], ?_, ?_, fun other table extraction hextracts ↦ ?_⟩
  · rw [hsearch, DocumentQuery.sortDocument_eq, sortItems?_sortFields]
  · rw [← forall_compareBy_lastUses_eq_iff addresses]
    have hoperations {α : Type} (field : List Text → α → α → Ordering) (first second : α) :
        compareBy (fun path : KeyPath ↦ field path.address.names) first second sorts =
          compareBy (fun name ↦ field (Text.split '.' name)) first second addresses := by
      rw [compareBy_map KeyPath.dotted]
      simp only [KeyPath.split_dotted]
    constructor
    · intro hsame α value first second
      -- A name is told by its pieces, so every comparison by names is one by fields.
      let field (names : List Text) : α → α → Ordering := value (Text.join ['.'] names)
      have hnames := (hsame field first second).trans (hoperations field first second)
      simpa only [field, Text.join_split] using hnames
    · intro hsame α field first second
      rw [hoperations, hsame]
  · obtain ⟨hitems, hanswers⟩ :=
      sortItems_runAll_sqlQuery_of_sortsBy hsorts hextracts table
    refine ⟨hanswers, fun value first second ↦ ?_⟩
    rw [hitems, compareBy_map extraction.values]

/-- Operations that sort by a path in one direction, by another path, and by the first path in the
other direction. -/
def turningOperations : List Operation :=
  [.orderBy "meta->score".toList "asc".toList, .orderBy "meta->name".toList "asc".toList,
    .orderBy "meta->score".toList "desc".toList]

/-- What these operations sort by. -/
def turningSorts : List (KeyPath × Direction) :=
  let score : KeyPath := ⟨"meta".toList, ["score".toList], by decide, by decide⟩
  let name : KeyPath := ⟨"meta".toList, ["name".toList], by decide, by decide⟩
  [(score, .ascending), (name, .ascending), (score, .descending)]

theorem forall₂_turningOperations :
    List.Forall₂ Operation.SortsBy turningOperations turningSorts :=
  .cons ⟨_, _, rfl, rfl, by decide⟩ (.cons ⟨_, _, rfl, rfl, by decide⟩
    (.cons ⟨_, _, rfl, rfl, by decide⟩ .nil))

/-- The path that turns comes first and is descending, so the document query does not mean what the
operations mean, and the SQL query does. -/
theorem sortItems_sortDocument_runAll_of_turning :
    let search := standard.runAll
      (standard.documentQuery (.ofDriver "mongodb".toList) "users".toList) turningOperations
    (standard.adapterFor (.ofDriver "mongodb".toList)).dialect = .document ∧
      List.Forall₂ Operation.SortsBy turningOperations turningSorts ∧
      search.2 = [none, none, none] ∧
      search.1.sortDocument.sortItems? =
        some [("meta.score".toList, .descending), ("meta.name".toList, .ascending)] ∧
      ¬ EndAsTheyStart (turningSorts.map fun (path, direction) ↦ (path.dotted, direction)) := by
  intro search
  have hdocument : (standard.adapterFor (.ofDriver "mongodb".toList)).dialect = .document := by
    decide
  obtain ⟨hanswers, hitems, -, -⟩ := standard.sortItems_sortDocument_runAll hdocument
    "users".toList forall₂_turningOperations
  have hturns : ¬ EndAsTheyStart
      (turningSorts.map fun (path, direction) ↦ (path.dotted, direction)) := fun hends ↦
    absurd (hends "meta.score".toList) (by decide)
  exact ⟨hdocument, forall₂_turningOperations, hanswers, hitems.trans (by decide), hturns⟩

/-- A sort document need not compare records as the operations do in the order of the calls: a path
that is sorted by in both directions gets the last one, and keeps its place before the others. -/
theorem not_forall_compareBy_sortItems_eq :
    ¬ ∀ (composer : Composer) (connection : Connection) (collection : Text)
      (operations : List Operation) (sorts : List (KeyPath × Direction))
      (items : List (Text × Direction)),
      (composer.adapterFor connection).dialect = .document →
      List.Forall₂ Operation.SortsBy operations sorts →
      (∀ sort ∈ sorts, isIdentifier sort.1.root = true) →
      (composer.runAll (composer.documentQuery connection collection)
        operations).1.sortDocument.sortItems? = some items →
      ∀ {α : Type} (field : List Text → α → α → Ordering) (first second : α),
        compareBy (fun name ↦ field (Text.split '.' name)) first second items =
          compareBy (fun path ↦ field path.address.names) first second sorts := by
  intro hsame
  have hitems : (standard.runAll (standard.documentQuery (.ofDriver "mongodb".toList)
      "users".toList) turningOperations).1.sortDocument.sortItems? =
        some [("meta.score".toList, .descending), ("meta.name".toList, .ascending)] := by
    decide
  have hboth := hsame standard (.ofDriver "mongodb".toList) "users".toList turningOperations
    turningSorts _ (by decide) forall₂_turningOperations (by decide) hitems
    (fun _ (left right : Bool) ↦ compare left right) false true
  exact absurd hboth (by decide)

end Composer

end KeyPathQuery
