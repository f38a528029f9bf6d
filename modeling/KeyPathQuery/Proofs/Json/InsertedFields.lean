import KeyPathQuery.Json.Basic
import Mathlib.Data.List.Induction
import Mathlib.Data.List.Nodup

/-!
Fields that come from inserting pairs one after another. A key stands where it was first used and
has the value of its last use (`collects_ofPairs`). As no key stands twice, the keys in order and
the value of each are all there is to know about such fields (`eq_filterMap_keys`).
-/

set_option autoImplicit false
set_option relaxedAutoImplicit false

namespace KeyPathQuery.Json.Fields

/-- Fields that hold each key of some pairs once, in the order of first use, with the value of its
last use. -/
structure Collects (fields : Fields) (pairs : List (Text × Json)) : Prop where
  nodup_keys : fields.keys.Nodup
  keys_eq : fields.keys = (keys pairs).eraseDups
  get?_eq (key : Text) : fields.get? key = get? pairs.reverse key

theorem get?_cons (name : Text) (value : Json) (rest : Fields) (key : Text) :
    get? ((name, value) :: rest) key = if name = key then some value else rest.get? key := by
  by_cases hname : name = key <;> simp [get?, hname]

/-- Without repeated keys, fields are told by their keys and by what the keys have. -/
theorem eq_filterMap_keys {fields : Fields} (hnodup : fields.keys.Nodup) :
    fields = fields.keys.filterMap fun key ↦ (fields.get? key).map (key, ·) := by
  induction fields with
  | nil => rfl
  | cons field rest ih =>
    obtain ⟨name, value⟩ := field
    obtain ⟨hname, hrest⟩ := List.nodup_cons.mp hnodup
    have hsame : ∀ key ∈ keys rest, (get? ((name, value) :: rest) key).map (key, ·) =
        (get? rest key).map (key, ·) := by
      intro key hkey
      have hne : name ≠ key := by rintro rfl; exact hname hkey
      rw [get?_cons, if_neg hne]
    rw [keys_cons, List.filterMap_cons, get?_cons, if_pos rfl, Option.map_some,
      List.filterMap_congr hsame, ← ih hrest]

theorem nodup_keys_insert {fields : Fields} (hnodup : fields.keys.Nodup) (key : Text)
    (value : Json) : (fields.insert key value).keys.Nodup := by
  rw [keys_insert]
  split
  · exact hnodup
  · next hnew =>
    rw [← List.concat_eq_append]
    exact List.Nodup.concat hnew hnodup

theorem ofPairs_concat (pairs : List (Text × Json)) (key : Text) (value : Json) :
    ofPairs (pairs ++ [(key, value)]) = (ofPairs pairs).insert key value := by
  simp [ofPairs]

theorem eraseDups_concat (keys : List Text) (key : Text) :
    (keys ++ [key]).eraseDups =
      if key ∈ keys.eraseDups then keys.eraseDups else keys.eraseDups ++ [key] := by
  rw [List.eraseDups_append]
  by_cases hkey : key ∈ keys <;> simp [List.removeAll, List.eraseDups_cons, hkey]

/-- Each insertion leaves a key that is there at its place, and gives it the newer value. -/
theorem collects_ofPairs (pairs : List (Text × Json)) : Collects (ofPairs pairs) pairs := by
  induction pairs using List.reverseRecOn with
  | nil => exact ⟨List.nodup_nil, rfl, fun _ ↦ rfl⟩
  | append_singleton pairs pair ih =>
    obtain ⟨name, value⟩ := pair
    rw [ofPairs_concat]
    refine ⟨nodup_keys_insert ih.nodup_keys name value, ?_, fun key ↦ ?_⟩
    · rw [keys_insert, ih.keys_eq]
      exact (by simpa [keys] using (eraseDups_concat (keys pairs) name).symm)
    · rw [get?_insert, ih.get?_eq, List.reverse_append, List.reverse_singleton,
        List.singleton_append, get?_cons]

theorem mem_keys_ofPairs_iff {pairs : List (Text × Json)} {key : Text} :
    key ∈ (ofPairs pairs).keys ↔ ∃ pair ∈ pairs, pair.1 = key := by
  rw [(collects_ofPairs pairs).keys_eq, List.mem_eraseDups, keys, List.mem_map]

/-- The last use decides about the value, the first one about the place. -/
example : ofPairs [(['a'], .null), (['b'], .null), (['a'], .boolean true)] =
    [(['a'], .boolean true), (['b'], .null)] := rfl

end KeyPathQuery.Json.Fields
