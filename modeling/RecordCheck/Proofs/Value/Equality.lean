import Mathlib.Data.List.Perm.Subperm
import RecordCheck.Value.Equality
import RecordCheck.Value.Tag

/-!
# Equality of values

Equality is symmetric (`Value.equal_comm`) and transitive (`Value.equal_trans`), and a value
equals itself unless `nan` occurs in it (`Value.equal_self_iff`). The order of the entries of
an object does not matter, at whatever depth (`Value.Reordered.equal_eq`).

Objects are compared from one side only: the lengths agree, and every entry of the first finds
an equal one in the second. As no key comes twice this is the same as equality of all lookups
(`Value.equal_object_iff`), which does not prefer a side.
-/

namespace RecordCheck

/-! ## Lookups in entries -/

namespace Entries

universe u

variable {α : Type u} {entries others : List (String × α)}

theorem mem_of_get? {key : String} {value : α} (found : get? key entries = some value) :
    (key, value) ∈ entries := by
  induction entries with
  | nil => cases found
  | cons entry rest ih =>
    obtain ⟨k, first⟩ := entry
    unfold get? at found
    split at found
    · rename_i same
      rw [same, Option.some.inj found]
      exact List.mem_cons_self
    · exact List.mem_cons_of_mem _ (ih found)

/-- A lookup does not depend on the order of the entries. -/
theorem get?_of_perm (unique : (entries.map Prod.fst).Nodup) (reordered : entries.Perm others)
    (key : String) : get? key entries = get? key others := by
  have unique' : (others.map Prod.fst).Nodup := (reordered.map Prod.fst).nodup_iff.mp unique
  ext value
  rw [get?_eq_some_iff unique, get?_eq_some_iff unique', reordered.mem_iff]

end Entries

namespace Binary

variable {f : Format} {x y z : Binary f}

/-- Equal numbers are the same, or both are zero. -/
theorem eq_or_zero_of_equal (same : x.equal y = true) :
    x = y ∨ ∃ (s t : Bool) (m : Magnitude f),
      m.isZero = true ∧ x = .finite s m ∧ y = .finite t m := by
  cases x with
  | nan => cases y <;> cases same
  | infinity s =>
    cases y with
    | infinity t => exact .inl (congrArg infinity (beq_iff_eq.mp same))
    | _ => cases same
  | finite s m =>
    cases y with
    | finite t n =>
      simp only [equal, Bool.and_eq_true, Bool.or_eq_true, beq_iff_eq] at same
      obtain ⟨rfl, rfl | zero⟩ := same
      · exact .inl rfl
      · exact .inr ⟨s, t, m, zero, rfl, rfl⟩
    | _ => cases same

theorem equal_trans (first : x.equal y = true) (second : y.equal z = true) :
    x.equal z = true := by
  rcases eq_or_zero_of_equal first with rfl | ⟨s, t, m, zero, rfl, rfl⟩
  · exact second
  · cases z with
    | finite u n =>
      simp only [equal, Bool.and_eq_true, Bool.or_eq_true] at second ⊢
      exact ⟨second.1, .inr zero⟩
    | nan => cases second
    | infinity u => cases second

end Binary

namespace Value

/-! ## Values that are made -/

/-- What holds of every value that is made: in it no object has a key twice, and every function
has the name that its identity was given, which is the place of the name in the list. -/
inductive WellFormed (names : List (Option String)) : Value → Prop
  | null : WellFormed names .null
  | boolean (b : Bool) : WellFormed names (.boolean b)
  | number (x : Binary64) : WellFormed names (.number x)
  | string (s : String) : WellFormed names (.string s)
  | array {items : List Value} (each : ∀ item ∈ items, WellFormed names item) :
    WellFormed names (.array items)
  | object {entries : List (String × Value)} (unique : (entries.map Prod.fst).Nodup)
    (each : ∀ entry ∈ entries, WellFormed names entry.2) : WellFormed names (.object entries)
  | regex (pattern : String) : WellFormed names (.regex pattern)
  | date (t : Timestamp) : WellFormed names (.date t)
  | function {f : Callable} (named : names[f.identity]? = some f.name) :
    WellFormed names (.function f)
  | symbol (s : Symbol) : WellFormed names (.symbol s)

variable {names : List (Option String)} {a b c : Value}

/-- More names leave the old ones in their places. -/
theorem WellFormed.append (formed : a.WellFormed names) (more : List (Option String)) :
    a.WellFormed (names ++ more) := by
  induction formed with
  | null => exact .null
  | boolean b => exact .boolean b
  | number x => exact .number x
  | string s => exact .string s
  | array each ih => exact .array ih
  | object unique each ih => exact .object unique ih
  | regex pattern => exact .regex pattern
  | date t => exact .date t
  | function named =>
    have old := (List.getElem?_eq_some_iff.mp named).1
    exact .function ((List.getElem?_append_left old).trans named)
  | symbol s => exact .symbol s

theorem wellFormed_array_iff {items : List Value} :
    (Value.array items).WellFormed names ↔ ∀ item ∈ items, item.WellFormed names :=
  ⟨fun | .array each => each, .array⟩

theorem wellFormed_object_iff {entries : List (String × Value)} :
    (Value.object entries).WellFormed names ↔
      (entries.map Prod.fst).Nodup ∧ ∀ entry ∈ entries, entry.2.WellFormed names :=
  ⟨fun | .object unique each => ⟨unique, each⟩, fun ⟨unique, each⟩ => .object unique each⟩

/-! ## Equality kind by kind -/

theorem tag_eq_of_equal (same : a.equal b = true) : a.tag = b.tag := by
  cases a <;> cases b <;> first | rfl | simp [equal] at same

/-- For values of most kinds equality is identity. -/
theorem eq_of_equal (kind : a.tag ∉ [.number, .array, .object, .function])
    (same : a.equal b = true) : a = b := by
  cases a <;> cases b <;> simp_all [equal, tag]

theorem exists_array_of_equal {items : List Value} (same : (Value.array items).equal b = true) :
    ∃ others, b = .array others ∧ equalItems items others = true := by
  cases b <;> simp_all [equal]

theorem exists_object_of_equal {entries : List (String × Value)}
    (same : (Value.object entries).equal b = true) : ∃ others, b = .object others := by
  cases b <;> simp_all [equal]

/-! ## Arrays -/

theorem equalItems_symm {items others : List Value}
    (each : ∀ item ∈ items, ∀ other ∈ others, item.equal other = true → other.equal item = true)
    (same : equalItems items others = true) : equalItems others items = true := by
  induction items generalizing others with
  | nil => cases others <;> simp_all [equalItems]
  | cons item rest ih =>
    cases others with
    | nil => simp [equalItems] at same
    | cons other others =>
      rw [equalItems, Bool.and_eq_true] at same ⊢
      obtain ⟨here, there⟩ := List.forall_mem_cons.mp each
      exact ⟨here other List.mem_cons_self same.1,
        ih (fun a member b member' => there a member b (List.mem_cons_of_mem _ member')) same.2⟩

theorem equalItems_trans {items middle others : List Value}
    (each : ∀ item ∈ items, ∀ between ∈ middle, ∀ other ∈ others,
      item.equal between = true → between.equal other = true → item.equal other = true)
    (first : equalItems items middle = true) (second : equalItems middle others = true) :
    equalItems items others = true := by
  induction items generalizing middle others with
  | nil =>
    cases middle with
    | nil => exact second
    | cons => simp [equalItems] at first
  | cons item rest ih =>
    cases middle with
    | nil => simp [equalItems] at first
    | cons between middle =>
      cases others with
      | nil => simp [equalItems] at second
      | cons other others =>
        rw [equalItems, Bool.and_eq_true] at first second ⊢
        obtain ⟨here, there⟩ := List.forall_mem_cons.mp each
        refine ⟨here between List.mem_cons_self other List.mem_cons_self first.1 second.1,
          ih (fun a member b member' c member'' => ?_) first.2 second.2⟩
        exact there a member b (List.mem_cons_of_mem _ member') c (List.mem_cons_of_mem _ member'')

theorem equalItems_self_iff {items : List Value} :
    equalItems items items = true ↔ ∀ item ∈ items, item.equal item = true := by
  induction items with
  | nil => simp [equalItems]
  | cons item rest ih => rw [equalItems, Bool.and_eq_true, ih, List.forall_mem_cons]

theorem length_eq_of_equalItems {items others : List Value}
    (same : equalItems items others = true) : items.length = others.length := by
  induction items generalizing others with
  | nil => cases others <;> simp_all [equalItems]
  | cons item rest ih =>
    cases others with
    | nil => simp [equalItems] at same
    | cons other others =>
      rw [equalItems, Bool.and_eq_true] at same
      rw [List.length_cons, List.length_cons, ih same.2]

/-! ## Objects -/

theorem entriesWithin_iff {entries others : List (String × Value)} :
    entriesWithin entries others = true ↔ ∀ entry ∈ entries,
      ∃ other, Entries.get? entry.1 others = some other ∧ entry.2.equal other = true := by
  induction entries with
  | nil => simp [entriesWithin]
  | cons entry rest ih =>
    rw [entriesWithin, Bool.and_eq_true, ih, List.forall_mem_cons]
    refine and_congr_left fun _ => ?_
    split <;> simp_all

/-- Two lookups find equal values, or nothing both. -/
def SameLookup (x y : Option Value) : Prop :=
  (x = none ∧ y = none) ∨ ∃ a b, x = some a ∧ y = some b ∧ a.equal b = true

theorem sameLookup_iff {x y : Option Value} :
    SameLookup x y ↔
      (x = none ↔ y = none) ∧ ∀ a b, x = some a → y = some b → a.equal b = true := by
  cases x <;> cases y <;> simp [SameLookup]

/-- All lookups are the same if and only if the keys are, and the values under each of them. -/
theorem forall_sameLookup_iff {entries others : List (String × Value)} :
    (∀ key, SameLookup (Entries.get? key entries) (Entries.get? key others)) ↔
      (∀ key, key ∈ entries.map Prod.fst ↔ key ∈ others.map Prod.fst) ∧
        ∀ key a b, Entries.get? key entries = some a → Entries.get? key others = some b →
          a.equal b = true := by
  simp only [sameLookup_iff, Entries.get?_eq_none_iff, not_iff_not, forall_and]

/-- Objects are equal if and only if all lookups are. -/
theorem equal_object_iff {entries others : List (String × Value)}
    (unique : (entries.map Prod.fst).Nodup) (unique' : (others.map Prod.fst).Nodup) :
    (Value.object entries).equal (.object others) = true ↔
      ∀ key, SameLookup (Entries.get? key entries) (Entries.get? key others) := by
  rw [equal, Bool.and_eq_true, beq_iff_eq, entriesWithin_iff]
  constructor
  · rintro ⟨lengths, within⟩ key
    cases found : Entries.get? key entries with
    | some value =>
      obtain ⟨other, found', same⟩ := within _ (Entries.mem_of_get? found)
      exact .inr ⟨value, other, rfl, found', same⟩
    | none =>
      -- Every key of the first object is one of the second, and there are as many.
      have keys : entries.map Prod.fst ⊆ others.map Prod.fst := by
        intro key member
        obtain ⟨entry, inside, rfl⟩ := List.mem_map.mp member
        obtain ⟨other, found', -⟩ := within entry inside
        by_contra absent
        rw [Entries.get?_eq_none_iff.mpr absent] at found'
        cases found'
      have reordered := (unique.subperm keys).perm_of_length_le
        (by simp only [List.length_map, lengths, Nat.le_refl])
      rw [Entries.get?_eq_none_iff, reordered.mem_iff] at found
      exact .inl ⟨rfl, Entries.get?_eq_none_iff.mpr found⟩
  · intro lookups
    have keys := (forall_sameLookup_iff.mp lookups).1
    refine ⟨?_, fun entry member => ?_⟩
    · have reordered := (List.perm_ext_iff_of_nodup unique unique').mpr keys
      rw [← List.length_map, reordered.length_eq, List.length_map]
    · have there := (Entries.get?_eq_some_iff unique).mpr member
      rcases lookups entry.1 with ⟨none, -⟩ | ⟨a, b, found, found', same⟩
      · rw [none] at there
        cases there
      · rw [found, Option.some_inj] at there
        exact ⟨b, found', there ▸ same⟩

/-! ## The laws -/

theorem equal_symm (left : a.WellFormed names) (right : b.WellFormed names)
    (same : a.equal b = true) : b.equal a = true := by
  induction left generalizing b with
  | array each ih =>
    obtain ⟨others, rfl, items⟩ := exists_array_of_equal same
    have each' := wellFormed_array_iff.mp right
    exact equalItems_symm (fun item member other member' => ih item member (each' other member'))
      items
  | object unique each ih =>
    obtain ⟨others, rfl⟩ := exists_object_of_equal same
    obtain ⟨unique', each'⟩ := wellFormed_object_iff.mp right
    rw [equal_object_iff unique unique'] at same
    rw [equal_object_iff unique' unique]
    intro key
    rcases same key with ⟨none, none'⟩ | ⟨x, y, found, found', equal⟩
    · exact .inl ⟨none', none⟩
    · have back := ih _ (Entries.mem_of_get? found)
        (each' _ (Entries.mem_of_get? found')) equal
      exact .inr ⟨y, x, found', found, back⟩
  | number x =>
    cases right with
    | number y => rwa [equal, Binary.equal_comm]
    | _ => simp [equal] at same
  | function named => cases right <;> simp_all [equal]
  | _ =>
    obtain rfl := eq_of_equal (by simp [tag]) same
    exact same

theorem equal_comm (left : a.WellFormed names) (right : b.WellFormed names) :
    a.equal b = b.equal a :=
  Bool.eq_iff_iff.mpr ⟨equal_symm left right, equal_symm right left⟩

theorem equal_trans (left : a.WellFormed names) (middle : b.WellFormed names)
    (right : c.WellFormed names) (first : a.equal b = true) (second : b.equal c = true) :
    a.equal c = true := by
  induction left generalizing b c with
  | array each ih =>
    obtain ⟨between, rfl, items⟩ := exists_array_of_equal first
    obtain ⟨others, rfl, items'⟩ := exists_array_of_equal second
    have each' := wellFormed_array_iff.mp middle
    have each'' := wellFormed_array_iff.mp right
    exact equalItems_trans (fun item member x member' y member'' =>
      ih item member (each' x member') (each'' y member'')) items items'
  | object unique each ih =>
    obtain ⟨between, rfl⟩ := exists_object_of_equal first
    obtain ⟨others, rfl⟩ := exists_object_of_equal second
    obtain ⟨unique', each'⟩ := wellFormed_object_iff.mp middle
    obtain ⟨unique'', each''⟩ := wellFormed_object_iff.mp right
    rw [equal_object_iff unique unique'] at first
    rw [equal_object_iff unique' unique''] at second
    rw [equal_object_iff unique unique'']
    intro key
    rcases first key with ⟨none, none'⟩ | ⟨x, y, found, found', equal⟩
    · rcases second key with ⟨-, none''⟩ | ⟨_, _, found', -⟩
      · exact .inl ⟨none, none''⟩
      · rw [none'] at found'
        cases found'
    · rcases second key with ⟨none', -⟩ | ⟨y', z, there, found'', equal'⟩
      · rw [none'] at found'
        cases found'
      · obtain rfl := Option.some.inj (found'.symm.trans there)
        exact .inr ⟨x, z, found, found'', ih _ (Entries.mem_of_get? found)
          (each' _ (Entries.mem_of_get? found'))
          (each'' _ (Entries.mem_of_get? found'')) equal equal'⟩
  | number x =>
    cases middle with
    | number y =>
      cases right with
      | number z => exact Binary.equal_trans first second
      | _ => simp [equal] at second
    | _ => simp [equal] at first
  | function named =>
    cases middle with
    | function named' => cases right <;> simp_all [equal]
    | _ => simp [equal] at first
  | _ =>
    obtain rfl := eq_of_equal (by simp [tag]) first
    exact second

/-- The part is the value itself, or it occurs in it at some depth. -/
inductive Inside (part : Value) : Value → Prop
  | here : Inside part part
  | item {items : List Value} {item : Value} (member : item ∈ items) (inside : Inside part item) :
    Inside part (.array items)
  | entry {entries : List (String × Value)} {entry : String × Value} (member : entry ∈ entries)
    (inside : Inside part entry.2) : Inside part (.object entries)

theorem Inside.trans (first : a.Inside b) (second : b.Inside c) : a.Inside c := by
  induction second with
  | here => exact first
  | item member _ ih => exact .item member ih
  | entry member _ ih => exact .entry member ih

theorem WellFormed.of_inside (formed : b.WellFormed names) (inside : a.Inside b) :
    a.WellFormed names := by
  induction inside with
  | here => exact formed
  | item member _ ih => exact ih (wellFormed_array_iff.mp formed _ member)
  | entry member _ ih => exact ih ((wellFormed_object_iff.mp formed).2 _ member)

/-- Somewhere in the value stands `nan`. -/
def HasNan (a : Value) : Prop := Inside (.number .nan) a

/-- A value equals itself if and only if `nan` does not occur in it. -/
theorem equal_self_iff (formed : a.WellFormed names) : a.equal a = true ↔ ¬ a.HasNan := by
  induction formed with
  | array each ih =>
    rw [equal, equalItems_self_iff]
    constructor
    · rintro same (_ | ⟨member, inside⟩)
      exact (ih _ member).mp (same _ member) inside
    · exact fun clean item member => (ih item member).mpr fun inside => clean (Inside.item member inside)
  | object unique each ih =>
    rw [equal_object_iff unique unique]
    constructor
    · rintro same (_ | _ | ⟨member, inside⟩)
      have found := (Entries.get?_eq_some_iff unique).mpr member
      rcases same _ with ⟨none, -⟩ | ⟨x, y, there, there', equal⟩
      · rw [none] at found
        cases found
      · obtain rfl := Option.some.inj (there.symm.trans found)
        obtain rfl := Option.some.inj (there'.symm.trans found)
        exact (ih _ member).mp equal inside
    · intro clean key
      cases found : Entries.get? key _ with
      | none => exact .inl ⟨rfl, rfl⟩
      | some value =>
        have member := Entries.mem_of_get? found
        have equal := (ih _ member).mpr fun inside => clean (Inside.entry member inside)
        exact .inr ⟨value, value, rfl, rfl, equal⟩
  | number x =>
    rw [equal, Binary.equal_self_iff]
    constructor
    · rintro number ⟨⟩
      exact number rfl
    · rintro clean rfl
      exact clean .here
  | _ => exact iff_of_true (by simp [equal]) nofun

/-! ## The order of entries -/

/-- The second value is the first with the entries of objects in it in another order. -/
inductive Reordered : Value → Value → Prop
  | refl (a : Value) : Reordered a a
  | trans {a b c : Value} (first : Reordered a b) (second : Reordered b c) : Reordered a c
  | entries {entries others : List (String × Value)} (permuted : entries.Perm others) :
    Reordered (.object entries) (.object others)
  | item {a b : Value} (before after : List Value) (inside : Reordered a b) :
    Reordered (.array (before ++ a :: after)) (.array (before ++ b :: after))
  | entry {a b : Value} (key : String) (before after : List (String × Value))
    (inside : Reordered a b) :
    Reordered (.object (before ++ (key, a) :: after)) (.object (before ++ (key, b) :: after))

theorem Reordered.wellFormed (reordered : a.Reordered b) (formed : a.WellFormed names) :
    b.WellFormed names := by
  induction reordered with
  | refl => exact formed
  | trans _ _ ih ih' => exact ih' (ih formed)
  | entries permuted =>
    obtain ⟨unique, each⟩ := wellFormed_object_iff.mp formed
    exact .object ((permuted.map Prod.fst).nodup_iff.mp unique)
      fun entry member => each entry (permuted.mem_iff.mpr member)
  | item before after _ ih =>
    rw [wellFormed_array_iff, List.forall_mem_append, List.forall_mem_cons] at formed ⊢
    exact ⟨formed.1, ih formed.2.1, formed.2.2⟩
  | entry key before after _ ih =>
    rw [wellFormed_object_iff, List.forall_mem_append, List.forall_mem_cons] at formed ⊢
    rw [List.map_append, List.map_cons] at formed ⊢
    exact ⟨formed.1, formed.2.1, ih formed.2.2.1, formed.2.2.2⟩

theorem equalItems_append_cons {before after others : List Value}
    (same : ∀ other ∈ others, a.equal other = b.equal other) :
    equalItems (before ++ a :: after) others = equalItems (before ++ b :: after) others := by
  induction before generalizing others with
  | nil =>
    cases others with
    | nil => rfl
    | cons other others =>
      rw [List.nil_append, List.nil_append, equalItems, equalItems, same other List.mem_cons_self]
  | cons item before ih =>
    cases others with
    | nil => rfl
    | cons other others =>
      rw [List.cons_append, List.cons_append, equalItems, equalItems,
        ih fun other member => same other (List.mem_cons_of_mem _ member)]

theorem entriesWithin_append (before after others : List (String × Value)) :
    entriesWithin (before ++ after) others =
      (entriesWithin before others && entriesWithin after others) := by
  induction before with
  | nil => rw [List.nil_append, entriesWithin, Bool.true_and]
  | cons entry before ih => rw [List.cons_append, entriesWithin, entriesWithin, ih, Bool.and_assoc]

/-- The order of entries does not change which values a value equals. -/
theorem Reordered.equal_eq (reordered : a.Reordered b) (formed : a.WellFormed names)
    (right : c.WellFormed names) : a.equal c = b.equal c := by
  induction reordered generalizing c with
  | refl => rfl
  | trans first _ ih ih' => rw [ih formed right, ih' (first.wellFormed formed) right]
  | entries permuted =>
    cases right with
    | object unique' each' =>
      obtain ⟨unique, each⟩ := wellFormed_object_iff.mp formed
      have unique'' := (permuted.map Prod.fst).nodup_iff.mp unique
      rw [Bool.eq_iff_iff, equal_object_iff unique unique', equal_object_iff unique'' unique']
      simp only [Entries.get?_of_perm unique permuted]
    | _ => simp [equal]
  | item before after _ ih =>
    cases right with
    | array each' =>
      rw [wellFormed_array_iff, List.forall_mem_append, List.forall_mem_cons] at formed
      rw [equal, equal]
      exact equalItems_append_cons fun other member => ih formed.2.1 (each' other member)
    | _ => simp [equal]
  | entry key before after _ ih =>
    cases right with
    | object unique' each' =>
      rw [wellFormed_object_iff, List.forall_mem_append, List.forall_mem_cons] at formed
      have inside := formed.2.2.1
      rw [equal, equal, List.length_append, List.length_append, List.length_cons,
        List.length_cons, entriesWithin_append, entriesWithin_append, entriesWithin, entriesWithin]
      cases found : Entries.get? key _ with
      | none => rfl
      | some other =>
        dsimp only
        rw [ih inside (each' _ (Entries.mem_of_get? found))]
    | _ => simp [equal]

end Value

end RecordCheck
