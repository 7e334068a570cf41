import Mathlib.Data.List.Induction
import RecordCheck.Proofs.Value.Json
import RecordCheck.Value.Store

/-!
# Values along a history

A program makes values one after another: from scratch, out of values made before, or as
copies of them and of their parts (`Making`). `Workshop` keeps all of them in order, so a
value is known by the place of the step that made it.

* `Workshop.Makes` says once what a step can make. From it follow that every value of a history
  is well formed (`Workshop.sound_of_run?`) and that every function and symbol in a value is the
  result of a constructor call (`Workshop.exists_callAt_of_inside`).
* The identity of a function or symbol counts the calls of its kind before its own
  (`Workshop.function_of_run?`, `Workshop.symbol_of_run?`), so different calls give different
  values as long as the count of symbols fits 64 bits.
* `Workshop.equality_laws` puts these together with the laws of equality.
-/

namespace RecordCheck

/-! ## Histories -/

/-- One step of a program that makes values. Values made before are named by their places. What
a function computes when it is called is made by such steps, too. -/
inductive Making
  | null
  | boolean (b : Bool)
  | number (n : Numeral)
  | string (s : String)
  | array (items : List Nat)
  | object (entries : List (String × Nat))
  | regex (pattern : String)
  | date (t : Timestamp)
  | function (name : Option String) (body : List Value → Value)
  | symbol (description : Option String)
  | ofJson (json : Json) (formed : json.WellFormed)
  /-- A copy of a value. -/
  | clone (source : Nat)
  /-- A copy of an element of an array. -/
  | item (source index : Nat)
  /-- A copy of the value under a key of an object. -/
  | entry (source : Nat) (key : String)

namespace Making

/-- The name that a new function gets. -/
def functionName? : Making → Option (Option String)
  | .function name _ => some name
  | _ => none

/-- Whether the step calls a constructor of symbols. -/
def isSymbol : Making → Bool
  | .symbol _ => true
  | _ => false

/-- The names of the functions that the steps make, in order. -/
def functionNames (makings : List Making) : List (Option String) :=
  makings.filterMap functionName?

/-- How many symbols the steps make. -/
def symbolCount (makings : List Making) : Nat := makings.countP isSymbol

/-- Whether the step calls a constructor of functions or of symbols. -/
def isCall (making : Making) : Bool := making.functionName?.isSome || making.isSymbol

end Making

/-- What a program has made so far, in the order of the making. -/
structure Workshop where
  store : Store := {}
  values : List Value := []

namespace Workshop

/-- The value that a step makes; there is none if what it names was not made before. -/
def value? (w : Workshop) : Making → Option Value
  | .null => some .null
  | .boolean b => some (.boolean b)
  | .number n => some (.ofNumeral n)
  | .string s => some (.string s)
  | .array items => (items.mapM fun place => w.values[place]?).map .array
  | .object entries =>
    (entries.mapM fun entry => (w.values[entry.2]?).map (entry.1, ·)).map .ofEntries
  | .regex pattern => some (.regex pattern)
  | .date t => some (.date t)
  | .function name body => some (.function (w.store.newFunction name body).1)
  | .symbol description => some (.symbol (w.store.newSymbol description).1)
  | .ofJson json _ => some (.ofJson json)
  | .clone source => w.values[source]?
  | .item source index => do (← (← w.values[source]?).array?)[index]?
  | .entry source key => do Entries.get? key (← (← w.values[source]?).object?)

/-- The store after a step. -/
def storeAfter (w : Workshop) : Making → Store
  | .function name body => (w.store.newFunction name body).2
  | .symbol description => (w.store.newSymbol description).2
  | _ => w.store

/-- The workshop after a step. -/
def make? (w : Workshop) (making : Making) : Option Workshop :=
  (w.value? making).map fun value => ⟨w.storeAfter making, w.values ++ [value]⟩

/-- The workshop after all steps. -/
def run? (makings : List Making) : Option Workshop := makings.foldlM make? {}

end Workshop

/-! ## What a step makes -/

theorem mem_of_mapM {α β : Type} {f : α → Option β} {xs : List α} {ys : List β}
    (mapped : xs.mapM f = some ys) {y : β} (member : y ∈ ys) : ∃ x ∈ xs, f x = some y := by
  induction xs generalizing ys with
  | nil =>
    cases mapped
    cases member
  | cons x xs ih =>
    rw [List.mapM_cons] at mapped
    obtain ⟨first, here, mapped⟩ := Option.bind_eq_some_iff.mp mapped
    obtain ⟨rest, there, same⟩ := Option.bind_eq_some_iff.mp mapped
    cases same
    rcases List.mem_cons.mp member with rfl | later
    · exact ⟨x, List.mem_cons_self, here⟩
    · obtain ⟨source, inside, found⟩ := ih there later
      exact ⟨source, List.mem_cons_of_mem x inside, found⟩

theorem Entries.eq_or_mem_of_mem_insert {α : Type} {key : String} {value : α}
    {entries : List (String × α)} {entry : String × α}
    (member : entry ∈ insert key value entries) : entry = (key, value) ∨ entry ∈ entries := by
  induction entries with
  | nil => exact .inl (List.mem_singleton.mp member)
  | cons first rest ih =>
    unfold insert at member
    split at member
    · rename_i same
      rw [same] at member
      exact (List.mem_cons.mp member).imp_right (List.mem_cons_of_mem _)
    · rcases List.mem_cons.mp member with here | later
      · exact .inr (here ▸ List.mem_cons_self)
      · exact (ih later).imp_right (List.mem_cons_of_mem _)

theorem Entries.mem_of_mem_ofList {α : Type} {entries : List (String × α)} {entry : String × α}
    (member : entry ∈ ofList entries) : entry ∈ entries := by
  induction entries using List.reverseRecOn with
  | nil => cases member
  | append_singleton entries last ih =>
    rw [ofList, List.foldl_concat] at member
    rcases eq_or_mem_of_mem_insert member with here | before
    · exact List.mem_append_right _ (here ▸ List.mem_cons_self)
    · exact List.mem_append_left _ (ih before)

namespace Value

theorem wellFormed_ofJson {json : Json} (formed : json.WellFormed) (names : List (Option String)) :
    (ofJson json).WellFormed names := by
  induction formed with
  | null => exact .null
  | boolean b => exact .boolean b
  | integer lower upper => exact .number _
  | number finite => exact .number _
  | string s => exact .string s
  | array each ih =>
    rw [ofJson, ofJsonItems_eq_map, wellFormed_array_iff]
    exact List.forall_mem_map.mpr ih
  | object sorted each ih =>
    rw [ofJson, ofJsonMembers_eq_map, wellFormed_object_iff, List.map_map]
    exact ⟨sorted.nodup, List.forall_mem_map.mpr ih⟩

end Value

namespace Workshop

variable {w next : Workshop} {makings : List Making} {making : Making} {value : Value}

/-- Everything that a step can make. -/
inductive Makes (w : Workshop) : Making → Value → Prop
  | leaf {making : Making} {value : Value}
    (kind : value.tag ∈ [.null, .boolean, .number, .string, .regex, .date]) : Makes w making value
  | function (name : Option String) (body : List Value → Value) :
    Makes w (.function name body) (.function (w.store.newFunction name body).1)
  | symbol (description : Option String) :
    Makes w (.symbol description) (.symbol (w.store.newSymbol description).1)
  /-- An array of values made before. -/
  | array {making : Making} {items : List Value} (each : ∀ item ∈ items, item ∈ w.values) :
    Makes w making (.array items)
  /-- An object of values made before. -/
  | object {making : Making} {entries : List (String × Value)}
    (unique : (entries.map Prod.fst).Nodup) (each : ∀ entry ∈ entries, entry.2 ∈ w.values) :
    Makes w making (.object entries)
  | ofJson {making : Making} {json : Json} (formed : json.WellFormed) :
    Makes w making (.ofJson json)
  /-- A copy of a value made before, or of a part of one. -/
  | part {making : Making} {value before : Value} (member : before ∈ w.values)
    (inside : value.Inside before) : Makes w making value

theorem makes_of_value? (made : w.value? making = some value) : w.Makes making value := by
  cases making with
  | function name body =>
    cases made
    exact .function name body
  | symbol description =>
    cases made
    exact .symbol description
  | null | boolean | number | string | regex | date =>
    cases made
    exact .leaf (by simp [Value.ofNumeral, Value.tag])
  | array items =>
    obtain ⟨values, found, rfl⟩ := Option.map_eq_some_iff.mp made
    refine .array fun item member => ?_
    obtain ⟨place, -, there⟩ := mem_of_mapM found member
    exact List.mem_of_getElem? there
  | object entries =>
    obtain ⟨pairs, found, rfl⟩ := Option.map_eq_some_iff.mp made
    refine .object (Entries.nodup_ofList pairs) fun entry member => ?_
    obtain ⟨place, -, there⟩ := mem_of_mapM found (Entries.mem_of_mem_ofList member)
    obtain ⟨item, found', rfl⟩ := Option.map_eq_some_iff.mp there
    exact List.mem_of_getElem? found'
  | ofJson json formed =>
    cases made
    exact .ofJson formed
  | clone source => exact .part (List.mem_of_getElem? made) .here
  | item source index =>
    obtain ⟨container, found, made⟩ := Option.bind_eq_some_iff.mp made
    obtain ⟨items, array, there⟩ := Option.bind_eq_some_iff.mp made
    cases container <;> cases array
    exact .part (List.mem_of_getElem? found) (.item (List.mem_of_getElem? there) .here)
  | entry source key =>
    obtain ⟨container, found, made⟩ := Option.bind_eq_some_iff.mp made
    obtain ⟨entries, object, there⟩ := Option.bind_eq_some_iff.mp made
    cases container <;> cases object
    exact .part (List.mem_of_getElem? found) (.entry (Entries.mem_of_get? there) .here)

/-- A step makes well-formed values out of well-formed values. -/
theorem Makes.wellFormed {names : List (Option String)} (makes : w.Makes making value)
    (each : ∀ value ∈ w.values, value.WellFormed names)
    (size : w.store.functions.size = names.length) :
    value.WellFormed (names ++ Making.functionNames [making]) := by
  cases makes with
  | leaf kind =>
    cases value with
    | array | object | function | symbol => simp [Value.tag] at kind
    | _ => constructor
  | function name body =>
    refine .function ?_
    show (names ++ [name])[w.store.functions.size]? = some name
    rw [size, List.getElem?_concat_length]
  | symbol description => exact .symbol _
  | array inside => exact .append (.array fun item member => each item (inside item member)) _
  | object unique inside =>
    exact .append (.object unique fun entry member => each entry.2 (inside entry member)) _
  | ofJson formed => exact .append (Value.wellFormed_ofJson formed names) _
  | part member inside => exact ((each _ member).of_inside inside).append _

/-! ## What a history keeps -/

/-- What holds of a workshop after the steps: a value for each of them, identities that count the
calls, and only well-formed values. -/
structure Sound (w : Workshop) (makings : List Making) : Prop where
  length : w.values.length = makings.length
  functions : w.store.functions.size = (Making.functionNames makings).length
  symbols : w.store.symbols = UInt64.ofNat (Making.symbolCount makings)
  each : ∀ value ∈ w.values, value.WellFormed (Making.functionNames makings)

theorem functions_storeAfter (w : Workshop) (making : Making) :
    (w.storeAfter making).functions.size =
      w.store.functions.size + (Making.functionNames [making]).length := by
  cases making with
  | function name body => exact Array.size_push _
  | _ => rfl

theorem symbols_storeAfter (w : Workshop) (making : Making) :
    (w.storeAfter making).symbols =
      w.store.symbols + UInt64.ofNat (Making.symbolCount [making]) := by
  cases making with
  | symbol description => rfl
  | _ => exact (UInt64.add_zero _).symm

theorem Sound.make? (sound : w.Sound makings) (made : w.make? making = some next) :
    next.Sound (makings ++ [making]) := by
  obtain ⟨value, found, rfl⟩ := Option.map_eq_some_iff.mp made
  have names : Making.functionNames (makings ++ [making]) =
      Making.functionNames makings ++ Making.functionNames [making] := List.filterMap_append
  constructor
  · rw [List.length_append, List.length_append, sound.length]
    rfl
  · rw [functions_storeAfter, sound.functions, names, List.length_append]
  · rw [symbols_storeAfter, sound.symbols, ← UInt64.ofNat_add, Making.symbolCount,
      Making.symbolCount, Making.symbolCount, List.countP_append]
  · rw [names]
    intro other member
    rcases List.mem_append.mp member with old | new
    · exact (sound.each other old).append _
    · rw [List.mem_singleton.mp new]
      exact (makes_of_value? found).wellFormed sound.each sound.functions

theorem run?_concat (makings : List Making) (making : Making) :
    run? (makings ++ [making]) = (run? makings).bind (Workshop.make? · making) := by
  rw [run?, List.foldlM_append]
  simp only [List.foldlM_cons, List.foldlM_nil, bind_pure]
  rfl

theorem sound_of_run? (run : run? makings = some w) : w.Sound makings := by
  induction makings using List.reverseRecOn generalizing w with
  | nil =>
    cases run
    exact ⟨rfl, rfl, rfl, nofun⟩
  | append_singleton makings making ih =>
    rw [run?_concat] at run
    obtain ⟨before, run, made⟩ := Option.bind_eq_some_iff.mp run
    exact (ih run).make? made

/-- The value at a place is what the step at this place made of the values before it. -/
theorem exists_value_of_run? {i : Nat} (run : run? makings = some w)
    (there : makings[i]? = some making) : ∃ before value, run? (makings.take i) = some before ∧
      before.values <+: w.values ∧ before.value? making = some value ∧
      w.values[i]? = some value := by
  induction makings using List.reverseRecOn generalizing w with
  | nil => cases there
  | append_singleton makings last ih =>
    rw [run?_concat] at run
    obtain ⟨middle, past, made⟩ := Option.bind_eq_some_iff.mp run
    have sound := sound_of_run? past
    obtain ⟨value, found, rfl⟩ := Option.map_eq_some_iff.mp made
    rcases Nat.lt_or_ge i makings.length with inside | beyond
    · rw [List.getElem?_append_left inside] at there
      obtain ⟨before, value, earlier, older, made, kept⟩ := ih past there
      refine ⟨before, value, ?_, older.trans (List.prefix_append _ _), made, ?_⟩
      · rwa [List.take_append_of_le_length inside.le]
      · rwa [List.getElem?_append_left (by rw [sound.length]; exact inside)]
    · have last : i = makings.length := by
        have bound := (List.getElem?_eq_some_iff.mp there).1
        rw [List.length_append, List.length_singleton] at bound
        omega
      subst last
      rw [List.getElem?_concat_length, Option.some_inj] at there
      subst there
      refine ⟨middle, value, ?_, List.prefix_append _ _, found, ?_⟩
      · rwa [List.take_left]
      · rw [← sound.length, List.getElem?_concat_length]

theorem value_of_clone {i source : Nat} (run : run? makings = some w)
    (there : makings[i]? = some (.clone source)) : w.values[i]? = w.values[source]? := by
  obtain ⟨before, value, -, ⟨later, values⟩, made, kept⟩ := exists_value_of_run? run there
  have made : before.values[source]? = some value := made
  have older := (List.getElem?_eq_some_iff.mp made).1
  rw [kept, ← values, List.getElem?_append_left older, made]

/-! ## Where functions and symbols come from -/

/-- The values that have an identity of their own. -/
def Distinctive (value : Value) : Prop := value.tag = .function ∨ value.tag = .symbol

theorem not_inside_ofJson {part : Value} (distinctive : Distinctive part) {json : Json}
    (formed : json.WellFormed) : ¬ part.Inside (.ofJson json) := by
  induction formed with
  | array each ih =>
    rw [Value.ofJson, Value.ofJsonItems_eq_map]
    rintro (_ | ⟨member, inside⟩)
    · simp [Distinctive, Value.tag] at distinctive
    · obtain ⟨item, there, rfl⟩ := List.mem_map.mp member
      exact ih item there inside
  | object sorted each ih =>
    rw [Value.ofJson, Value.ofJsonMembers_eq_map]
    rintro (_ | _ | ⟨member, inside⟩)
    · simp [Distinctive, Value.tag] at distinctive
    · obtain ⟨entry, there, rfl⟩ := List.mem_map.mp member
      exact ih entry there inside
  | _ =>
    rintro ⟨⟩
    simp [Distinctive, Value.ofJson, Value.tag] at distinctive

/-- A function or symbol in what a step makes is either new or in a value made before. -/
theorem Makes.call_or_inside {part : Value} (makes : w.Makes making value)
    (distinctive : Distinctive part) (inside : part.Inside value) :
    (making.isCall = true ∧ part = value) ∨ ∃ before ∈ w.values, part.Inside before := by
  cases makes with
  | leaf kind =>
    cases inside with
    | here => rcases distinctive with same | same <;> simp [same] at kind
    | item => simp [Value.tag] at kind
    | entry => simp [Value.tag] at kind
  | function name body =>
    cases inside
    exact .inl ⟨rfl, rfl⟩
  | symbol description =>
    cases inside
    exact .inl ⟨rfl, rfl⟩
  | array each =>
    rcases inside with _ | ⟨member, inside⟩
    · simp [Distinctive, Value.tag] at distinctive
    · exact .inr ⟨_, each _ member, inside⟩
  | object unique each =>
    rcases inside with _ | _ | ⟨member, inside⟩
    · simp [Distinctive, Value.tag] at distinctive
    · exact .inr ⟨_, each _ member, inside⟩
  | ofJson formed => exact absurd inside (not_inside_ofJson distinctive formed)
  | part member within => exact .inr ⟨_, member, inside.trans within⟩

/-! ## Constructor calls -/

/-- The step at a place calls a constructor of functions or symbols, and this is the result. -/
structure CallAt (w : Workshop) (makings : List Making) (i : Nat) (result : Value) : Prop where
  called : ∃ making, makings[i]? = some making ∧ making.isCall = true
  there : w.values[i]? = some result

/-- A new function is numbered by the functions made before. -/
theorem function_of_run? {i : Nat} {name : Option String} {body : List Value → Value}
    (run : run? makings = some w) (there : makings[i]? = some (.function name body)) :
    w.values[i]? = some (.function ⟨(Making.functionNames (makings.take i)).length, name⟩) := by
  obtain ⟨before, value, earlier, -, made, kept⟩ := exists_value_of_run? run there
  rw [kept, ← made, ← (sound_of_run? earlier).functions]
  rfl

/-- A new symbol is numbered by the symbols made before. -/
theorem symbol_of_run? {i : Nat} {description : Option String}
    (run : run? makings = some w) (there : makings[i]? = some (.symbol description)) :
    w.values[i]? =
      some (.symbol ⟨UInt64.ofNat (Making.symbolCount (makings.take i)), description⟩) := by
  obtain ⟨before, value, earlier, -, made, kept⟩ := exists_value_of_run? run there
  rw [kept, ← made, ← (sound_of_run? earlier).symbols]
  rfl

theorem countP_take_lt {p : Making → Bool} {i j : Nat} (there : makings[i]? = some making)
    (holds : p making = true) (before : i < j) :
    (makings.take i).countP p < (makings.take j).countP p := by
  have upTo : makings.take (i + 1) = makings.take i ++ [making] := by
    rw [List.take_add_one, there, Option.toList_some]
  calc (makings.take i).countP p
      < (makings.take (i + 1)).countP p := by
        rw [upTo, List.countP_append, List.countP_singleton, if_pos holds]
        exact Nat.lt_succ_self _
    _ ≤ (makings.take j).countP p := (List.take_sublist_take_left before).countP_le

theorem length_functionNames (makings : List Making) :
    (Making.functionNames makings).length =
      makings.countP fun making => making.functionName?.isSome :=
  List.length_filterMap_eq_countP

/-- A later call of a constructor gives a value that differs. -/
theorem CallAt.not_equal_of_lt {i j : Nat} {a b : Value} (run : run? makings = some w)
    (few : Making.symbolCount makings < 2 ^ 64) (first : w.CallAt makings i a)
    (second : w.CallAt makings j b) (before : i < j) : a.equal b = false := by
  obtain ⟨⟨making, there, call⟩, result⟩ := first
  obtain ⟨⟨making', there', call'⟩, result'⟩ := second
  cases making with
  | function name body =>
    have value := Option.some.inj (result.symm.trans (function_of_run? run there))
    cases making' with
    | function name' body' =>
      have value' := Option.some.inj (result'.symm.trans (function_of_run? run there'))
      have fewer := countP_take_lt (p := fun making => making.functionName?.isSome) there rfl before
      rw [value, value', Value.equal, beq_eq_false_iff_ne, length_functionNames,
        length_functionNames]
      exact fewer.ne
    | symbol description =>
      rw [value, Option.some.inj (result'.symm.trans (symbol_of_run? run there'))]
      rfl
    | _ => cases call'
  | symbol description =>
    have value := Option.some.inj (result.symm.trans (symbol_of_run? run there))
    cases making' with
    | function name' body' =>
      rw [value, Option.some.inj (result'.symm.trans (function_of_run? run there'))]
      rfl
    | symbol description' =>
      have value' := Option.some.inj (result'.symm.trans (symbol_of_run? run there'))
      have fewer : Making.symbolCount (makings.take i) < Making.symbolCount (makings.take j) :=
        countP_take_lt there rfl before
      have bound : Making.symbolCount (makings.take j) < 2 ^ 64 :=
        (List.take_sublist j makings).countP_le.trans_lt few
      rw [value, value', Value.equal, beq_eq_false_iff_ne]
      intro same
      -- Below 2 ^ 64 the numbering has not come round to an old number.
      have counts := congrArg UInt64.toNat (Symbol.mk.inj same).1
      rw [UInt64.toNat_ofNat_of_lt' (fewer.trans bound), UInt64.toNat_ofNat_of_lt' bound] at counts
      exact fewer.ne counts
    | _ => cases call'
  | _ => cases call

theorem CallAt.make? {i : Nat} {result : Value} (call : w.CallAt makings i result)
    (made : w.make? making = some next) : next.CallAt (makings ++ [making]) i result := by
  obtain ⟨⟨called, there, isCall⟩, kept⟩ := call
  obtain ⟨value, -, rfl⟩ := Option.map_eq_some_iff.mp made
  constructor
  · refine ⟨called, ?_, isCall⟩
    rwa [List.getElem?_append_left (List.getElem?_eq_some_iff.mp there).1]
  · rwa [List.getElem?_append_left (List.getElem?_eq_some_iff.mp kept).1]

/-- Every function and symbol anywhere in a value is the result of a constructor call. -/
theorem exists_callAt_of_inside {a part : Value} (run : run? makings = some w)
    (distinctive : Distinctive part) (member : a ∈ w.values) (inside : part.Inside a) :
    ∃ i, w.CallAt makings i part := by
  induction makings using List.reverseRecOn generalizing w a with
  | nil =>
    cases run
    cases member
  | append_singleton makings making ih =>
    rw [run?_concat] at run
    obtain ⟨before, past, made⟩ := Option.bind_eq_some_iff.mp run
    have old {b : Value} (member : b ∈ before.values) (inside : part.Inside b) :
        ∃ i, w.CallAt (makings ++ [making]) i part := by
      obtain ⟨i, call⟩ := ih past member inside
      exact ⟨i, call.make? made⟩
    obtain ⟨value, found, rfl⟩ := Option.map_eq_some_iff.mp made
    rcases List.mem_append.mp member with earlier | now
    · exact old earlier inside
    · obtain rfl := List.mem_singleton.mp now
      rcases (makes_of_value? found).call_or_inside distinctive inside with ⟨isCall, rfl⟩ | ⟨b, member, inside⟩
      · refine ⟨makings.length, ⟨making, ?_, isCall⟩, ?_⟩
        · rw [List.getElem?_concat_length]
        · rw [← (sound_of_run? past).length, List.getElem?_concat_length]
      · exact old member inside

/-! ## The laws -/

/-- What equality does among the values of a history. -/
structure EqualityLaws (w : Workshop) (makings : List Making) : Prop where
  symmetric : ∀ a ∈ w.values, ∀ b ∈ w.values, (a == b) = (b == a)
  transitive : ∀ a ∈ w.values, ∀ b ∈ w.values, ∀ c ∈ w.values,
    (a == b) = true → (b == c) = true → (a == c) = true
  reflexive : ∀ a ∈ w.values, (a == a) = true ↔ ¬ a.HasNan
  clones : ∀ (i source : Nat) (a b : Value), makings[i]? = some (.clone source) → w.values[source]? = some a →
    w.values[i]? = some b → ((a == b) = true ↔ ¬ a.HasNan)
  reordered : ∀ a ∈ w.values, ∀ b, a.Reordered b → ∀ c ∈ w.values,
    (a == c) = (b == c) ∧ (c == a) = (c == b)
  objects : ∀ entries others, .object entries ∈ w.values → .object others ∈ w.values →
    ((Value.object entries == Value.object others) = true ↔
      (∀ key, key ∈ entries.map Prod.fst ↔ key ∈ others.map Prod.fst) ∧
        ∀ key a b, Entries.get? key entries = some a → Entries.get? key others = some b →
          (a == b) = true)
  kinds : ∀ a ∈ w.values, ∀ b ∈ w.values, a.tag ≠ b.tag → (a == b) = false
  /-- A function or symbol has one origin, which it shares with its copies. -/
  origins : ∀ a ∈ w.values, ∀ part, part.Inside a → Distinctive part →
    ∃! i, w.CallAt makings i part
  /-- Different calls give different values, even with the same arguments. -/
  calls : ∀ (i j : Nat) (a b : Value), w.CallAt makings i a → w.CallAt makings j b → ((a == b) = true ↔ i = j)

theorem CallAt.distinctive {i : Nat} {result : Value} (run : run? makings = some w)
    (call : w.CallAt makings i result) : Distinctive result := by
  obtain ⟨⟨making, there, isCall⟩, found⟩ := call
  cases making with
  | function name body =>
    rw [Option.some.inj (found.symm.trans (function_of_run? run there))]
    exact .inl rfl
  | symbol description =>
    rw [Option.some.inj (found.symm.trans (symbol_of_run? run there))]
    exact .inr rfl
  | _ => cases isCall

theorem Distinctive.equal_self (distinctive : Distinctive value) : value.equal value = true := by
  cases value <;> simp_all [Distinctive, Value.tag, Value.equal]

theorem CallAt.equal_iff {i j : Nat} {a b : Value} (run : run? makings = some w)
    (few : Making.symbolCount makings < 2 ^ 64) (first : w.CallAt makings i a)
    (second : w.CallAt makings j b) : a.equal b = true ↔ i = j := by
  have each := (sound_of_run? run).each
  constructor
  · intro same
    rcases Nat.lt_trichotomy i j with before | here | after
    · rw [first.not_equal_of_lt run few second before] at same
      cases same
    · exact here
    · rw [Value.equal_comm (each a (List.mem_of_getElem? first.there))
        (each b (List.mem_of_getElem? second.there)),
        second.not_equal_of_lt run few first after] at same
      cases same
  · rintro rfl
    rw [← Option.some.inj (first.there.symm.trans second.there)]
    exact (first.distinctive run).equal_self

/-- The laws hold in every history with fewer than 2 ^ 64 symbols. -/
theorem equality_laws (run : run? makings = some w)
    (few : Making.symbolCount makings < 2 ^ 64) : w.EqualityLaws makings := by
  have each := (sound_of_run? run).each
  constructor
  case symmetric => exact fun a member b member' => Value.equal_comm (each a member) (each b member')
  case transitive =>
    exact fun a member b member' c member'' =>
      Value.equal_trans (each a member) (each b member') (each c member'')
  case reflexive => exact fun a member => Value.equal_self_iff (each a member)
  case clones =>
    intro i source a b there found found'
    rw [value_of_clone run there, found, Option.some_inj] at found'
    rw [← found']
    exact Value.equal_self_iff (each a (List.mem_of_getElem? found))
  case reordered =>
    intro a member b reordered c member'
    have same := reordered.equal_eq (each a member) (each c member')
    have formed := reordered.wellFormed (each a member)
    refine ⟨same, ?_⟩
    show c.equal a = c.equal b
    rw [Value.equal_comm (each c member') (each a member), same,
      Value.equal_comm formed (each c member')]
  case objects =>
    intro entries others member member'
    have unique := (Value.wellFormed_object_iff.mp (each _ member)).1
    have unique' := (Value.wellFormed_object_iff.mp (each _ member')).1
    exact (Value.equal_object_iff unique unique').trans Value.forall_sameLookup_iff
  case kinds =>
    intro a _ b _ different
    exact Bool.eq_false_iff.mpr fun same => different (Value.tag_eq_of_equal same)
  case origins =>
    intro a member part inside distinctive
    obtain ⟨i, call⟩ := exists_callAt_of_inside run distinctive member inside
    refine ⟨i, call, fun j call' => ?_⟩
    exact (call'.equal_iff run few call).mp distinctive.equal_self
  case calls => exact fun i j a b first second => first.equal_iff run few second

/-- Two symbols of one description, objects of them with the entries in either order, a copy of
one, and an array around `nan`. -/
def shuffled : List Making :=
  [.symbol (some "x"), .symbol (some "x"), .object [("a", 0), ("b", 1)],
    .object [("b", 1), ("a", 0)], .clone 2, .number (.double .nan), .array [5]]

theorem equality_laws_shuffled : ∃ w, run? shuffled = some w ∧
    Making.symbolCount shuffled < 2 ^ 64 ∧ w.values.length = 7 ∧ w.EqualityLaws shuffled :=
  ⟨_, rfl, by decide, rfl, equality_laws rfl (by decide)⟩

end Workshop

end RecordCheck
