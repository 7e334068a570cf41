import RecordCheck.Proofs.Json.Members
import RecordCheck.Proofs.Number.Nearest
import RecordCheck.Proofs.Value.Equality
import RecordCheck.Value.Json

/-!
# Values through JSON

The two conversions undo each other as far as JSON goes (`Value.json_round_trip`). A
value of the kinds of JSON comes back equal to itself, though its objects may come back
in another order. The JSON form of any value is a normal form: taken as a value it has
the same JSON form again. And a JSON value comes back with its integers rounded to
numbers of double precision and otherwise as it was.
-/

namespace RecordCheck

/-! ## JSON values -/

namespace Json

/-- A JSON value as it is read: integers have 64 bits, with a sign or without, other
numbers are finite, and the members of objects stand in ascending order of keys. -/
inductive WellFormed : Json → Prop
  | null : WellFormed .null
  | boolean (b : Bool) : WellFormed (.boolean b)
  | integer {n : Int} (lower : -2 ^ 63 ≤ n) (upper : n < 2 ^ 64) : WellFormed (.integer n)
  | number {x : Binary64} (finite : x.isFinite = true) : WellFormed (.number x)
  | string (s : String) : WellFormed (.string s)
  | array {items : List Json} (each : ∀ item ∈ items, WellFormed item) : WellFormed (.array items)
  | object {members : List (String × Json)} (sorted : SortedEntries.Sorted members)
    (each : ∀ member ∈ members, WellFormed member.2) : WellFormed (.object members)

mutual

/-- The JSON value with every integer replaced by the nearest number of double precision. -/
def rounded : Json → Json
  | .null => .null
  | .boolean b => .boolean b
  | .integer n => .number (.ofInt n)
  | .number x => .number x
  | .string s => .string s
  | .array items => .array (roundedItems items)
  | .object members => .object (roundedMembers members)

/-- The rounded elements. -/
def roundedItems : List Json → List Json
  | [] => []
  | item :: rest => item.rounded :: roundedItems rest

/-- The rounded members. -/
def roundedMembers : List (String × Json) → List (String × Json)
  | [] => []
  | (key, json) :: rest => (key, json.rounded) :: roundedMembers rest

end

theorem roundedItems_eq_map (items : List Json) : roundedItems items = items.map rounded := by
  induction items with
  | nil => rfl
  | cons item rest ih => rw [roundedItems, ih, List.map_cons]

theorem roundedMembers_eq_map (members : List (String × Json)) :
    roundedMembers members = members.map (Prod.map id rounded) := by
  induction members with
  | nil => rfl
  | cons member rest ih => rw [roundedMembers, ih, List.map_cons, Prod.map, id]

/-- A well-formed JSON value without integers. -/
structure Normal (json : Json) : Prop where
  wellFormed : json.WellFormed
  rounded_eq : json.rounded = json

theorem normal_string (s : String) : (Json.string s).Normal := ⟨.string s, rfl⟩

theorem normal_ofBinary64 (x : Binary64) : (ofBinary64 x).Normal := by
  unfold ofBinary64
  split
  · next finite => exact ⟨.number finite, rfl⟩
  · exact ⟨.null, rfl⟩

theorem normal_array {items : List Json} (each : ∀ item ∈ items, item.Normal) :
    (Json.array items).Normal := by
  have same : ∀ item ∈ items, item.rounded = item := fun item member =>
    (each item member).rounded_eq
  refine ⟨.array fun item member => (each item member).wellFormed, ?_⟩
  rw [rounded, roundedItems_eq_map, List.map_congr_left same, List.map_id']

theorem normal_ofMembers {members : List (String × Json)}
    (each : ∀ member ∈ members, member.2.Normal) : (ofMembers members).Normal := by
  have kept : ∀ member ∈ SortedEntries.ofList members, member.2.Normal := fun member inside =>
    each member (SortedEntries.mem_of_mem_ofList inside)
  refine ⟨.object (SortedEntries.sorted_ofList members) fun member inside =>
    (kept member inside).wellFormed, ?_⟩
  have same : ∀ member ∈ SortedEntries.ofList members, Prod.map id rounded member = member :=
    fun member inside => Prod.ext rfl (kept member inside).rounded_eq
  rw [ofMembers, rounded, roundedMembers_eq_map, List.map_congr_left same, List.map_id']

end Json

/-! ## Values -/

namespace Value

theorem toJsonItems_eq_map (items : List Value) : toJsonItems items = items.map toJson := by
  induction items with
  | nil => rfl
  | cons item rest ih => rw [toJsonItems, ih, List.map_cons]

theorem toJsonEntries_eq_map (entries : List (String × Value)) :
    toJsonEntries entries = entries.map (Prod.map id toJson) := by
  induction entries with
  | nil => rfl
  | cons entry rest ih => rw [toJsonEntries, ih, List.map_cons, Prod.map, id]

theorem ofJsonItems_eq_map (items : List Json) : ofJsonItems items = items.map ofJson := by
  induction items with
  | nil => rfl
  | cons item rest ih => rw [ofJsonItems, ih, List.map_cons]

theorem ofJsonMembers_eq_map (members : List (String × Json)) :
    ofJsonMembers members = members.map (Prod.map id ofJson) := by
  induction members with
  | nil => rfl
  | cons member rest ih => rw [ofJsonMembers, ih, List.map_cons, Prod.map, id]

/-! ### From JSON and back -/

mutual

theorem normal_toJson : (value : Value) → value.toJson.Normal
  | .null => ⟨.null, rfl⟩
  | .boolean b => ⟨.boolean b, rfl⟩
  | .number x => Json.normal_ofBinary64 x
  | .string s => Json.normal_string s
  | .array items => Json.normal_array (normal_toJsonItems items)
  | .object entries => Json.normal_ofMembers (normal_toJsonEntries entries)
  | .regex _ => Json.normal_string _
  | .date _ => Json.normal_string _
  | .function _ => Json.normal_string _
  | .symbol _ => Json.normal_string _

theorem normal_toJsonItems : (items : List Value) → ∀ json ∈ toJsonItems items, json.Normal
  | [] => nofun
  | item :: rest => List.forall_mem_cons.mpr ⟨item.normal_toJson, normal_toJsonItems rest⟩

theorem normal_toJsonEntries : (entries : List (String × Value)) →
    ∀ member ∈ toJsonEntries entries, member.2.Normal
  | [] => nofun
  | (_, value) :: rest =>
    List.forall_mem_cons.mpr ⟨value.normal_toJson, normal_toJsonEntries rest⟩

end

/-- A JSON value taken as a value has the rounded JSON value as its form. -/
theorem toJson_ofJson {json : Json} (formed : json.WellFormed) :
    (ofJson json).toJson = json.rounded := by
  induction formed with
  | null => rfl
  | boolean b => rfl
  | integer lower upper =>
    have finite := (Binary.ofInt_isNearest lower upper).isFinite
    rw [ofJson, toJson, Json.rounded, Json.ofBinary64, if_pos finite]
  | number finite => rw [ofJson, toJson, Json.rounded, Json.ofBinary64, if_pos finite]
  | string s => rfl
  | array each ih =>
    rw [ofJson, toJson, Json.rounded, ofJsonItems_eq_map, toJsonItems_eq_map,
      Json.roundedItems_eq_map, List.map_map]
    exact congrArg Json.array (List.map_congr_left ih)
  | object sorted each ih =>
    rename_i members
    have same : toJsonEntries (ofJsonMembers members) = Json.roundedMembers members := by
      rw [ofJsonMembers_eq_map, toJsonEntries_eq_map, Json.roundedMembers_eq_map, List.map_map]
      exact List.map_congr_left fun member inside => Prod.ext rfl (ih member inside)
    have keys : SortedEntries.Sorted (Json.roundedMembers members) := by
      rw [Json.roundedMembers_eq_map, SortedEntries.Sorted, List.map_map]
      exact sorted
    rw [ofJson, toJson, Json.rounded, same, Json.ofMembers, SortedEntries.ofList_of_sorted keys]

/-! ### To JSON and back -/

/-- A value of the kinds of JSON: numbers are finite, and no object has a key twice. -/
inductive Plain : Value → Prop
  | null : Plain .null
  | boolean (b : Bool) : Plain (.boolean b)
  | number {x : Binary64} (finite : x.isFinite = true) : Plain (.number x)
  | string (s : String) : Plain (.string s)
  | array {items : List Value} (each : ∀ item ∈ items, Plain item) : Plain (.array items)
  | object {entries : List (String × Value)} (unique : (entries.map Prod.fst).Nodup)
    (each : ∀ entry ∈ entries, Plain entry.2) : Plain (.object entries)

theorem equalItems_map {made : Value → Value} {items : List Value}
    (each : ∀ item ∈ items, (made item).equal item = true) :
    equalItems (items.map made) items = true := by
  induction items with
  | nil => rfl
  | cons item rest ih =>
    obtain ⟨first, others⟩ := List.forall_mem_cons.mp each
    rw [List.map_cons, equalItems, first, ih others, Bool.and_self]

/-- A value of the kinds of JSON equals what its JSON form is taken as. -/
theorem equal_ofJson_toJson {value : Value} (plain : value.Plain) :
    (ofJson value.toJson).equal value = true := by
  induction plain with
  | null => rfl
  | boolean b => simp [toJson, ofJson, equal]
  | number finite =>
    rename_i x
    rw [toJson, Json.ofBinary64, if_pos finite, ofJson, equal, Binary.equal_self_iff]
    rintro rfl
    contradiction
  | string s => simp [toJson, ofJson, equal]
  | array each ih =>
    rw [toJson, ofJson, equal, toJsonItems_eq_map, ofJsonItems_eq_map, List.map_map]
    exact equalItems_map ih
  | object unique each ih =>
    rename_i entries
    -- Taken back, the object has the same entries in order of their keys.
    have kept : (ofJsonMembers (SortedEntries.ofList (toJsonEntries entries))).Perm
        (entries.map (Prod.map id (ofJson ∘ toJson))) := by
      have keys : ((toJsonEntries entries).map Prod.fst).Nodup := by
        rw [toJsonEntries_eq_map, List.map_map]
        exact unique
      have ordered := (SortedEntries.ofList_perm keys).map (Prod.map id ofJson)
      have back : (toJsonEntries entries).map (Prod.map id ofJson) =
          entries.map (Prod.map id (ofJson ∘ toJson)) := by
        rw [toJsonEntries_eq_map, List.map_map]
        rfl
      rwa [← ofJsonMembers_eq_map, back] at ordered
    rw [toJson, Json.ofMembers, ofJson, equal, Bool.and_eq_true, beq_iff_eq, entriesWithin_iff]
    refine ⟨by rw [kept.length_eq, List.length_map], fun entry member => ?_⟩
    obtain ⟨original, inside, rfl⟩ := List.mem_map.mp (kept.mem_iff.mp member)
    exact ⟨original.2, (Entries.get?_eq_some_iff unique).mpr inside, ih original inside⟩

/-! ### Both ways -/

/-- What the conversions keep: a value of the kinds of JSON comes back equal to itself; the
JSON form of any value is well formed and comes back as it was; and any JSON value that was
read comes back with its integers rounded, each to the nearest number of double precision.

What JSON does not know degrades, inside arrays and objects as outside: numbers that are not finite
to `null`, patterns to text between slashes, points in time to their text to the millisecond, and
functions and symbols to the text that shows them. -/
theorem json_round_trip :
    (∀ value : Value, value.Plain → (ofJson value.toJson == value) = true) ∧
    (∀ value : Value, value.toJson.WellFormed ∧ (ofJson value.toJson).toJson = value.toJson) ∧
    (∀ json : Json, json.WellFormed → (ofJson json).toJson = json.rounded) ∧
    (∀ n : Int, -2 ^ 63 ≤ n → n < 2 ^ 64 → (Binary.ofInt n : Binary64).IsNearest n) ∧
    (∀ items, (array items).toJson = .array (items.map toJson)) ∧
    (∀ entries, (object entries).toJson = .ofMembers (entries.map (Prod.map id toJson))) ∧
    (∀ x, (number x).toJson = if x.isFinite then .number x else .null) ∧
    (∀ pattern, (regex pattern).toJson = .string ("/" ++ pattern ++ "/")) ∧
    (∀ t, (date t).toJson =
      .string (t.secondText ++ "." ++ Timestamp.padded 3 (t.fraction / 1000000) ++ "Z")) ∧
    (∀ identity name, (function ⟨identity, some name⟩).toJson =
      .string ("[function " ++ name ++ "]")) ∧
    (∀ identity, (function ⟨identity, none⟩).toJson = .string "[function]") ∧
    ∀ s, (symbol s).toJson = .string ("Symbol(" ++ s.description.getD "" ++ ")") := by
  refine ⟨fun value => equal_ofJson_toJson, fun value => ?_, fun json => toJson_ofJson,
    fun n => Binary.ofInt_isNearest, fun items => ?_, fun entries => ?_, fun x => rfl,
    fun pattern => ?_, fun t => rfl, fun identity name => rfl, fun identity => rfl, fun s => rfl⟩
  · obtain ⟨formed, same⟩ := value.normal_toJson
    exact ⟨formed, (toJson_ofJson formed).trans same⟩
  · rw [toJson, toJsonItems_eq_map]
  · rw [toJson, toJsonEntries_eq_map]
  · rw [toJson, shown]

/-- An object comes back in order of its keys and yet equal; an integer past `2 ^ 53` comes
back as the even number beside it; and an array of what JSON does not know becomes one of `null` and
texts. -/
theorem json_round_trip_reordered :
    let value : Value := .object [("z", .boolean true), ("a", .array [.null, .string "x"])]
    let json : Json := .object [("n", .integer (2 ^ 53 + 1)), ("s", .string "x")]
    value.toJson = .object [("a", .array [.null, .string "x"]), ("z", .boolean true)] ∧
      (ofJson value.toJson == value) = true ∧
      (ofJson json).toJson = .object [("n", .number (.ofInt (2 ^ 53))), ("s", .string "x")] ∧
      (Binary.ofInt (2 ^ 53 + 1) : Binary64).IsNearest (2 ^ 53 + 1 : Int) ∧
      (array [.number .nan, .number (.infinity true), .regex "t", .date ⟨951827696, 7000001⟩,
          .function ⟨0, some "f"⟩, .function ⟨1, none⟩, .symbol ⟨0, some "Apple Inc."⟩]).toJson =
        .array [.null, .null, .string "/t/", .string "2000-02-29T12:34:56.007Z",
          .string "[function f]", .string "[function]", .string "Symbol(Apple Inc.)"] := by
  intro value json
  have plain : value.Plain := by
    refine .object (by decide) (List.forall_mem_cons.mpr ⟨.boolean true, ?_⟩)
    refine List.forall_mem_singleton.mpr (.array (List.forall_mem_cons.mpr ⟨.null, ?_⟩))
    exact List.forall_mem_singleton.mpr (.string "x")
  have formed : json.WellFormed := by
    refine .object (by decide) (List.forall_mem_cons.mpr ⟨.integer (by decide) (by decide), ?_⟩)
    exact List.forall_mem_singleton.mpr (.string "x")
  have even : (Binary.ofInt (2 ^ 53 + 1) : Binary64) = .ofInt (2 ^ 53) := by decide +kernel
  obtain ⟨back, -, rounds, nearest, items, -, numbers, patterns, dates, named, unnamed, symbols⟩ :=
    json_round_trip
  refine ⟨by rfl, back value plain, ?_, nearest (2 ^ 53 + 1) (by decide) (by decide), ?_⟩
  · rw [rounds json formed, ← even]
    simp only [json, Json.rounded, Json.roundedMembers]
  · have leapDay : (⟨951827696, 7000001⟩ : Timestamp).text = "2000-02-29T12:34:56.007Z" := by
      decide +kernel
    rw [items]
    simp only [List.map_cons, List.map_nil, numbers, patterns, dates, named, unnamed, symbols]
    rw [← leapDay]
    rfl

end Value

end RecordCheck
