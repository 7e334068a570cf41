import Mathlib.Data.List.Induction
import RecordCheck.Json

/-!
# Members in order of their keys

Putting entries in order of their keys gives an ascending list (`sorted_ofList`). It
changes nothing but the order if no key occurs twice (`ofList_perm`), and nothing at
all if the order is there already (`ofList_of_sorted`).
-/

namespace RecordCheck

namespace SortedEntries

universe u

variable {α : Type u} {entries : List (String × α)} {key : String} {value : α}

/-- The keys stand in ascending order, each key once. -/
def Sorted (entries : List (String × α)) : Prop := (entries.map Prod.fst).Pairwise (· < ·)

instance (entries : List (String × α)) : Decidable (Sorted entries) :=
  inferInstanceAs (Decidable (List.Pairwise _ _))

theorem Sorted.nodup (sorted : Sorted entries) : (entries.map Prod.fst).Nodup :=
  sorted.imp String.ne_of_lt

theorem sorted_cons {entry : String × α} : Sorted (entry :: entries) ↔
    (∀ other ∈ entries, entry.1 < other.1) ∧ Sorted entries := by
  simp [Sorted]

/-! ## One entry -/

theorem eq_or_mem_of_mem_insert {entry : String × α} (member : entry ∈ insert key value entries) :
    entry = (key, value) ∨ entry ∈ entries := by
  induction entries with
  | nil => simpa [insert] using member
  | cons first rest ih =>
    unfold insert at member
    split at member
    · simpa using member
    · split at member
      · rcases List.mem_cons.mp member with here | later
        · exact .inl here
        · exact .inr (List.mem_cons_of_mem _ later)
      · rcases List.mem_cons.mp member with here | later
        · exact .inr (here ▸ List.mem_cons_self)
        · exact (ih later).imp_right (List.mem_cons_of_mem _)

theorem sorted_insert (sorted : Sorted entries) : Sorted (insert key value entries) := by
  induction entries with
  | nil => exact List.pairwise_singleton _ _
  | cons first rest ih =>
    obtain ⟨after, ascending⟩ := sorted_cons.mp sorted
    unfold insert
    split_ifs with before same
    · refine sorted_cons.mpr ⟨fun other member => ?_, sorted⟩
      rcases List.mem_cons.mp member with rfl | later
      · exact before
      · exact String.lt_trans before (after other later)
    · exact sorted_cons.mpr ⟨fun other member => same ▸ after other member, ascending⟩
    · refine sorted_cons.mpr ⟨fun other member => ?_, ih ascending⟩
      rcases eq_or_mem_of_mem_insert member with rfl | later
      · grind
      · exact after other later

/-- An entry whose key comes after all others is put at the end. -/
theorem insert_of_forall_lt (last : ∀ entry ∈ entries, entry.1 < key) :
    insert key value entries = entries ++ [(key, value)] := by
  induction entries with
  | nil => rfl
  | cons first rest ih =>
    obtain ⟨before, last⟩ := List.forall_mem_cons.mp last
    have notAfter : ¬ key < first.1 := String.lt_asymm before
    have different : first.1 ≠ key := String.ne_of_lt before
    rw [insert, if_neg notAfter, if_neg different, ih last, List.cons_append]

/-- An entry of a new key is added somewhere. -/
theorem insert_perm (fresh : key ∉ entries.map Prod.fst) :
    (insert key value entries).Perm ((key, value) :: entries) := by
  induction entries with
  | nil => exact .refl _
  | cons first rest ih =>
    rw [List.map_cons, List.mem_cons, not_or] at fresh
    obtain ⟨different, fresh⟩ := fresh
    unfold insert
    split_ifs with before same
    · exact .refl _
    · exact absurd same.symm different
    · exact ((ih fresh).cons first).trans (.swap _ _ _)

/-! ## All entries -/

theorem ofList_concat (entries : List (String × α)) (entry : String × α) :
    ofList (entries ++ [entry]) = insert entry.1 entry.2 (ofList entries) := by
  rw [ofList, List.foldl_append, List.foldl_cons, List.foldl_nil, ← ofList]

theorem sorted_ofList (entries : List (String × α)) : Sorted (ofList entries) := by
  induction entries using List.reverseRecOn with
  | nil => exact .nil
  | append_singleton front last ih =>
    rw [ofList_concat]
    exact sorted_insert ih

theorem mem_of_mem_ofList {entry : String × α} (member : entry ∈ ofList entries) :
    entry ∈ entries := by
  induction entries using List.reverseRecOn with
  | nil => exact member
  | append_singleton front last ih =>
    rw [ofList_concat] at member
    rcases eq_or_mem_of_mem_insert member with rfl | earlier
    · exact List.mem_append_right _ List.mem_cons_self
    · exact List.mem_append_left _ (ih earlier)

/-- Entries that stand in order stay as they are. -/
theorem ofList_of_sorted (sorted : Sorted entries) : ofList entries = entries := by
  induction entries using List.reverseRecOn with
  | nil => rfl
  | append_singleton front last ih =>
    rw [Sorted, List.map_append, List.pairwise_append] at sorted
    obtain ⟨ascending, -, between⟩ := sorted
    rw [ofList_concat, ih ascending]
    exact insert_of_forall_lt fun entry member =>
      between entry.1 (List.mem_map_of_mem member) last.1 List.mem_cons_self

/-- Entries of different keys are put in order and kept. -/
theorem ofList_perm (unique : (entries.map Prod.fst).Nodup) : (ofList entries).Perm entries := by
  induction entries using List.reverseRecOn with
  | nil => exact .refl _
  | append_singleton front last ih =>
    rw [List.map_append, List.map_singleton, List.nodup_append] at unique
    obtain ⟨unique, -, apart⟩ := unique
    have kept := ih unique
    have fresh : last.1 ∉ (ofList front).map Prod.fst := fun member =>
      apart last.1 ((kept.map Prod.fst).mem_iff.mp member) last.1 List.mem_cons_self rfl
    rw [ofList_concat]
    exact (insert_perm fresh).trans ((kept.cons last).trans (List.perm_append_singleton _ _).symm)

end SortedEntries

end RecordCheck
