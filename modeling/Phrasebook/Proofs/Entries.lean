import Mathlib.Data.Set.Card
import Phrasebook.Dictionary

/-! Dictionaries by their entries: what is held for each key, and how many keys there are. -/
namespace Phrasebook.Dictionary
variable {α : Type} {d : Dictionary α} {es : List (String × α)} {key : String} {value : α}

theorem lookup_eq_some_iff_mem (h : es.Pairwise (·.1 < ·.1)) :
    es.lookup key = some value ↔ (key, value) ∈ es := by
  induction es with
  | nil => simp
  | cons e es ih =>
    obtain ⟨k, v⟩ := e
    obtain ⟨hk, hes⟩ := List.pairwise_cons.mp h
    rw [lookup_cons, List.mem_cons, Prod.mk.injEq]
    by_cases he : key = k
    · have hout : (key, value) ∉ es := by
        intro hm
        exact String.lt_irrefl k (he ▸ hk _ hm)
      simp [he ▸ hout, he, eq_comm]
    · simp [he, ih hes]

theorem get?_eq_some_iff : d.get? key = some value ↔ (key, value) ∈ d.entries :=
  lookup_eq_some_iff_mem d.sorted

theorem nodup_keys (d : Dictionary α) : (d.entries.map Prod.fst).Nodup := by
  rw [List.nodup_iff_pairwise_ne, List.pairwise_map]
  exact d.sorted.imp String.ne_of_lt

theorem isSome_get?_iff : (d.get? key).isSome ↔ key ∈ d.entries.map Prod.fst := by
  simp [Option.isSome_iff_exists, get?_eq_some_iff]

theorem get?_foldl_insert (es : List (String × α)) (d : Dictionary α) (key : String) :
    (es.foldl (fun d (e : String × α) => d.insert e.1 e.2) d).get? key =
      (es.reverse.lookup key).or (d.get? key) := by
  induction es generalizing d with
  | nil => rfl
  | cons e es ih =>
    rw [List.foldl_cons, ih, get?_insert, List.reverse_cons, List.lookup_append, lookup_cons]
    by_cases he : key = e.1 <;> simp [he]

/-- The last entry of a key counts. -/
theorem get?_ofList (es : List (String × α)) (key : String) :
    (ofList es).get? key = es.reverse.lookup key := by
  rw [ofList, get?_foldl_insert]
  exact Option.or_none

theorem eq_of_entries_eq {d' : Dictionary α} (h : d.entries = d'.entries) : d = d' := by
  cases d
  cases d'
  cases h
  rfl

/-- An entry behind smaller keys is put at the end. -/
theorem insertEntry_of_forall_lt (h : ∀ e ∈ es, e.1 < key) :
    insertEntry key value es = es ++ [(key, value)] := by
  induction es with
  | nil => rfl
  | cons e es ih =>
    obtain ⟨he, hes⟩ := List.forall_mem_cons.mp h
    rw [insertEntry, if_neg (String.lt_asymm he), if_neg (String.ne_of_lt he).symm, ih hes,
      List.cons_append]

/-- Entries in order come one after another behind those that are there. -/
theorem entries_foldl_insert (h : (d.entries ++ es).Pairwise (·.1 < ·.1)) :
    (es.foldl (fun d (e : String × α) => d.insert e.1 e.2) d).entries = d.entries ++ es := by
  induction es generalizing d with
  | nil => exact (List.append_nil _).symm
  | cons e es ih =>
    have hinsert : (d.insert e.1 e.2).entries = d.entries ++ [e] := by
      apply insertEntry_of_forall_lt
      intro x hx
      exact (List.pairwise_append.mp h).2.2 x hx e List.mem_cons_self
    have happend : (d.insert e.1 e.2).entries ++ es = d.entries ++ e :: es := by
      rw [hinsert, List.append_assoc, List.singleton_append]
    rw [List.foldl_cons, ih (by rwa [happend]), happend]

/-- A dictionary is that of its own entries. -/
theorem ofList_entries (d : Dictionary α) : ofList d.entries = d := by
  apply eq_of_entries_eq
  exact entries_foldl_insert (d := ∅) d.sorted

/-- Among entries that have their places in order, the one of a key with the last place counts. -/
theorem lookup_reverse_eq_some_iff {β : Type} {xs : List β} {entry : β → String × α}
    {place : β → ℕ} (h : xs.Pairwise (place · < place ·)) :
    (xs.map entry).reverse.lookup key = some value ↔
      ∃ x ∈ xs, entry x = (key, value) ∧ ∀ y ∈ xs, (entry y).1 = key → place y ≤ place x := by
  induction xs with
  | nil => simp
  | cons x xs ih =>
    obtain ⟨hx, htail⟩ := List.pairwise_cons.mp h
    have hnone : (xs.map entry).reverse.lookup key = none ↔ ∀ y ∈ xs, key ≠ (entry y).1 := by
      simp [List.lookup_eq_none_iff]
    rw [List.map_cons, List.reverse_cons, List.lookup_append, Option.or_eq_some_iff, ih htail,
      hnone, lookup_cons]
    constructor
    · rintro (⟨y, hy, hentry, hlast⟩ | ⟨hout, hentry⟩)
      · refine ⟨y, List.mem_cons_of_mem x hy, hentry, List.forall_mem_cons.mpr ⟨?_, hlast⟩⟩
        intro _
        exact (hx y hy).le
      · have hkey : key = (entry x).1 ∧ (entry x).2 = value := by simpa using hentry
        refine ⟨x, List.mem_cons_self, Prod.ext hkey.1.symm hkey.2, ?_⟩
        refine List.forall_mem_cons.mpr ⟨fun _ => le_rfl, ?_⟩
        intro y hy he
        exact absurd he.symm (hout y hy)
    · rintro ⟨y, hy, hentry, hlast⟩
      obtain ⟨-, htaillast⟩ := List.forall_mem_cons.mp hlast
      rcases List.mem_cons.mp hy with rfl | hy
      · refine Or.inr ⟨fun z hz he => ?_, by rw [hentry, if_pos rfl]⟩
        exact absurd (hx z hz) (not_lt.mpr (htaillast z hz he.symm))
      · exact Or.inl ⟨y, hy, hentry, htaillast⟩

/-- The size is the number of keys. -/
theorem encard_keys (d : Dictionary α) : {key | (d.get? key).isSome}.encard = d.size := by
  have hkeys : {key | (d.get? key).isSome} = ((d.entries.map Prod.fst).toFinset : Set String) := by
    ext key
    simp [isSome_get?_iff]
  rw [hkeys, Set.encard_coe_eq_coe_finsetCard, List.toFinset_card_of_nodup d.nodup_keys,
    List.length_map, size]

end Phrasebook.Dictionary
