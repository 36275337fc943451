/-! Dictionaries keyed by text. The entries are kept in strictly increasing order of their keys, so
two dictionaries with the same entries are equal. -/
namespace Phrasebook

/-- Entries in strictly increasing order of code points, one for each key. -/
structure Dictionary (α : Type) where
  entries : List (String × α)
  sorted : entries.Pairwise (·.1 < ·.1)
deriving DecidableEq, Repr

namespace Dictionary
variable {α : Type} {key : String} {value : α} {d : Dictionary α}

instance : EmptyCollection (Dictionary α) := ⟨⟨[], .nil⟩⟩
instance : Inhabited (Dictionary α) := ⟨∅⟩

/-- Puts an entry at its place in a sorted list, replacing one with the same key. -/
def insertEntry (key : String) (value : α) : List (String × α) → List (String × α)
  | [] => [(key, value)]
  | (k, v) :: es =>
    if key < k then (key, value) :: (k, v) :: es
    else if key = k then (key, value) :: es
    else (k, v) :: insertEntry key value es

theorem mem_insertEntry {es : List (String × α)} {e : String × α}
    (h : e ∈ insertEntry key value es) : e = (key, value) ∨ e ∈ es := by
  induction es with
  | nil => simpa [insertEntry] using h
  | cons x es ih =>
    simp only [insertEntry] at h
    split at h
    · simpa using h
    · split at h
      · exact (List.mem_cons.1 h).imp_right (List.mem_cons_of_mem x)
      · obtain rfl | h := List.mem_cons.1 h
        · exact Or.inr List.mem_cons_self
        · exact (ih h).imp_right (List.mem_cons_of_mem x)

theorem sorted_insertEntry {es : List (String × α)} (h : es.Pairwise (·.1 < ·.1)) :
    (insertEntry key value es).Pairwise (·.1 < ·.1) := by
  induction es with
  | nil => simp [insertEntry]
  | cons x es ih =>
    obtain ⟨k, v⟩ := x
    have hx := List.pairwise_cons.1 h
    simp only [insertEntry]
    split
    · rename_i hlt
      refine List.pairwise_cons.2 ⟨fun e he => ?_, h⟩
      obtain rfl | he := List.mem_cons.1 he
      · exact hlt
      · exact String.lt_trans hlt (hx.1 e he)
    · split
      · rename_i heq
        subst heq
        exact List.pairwise_cons.2 ⟨hx.1, hx.2⟩
      · rename_i hlt hne
        refine List.pairwise_cons.2 ⟨fun e he => ?_, ih hx.2⟩
        obtain rfl | he := mem_insertEntry he
        · exact Std.lt_of_le_of_ne (String.not_lt.1 hlt) (Ne.symm hne)
        · exact hx.1 e he

/-- Adds an entry, or replaces the one with its key. -/
def insert (d : Dictionary α) (key : String) (value : α) : Dictionary α :=
  ⟨insertEntry key value d.entries, sorted_insertEntry d.sorted⟩

/-- The dictionary of a list of entries, where later ones replace earlier ones. -/
def ofList (es : List (String × α)) : Dictionary α :=
  es.foldl (fun d (e : String × α) => d.insert e.1 e.2) ∅

def get? (d : Dictionary α) (key : String) : Option α :=
  d.entries.lookup key

def contains (d : Dictionary α) (key : String) : Bool :=
  (d.get? key).isSome

def size (d : Dictionary α) : Nat :=
  d.entries.length

def isEmpty (d : Dictionary α) : Bool :=
  d.entries.isEmpty

theorem lookup_cons (k key : String) (v : α) (es : List (String × α)) :
    ((k, v) :: es).lookup key = if key = k then some v else es.lookup key := by
  change (match key == k with | true => some v | false => es.lookup key) = _
  by_cases h : key = k
  · simp [h]
  · simp [beq_eq_false_iff_ne.2 h, h]

theorem lookup_insertEntry (es : List (String × α)) (key' : String) :
    (insertEntry key value es).lookup key' = if key' = key then some value else es.lookup key' := by
  induction es with
  | nil => simp [insertEntry, lookup_cons]
  | cons x es ih =>
    obtain ⟨k, v⟩ := x
    simp only [insertEntry]
    split
    · simp [lookup_cons]
    · split
      · rename_i heq
        subst heq
        by_cases h : key' = key <;> simp [lookup_cons, h]
      · rename_i hne
        by_cases h : key' = k
        · subst h
          simp [Ne.symm hne]
        · simp [lookup_cons, h, ih]

theorem get?_insert (key' : String) :
    (d.insert key value).get? key' = if key' = key then some value else d.get? key' :=
  lookup_insertEntry d.entries key'

end Dictionary
end Phrasebook
