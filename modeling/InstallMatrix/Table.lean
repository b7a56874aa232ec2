/-!
# `InstallMatrix.Table`: text keys in order

A `Table` holds one value for each of finitely many text keys and lists its rows
in the order of the keys. Labels, environment variables and per-distribution
counts are tables, so their written form never depends on the order in which
rows were put in.

Definitions: `Table`, `empty`, `get?`, `insert`, `modify`, `ofList`, `toList`,
`keys`, `map`.

Main statement: a row that was put in is found again, and no other row moves
(`get?_insert`).
-/

set_option autoImplicit false

namespace InstallMatrix

/-- Rows with distinct text keys, in the order of their keys. Two tables with the same content are
therefore equal. -/
structure Table (α : Type) where
  rows : List (String × α)
  ordered : rows.Pairwise fun p q => p.1 < q.1

namespace Table

variable {α β : Type}

/-- The table without rows. -/
def empty : Table α := ⟨[], .nil⟩

/-- The rows in the order of their keys. -/
def toList (t : Table α) : List (String × α) := t.rows

/-- The keys in order. -/
def keys (t : Table α) : List String := t.rows.map Prod.fst

/-- The first row with the key, if there is one. In a table there is one at most. -/
def find (key : String) : List (String × α) → Option α
  | [] => none
  | (k, v) :: rows => if key = k then some v else find key rows

/-- The value under a key. -/
def get? (t : Table α) (key : String) : Option α := find key t.rows

/-- Rows with the value of `key` set: an existing row is overwritten, a new one
goes before the first greater key. -/
def place (key : String) (value : α) : List (String × α) → List (String × α)
  | [] => [(key, value)]
  | (k, v) :: rows =>
    if key = k then (key, value) :: rows
    else if key < k then (key, value) :: (k, v) :: rows
    else (k, v) :: place key value rows

/-- Placing a row brings no other key in. So what held of all keys before still holds. -/
theorem fst_of_mem_place {key : String} {value : α} {rows : List (String × α)}
    {p : String × α} (h : p ∈ place key value rows) : p.1 = key ∨ p ∈ rows := by
  induction rows with
  | nil => simp_all [place]
  | cons q rows ih =>
    obtain ⟨k, v⟩ := q
    simp only [place] at h
    split at h
    · rcases List.mem_cons.mp h with rfl | h
      · exact .inl rfl
      · exact .inr (List.mem_cons_of_mem _ h)
    · split at h
      · rcases List.mem_cons.mp h with rfl | h
        · exact .inl rfl
        · exact .inr h
      · rcases List.mem_cons.mp h with rfl | h
        · exact .inr List.mem_cons_self
        · exact (ih h).imp id (List.mem_cons_of_mem _)

/-- Placing a row keeps the rows in order. A row with the same key is replaced where it stands. -/
theorem pairwise_place {key : String} {value : α} {rows : List (String × α)}
    (h : rows.Pairwise fun p q => p.1 < q.1) :
    (place key value rows).Pairwise fun p q => p.1 < q.1 := by
  induction rows with
  | nil => exact .cons (by simp) .nil
  | cons q rows ih =>
    obtain ⟨k, v⟩ := q
    obtain ⟨first, rest⟩ := List.pairwise_cons.mp h
    simp only [place]
    split
    · next e => exact .cons (fun p hp => e ▸ first p hp) rest
    · next ne =>
      split
      · next lt =>
        refine .cons (fun p hp => ?_) h
        rcases List.mem_cons.mp hp with rfl | hp
        · exact lt
        · exact String.lt_trans lt (first p hp)
      · -- The row goes further back, behind a smaller key.
        next nlt =>
        refine .cons (fun p hp => ?_) (ih rest)
        rcases fst_of_mem_place hp with e | hp
        · exact e ▸ Std.lt_of_le_of_ne (String.not_lt.mp nlt) (Ne.symm ne)
        · exact first p hp

/-- The table with the value of one key set. -/
def insert (t : Table α) (key : String) (value : α) : Table α :=
  ⟨place key value t.rows, pairwise_place t.ordered⟩

/-- The table of the given rows, later rows overwriting earlier ones. The order of the keys is
made anew. -/
def ofList (rows : List (String × α)) : Table α :=
  rows.foldl (fun t r => t.insert r.1 r.2) empty

/-- Changes the value of one key, `init` being the value of an absent one. The other rows stay. -/
def modify (t : Table α) (key : String) (init : α) (f : α → α) : Table α :=
  t.insert key (f ((t.get? key).getD init))

/-- Every value replaced by its image. -/
def map (f : α → β) (t : Table α) : Table β :=
  ⟨t.rows.map fun r => (r.1, f r.2), List.pairwise_map.mpr t.ordered⟩

/-- Under its key the placed value is found, and under all others what was there before. With this
a table is known by what is found in it. -/
theorem find_place (key other : String) (value : α) (rows : List (String × α)) :
    find other (place key value rows) =
      if other = key then some value else find other rows := by
  induction rows with
  | nil => simp [place, find]
  | cons q rows ih =>
    obtain ⟨k, v⟩ := q
    simp only [place]
    split
    · next e => subst e; by_cases h : other = key <;> simp [find, h]
    · split
      · simp [find]
      · next ne _ =>
        simp only [find, ih]
        by_cases h : other = k
        · subst h; simp [Ne.symm ne]
        · simp [h]

/-- Inserting a value is placing its row. -/
@[simp]
theorem get?_insert (t : Table α) (key other : String) (value : α) :
    (t.insert key value).get? other = if other = key then some value else t.get? other :=
  find_place key other value t.rows

/-- Nothing is found in the empty table. -/
@[simp]
theorem get?_empty (key : String) : (empty : Table α).get? key = none := rfl

/-- A table is its rows; that they are in order is a proof, and two proofs of it are equal. -/
@[ext]
theorem eq_of_rows {s t : Table α} (h : s.rows = t.rows) : s = t := by
  cases s; cases t; simp_all

/-- Tables are compared by their rows. -/
instance [DecidableEq α] : DecidableEq (Table α) := fun s t =>
  if h : s.rows = t.rows then .isTrue (eq_of_rows h)
  else .isFalse fun e => h (congrArg rows e)

/-- The table without rows. -/
instance : Inhabited (Table α) := ⟨empty⟩

end Table

end InstallMatrix
