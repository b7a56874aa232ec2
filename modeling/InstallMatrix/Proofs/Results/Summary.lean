import InstallMatrix.Results.Summary
import Mathlib.Data.List.Nodup
import Mathlib.Data.List.Perm.Basic

/-!
# `InstallMatrix.Proofs.Results.Summary`: what does not depend on the order of recording

Results are recorded in the order in which cells finish. The theorems:

* `summarize_eq_of_perm`: the counts are the same in every order.
* `sorted_eq_of_perm`: so are the sorted results, if no two are of the same cell.

The first rests on `Table.modify_comm`, rows being changed in either order, and on
`Table.ext_get?`, tables being known by what is found in them. The second rests on
`Cell.le` being a linear order.
-/

set_option autoImplicit false

namespace InstallMatrix

/-! ### Tables -/

namespace Table

variable {α : Type}

/-- In a table, a row is found just if it is there. The order of the keys makes sure that no other
row stands in its way. -/
theorem find_eq_some_iff {rows : List (String × α)} {key : String} {value : α}
    (ordered : rows.Pairwise fun p q => p.1 < q.1) :
    find key rows = some value ↔ (key, value) ∈ rows := by
  induction rows with
  | nil => simp [find]
  | cons row rows ih =>
    obtain ⟨k, v⟩ := row
    obtain ⟨first, rest⟩ := List.pairwise_cons.mp ordered
    simp only [find]
    split
    · next same =>
      subst same
      -- No later row has the key of the first one.
      have later : (key, value) ∉ rows := fun mem => String.lt_irrefl key (first _ mem)
      simp [later, eq_comm]
    · next other =>
      rw [ih rest]
      simp [other]

/-- No row of a table is there twice. -/
theorem nodup_rows (t : Table α) : t.rows.Nodup :=
  t.ordered.imp fun {p q} (lt : p.1 < q.1) (same : p = q) => String.lt_irrefl q.1 (same ▸ lt)

/-- Two tables in which the same is found under every key are the same. The rows are in order, so
there is one way to write a table down. -/
theorem ext_get? {s t : Table α} (same : ∀ key, s.get? key = t.get? key) : s = t := by
  apply eq_of_rows
  have perm : s.rows.Perm t.rows := by
    refine (List.perm_ext_iff_of_nodup s.nodup_rows t.nodup_rows).mpr ?_
    rintro ⟨key, value⟩
    rw [← find_eq_some_iff s.ordered, ← find_eq_some_iff t.ordered]
    exact Eq.congr_left (same key)
  refine perm.eq_of_pairwise (fun p q _ _ lt gt => ?_) s.ordered t.ordered
  exact absurd (String.lt_trans lt gt) (String.lt_irrefl _)

/-- Rows with distinct keys put into a table are found there, before what was there already. This
is how a table made from rows is known. -/
theorem get?_foldl_insert {rows : List (String × α)}
    (ordered : rows.Pairwise fun p q => p.1 < q.1) (t : Table α) (key : String) :
    (rows.foldl (fun t r => t.insert r.1 r.2) t).get? key = (find key rows).or (t.get? key) := by
  induction rows generalizing t with
  | nil => rfl
  | cons row rows ih =>
    obtain ⟨k, v⟩ := row
    obtain ⟨first, rest⟩ := List.pairwise_cons.mp ordered
    rw [List.foldl_cons, ih rest, get?_insert, find]
    by_cases same : key = k
    · subst same
      -- No later row overwrites the first one.
      have later : find key rows = none := by
        cases found : find key rows with
        | none => rfl
        | some value =>
          have mem := (find_eq_some_iff rest).mp found
          exact absurd (first _ mem) (String.lt_irrefl key)
      simp [later]
    · simp [same]

/-- A table is made again from its rows. Data that was written row by row comes back as the same
table. -/
theorem ofList_rows (t : Table α) : ofList t.rows = t := by
  apply ext_get?
  intro key
  rw [ofList, get?_foldl_insert t.ordered, get?_empty, Option.or_none, get?]

/-- Placing a row under a new key adds it to the others, wherever its place is. -/
theorem place_perm {rows : List (String × α)} {key : String} (value : α)
    (fresh : key ∉ rows.map Prod.fst) : (place key value rows).Perm ((key, value) :: rows) := by
  induction rows with
  | nil => exact .refl _
  | cons row rows ih =>
    obtain ⟨k, v⟩ := row
    obtain ⟨ne, later⟩ := List.ne_and_not_mem_of_not_mem_cons fresh
    rw [place, if_neg ne]
    split
    · exact .refl _
    · exact ((ih later).cons (k, v)).trans (.swap _ _ _)

/-- Rows with keys of their own are all kept. -/
theorem foldl_insert_perm {rows : List (String × α)} {t : Table α}
    (distinct : ((t.rows ++ rows).map Prod.fst).Nodup) :
    (rows.foldl (fun t r => t.insert r.1 r.2) t).rows.Perm (t.rows ++ rows) := by
  induction rows generalizing t with
  | nil => simp
  | cons row rows ih =>
    have first := (List.perm_middle.map Prod.fst).nodup_iff.mp distinct
    have fresh : row.1 ∉ t.rows.map Prod.fst := fun mem =>
      (List.nodup_cons.mp first).1 (List.map_append ▸ List.mem_append_left _ mem)
    have put : (t.insert row.1 row.2).rows.Perm (row :: t.rows) := place_perm row.2 fresh
    have onward := (put.append_right rows).trans List.perm_middle.symm
    rw [List.foldl_cons]
    refine (ih ?_).trans onward
    exact (onward.map Prod.fst).nodup_iff.mpr distinct

/-- A table of rows with distinct keys has these rows, in the order of the keys. None is lost,
since none overwrites another. -/
theorem ofList_perm {rows : List (String × α)} (distinct : (rows.map Prod.fst).Nodup) :
    (ofList rows).rows.Perm rows :=
  foldl_insert_perm distinct

/-- Changing a row changes what is found under its key, and nothing else. A missing row is changed
from the initial value. -/
theorem get?_modify (t : Table α) (key other : String) (init : α) (f : α → α) :
    (t.modify key init f).get? other
      = if other = key then some (f ((t.get? key).getD init)) else t.get? other :=
  get?_insert t key other _

/-- Two changes that commute on a value may be made in either order, also to two rows. A row that
is missing begins from the same value both times. -/
theorem modify_comm (t : Table α) (key other : String) (init : α) {f g : α → α}
    (comm : ∀ a, f (g a) = g (f a)) :
    (t.modify key init f).modify other init g = (t.modify other init g).modify key init f := by
  apply ext_get?
  intro k
  simp only [get?_modify]
  by_cases same : key = other
  · subst same
    by_cases found : k = key <;> simp [found, comm]
  · -- Neither change sees the row of the other one.
    by_cases first : k = key
    · subst first
      simp [same]
    · by_cases second : k = other <;> simp [first, second, Ne.symm same]

end Table

/-! ### The order of cells -/

/-- The place of an axis value tells which one it is. -/
theorem Architecture.rank_inj {a b : Architecture} : a.rank = b.rank ↔ a = b := by
  cases a <;> cases b <;> decide

/-- C libraries are told apart by their ranks. -/
theorem Libc.rank_inj {a b : Libc} : a.rank = b.rank ↔ a = b := by
  cases a <;> cases b <;> decide

/-- Identities are told apart by their ranks. -/
theorem Identity.rank_inj {a b : Identity} : a.rank = b.rank ↔ a = b := by
  cases a <;> cases b <;> decide

namespace Cell

/-- The order of cells is put together from orders of their parts, and so it is transitive. -/
instance : Std.TransCmp order := by
  unfold order
  infer_instance

/-- Cells that come one after the other are in order. Sorting needs this and that any two cells
can be compared. -/
theorem le_trans {a b c : Cell} (ab : a.le b) (bc : b.le c) : a.le c :=
  Std.TransCmp.isLE_trans ab bc

/-- Seen from the other side, the order is the other way round. -/
theorem order_swap (a b : Cell) : order b a = (order a b).swap := Std.OrientedCmp.eq_swap

/-- Of two cells one comes no later than the other. -/
theorem le_total (a b : Cell) : a.le b || b.le a := by
  unfold le
  rw [order_swap a b]
  cases order a b <;> rfl

/-- Two cells at the same place are one, as a place tells the release and all the axes. Sorted
results with distinct cells have one order only. -/
theorem eq_of_order_eq {a b : Cell} (same : order a b = .eq) : a = b := by
  simp only [order, compareLex_eq_eq, compareOn, Std.LawfulEqCmp.compare_eq_iff_eq,
    Architecture.rank_inj, Libc.rank_inj, Identity.rank_inj] at same
  obtain ⟨distribution, version, architecture, libc, identity⟩ := same
  cases a
  cases b
  simp_all

/-- Two cells of which neither comes later are one. -/
theorem le_antisymm {a b : Cell} (ab : a.le b) (ba : b.le a) : a = b := by
  apply eq_of_order_eq
  unfold le at ab ba
  rw [order_swap a b] at ba
  cases place : order a b with
  | eq => rfl
  | lt => rw [place] at ba; cases ba
  | gt => rw [place] at ab; cases ab

end Cell

/-! ### Result sets -/

/-- Two verdicts may be counted in either order. -/
theorem StatusCounts.add_comm (c : StatusCounts) (s t : CellStatus) :
    (c.add s).add t = (c.add t).add s := by
  simp only [add]
  congr 1 <;> split <;> split <;> rfl

/-- Two results may be counted in either order. -/
instance : RightCommutative Summary.add where
  right_comm s q r := by
    simp only [Summary.add, StatusCounts.add_comm s.counts q.status r.status]
    congr 1
    exact s.perDistribution.modify_comm _ _ _ fun c => c.add_comm r.status q.status

namespace ResultSet

variable {results others : List CellResult}

/-- Results are counted alike in every order. Two neighbours may change places, since counting
them commutes. -/
theorem summarize_eq_of_perm (perm : results.Perm others) :
    summarize ⟨results⟩ = summarize ⟨others⟩ :=
  perm.foldl_eq _

/-- Sorted results are in the order of their cells. Results of one cell are beside each other. -/
theorem pairwise_sorted (s : ResultSet) :
    s.sorted.Pairwise fun a b => a.cell.le b.cell = true := by
  unfold sorted
  apply List.pairwise_mergeSort
  · exact fun a b c ab bc => Cell.le_trans ab bc
  · exact fun a b => Cell.le_total a.cell b.cell

/-- Results of distinct cells are sorted alike in every order. With one result for each cell there
is one way to sort them. -/
theorem sorted_eq_of_perm (perm : results.Perm others)
    (distinct : (results.map CellResult.cell).Nodup) : sorted ⟨results⟩ = sorted ⟨others⟩ := by
  have places (l : List CellResult) : (sorted ⟨l⟩).Perm l := List.mergeSort_perm l _
  have whole : (sorted ⟨results⟩).Perm (sorted ⟨others⟩) :=
    (places results).trans (perm.trans (places others).symm)
  refine List.Perm.eq_of_pairwise (fun a b left right ab ba => ?_) (pairwise_sorted _)
    (pairwise_sorted _) whole
  -- Two results of one cell are one result.
  have memA : a ∈ results := (places results).mem_iff.mp left
  have memB : b ∈ results := perm.mem_iff.mpr ((places others).mem_iff.mp right)
  exact List.inj_on_of_nodup_map distinct memA memB (Cell.le_antisymm ab ba)

end ResultSet

end InstallMatrix
