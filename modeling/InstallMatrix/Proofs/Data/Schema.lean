import InstallMatrix.Data.Schema
import InstallMatrix.Proofs.Data.Json
import InstallMatrix.Proofs.Results.Summary

/-!
# `InstallMatrix.Proofs.Data.Schema`: data that says what was written

`Carries write read a` says that the data written for `a` is read as `a` again and can be
written as JSON. It is proved of single values here, and passes to lists, tables and options.
A field of a written structure is found by its name wherever it stands (`get?_append`,
`get?_cons`, `get?_unlessNone`).
-/

set_option autoImplicit false

namespace InstallMatrix.Schema

variable {α : Type}

/-- The data written for a value is plain, and is read as that value. Reading is strict, as it is
for a file of results: nothing may be missing. -/
structure Carries (write : α → Data) (read : Reader α) (a : α) : Prop where
  plain : Json.Plain (write a)
  read : read .strict (write a) = some a

/-! ### Single values -/

/-- Reading a text from a text cannot fail, whether strictly or not. -/
@[simp]
theorem text_text (how : Strictness) (s : String) : text how (.text s) = some s := rfl

/-- Every text is carried, whatever its characters are. -/
theorem carries_text (s : String) : Carries .text text s := ⟨.text s, rfl⟩

/-- A natural number is carried if it has 64 bits at most. -/
theorem carries_nat64 {n : Nat} (fits : n < Nat.pow 2 64) : Carries .nat nat64 n where
  plain := by
    refine .int ?_
    have bound : n < 18446744073709551616 := fits
    simp only [Json.isWhole, Bool.and_eq_true, decide_eq_true_eq]
    omega
  read := by
    have read : (Data.nat n).nat? = some n := rfl
    simp only [nat64, natBelow, read, Option.bind_eq_bind, Option.bind_some, fits, if_true]

/-- A signed number is carried if it has 64 bits at most, its sign included. -/
theorem carries_int64 {n : Int} (fits : Data.fits64 n = true) : Carries .int int64 n where
  plain := by
    refine .int ?_
    simp only [Data.fits64, Json.isWhole, Bool.and_eq_true, decide_eq_true_eq] at fits ⊢
    omega
  read := by
    simp [int64, Data.int?, fits]

/-- A name is carried if it is read as the value it names. The axes and the verdicts are written
so. -/
theorem carries_word (name : α → String) (read : String → Option α) {a : α}
    (found : read (name a) = some a) : Carries (fun a => .text (name a)) (word read) a :=
  ⟨.text _, found⟩

/-! ### Lists, tables and options -/

section

variable {write : α → Data} {read : Reader α}

/-- If each item is read back, so is the list of them. Reading a list fails as soon as one item
cannot be read. -/
theorem mapM_map_eq_some {β : Type} {f : α → β} {g : β → Option α} {items : List α}
    (each : ∀ a ∈ items, g (f a) = some a) : (items.map f).mapM g = some items := by
  induction items with
  | nil => rfl
  | cons a items ih =>
    have others := ih fun b mem => each b (List.mem_cons_of_mem _ mem)
    simp [each a List.mem_cons_self, others]

/-- A list is carried if each of its items is. The items are read in their order, and reading goes
on only while each succeeds. -/
theorem carries_list {items : List α} (each : ∀ a ∈ items, Carries write read a) :
    Carries (fun items => .list (items.map write)) (list read) items where
  plain := by
    refine .list fun d mem => ?_
    obtain ⟨a, member, rfl⟩ := List.mem_map.mp mem
    exact (each a member).plain
  read := mapM_map_eq_some fun a mem => (each a mem).read

/-- A table is carried if each of its values is. Its keys are texts and are written as the names of
fields, and they are distinct, so no value takes the place of another one. -/
theorem carries_table {t : Table α} (each : ∀ row ∈ t.rows, Carries write read row.2) :
    Carries (ofTable write) (table read) t where
  plain := by
    refine .record fun f mem => ?_
    obtain ⟨row, member, rfl⟩ := List.mem_map.mp mem
    exact (each row member).plain
  read := by
    have rows := mapM_map_eq_some (f := fun r => (r.1, write r.2))
      (g := fun f => (read .strict f.2).map (Prod.mk f.1))
      fun row mem => by rw [(each row mem).read]; rfl
    simp only [table, ofTable, Data.fields?, Table.toList, Option.bind_eq_bind, Option.bind_some,
      rows]
    exact congrArg some t.ofList_rows

/-- What is not `null` is read as a value that is there. That is why a value whose own data were
`null` could not be told from one that is missing. -/
theorem nullable_eq_some {how : Strictness} {d : Data} {a : α} (visible : d ≠ .null)
    (found : read how d = some a) : nullable read how d = some (some a) := by
  cases d with
  | null => exact absurd rfl visible
  | _ => exact congrArg (Option.map some) found

/-- A value that may be left out is read, whether it is there or not. It must not be written as
`null`, which is read as missing. -/
theorem elim_map_nullable (value : Option α) (carries : ∀ a ∈ value, Carries write read a)
    (visible : ∀ a, write a ≠ .null) :
    (value.map write).elim (some none) (nullable read .strict) = some value := by
  cases value with
  | none => rfl
  | some a => exact nullable_eq_some (visible a) (carries a rfl).read

/-- A value that may be `null` is read, whether it is there or not. -/
theorem nullable_ofOption (value : Option α) (carries : ∀ a ∈ value, Carries write read a)
    (visible : ∀ a, write a ≠ .null) :
    nullable read .strict (ofOption write value) = some value := by
  cases value with
  | none => rfl
  | some a => exact nullable_eq_some (visible a) (carries a rfl).read

/-- A value that may be missing is written as plain data if it is, when it is there. -/
theorem plain_ofOption {value : Option α} (carries : ∀ a ∈ value, Carries write read a) :
    Json.Plain (ofOption write value) := by
  cases value with
  | none => exact .null
  | some a => exact (carries a rfl).plain

/-- A field that is left out where there is no value is plain if the value is. -/
theorem plain_unlessNone {value : Option α} (carries : ∀ a ∈ value, Carries write read a)
    (name : String) : ∀ f ∈ unlessNone name write value, Json.Plain f.2 := by
  cases value with
  | none => nofun
  | some a => simpa [unlessNone] using (carries a rfl).plain

end

/-! ### Fields -/

namespace Fields

variable {name : String} {fields : List (String × Data)}

/-- The fields of a written structure, as the reader has them: the last one first. Of fields with
one name the last one counts. -/
def written (fields : List (String × Data)) : Fields := ⟨.strict, fields.reverse⟩

/-- The fields of a record are taken as they are, whatever names are asked for. -/
@[simp]
theorem fieldsOf_record (names : List String) (fields : List (String × Data)) :
    fieldsOf names .strict (.record fields) = some (written fields) := rfl

/-- A field that is required has to be there, and is then read strictly. -/
@[simp]
theorem required_written (read : Reader α) :
    (written fields).required name read = ((written fields).get? name).bind (read .strict) := rfl

/-- A field that may be left out is read as missing if it is not there. -/
@[simp]
theorem optional_written (read : Reader α) :
    (written fields).optional name read
      = ((written fields).get? name).elim (some none) (nullable read .strict) := by
  unfold optional
  cases (written fields).get? name <;> rfl

/-- Nothing is found where there are no fields. -/
@[simp]
theorem get?_nil : (written []).get? name = none := rfl

/-- The last field of a name counts. So a structure with distinct names is read whatever the order
of its fields. -/
@[simp]
theorem get?_append (xs ys : List (String × Data)) :
    (written (xs ++ ys)).get? name = ((written ys).get? name).or ((written xs).get? name) := by
  simp only [get?, written, List.reverse_append, List.find?_append, Option.map_or]

/-- The first field counts only if no later one has its name. -/
@[simp]
theorem get?_cons (field : String) (d : Data) (fields : List (String × Data)) :
    (written ((field, d) :: fields)).get? name
      = ((written fields).get? name).or (if field = name then some d else none) := by
  rw [← List.singleton_append, get?_append]
  congr 1
  by_cases same : field = name <;> simp [get?, written, same]

/-- A field that may be left out is found under its own name just if there is a value. -/
@[simp]
theorem get?_unlessNone (field : String) (write : α → Data) (value : Option α) :
    (written (unlessNone field write value)).get? name
      = if field = name then value.map write else none := by
  cases value with
  | none => simp [unlessNone]
  | some a => simp [unlessNone]

end Fields

end InstallMatrix.Schema
