import Flowline.Proofs.Act.Done
import Flowline.Proofs.Fields
import Flowline.Sql.Connection

/-!
# Tables

What the rows of a result set become. A row is a record of its cells by the names of the columns,
and each cell is a simple value. A record has one entry for each name, so that of the columns with
one name only the last counts; if the names differ, the cells can be read off the record again.
-/

namespace Flowline

def Value.isSimple : Value → Bool
  | .null | .bool _ | .int _ | .float _ | .text _ => true
  | .bytes _ | .complex .. | .ellipsis | .list _ | .record _ => false

def Value.IsFlat : Value → Prop
  | .record fields => ∀ entry ∈ fields, entry.2.isSimple = true
  | _ => False

def Value.cells? (columns : List String) : Value → Option (List Value)
  | .record fields => columns.mapM (Fields.find? fields)
  | _ => none

namespace Sql

variable {columns : List String} {row : Row} {rows : List Row} {table : List Value}
  {named fields : Fields Value}

-- ---------------------------------------------------------------------------
-- Cells
-- ---------------------------------------------------------------------------

namespace Cell

def image : Cell → Value
  | .object text => .text text
  | .value v => if v.isSimple then v else .text v.display

/-- Nothing in the cell is too long for the text that is kept of it. -/
def isTold : Cell → Bool
  | .object _ => true
  | .value v => v.isSimple || v.fits

theorem simplify_eq (cell : Cell) :
    cell.simplify = if cell.isTold then .ok cell.image else .error .integerTooLong := by
  cases cell with
  | object => rfl
  | value v => cases v <;> rfl

theorem isSimple_image (cell : Cell) : cell.image.isSimple = true := by
  cases cell with
  | object => rfl
  | value v => cases v <;> rfl

end Cell

-- ---------------------------------------------------------------------------
-- Rows
-- ---------------------------------------------------------------------------

def nameRow (columns : List String) (row : Row) : Fields Value :=
  Fields.merge [] (columns.zip (row.map Cell.image))

def tabulate (columns : List String) (rows : List Row) : List Value :=
  rows.map fun row => .record (nameRow columns row)

structure IsNameable (columns : List String) (row : Row) : Prop where
  covers : columns.length ≤ row.length
  told : ∀ cell ∈ row.take columns.length, cell.isTold = true

theorem isNameable_nil (row : Row) : IsNameable [] row := ⟨Nat.zero_le _, nofun⟩

theorem not_isNameable_nil (column : String) : ¬ IsNameable (column :: columns) [] :=
  fun nameable => nomatch nameable.covers

theorem isNameable_cons {column : String} {cell : Cell} :
    IsNameable (column :: columns) (cell :: row) ↔
      cell.isTold = true ∧ IsNameable columns row := by
  constructor
  · rintro ⟨covers, told⟩
    simp only [List.length_cons, List.take_succ_cons, List.forall_mem_cons] at covers told
    exact ⟨told.1, Nat.le_of_succ_le_succ covers, told.2⟩
  · rintro ⟨first, covers, told⟩
    refine ⟨Nat.succ_le_succ covers, ?_⟩
    simpa using ⟨first, told⟩

theorem nameCells_eq_ok_iff : nameCells named columns row = .ok fields ↔
    IsNameable columns row ∧ fields = Fields.merge named (columns.zip (row.map Cell.image)) := by
  induction columns generalizing named row with
  | nil => simp [nameCells, isNameable_nil, Fields.merge, eq_comm]
  | cons column columns ih =>
    cases row with
    | nil => simp [nameCells, not_isNameable_nil]
    | cons cell row =>
      rw [nameCells, Except.bind_eq_ok_iff, cell.simplify_eq, isNameable_cons]
      cases cell.isTold <;> simp [ih, Fields.merge]

theorem mapM_eq_ok_iff {f : α → Except ε β} {p : α → Prop} {g : α → β} {as : List α} {bs : List β}
    (each : ∀ a b, f a = .ok b ↔ p a ∧ b = g a) :
    as.mapM f = .ok bs ↔ (∀ a ∈ as, p a) ∧ bs = as.map g := by
  induction as generalizing bs with
  | nil => simp [pure, Except.pure, eq_comm]
  | cons a as ih =>
    simp only [List.mapM_cons, Except.bind_eq_ok_iff, each, ih, pure, Except.pure, Except.ok.injEq,
      List.forall_mem_cons, List.map_cons]
    constructor
    · rintro ⟨_, ⟨first, rfl⟩, _, ⟨others, rfl⟩, rfl⟩
      exact ⟨⟨first, others⟩, rfl⟩
    · rintro ⟨⟨first, others⟩, rfl⟩
      exact ⟨_, ⟨first, rfl⟩, _, ⟨others, rfl⟩, rfl⟩

theorem nameRows_eq_ok_iff : nameRows columns rows = .ok table ↔
    (∀ row ∈ rows, IsNameable columns row) ∧ table = tabulate columns rows := by
  refine mapM_eq_ok_iff fun row record => ?_
  change Value.record <$> nameCells [] columns row = .ok record ↔ _
  rw [Except.map_eq_ok_iff]
  simp only [nameCells_eq_ok_iff]
  constructor
  · rintro ⟨_, ⟨nameable, rfl⟩, rfl⟩
    exact ⟨nameable, rfl⟩
  · rintro ⟨nameable, rfl⟩
    exact ⟨_, ⟨nameable, rfl⟩, rfl⟩

theorem isFlat_of_mem_tabulate {record : Value} (listed : record ∈ tabulate columns rows) :
    record.IsFlat := by
  obtain ⟨row, -, rfl⟩ := List.mem_map.mp listed
  intro entry mem
  obtain ⟨name, v⟩ := entry
  have listed := (Fields.mem_of_mem_merge mem).resolve_left List.not_mem_nil
  obtain ⟨cell, -, rfl⟩ := List.mem_map.mp (List.of_mem_zip listed).2
  exact cell.isSimple_image

-- ---------------------------------------------------------------------------
-- Columns
-- ---------------------------------------------------------------------------

theorem zip_eq_append {as : List α} {bs : List β} {i : Nat} (inside : i < as.length)
    (there : i < bs.length) :
    as.zip bs = (as.take i).zip (bs.take i) ++
      (as[i], bs[i]) :: (as.drop (i + 1)).zip (bs.drop (i + 1)) := by
  have front : (as.take i).length = (bs.take i).length := by simp; omega
  rw [← List.zip_cons_cons, ← List.zip_append front, List.getElem_cons_drop, List.getElem_cons_drop,
    List.take_append_drop, List.take_append_drop]

theorem keys_zip (long : columns.length ≤ row.length) :
    Fields.keys (columns.zip (row.map Cell.image)) = columns :=
  List.map_fst_zip (by rwa [List.length_map])

theorem keys_nameRow (long : columns.length ≤ row.length) :
    (nameRow columns row).keys = columns.eraseDups := by
  rw [nameRow, Fields.keys_merge_nil, keys_zip long]

section
variable {i : Nat} (inside : i < columns.length) (long : columns.length ≤ row.length)
include inside long

theorem nameRow_eq : nameRow columns row = Fields.merge
    (Fields.put (nameRow (columns.take i) (row.take i)) columns[i] row[i].image)
    ((columns.drop (i + 1)).zip ((row.drop (i + 1)).map Cell.image)) := by
  have there : i < (row.map Cell.image).length := by
    rw [List.length_map]
    omega
  rw [nameRow, zip_eq_append inside there]
  simp [Fields.merge, nameRow]

theorem keys_behind : Fields.keys ((columns.drop (i + 1)).zip ((row.drop (i + 1)).map Cell.image)) =
    columns.drop (i + 1) :=
  keys_zip (by simp only [List.length_drop]; omega)

/-- Under a name is the cell of the last column with this name. -/
theorem find?_nameRow (last : columns[i] ∉ columns.drop (i + 1)) :
    (nameRow columns row).find? columns[i] = some row[i].image := by
  rw [nameRow_eq inside long, Fields.find?_merge_of_notMem (by rwa [keys_behind inside long]),
    Fields.find?_put_self]

theorem nameRow_set (again : columns[i] ∈ columns.drop (i + 1)) (cell : Cell) :
    nameRow columns (row.set i cell) = nameRow columns row := by
  have known : columns[i] ∈
      Fields.keys ((columns.drop (i + 1)).zip ((row.drop (i + 1)).map Cell.image)) := by
    rwa [keys_behind inside long]
  rw [nameRow_eq inside (by rwa [List.length_set]), nameRow_eq inside long,
    List.take_set_of_le (Nat.le_refl i), List.drop_set_of_lt (Nat.lt_succ_self i)]
  exact Fields.merge_put_of_mem known _ _

end

theorem nameRow_of_nodup (distinct : columns.Nodup) (long : columns.length ≤ row.length) :
    nameRow columns row = columns.zip (row.map Cell.image) :=
  Fields.merge_nil_of_nodup (by rwa [keys_zip long])

theorem mapM_eq_some {f : α → Option β} {g : α → β} {as : List α}
    (each : ∀ a ∈ as, f a = some (g a)) : as.mapM f = some (as.map g) := by
  induction as with
  | nil => rfl
  | cons a as ih =>
    obtain ⟨first, others⟩ := List.forall_mem_cons.mp each
    rw [List.mapM_cons, first, ih others]
    rfl

/-- One entry for each name of a column, and under it the cell of the last column with this name; if
the names differ, these are the cells in their order. -/
structure IsNamed (columns : List String) (row : Row) (fields : Fields Value) : Prop where
  keys : Fields.keys fields = columns.eraseDups
  last : ∀ i (_ : i < columns.length) (_ : i < row.length), columns[i] ∉ columns.drop (i + 1) →
    Fields.find? fields columns[i] = some row[i].image
  whole : columns.Nodup → fields = columns.zip (row.map Cell.image)

theorem isNamed_nameRow (long : columns.length ≤ row.length) :
    IsNamed columns row (nameRow columns row) where
  keys := keys_nameRow long
  last _ inside _ := find?_nameRow inside long
  whole distinct := nameRow_of_nodup distinct long

theorem cells?_nameRow (distinct : columns.Nodup) (even : row.length = columns.length) :
    (Value.record (nameRow columns row)).cells? columns = some (row.map Cell.image) := by
  have long : columns.length ≤ row.length := Nat.le_of_eq even.symm
  rw [nameRow_of_nodup distinct long, Value.cells?]
  generalize named : columns.zip (row.map Cell.image) = entries
  have keys : entries.map Prod.fst = columns := by rw [← named]; exact keys_zip long
  have values : entries.map Prod.snd = row.map Cell.image := by
    rw [← named, List.map_snd_zip (by simp [even])]
  rw [← keys] at distinct ⊢
  rw [List.mapM_map, ← values]
  exact mapM_eq_some fun entry mem => Fields.find?_of_mem distinct mem

theorem mapM_cells?_tabulate (distinct : columns.Nodup)
    (even : ∀ row ∈ rows, row.length = columns.length) :
    (tabulate columns rows).mapM (Value.cells? columns) = some (rows.map (·.map Cell.image)) := by
  rw [tabulate, List.mapM_map]
  exact mapM_eq_some fun row listed => cells?_nameRow distinct (even row listed)

/-- To know which row a record comes from, the names of the columns have to differ. -/
theorem nameRow_injective_iff :
    (∀ row row' : Row, row.length = columns.length → row'.length = columns.length →
      nameRow columns row = nameRow columns row' → row.map Cell.image = row'.map Cell.image) ↔
    columns.Nodup := by
  constructor
  · intro tells
    refine List.pairwise_iff_getElem.mpr fun i j inside _ less same => ?_
    have again : columns[i] ∈ columns.drop (i + 1) := by
      rw [same, List.mem_drop_iff_getElem]
      exact ⟨j - (i + 1), by omega, by simp only [Nat.add_sub_cancel' less]⟩
    -- two rows that differ in the earlier one of two columns with one name
    have blank : (List.replicate columns.length (Cell.value .null)).length = columns.length :=
      List.length_replicate
    have cells := tells _ _ (List.length_set.trans blank) blank
      (nameRow_set inside (Nat.le_of_eq blank.symm) again (.value (.bool true)))
    have cell := congrArg (·[i]?) cells
    simp [inside, Cell.image, Value.isSimple] at cell
  · intro distinct row row' even even' same
    have cells := cells?_nameRow distinct even
    rw [same, cells?_nameRow distinct even'] at cells
    exact (Option.some.inj cells).symm

end Sql

end Flowline
