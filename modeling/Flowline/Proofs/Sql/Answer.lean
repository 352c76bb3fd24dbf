import Flowline.Proofs.Act.Done
import Flowline.Proofs.Sql.Table
import Flowline.Proofs.Sql.Transaction
import Mathlib.Data.List.Forall2

/-!
# Answers to requests

A session answers in one of three forms. A statement that produces rows is answered by a table of
the first rows of its cursor, any other by the count of changed rows, and whatever fails by an
error. The values of a table are simple, whatever the rows hold, and they are all there if the names
of the columns differ.
-/

namespace Flowline.Sql

-- ---------------------------------------------------------------------------
-- Statements that are done
-- ---------------------------------------------------------------------------

/-- The result of a statement: a table of what is fetched from its cursor, or the count of what it
has changed. -/
inductive Yields (connection : Connection σ) (sql : String) (fetch : Fetch) (world : σ) :
    Result → Prop
  | rows (query : isQuery sql = true)
      (executed : connection.execute sql world = (.done cursor, between))
      (fetched : connection.fetch cursor fetch between = (.done rows, after))
      (named : nameRows (cursor.columns.getD []) rows = .ok table) :
      Yields connection sql fetch world (.rows table)
  | changed (other : isQuery sql = false)
      (executed : connection.execute sql world = (.done cursor, between)) :
      Yields connection sql fetch world (.changed cursor.changed)

section
variable {connection : Connection σ} {sql : String} {fetch : Fetch} {result : Result}
  {world after : σ}

theorem yields_of_runStatement
    (did : runStatement connection sql fetch world = (.done result, after)) :
    Yields connection sql fetch world result := by
  obtain ⟨cursor, between, executed, did⟩ := Act.bind_eq_done_iff.mp did
  cases query : isQuery sql with
  | false =>
    rw [query] at did
    obtain ⟨rfl, -⟩ := Act.pure_eq_done_iff.mp did
    exact .changed query executed
  | true =>
    rw [query] at did
    obtain ⟨rows, fetching, fetched, did⟩ := Act.bind_eq_done_iff.mp did
    obtain ⟨table, _, named, did⟩ := Act.bind_eq_done_iff.mp did
    obtain ⟨rfl, -⟩ := Act.pure_eq_done_iff.mp did
    exact .rows query executed fetched (Act.ofExcept_eq_done_iff.mp named).1

theorem runStatement_of_done {cursor : Cursor} {between : σ} {rows : List Row}
    {table : List Value} (query : isQuery sql = true)
    (executed : connection.execute sql world = (.done cursor, between))
    (fetched : connection.fetch cursor fetch between = (.done rows, after))
    (named : nameRows (cursor.columns.getD []) rows = .ok table) :
    runStatement connection sql fetch world = (.done (.rows table), after) := by
  refine Act.bind_eq_done_iff.mpr ⟨cursor, between, executed, ?_⟩
  rw [if_pos query]
  refine Act.bind_eq_done_iff.mpr ⟨rows, after, fetched, ?_⟩
  exact Act.bind_eq_done_iff.mpr ⟨table, after, Act.ofExcept_eq_done_iff.mpr ⟨named, rfl⟩, rfl⟩

theorem done_of_within {limit : Seconds} {act : Act σ α}
    (did : within limit act world = (.done a, after)) : act world = (.done a, after) := by
  unfold within at did
  split at did
  · exact did
  · split at did
    · nomatch did
    · exact Act.giveUp_eq_done_iff.mp did

theorem within_of_done {limit : Seconds} {act : Act σ α} (patient : limit.isNegative = false)
    (did : act world = (.done a, after)) : within limit act world = (.done a, after) := by
  unfold within
  split
  · exact did
  · simpa [patient, Act.giveUp_eq_done_iff] using did

theorem done_of_inTransaction {act : Act σ Result}
    (did : inTransaction connection act world = (.done result, after)) :
    ∃ between, act world = (.done result, between) := by
  obtain ⟨_, between, acted, did⟩ := Act.bind_eq_done_iff.mp (Act.recover_eq_done_iff.mp did)
  obtain ⟨_, _, _, did⟩ := Act.bind_eq_done_iff.mp did
  obtain ⟨rfl, -⟩ := Act.pure_eq_done_iff.mp did
  exact ⟨between, acted⟩

theorem failure_of_done {clock : Clock σ} {started : Float} {error : String} {envelope : Envelope}
    (did : (failure clock started error world).1 = .done envelope) :
    ∃ duration, envelope = .failure error duration := by
  obtain ⟨duration, _, _, did⟩ := Act.bind_eq_done_iff.mp (Prod.ext did rfl)
  exact ⟨duration, (Act.pure_eq_done_iff.mp did).1.symm⟩

end

namespace Session

variable {session : Session σ} {request : Request} {envelope : Envelope} {world : σ}

theorem yields_of_statement {connection : Connection σ} {sql : String} {options : Options}
    {result : Result} {after : σ}
    (did : session.statement connection sql options world = (.done result, after)) :
    Yields connection sql options.fetch world result := by
  unfold statement at did
  split at did
  · obtain ⟨between, did⟩ := done_of_inTransaction did
    exact yields_of_runStatement (done_of_within did)
  · exact yields_of_runStatement (done_of_within did)

theorem cases_of_execute
    (did : (session.execute request.query request.options world).1 = .done envelope) :
    (∃ error duration, envelope = .failure error duration) ∨
      ∃ connection result duration, session.connection = some connection ∧
        Yields connection (Text.trim request.query) request.options.fetch (session.clock world).2
          result ∧
        envelope = result.envelope duration := by
  simp only [execute, Act.bind_apply, Act.always_apply] at did
  cases passed : refusal? request.options.readOnly (Text.trim request.query) with
  | some refusal =>
    simp only [passed] at did
    exact .inl ⟨_, failure_of_done did⟩
  | none =>
    simp only [passed] at did
    cases connected : session.connection with
    | none =>
      simp only [connected] at did
      exact .inl ⟨_, failure_of_done did⟩
    | some connection =>
      simp only [connected, run_eq] at did
      cases ended : session.statement connection (Text.trim request.query) request.options
          (session.clock world).2 with
      | mk outcome after =>
        rw [ended] at did
        cases outcome with
        | done result =>
          obtain ⟨duration, _, _, did⟩ := Act.bind_eq_done_iff.mp (Prod.ext did rfl)
          obtain ⟨rfl, -⟩ := Act.pure_eq_done_iff.mp did
          exact .inr ⟨connection, result, duration, rfl, yields_of_statement ended, rfl⟩
        | raised fault => exact .inl ⟨_, failure_of_done did⟩
        | waiting cancel => cases did

-- ---------------------------------------------------------------------------
-- Forms
-- ---------------------------------------------------------------------------

/-- The cursor of a request: its statement is executed without the blanks around it. -/
def Executes (session : Session σ) (request : Request) (world : σ) (connection : Connection σ)
    (cursor : Cursor) (between : σ) : Prop :=
  session.connection = some connection ∧
    connection.execute (Text.trim request.query) (session.clock world).2 = (.done cursor, between)

def Fetches (session : Session σ) (request : Request) (world : σ) (cursor : Cursor)
    (rows : List Row) : Prop :=
  ∃ connection between after, session.Executes request world connection cursor between ∧
    connection.fetch cursor request.options.fetch between = (.done rows, after)

end Session

/-- The first rows of a cursor, as many as the options admit. -/
structure Options.Admits (options : Options) (cursor : Cursor) (rows : List Row) : Prop where
  first : rows <+: cursor.rows
  capped : 0 < options.maxRows → (rows.length : Int) ≤ options.maxRows
  all : options.maxRows ≤ 0 → rows = cursor.rows

theorem admits_of_allows {options : Options} {cursor : Cursor} {rows : List Row}
    (allows : options.fetch.Allows cursor rows) : options.Admits cursor rows := by
  by_cases positive : 0 < options.maxRows
  · rw [Options.fetch, if_pos positive] at allows
    have most : rows.length ≤ options.maxRows.toNat := allows.2
    exact ⟨allows.1, fun _ => by omega, fun none => absurd positive (by omega)⟩
  · rw [Options.fetch, if_neg positive] at allows
    exact ⟨allows.1, fun capped => absurd capped positive, fun _ => allows.2⟩

inductive Form where
  | rows
  | changed
  | failure

def Form.keys : Form → List String
  | .rows => ["success", "rows", "error", "duration"]
  | .changed => ["success", "affectedRows", "error", "duration"]
  | .failure => ["success", "error", "duration"]

theorem Form.keys_inj {form other : Form} (same : form.keys = other.keys) : form = other := by
  cases form <;> cases other <;> first | rfl | exact absurd same (by decide)

def Cursor.connection (cursor : Cursor) : Connection Unit where
  execute _ := pure cursor
  fetch cursor fetch := pure <| match fetch with
    | .atMost count => cursor.rows.take count
    | .all => cursor.rows
  commit := pure ()
  rollback := pure ()
  close := pure ()

namespace Session

variable {session : Session σ} {request : Request} {envelope : Envelope} {answer : Value}
  {form other : Form} {world : σ}

/-- What an answer to a request is if it has the form. -/
def Answers (session : Session σ) (request : Request) (world : σ) (answer : Value) : Form → Prop
  | .rows => isQuery (Text.trim request.query) = true ∧ ∃ cursor rows table duration,
      session.Fetches request world cursor rows ∧ request.options.Admits cursor rows ∧
        table = tabulate (cursor.columns.getD []) rows ∧ (∀ record ∈ table, record.IsFlat) ∧
        answer = .record [("success", .bool true), ("rows", .list table), ("error", .null),
          ("duration", .text duration)]
  | .changed => isQuery (Text.trim request.query) = false ∧ ∃ count duration,
      (∃ connection cursor between, session.Executes request world connection cursor between ∧
        count = cursor.changed) ∧
        answer = .record [("success", .bool true), ("affectedRows", .int count), ("error", .null),
          ("duration", .text duration)]
  | .failure => ∃ error duration,
      answer = .record [("success", .bool false), ("error", .text error),
        ("duration", .text duration)]

theorem Answers.keys (answers : session.Answers request world answer form) :
    ∃ fields, answer = .record fields ∧ Fields.keys fields = form.keys := by
  cases form with
  | rows =>
    obtain ⟨-, _, _, _, _, -, -, -, -, same⟩ := answers
    exact ⟨_, same, rfl⟩
  | changed =>
    obtain ⟨-, _, _, -, same⟩ := answers
    exact ⟨_, same, rfl⟩
  | failure =>
    obtain ⟨_, _, same⟩ := answers
    exact ⟨_, same, rfl⟩

theorem Answers.unique (answers : session.Answers request world answer form)
    (again : session.Answers request world answer other) : other = form := by
  obtain ⟨fields, same, keys⟩ := answers.keys
  obtain ⟨_, rfl, keys'⟩ := again.keys
  cases same
  exact Form.keys_inj (keys'.symm.trans keys)

theorem answers_of_execute
    (faithful : ∀ connection ∈ session.connection, connection.IsFaithful)
    (did : (session.execute request.query request.options world).1 = .done envelope) :
    ∃ form, session.Answers request world envelope.toValue form := by
  obtain ⟨error, duration, rfl⟩ | ⟨connection, result, duration, connected, yields, rfl⟩ :=
    cases_of_execute did
  · exact ⟨.failure, error, duration, rfl⟩
  · cases yields with
    | rows query executed fetched named =>
      obtain ⟨-, tabulated⟩ := nameRows_eq_ok_iff.mp named
      refine ⟨.rows, query, _, _, _, duration, ⟨connection, _, _, ⟨connected, executed⟩, fetched⟩,
        admits_of_allows (faithful connection connected _ _ _ _ _ fetched), tabulated, ?_, rfl⟩
      rw [tabulated]
      exact fun record => isFlat_of_mem_tabulate
    | changed other executed =>
      exact ⟨.changed, other, _, duration, ⟨connection, _, _, ⟨connected, executed⟩, rfl⟩, rfl⟩

/-- Every request is answered, and the answer is of one form only: a table of the first rows of the
cursor, as many as the options admit, for a statement that produces rows, a count for any other, or
an error. -/
theorem execute_answers (session : Session σ) (request : Request) (world : σ)
    (faithful : ∀ connection ∈ session.connection, connection.IsFaithful)
    (timely : (session.call request world).IsTimely) :
    ∃ envelope, (session.execute request.query request.options world).1 = .done envelope ∧
      ∃! form, session.Answers request world envelope.toValue form := by
  obtain ⟨envelope, answered, -⟩ := session.execute_of_timely request world timely
  obtain ⟨form, answers⟩ := answers_of_execute faithful answered
  exact ⟨envelope, answered, form, answers, fun _ => answers.unique⟩

def stored (cursor : Cursor) : Session Unit where
  connection := some cursor.connection
  autocommit := false
  clock world := (0.0, world)

theorem isFaithful_stored (cursor : Cursor) :
    ∀ connection ∈ (stored cursor).connection, connection.IsFaithful := by
  rintro _ ⟨⟩ cursor fetch _ rows _ ⟨⟩
  cases fetch with
  | atMost count => exact ⟨List.take_prefix count _, List.length_take_le count _⟩
  | all => exact ⟨List.prefix_refl _, rfl⟩

/-- A repeated name, cells that are no simple values, and a row that is not fetched. -/
def prices : Cursor where
  columns := some ["id", "price", "id"]
  rows := [[.value (.int 1), .object "1.50", .value (.list [.int 2])], [.value .null]]
  changed := -1

def capped : Request := ⟨" SELECT * FROM prices", { maxRows := 1 }⟩

theorem execute_answers_prices :
    (∀ connection ∈ (stored prices).connection, connection.IsFaithful) ∧
      ((stored prices).call capped ()).IsTimely ∧
      ∃ envelope, ((stored prices).execute capped.query capped.options ()).1 = .done envelope ∧
        ∃! form, (stored prices).Answers capped () envelope.toValue form := by
  have timely : ((stored prices).call capped ()).IsTimely := by decide +kernel
  exact ⟨isFaithful_stored prices, timely,
    execute_answers _ _ _ (isFaithful_stored prices) timely⟩

-- ---------------------------------------------------------------------------
-- Cells
-- ---------------------------------------------------------------------------

variable {cursor : Cursor} {rows : List Row} {table : List Value} {duration : String}

theorem Fetches.unique (fetches : session.Fetches request world cursor rows)
    (again : session.Fetches request world cursor' rows') : cursor' = cursor ∧ rows' = rows := by
  obtain ⟨connection, between, after, ⟨connected, executed⟩, fetched⟩ := fetches
  obtain ⟨_, _, _, ⟨connected', executed'⟩, fetched'⟩ := again
  obtain rfl := Option.some.inj (connected.symm.trans connected')
  obtain ⟨⟨⟩, rfl⟩ := Prod.mk.inj (executed.symm.trans executed')
  obtain ⟨⟨⟩, -⟩ := Prod.mk.inj (fetched.symm.trans fetched')
  exact ⟨rfl, rfl⟩

theorem nameRows_of_execute
    (answered : (session.execute request.query request.options world).1 =
      .done (.rows table duration)) :
    ∃ cursor rows, session.Fetches request world cursor rows ∧
      nameRows (cursor.columns.getD []) rows = .ok table := by
  obtain ⟨_, _, ⟨⟩⟩ | ⟨connection, result, _, connected, yields, same⟩ :=
    cases_of_execute answered
  cases yields with
  | rows _ executed fetched named =>
    obtain ⟨rfl, -⟩ := Envelope.rows.inj same
    exact ⟨_, _, ⟨connection, _, _, ⟨connected, executed⟩, fetched⟩, named⟩
  | changed => cases same

/-- The records of a table have one entry for each name of a column, with the cell of the last
column that has this name; if the names differ, no cell is lost. -/
theorem rows_of_execute {columns : List String}
    (answered : (session.execute request.query request.options world).1 =
      .done (.rows table duration))
    (fetches : session.Fetches request world cursor rows) (named : cursor.columns = some columns)
    (even : ∀ row ∈ rows, row.length = columns.length) :
    List.Forall₂ (fun row record => ∃ fields, record = .record fields ∧ IsNamed columns row fields)
        rows table ∧
      (columns.Nodup →
        table.mapM (Value.cells? columns) = some (rows.map (·.map Cell.image))) := by
  obtain ⟨_, _, fetched, tabulated⟩ := nameRows_of_execute answered
  obtain ⟨rfl, rfl⟩ := fetches.unique fetched
  rw [named, Option.getD_some] at tabulated
  obtain ⟨-, rfl⟩ := nameRows_eq_ok_iff.mp tabulated
  refine ⟨?_, fun distinct => mapM_cells?_tabulate distinct even⟩
  rw [tabulate, List.forall₂_map_right_iff]
  exact List.forall₂_same.mpr fun row listed =>
    ⟨_, rfl, isNamed_nameRow (Nat.le_of_eq (even row listed).symm)⟩

def listing : Request := ⟨"SELECT * FROM orders AS a, items AS b", {}⟩

theorem execute_stored {cursor : Cursor} {table : List Value}
    (named : nameRows (cursor.columns.getD []) (cursor.rows.take 1000) = .ok table) :
    ((stored cursor).execute listing.query listing.options ()).1 = .done (.rows table "0ms") := by
  have passed : refusal? listing.options.readOnly (Text.trim listing.query) = none := by
    decide +kernel
  have query : isQuery (Text.trim listing.query) = true := by decide +kernel
  have told : elapsed 0.0 0.0 = .ok "0ms" := by decide +kernel
  have ran : (stored cursor).statement cursor.connection (Text.trim listing.query)
      listing.options () = (.done (.rows table), ()) := by
    have plain : (stored cursor).isTransactional listing.options = false := rfl
    rw [statement, plain, if_neg Bool.false_ne_true]
    exact within_of_done rfl (runStatement_of_done query rfl rfl named)
  simp only [execute, Act.bind_apply, Act.always_apply, passed]
  change ((stored cursor).run cursor.connection _ listing.options 0.0 ()).1 = _
  rw [run_eq, ran]
  simp [tell, duration, stored, told, Result.envelope, Act.done, Act.bind_apply]

theorem fetches_stored (cursor : Cursor) :
    (stored cursor).Fetches listing () cursor (cursor.rows.take 1000) :=
  ⟨cursor.connection, (), (), ⟨rfl, rfl⟩, rfl⟩

def orders : Cursor where
  columns := some ["id", "price"]
  rows := [[.value (.int 1), .object "1.50"], [.value (.int 2), .value .null]]
  changed := -1

theorem rows_of_execute_orders :
    let table := tabulate ["id", "price"] orders.rows
    ((stored orders).execute listing.query listing.options ()).1 = .done (.rows table "0ms") ∧
      (stored orders).Fetches listing () orders orders.rows ∧
      (∀ row ∈ orders.rows, row.length = ["id", "price"].length) ∧ ["id", "price"].Nodup ∧
      table.mapM (Value.cells? ["id", "price"]) =
        some [[.int 1, .text "1.50"], [.int 2, .null]] := by
  intro table
  have answered : ((stored orders).execute listing.query listing.options ()).1 =
      .done (.rows table "0ms") := execute_stored rfl
  have even : ∀ row ∈ orders.rows, row.length = ["id", "price"].length := by
    simp [orders]
  have distinct : ["id", "price"].Nodup := by decide
  exact ⟨answered, fetches_stored orders, even, distinct,
    (rows_of_execute answered (fetches_stored orders) rfl even).2 distinct⟩

def joined : Cursor where
  columns := some ["id", "id"]
  rows := [[.value (.int 1), .value (.int 2)]]
  changed := -1

/-- Of two columns with one name, the first is lost. -/
theorem rows_of_execute_joined :
    ¬ ∀ (session : Session Unit) request cursor columns rows table duration,
      (session.execute request.query request.options ()).1 = .done (.rows table duration) →
      session.Fetches request () cursor rows → cursor.columns = some columns →
      (∀ row ∈ rows, row.length = columns.length) →
      table = rows.map fun row => .record (columns.zip (row.map Cell.image)) := by
  intro keeps
  have whole := keeps (stored joined) listing joined ["id", "id"] joined.rows
    [.record [("id", .int 2)]] "0ms" (execute_stored rfl) (fetches_stored joined) rfl
    (by simp [joined])
  simp [joined] at whole

end Session

end Flowline.Sql
