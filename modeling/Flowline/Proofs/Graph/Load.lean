import Flowline.Graph.Load
import Flowline.Proofs.Decimal.Range

/-!
# When a submission can be read

A submission is read to its end, accepted or refused with at least one problem, unless a node
breaks the reading: its type has to name its kind and is neither null nor a text, or the
temperature of its chat is an integer too large for a double. The first such node decides.
-/

namespace Flowline

-- ---------------------------------------------------------------------------
-- What breaks a reading
-- ---------------------------------------------------------------------------

/-- An integer beyond the range of doubles. -/
def Value.IsVast : Value → Prop
  | .int n => Double.limit ≤ n.natAbs
  | _ => False

def Config.Overheats (fields : Fields Value) : Prop :=
  ∃ v, Fields.find? fields "temperature" = some v ∧ v.IsVast

namespace Node

/-- The data from which the kind and the configuration of a node are taken. -/
inductive HasData (fields : Fields Value) : Fields Value → Prop
  | record (found : Fields.find? fields "data" = some (.record given)) : HasData fields given
  | empty (void : ((Fields.find? fields "data").getD .null).truthy = false) : HasData fields []

/-- A node whose reading ends at once. -/
inductive Breaks : Value → Breakage → Prop
  | outright (given : Fields.find? fields "config" = some (.record settings))
      (chat : Fields.find? settings "kind" = some (.text Kind.llm.name))
      (hot : Config.Overheats settings) : Breaks (.record fields) .temperatureTooLarge
  | byData (implied : Fields.find? fields "config" = none) (has : HasData fields given)
      (named : Kind.resolveName ((Fields.find? fields "type").getD .null) given = .ok called)
      (chat : Kind.ofName called = .llm) (hot : Config.Overheats given) :
      Breaks (.record fields) .temperatureTooLarge
  /-- The data gives no kind, so that the type has to, and the type is no text. -/
  | byType (implied : Fields.find? fields "config" = none) (has : HasData fields given)
      (unnamed : (Fields.find? given "kind").getD .null = .null)
      (typed : (Fields.find? fields "type").getD .null = typing)
      (something : typing ≠ .null) (notText : ∀ s, typing ≠ .text s) :
      Breaks (.record fields) .typeNotText

end Node

/-- A submission whose reading ends at once: at the first of its nodes that breaks. -/
inductive Graph.Breaks : Value → Breakage → Prop
  | node (found : Fields.find? fields "nodes" = some (.list (before ++ node :: after)))
      (first : ∀ other ∈ before, ∀ why, ¬ Node.Breaks other why) (here : Node.Breaks node why) :
      Breaks (.record fields) why

-- ---------------------------------------------------------------------------
-- Readings in parts
-- ---------------------------------------------------------------------------

namespace Loaded

def breakage? : Loaded α → Option Breakage
  | .broken why => some why
  | _ => none

def IsReasoned (part : Loaded α) : Prop := ∀ problems, part = .rejected problems → problems ≠ []

theorem breakage?_eq_some_iff (part : Loaded α) :
    part.breakage? = some why ↔ part = .broken why := by
  cases part <;> simp [breakage?]

theorem IsReasoned.settles_iff {part : Loaded α} (reasoned : part.IsReasoned) :
    ((∃ a, part = .accepted a) ∨ ∃ problems, problems ≠ [] ∧ part = .rejected problems) ↔
      part.breakage? = none := by
  cases part with
  | accepted a => simp [breakage?]
  | rejected problems => simpa [breakage?] using reasoned problems rfl
  | broken why => simp [breakage?]

@[simp] theorem fmap_eq_map (f : α → β) (part : Loaded α) : f <$> part = part.map f := rfl

@[simp] theorem breakage?_accepted (a : α) : (accepted a).breakage? = none := rfl

@[simp] theorem breakage?_problem (cause : ProblemCause) (found : Value) :
    (problem cause found : Loaded α).breakage? = none := rfl

@[simp] theorem breakage?_map (f : α → β) (part : Loaded α) :
    (part.map f).breakage? = part.breakage? := by
  cases part <;> rfl

@[simp] theorem breakage?_under (step : PlaceStep) (part : Loaded α) :
    (part.under step).breakage? = part.breakage? := by
  cases part <;> rfl

@[simp] theorem breakage?_seq (f : Loaded (α → β)) (part : Loaded α) :
    (f <*> part).breakage? = f.breakage?.or part.breakage? := by
  cases f <;> cases part <;> rfl

theorem breakage?_andThen (part : Loaded α) (next : α → Loaded β) :
    (part.andThen next).breakage? = some why ↔
      part.breakage? = some why ∨ ∃ a, part = .accepted a ∧ (next a).breakage? = some why := by
  cases part <;> simp [andThen, breakage?]

theorem breakage?_field (fields : Fields Value) (names : List String) (default : α)
    (read : Value → Loaded α) :
    (field fields names default read).breakage? =
      (firstOf? fields names).bind fun entry => (read entry.2).breakage? := by
  rw [field]
  split <;> simp [*]

@[simp] theorem breakage?_field_of_forall {read : Value → Loaded α}
    (whole : ∀ v, (read v).breakage? = none) (fields : Fields Value) (names : List String)
    (default : α) : (field fields names default read).breakage? = none := by
  simp [breakage?_field, whole]

theorem breakage?_field_singleton (fields : Fields Value) (name : String) (default : α)
    (read : Value → Loaded α) :
    (field fields [name] default read).breakage? =
      (Fields.find? fields name).bind fun v => (read v).breakage? := by
  rw [breakage?_field, firstOf?]
  cases Fields.find? fields name <;> rfl

@[simp] theorem breakage?_required (fields : Fields Value) (name : String)
    (read : Value → Loaded α) :
    (required fields name read).breakage? =
      (Fields.find? fields name).bind fun v => (read v).breakage? := by
  rw [required]
  split <;> simp [*]

@[simp] theorem breakage?_items (read : α → Loaded β) (start : Nat) (xs : List α) :
    (items read start xs).breakage? = xs.findSome? fun x => (read x).breakage? := by
  induction xs generalizing start with
  | nil => rfl
  | cons x rest ih =>
    simp only [items, fmap_eq_map, breakage?_seq, breakage?_map, breakage?_under, ih,
      List.findSome?_cons]
    cases (read x).breakage? <;> rfl

theorem isReasoned_accepted (a : α) : (accepted a).IsReasoned := nofun

theorem isReasoned_problem (cause : ProblemCause) (found : Value) :
    (problem cause found : Loaded α).IsReasoned := by
  rintro problems ⟨⟩
  exact List.cons_ne_nil _ _

theorem IsReasoned.map {part : Loaded α} (reasoned : part.IsReasoned) (f : α → β) :
    (part.map f).IsReasoned := by
  cases part with
  | rejected problems => exact fun _ same => by cases same; exact reasoned problems rfl
  | _ => nofun

theorem IsReasoned.under {part : Loaded α} (reasoned : part.IsReasoned) (step : PlaceStep) :
    (part.under step).IsReasoned := by
  cases part with
  | rejected problems =>
    rintro _ ⟨⟩
    exact fun none => reasoned problems rfl (List.map_eq_nil_iff.mp none)
  | _ => nofun

theorem IsReasoned.seq {f : Loaded (α → β)} {part : Loaded α} (first : f.IsReasoned)
    (second : part.IsReasoned) : (f <*> part).IsReasoned := by
  cases f with
  | accepted f => exact second.map f
  | broken why => nofun
  | rejected problems =>
    have some := first problems rfl
    cases part with
    | broken why => nofun
    | accepted a => rintro _ ⟨⟩; exact some
    | rejected more => rintro _ ⟨⟩; exact List.append_ne_nil_of_left_ne_nil some more

theorem IsReasoned.andThen {part : Loaded α} {next : α → Loaded β} (first : part.IsReasoned)
    (second : ∀ a, (next a).IsReasoned) : (part.andThen next).IsReasoned := by
  cases part with
  | accepted a => exact second a
  | rejected problems => rintro _ ⟨⟩; exact first problems rfl
  | broken why => nofun

theorem IsReasoned.field {read : Value → Loaded α} (each : ∀ v, (read v).IsReasoned)
    (fields : Fields Value) (names : List String) (default : α) :
    (field fields names default read).IsReasoned := by
  rw [Loaded.field]
  split
  · exact (each _).under _
  · exact isReasoned_accepted default

theorem IsReasoned.required {read : Value → Loaded α} (each : ∀ v, (read v).IsReasoned)
    (fields : Fields Value) (name : String) : (required fields name read).IsReasoned := by
  rw [Loaded.required]
  split
  · exact (each _).under _
  · exact (isReasoned_problem _ _).under _

theorem IsReasoned.items {read : α → Loaded β} (each : ∀ x, (read x).IsReasoned) (start : Nat)
    (xs : List α) : (items read start xs).IsReasoned := by
  induction xs generalizing start with
  | nil => exact isReasoned_accepted []
  | cons x rest ih => exact (((each x).under _).map _).seq (ih (start + 1))

end Loaded

open Loaded (IsReasoned isReasoned_accepted isReasoned_problem)

-- ---------------------------------------------------------------------------
-- Fields
-- ---------------------------------------------------------------------------

namespace Value

@[simp] theorem breakage?_readText (v : Value) : v.readText.breakage? = none := by
  rw [readText.eq_def]
  split
  · rfl
  · split <;> rfl

@[simp] theorem breakage?_readOverride (v : Value) : v.readOverride.breakage? = none := by
  rw [readOverride.eq_def]
  split <;> simp

@[simp] theorem breakage?_readMethod (v : Value) : v.readMethod.breakage? = none := by
  simp [readMethod]

@[simp] theorem breakage?_readPlainText (v : Value) : v.readPlainText.breakage? = none := by
  cases v <;> rfl

@[simp] theorem breakage?_readRecord (v : Value) : v.readRecord.breakage? = none := by
  cases v <;> rfl

/-- A temperature ends the reading exactly if it rounds to no double. -/
theorem breakage?_readTemperature (v : Value) :
    v.readTemperature.breakage? = some why ↔ why = .temperatureTooLarge ∧ v.IsVast := by
  cases v with
  | int n =>
    rw [IsVast, ← Double.ofInt_eq_none_iff, readTemperature]
    split <;> simp [Loaded.breakage?, *, eq_comm]
  | _ => simp [readTemperature, IsVast]

theorem isReasoned_readText (v : Value) : v.readText.IsReasoned := by
  rw [readText.eq_def]
  split
  · exact isReasoned_accepted _
  · split
    · exact isReasoned_accepted _
    · exact isReasoned_problem _ _

theorem isReasoned_readOverride (v : Value) : v.readOverride.IsReasoned := by
  rw [readOverride.eq_def]
  split
  · exact isReasoned_accepted _
  · exact (isReasoned_readText _).map _

theorem isReasoned_readMethod (v : Value) : v.readMethod.IsReasoned := (isReasoned_readText v).map _

theorem isReasoned_readTemperature (v : Value) : v.readTemperature.IsReasoned := by
  cases v with
  | int n =>
    rw [readTemperature]
    split <;> nofun
  | _ => nofun

theorem isReasoned_readPlainText (v : Value) : v.readPlainText.IsReasoned := by
  cases v with
  | text s => exact isReasoned_accepted s
  | _ => exact isReasoned_problem _ _

theorem isReasoned_readRecord (v : Value) : v.readRecord.IsReasoned := by
  cases v with
  | record fields => exact isReasoned_accepted fields
  | _ => exact isReasoned_problem _ _

end Value

-- ---------------------------------------------------------------------------
-- Configurations
-- ---------------------------------------------------------------------------

theorem Kind.ofName?_eq_some_iff {name : String} {kind : Kind} :
    ofName? name = some kind ↔ name = kind.name := by
  constructor
  · intro found
    have same := List.find?_some (p := fun kind : Kind => kind.name == name) found
    exact (beq_iff_eq.mp same).symm
  · rintro rfl
    exact ofName?_name kind

namespace Config

theorem breakage?_loadLlm (fields : Fields Value) :
    (loadLlm fields).breakage? = some why ↔ why = .temperatureTooLarge ∧ Overheats fields := by
  have temperature : (loadLlm fields).breakage? =
      (Fields.find? fields "temperature").bind fun v => v.readTemperature.breakage? := by
    simp [loadLlm, Loaded.breakage?_field_singleton]
  rw [temperature, Option.bind_eq_some_iff]
  simp only [Value.breakage?_readTemperature, Overheats, and_left_comm, exists_and_left]

@[simp] theorem breakage?_loadApi (fields : Fields Value) : (loadApi fields).breakage? = none := by
  simp [loadApi]

theorem breakage?_loadAs (kind : Kind) (fields : Fields Value) :
    (loadAs kind fields).breakage? = some why ↔
      why = .temperatureTooLarge ∧ kind = .llm ∧ Overheats fields := by
  cases kind <;> simp [loadAs, breakage?_loadLlm]

theorem breakage?_load (v : Value) :
    (load v).breakage? = some why ↔ why = .temperatureTooLarge ∧
      ∃ fields, v = .record fields ∧ Fields.find? fields "kind" = some (.text Kind.llm.name) ∧
        Overheats fields := by
  cases v with
  | record fields =>
    simp only [load, Value.record.injEq, exists_eq_left']
    split
    · simp [*]
    · next name tag =>
      have chat : Kind.ofName? name = some .llm ↔ name = Kind.llm.name := Kind.ofName?_eq_some_iff
      split
      · next kind named =>
        rw [named] at chat
        simpa [breakage?_loadAs, tag] using fun _ _ => chat
      · next unknown =>
        rw [unknown] at chat
        simpa [tag] using fun _ same => absurd same (by simpa using chat)
    · next found other tag =>
      have untold : found ≠ .text Kind.llm.name := other _
      simp [tag, untold]
  | _ => simp [load]

theorem breakage?_ofData (name : String) (data : Fields Value) :
    (ofData name data).breakage? = some why ↔
      why = .temperatureTooLarge ∧ Kind.ofName name = .llm ∧ Overheats data := by
  rw [ofData]
  split <;> simp [breakage?_loadAs, *]

theorem isReasoned_loadLlm (fields : Fields Value) : (loadLlm fields).IsReasoned := by
  refine .seq (.seq (.seq (.seq (.seq (.map ?_ _) ?_) ?_) ?_) ?_) ?_
  · exact .field Value.isReasoned_readText _ _ _
  · exact .field Value.isReasoned_readText _ _ _
  · exact .field Value.isReasoned_readOverride _ _ _
  · exact .field Value.isReasoned_readOverride _ _ _
  · exact .field Value.isReasoned_readOverride _ _ _
  · exact .field Value.isReasoned_readTemperature _ _ _

theorem isReasoned_loadApi (fields : Fields Value) : (loadApi fields).IsReasoned := by
  refine .seq (.seq (.seq (.map ?_ _) ?_) ?_) ?_
  · exact .field Value.isReasoned_readText _ _ _
  · exact .field Value.isReasoned_readMethod _ _ _
  · exact .field Value.isReasoned_readText _ _ _
  · exact .field Value.isReasoned_readText _ _ _

theorem isReasoned_loadAs (kind : Kind) (fields : Fields Value) :
    (loadAs kind fields).IsReasoned := by
  cases kind with
  | start => exact isReasoned_accepted _
  | output => exact isReasoned_accepted _
  | llm => exact (isReasoned_loadLlm fields).map _
  | dbQuery => exact (IsReasoned.field Value.isReasoned_readText _ _ _).map _
  | apiCall => exact (isReasoned_loadApi fields).map _
  | condition => exact (IsReasoned.field Value.isReasoned_readText _ _ _).map _
  | custom =>
    exact ((IsReasoned.field Value.isReasoned_readPlainText _ _ _).map _).seq
      (.field Value.isReasoned_readRecord _ _ _)

theorem isReasoned_load (v : Value) : (load v).IsReasoned := by
  cases v with
  | record fields =>
    rw [load]
    split
    · exact isReasoned_problem _ _
    · split
      · exact (isReasoned_loadAs _ _).under _
      · exact isReasoned_problem _ _
    · exact isReasoned_problem _ _
  | _ => exact isReasoned_problem _ _

theorem isReasoned_ofData (name : String) (data : Fields Value) :
    (ofData name data).IsReasoned := by
  rw [ofData]
  split
  · exact isReasoned_accepted _
  · exact (isReasoned_loadAs _ _).under _

end Config

-- ---------------------------------------------------------------------------
-- Nodes
-- ---------------------------------------------------------------------------

theorem Kind.typeName_eq_notText_iff (type : Value) :
    typeName type = .error .notText ↔ type ≠ .null ∧ ∀ s, type ≠ .text s := by
  cases type <;> simp [typeName]

theorem Kind.resolveName_eq_notText_iff (type : Value) (data : Fields Value) :
    resolveName type data = .error .notText ↔
      (Fields.find? data "kind").getD .null = .null ∧ type ≠ .null ∧ ∀ s, type ≠ .text s := by
  rw [resolveName, ← typeName_eq_notText_iff]
  split
  · simp [*]
  · simp [*]
  · next v given known =>
    have named : v ≠ .null := given
    split <;> simp [*]

namespace Node

theorem loadData_eq_accepted_iff (fields : Fields Value) :
    loadData fields = .accepted given ↔ HasData fields given := by
  constructor
  · intro read
    rw [loadData] at read
    split at read
    · next data found =>
      cases read
      rcases Option.getD_eq_iff.mp found with found | ⟨_, void⟩
      · exact .record found
      · nomatch void
    · next v _ =>
      split at read
      · nomatch read
      · cases read
        exact .empty (Bool.eq_false_iff.mpr ‹_›)
  · rintro (found | void)
    · simp [loadData, found]
    · rw [loadData]
      split
      · next data found =>
        rw [found] at void
        simpa [Value.truthy] using void
      · simp [void]

@[simp] theorem breakage?_loadData (fields : Fields Value) :
    (loadData fields).breakage? = none := by
  rw [loadData]
  split
  · rfl
  · split <;> rfl

theorem loadName_eq_accepted_iff (fields data : Fields Value) :
    loadName fields data = .accepted name ↔
      Kind.resolveName ((Fields.find? fields "type").getD .null) data = .ok name := by
  rw [loadName]
  split <;> simp [Loaded.problem, *]

theorem breakage?_loadName (fields data : Fields Value) :
    (loadName fields data).breakage? = some why ↔ why = .typeNotText ∧
      Kind.resolveName ((Fields.find? fields "type").getD .null) data = .error .notText := by
  rw [loadName]
  split <;> simp [Loaded.breakage?, Loaded.problem, eq_comm, *]

theorem breakage?_loadFields (fields : Fields Value) (data : Loaded (Fields Value))
    (config : Loaded Config) :
    (loadFields fields data config).breakage? = data.breakage?.or config.breakage? := by
  simp [loadFields]

theorem breakage?_load (v : Value) : (load v).breakage? = some why ↔ Breaks v why := by
  cases v with
  | record fields =>
    rw [load]
    split
    · next config given =>
      simp only [breakage?_loadFields, Loaded.breakage?_field_of_forall Value.breakage?_readRecord,
        Option.none_or, Config.breakage?_load]
      constructor
      · rintro ⟨rfl, settings, rfl, chat, hot⟩
        exact .outright given chat hot
      · rintro (⟨given', chat, hot⟩ | ⟨implied, _, _, _, _⟩ | ⟨implied, _, _, _, _, _⟩)
        · cases given.symm.trans given'
          exact ⟨rfl, _, rfl, chat, hot⟩
        · nomatch given.symm.trans implied
        · nomatch given.symm.trans implied
    · next implied =>
      simp only [Loaded.breakage?_andThen, breakage?_loadData, loadData_eq_accepted_iff,
        breakage?_loadName, loadName_eq_accepted_iff, breakage?_loadFields,
        Loaded.breakage?_accepted, Option.none_or, Config.breakage?_ofData,
        Kind.resolveName_eq_notText_iff, reduceCtorEq, false_or]
      constructor
      · rintro ⟨data, has, ⟨rfl, unnamed, something, notText⟩ | ⟨name, named, rfl, chat, hot⟩⟩
        · exact .byType implied has unnamed rfl something notText
        · exact .byData implied has named chat hot
      · rintro (⟨given, _, _⟩ | ⟨_, has, named, chat, hot⟩ |
          ⟨_, has, unnamed, typed, something, notText⟩)
        · nomatch given.symm.trans implied
        · exact ⟨_, has, .inr ⟨_, named, rfl, chat, hot⟩⟩
        · subst typed
          exact ⟨_, has, .inl ⟨rfl, unnamed, something, notText⟩⟩
  | _ =>
    simp only [load, Loaded.breakage?_problem, reduceCtorEq, false_iff]
    nofun

theorem isReasoned_loadData (fields : Fields Value) : (loadData fields).IsReasoned := by
  rw [loadData]
  split
  · exact isReasoned_accepted _
  · split
    · exact isReasoned_problem _ _
    · exact isReasoned_accepted _

theorem isReasoned_loadName (fields data : Fields Value) : (loadName fields data).IsReasoned := by
  rw [loadName]
  split
  · exact isReasoned_accepted _
  · nofun
  · exact isReasoned_problem _ _

theorem isReasoned_loadFields {fields : Fields Value} {data : Loaded (Fields Value)}
    {config : Loaded Config} (first : data.IsReasoned) (second : config.IsReasoned) :
    (loadFields fields data config).IsReasoned := by
  refine .seq (.seq (.seq (.map ?_ _) ?_) first) (second.under _)
  · exact .required Value.isReasoned_readText _ _
  · exact .field Value.isReasoned_readText _ _ _

theorem isReasoned_load (v : Value) : (load v).IsReasoned := by
  cases v with
  | record fields =>
    rw [load]
    split
    · exact isReasoned_loadFields (.field Value.isReasoned_readRecord _ _ _)
        (Config.isReasoned_load _)
    · refine (isReasoned_loadData fields).andThen fun data => ?_
      refine (isReasoned_loadName fields data).andThen fun name => ?_
      exact isReasoned_loadFields (isReasoned_accepted _) (Config.isReasoned_ofData name data)
  | _ => exact isReasoned_problem _ _

end Node

-- ---------------------------------------------------------------------------
-- Edges and graphs
-- ---------------------------------------------------------------------------

@[simp] theorem Edge.breakage?_load (v : Value) : (load v).breakage? = none := by
  cases v with
  | record fields => simp [load]
  | _ => simp [load]

theorem Edge.isReasoned_load (v : Value) : (load v).IsReasoned := by
  cases v with
  | record fields =>
    exact ((IsReasoned.required Value.isReasoned_readPlainText _ _).map _).seq
      (.required Value.isReasoned_readPlainText _ _)
  | _ => exact isReasoned_problem _ _

namespace Graph

@[simp] theorem breakage?_check (found : Value) (nodes : List Node) :
    (Population.check found nodes).breakage? = none := by
  rw [Population.check]
  split <;> simp

theorem isReasoned_check (found : Value) (nodes : List Node) :
    (Population.check found nodes).IsReasoned := by
  rw [Population.check]
  split
  · exact isReasoned_accepted _
  · exact isReasoned_problem _ _

theorem breakage?_readList (read : Value → Loaded α) (v : Value) :
    (readList read v).breakage? = some why ↔
      ∃ xs, v = .list xs ∧ (xs.findSome? fun x => (read x).breakage?) = some why := by
  cases v <;> simp [readList]

theorem isReasoned_readList {read : Value → Loaded α} (each : ∀ v, (read v).IsReasoned)
    (v : Value) : (readList read v).IsReasoned := by
  cases v with
  | list xs => exact .items each 0 xs
  | _ => exact isReasoned_problem _ _

@[simp] theorem breakage?_readInitialInput (v : Value) :
    (readInitialInput v).breakage? = none := by
  rw [readInitialInput.eq_def]
  split <;> simp

theorem isReasoned_readInitialInput (v : Value) : (readInitialInput v).IsReasoned := by
  rw [readInitialInput.eq_def]
  split
  · exact isReasoned_accepted _
  · exact (Value.isReasoned_readText _).map _

theorem breakage?_load (v : Value) : (load v).breakage? = some why ↔ Breaks v why := by
  cases v with
  | record fields =>
    have edges (v : Value) : (readList Edge.load v).breakage? = none := by
      cases v <;> simp [readList]
    have population (v : Value) :
        ((readList Node.load v).andThen (Population.check v)).breakage? = some why ↔
          (readList Node.load v).breakage? = some why := by
      simp [Loaded.breakage?_andThen]
    have first (nodes : List Value) :
        (nodes.findSome? fun node => (Node.load node).breakage?) = some why ↔
          ∃ before node after, nodes = before ++ node :: after ∧ Node.Breaks node why ∧
            ∀ other ∈ before, ∀ why, ¬ Node.Breaks other why := by
      simp only [List.findSome?_eq_some_iff, ← Node.breakage?_load,
        Option.eq_none_iff_forall_ne_some, ne_eq]
    simp only [load, Loaded.fmap_eq_map, Loaded.breakage?_seq, Loaded.breakage?_map,
      Loaded.breakage?_field_of_forall edges,
      Loaded.breakage?_field_of_forall breakage?_readInitialInput, Loaded.breakage?_field_singleton,
      Option.or_none, Option.bind_eq_some_iff, population, breakage?_readList, first]
    constructor
    · rintro ⟨_, found, _, rfl, before, node, after, rfl, here, first⟩
      exact .node found first here
    · rintro ⟨found, first, here⟩
      exact ⟨_, found, _, rfl, _, _, _, rfl, here, first⟩
  | _ =>
    simp only [load, Loaded.breakage?_problem, reduceCtorEq, false_iff]
    nofun

theorem isReasoned_load (v : Value) : (load v).IsReasoned := by
  cases v with
  | record fields =>
    refine .seq (.seq (.map ?_ _) ?_) ?_
    · refine .field (fun nodes => ?_) _ _ _
      exact (isReasoned_readList Node.isReasoned_load nodes).andThen (isReasoned_check nodes)
    · exact .field (isReasoned_readList Edge.isReasoned_load) _ _ _
    · exact .field isReasoned_readInitialInput _ _ _
  | _ => exact isReasoned_problem _ _

/-- A submission is accepted, or refused with at least one problem, unless the reading of one of its
nodes ends at once; the first such node says why. -/
theorem load_settles_iff (v : Value) :
    (((∃ graph, load v = .accepted graph) ∨
        ∃ problems, problems ≠ [] ∧ load v = .rejected problems) ↔ ∀ why, ¬ Breaks v why) ∧
      ∀ why, load v = .broken why ↔ Breaks v why := by
  constructor
  · rw [(isReasoned_load v).settles_iff, Option.eq_none_iff_forall_ne_some]
    exact forall_congr' fun why => not_congr (breakage?_load v)
  · intro why
    rw [← Loaded.breakage?_eq_some_iff]
    exact breakage?_load v

def numbered : Value :=
  .record [("nodes", .list [.record [("id", .text "a"), ("type", .int 5)]])]

/-- A submission that JSON can spell is neither accepted nor refused. -/
theorem load_numbered : ¬ ∀ v : Value, v.IsJson →
    (∃ graph, load v = .accepted graph) ∨
      ∃ problems, problems ≠ [] ∧ load v = .rejected problems := by
  intro settles
  have json : numbered.IsJson := by simp [numbered, Value.IsJson, Value.AllJson, Value.FieldsJson]
  have broken : load numbered = .broken .typeNotText := rfl
  simpa [broken] using settles numbered json

end Graph

end Flowline
