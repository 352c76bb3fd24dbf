import Flowline.Proofs.Graph.Load

/-!
# The kind of a loaded node

A node that gives no configuration outright takes its kind from the kind in its data and from its
type, and its configuration from its data; whatever else is submitted with it changes neither. Its
kind can be read off the name of it, so that no custom node is called like a known kind. A
configuration that is given outright names its kind itself.
-/

namespace Flowline

-- ---------------------------------------------------------------------------
-- What is accepted
-- ---------------------------------------------------------------------------

namespace Loaded

@[simp] theorem map_eq_accepted_iff {f : α → β} {part : Loaded α} :
    part.map f = .accepted b ↔ ∃ a, part = .accepted a ∧ f a = b := by
  cases part <;> simp [map]

@[simp] theorem seq_eq_accepted_iff {f : Loaded (α → β)} {part : Loaded α} :
    f <*> part = .accepted b ↔ ∃ g a, f = .accepted g ∧ part = .accepted a ∧ g a = b := by
  cases f <;> cases part <;> simp [Seq.seq, apply, map]

@[simp] theorem under_eq_accepted_iff {step : PlaceStep} {part : Loaded α} :
    part.under step = .accepted a ↔ part = .accepted a := by
  cases part <;> simp [under]

theorem andThen_eq_accepted_iff {part : Loaded α} {next : α → Loaded β} :
    part.andThen next = .accepted b ↔ ∃ a, part = .accepted a ∧ next a = .accepted b := by
  cases part <;> simp [andThen]

end Loaded

-- ---------------------------------------------------------------------------
-- Kinds and their names
-- ---------------------------------------------------------------------------

theorem Kind.ofName_name (kind : Kind) : ofName kind.name = kind := by
  cases kind <;> decide +kernel

namespace Config

variable {fields data : Fields Value} {config : Config} {name : String} {kind : Kind}

theorem kind_of_loadAs (loaded : loadAs kind fields = .accepted config) : config.kind = kind := by
  cases kind with
  | start | output =>
    cases loaded
    rfl
  | llm | dbQuery | apiCall | condition =>
    simp only [loadAs, Loaded.fmap_eq_map, Loaded.map_eq_accepted_iff] at loaded
    obtain ⟨settings, -, rfl⟩ := loaded
    rfl
  | custom =>
    simp only [loadAs, Loaded.fmap_eq_map, Loaded.seq_eq_accepted_iff,
      Loaded.map_eq_accepted_iff] at loaded
    obtain ⟨_, raw, ⟨name, -, rfl⟩, -, rfl⟩ := loaded
    rfl

theorem kind_of_ofData (loaded : ofData name data = .accepted config) :
    config.kind = Kind.ofName name := by
  rw [ofData] at loaded
  split at loaded
  · rename_i custom
    cases loaded
    exact custom.symm
  · rw [Loaded.under_eq_accepted_iff] at loaded
    exact kind_of_loadAs loaded

theorem ofData_eq_loadAs (known : Kind.ofName name ≠ .custom) :
    ofData name data = (loadAs (Kind.ofName name) data).under (.key (Kind.ofName name).name) := by
  rw [ofData]
  split
  · exact absurd ‹_› known
  · rfl

theorem eq_custom_of_ofData (loaded : ofData name data = .accepted (.custom called raw)) :
    called = name ∧ raw = data := by
  have custom : Kind.ofName name = .custom := (kind_of_ofData loaded).symm
  simp only [ofData, custom, Loaded.accepted.injEq, Config.custom.injEq] at loaded
  exact ⟨loaded.1.symm, loaded.2.symm⟩

theorem kind_of_load (loaded : load given = .accepted config) :
    ∃ settings, given = .record settings ∧
      Fields.find? settings "kind" = some (.text config.kind.name) := by
  cases given with
  | record settings =>
    refine ⟨settings, rfl, ?_⟩
    rw [load] at loaded
    split at loaded
    · cases loaded
    · rename_i name tag
      split at loaded
      · rename_i kind named
        rw [Loaded.under_eq_accepted_iff] at loaded
        rw [tag, kind_of_loadAs loaded, ← Kind.ofName?_eq_some_iff.mp named]
      · cases loaded
    · cases loaded
  | _ => cases loaded

end Config

-- ---------------------------------------------------------------------------
-- Nodes
-- ---------------------------------------------------------------------------

namespace Node

variable {fields : Fields Value} {node : Node}

def givenType (fields : Fields Value) : Value := (Fields.find? fields "type").getD .null

/-- The data of a submitted node. What is no record has no fields. -/
def givenData (fields : Fields Value) : Fields Value :=
  match Fields.find? fields "data" with
  | some (.record data) => data
  | _ => []

theorem givenData_eq (has : HasData fields given) : givenData fields = given := by
  unfold givenData
  cases has with
  | record found => rw [found]
  | empty void =>
    split
    · rename_i found
      rw [found] at void
      simpa [Value.truthy] using void
    · rfl

theorem ofName_kindName (loaded : Config.ofData name given = .accepted node.config) :
    Kind.ofName node.kindName = node.kind := by
  have kind := Config.kind_of_ofData loaded
  unfold kindName
  split
  · rename_i called raw custom
    rw [custom] at loaded
    rw [(Config.eq_custom_of_ofData loaded).1, ← kind]
    rfl
  · exact Kind.ofName_name _

theorem loadFields_eq_accepted_iff {data : Loaded (Fields Value)} {config : Loaded Config} :
    loadFields fields data config = .accepted node ↔
      Loaded.required fields "id" Value.readText = .accepted node.id ∧
      Loaded.field fields ["type"] "" Value.readText = .accepted node.type ∧
      data = .accepted node.data ∧ config = .accepted node.config := by
  obtain ⟨id, type, given, settings⟩ := node
  simp only [loadFields, Loaded.fmap_eq_map, Loaded.seq_eq_accepted_iff,
    Loaded.map_eq_accepted_iff, Loaded.under_eq_accepted_iff]
  constructor
  · rintro ⟨_, _, ⟨_, _, ⟨_, _, ⟨_, read, rfl⟩, typed, rfl⟩, has, rfl⟩, configured, ⟨⟩⟩
    exact ⟨read, typed, has, configured⟩
  · rintro ⟨read, typed, has, configured⟩
    exact ⟨_, _, ⟨_, _, ⟨_, _, ⟨_, read, rfl⟩, typed, rfl⟩, has, rfl⟩, configured, rfl⟩

theorem data_of_field {data : Fields Value}
    (has : Loaded.field fields ["data"] [] Value.readRecord = .accepted data) :
    Fields.find? fields "data" = none ∨ Fields.find? fields "data" = some (.record data) := by
  cases found : Fields.find? fields "data" with
  | none => exact .inl rfl
  | some v =>
    right
    simp only [Loaded.field, Loaded.firstOf?, found, Loaded.under_eq_accepted_iff] at has
    cases v with
    | record fields => rw [Loaded.accepted.inj has]
    | _ => cases has

/-- A node that gives no configuration outright is configured by its data. -/
theorem config_of_load (implied : Fields.find? fields "config" = none)
    (accepted : load (.record fields) = .accepted node) :
    HasData fields node.data ∧
      ∃ name, Kind.resolveName (givenType fields) (givenData fields) = .ok name ∧
        Config.ofData name (givenData fields) = .accepted node.config := by
  simp only [load, implied, Loaded.andThen_eq_accepted_iff, loadData_eq_accepted_iff,
    loadName_eq_accepted_iff, loadFields_eq_accepted_iff] at accepted
  obtain ⟨data, has, name, named, -, -, same, configured⟩ := accepted
  rw [givenData_eq has]
  exact ⟨Loaded.accepted.inj same ▸ has, name, named, configured⟩

/-- A node that gives no configuration outright has the kind that the kind in its data or else its
type names, in any letter case. Its data is a record, or empty because it is left out or counts as
no, and its configuration is that of the data: neither another key nor, with the kind as it is,
another type changes it, except for the name that a custom node keeps. The name of the kind tells
the kind. A configuration that is given outright is taken instead, with the kind that it names; then
the data has to be a record, if there is any. -/
theorem load_kind (accepted : load (.record fields) = .accepted node) :
    (Fields.find? fields "config" = none →
      (HasData fields node.data ∧ node.data = givenData fields) ∧
      (∃ name, Kind.resolveName (givenType fields) (givenData fields) = .ok name ∧
        node.kind = Kind.ofName name ∧
        Config.ofData name (givenData fields) = .accepted node.config) ∧
      Kind.ofName node.kindName = node.kind ∧
      ∀ others other, Fields.find? others "config" = none →
        load (.record others) = .accepted other → givenData others = givenData fields →
        (givenType others = givenType fields ∨ other.kind = node.kind ∧ node.kind ≠ .custom) →
        other.config = node.config) ∧
    ∀ given, Fields.find? fields "config" = some given →
      (∃ settings, given = .record settings ∧
        Fields.find? settings "kind" = some (.text node.kind.name)) ∧
      Config.load given = .accepted node.config ∧
      (Fields.find? fields "data" = none ∨
        Fields.find? fields "data" = some (.record node.data)) := by
  constructor
  · intro implied
    obtain ⟨has, name, named, configured⟩ := config_of_load implied accepted
    have kind : node.kind = Kind.ofName name := Config.kind_of_ofData configured
    refine ⟨⟨has, (givenData_eq has).symm⟩, ⟨name, named, kind, configured⟩,
      ofName_kindName configured, ?_⟩
    intro others other implied' accepted' sameData alike
    obtain ⟨-, name', named', configured'⟩ := config_of_load implied' accepted'
    rw [sameData] at named' configured'
    rcases alike with sameType | ⟨sameKind, known⟩
    · rw [sameType, named] at named'
      obtain rfl := Except.ok.inj named'
      exact Loaded.accepted.inj (configured'.symm.trans configured)
    · have kind' : other.kind = Kind.ofName name' := Config.kind_of_ofData configured'
      rw [Config.ofData_eq_loadAs (kind ▸ known)] at configured
      rw [Config.ofData_eq_loadAs (kind' ▸ sameKind ▸ known), ← kind', sameKind,
        kind] at configured'
      exact Loaded.accepted.inj (configured'.symm.trans configured)
  · intro given outright
    simp only [load, outright, loadFields_eq_accepted_iff] at accepted
    obtain ⟨-, -, has, configured⟩ := accepted
    exact ⟨Config.kind_of_load configured, configured, data_of_field has⟩

def misleading : Fields Value :=
  [("id", .text "q"), ("type", .text "start"), ("kind", .text "llm"), ("kind_name", .text "output"),
   ("data", .record [("kind", .text " dbQUERY "), ("sqlQuery", .text "SELECT 1")])]

/-- Neither the type nor the keys beside the data count. -/
theorem load_kind_misleading : ∃ node, load (.record misleading) = .accepted node ∧
    node.kind = .dbQuery ∧ HasData misleading node.data ∧
    Kind.ofName node.kindName = .dbQuery := by
  have accepted : load (.record misleading) =
      .accepted ⟨"q", "start", givenData misleading, .dbQuery "SELECT 1"⟩ := by rfl
  obtain ⟨byData, -⟩ := load_kind accepted
  obtain ⟨⟨has, -⟩, -, told, -⟩ := byData (by decide)
  exact ⟨_, accepted, rfl, has, told⟩

def outright : Fields Value :=
  [("id", .text "a"), ("type", .text "start"), ("config", .record [("kind", .text "output")])]

def disguised : Fields Value :=
  [("id", .text "a"), ("config", .record [("kind", .text "custom"), ("name", .text "llm")])]

def listed : Fields Value := [("id", .text "a"), ("type", .text "start"), ("data", .list [])]

/-- An empty list passes for data; and with a configuration given outright, type and data tell
neither the kind nor the configuration, and a custom node may bear the name of a known kind. -/
theorem load_kind_fails :
    (¬ ∀ fields node, (Value.record fields).IsJson → load (.record fields) = .accepted node →
      (Fields.find? fields "data").getD .null = .null ∨
        ∃ data, Fields.find? fields "data" = some (.record data)) ∧
    (¬ ∀ fields node, (Value.record fields).IsJson → load (.record fields) = .accepted node →
      ∃ name, Kind.resolveName (givenType fields) (givenData fields) = .ok name ∧
        node.kind = Kind.ofName name) ∧
    (¬ ∀ fields node others other, (Value.record fields).IsJson → (Value.record others).IsJson →
      load (.record fields) = .accepted node → load (.record others) = .accepted other →
      givenType others = givenType fields → givenData others = givenData fields →
      other.config = node.config) ∧
    ¬ ∀ fields node, (Value.record fields).IsJson → load (.record fields) = .accepted node →
      Kind.ofName node.kindName = node.kind := by
  have empty : load (.record listed) = .accepted ⟨"a", "start", [], .start⟩ := by rfl
  have jsonEmpty : (Value.record listed).IsJson := by
    simp [listed, Value.IsJson, Value.FieldsJson, Value.AllJson]
  have given : load (.record outright) = .accepted ⟨"a", "start", [], .output⟩ := by rfl
  have jsonGiven : (Value.record outright).IsJson := by
    simp [outright, Value.IsJson, Value.FieldsJson]
  refine ⟨?data, ?kind, ?config, ?name⟩
  case data =>
    intro tells
    rcases tells listed _ jsonEmpty empty with absent | ⟨data, found⟩
    · cases absent
    · cases found
  case kind =>
    intro tells
    obtain ⟨name, named, kind⟩ := tells outright _ jsonGiven given
    have start : Kind.resolveName (givenType outright) (givenData outright) = .ok "start" := by rfl
    obtain rfl := Except.ok.inj (start.symm.trans named)
    exact absurd kind (by decide +kernel)
  case config =>
    intro tells
    cases tells outright _ listed _ jsonGiven jsonEmpty given empty rfl rfl
  case name =>
    intro tells
    have accepted : load (.record disguised) = .accepted ⟨"a", "", [], .custom "llm" []⟩ := by rfl
    have json : (Value.record disguised).IsJson := by
      simp [disguised, Value.IsJson, Value.FieldsJson]
    exact absurd (tells disguised _ json accepted) (by decide +kernel)

end Node
end Flowline
