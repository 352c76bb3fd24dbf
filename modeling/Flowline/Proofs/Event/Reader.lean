import Flowline.Event.Frame
import Flowline.Proofs.Json.Reader
import Flowline.Proofs.Json.Writer
import Flowline.Text.Part
import Mathlib.Data.List.Forall2

/-!
# Reading event streams

A client reads a stream of events line by line. A line ends with a carriage return, a line feed or
both. It is a field with a value, and an empty line completes the message whose data has come in
since the one before. The frames of events, one behind the other, are read as these events: neither
a name nor a payload can end a line or an event early.
-/

namespace Flowline.Event

-- ---------------------------------------------------------------------------
-- The reader
-- ---------------------------------------------------------------------------

def lines : List Char → List (List Char)
  | [] => []
  | '\r' :: '\n' :: rest => [] :: lines rest
  | c :: rest =>
    if c = '\r' ∨ c = '\n' then [] :: lines rest
    else match lines rest with
      | [] => []
      | line :: others => (c :: line) :: others

/-- The name and the value of a field, which a colon and perhaps a space stand between. A line
without a colon is a name only, and a comment has an empty name. -/
def field (line : List Char) : List Char × List Char :=
  match Text.cut? ':' line with
  | none => (line, [])
  | some (name, ' ' :: value) => (name, value)
  | some (name, value) => (name, value)

structure Message where
  name : Option String
  data : String
  deriving DecidableEq, Repr

structure Draft where
  name : List Char := []
  data : List (List Char) := []

namespace Draft

def add (draft : Draft) (line : List Char) : Draft :=
  let (name, value) := field line
  if name = "event".toList then { draft with name := value }
  else if name = "data".toList then { draft with data := draft.data ++ [value] }
  else draft

def message? (draft : Draft) : Option Message :=
  if draft.data.isEmpty then none
  else some {
    name := if draft.name.isEmpty then none else some (String.ofList draft.name)
    data := "\n".intercalate (draft.data.map String.ofList) }

def messages (draft : Draft) : List (List Char) → List Message
  | [] => []
  | [] :: rest => draft.message?.toList ++ messages {} rest
  | line :: rest => messages (draft.add line) rest

end Draft

def readMessages (stream : String) : List Message := Draft.messages {} (lines stream.toList)

-- ---------------------------------------------------------------------------
-- Lines
-- ---------------------------------------------------------------------------

def IsLine (cs : List Char) : Prop := '\r' ∉ cs ∧ '\n' ∉ cs

inductive EndsLine : List Char → List Char → Prop
  | feed : EndsLine ['\n'] rest
  | both : EndsLine ['\r', '\n'] rest
  | back (alone : rest.head? ≠ some '\n') : EndsLine ['\r'] rest

theorem lines_append {line mark rest : List Char} (whole : IsLine line)
    (ends : EndsLine mark rest) : lines (line ++ (mark ++ rest)) = line :: lines rest := by
  obtain ⟨back, feed⟩ := whole
  induction line with
  | nil =>
    cases ends with
    | feed => simp [lines]
    | both => simp [lines]
    | back alone => cases rest <;> simp_all [lines]
  | cons c line ih =>
    simp only [List.mem_cons, not_or] at back feed
    have others := ih back.2 feed.2
    simp [lines, Ne.symm back.1, Ne.symm feed.1, others]

example : readMessages "event: a\r\ndata: 1\rdata:2\r\r: note\nid\n\ndata:  3\n\ndata: 4\n" =
    [⟨some "a", "1\n2"⟩, ⟨none, " 3"⟩] := by decide

-- ---------------------------------------------------------------------------
-- Frames
-- ---------------------------------------------------------------------------

/-- The name can stand on a line, and the payload can be read back. -/
structure IsProper (event : Event) : Prop where
  name : ∀ name, event.name = some name → name ≠ "" ∧ IsLine name.toList
  payload : event.payload.IsReadable

theorem isLine_of_areInLine {cs : List Char} (inside : Text.AreInLine cs) : IsLine cs :=
  ⟨fun h => absurd (inside _ h) (by decide), fun h => absurd (inside _ h) (by decide)⟩

theorem isLine_append {front back : List Char} (first : IsLine front) (second : IsLine back) :
    IsLine (front ++ back) := by
  simp [IsLine, first.1, first.2, second.1, second.2]

theorem isLine_write (payload : Value) : IsLine (Json.write .spaced payload) := by
  have marks : Json.Separators.spaced.AreInLine :=
    ⟨Text.ArePlain.areInLine (by decide), Text.ArePlain.areInLine (by decide)⟩
  exact isLine_of_areInLine (Json.areInLine_write marks payload)

/-- A frame has a line of data for each line of its payload, of which there is only one. -/
theorem frameText_eq (event : Event) : event.frameText = String.ofList (nameLine event.name ++
    ((Json.write .spaced event.payload).splitOn '\n').flatMap
      (fun line => "data: ".toList ++ line ++ ['\n']) ++ ['\n']) := by
  have single := List.splitOn_eq_singleton (isLine_write event.payload).2
  simp [frameText, single]

namespace Draft

variable {draft : Draft}

theorem add_event (value : List Char) :
    draft.add ("event: ".toList ++ value) = { draft with name := value } := rfl

theorem add_data (value : List Char) :
    draft.add ("data: ".toList ++ value) = { draft with data := draft.data ++ [value] } := rfl

theorem messages_blank (rest : List (List Char)) :
    draft.messages ([] :: rest) = draft.message?.toList ++ messages {} rest := rfl

theorem messages_line {line : List Char} (given : line ≠ []) (rest : List (List Char)) :
    draft.messages (line :: rest) = (draft.add line).messages rest := by
  cases line with
  | nil => exact absurd rfl given
  | cons => rfl

theorem messages_data (name value : List Char) (rest : List (List Char)) :
    messages { name := name } (("data: ".toList ++ value) :: [] :: rest) =
      ⟨if name.isEmpty then none else some (String.ofList name), String.ofList value⟩ ::
        messages {} rest := by
  rw [messages_line (by simp), messages_blank, add_data]
  simp [message?]

end Draft

theorem lines_payload (payload : Value) (rest : List Char) :
    lines ("data: ".toList ++ Json.write .spaced payload ++ ['\n', '\n'] ++ rest) =
      ("data: ".toList ++ Json.write .spaced payload) :: [] :: lines rest := by
  have line : IsLine ("data: ".toList ++ Json.write .spaced payload) :=
    isLine_append ⟨by decide, by decide⟩ (isLine_write payload)
  have blank : lines ('\n' :: rest) = [] :: lines rest := by simp [lines]
  simpa [blank] using lines_append line (.feed : EndsLine ['\n'] ('\n' :: rest))

def message (event : Event) : Message :=
  ⟨event.name, String.ofList (Json.write .spaced event.payload)⟩

/-- A frame is read as one message, and nothing of it is left. -/
theorem messages_frameText {event : Event} (proper : event.IsProper) (rest : List Char) :
    Draft.messages {} (lines (event.frameText.toList ++ rest)) =
      event.message :: Draft.messages {} (lines rest) := by
  obtain ⟨name, payload⟩ := event
  have framed : (Event.frameText ⟨name, payload⟩).toList ++ rest = nameLine name ++
      ("data: ".toList ++ Json.write .spaced payload ++ ['\n', '\n'] ++ rest) := by
    simp [frameText]
  rw [framed]
  cases name with
  | none =>
    rw [nameLine, List.nil_append, lines_payload]
    exact Draft.messages_data [] _ _
  | some name =>
    obtain ⟨given, line⟩ := proper.name name rfl
    have named : nameLine (some name) = ("event: ".toList ++ name.toList) ++ ['\n'] := by
      simp [nameLine, given]
    have whole : IsLine ("event: ".toList ++ name.toList) :=
      isLine_append ⟨by decide, by decide⟩ line
    rw [named, List.append_assoc, lines_append whole .feed, lines_payload,
      Draft.messages_line (by simp), Draft.add_event, Draft.messages_data]
    simp [message, given]

-- ---------------------------------------------------------------------------
-- Streams
-- ---------------------------------------------------------------------------

def Tells (message : Message) (event : Event) : Prop :=
  message.name = event.name ∧ Json.read message.data = .ok event.payload

theorem tells_message {event : Event} (proper : event.IsProper) : Tells event.message event :=
  ⟨rfl, Json.read_write Json.areMarks_spaced proper.payload⟩

variable {events : List Event}

theorem mapM_frame? (proper : ∀ event ∈ events, event.IsProper) :
    events.mapM frame? = some (events.map frameText) := by
  induction events with
  | nil => rfl
  | cons event events ih =>
    obtain ⟨first, others⟩ := List.forall_mem_cons.mp proper
    have framed : event.frame? = some event.frameText := if_pos first.payload.fits
    simp [framed, ih others]

theorem readMessages_frames (proper : ∀ event ∈ events, event.IsProper) :
    readMessages (String.join (events.map frameText)) = events.map message := by
  rw [readMessages]
  induction events with
  | nil => rfl
  | cons event events ih =>
    obtain ⟨first, others⟩ := List.forall_mem_cons.mp proper
    rw [List.map_cons, String.join_cons, String.toList_append, messages_frameText first,
      ih others, List.map_cons]

/-- The frames of events, one behind the other, are read as these events in their order. -/
theorem readMessages_join (proper : ∀ event ∈ events, event.IsProper) :
    ∃ frames, events.mapM frame? = some frames ∧
      List.Forall₂ Tells (readMessages (String.join frames)) events := by
  refine ⟨_, mapM_frame? proper, ?_⟩
  rw [readMessages_frames proper, List.forall₂_map_left_iff, List.forall₂_same]
  exact fun event h => tells_message (proper event h)

/-- Payloads with what could be taken for the end of a line or of an event, and names with what
could be taken for a field. -/
def tricky : List Event :=
  [⟨some "trace", .record
      [("a\n\ndata: 1", .list [.null, .bool true, .int (-12), .text "\r\n\r\n"]),
       ("\x00\u2028\"\\", .record [("x", .float 0.1), ("y", .float (-2.5e-7))]),
       ("", .list [])]⟩,
   ⟨none, .text "event: end\n\n"⟩,
   ⟨some " data: a:b", .record [("x", .float 1e22), ("x ", .float (-0.0))]⟩]

theorem isProper_tricky : ∀ event ∈ tricky, event.IsProper := by
  have small : integerFits (-12) = true := by decide +kernel
  have floats : ∀ x ∈ [0.1, -2.5e-7, 1e22, -0.0], Decimal.ReadsBack x := by decide +kernel
  simp only [List.forall_mem_cons] at floats
  have named (name : String) (given : name ≠ "" ∧ IsLine name.toList) :
      ∀ other, some name = some other → other ≠ "" ∧ IsLine other.toList := by
    rintro other ⟨⟩
    exact given
  simp only [tricky, List.forall_mem_cons]
  refine ⟨⟨named "trace" ⟨by decide, by decide, by decide⟩, ?_⟩, ⟨nofun, ?_⟩,
    ⟨named " data: a:b" ⟨by decide, by decide, by decide⟩, ?_⟩, nofun⟩
  all_goals simp [Value.IsReadable, Value.AllReadable, Value.FieldsReadable, Fields.keys, small,
    floats]

theorem readMessages_join_tricky : (∀ event ∈ tricky, event.IsProper) ∧
    ∃ frames, tricky.mapM frame? = some frames ∧
      List.Forall₂ Tells (readMessages (String.join frames)) tricky :=
  ⟨isProper_tricky, readMessages_join isProper_tricky⟩

end Flowline.Event
