import Flowline.Proofs.Template
import Mathlib.Data.List.TakeWhile

/-!
# How a template is laid out

A template falls into slots and the text between them in exactly one way, if each slot is to be the
leftmost of what is left. Filling a template replaces the slots of this layout one by one and keeps
everything else, so it asks for no other keys and never looks at what it has put in.
-/

namespace Flowline.Template

-- ---------------------------------------------------------------------------
-- Slots as they are written
-- ---------------------------------------------------------------------------

/-- Two braces, blanks, a word, blanks, two braces. -/
structure Slot where
  lead : List Char
  key : List Char
  trail : List Char
  leadBlank : ∀ c ∈ lead, Text.isBlank c = true
  given : key ≠ []
  word : ∀ c ∈ key, Text.isWord c = true
  trailBlank : ∀ c ∈ trail, Text.isBlank c = true

namespace Slot

def source (slot : Slot) : List Char :=
  '\x7b' :: '\x7b' :: (slot.lead ++ (slot.key ++ (slot.trail ++ ['\x7d', '\x7d'])))

variable {slot : Slot}

theorem source_append (slot : Slot) (rest : List Char) :
    slot.source ++ rest = '\x7b' :: '\x7b' ::
      (slot.lead ++ (slot.key ++ (slot.trail ++ '\x7d' :: '\x7d' :: rest))) := by
  simp [source]

theorem length_source (slot : Slot) :
    slot.source.length = slot.lead.length + slot.key.length + slot.trail.length + 4 := by
  simp [source]
  omega

theorem isWord_behind (slot : Slot) (rest : List Char) :
    ∀ c, (slot.trail ++ '\x7d' :: '\x7d' :: rest).head? = some c → Text.isWord c = false := by
  intro c first
  cases trail : slot.trail with
  | nil =>
    rw [trail] at first
    cases first
    decide
  | cons d trailing =>
    have blank := slot.trailBlank d (trail ▸ List.mem_cons_self)
    rw [trail] at first
    cases first
    refine Bool.eq_false_iff.mpr fun word => ?_
    rw [Text.isBlank_of_isWord word] at blank
    cases blank

theorem isBlank_behind (slot : Slot) (rest : List Char) :
    ∀ c, (slot.key ++ rest).head? = some c → Text.isBlank c = false := by
  intro c first
  cases key : slot.key with
  | nil => exact absurd key slot.given
  | cons d letters =>
    rw [key] at first
    cases first
    exact Text.isBlank_of_isWord (slot.word _ (key ▸ List.mem_cons_self))

theorem isBlank_brace (rest : List Char) :
    ∀ c, ('\x7d' :: '\x7d' :: rest).head? = some c → Text.isBlank c = false := by
  intro c first
  cases first
  decide

theorem slot?_source_append (slot : Slot) (rest : List Char) :
    slot? (slot.source ++ rest) = some (slot.key, slot.source.length) := by
  have given : slot.key.isEmpty = false := by simp [slot.given]
  rw [source_append, length_source, slot?]
  simp only [Text.takeWhile_run slot.leadBlank (slot.isBlank_behind _),
    Text.dropWhile_run slot.leadBlank (slot.isBlank_behind _),
    Text.takeWhile_run slot.word (slot.isWord_behind _),
    Text.dropWhile_run slot.word (slot.isWord_behind _),
    Text.takeWhile_run slot.trailBlank (isBlank_brace _),
    Text.dropWhile_run slot.trailBlank (isBlank_brace _), given, Bool.false_eq_true, if_false]

theorem source_append_inj {first second : Slot} {left right : List Char}
    (same : first.source ++ left = second.source ++ right) : first = second ∧ left = right := by
  rw [source_append, source_append, List.cons.injEq, List.cons.injEq] at same
  have inner := same.2.2
  have lead : first.lead = second.lead := by
    have run := Text.takeWhile_run first.leadBlank (first.isBlank_behind
      (first.trail ++ '\x7d' :: '\x7d' :: left))
    rwa [inner, Text.takeWhile_run second.leadBlank (second.isBlank_behind _), eq_comm] at run
  rw [lead, List.append_cancel_left_eq] at inner
  have key : first.key = second.key := by
    have run := Text.takeWhile_run first.word (first.isWord_behind left)
    rwa [inner, Text.takeWhile_run second.word (second.isWord_behind _), eq_comm] at run
  rw [key, List.append_cancel_left_eq] at inner
  have trail : first.trail = second.trail := by
    have run := Text.takeWhile_run first.trailBlank (isBlank_brace left)
    rwa [inner, Text.takeWhile_run second.trailBlank (isBlank_brace _), eq_comm] at run
  rw [trail, List.append_cancel_left_eq] at inner
  cases first
  cases second
  cases lead
  cases key
  cases trail
  exact ⟨rfl, (List.cons.inj (List.cons.inj inner).2).2⟩

end Slot

variable {cs key : List Char}

theorem exists_slot_of_slot? (found : slot? cs = some (key, n)) :
    ∃ (slot : Slot) (rest : List Char), cs = slot.source ++ rest := by
  unfold slot? at found
  split at found
  · rename_i rest
    dsimp only at found
    split at found
    · rename_i behind closed
      split at found
      · cases found
      · rename_i given
        refine ⟨⟨rest.takeWhile Text.isBlank, (rest.dropWhile Text.isBlank).takeWhile Text.isWord,
          ((rest.dropWhile Text.isBlank).dropWhile Text.isWord).takeWhile Text.isBlank,
          fun _ => List.mem_takeWhile_imp, by simpa using given, fun _ => List.mem_takeWhile_imp,
          fun _ => List.mem_takeWhile_imp⟩, behind, ?_⟩
        rw [Slot.source_append, ← closed, List.takeWhile_append_dropWhile,
          List.takeWhile_append_dropWhile, List.takeWhile_append_dropWhile]
    · cases found
  · cases found

theorem slot?_eq_none_iff :
    slot? cs = none ↔ ∀ (slot : Slot) (rest : List Char), cs ≠ slot.source ++ rest := by
  constructor
  · rintro none slot rest rfl
    rw [Slot.slot?_source_append] at none
    cases none
  · intro absent
    cases found : slot? cs with
    | none => rfl
    | some read =>
      obtain ⟨slot, rest, written⟩ := exists_slot_of_slot? found
      exact absurd written (absent slot rest)

-- ---------------------------------------------------------------------------
-- Layouts
-- ---------------------------------------------------------------------------

inductive Layout where
  | last (text : List Char)
  | next (text : List Char) (slot : Slot) (rest : Layout)

namespace Layout

def source : Layout → List Char
  | .last text => text
  | .next text slot rest => text ++ (slot.source ++ rest.source)

/-- No slot begins before the first one, nor before the first one of what is behind it. -/
def IsLeftmost : Layout → Prop
  | .last text => ∀ before (slot : Slot) after, text ≠ before ++ (slot.source ++ after)
  | .next text first rest =>
    (∀ before (slot : Slot) after,
      text ++ (first.source ++ rest.source) = before ++ (slot.source ++ after) →
        text.length ≤ before.length) ∧ rest.IsLeftmost

def keys : Layout → List String
  | .last _ => []
  | .next _ slot rest => String.ofList slot.key :: rest.keys

def filled (lookup : String → Option Value) : Layout → List Char
  | .last text => text
  | .next text slot rest =>
    text ++ (match lookup (String.ofList slot.key) with
      | some v => v.inlineText.toList
      | none => slot.source) ++ rest.filled lookup

def push (c : Char) : Layout → Layout
  | .last text => .last (c :: text)
  | .next text slot rest => .next (c :: text) slot rest

variable {layout other : Layout} {lookup : String → Option Value}

theorem source_push (c : Char) (layout : Layout) : (layout.push c).source = c :: layout.source := by
  cases layout <;> rfl

theorem IsLeftmost.push (leftmost : layout.IsLeftmost) (none : slot? (c :: layout.source) = none) :
    (layout.push c).IsLeftmost := by
  rw [slot?_eq_none_iff] at none
  cases layout with
  | last text =>
    intro before slot after written
    cases before with
    | nil => exact none slot after written
    | cons d before => exact leftmost before slot after (List.cons.inj written).2
  | next text first rest =>
    refine ⟨fun before slot after written => ?_, leftmost.2⟩
    cases before with
    | nil => exact absurd written (none slot after)
    | cons d before =>
      exact Nat.succ_le_succ (leftmost.1 before slot after (List.cons.inj written).2)

/-- Every text has a layout: the slots that are found from the left. -/
theorem exists_isLeftmost (cs : List Char) :
    ∃ layout : Layout, layout.source = cs ∧ layout.IsLeftmost := by
  fun_induction pieces cs with
  | case1 =>
    refine ⟨.last [], rfl, fun before slot after written => ?_⟩
    have length := congrArg List.length written
    simp only [List.length_nil, List.length_append, Slot.length_source] at length
    omega
  | case2 c rest key n found ih =>
    obtain ⟨layout, source, leftmost⟩ := ih
    obtain ⟨slot, behind, written⟩ := exists_slot_of_slot? found
    rw [written, Slot.slot?_source_append] at found
    cases found
    rw [written, List.drop_left] at source
    refine ⟨.next [] slot layout, ?_, fun before slot after _ => Nat.zero_le _, leftmost⟩
    rw [written, ← source]
    rfl
  | case3 c rest none ih =>
    obtain ⟨layout, rfl, leftmost⟩ := ih
    exact ⟨layout.push c, layout.source_push c, leftmost.push none⟩

theorem IsLeftmost.unique (leftmost : layout.IsLeftmost) (likewise : other.IsLeftmost)
    (same : layout.source = other.source) : layout = other := by
  induction layout generalizing other with
  | last text =>
    cases other with
    | last => exact congrArg Layout.last same
    | next before slot after => exact absurd same (leftmost before slot after.source)
  | next text slot rest ih =>
    cases other with
    | last => exact absurd same.symm (likewise text slot rest.source)
    | next before found after =>
      have length : text.length = before.length := Nat.le_antisymm
        (leftmost.1 before found after.source same) (likewise.1 text slot rest.source same.symm)
      obtain ⟨rfl, slots⟩ := List.append_inj same length
      obtain ⟨rfl, rests⟩ := Slot.source_append_inj slots
      rw [ih leftmost.2 likewise.2 rests]

-- ---------------------------------------------------------------------------
-- Filling a layout
-- ---------------------------------------------------------------------------

theorem pieces_text {text rest : List Char}
    (none : ∀ before (slot : Slot) after, text ++ rest = before ++ (slot.source ++ after) →
      text.length ≤ before.length) :
    pieces (text ++ rest) = text.map .char ++ pieces rest := by
  induction text with
  | nil => rfl
  | cons c text ih =>
    have absent : slot? (c :: (text ++ rest)) = .none := by
      refine slot?_eq_none_iff.mpr fun slot after written => ?_
      exact Nat.not_succ_le_zero _ (none [] slot after written)
    have further := ih fun before slot after written =>
      Nat.le_of_succ_le_succ (none (c :: before) slot after (congrArg (List.cons c) written))
    rw [List.cons_append, pieces]
    split
    · rename_i found
      rw [absent] at found
      cases found
    · rw [further, List.map_cons, List.cons_append]

theorem pieces_slot_append (slot : Slot) (rest : List Char) :
    pieces (slot.source ++ rest) = .slot slot.key slot.source :: pieces rest := by
  have front : slot.source ++ rest = '\x7b' :: (slot.source ++ rest).tail := by
    rw [Slot.source_append, List.tail_cons]
  have found := slot.slot?_source_append rest
  rw [front] at found ⊢
  rw [pieces]
  split
  · rename_i read
    rw [found] at read
    cases read
    rw [← front, List.take_left, List.drop_left]
  · rename_i absent
    rw [found] at absent
    cases absent

theorem mapM_fill?_text (lookup : String → Option Value) (text : List Char) (rest : List Piece) :
    (text.map Piece.char ++ rest).mapM (Piece.fill? lookup) =
      (rest.mapM (Piece.fill? lookup)).map (text.map (fun c => [c]) ++ ·) := by
  rw [List.mapM_append, mapM_fill?_char]
  cases rest.mapM (Piece.fill? lookup) <;> rfl

theorem flatten_map_singleton (text : List Char) : (text.map fun c => [c]).flatten = text := by
  rw [← List.flatMap_def, List.flatMap_singleton']

theorem IsLeftmost.mapM_fill? (leftmost : layout.IsLeftmost)
    (told : ∀ key ∈ layout.keys, ∀ v, lookup key = some v → v.fits = true) :
    ((pieces layout.source).mapM (Piece.fill? lookup)).map List.flatten =
      some (layout.filled lookup) := by
  induction layout with
  | last text =>
    have whole := @pieces_text text [] fun before slot after written =>
      absurd (List.append_nil text ▸ written) (leftmost before slot after)
    rw [List.append_nil] at whole
    rw [source, whole, mapM_fill?_text]
    simp [pieces, flatten_map_singleton, filled]
  | next text slot rest ih =>
    obtain ⟨here, further⟩ := List.forall_mem_cons.mp told
    obtain ⟨parts, filling, flat⟩ := Option.map_eq_some_iff.mp (ih leftmost.2 further)
    rw [source, pieces_text leftmost.1, pieces_slot_append, mapM_fill?_text, List.mapM_cons,
      filling]
    cases known : lookup (String.ofList slot.key) with
    | none => simp [Piece.fill?, known, filled, flat, flatten_map_singleton]
    | some v =>
      simp [Piece.fill?, known, Value.inline?, here v known, filled, flat, flatten_map_singleton]

theorem filled_congr {lookup other : String → Option Value}
    (alike : ∀ key ∈ layout.keys, other key = lookup key) :
    layout.filled other = layout.filled lookup := by
  induction layout with
  | last => rfl
  | next text slot rest ih =>
    obtain ⟨here, further⟩ := List.forall_mem_cons.mp alike
    rw [filled, filled, here, ih further]

theorem filled_of_unknown (unknown : ∀ key ∈ layout.keys, lookup key = none) :
    layout.filled lookup = layout.source := by
  induction layout with
  | last => rfl
  | next text slot rest ih =>
    obtain ⟨here, further⟩ := List.forall_mem_cons.mp unknown
    rw [filled, here, ih further, List.append_assoc, source]

end Layout

theorem fill?_of_isLeftmost {layout : Layout} {template : String}
    (source : layout.source = template.toList) (leftmost : layout.IsLeftmost)
    (told : ∀ key ∈ layout.keys, ∀ v, lookup key = some v → v.fits = true) :
    fill? lookup template = some (String.ofList (layout.filled lookup)) := by
  obtain ⟨parts, filling, flat⟩ := Option.map_eq_some_iff.mp (leftmost.mapM_fill? told)
  rw [fill?, ← source, filling, Option.map_some, flat]

/-- A template has exactly one layout with leftmost slots, and filling it puts the texts of the
known values in place of their slots and leaves all else as it is. So the outcome depends on the
keys of the slots alone, and a template without a known key stays the same. -/
theorem exists_layout_filled (template : String) (lookup : String → Option Value)
    (told : ∀ key v, lookup key = some v → v.inline?.isSome = true) :
    ∃ layout : Layout, (layout.source = template.toList ∧ layout.IsLeftmost) ∧
      (∀ other : Layout, other.source = template.toList → other.IsLeftmost → other = layout) ∧
      fill? lookup template = some (String.ofList (layout.filled lookup)) ∧
      (∀ other, (∀ key ∈ layout.keys, other key = lookup key) →
        fill? other template = fill? lookup template) ∧
      ((∀ key ∈ layout.keys, lookup key = none) → fill? lookup template = some template) := by
  obtain ⟨layout, source, leftmost⟩ := Layout.exists_isLeftmost template.toList
  have fits : ∀ key v, lookup key = some v → v.fits = true := by
    intro key v known
    simpa [Value.inline?] using told key v known
  have filled := fill?_of_isLeftmost source leftmost fun key _ => fits key
  refine ⟨layout, ⟨source, leftmost⟩, ?_, filled, ?_, ?_⟩
  · intro other written likewise
    exact likewise.unique leftmost (written.trans source.symm)
  · intro other alike
    have likewise : ∀ key ∈ layout.keys, ∀ v, other key = some v → v.fits = true := by
      intro key listed v known
      exact fits key v (alike key listed ▸ known)
    rw [filled, fill?_of_isLeftmost source leftmost likewise, Layout.filled_congr alike]
  · intro unknown
    rw [filled, Layout.filled_of_unknown unknown, source, String.ofList_toList]

def slotted (key : String) : Option Value :=
  if key = "a" then some (.text "\x7b\x7bb\x7d\x7d") else none

/-- A brace too many stands before the first slot, the slot that is put in stays a slot, and the key
of the last one is unknown. -/
theorem exists_layout_filled_slotted :
    (∀ key v, slotted key = some v → v.inline?.isSome = true) ∧
      ∃ layout : Layout, layout.source = "\x7b\x7b\x7ba\x7d\x7d\x7b\x7b b \x7d\x7d".toList ∧
        layout.IsLeftmost ∧
        String.ofList (layout.filled slotted) =
          "\x7b\x7b\x7bb\x7d\x7d\x7b\x7b b \x7d\x7d" := by
  have told : ∀ key v, slotted key = some v → v.inline?.isSome = true := by
    intro key v known
    unfold slotted at known
    split at known <;> cases known
    rfl
  obtain ⟨layout, ⟨source, leftmost⟩, -, filled, -⟩ :=
    exists_layout_filled "\x7b\x7b\x7ba\x7d\x7d\x7b\x7b b \x7d\x7d" slotted told
  refine ⟨told, layout, source, leftmost, Option.some.inj (filled.symm.trans ?_)⟩
  decide +kernel

end Flowline.Template
