import Flowline.Proofs.Fields
import Flowline.Proofs.Text.Part
import Flowline.Web.Header
import Mathlib.Data.List.Basic

/-!
# Header blocks that are written and read

What is read off a block can be written as a block and is read off it again: no name or value holds
a character that ends a line, no name holds a colon, and neither has blanks at its ends. So each
header is one line, and a block of such headers is read as the headers that were written.
-/

namespace Flowline

-- ---------------------------------------------------------------------------
-- Lines
-- ---------------------------------------------------------------------------

namespace Text

variable {line rest current cs : List Char}

def IsUnbroken (cs : List Char) : Prop := ∀ c ∈ cs, isLineBreak c = false

theorem linesFrom_append (unbroken : IsUnbroken line) (current rest : List Char) :
    linesFrom current (line ++ rest) = linesFrom (line.reverse ++ current) rest := by
  induction line generalizing current with
  | nil => rfl
  | cons c line ih =>
    obtain ⟨here, further⟩ := List.forall_mem_cons.mp unbroken
    -- a carriage return would end the line together with the feed behind it
    have back : c ≠ '\r' := by
      rintro rfl
      cases here
    rw [List.cons_append, linesFrom, if_neg (by simp [here]), ih further]
    · simp
    · rintro rest rfl
      exact absurd rfl back

theorem linesFrom_feed (unbroken : IsUnbroken line) (rest : List Char) :
    linesFrom [] (line ++ '\n' :: rest) = line :: linesFrom [] rest := by
  rw [linesFrom_append unbroken]
  simp [linesFrom, isLineBreak]

theorem linesFrom_last (unbroken : IsUnbroken line) (given : line ≠ []) :
    linesFrom [] line = [line] := by
  have taken := linesFrom_append unbroken [] []
  have turned : line.reverse ≠ [] := List.reverse_ne_nil_iff.mpr given
  rw [List.append_nil, List.append_nil] at taken
  rw [taken, linesFrom, List.reverse_reverse]
  exact turned

theorem lines_intercalate {texts : List String}
    (whole : ∀ s ∈ texts, s.toList ≠ [] ∧ IsUnbroken s.toList) :
    lines ("\n".intercalate texts) = texts.map String.toList := by
  have feed : "\n".toList = ['\n'] := rfl
  rw [lines, String.toList_intercalate, feed]
  induction texts with
  | nil => rfl
  | cons s texts ih =>
    obtain ⟨⟨given, unbroken⟩, further⟩ := List.forall_mem_cons.mp whole
    cases texts with
    | nil => simpa using linesFrom_last unbroken given
    | cons next texts =>
      have others := ih further
      rw [List.map_cons] at others
      rw [List.map_cons, List.map_cons, List.intercalate_cons_cons, List.append_assoc,
        List.singleton_append, linesFrom_feed unbroken, others]

theorem isUnbroken_of_mem_linesFrom (before : IsUnbroken current)
    (mem : line ∈ linesFrom current cs) : IsUnbroken line := by
  have turned {current : List Char} (before : IsUnbroken current) : IsUnbroken current.reverse :=
    fun c listed => before c (List.mem_reverse.mp listed)
  fun_induction linesFrom current cs with
  | case1 => nomatch mem
  | case2 current =>
    rw [List.mem_singleton.mp mem]
    exact turned before
  | case3 current rest ih =>
    rcases List.mem_cons.mp mem with rfl | mem
    · exact turned before
    · exact ih nofun mem
  | case4 current c rest _ ends ih =>
    rcases List.mem_cons.mp mem with rfl | mem
    · exact turned before
    · exact ih nofun mem
  | case5 current c rest _ inside ih =>
    exact ih (List.forall_mem_cons.mpr ⟨Bool.eq_false_iff.mpr inside, before⟩) mem

theorem isUnbroken_of_mem_lines {s : String} (mem : line ∈ lines s) : IsUnbroken line :=
  isUnbroken_of_mem_linesFrom (List.forall_mem_nil _) mem

-- ---------------------------------------------------------------------------
-- Trimming
-- ---------------------------------------------------------------------------

theorem trimBoth_subset (cs : List Char) : trimBoth cs ⊆ cs :=
  List.Subset.trans (Text.dropEnd_prefix isBlank _).subset (List.dropWhile_sublist isBlank).subset

theorem trimBoth_trimBoth (cs : List Char) : trimBoth (trimBoth cs) = trimBoth cs := by
  refine trimBoth_eq (fun c first => ?_) fun c last => ?_
  · exact eq_false_of_head?_dropWhile (Text.head?_of_prefix (Text.dropEnd_prefix isBlank _) first)
  · exact eq_false_of_getLast?_dropEnd last

end Text

-- ---------------------------------------------------------------------------
-- Headers
-- ---------------------------------------------------------------------------

namespace Web

/-- A text on one line, without blanks at its ends. -/
structure IsTrimmedLine (s : String) : Prop where
  trimmed : Text.trim s = s
  unbroken : Text.IsUnbroken s.toList

structure IsHeader (header : String × String) : Prop where
  named : header.1 ≠ ""
  apart : ':' ∉ header.1.toList
  name : IsTrimmedLine header.1
  value : IsTrimmedLine header.2

def headerLine (header : String × String) : String := header.1 ++ ": " ++ header.2

variable {header : String × String} {headers : List (String × String)} {line : List Char}

theorem toList_headerLine (header : String × String) :
    (headerLine header).toList = header.1.toList ++ ':' :: ' ' :: header.2.toList := by
  simp [headerLine]

theorem IsTrimmedLine.trimBoth_eq {s : String} (inline : IsTrimmedLine s) :
    Text.trimBoth s.toList = s.toList := by
  have same := congrArg String.toList inline.trimmed
  rwa [Text.trim, String.toList_ofList] at same

theorem isTrimmedLine_trimBoth (unbroken : Text.IsUnbroken line) :
    IsTrimmedLine (String.ofList (Text.trimBoth line)) where
  trimmed := by rw [Text.trim, String.toList_ofList, Text.trimBoth_trimBoth]
  unbroken := by
    rw [String.toList_ofList]
    exact fun c mem => unbroken c (Text.trimBoth_subset line mem)

theorem header?_headerLine (proper : IsHeader header) :
    header? (headerLine header).toList = some header := by
  obtain ⟨name, value⟩ := header
  have cut : Text.cut? ':' (name.toList ++ ':' :: ' ' :: value.toList) =
      some (name.toList, ' ' :: value.toList) := Text.cut?_append proper.apart
  have spaced : Text.trimBoth (' ' :: value.toList) = value.toList := proper.value.trimBoth_eq
  have given : name.toList ≠ [] := fun none => proper.named (String.toList_eq_nil_iff.mp none)
  rw [toList_headerLine, header?, cut]
  simp [proper.name.trimBoth_eq, spaced, given]

theorem isHeader_of_header? (unbroken : Text.IsUnbroken line) (read : header? line = some header) :
    IsHeader header := by
  obtain ⟨⟨name, value⟩, cut, read⟩ := Option.bind_eq_some_iff.mp read
  have parts := Text.append_of_cut? cut
  have apart := Text.notMem_of_cut? cut
  have front : Text.IsUnbroken name := fun c mem => unbroken c (by simp [parts, mem])
  have back : Text.IsUnbroken value := fun c mem => unbroken c (by simp [parts, mem])
  dsimp only at read
  split at read
  · cases read
  · next given =>
    cases read
    refine ⟨fun none => given ?_, fun mem => apart ?_, isTrimmedLine_trimBoth front,
      isTrimmedLine_trimBoth back⟩
    · simpa using none
    · exact Text.trimBoth_subset name (by simpa using mem)

theorem isUnbroken_headerLine (proper : IsHeader header) :
    (headerLine header).toList ≠ [] ∧ Text.IsUnbroken (headerLine header).toList := by
  rw [toList_headerLine]
  have behind : Text.IsUnbroken (':' :: ' ' :: header.2.toList) :=
    List.forall_mem_cons.mpr ⟨rfl, List.forall_mem_cons.mpr ⟨rfl, proper.value.unbroken⟩⟩
  exact ⟨by simp, List.forall_mem_append.mpr ⟨proper.name.unbroken, behind⟩⟩

-- ---------------------------------------------------------------------------
-- Blocks
-- ---------------------------------------------------------------------------

theorem parseHeaders_eq (block : String) :
    parseHeaders block = Fields.merge [] ((Text.lines block).filterMap header?) := rfl

theorem parseHeaders_renderHeaders (proper : ∀ header ∈ headers, IsHeader header) :
    parseHeaders (renderHeaders headers) = Fields.merge [] headers := by
  have written : renderHeaders headers = "\n".intercalate (headers.map headerLine) := rfl
  have whole : ∀ s ∈ headers.map headerLine, s.toList ≠ [] ∧ Text.IsUnbroken s.toList :=
    List.forall_mem_map.mpr fun header mem => isUnbroken_headerLine (proper header mem)
  have read : headers.filterMap (fun header => header? (headerLine header).toList) = headers := by
    rw [List.filterMap_congr fun header mem => header?_headerLine (proper header mem),
      List.filterMap_some]
  rw [parseHeaders_eq, written, Text.lines_intercalate whole, List.map_map, List.filterMap_map]
  exact congrArg (Fields.merge []) read

theorem isHeader_of_mem_parseHeaders {block : String} (mem : header ∈ parseHeaders block) :
    IsHeader header := by
  rw [parseHeaders_eq] at mem
  have read := (Fields.mem_of_mem_merge mem).resolve_left (List.not_mem_nil)
  obtain ⟨line, listed, read⟩ := List.mem_filterMap.mp read
  exact isHeader_of_header? (Text.isUnbroken_of_mem_lines listed) read

theorem nodup_keys_parseHeaders (block : String) : (Fields.keys (parseHeaders block)).Nodup := by
  have none : (Fields.keys ([] : Fields String)).Nodup := List.nodup_nil
  exact Fields.nodup_keys_merge none _

/-- A block that is written from headers is read as these, each name at the place of its first and
with the value of its last header. Whatever the block, what is read off it are such headers, so
that it is read again off the block that is written from it. -/
theorem parseHeaders_render :
    (∀ headers : List (String × String), (∀ header ∈ headers, IsHeader header) →
      Fields.keys (parseHeaders (renderHeaders headers)) = (Fields.keys headers).eraseDups ∧
        ∀ name, Fields.find? (parseHeaders (renderHeaders headers)) name =
          (headers.filter (·.1 == name)).getLast?.map (·.2)) ∧
      ∀ block : String, (∀ header ∈ parseHeaders block, IsHeader header) ∧
        parseHeaders (renderHeaders (parseHeaders block)) = parseHeaders block := by
  refine ⟨fun headers proper => ?_, fun block => ?_⟩
  · rw [parseHeaders_renderHeaders proper]
    exact ⟨Fields.keys_merge_nil headers, Fields.find?_merge_nil headers⟩
  · have proper : ∀ header ∈ parseHeaders block, IsHeader header :=
      fun _ => isHeader_of_mem_parseHeaders
    exact ⟨proper, by rw [parseHeaders_renderHeaders proper,
      Fields.merge_nil_of_nodup (nodup_keys_parseHeaders block)]⟩

/-- Colons and blanks inside of values, a value that is empty, and a name that comes again. -/
def repeated : List (String × String) :=
  [("X-Url", "http://a:8080/ b"), ("é", ""), ("X-Url", ": 2"), ("x-url", "3")]

theorem isHeader_repeated : ∀ header ∈ repeated, IsHeader header := by
  have each : ∀ header ∈ repeated, header.1 ≠ "" ∧ ':' ∉ header.1.toList ∧
      (Text.trim header.1 = header.1 ∧ ∀ c ∈ header.1.toList, Text.isLineBreak c = false) ∧
        Text.trim header.2 = header.2 ∧ ∀ c ∈ header.2.toList, Text.isLineBreak c = false := by
    decide +kernel
  intro header mem
  obtain ⟨named, apart, name, value⟩ := each header mem
  exact ⟨named, apart, ⟨name.1, name.2⟩, ⟨value.1, value.2⟩⟩

theorem parseHeaders_render_repeated :
    (∀ header ∈ repeated, IsHeader header) ∧
      Fields.keys (parseHeaders (renderHeaders repeated)) = ["X-Url", "é", "x-url"] ∧
      Fields.find? (parseHeaders (renderHeaders repeated)) "X-Url" = some ": 2" := by
  obtain ⟨keys, values⟩ := parseHeaders_render.1 repeated isHeader_repeated
  refine ⟨isHeader_repeated, keys.trans (by decide), (values "X-Url").trans (by decide)⟩

end Web

end Flowline
