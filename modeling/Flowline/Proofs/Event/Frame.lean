import Flowline.Event.Frame
import Mathlib.Data.List.Basic

/-!
# Names in frames

The name of an event can be read off its frame: it stands on the first line. A frame without a name
opens with its payload.
-/

namespace Flowline

theorem Text.line_prefix_iff {line first rest : List Char} (hl : '\n' ∉ line)
    (hf : '\n' ∉ first) : line ++ ['\n'] <+: first ++ '\n' :: rest ↔ line = first := by
  induction line generalizing first with
  | nil =>
    cases first with
    | nil => simp
    | cons c first =>
      have other : '\n' ≠ c := fun h => hf (h ▸ List.mem_cons_self)
      simp [other]
  | cons d line ih =>
    cases first with
    | nil =>
      have other : d ≠ '\n' := fun h => hl (h ▸ List.mem_cons_self)
      simp [other]
    | cons c first =>
      have rest := ih (fun h => hl (List.mem_cons_of_mem _ h))
        (fun h => hf (List.mem_cons_of_mem _ h))
      simp only [List.cons_append, List.cons_prefix_cons, rest, List.cons.injEq]

namespace Event

def IsNamed (name frame : String) : Prop := ("event: " ++ name ++ "\n").toList <+: frame.toList

variable {event : Event} {name : String}

theorem isNamed_frameText (full : name ≠ "") (line : '\n' ∉ name.toList)
    (lines : ∀ other, event.name = some other → '\n' ∉ other.toList) :
    IsNamed name event.frameText ↔ event.name = some name := by
  have front (s : String) : ("event: " ++ s ++ "\n").toList =
      ['e', 'v', 'e', 'n', 't', ':', ' '] ++ (s.toList ++ ['\n']) := by simp
  obtain ⟨_ | other, payload⟩ := event
  · simp [IsNamed, frameText, nameLine]
  · by_cases blank : other = ""
    · subst blank
      simp [IsNamed, frameText, nameLine, Ne.symm full]
    · have shown : (⟨some other, payload⟩ : Event).frameText.toList =
          ['e', 'v', 'e', 'n', 't', ':', ' '] ++ (other.toList ++ '\n' ::
            ("data: ".toList ++ Json.write .spaced payload ++ ['\n', '\n'])) := by
        simp [frameText, nameLine, blank]
      rw [IsNamed, shown, front, List.prefix_append_right_inj,
        Text.line_prefix_iff line (lines other rfl)]
      simp [String.toList_inj, eq_comm]

def names : List String := ["start", "trace", "end", "error"]

theorem isNamed_iff (known : ∀ other, event.name = some other → other ∈ names)
    (h : name ∈ names) : IsNamed name event.frameText ↔ event.name = some name := by
  have proper : ∀ other ∈ names, other ≠ "" ∧ '\n' ∉ other.toList := by decide
  exact isNamed_frameText (proper name h).1 (proper name h).2
    fun other same => (proper other (known other same)).2

end Event

end Flowline
