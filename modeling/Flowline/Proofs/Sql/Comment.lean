import Flowline.Sql.Statement
import Mathlib.Data.List.Infix

/-!
# Comments in front of a statement

Blanks and comments in front of a statement are dropped, in whatever order they stand there: a
comment goes up to the end of its line, or up to its end mark. What is left is the same as without
them, and so is the answer to whether the statement produces rows.

The search for the end mark begins at the star of the opening mark. A comment whose text begins with
a slash is therefore over at that slash, and the rest of its text is taken for the statement.
-/

namespace Flowline.Sql

inductive Lead where
  | blanks (cs : List Char)
  | line (text : List Char)
  | block (text : List Char)

namespace Lead

def source : Lead → List Char
  | .blanks cs => cs
  | .line text => '-' :: '-' :: text ++ ['\n']
  | .block text => '/' :: '*' :: text ++ ['*', '/']

/-- The text of a comment does not hold what would end it. -/
def IsProper : Lead → Prop
  | .blanks cs => ∀ c ∈ cs, Text.isBlank c = true
  | .line text => '\n' ∉ text
  | .block text => ¬ ['*', '/'] <:+: text

def OpensWithSlash : Lead → Prop
  | .block text => text.head? = some '/'
  | _ => False

instance : DecidablePred IsProper
  | .blanks cs => List.decidableBAll (Text.isBlank · = true) cs
  | .line text => inferInstanceAs (Decidable ('\n' ∉ text))
  | .block text => inferInstanceAs (Decidable (¬ ['*', '/'] <:+: text))

instance : DecidablePred OpensWithSlash
  | .blanks _ | .line _ => isFalse id
  | .block text => inferInstanceAs (Decidable (text.head? = some '/'))

end Lead

variable {text rest : List Char}

-- ---------------------------------------------------------------------------
-- Where comments end
-- ---------------------------------------------------------------------------

theorem afterLine_append (inLine : '\n' ∉ text) (rest : List Char) :
    afterLine (text ++ '\n' :: rest) = rest := by
  induction text with
  | nil => rfl
  | cons c text ih =>
    obtain ⟨other, inLine⟩ := not_or.mp (List.mem_cons.not.mp inLine)
    rw [List.cons_append, afterLine, if_neg (Ne.symm other), ih inLine]

theorem afterMark_append (open' : ¬ ['*', '/'] <:+: text) (rest : List Char) :
    afterMark (text ++ '*' :: '/' :: rest) = rest := by
  induction text with
  | nil => rfl
  | cons c text ih =>
    have further : ¬ ['*', '/'] <:+: text :=
      fun mark => open' (mark.trans (List.suffix_cons c text).isInfix)
    -- the mark cannot begin here: its slash would be the next character
    have notHere : ∀ more, c = '*' → text ++ '*' :: '/' :: rest = '/' :: more → False := by
      rintro more rfl split
      cases text with
      | nil => cases split
      | cons d text =>
        obtain ⟨rfl, -⟩ := List.cons.inj split
        exact open' ⟨[], text, rfl⟩
    rw [List.cons_append, afterMark.eq_2 _ _ notHere, ih further]

-- ---------------------------------------------------------------------------
-- What is dropped
-- ---------------------------------------------------------------------------

theorem stripComments_blanks {cs : List Char} (blank : ∀ c ∈ cs, Text.isBlank c = true) :
    stripComments (cs ++ rest) = stripComments rest := by
  have trimmed : Text.trimLeft (cs ++ rest) = Text.trimLeft rest :=
    List.dropWhile_append_of_pos blank
  rw [stripComments.eq_def, stripComments.eq_def rest, trimmed]

theorem stripComments_line :
    stripComments ('-' :: '-' :: rest) = stripComments (afterLine rest) := by
  rw [stripComments.eq_def]
  rfl

theorem stripComments_block :
    stripComments ('/' :: '*' :: rest) = stripComments (afterMark ('*' :: rest)) := by
  rw [stripComments.eq_def]
  rfl

theorem Lead.stripComments_source {lead : Lead} (proper : lead.IsProper)
    (noSlash : ¬ lead.OpensWithSlash) :
    stripComments (lead.source ++ rest) = stripComments rest := by
  cases lead with
  | blanks cs => exact stripComments_blanks proper
  | line text =>
    have ends : afterLine (text ++ ['\n'] ++ rest) = rest := by
      simpa using afterLine_append proper rest
    exact stripComments_line.trans (congrArg stripComments ends)
  | block text =>
    have open' : ¬ ['*', '/'] <:+: '*' :: text := by
      intro mark
      rcases List.infix_cons_iff.mp mark with ⟨more, here⟩ | further
      · obtain ⟨-, rfl⟩ := List.cons.inj here
        exact noSlash rfl
      · exact proper further
    have ends : afterMark ('*' :: (text ++ ['*', '/'] ++ rest)) = rest := by
      simpa using afterMark_append open' rest
    exact stripComments_block.trans (congrArg stripComments ends)

theorem stripComments_leads {leads : List Lead} (proper : ∀ lead ∈ leads, lead.IsProper)
    (noSlash : ∀ lead ∈ leads, ¬ lead.OpensWithSlash) :
    stripComments (leads.flatMap Lead.source ++ rest) = stripComments rest := by
  induction leads with
  | nil => rfl
  | cons lead leads ih =>
    rw [List.forall_mem_cons] at proper noSlash
    rw [List.flatMap_cons, List.append_assoc,
      Lead.stripComments_source proper.1 noSlash.1, ih proper.2 noSlash.2]

/-- Blanks and comments in front of a statement change neither its text nor its kind. -/
theorem body_leads {leads : List Lead} (sql : String) (proper : ∀ lead ∈ leads, lead.IsProper)
    (noSlash : ∀ lead ∈ leads, ¬ lead.OpensWithSlash) :
    body (String.ofList (leads.flatMap Lead.source) ++ sql) = body sql ∧
      isQuery (String.ofList (leads.flatMap Lead.source) ++ sql) = isQuery sql := by
  have same : stripComments (String.ofList (leads.flatMap Lead.source) ++ sql).toList =
      stripComments sql.toList := by
    rw [String.toList_append, String.toList_ofList, stripComments_leads proper noSlash]
  simp only [body, isQuery, same, and_self]

def markedLeads : List Lead :=
  [.blanks " \t".toList, .block "* --/* a *".toList, .line "-/* b */".toList, .block [],
    .block "*".toList, .blanks "\n".toList, .line []]

theorem body_leads_marked :
    (∀ lead ∈ markedLeads, lead.IsProper) ∧ (∀ lead ∈ markedLeads, ¬ lead.OpensWithSlash) ∧
      body (String.ofList (markedLeads.flatMap Lead.source) ++ "*/ SELECT 1") = body "*/ SELECT 1" ∧
      isQuery (String.ofList (markedLeads.flatMap Lead.source) ++ "*/ SELECT 1") =
        isQuery "*/ SELECT 1" :=
  have proper : ∀ lead ∈ markedLeads, lead.IsProper := by decide +kernel
  have noSlash : ∀ lead ∈ markedLeads, ¬ lead.OpensWithSlash := by decide +kernel
  ⟨proper, noSlash, body_leads _ proper noSlash⟩

theorem body_slash (sql : String) : body ("/*/" ++ sql) = body sql := by
  have same : stripComments ("/*/" ++ sql).toList = stripComments sql.toList := by
    rw [String.toList_append]
    exact stripComments_block
  rw [body, same, body]

/-- A comment that begins with a slash is not dropped as a whole. -/
theorem body_slashed : ¬ ∀ (lead : Lead) (sql : String), lead.IsProper →
    body (String.ofList lead.source ++ sql) = body sql ∧
      isQuery (String.ofList lead.source ++ sql) = isQuery sql := by
  intro dropped
  have proper : (Lead.block ['/']).IsProper := by decide
  have same : body ("/*/" ++ "*/SELECT 1") = body "SELECT 1" := (dropped _ "SELECT 1" proper).1
  rw [body_slash] at same
  exact absurd same (by decide +kernel)

end Flowline.Sql
