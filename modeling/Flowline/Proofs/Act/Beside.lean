import Flowline.Transcript

/-!
# Acts beside a ledger

An act does not touch what stands beside its world. This is how a ledger is kept that no
collaborator can see: the act runs in a world of pairs and changes the first half only. What an act
comes to, without the worlds, is its answer; a wait has none.
-/

namespace Flowline

namespace Outcome

def answer? : Outcome σ α → Option (Except Fault α)
  | .done a => some (.ok a)
  | .raised fault => some (.error fault)
  | .waiting _ => none

/-- To give up the wait leaves what stands beside alone. -/
def beside : Outcome σ α → Outcome (σ × τ) α
  | .done a => .done a
  | .raised fault => .raised fault
  | .waiting cancel => .waiting fun pair => (cancel pair.1, pair.2)

@[simp] theorem answer?_done (a : α) : (.done a : Outcome σ α).answer? = some (.ok a) := rfl

@[simp] theorem answer?_raised (fault : Fault) :
    (.raised fault : Outcome σ α).answer? = some (.error fault) := rfl

@[simp] theorem answer?_waiting (cancel : σ → σ) :
    (.waiting cancel : Outcome σ α).answer? = none := rfl

@[simp] theorem answer?_beside (outcome : Outcome σ α) :
    (outcome.beside : Outcome (σ × τ) α).answer? = outcome.answer? := by
  cases outcome <;> rfl

theorem answer?_map (f : α → β) (outcome : Outcome σ α) :
    (outcome.map f).answer? = outcome.answer?.map (Except.map f) := by
  cases outcome <;> rfl

theorem cases_of_answer?_eq {left : Outcome σ α} {right : Outcome τ α}
    (same : left.answer? = right.answer?) :
    (∃ a, left = .done a ∧ right = .done a) ∨
      (∃ fault, left = .raised fault ∧ right = .raised fault) ∨
        ∃ cancel cancel', left = .waiting cancel ∧ right = .waiting cancel' := by
  cases left <;> cases right <;> simp_all

end Outcome

/-- An act in a world with something beside it. -/
def Act.beside (act : Act σ α) : Act (σ × τ) α := fun pair =>
  ((act pair.1).1.beside, (act pair.1).2, pair.2)

def Telling.beside (telling : Telling σ ε α) : Telling (σ × τ) ε α := fun pair =>
  (⟨(telling pair.1).1.pieces, (telling pair.1).1.outcome.beside⟩, (telling pair.1).2, pair.2)

end Flowline
