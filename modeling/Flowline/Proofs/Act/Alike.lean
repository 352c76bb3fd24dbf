import Flowline.Proofs.Act.Beside

/-!
# Acts that are alike

Two acts in two worlds are alike under a relation of the worlds if, from related worlds, they come
to the same answer and leave related worlds. Tellings are alike without regard to their pieces.
-/

namespace Flowline

/-- The same answer, and related worlds behind it. -/
def Act.Alike (R : σ → τ → Prop) (left : Act σ α) (right : Act τ α) : Prop :=
  ∀ world other, R world other →
    (left world).1.answer? = (right other).1.answer? ∧ R (left world).2 (right other).2

def Telling.Alike (R : σ → τ → Prop) (left : Telling σ ε α) (right : Telling τ δ α) : Prop :=
  ∀ world other, R world other →
    (left world).1.outcome.answer? = (right other).1.outcome.answer? ∧
      R (left world).2 (right other).2

variable {R : σ → τ → Prop}

namespace Act

theorem Alike.ofAct {left : Act σ α} {right : Act τ α} (alike : Alike R left right) :
    Telling.Alike R (Telling.ofAct left : Telling σ ε α) (Telling.ofAct right : Telling τ δ α) :=
  fun world other related => alike world other related

theorem alike_pure (a : α) : Alike R (pure a : Act σ α) (pure a : Act τ α) :=
  fun _ _ related => ⟨rfl, related⟩

theorem alike_raise (fault : Fault) :
    Alike R (raise fault : Act σ α) (raise fault : Act τ α) :=
  fun _ _ related => ⟨rfl, related⟩

theorem alike_ofExcept (result : Except Fault α) :
    Alike R (ofExcept result : Act σ α) (ofExcept result : Act τ α) := by
  cases result with
  | ok a => exact alike_pure a
  | error fault => exact alike_raise fault

theorem Alike.bind {left : Act σ α} {right : Act τ α} {next : α → Act σ β} {next' : α → Act τ β}
    (first : Alike R left right) (second : ∀ a, Alike R (next a) (next' a)) :
    Alike R (left >>= next) (right >>= next') := by
  intro world other related
  obtain ⟨same, further⟩ := first world other related
  simp only [bind_apply]
  generalize left world = did at same further ⊢
  generalize right other = did' at same further ⊢
  obtain ⟨outcome, after⟩ := did
  obtain ⟨outcome', after'⟩ := did'
  obtain ⟨a, rfl, rfl⟩ | ⟨fault, rfl, rfl⟩ | ⟨cancel, cancel', rfl, rfl⟩ :=
    Outcome.cases_of_answer?_eq same
  · exact second a after after' further
  · exact ⟨rfl, further⟩
  · exact ⟨rfl, further⟩

theorem Alike.recover {left : Act σ α} {right : Act τ α} {handler : Fault → Act σ α}
    {handler' : Fault → Act τ α} (first : Alike R left right)
    (second : ∀ fault, Alike R (handler fault) (handler' fault)) :
    Alike R (left.recover handler) (right.recover handler') := by
  intro world other related
  obtain ⟨same, further⟩ := first world other related
  simp only [recover_apply]
  generalize left world = did at same further ⊢
  generalize right other = did' at same further ⊢
  obtain ⟨outcome, after⟩ := did
  obtain ⟨outcome', after'⟩ := did'
  obtain ⟨a, rfl, rfl⟩ | ⟨fault, rfl, rfl⟩ | ⟨cancel, cancel', rfl, rfl⟩ :=
    Outcome.cases_of_answer?_eq same
  · exact ⟨rfl, further⟩
  · exact second fault after after' further
  · exact ⟨rfl, further⟩

end Act

theorem Telling.Alike.collect {left : Telling σ String Unit} {right : Telling τ String Unit}
    (alike : Alike R left right)
    (pieces : ∀ world other, R world other → (left world).1.pieces = (right other).1.pieces) :
    Alike R left.collect right.collect := by
  intro world other related
  obtain ⟨same, further⟩ := alike world other related
  have joined := pieces world other related
  exact ⟨by simp only [Telling.collect, joined, Outcome.answer?_map, same], further⟩

theorem Telling.Alike.map {left : Telling σ ε α} {right : Telling τ δ α}
    (alike : Alike R left right) (f : α → β) : Alike R (left.map f) (right.map f) := by
  intro world other related
  obtain ⟨same, further⟩ := alike world other related
  exact ⟨by simp only [Telling.map, Outcome.answer?_map, same], further⟩

end Flowline
