import Flowline.Proofs.Act.Alike

/-!
# Acts that clients cannot tell apart

What a client may know of a fault is its veil: trouble with the configuration stays what it is, and
all other faults are one. Two acts are indistinct under a relation of the worlds if from related
worlds they come to the same under the veil. They leave related worlds only if they are done, for
nobody asks anything more of a world behind a fault.
-/

namespace Flowline

/-- What a client may know of a fault. -/
def Fault.veil (fault : Fault) : Fault :=
  if fault.isConfiguration then fault else .reported "" ""

namespace Fault

theorem veil_of_isConfiguration {fault : Fault} (told : fault.isConfiguration = true) :
    fault.veil = fault := if_pos told

theorem veil_of_not_isConfiguration {fault : Fault} (hidden : fault.isConfiguration = false) :
    fault.veil = .reported "" "" := if_neg (Bool.eq_false_iff.mp hidden)

@[simp] theorem isConfiguration_veil (fault : Fault) :
    fault.veil.isConfiguration = fault.isConfiguration := by
  cases hidden : fault.isConfiguration with
  | false =>
    rw [veil_of_not_isConfiguration hidden]
    rfl
  | true => rw [veil_of_isConfiguration hidden, hidden]

@[simp] theorem veil_veil (fault : Fault) : fault.veil.veil = fault.veil := by
  cases hidden : fault.isConfiguration with
  | false =>
    rw [veil_of_not_isConfiguration hidden]
    rfl
  | true => simp only [veil_of_isConfiguration hidden]

/-- Faults are the same to a client if both are no trouble with the configuration, and else only if
they are the same. -/
theorem veil_eq_iff {fault other : Fault} :
    fault.veil = other.veil ↔
      fault = other ∨ (fault.isConfiguration = false ∧ other.isConfiguration = false) := by
  constructor
  · intro same
    have kind := congrArg isConfiguration same
    rw [isConfiguration_veil, isConfiguration_veil] at kind
    cases told : fault.isConfiguration with
    | false => exact .inr ⟨rfl, kind ▸ told⟩
    | true =>
      rw [veil_of_isConfiguration told, veil_of_isConfiguration (kind ▸ told)] at same
      exact .inl same
  · rintro (rfl | ⟨hidden, hidden'⟩)
    · rfl
    · rw [veil_of_not_isConfiguration hidden, veil_of_not_isConfiguration hidden']

end Fault

/-- Two acts have come to the same under the veil, and can both go on in related worlds if they
are done. -/
inductive Outcome.Indistinct (R : σ → τ → Prop) : Outcome σ α × σ → Outcome τ α × τ → Prop
  | done (a : α) (further : R world other) : Indistinct R (.done a, world) (.done a, other)
  | raised (same : fault.veil = fault'.veil) :
      Indistinct R (.raised fault, world) (.raised fault', other)
  | waiting : Indistinct R (.waiting cancel, world) (.waiting cancel', other)

def Act.Indistinct (R : σ → τ → Prop) (left : Act σ α) (right : Act τ α) : Prop :=
  ∀ world other, R world other → Outcome.Indistinct R (left world) (right other)

def Telling.Indistinct (R : σ → τ → Prop) (left : Telling σ ε α) (right : Telling τ ε α) : Prop :=
  ∀ world other, R world other →
    (left world).1.pieces = (right other).1.pieces ∧
      Outcome.Indistinct R ((left world).1.outcome, (left world).2)
        ((right other).1.outcome, (right other).2)

variable {R : σ → τ → Prop}

theorem Outcome.Indistinct.map {left : Outcome σ α} {right : Outcome τ α}
    (indistinct : Indistinct R (left, world) (right, other)) (f : α → β) :
    Indistinct R (left.map f, world) (right.map f, other) := by
  cases indistinct with
  | done a further => exact .done (f a) further
  | raised same => exact .raised same
  | waiting => exact .waiting

theorem Act.Alike.indistinct {left : Act σ α} {right : Act τ α} (alike : Alike R left right) :
    Indistinct R left right := by
  intro world other related
  obtain ⟨same, further⟩ := alike world other related
  generalize left world = did at same further ⊢
  generalize right other = did' at same further ⊢
  obtain ⟨outcome, after⟩ := did
  obtain ⟨outcome', after'⟩ := did'
  obtain ⟨a, rfl, rfl⟩ | ⟨fault, rfl, rfl⟩ | ⟨cancel, cancel', rfl, rfl⟩ :=
    Outcome.cases_of_answer?_eq same
  · exact .done a further
  · exact .raised rfl
  · exact .waiting

theorem Act.Indistinct.ofAct {left : Act σ α} {right : Act τ α}
    (indistinct : Indistinct R left right) :
    Telling.Indistinct R (Telling.ofAct left : Telling σ ε α) (Telling.ofAct right) :=
  fun world other related => ⟨rfl, indistinct world other related⟩

namespace Telling.Indistinct

theorem map {left : Telling σ ε α} {right : Telling τ ε α} (indistinct : Indistinct R left right)
    (f : α → β) : Indistinct R (left.map f) (right.map f) := by
  intro world other related
  obtain ⟨pieces, outcomes⟩ := indistinct world other related
  exact ⟨pieces, outcomes.map f⟩

theorem collect {left : Telling σ String Unit} {right : Telling τ String Unit}
    (indistinct : Indistinct R left right) : Indistinct R left.collect right.collect := by
  intro world other related
  obtain ⟨pieces, outcomes⟩ := indistinct world other related
  refine ⟨pieces, ?_⟩
  simp only [Telling.collect, pieces]
  exact outcomes.map _

end Telling.Indistinct

end Flowline
