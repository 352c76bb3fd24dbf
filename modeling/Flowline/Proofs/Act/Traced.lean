import Flowline.Proofs.Act.Adds

/-!
# Notes of acts with a last act

To give up the wait of an act with a last act does the last act, and then there is one more note. So
the act does not quite come to the same with notes and without; but it has the same answer and
leaves the same world, with its notes behind the earlier ones.
-/

namespace Flowline

namespace Outcome

theorem answer?_eq_ok_iff {outcome : Outcome σ α} :
    outcome.answer? = some (.ok a) ↔ outcome = .done a := by
  cases outcome <;> simp

@[simp] theorem ending_done (a : α) : (.done a : Outcome σ α).ending = .done := rfl

@[simp] theorem ending_raised (fault : Fault) :
    (.raised fault : Outcome σ α).ending = .raised := rfl

@[simp] theorem ending_waiting (cancel : σ → σ) :
    (.waiting cancel : Outcome σ α).ending = .waited := rfl

theorem ending_eq_waited_iff {outcome : Outcome σ α} :
    outcome.ending = .waited ↔ ∃ cancel, outcome = .waiting cancel := by
  cases outcome <;> simp

end Outcome

/-- With notes an act has come to the same answer and world as without, and has added notes with
`D` to those that were there. -/
def Traced (earlier : List ε) (D : Ending → List ε → Prop)
    (noted : Outcome (σ × List ε) α × σ × List ε) (plain : Outcome σ α × σ) : Prop :=
  ∃ notes, noted.1.answer? = plain.1.answer? ∧ noted.2 = (plain.2, earlier ++ notes) ∧
    D plain.1.ending notes

def Ending.finish : (how closing : Ending) → Ending
  | how, .done => how
  | _, closing => closing

theorem Ending.finish_ne_waited {how closing : Ending} (ended : how ≠ .waited)
    (awake : closing ≠ .waited) : how.finish closing ≠ .waited := by
  cases closing with
  | done => exact ended
  | raised | waited => exact awake

variable {noting : Act (σ × List ε) α} {act : Act σ α} {noting' : Act (σ × List ε) Unit}
  {last : Act σ Unit} {D E F : Ending → List ε → Prop} {earlier notes : List ε} {world : σ}

theorem Act.Adds.traced (adds : noting.Adds act D) (world : σ) (earlier : List ε) :
    Traced earlier D (noting (world, earlier)) (act world) := by
  obtain ⟨notes, did, noted⟩ := adds world earlier
  exact ⟨notes, by rw [did, Outcome.answer?_beside], by rw [did], noted⟩

namespace Traced

theorem behind (notes : List ε) {noted : Outcome (σ × List ε) α × σ × List ε}
    {plain : Outcome σ α × σ}
    (traced : Traced (earlier ++ notes) (fun ending more => F ending (notes ++ more)) noted plain) :
    Traced earlier F noted plain := by
  obtain ⟨more, same, left, added⟩ := traced
  exact ⟨notes ++ more, same, by rw [left, List.append_assoc], added⟩

theorem finish (adds : noting'.Adds last E) {outcome' : Outcome (σ × List ε) α}
    {outcome : Outcome σ α} (same : outcome'.answer? = outcome.answer?)
    (ends : ∀ closing more, E closing more → F (outcome.ending.finish closing) more) :
    Traced earlier F (Act.finish outcome' noting' (world, earlier))
      (Act.finish outcome last world) := by
  obtain ⟨more, did, closed⟩ := adds world earlier
  have added := ends _ _ closed
  simp only [Act.finish, did]
  generalize last world = result at added ⊢
  obtain ⟨_ | _ | _, after⟩ := result
  · exact ⟨more, same, rfl, added⟩
  · exact ⟨more, rfl, rfl, added⟩
  · exact ⟨more, rfl, rfl, added⟩

theorem ensuring (traced : Traced earlier D (noting (world, earlier)) (act world))
    (adds : noting'.Adds last E) (waits : ∀ notes, D .waited notes → F .waited notes)
    (ends : ∀ how notes, D how notes → how ≠ .waited → ∀ closing more, E closing more →
      F (how.finish closing) (notes ++ more)) :
    Traced earlier F (noting.ensuring noting' (world, earlier)) (act.ensuring last world) := by
  obtain ⟨notes, same, left, noted⟩ := traced
  simp only [Act.ensuring]
  generalize noting (world, earlier) = did at same left ⊢
  generalize act world = did' at same left noted ⊢
  obtain ⟨outcome, after⟩ := did
  obtain ⟨outcome', after'⟩ := did'
  obtain rfl : after = _ := left
  obtain ⟨a, rfl, rfl⟩ | ⟨fault, rfl, rfl⟩ | ⟨cancel, cancel', rfl, rfl⟩ :=
    Outcome.cases_of_answer?_eq same
  · exact behind _ (finish adds same (ends _ _ noted nofun))
  · exact behind _ (finish adds same (ends _ _ noted nofun))
  · exact ⟨notes, rfl, rfl, waits _ noted⟩

theorem recover {handler' : Fault → Act (σ × List ε) α} {handler : Fault → Act σ α}
    (traced : Traced earlier D (noting (world, earlier)) (act world))
    (ends : ∀ ending notes, D ending notes → ending ≠ .raised → F ending notes)
    (further : ∀ fault after notes, D .raised notes →
      Traced (earlier ++ notes) (fun ending more => F ending (notes ++ more))
        (handler' fault (after, earlier ++ notes)) (handler fault after)) :
    Traced earlier F (noting.recover handler' (world, earlier)) (act.recover handler world) := by
  obtain ⟨notes, same, left, noted⟩ := traced
  simp only [Act.recover_apply]
  generalize noting (world, earlier) = did at same left ⊢
  generalize act world = did' at same left noted ⊢
  obtain ⟨outcome, after⟩ := did
  obtain ⟨outcome', after'⟩ := did'
  obtain rfl : after = _ := left
  obtain ⟨a, rfl, rfl⟩ | ⟨fault, rfl, rfl⟩ | ⟨cancel, cancel', rfl, rfl⟩ :=
    Outcome.cases_of_answer?_eq same
  · exact ⟨notes, rfl, rfl, ends _ _ noted nofun⟩
  · exact behind _ (further fault after' notes noted)
  · exact ⟨notes, rfl, rfl, ends _ _ noted nofun⟩

end Traced

end Flowline
