import Flowline.Act

/-!
# Acts that raise a fault

A fault of an act is that of the first of its acts that is not done, unless it is recovered from. A
wait that is given up is a fault as well.
-/

namespace Flowline.Act

variable {fault : Fault} {world after : σ}

theorem bind_eq_raised_iff {first : Act σ α} {next : α → Act σ β} :
    (first >>= next) world = (.raised fault, after) ↔
      first world = (.raised fault, after) ∨
        ∃ a between, first world = (.done a, between) ∧
          next a between = (.raised fault, after) := by
  rw [bind_apply]
  rcases first world with ⟨a | fault' | cancel, between⟩ <;> simp [and_assoc]

theorem bind_eq_waiting_iff {first : Act σ α} {next : α → Act σ β} {cancel : σ → σ} :
    (first >>= next) world = (.waiting cancel, after) ↔
      first world = (.waiting cancel, after) ∨
        ∃ a between, first world = (.done a, between) ∧
          next a between = (.waiting cancel, after) := by
  rw [bind_apply]
  rcases first world with ⟨a | fault' | cancel, between⟩ <;> simp [and_assoc]

theorem giveUp_eq_raised_iff {act : Act σ α} {late : Fault} :
    act.giveUp late world = (.raised fault, after) ↔
      act world = (.raised fault, after) ∨ late = fault ∧
        ∃ cancel between, act world = (.waiting cancel, between) ∧ cancel between = after := by
  simp only [giveUp]
  rcases act world with ⟨a | fault' | cancel, between⟩ <;> simp [and_assoc]

theorem recover_eq_raised_iff {act : Act σ α} {handler : Fault → Act σ α} :
    act.recover handler world = (.raised fault, after) ↔
      ∃ first between, act world = (.raised first, between) ∧
        handler first between = (.raised fault, after) := by
  rw [recover_apply]
  rcases act world with ⟨a | fault' | cancel, between⟩ <;> simp [and_assoc]

theorem ofExcept_eq_raised_iff {result : Except Fault α} :
    ofExcept result world = (.raised fault, after) ↔ result = .error fault ∧ world = after := by
  cases result <;> simp [done]

theorem ofExcept_ne_waiting {result : Except Fault α} {cancel : σ → σ} :
    ofExcept result world ≠ (.waiting cancel, after) := by
  cases result <;> simp [done]

end Flowline.Act
