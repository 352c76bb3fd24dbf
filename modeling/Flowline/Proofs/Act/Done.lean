import Flowline.Act

/-!
# Acts that are done

If an act is done, so are the acts that it is made of, one after another. The same holds of steps
that may fail.
-/

namespace Flowline

theorem Except.bind_eq_ok_iff {first : Except ε α} {next : α → Except ε β} :
    first >>= next = .ok b ↔ ∃ a, first = .ok a ∧ next a = .ok b := by
  cases first <;> simp [bind, Except.bind]

theorem Except.map_eq_ok_iff {f : α → β} {first : Except ε α} :
    f <$> first = .ok b ↔ ∃ a, first = .ok a ∧ f a = b := by
  cases first <;> simp [Functor.map, Except.map]

namespace Act

variable {a : α} {world after : σ}

theorem bind_eq_done_iff {first : Act σ α} {next : α → Act σ β} {b : β} :
    (first >>= next) world = (.done b, after) ↔
      ∃ a between, first world = (.done a, between) ∧ next a between = (.done b, after) := by
  rw [bind_apply]
  rcases first world with ⟨a | fault | cancel, between⟩
  · exact ⟨fun did => ⟨a, between, rfl, did⟩, by rintro ⟨_, _, ⟨⟩, did⟩; exact did⟩
  · simp
  · simp

theorem pure_eq_done_iff {b : α} :
    (pure a : Act σ α) world = (.done b, after) ↔ a = b ∧ world = after := by
  simp

theorem ofExcept_eq_done_iff {result : Except Fault α} :
    ofExcept result world = (.done a, after) ↔ result = .ok a ∧ world = after := by
  cases result <;> simp [done]

theorem giveUp_eq_done_iff {act : Act σ α} {fault : Fault} :
    act.giveUp fault world = (.done a, after) ↔ act world = (.done a, after) := by
  simp only [giveUp]
  rcases act world with ⟨_ | _ | _, between⟩ <;> simp

/-- An act whose faults are raised again, after something else, is done on its own account. -/
theorem recover_eq_done_iff {act : Act σ α} {first : Fault → Act σ β} :
    act.recover (fun fault => first fault >>= fun _ => raise fault) world = (.done a, after) ↔
      act world = (.done a, after) := by
  rw [recover_apply]
  rcases act world with ⟨_ | _ | _, between⟩ <;> simp [bind_eq_done_iff]

end Act

end Flowline
