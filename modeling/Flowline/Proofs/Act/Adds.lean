import Flowline.Proofs.Act.Beside

/-!
# Notes of acts

An act can note beside the world how it ended. An act that is made of such acts comes to the same
as without the notes, and what it has noted follows from what its parts note: `D ending notes` says
which notes there can be if the act ends in this way.
-/

namespace Flowline

inductive Ending where
  | done
  | raised
  | waited
  deriving DecidableEq, Repr

def Outcome.ending : Outcome σ α → Ending
  | .done _ => .done
  | .raised _ => .raised
  | .waiting _ => .waited

namespace Act

def noting (note : Ending → ε) (act : Act σ α) : Act (σ × List ε) α := fun pair =>
  ((act pair.1).1.beside, (act pair.1).2, pair.2 ++ [note (act pair.1).1.ending])

/-- `noting` does what `act` does, and adds notes with `D` to those that are there. -/
def Adds (noting : Act (σ × List ε) α) (act : Act σ α) (D : Ending → List ε → Prop) : Prop :=
  ∀ world earlier, ∃ notes,
    noting (world, earlier) = ((act world).1.beside, (act world).2, earlier ++ notes) ∧
      D (act world).1.ending notes

variable {noting : Act (σ × List ε) α} {act : Act σ α} {D F : Ending → List ε → Prop}

theorem adds_noting (note : Ending → ε) (act : Act σ α) :
    (act.noting note).Adds act fun ending notes => notes = [note ending] :=
  fun _ _ => ⟨_, rfl, rfl⟩

theorem adds_pure (a : α) (h : D .done []) : (pure a : Act (σ × List ε) α).Adds (pure a) D :=
  fun _ earlier => ⟨[], by simp [Outcome.beside], h⟩

theorem adds_raise (fault : Fault) (h : D .raised []) :
    (raise fault : Act (σ × List ε) α).Adds (raise fault) D :=
  fun _ earlier => ⟨[], by simp [Outcome.beside], h⟩

theorem adds_ofExcept (result : Except Fault α) (ok : D .done []) (error : D .raised []) :
    (ofExcept result : Act (σ × List ε) α).Adds (ofExcept result) D := by
  cases result with
  | ok a => exact adds_pure a ok
  | error fault => exact adds_raise fault error

theorem bind_pure_beside {pair : σ × τ} {noting : Act (σ × τ) α} {notes : τ}
    (did : noting pair = ((act world).1.beside, (act world).2, notes)) (f : α → β) :
    (noting >>= fun a => pure (f a)) pair =
      (((act >>= fun a => pure (f a)) world).1.beside,
        ((act >>= fun a => pure (f a)) world).2, notes) := by
  simp only [bind_apply, did]
  rcases act world with ⟨_ | _ | _, after⟩ <;> rfl

namespace Adds

theorem bind {next' : α → Act (σ × List ε) β} {next : α → Act σ β} (adds : noting.Adds act D)
    (ends : ∀ ending notes, D ending notes → ending ≠ .done → F ending notes)
    (further : ∀ a notes, D .done notes →
      (next' a).Adds (next a) fun ending more => F ending (notes ++ more)) :
    (noting >>= next').Adds (act >>= next) F := by
  intro world earlier
  obtain ⟨notes, did, noted⟩ := adds world earlier
  simp only [bind_apply, did]
  generalize act world = result at noted ⊢
  obtain ⟨outcome, after⟩ := result
  cases outcome with
  | done a =>
    obtain ⟨more, did', noted'⟩ := further a notes noted after (earlier ++ notes)
    exact ⟨notes ++ more, did'.trans (by rw [List.append_assoc]), noted'⟩
  | raised fault => exact ⟨notes, rfl, ends _ _ noted nofun⟩
  | waiting cancel => exact ⟨notes, rfl, ends _ _ noted nofun⟩

theorem recover {handler' : Fault → Act (σ × List ε) α} {handler : Fault → Act σ α}
    (adds : noting.Adds act D)
    (ends : ∀ ending notes, D ending notes → ending ≠ .raised → F ending notes)
    (further : ∀ fault notes, D .raised notes →
      (handler' fault).Adds (handler fault) fun ending more => F ending (notes ++ more)) :
    (noting.recover handler').Adds (act.recover handler) F := by
  intro world earlier
  obtain ⟨notes, did, noted⟩ := adds world earlier
  simp only [recover_apply, did]
  generalize act world = result at noted ⊢
  obtain ⟨outcome, after⟩ := result
  cases outcome with
  | done a => exact ⟨notes, rfl, ends _ _ noted nofun⟩
  | raised fault =>
    obtain ⟨more, did', noted'⟩ := further fault notes noted after (earlier ++ notes)
    exact ⟨notes ++ more, did'.trans (by rw [List.append_assoc]), noted'⟩
  | waiting cancel => exact ⟨notes, rfl, ends _ _ noted nofun⟩

theorem giveUp (adds : noting.Adds act D) (fault : Fault)
    (ends : ∀ ending notes, D ending notes → ending ≠ .waited → F ending notes)
    (late : ∀ notes, D .waited notes → F .raised notes) :
    (noting.giveUp fault).Adds (act.giveUp fault) F := by
  intro world earlier
  obtain ⟨notes, did, noted⟩ := adds world earlier
  simp only [Act.giveUp, did]
  generalize act world = result at noted ⊢
  obtain ⟨outcome, after⟩ := result
  cases outcome with
  | done a => exact ⟨notes, rfl, ends _ _ noted nofun⟩
  | raised fault' => exact ⟨notes, rfl, ends _ _ noted nofun⟩
  | waiting cancel => exact ⟨notes, rfl, late _ noted⟩

theorem mono (adds : noting.Adds act D) (h : ∀ ending notes, D ending notes → F ending notes) :
    noting.Adds act F := fun world earlier =>
  let ⟨notes, did, noted⟩ := adds world earlier
  ⟨notes, did, h _ _ noted⟩

end Adds

end Act

end Flowline
