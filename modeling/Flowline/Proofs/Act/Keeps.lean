import Flowline.Proofs.Act.Beside

/-!
# Invariants of acts

An act leads to a property of its world if the world has it afterwards, whatever the act comes to,
and if to give up its waiting does not break it either. An act keeps a property if it leads from it
to itself. What an act is done with can have a property of its own, on which the next act relies.
-/

namespace Flowline

def Outcome.Keeps (P : σ → Prop) (Q : α → Prop) : Outcome σ α → Prop
  | .done a => Q a
  | .raised _ => True
  | .waiting cancel => ∀ world, P world → P (cancel world)

/-- From worlds with `A`, an act leaves worlds with `P`, and its results satisfy `Q`. -/
def Act.Leads (A P : σ → Prop) (Q : α → Prop) (act : Act σ α) : Prop :=
  ∀ world, A world → P (act world).2 ∧ (act world).1.Keeps P Q

/-- An act does not break `P`. -/
abbrev Act.Keeps (P : σ → Prop) (Q : α → Prop) (act : Act σ α) : Prop := act.Leads P P Q

def Telling.Keeps (P : σ → Prop) (Q : α → Prop) (telling : Telling σ ε α) : Prop :=
  ∀ world, P world → P (telling world).2 ∧ (telling world).1.outcome.Keeps P Q

variable {A B P : σ → Prop} {Q : α → Prop} {S : β → Prop}

theorem Outcome.keeps_raised (fault : Fault) : (.raised fault : Outcome σ α).Keeps P Q := trivial

theorem Outcome.keeps_beside (P : τ → Prop) (outcome : Outcome σ α) :
    outcome.beside.Keeps (fun pair => P pair.2) fun _ => True := by
  cases outcome with
  | done | raised => trivial
  | waiting cancel => exact fun _ kept => kept

theorem Outcome.Keeps.map {f : α → β} {outcome : Outcome σ α} (keeps : outcome.Keeps P Q)
    (further : ∀ a, Q a → S (f a)) : (outcome.map f).Keeps P S := by
  cases outcome with
  | done a => exact further a keeps
  | raised fault => trivial
  | waiting cancel => exact keeps

-- ---------------------------------------------------------------------------
-- Acts
-- ---------------------------------------------------------------------------

namespace Act

theorem bind_of_done {act : Act σ α} {next : α → Act σ β} (did : act world = (.done a, after)) :
    (act >>= next) world = next a after := by
  rw [bind_apply, did]

theorem recover_congr {act other : Act σ α} {handler : Fault → Act σ α}
    (same : act world = other after) : act.recover handler world = other.recover handler after := by
  rw [recover_apply, recover_apply, same]

theorem bind_pure_world (act : Act σ α) (f : α → β) (world : σ) :
    ((act >>= fun a => pure (f a)) world).2 = (act world).2 := by
  rw [bind_apply]
  rcases act world with ⟨_ | _ | _, after⟩ <;> rfl

theorem keeps_pure (a : α) (h : Q a) : Keeps P Q (pure a : Act σ α) :=
  fun _ kept => ⟨kept, h⟩

theorem keeps_raise (fault : Fault) : Keeps P Q (raise fault : Act σ α) :=
  fun _ kept => ⟨kept, trivial⟩

theorem keeps_ofExcept {result : Except Fault α} (h : ∀ a, result = .ok a → Q a) :
    Keeps P Q (ofExcept result : Act σ α) := by
  cases result with
  | ok a => exact keeps_pure a (h a rfl)
  | error fault => exact keeps_raise fault

theorem keeps_always {f : σ → α × σ} (h : ∀ world, P world → P (f world).2) :
    Keeps P (fun _ => True) (always f) :=
  fun world kept => ⟨h world kept, trivial⟩

/-- Once the first act has led to `P`, the second one has to keep it. -/
theorem Leads.bind {act : Act σ α} {next : α → Act σ β} (first : act.Leads A P Q)
    (second : ∀ a, Q a → (next a).Keeps P S) : (act >>= next).Leads A P S := by
  intro world given
  obtain ⟨after, result⟩ := first world given
  simp only [bind_apply]
  generalize act world = did at after result ⊢
  obtain ⟨outcome, world'⟩ := did
  cases outcome with
  | done a => exact second a result world' after
  | raised fault => exact ⟨after, trivial⟩
  | waiting cancel => exact ⟨after, result⟩

theorem Leads.always_bind {f : σ → α × σ} {next : α → Act σ β}
    (first : ∀ world, A world → B (f world).2) (second : ∀ a, (next a).Leads B P S) :
    (always f >>= next).Leads A P S :=
  fun world given => second _ _ (first world given)

theorem Leads.map {f : α → β} {act : Act σ α} (leads : act.Leads A P Q)
    (further : ∀ a, Q a → S (f a)) : (f <$> act).Leads A P S := by
  rw [map_eq_pure_bind]
  exact leads.bind fun a h => keeps_pure _ (further a h)

theorem Leads.recover {act : Act σ α} {handler : Fault → Act σ α} (leads : act.Leads A P Q)
    (further : ∀ fault, (handler fault).Keeps P Q) : (act.recover handler).Leads A P Q := by
  intro world given
  obtain ⟨after, result⟩ := leads world given
  simp only [recover_apply]
  generalize act world = did at after result ⊢
  obtain ⟨outcome, world'⟩ := did
  cases outcome with
  | done a => exact ⟨after, result⟩
  | raised fault => exact further fault world' after
  | waiting cancel => exact ⟨after, result⟩

theorem Leads.giveUp {act : Act σ α} (leads : act.Leads A P Q) (fault : Fault) :
    (act.giveUp fault).Leads A P Q := by
  intro world given
  obtain ⟨after, result⟩ := leads world given
  simp only [Act.giveUp]
  generalize act world = did at after result ⊢
  obtain ⟨outcome, world'⟩ := did
  cases outcome with
  | done a => exact ⟨after, result⟩
  | raised fault => exact ⟨after, trivial⟩
  | waiting cancel => exact ⟨result world' after, trivial⟩

theorem keeps_finish {outcome : Outcome σ α} {last : Act σ Unit} (keeps : outcome.Keeps P Q)
    (further : last.Keeps P fun _ => True) : (finish outcome last).Keeps P Q := by
  intro world kept
  obtain ⟨after, result⟩ := further world kept
  simp only [finish]
  generalize last world = did at after result ⊢
  obtain ⟨outcome', world'⟩ := did
  cases outcome' with
  | done => exact ⟨after, keeps⟩
  | raised fault => exact ⟨after, trivial⟩
  | waiting cancel => exact ⟨after, result⟩

theorem Leads.ensuring {act : Act σ α} {last : Act σ Unit} (leads : act.Leads A P Q)
    (further : last.Keeps P fun _ => True) : (act.ensuring last).Leads A P Q := by
  intro world given
  obtain ⟨after, result⟩ := leads world given
  simp only [Act.ensuring]
  generalize act world = did at after result ⊢
  obtain ⟨outcome, world'⟩ := did
  cases outcome with
  | done a => exact keeps_finish result further world' after
  | raised fault => exact keeps_finish (Outcome.keeps_raised fault) further world' after
  | waiting cancel =>
    -- to give up the wait ends with the last act as well
    exact ⟨after, fun world kept => (further _ (result world kept)).1⟩

theorem keeps_beside (P : τ → Prop) (act : Act σ α) :
    act.beside.Keeps (fun pair => P pair.2) fun _ => True :=
  fun _ kept => ⟨kept, Outcome.keeps_beside P _⟩

end Act

-- ---------------------------------------------------------------------------
-- Tellings
-- ---------------------------------------------------------------------------

namespace Telling

theorem keeps_ofAct {act : Act σ α} (keeps : act.Keeps P Q) :
    (ofAct act : Telling σ ε α).Keeps P Q := keeps

theorem Keeps.map {f : α → β} {telling : Telling σ ε α} (keeps : telling.Keeps P Q)
    (further : ∀ a, Q a → S (f a)) : (telling.map f).Keeps P S := fun world kept =>
  ⟨(keeps world kept).1, (keeps world kept).2.map further⟩

theorem Keeps.collect {telling : Telling σ String Unit} (keeps : telling.Keeps P fun _ => True) :
    telling.collect.Keeps P fun _ => True := fun world kept =>
  ⟨(keeps world kept).1, (keeps world kept).2.map fun _ _ => trivial⟩

theorem keeps_beside (P : τ → Prop) (telling : Telling σ ε α) :
    telling.beside.Keeps (fun pair => P pair.2) fun _ => True :=
  fun _ kept => ⟨kept, Outcome.keeps_beside P _⟩

end Telling

end Flowline
