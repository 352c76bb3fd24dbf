import Flowline.Fault

/-!
# Acts

An act does something to a world and comes to an outcome: it is done, it raises a fault, or it
waits for something that never happens. The world after the act is kept in every case, and an act
that waits says what happens to the world when the wait is given up.
-/

namespace Flowline

inductive Outcome (σ α : Type) where
  | done (a : α)
  | raised (fault : Fault)
  /-- `cancel` is what giving up the wait does to the world. -/
  | waiting (cancel : σ → σ)

/-- Something done to a world `σ` for a result `α`. -/
def Act (σ α : Type) := σ → Outcome σ α × σ

namespace Act

def done (a : α) : Act σ α := fun world => (.done a, world)

def raise (fault : Fault) : Act σ α := fun world => (.raised fault, world)

def andThen (first : Act σ α) (next : α → Act σ β) : Act σ β := fun world =>
  match first world with
  | (.done a, world) => next a world
  | (.raised fault, world) => (.raised fault, world)
  | (.waiting cancel, world) => (.waiting cancel, world)

instance : Monad (Act σ) where
  pure := done
  bind := andThen

def ofExcept : Except Fault α → Act σ α
  | .ok a => done a
  | .error fault => raise fault

def always (f : σ → α × σ) : Act σ α := fun world =>
  let (a, world) := f world
  (.done a, world)

/-- Recovers from a fault; a wait is no fault. -/
def recover (act : Act σ α) (handler : Fault → Act σ α) : Act σ α := fun world =>
  match act world with
  | (.raised fault, world) => handler fault world
  | other => other

def finish (outcome : Outcome σ α) (last : Act σ Unit) : Act σ α := fun world =>
  match last world with
  | (.done (), world) => (outcome, world)
  | (.raised fault, world) => (.raised fault, world)
  | (.waiting cancel, world) => (.waiting cancel, world)

/-- Ends with a last act in every case, also when a wait is given up. -/
def ensuring (act : Act σ α) (last : Act σ Unit) : Act σ α := fun world =>
  match act world with
  | (.waiting cancel, world) => (.waiting fun world => (last (cancel world)).2, world)
  | (outcome, world) => finish outcome last world

def giveUp (fault : Fault) (act : Act σ α) : Act σ α := fun world =>
  match act world with
  | (.waiting cancel, world) => (.raised fault, cancel world)
  | other => other

theorem andThen_done (act : Act σ α) : act.andThen done = act := by
  funext world
  unfold andThen
  split <;> simp_all [done]

theorem andThen_assoc (first : Act σ α) (next : α → Act σ β) (last : β → Act σ γ) :
    (first.andThen next).andThen last = first.andThen fun a => (next a).andThen last := by
  funext world
  simp only [andThen]
  rcases first world with ⟨_ | _ | _, world⟩ <;> rfl

instance : LawfulMonad (Act σ) :=
  LawfulMonad.mk' (Act σ) andThen_done (fun _ _ => rfl) andThen_assoc

@[simp] theorem pure_apply (a : α) (world : σ) :
    (pure a : Act σ α) world = (.done a, world) := rfl

theorem bind_apply (first : Act σ α) (next : α → Act σ β) (world : σ) :
    (first >>= next) world = match first world with
      | (.done a, world) => next a world
      | (.raised fault, world) => (.raised fault, world)
      | (.waiting cancel, world) => (.waiting cancel, world) := rfl

@[simp] theorem raise_apply (fault : Fault) (world : σ) :
    (raise fault : Act σ α) world = (.raised fault, world) := rfl

theorem recover_apply (act : Act σ α) (handler : Fault → Act σ α) (world : σ) :
    act.recover handler world = match act world with
      | (.raised fault, world) => handler fault world
      | other => other := rfl

@[simp] theorem always_apply (f : σ → α × σ) (world : σ) :
    always f world = (.done (f world).1, (f world).2) := rfl

@[simp] theorem ofExcept_ok (a : α) : (ofExcept (.ok a) : Act σ α) = done a := rfl

@[simp] theorem ofExcept_error (fault : Fault) :
    (ofExcept (.error fault) : Act σ α) = raise fault := rfl

end Act

end Flowline
