import Flowline.Act

/-!
# Transcripts

An act that hands out pieces, such as fragments of text, on its way to an outcome. The pieces
handed out before a fault or a wait are kept.
-/

namespace Flowline

structure Transcript (σ ε α : Type) where
  pieces : List ε
  outcome : Outcome σ α

/-- An act that hands out pieces. -/
def Telling (σ ε α : Type) := σ → Transcript σ ε α × σ

namespace Outcome

def map (f : α → β) : Outcome σ α → Outcome σ β
  | .done a => .done (f a)
  | .raised fault => .raised fault
  | .waiting cancel => .waiting cancel

end Outcome

namespace Telling

def ofAct (act : Act σ α) : Telling σ ε α := fun world =>
  let (outcome, world) := act world
  (⟨[], outcome⟩, world)

/-- The fragments joined to one text, if the telling comes to its end. -/
def collect (telling : Telling σ String Unit) : Telling σ String String := fun world =>
  let (told, world) := telling world
  (⟨told.pieces, told.outcome.map fun () => String.join told.pieces⟩, world)

def map (f : α → β) (telling : Telling σ ε α) : Telling σ ε β := fun world =>
  let (told, world) := telling world
  (⟨told.pieces, told.outcome.map f⟩, world)

end Telling

end Flowline
