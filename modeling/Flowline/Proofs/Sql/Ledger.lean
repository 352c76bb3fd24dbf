import Flowline.Proofs.Act.Adds
import Flowline.Sql.Session
import Flowline.Sql.Step

/-!
# Ledgers of a session

A session that keeps a ledger beside the world: the steps that its connection took, with how each
of them ended, and the readings of its clock. A log has a step as soon as it is asked for; the
ledger also tells a commit that was made from one that failed. The ways in which a statement and a
transaction can end, and what is in the ledger then, are told by relations with one rule for each
way.
-/

namespace Flowline.Sql

inductive Note where
  | did (step : Step) (ending : Ending)
  | read (time : Float)

def Connection.noting (connection : Connection σ) : Connection (σ × List Note) where
  execute sql := (connection.execute sql).noting (.did (.execute sql))
  fetch cursor fetch := (connection.fetch cursor fetch).noting (.did (.fetch fetch))
  commit := connection.commit.noting (.did .commit)
  rollback := connection.rollback.noting (.did .rollback)
  close := connection.close.noting (.did .close)

def Session.noting (session : Session σ) : Session (σ × List Note) where
  connection := session.connection.map Connection.noting
  autocommit := session.autocommit
  clock pair := ((session.clock pair.1).1, (session.clock pair.1).2,
    pair.2 ++ [.read (session.clock pair.1).1])

def Tried (step : Step) (notes : List Note) : Prop := ∃ ending, .did step ending ∈ notes

def Note.isExecution : Note → Bool
  | .did (.execute _) _ => true
  | _ => false

def Note.isLimited (options : Options) : Note → Bool
  | .did .commit .waited | .did .rollback .waited => false
  | .did _ .waited => !options.timeout.isZero
  | _ => true

abbrev Limited (options : Options) (notes : List Note) : Prop :=
  ∀ note ∈ notes, note.isLimited options = true

-- ---------------------------------------------------------------------------
-- Statements and transactions
-- ---------------------------------------------------------------------------

/-- How a statement ends. -/
inductive Runs (sql : String) (fetch : Fetch) : Ending → List Note → Prop
  | executed (ending : Ending) : Runs sql fetch ending [.did (.execute sql) ending]
  | fetched (ending : Ending) :
      Runs sql fetch ending [.did (.execute sql) .done, .did (.fetch fetch) ending]
  | unnamed : Runs sql fetch .raised [.did (.execute sql) .done, .did (.fetch fetch) .done]

inductive Attempts (sql : String) (options : Options) : Ending → List Note → Prop
  | unlimited : options.timeout.isZero = true → Runs sql options.fetch ending notes →
      Attempts sql options ending notes
  | inTime : Runs sql options.fetch ending notes → ending ≠ .waited →
      Attempts sql options ending notes
  | late : Runs sql options.fetch .waited notes → Attempts sql options .raised notes
  | unbegun : options.timeout.isNegative = true → Attempts sql options .raised []

inductive Commits (sql : String) (options : Options) : Ending → List Note → Prop
  | failed : Attempts sql options ending notes → ending ≠ .done → Commits sql options ending notes
  | committed (ending : Ending) : Attempts sql options .done notes →
      Commits sql options ending (notes ++ [.did .commit ending])

inductive Transacts (sql : String) (options : Options) : Ending → List Note → Prop
  | kept : Commits sql options ending notes → ending ≠ .raised → Transacts sql options ending notes
  | undone : Commits sql options .raised notes → ending ≠ .waited →
      Transacts sql options .raised (notes ++ [.did .rollback ending])
  | stuck : Commits sql options .raised notes →
      Transacts sql options .waited (notes ++ [.did .rollback .waited])

variable {sql : String} {options : Options} {step : Step} {ending : Ending} {notes : List Note}

@[simp] theorem tried_append {more : List Note} :
    Tried step (notes ++ more) ↔ Tried step notes ∨ Tried step more := by
  simp [Tried, exists_or]

@[simp] theorem tried_singleton {step' : Step} : Tried step [.did step' ending] ↔ step = step' := by
  simp [Tried]

theorem Limited.limit (limited : Limited options notes) (mem : .did step .waited ∈ notes) :
    options.timeout.isZero = false := by
  have h := limited _ mem
  cases step <;> simp_all [Note.isLimited]

theorem Runs.step_eq (runs : Runs sql fetch ending notes) (tried : Tried step notes) :
    step = .execute sql ∨ step = .fetch fetch := by
  obtain ⟨how, mem⟩ := tried
  cases runs with
  | executed => simp_all
  | fetched | unnamed => grind

theorem Runs.once (runs : Runs sql fetch ending notes) : notes.countP Note.isExecution ≤ 1 := by
  cases runs <;> exact Nat.le_refl 1

theorem Runs.waits (runs : Runs sql fetch .waited notes) : ∃ step, .did step .waited ∈ notes := by
  cases runs with
  | executed => exact ⟨.execute sql, by simp⟩
  | fetched => exact ⟨.fetch fetch, by simp⟩

namespace Attempts

theorem step_eq (attempts : Attempts sql options ending notes) (tried : Tried step notes) :
    step = .execute sql ∨ step = .fetch options.fetch := by
  cases attempts with
  | unlimited _ runs | inTime runs | late runs => exact runs.step_eq tried
  | unbegun => simp [Tried] at tried

theorem not_tried (attempts : Attempts sql options ending notes) :
    ¬Tried .commit notes ∧ ¬Tried .rollback notes :=
  ⟨fun tried => by simpa using attempts.step_eq tried,
    fun tried => by simpa using attempts.step_eq tried⟩

theorem once (attempts : Attempts sql options ending notes) :
    notes.countP Note.isExecution ≤ 1 := by
  cases attempts with
  | unlimited _ runs | inTime runs | late runs => exact runs.once
  | unbegun => exact Nat.zero_le 1

theorem ends (attempts : Attempts sql options ending notes) (limited : Limited options notes) :
    ending ≠ .waited := by
  rintro rfl
  cases attempts with
  | unlimited unlimited runs =>
    obtain ⟨step, mem⟩ := runs.waits
    simp [limited.limit mem] at unlimited
  | inTime _ inTime => exact inTime rfl

end Attempts

namespace Commits

theorem not_tried (commits : Commits sql options ending notes) : ¬Tried .rollback notes := by
  cases commits with
  | failed attempts => exact attempts.not_tried.2
  | committed _ attempts => simp [attempts.not_tried.2]

theorem commit_eq (commits : Commits sql options ending notes)
    (mem : .did .commit how ∈ notes) : how = ending := by
  cases commits with
  | failed attempts => exact absurd ⟨how, mem⟩ attempts.not_tried.1
  | committed _ attempts =>
    rcases List.mem_append.mp mem with mem | mem
    · exact absurd ⟨how, mem⟩ attempts.not_tried.1
    · simpa using mem

theorem committed_of_done (commits : Commits sql options .done notes) :
    .did .commit .done ∈ notes := by
  cases commits with
  | failed _ failed => exact absurd rfl failed
  | committed => simp

theorem once (commits : Commits sql options ending notes) :
    notes.countP Note.isExecution ≤ 1 := by
  cases commits with
  | failed attempts => exact attempts.once
  | committed _ attempts => simpa [Note.isExecution] using attempts.once

theorem ends (commits : Commits sql options ending notes) (limited : Limited options notes) :
    ending ≠ .waited := by
  cases commits with
  | failed attempts => exact attempts.ends limited
  | committed =>
    rintro rfl
    exact nomatch limited (.did .commit .waited) (by simp)

end Commits

namespace Transacts

theorem once (transacts : Transacts sql options ending notes) :
    notes.countP Note.isExecution ≤ 1 := by
  cases transacts with
  | kept commits => exact commits.once
  | undone commits | stuck commits => simpa [Note.isExecution] using commits.once

theorem ends (transacts : Transacts sql options ending notes) (limited : Limited options notes) :
    ending ≠ .waited := by
  cases transacts with
  | kept commits => exact commits.ends limited
  | undone => nofun
  | stuck => exact nomatch limited (.did .rollback .waited) (by simp)

theorem committed_of_done (transacts : Transacts sql options .done notes) :
    .did .commit .done ∈ notes ∧ ¬Tried .rollback notes := by
  cases transacts with
  | kept commits => exact ⟨commits.committed_of_done, commits.not_tried⟩

theorem undone_of_raised (transacts : Transacts sql options .raised notes) :
    ∃ front how, notes = front ++ [.did .rollback how] ∧ ¬Tried .rollback front ∧
      ∀ how, .did .commit how ∈ front → how = .raised := by
  cases transacts with
  | kept _ kept => exact absurd rfl kept
  | undone commits => exact ⟨_, _, rfl, commits.not_tried, fun _ mem => commits.commit_eq mem⟩

end Transacts

-- ---------------------------------------------------------------------------
-- Sessions with a ledger
-- ---------------------------------------------------------------------------

variable {connection : Connection σ}

theorem adds_runStatement (connection : Connection σ) (sql : String) (fetch : Fetch) :
    (runStatement connection.noting sql fetch).Adds (runStatement connection sql fetch)
      (Runs sql fetch) := by
  refine (Act.adds_noting _ _).bind ?_ fun cursor notes noted => ?_
  · rintro ending _ rfl -
    exact .executed ending
  · subst noted
    split
    · refine (Act.adds_noting _ _).bind ?_ fun rows more noted => ?_
      · rintro ending _ rfl -
        exact .fetched ending
      · subst noted
        -- the rows are there, but their cells can still fail to be named
        refine (Act.adds_ofExcept (D := fun ending notes => ending ≠ .waited ∧ notes = []) _
          ⟨nofun, rfl⟩ ⟨nofun, rfl⟩).bind ?_ fun named more noted => ?_
        · rintro ending _ ⟨awake, rfl⟩ unnamed
          cases ending with
          | done => exact absurd rfl unnamed
          | raised => exact .unnamed
          | waited => exact absurd rfl awake
        · obtain ⟨-, rfl⟩ := noted
          exact Act.adds_pure _ (.fetched .done)
    · exact Act.adds_pure _ (.executed .done)

theorem adds_attempt (connection : Connection σ) (sql : String) (options : Options) :
    (within options.timeout (runStatement connection.noting sql options.fetch)).Adds
      (within options.timeout (runStatement connection sql options.fetch))
      (Attempts sql options) := by
  have runs := adds_runStatement connection sql options.fetch
  unfold within
  split
  · rename_i unlimited
    exact runs.mono fun _ _ noted => .unlimited unlimited noted
  · split
    · rename_i negative
      exact Act.adds_raise _ (.unbegun negative)
    · exact runs.giveUp _ (fun _ _ noted inTime => .inTime noted inTime) fun _ noted => .late noted

theorem adds_inTransaction {noting : Act (σ × List Note) Result} {act : Act σ Result}
    (adds : noting.Adds act (Attempts sql options)) :
    (inTransaction connection.noting noting).Adds (inTransaction connection act)
      (Transacts sql options) := by
  have commits : (do
        let result ← noting
        connection.noting.commit
        return result : Act (σ × List Note) Result).Adds (do
        let result ← act
        connection.commit
        return result) (Commits sql options) := by
    refine adds.bind (fun _ _ noted ended => .failed noted ended) fun result notes noted => ?_
    refine (Act.adds_noting _ _).bind ?_ fun _ more committed => ?_
    · rintro ending _ rfl -
      exact .committed ending noted
    · subst committed
      exact Act.adds_pure _ (.committed .done noted)
  -- a commit that fails is rolled back as a statement that fails
  refine commits.recover (fun _ _ noted ended => .kept noted ended) fun fault notes noted => ?_
  refine (Act.adds_noting _ _).bind ?_ fun _ more undone => ?_
  · rintro ending _ rfl ended
    cases ending with
    | done => exact absurd rfl ended
    | raised => exact .undone noted nofun
    | waited => exact .stuck noted
  · subst undone
    exact Act.adds_raise _ (.undone noted nofun)

end Flowline.Sql
