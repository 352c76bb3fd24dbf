import Flowline.Proofs.Act.Done
import Flowline.Run.Task

/-!
# Who tells what

Only a chat node chats, and only a chat that is streamed is told in fragments, which join to what
the node puts out. So a node of any other kind does the same in every run, streamed or not.
-/

namespace Flowline

variable {services : Services σ} {streaming : Bool} {context : Context}

-- ---------------------------------------------------------------------------
-- Tasks
-- ---------------------------------------------------------------------------

namespace Task

def IsChat : Task → Prop
  | .chat _ => True
  | .value _ | .decide _ | .query _ | .send _ => False

variable {task : Task}

theorem perform_of_not_isChat (other : ¬ task.IsChat) (streaming : Bool) :
    task.perform services streaming = task.perform services false := by
  cases task with
  | chat exchange => exact absurd trivial other
  | value v | decide condition | query statement | send request => rfl

theorem pieces_perform_false (task : Task) (world : σ) :
    (task.perform services false world).1.pieces = [] := by
  cases task <;> rfl

theorem output_of_isChat (chat : task.IsChat)
    (did : task.perform services true world = (⟨pieces, .done output⟩, after)) :
    output = .text (String.join pieces) := by
  cases task with
  | chat exchange =>
    rcases told : services.stream exchange world with ⟨⟨fragments, outcome⟩, rest⟩
    simp only [perform, if_true, Telling.map, Telling.collect, told] at did
    cases outcome <;> cases did
    rfl
  | value v | decide condition | query statement | send request => cases chat

end Task

-- ---------------------------------------------------------------------------
-- Nodes
-- ---------------------------------------------------------------------------

namespace Node

variable {node : Node}

theorem isChat_iff {todo : Task} (given : node.task defaults context = .ok todo) :
    todo.IsChat ↔ node.kind = .llm := by
  obtain ⟨id, type, data, config⟩ := node
  cases config with
  | start | output | custom =>
    cases given
    simp [Task.IsChat, kind, Config.kind]
  | llm settings =>
    obtain ⟨exchange, -, rfl⟩ := Except.map_eq_ok_iff.mp given
    simp [Task.IsChat, kind, Config.kind]
  | dbQuery query =>
    obtain ⟨statement, -, rfl⟩ := Except.map_eq_ok_iff.mp given
    simp [Task.IsChat, kind, Config.kind]
  | apiCall settings =>
    obtain ⟨url, -, sent⟩ := Except.bind_eq_ok_iff.mp given
    split at sent
    · cases sent
      simp [Task.IsChat, kind, Config.kind]
    · obtain ⟨request, -, done⟩ := Except.bind_eq_ok_iff.mp sent
      cases done
      simp [Task.IsChat, kind, Config.kind]
  | condition expression =>
    obtain ⟨condition, -, rfl⟩ := Except.map_eq_ok_iff.mp given
    simp [Task.IsChat, kind, Config.kind]

theorem kind_of_decide (given : node.task defaults context = .ok (.decide condition)) :
    node.kind = .condition := by
  obtain ⟨id, type, data, config⟩ := node
  cases config with
  | condition expression => rfl
  | start | output | custom => nomatch given
  | llm settings =>
    obtain ⟨exchange, -, same⟩ := Except.map_eq_ok_iff.mp given
    nomatch same
  | dbQuery query =>
    obtain ⟨statement, -, same⟩ := Except.map_eq_ok_iff.mp given
    nomatch same
  | apiCall settings =>
    obtain ⟨url, -, sent⟩ := Except.bind_eq_ok_iff.mp given
    split at sent
    · nomatch sent
    · obtain ⟨request, -, same⟩ := Except.bind_eq_ok_iff.mp sent
      nomatch same

theorem execute_of_ne_llm (other : node.kind ≠ .llm) (streaming : Bool) :
    node.execute services streaming context = node.execute services false context := by
  simp only [execute]
  cases given : node.task services.defaults context with
  | ok todo => exact Task.perform_of_not_isChat (fun chat => other ((isChat_iff given).mp chat)) _
  | error fault => rfl

theorem pieces_eq_nil (silent : ¬ (node.kind = .llm ∧ streaming = true)) (world : σ) :
    (node.execute services streaming context world).1.pieces = [] := by
  have whole : node.execute services streaming context = node.execute services false context := by
    cases streaming with
    | false => rfl
    | true => exact execute_of_ne_llm (fun chat => silent ⟨chat, rfl⟩) true
  rw [whole, execute]
  cases node.task services.defaults context with
  | ok todo => exact Task.pieces_perform_false todo world
  | error fault => rfl

theorem output_of_streamed (chat : node.kind = .llm)
    (did : node.execute services true context world = (⟨pieces, .done output⟩, after)) :
    output = .text (String.join pieces) := by
  simp only [execute] at did
  cases given : node.task services.defaults context with
  | ok todo =>
    simp only [given] at did
    exact Task.output_of_isChat ((isChat_iff given).mpr chat) did
  | error fault =>
    simp only [given] at did
    cases did

end Node

end Flowline
