import Flowline.Chat.Client
import Flowline.Run.Task

/-!
# Streamed answers

A provider sends the answer of an exchange in chunks, and a listener hears the text of each chunk
before the next one is read. The listener of a node keeps what it hears, passes it on to a listener
of its own and puts out the texts joined. No text is lost on this way and none is repeated: chunks
without a text are passed over, and where the provider breaks off, what came before has been heard.
-/

namespace Flowline

/-- A telling to a listener, whose state is changed by each piece. Nothing the listener does keeps
the telling from going on. -/
def Telling.heard (telling : Telling σ ε α) (listen : τ → ε → τ) (state : τ) (world : σ) :
    (Outcome σ α × σ) × τ :=
  let (told, world) := telling world
  ((told.outcome, world), told.pieces.foldl listen state)

namespace Chat

def chunkText : Choices → String
  | some content :: _ => content
  | none :: _ | [] => ""

def fragments (chunks : List Choices) : List String :=
  (chunks.map chunkText).filter fun text => !text.isEmpty

def hearChunk (listen : τ → String → τ) (state : τ) (chunk : Choices) : τ :=
  match chunk with
  | some content :: _ => if content.isEmpty then state else listen state content
  | none :: _ | [] => state

def keeping (listen : τ → String → τ) (kept : List String × τ) (fragment : String) :
    List String × τ :=
  (kept.1 ++ [fragment], listen kept.2 fragment)

namespace Client

def tell (client : Client) (provider : Provider σ) (exchange : Exchange)
    (listen : τ → String → τ) (state : τ) (world : σ) : (Outcome σ Unit × σ) × τ :=
  let (told, world) :=
    provider.stream exchange.ask (provider.enter (client.access exchange.model) world)
  (provider.close told.outcome world, told.pieces.foldl (hearChunk listen) state)

def tellAll (client : Client) (provider : Provider σ) (exchange : Exchange)
    (listen : τ → String → τ) (state : τ) (world : σ) : (Outcome σ Value × σ) × τ :=
  let ((outcome, world), (parts, state)) :=
    client.tell provider exchange (keeping listen) ([], state) world
  ((outcome.map fun () => .text (String.join parts), world), state)

end Client

variable {listen : τ → String → τ} {state : τ} {chunks : List Choices}
variable {client : Client} {provider : Provider σ} {exchange : Exchange}

-- ---------------------------------------------------------------------------
-- Chunks
-- ---------------------------------------------------------------------------

theorem fragment?_eq (chunk : Choices) :
    fragment? chunk = if (chunkText chunk).isEmpty then none else some (chunkText chunk) := by
  rcases chunk with _ | ⟨_ | content, others⟩ <;> rfl

theorem fragments_cons (chunk : Choices) (chunks : List Choices) :
    fragments (chunk :: chunks) = (fragment? chunk).toList ++ fragments chunks := by
  rw [fragments, List.map_cons, List.filter_cons, fragment?_eq]
  cases (chunkText chunk).isEmpty <;> rfl

theorem filterMap_fragment? (chunks : List Choices) :
    chunks.filterMap fragment? = fragments chunks := by
  induction chunks with
  | nil => rfl
  | cons chunk chunks ih =>
    rw [fragments_cons, List.filterMap_cons, ih]
    cases fragment? chunk <;> rfl

theorem hearChunk_eq (chunk : Choices) :
    hearChunk listen state chunk = (fragment? chunk).toList.foldl listen state := by
  rw [fragment?_eq]
  rcases chunk with _ | ⟨_ | content, others⟩
  · rfl
  · rfl
  · rw [hearChunk, chunkText]
    cases content.isEmpty <;> rfl

theorem foldl_hearChunk :
    chunks.foldl (hearChunk listen) state = (fragments chunks).foldl listen state := by
  induction chunks generalizing state with
  | nil => rfl
  | cons chunk chunks ih =>
    rw [List.foldl_cons, ih, hearChunk_eq, fragments_cons, List.foldl_append]

theorem foldl_keeping (texts parts : List String) :
    texts.foldl (keeping listen) (parts, state) = (parts ++ texts, texts.foldl listen state) := by
  induction texts generalizing parts state with
  | nil => rw [List.append_nil]; rfl
  | cons text texts ih =>
    rw [List.foldl_cons, keeping, ih, List.append_assoc]
    rfl

theorem join_fragments (chunks : List Choices) :
    String.join (fragments chunks) = String.join (chunks.map chunkText) := by
  induction chunks with
  | nil => rfl
  | cons chunk chunks ih =>
    rw [fragments_cons, String.join_append, ih, List.map_cons, String.join_cons, fragment?_eq]
    by_cases nothing : (chunkText chunk).isEmpty = true
    · simp [String.isEmpty_iff.mp nothing]
    · simp [nothing]

-- ---------------------------------------------------------------------------
-- Exchanges
-- ---------------------------------------------------------------------------

namespace Client

/-- An exchange that is heard is the exchange in fragments, heard one by one. -/
theorem tell_eq_heard : client.tell provider exchange listen =
    (client.stream provider exchange).heard listen := by
  funext state world
  simp only [tell, stream, Telling.heard, foldl_hearChunk, filterMap_fragment?]

theorem tellAll_eq_heard : client.tellAll provider exchange listen =
    ((client.stream provider exchange).collect.map Value.text).heard listen := by
  funext state world
  simp only [tellAll, tell_eq_heard, Telling.heard, Telling.collect, Telling.map, foldl_keeping,
    List.nil_append]
  cases (client.stream provider exchange world).1.outcome <;> rfl

theorem stream_of_reads (reads : provider.stream exchange.ask
      (provider.enter (client.access exchange.model) world) = (⟨chunks, ending⟩, after)) :
    client.stream provider exchange world =
      (⟨fragments chunks, (provider.close ending after).1⟩, (provider.close ending after).2) := by
  simp only [stream, reads, filterMap_fragment?]

theorem collect_of_reads (reads : provider.stream exchange.ask
      (provider.enter (client.access exchange.model) world) = (⟨chunks, ending⟩, after)) :
    (client.stream provider exchange).collect world =
      (⟨fragments chunks, (provider.close ending after).1.map fun () =>
        String.join (chunks.map chunkText)⟩, (provider.close ending after).2) := by
  simp only [Telling.collect, stream_of_reads reads, join_fragments]

end Client

end Chat

theorem Node.execute_of_exchange {services : Services σ} {node : Node} {settings : LlmConfig}
    (chats : node.config = .llm settings)
    (ready : settings.exchange services.defaults context = .ok exchange) :
    node.execute services true context = (services.stream exchange).collect.map Value.text := by
  simp only [execute, task, chats, ready, Functor.map, Except.map, Task.perform, if_true]

namespace Chat.Client

/-- Whatever chunks a provider sends, and however it ends, a listener hears just their texts that
are not empty, one after another. So does the listener of a node that is streamed. The node puts out
the texts of all chunks, joined, if the provider comes to its end. If the provider breaks off, so
does the node, by the same fault, when the texts before it have been heard. -/
theorem tell_lossless {client : Client} {provider : Provider σ} {exchange : Exchange}
    {chunks : List Choices} {ending : Outcome σ Unit} {world after : σ}
    (reads : provider.stream exchange.ask
      (provider.enter (client.access exchange.model) world) = (⟨chunks, ending⟩, after)) :
    let texts := chunks.map chunkText
    let heard := texts.filter fun text => !text.isEmpty
    (client.stream provider exchange world).1.pieces = heard ∧
    (∀ {τ : Type} (listen : τ → String → τ) (state : τ),
      client.tell provider exchange listen state world =
        (provider.close ending after, heard.foldl listen state)) ∧
    ∀ (services : Services σ) (node : Node) (settings : LlmConfig) (context : Context),
      services.stream = client.stream provider → node.config = .llm settings →
      settings.exchange services.defaults context = .ok exchange →
      let did := node.execute services true context world
      did.1.pieces = heard ∧
      (∀ {τ : Type} (listen : τ → String → τ) (state : τ),
        client.tellAll provider exchange listen state world =
          ((did.1.outcome, did.2), heard.foldl listen state)) ∧
      (ending = .done () → did.1.outcome = .done (.text (String.join texts))) ∧
      ∀ fault, ending = .raised fault → did.1.outcome = .raised fault := by
  intro texts heard
  have streamed := stream_of_reads reads
  refine ⟨congrArg (·.1.pieces) streamed, fun listen state => ?_, ?_⟩
  · rw [tell_eq_heard, Telling.heard, streamed]
    rfl
  · intro services node settings context served chats ready did
    have executes := Node.execute_of_exchange chats ready
    have told : did = (⟨heard, ((provider.close ending after).1.map fun () =>
        String.join texts).map Value.text⟩, (provider.close ending after).2) := by
      simp only [did, executes, served, Telling.map, collect_of_reads reads]
      rfl
    have pieces : did.1.pieces = heard := congrArg (·.1.pieces) told
    refine ⟨pieces, fun listen state => ?_, ?_, ?_⟩
    · rw [tellAll_eq_heard, ← served, ← executes, ← pieces]
      rfl
    -- closing the connection changes neither a result nor a fault
    · rintro rfl
      rw [told]
      rfl
    · rintro fault rfl
      rw [told]
      rfl

end Client

/-- A provider that sends the same chunks each time and comes to the same end. Its world counts the
connections that are open. -/
def Provider.sending (chunks : List Choices) (ending : Outcome Nat Unit) : Provider Nat where
  enter _ count := count + 1
  answer _ := Act.raise (.reported "RuntimeError" "streams only")
  stream _ := fun count => (⟨chunks, ending⟩, count)
  leave _ count := count - 1

def greeting : List Choices := [[none], [some "Hel", some "lost"], [some ""], [], [some "lo"]]

def Provider.services (provider : Provider Nat) : Services Nat where
  complete := Client.complete ⟨"2024-06-01"⟩ provider
  stream := Client.stream ⟨"2024-06-01"⟩ provider
  query _ _ := pure .null
  send _ := pure .null
  defaults := { baseUrl := "https://chat.test", apiKey := "key" }

/-- Only texts of first choices are heard. A node puts them out joined, or breaks off as the
provider does. -/
theorem tell_lossless_greeting :
    let node : Node := ⟨"a", "", [], .llm { userPrompt := "go on" }⟩
    let fault : Fault := .reported "RuntimeError" "gone"
    let whole := node.execute (Provider.sending greeting (.done ())).services true {} 0
    let broken := node.execute (Provider.sending greeting (.raised fault)).services true {} 0
    whole.1.pieces = ["Hel", "lo"] ∧ whole.1.outcome = .done (.text "Hello") ∧
      broken.1.pieces = ["Hel", "lo"] ∧ broken.1.outcome = .raised fault ∧
      ∃ exchange : Exchange, ∀ ending,
        (Client.tell ⟨"2024-06-01"⟩ (.sending greeting ending) exchange
          (fun heard text => text :: heard) [] 0).2 = ["lo", "Hel"] := by
  intro node fault whole broken
  let settings : LlmConfig := { userPrompt := "go on" }
  let defaults : Defaults := { baseUrl := "https://chat.test", apiKey := "key" }
  have resolves : (settings.exchange defaults {}).isOk = true := by decide +kernel
  obtain ⟨exchange, ready⟩ : ∃ exchange, settings.exchange defaults {} = .ok exchange := by
    cases made : settings.exchange defaults {} with
    | ok exchange => exact ⟨exchange, rfl⟩
    | error fault => rw [made] at resolves; cases resolves
  have reads (ending : Outcome Nat Unit) : (Provider.sending greeting ending).stream exchange.ask
      ((Provider.sending greeting ending).enter (Client.access ⟨"2024-06-01"⟩ exchange.model) 0) =
        (⟨greeting, ending⟩, 1) := rfl
  have lossless (ending : Outcome Nat Unit) := Client.tell_lossless (reads ending)
  have heard : (greeting.map chunkText).filter (fun text => !text.isEmpty) = ["Hel", "lo"] := by
    decide +kernel
  simp only [heard] at lossless
  have ended := (lossless (.done ())).2.2 (Provider.sending greeting (.done ())).services node
    settings {} rfl rfl ready
  have raised := (lossless (.raised fault)).2.2 (Provider.sending greeting (.raised fault)).services
    node settings {} rfl rfl ready
  refine ⟨ended.1, ended.2.2.1 rfl, raised.1, raised.2.2.2 fault rfl, exchange, fun ending => ?_⟩
  rw [(lossless ending).2.1]
  rfl

end Chat

end Flowline
