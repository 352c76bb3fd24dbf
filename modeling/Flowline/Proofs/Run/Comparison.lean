import Flowline.Proofs.Condition.Parser
import Flowline.Proofs.Condition.Spelling
import Flowline.Proofs.Condition.Token
import Flowline.Proofs.Run.Course
import Flowline.Proofs.Template

/-!
# Comparing the input with a word

A condition may compare the input with a word in quotes. When the input is itself a word it stands
in the condition as a name, and a name means its own text: so the two are compared as texts, unless
the grammar has reserved the word for something else.
-/

namespace Flowline

namespace Condition

variable {name word : String}

def equation (name word : String) : List Char :=
  name.toList ++ " == '".toList ++ word.toList ++ ['\'']

-- ---------------------------------------------------------------------------
-- Spelling and tokens
-- ---------------------------------------------------------------------------

section

variable (isName : Text.isAsciiName name.toList = true)
  (isText : Text.isAsciiName word.toList = true)

include isName

theorem head?_equation : ∀ c, (equation name word).head? = some c → Text.isAsciiWord c = true := by
  intro c first
  have letters := Text.isAsciiWord_of_isAsciiName isName
  unfold equation at first
  cases listed : name.toList with
  | nil => simp [listed, Text.isAsciiName] at isName
  | cons d rest =>
    rw [listed] at first letters
    obtain rfl : d = c := by simpa using first
    exact letters d List.mem_cons_self

theorem trimBoth_equation : Text.trimBoth (equation name word) = equation name word := by
  refine Text.trimBoth_eq (fun c first => ?_) (fun c last => ?_)
  · exact Text.isBlank_of_isAsciiWord (head?_equation isName c first)
  · rw [equation, List.getLast?_concat] at last
    cases last
    decide

include isText

theorem notMem_equation {c : Char} (other : Text.isAsciiWord c = false)
    (absent : c ∉ [' ', '=', '\'']) : c ∉ equation name word := by
  have noName : c ∉ name.toList := fun h =>
    Text.ne_of_isAsciiWord (Text.isAsciiWord_of_isAsciiName isName c h) other rfl
  have noText : c ∉ word.toList := fun h =>
    Text.ne_of_isAsciiWord (Text.isAsciiWord_of_isAsciiName isText c h) other rfl
  simp at absent
  simp [equation, noName, noText, absent]

theorem printable_equation : ∀ c ∈ equation name word, 32 ≤ c.toNat ∧ c.toNat ≤ 126 := by
  have letters {s : String} (given : Text.isAsciiName s.toList = true) :
      ∀ c ∈ s.toList, 32 ≤ c.toNat ∧ c.toNat ≤ 126 := by
    intro c listed
    have range := Text.isAsciiWord_range (Text.isAsciiWord_of_isAsciiName given c listed)
    omega
  simp only [equation, List.forall_mem_append]
  exact ⟨⟨⟨letters isName, by decide⟩, letters isText⟩, by decide⟩

theorem normalizeChars_equation (noTruth : Spelling.IsNoTruth name.toList) :
    Spelling.normalizeChars (equation name word) = equation name word := by
  have parts : equation name word =
      name.toList ++ " == ".toList ++ '\'' :: (word.toList ++ '\'' :: []) := by simp [equation]
  have inName := Text.isAsciiWord_of_isAsciiName isName
  have inText := Text.isAsciiWord_of_isAsciiName isText
  have code : ∀ c ∈ name.toList ++ " == ".toList, ¬ Spelling.IsQuote c := by
    refine List.forall_mem_append.mpr ⟨fun c h => ?_, by simp [Spelling.IsQuote]⟩
    exact not_or.mpr
      ⟨Text.ne_of_isAsciiWord (inName c h) rfl, Text.ne_of_isAsciiWord (inName c h) rfl⟩
  have plain : ∀ c ∈ word.toList, c ≠ '\'' ∧ c ≠ '\\' := fun c h =>
    ⟨Text.ne_of_isAsciiWord (inText c h) rfl, Text.ne_of_isAsciiWord (inText c h) rfl⟩
  have quiet : ∀ c ∈ " == ".toList, Text.isWord c = false ∧ c ∉ ['&', '|', '<', '!', '('] := by
    intro c h
    obtain rfl | rfl | rfl : c = ' ' ∨ c = '=' ∨ c = ' ' := by simpa using h
    all_goals exact ⟨by decide, by simp⟩
  have paired (previous : Option Char) :
      Spelling.doubleEquals previous " == ".toList = " == ".toList := by
    simp [Spelling.doubleEquals]
  have kept : Spelling.normalizeCode (name.toList ++ " == ".toList) =
      name.toList ++ " == ".toList :=
    Spelling.normalizeCode_name isName noTruth quiet paired
  have nothing : Spelling.normalizeChars [] = [] := by
    rw [Spelling.normalizeChars_code (by simp)]
    simp [Spelling.normalizeCode, Spelling.replacePair, Spelling.doubleEquals, Spelling.spellNot,
      Spelling.mapWords, Spelling.spellIf]
  rw [parts, Spelling.normalizeChars_literal code (.inl rfl) plain, kept, nothing]
  simp

theorem ofChars_equation : Token.ofChars (equation name word) =
    some [Token.ofWord name, .symbol "==", .text word, .newline] := by
  have inText := Text.isAsciiWord_of_isAsciiName isText
  have plain : ∀ c ∈ word.toList, c ≠ '\'' ∧ c ≠ '\\' ∧ c ≠ '\n' := fun c h =>
    ⟨Text.ne_of_isAsciiWord (inText c h) rfl, Text.ne_of_isAsciiWord (inText c h) rfl,
      Text.ne_of_isAsciiWord (inText c h) rfl⟩
  have noReturn : '\r' ∉ word.toList :=
    fun h => Text.ne_of_isAsciiWord (inText _ h) (by decide) rfl
  have cut := Token.ofChars_comparison isName (Text.ne_nil_of_isAsciiName isText) plain noReturn
  rwa [String.ofList_toList, String.ofList_toList] at cut

end

-- ---------------------------------------------------------------------------
-- Reading and evaluating
-- ---------------------------------------------------------------------------

theorem ofChars_comparison {cs : List Char} {token : Token} {x : Term}
    (cut : Token.ofChars cs = some [token, .symbol "==", .text word, .newline])
    (operand : Parser.Operand token x) :
    Statement.ofChars cs =
      some [.expression (.compare x [(.eq, .constant (.text word))])] := by
  have compares : Parser.comparison? [.symbol "==", .text word, .newline] =
      some (.eq, [.text word, .newline]) := rfl
  have line := Parser.comparison_reads operand (by decide) .text compares
  have whole := Parser.statement_reads operand line fun _ => Parser.subject_eq_none (by decide)
  have read := Parser.statements_line whole (64 * cs.length + 63) (by omega)
  simp [Statement.ofChars, cut, read]

theorem Term.evaluate_equals {source : String} {x : Term} {v : Value}
    (value : x.evaluate source = .ok v) :
    (Term.compare x [(.eq, .constant (.text word))]).evaluate source =
      if maxLength < word.length then .error (.refused (.literalTooLong word.length))
      else .ok (.bool (Operation.equal v (.text word))) := by
  by_cases long : maxLength < word.length
  · simp [evaluate, evaluateChain, value, checkLength, Operation.length?, long, bind, Except.bind]
  · cases same : Operation.equal v (.text word) <;>
      simp [evaluate, evaluateChain, value, checkLength, Operation.length?, long, compareResults,
        Operation.compare, same, bind, Except.bind, pure, Except.pure]

theorem exists_operand (free : name ∉ reservedWords ∨ name = "None" ∧ word ≠ "None") :
    ∃ x v, Parser.Operand (Token.ofWord name) x ∧ (∀ source, x.evaluate source = .ok v) ∧
      Operation.equal v (.text word) = (name == word) := by
  rcases free with free | ⟨rfl, other⟩
  · have token : Token.ofWord name = .name name := by simp [Token.ofWord, free]
    exact ⟨.name name, .text name, token ▸ .name, fun _ => by simp [Term.evaluate], rfl⟩
  · have differs : ("None" == word) = false := by simpa using Ne.symm other
    refine ⟨.constant .null, .null, .null, fun source => ?_, differs ▸ rfl⟩
    simp [Term.evaluate, Term.checkLength, Operation.length?]

theorem evaluate_equation (isName : Text.isAsciiName name.toList = true)
    (isText : Text.isAsciiName word.toList = true) (noTruth : Spelling.IsNoTruth name.toList)
    (free : name ∉ reservedWords ∨ name = "None" ∧ word ≠ "None") :
    evaluate (String.ofList (equation name word)) =
      if maxLength < word.length then .error (.refused (.literalTooLong word.length))
      else .ok (.bool (name == word)) := by
  have given : Text.isBlankText (String.ofList (equation name word)) = false := by
    rw [Text.isBlankText, String.toList_ofList]
    exact List.all_eq_false.mpr ⟨'\'', by simp [equation], by decide⟩
  have read : readable (String.ofList (equation name word)) =
      String.ofList (equation name word) := by
    simp [readable, Text.trim, Spelling.normalize, trimBoth_equation isName,
      normalizeChars_equation isName isText noTruth]
  have noNull : (equation name word).contains '\x00' = false := by
    simpa using notMem_equation isName isText (c := '\x00') rfl (by decide)
  have wellFormed := Text.isWellFormed_of_printable (printable_equation isName isText)
  obtain ⟨x, v, operand, value, same⟩ := exists_operand free
  have statement := ofChars_comparison (ofChars_equation isName isText) operand
  simp only [evaluate, given, read, String.toList_ofList, noNull, wellFormed, statement,
    Bool.not_true, Bool.or_self, Bool.false_eq_true, if_false, Statement.evaluate]
  rw [Term.evaluate_equals (value _), same]

end Condition

-- ---------------------------------------------------------------------------
-- The input
-- ---------------------------------------------------------------------------

def asksInput (word : String) : String := "\x7b\x7binput\x7d\x7d == '" ++ word ++ "'"

variable {context : Context} {name word : String}

theorem Context.fill_asksInput (input : context.input = .text name)
    (isText : Text.isAsciiName word.toList = true) :
    context.fill (asksInput word) = .ok (String.ofList (Condition.equation name word)) := by
  have template : asksInput word = String.ofList ('\x7b' :: '\x7b' :: ("input".toList ++
      '\x7d' :: '\x7d' :: (" == '".toList ++ word.toList ++ ['\'']))) := by
    simp [asksInput, ← String.toList_inj]
  have plain : '\x7b' ∉ " == '".toList ++ word.toList ++ ['\''] := by
    have noText : '\x7b' ∉ word.toList := fun h =>
      Text.ne_of_isAsciiWord (Text.isAsciiWord_of_isAsciiName isText _ h) (by decide) rfl
    simp [noText]
  have known : context.lookup? (String.ofList "input".toList) = some (.text name) := by
    simp [Context.lookup?, Context.inputName, input, Value.isNull]
  have key : Text.isAsciiName "input".toList = true := by decide
  have letters := Text.isAsciiWord_of_isAsciiName key
  have filled := Template.fill?_slot (Text.ne_nil_of_isAsciiName key)
    (fun c h => Text.isWord_of_isAsciiWord (letters c h))
    (fun c h => Text.isBlank_of_isAsciiWord (letters c (List.mem_of_head? h)))
    plain known (s := name) rfl
  rw [Context.fill, template, filled]
  simp [Condition.equation]

theorem Node.execute_asksInput_eq {services : Services σ} {node : Node}
    (builtIn : services.evaluate = decideCondition)
    (config : node.config = .condition (asksInput word)) (input : context.input = .text name)
    (isText : Text.isAsciiName word.toList = true) (streaming : Bool) :
    node.execute services streaming context =
      .ofAct (.ofExcept (decideCondition (String.ofList (Condition.equation name word)))) := by
  have todo : node.task services.defaults context =
      .ok (.decide (String.ofList (Condition.equation name word))) := by
    simp only [task, config, Context.fill_asksInput input isText]
    rfl
  simp only [execute, todo, Task.perform, builtIn]

/-- A condition that asks for the input to be a word compares texts: its answer is whether the two
words are equal, and it does not fail. The truth values are no such words, and neither are reserved
words, except that `None` differs from every other word; the given word must be within the limit on
texts. -/
theorem Node.execute_asksInput (services : Services σ) (streaming : Bool) (context : Context)
    (node : Node) (world : σ) (name word : String)
    (builtIn : services.evaluate = decideCondition)
    (config : node.config = .condition (asksInput word)) (input : context.input = .text name)
    (isName : Text.isAsciiName name.toList = true) (isText : Text.isAsciiName word.toList = true)
    (noTruth : Condition.Spelling.IsNoTruth name.toList)
    (free : name ∉ Condition.reservedWords ∨ name = "None" ∧ word ≠ "None")
    (short : word.length ≤ Condition.maxLength) :
    node.execute services streaming context world =
      (⟨[], .done (.bool (name == word))⟩, world) := by
  have decided : Condition.evaluate (String.ofList (Condition.equation name word)) =
      .ok (.bool (name == word)) := by
    rw [Condition.evaluate_equation isName isText noTruth free, if_neg (Nat.not_lt.mpr short)]
  rw [execute_asksInput_eq builtIn config input isText, decideCondition, decided]
  rfl

def asking (word : String) : Node := ⟨"c", "", [], .condition (asksInput word)⟩

/-- The name `match` means its text here. -/
theorem execute_asksInput_match :
    (asking "match").execute Services.idle false { input := .text "match" } () =
      (⟨[], .done (.bool true)⟩, ()) ∧
    (asking "none").execute Services.idle false { input := .text "None" } () =
      (⟨[], .done (.bool false)⟩, ()) :=
  ⟨Node.execute_asksInput Services.idle false _ (asking "match") () "match" "match" rfl rfl rfl
      (by decide) (by decide) (by decide) (.inl (by decide)) (by decide),
    Node.execute_asksInput Services.idle false _ (asking "none") () "None" "none" rfl rfl rfl
      (by decide) (by decide) (by decide) (.inr ⟨rfl, by decide⟩) (by decide)⟩

theorem execute_of_evaluate_error {services : Services σ} {node : Node}
    (builtIn : services.evaluate = decideCondition)
    (config : node.config = .condition (asksInput word)) (input : context.input = .text name)
    (isText : Text.isAsciiName word.toList = true)
    (failed : Condition.evaluate (String.ofList (Condition.equation name word)) =
      .error (.refused refusal)) (streaming : Bool) (world : σ) :
    node.execute services streaming context world = (⟨[], .raised
      (.condition refusal (String.ofList (Condition.equation name word)))⟩, world) := by
  rw [Node.execute_asksInput_eq builtIn config input isText, decideCondition, failed]
  rfl

def longWord : String := String.ofList (List.replicate (Condition.maxLength + 1) 'a')

theorem toList_longWord : longWord.toList = List.replicate (Condition.maxLength + 1) 'a' :=
  String.toList_ofList

theorem length_longWord : longWord.length = Condition.maxLength + 1 := by
  rw [← String.length_toList, toList_longWord, List.length_replicate]

theorem isAsciiName_longWord : Text.isAsciiName longWord.toList = true := by
  rw [toList_longWord, List.replicate_succ]
  simp only [Text.isAsciiName, List.all_replicate]
  decide

theorem isNoTruth_longWord : Condition.Spelling.IsNoTruth longWord.toList := by
  have length : (longWord.toList.map Text.lowerAscii).length = Condition.maxLength + 1 := by
    rw [List.length_map, toList_longWord, List.length_replicate]
  constructor <;> (intro same; simp [same, Condition.maxLength] at length)

theorem longWord_notMem : longWord ∉ Condition.reservedWords := fun listed => by
  have short : ∀ s ∈ Condition.reservedWords, s.length ≤ Condition.maxLength := by decide
  exact absurd (short longWord listed) (by rw [length_longWord]; omega)

/-- A reserved word is not compared, and a word beyond the limit is not either, even with itself:
both break the condition off. -/
theorem execute_asksInput_fails :
    (Text.isAsciiName "and".toList = true ∧ Condition.Spelling.IsNoTruth "and".toList ∧
      (asking "and").execute Services.idle false { input := .text "and" } () =
        (⟨[], .raised (.condition .malformed "and == 'and'")⟩, ())) ∧
    (Text.isAsciiName longWord.toList = true ∧ Condition.Spelling.IsNoTruth longWord.toList ∧
      (asking longWord).execute Services.idle false { input := .text longWord } () =
        (⟨[], .raised (.condition (.literalTooLong (Condition.maxLength + 1))
          (String.ofList (Condition.equation longWord longWord)))⟩, ())) := by
  have written : String.ofList (Condition.equation "and" "and") = "and == 'and'" := by decide
  have malformed : Condition.evaluate (String.ofList (Condition.equation "and" "and")) =
      .error (.refused .malformed) := by
    rw [written]
    exact Condition.eq_error_of_error? (by decide +kernel)
  have tooLong : Condition.evaluate (String.ofList (Condition.equation longWord longWord)) =
      .error (.refused (.literalTooLong (Condition.maxLength + 1))) := by
    rw [Condition.evaluate_equation isAsciiName_longWord isAsciiName_longWord isNoTruth_longWord
      (.inl longWord_notMem), length_longWord, if_pos (Nat.lt_succ_self _)]
  rw [← written]
  exact ⟨⟨by decide, by decide, execute_of_evaluate_error rfl rfl rfl (by decide) malformed _ _⟩,
    isAsciiName_longWord, isNoTruth_longWord,
    execute_of_evaluate_error rfl rfl rfl isAsciiName_longWord tooLong _ _⟩

end Flowline
