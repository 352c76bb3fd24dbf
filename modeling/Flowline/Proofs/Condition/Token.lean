import Flowline.Condition.Token.Lexer
import Flowline.Proofs.Text.Utf16
import Flowline.Proofs.Text.Word

/-!
# Tokens of plain texts

How names in ASCII, texts without escapes and the symbols between them are cut. The cutting goes
token by token, so a whole line is cut by one rule for each of its tokens.
-/

namespace Flowline.Condition.Token

variable {c quote : Char} {cs body name rest left : List Char}

-- ---------------------------------------------------------------------------
-- Names
-- ---------------------------------------------------------------------------

def ofWord (s : String) : Token := if reservedWords.contains s then .word s else .name s

theorem isNameUnit_of_isAsciiWord (word : Text.isAsciiWord c = true) : isNameUnit c = true := by
  simp [isNameUnit, word]

theorem nameOrLiteral_name (isName : Text.isAsciiName name = true)
    (ends : ∀ c, rest.head? = some c → isNameUnit c = false ∧ c ≠ '\'' ∧ c ≠ '"') :
    nameOrLiteral (name ++ rest) = some (ofWord (String.ofList name), rest) := by
  have word := Text.isAsciiWord_of_isAsciiName isName
  have unit : ∀ c ∈ name, isNameUnit c = true := fun c h => isNameUnit_of_isAsciiWord (word c h)
  have small : (name.all fun c => c.toNat < 128) = true := by
    simp only [List.all_eq_true, decide_eq_true_eq]
    intro c h
    have range := Text.isAsciiWord_range (word c h)
    omega
  unfold nameOrLiteral
  rw [Text.takeWhile_run unit fun c h => (ends c h).1,
    Text.dropWhile_run unit fun c h => (ends c h).1]
  simp only [small, if_true]
  cases rest with
  | nil => rfl
  | cons c rest =>
    obtain ⟨-, single, double⟩ := ends c rfl
    simp [single, double, ofWord]

theorem inLine_name (isName : Text.isAsciiName name = true)
    (ends : ∀ c, rest.head? = some c → isNameUnit c = false ∧ c ≠ '\'' ∧ c ≠ '"') :
    inLine (name ++ rest) = some (ofWord (String.ofList name), rest) := by
  have cut := nameOrLiteral_name isName ends
  cases name with
  | nil => cases isName
  | cons c name =>
    have opens : (Text.isAsciiLetter c || c == '_') = true := (Bool.and_eq_true_iff.mp isName).1
    have word := Text.isAsciiWord_of_isAsciiName isName c List.mem_cons_self
    have point : c ≠ '.' := Text.ne_of_isAsciiWord word rfl
    have single : c ≠ '\'' := Text.ne_of_isAsciiWord word rfl
    have double : c ≠ '"' := Text.ne_of_isAsciiWord word rfl
    rw [List.cons_append] at cut ⊢
    simp [inLine, Text.isDigit_of_opensName opens, point, single, double, opens, cut]

-- ---------------------------------------------------------------------------
-- Texts
-- ---------------------------------------------------------------------------

theorem unescape_plain (plain : '\\' ∉ cs) (wide : Bool) (fuel : Nat) (enough : cs.length ≤ fuel) :
    unescape wide fuel cs = some (cs.map Char.toNat) := by
  induction cs generalizing fuel with
  | nil => simp [unescape]
  | cons c cs ih =>
    obtain ⟨other, further⟩ := not_or.mp (mt List.mem_cons.mpr plain)
    cases fuel with
    | zero => cases enough
    | succ fuel =>
      simp [unescape, Ne.symm other, ih further fuel (Nat.le_of_succ_le_succ enough)]

theorem decodeText_plain (plain : '\\' ∉ cs) (raw : Bool) :
    decodeText raw cs = some (String.ofList cs) := by
  cases raw with
  | true => rfl
  | false =>
    have same : Text.ofUnit ∘ Char.toNat = id := funext Text.ofUnit_toNat
    simp [decodeText, unescape_plain plain true _ (Nat.le_succ _), same]

theorem shortBody_plain (plain : ∀ c ∈ body, c ≠ quote ∧ c ≠ '\\' ∧ c ≠ '\n')
    (simple : quote ≠ '\\') (rest : List Char) :
    shortBody quote (body ++ quote :: rest) = some (body, rest) := by
  induction body with
  | nil => simp [shortBody, simple]
  | cons c body ih =>
    obtain ⟨⟨other, unescaped, within⟩, further⟩ := List.forall_mem_cons.mp plain
    simp [shortBody, other, unescaped, within, ih further]

theorem literalWith_plain (given : body ≠ [])
    (plain : ∀ c ∈ body, c ≠ quote ∧ c ≠ '\\' ∧ c ≠ '\n') (simple : quote ≠ '\\')
    (rest : List Char) :
    literalWith ⟨false, false, false⟩ quote (body ++ quote :: rest) =
      some (.text (String.ofList body), rest) := by
  have unescaped : '\\' ∉ body := fun h => (plain _ h).2.1 rfl
  have content : Token.body quote (body ++ quote :: rest) = some (body, rest) := by
    have short := shortBody_plain plain simple rest
    cases body with
    | nil => exact absurd rfl given
    | cons c body =>
      obtain ⟨⟨other, -⟩, -⟩ := List.forall_mem_cons.mp plain
      unfold Token.body
      split
      · rename_i a b tail split
        obtain ⟨rfl, -⟩ := List.cons.inj split
        rw [if_neg fun h => other h.1, short]
      · exact short
  simp [literalWith, content, decodeText_plain unescaped]

theorem inLine_text (quoted : quote = '\'' ∨ quote = '"') (given : body ≠ [])
    (plain : ∀ c ∈ body, c ≠ quote ∧ c ≠ '\\' ∧ c ≠ '\n') (rest : List Char) :
    inLine (quote :: (body ++ quote :: rest)) = some (.text (String.ofList body), rest) := by
  have simple : quote ≠ '\\' := by rcases quoted with rfl | rfl <;> decide
  have noDigit : Text.isDigit quote = false := by rcases quoted with rfl | rfl <;> decide
  have noPoint : quote ≠ '.' := by rcases quoted with rfl | rfl <;> decide
  simp [inLine, noDigit, noPoint, quoted, literalWith_plain given plain simple rest]

-- ---------------------------------------------------------------------------
-- Lines
-- ---------------------------------------------------------------------------

theorem inLine_equals (rest : List Char) :
    inLine ('=' :: '=' :: rest) = some (.symbol "==", rest) := by
  rfl

def OpensToken (c : Char) : Prop := c ∉ [' ', '\t', '\x0c', '\n', '\\', '#']

theorem scan_start (opens : OpensToken c) (fuel : Nat) (rest : List Char) :
    scan (fuel + 1) true [] [] (c :: rest) = scan fuel false [] [] (c :: rest) := by
  simp only [OpensToken, List.mem_cons, List.not_mem_nil, or_false, not_or] at opens
  obtain ⟨space, tab, feed, line, back, hash⟩ := opens
  simp [scan, column, space, tab, feed, back, skipComment, hash, line, enter]

theorem scan_space (fuel : Nat) (owed : List String) (indents : Indents) (rest : List Char) :
    scan (fuel + 1) false owed indents (' ' :: rest) = scan fuel false owed indents rest := by
  simp [scan, skipComment]

theorem scan_token (opens : OpensToken c) (cut : inLine (c :: rest) = some (token, left))
    (owes : owe owed token = some owing) (fuel : Nat) (indents : Indents) :
    scan (fuel + 1) false owed indents (c :: rest) =
      (scan fuel false owing indents left).map (token :: ·) := by
  simp only [OpensToken, List.mem_cons, List.not_mem_nil, or_false, not_or] at opens
  obtain ⟨space, tab, feed, line, back, hash⟩ := opens
  cases later : scan fuel false owing indents left <;>
    simp [scan, skipComment, hash, back, space, tab, feed, cut, owes, later]

theorem scan_end (fuel : Nat) :
    scan (fuel + 1) false [] [] [] = some [.newline] := rfl

theorem unifyLineEnds_of_notMem (absent : '\r' ∉ cs) : unifyLineEnds cs = cs := by
  induction cs with
  | nil => rfl
  | cons c cs ih =>
    obtain ⟨other, further⟩ := not_or.mp (mt List.mem_cons.mpr absent)
    simp [unifyLineEnds, Ne.symm other, ih further]

theorem opensToken_of_isAsciiWord (word : Text.isAsciiWord c = true) : OpensToken c := by
  have other (d : Char) (apart : Text.isAsciiWord d = false) := Text.ne_of_isAsciiWord word apart
  simp [OpensToken, other ' ' rfl, other '\t' rfl, other '\x0c' rfl, other '\n' rfl,
    other '\\' rfl, other '#' rfl]

theorem owe_ofWord (owed : List String) (s : String) : owe owed (ofWord s) = some owed := by
  unfold ofWord
  split <;> rfl

theorem ofChars_comparison (isName : Text.isAsciiName name = true) (given : body ≠ [])
    (plain : ∀ c ∈ body, c ≠ '\'' ∧ c ≠ '\\' ∧ c ≠ '\n') (noReturn : '\r' ∉ body) :
    ofChars (name ++ " == '".toList ++ body ++ ['\'']) =
      some [ofWord (String.ofList name), .symbol "==", .text (String.ofList body), .newline] := by
  have word := Text.isAsciiWord_of_isAsciiName isName
  have noName : '\r' ∉ name := fun h => Text.ne_of_isAsciiWord (word _ h) (by decide) rfl
  have line : name ++ " == '".toList ++ body ++ ['\''] =
      name ++ ' ' :: '=' :: '=' :: ' ' :: '\'' :: (body ++ ['\'']) := by simp
  have unified : '\r' ∉ name ++ ' ' :: '=' :: '=' :: ' ' :: '\'' :: (body ++ ['\'']) := by
    simp [noName, noReturn]
  have ends : ∀ d, (' ' :: '=' :: '=' :: ' ' :: '\'' :: (body ++ ['\''])).head? = some d →
      isNameUnit d = false ∧ d ≠ '\'' ∧ d ≠ '"' := by
    intro d head
    cases head
    decide
  have first := inLine_name isName ends
  have last := inLine_text (.inl rfl) given plain []
  cases name with
  | nil => cases isName
  | cons c name =>
    have opens : OpensToken c := opensToken_of_isAsciiWord (word c List.mem_cons_self)
    obtain ⟨fuel, enough⟩ : ∃ fuel, 2 * (c :: name ++ ' ' :: '=' :: '=' :: ' ' :: '\'' ::
        (body ++ ['\''])).length + 2 = fuel + 7 := Nat.exists_eq_add_of_le' (by simp; omega)
    rw [List.cons_append] at first
    rw [line, ofChars, unifyLineEnds_of_notMem unified, enough, List.cons_append,
      scan_start opens, scan_token opens first (owe_ofWord [] _), scan_space,
      scan_token (by simp [OpensToken]) (inLine_equals _) rfl, scan_space,
      scan_token (by simp [OpensToken]) last rfl, scan_end]
    rfl

end Flowline.Condition.Token
