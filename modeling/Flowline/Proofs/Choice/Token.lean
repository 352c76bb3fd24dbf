import Flowline.Proofs.Choice.Spelling
import Flowline.Proofs.Condition.Token

/-!
# The tokens of a choice

A choice in its one spelling is cut piece by piece. What follows a value is a space, a comma, a
parenthesis or the end, and each of them ends the value; and what is open at a piece is as many
parentheses as there are calls around it.
-/

namespace Flowline.Condition

open Spelling

def Leaf.token : Leaf → Token
  | .number n => .number (.int n.value)
  | .truth b => .word (if b then "True" else "False")
  | .text q => .text (String.ofList q.body)

def Piece.tokens : Piece → List Token
  | .opening => [.name "iif", .symbol "("]
  | .leaf l => [l.token]
  | .space => []
  | .comma => [.symbol ","]
  | .closing => [.symbol ")"]

def Choice.tokens : Choice → (rest : List Token) → List Token
  | .leaf l, rest => l.token :: rest
  | .call _ test yes no, rest =>
    .name "iif" :: .symbol "(" :: test.tokens (.symbol "," :: yes.tokens (.symbol "," ::
      no.tokens (.symbol ")" :: rest)))

theorem Piece.tokens_spaces (n : Nat) (rest : List Piece) :
    (Piece.spaces n rest).flatMap Piece.tokens = rest.flatMap Piece.tokens := by
  induction n with
  | zero => rfl
  | succ n ih => exact ih

theorem Choice.flatMap_tokens (t : Choice) (rest : List Piece) :
    (t.pieces rest).flatMap Piece.tokens = t.tokens (rest.flatMap Piece.tokens) := by
  induction t generalizing rest with
  | leaf l => rfl
  | call gaps test yes no ihTest ihYes ihNo =>
    simp [pieces, tokens, Piece.tokens, Piece.tokens_spaces, ihTest, ihYes, ihNo]

theorem Choice.tokens_append (t : Choice) (rest more : List Token) :
    t.tokens rest ++ more = t.tokens (rest ++ more) := by
  induction t generalizing rest with
  | leaf l => rfl
  | call gaps test yes no ihTest ihYes ihNo => simp [tokens, ihTest, ihYes, ihNo]

-- ---------------------------------------------------------------------------
-- Numbers
-- ---------------------------------------------------------------------------

namespace Token

def EndsValue (rest : List Char) : Prop := ∀ c, rest.head? = some c → c = ' ' ∨ c = ',' ∨ c = ')'

variable {rest : List Char}

theorem EndsValue.notDigit (ends : EndsValue rest) :
    ∀ c, rest.head? = some c → Text.isDigit c = false := by
  intro c head
  rcases ends c head with rfl | rfl | rfl <;> decide

theorem groupedDigits_groups {first : List Char} {more : List (List Char)} (given : first ≠ [])
    (digits : ∀ group ∈ first :: more, ∀ c ∈ group, Text.isDigit c = true)
    (grouped : ∀ group ∈ more, group ≠ []) (ends : EndsValue rest) (fuel : Nat)
    (enough : more.length < fuel) :
    groupedDigits Text.isDigit fuel (first ++ (more.flatMap ('_' :: ·) ++ rest)) =
      some (first ++ more.flatten, rest) := by
  induction more generalizing first fuel with
  | nil =>
    obtain ⟨fuel, rfl⟩ := Nat.exists_eq_succ_of_ne_zero (Nat.ne_of_gt enough)
    have run := digits first List.mem_cons_self
    rw [List.flatMap_nil, List.nil_append, groupedDigits, Text.takeWhile_run run ends.notDigit,
      Text.dropWhile_run run ends.notDigit]
    cases rest with
    | nil => simp [given]
    | cons c rest =>
      have noJoin : c ≠ '_' := by rcases ends c rfl with rfl | rfl | rfl <;> decide
      simp [given, noJoin]
  | cons group more ih =>
    obtain ⟨fuel, rfl⟩ := Nat.exists_eq_succ_of_ne_zero (Nat.ne_zero_of_lt enough)
    obtain ⟨run, further⟩ := List.forall_mem_cons.mp digits
    obtain ⟨here, others⟩ := List.forall_mem_cons.mp grouped
    have stops : ∀ c, ('_' :: (group ++ (more.flatMap ('_' :: ·) ++ rest))).head? = some c →
        Text.isDigit c = false := by
      rintro _ ⟨⟩
      decide
    have left := ih here further others fuel (Nat.lt_of_succ_lt_succ enough)
    have whole : first ++ ((group :: more).flatMap ('_' :: ·) ++ rest) =
        first ++ '_' :: (group ++ (more.flatMap ('_' :: ·) ++ rest)) := by simp
    rw [whole, groupedDigits, Text.takeWhile_run run stops, Text.dropWhile_run run stops]
    simp [given, left]

theorem decimalNumber_ends {whole : List Char} (short : whole.length ≤ 4300)
    (plain : whole.head? = some '0' → ∀ c ∈ whole, c = '0') (ends : EndsValue rest) :
    decimalNumber whole rest = some (.int (Text.ofDigits whole), rest) := by
  have integer : decimalNumber.finish whole [] [] (whole ++ [] ++ []) rest =
      some (.int (Text.ofDigits whole), rest) := by
    have noZeros : (whole.head? == some '0' && whole.any (· != '0')) = false := by
      by_cases zero : whole.head? = some '0'
      · simpa [zero] using plain zero
      · simp [zero]
    simp [decimalNumber.finish, noZeros, Nat.not_lt.mpr short]
  cases rest with
  | nil => simpa [decimalNumber, exponent] using integer
  | cons c rest =>
    have unit : (Text.isAsciiWord c || decide (128 ≤ c.toNat)) = false := by
      rcases ends c rfl with rfl | rfl | rfl <;> decide
    have stops : endsNumber (c :: rest) = true := by simp [endsNumber, unit]
    have other (d : Char) (apart : d ∉ [' ', ',', ')']) : c ≠ d := by
      rintro rfl
      exact apart (by simpa using ends c rfl)
    have noPoint := other '.' (by decide)
    have noPower : exponent (c :: rest) = some ([], c :: rest) := by
      simp [exponent, other 'e' (by decide), other 'E' (by decide)]
    simpa [decimalNumber, noPoint, noPower, other 'j' (by decide), other 'J' (by decide), stops]
      using integer

theorem numeral_of_isDigit {c : Char} (digit : Text.isDigit c = true)
    (unmarked : ∀ d, rest.head? = some d → d ∉ ['x', 'X', 'o', 'O', 'b', 'B']) :
    numeral (c :: rest) = digits (c :: rest) >>= fun r => decimalNumber r.1 r.2 := by
  unfold numeral
  split
  · rename_i split
    cases split
    exact absurd digit (by decide)
  · rename_i d left split
    obtain ⟨rfl, rfl⟩ := List.cons.inj split
    have mark := unmarked d rfl
    simp only [List.mem_cons, List.not_mem_nil, or_false, not_or] at mark
    simp [mark]
  · rfl

theorem digits_source (n : Numeral) (ends : EndsValue rest) :
    digits (n.source ++ rest) = some (n.first ++ n.more.flatten, rest) := by
  have enough : n.more.length < (n.source ++ rest).length + 1 := by
    have groups : n.more.length ≤ (n.more.flatMap ('_' :: ·)).length :=
      length_le_length_flatMap fun _ _ => List.cons_ne_nil _ _
    simp only [Numeral.source, List.length_append]
    omega
  have groups := groupedDigits_groups n.given n.digits n.grouped ends _ enough
  rwa [← List.append_assoc] at groups

theorem numeral_source (n : Numeral) (ends : EndsValue rest) :
    numeral (n.source ++ rest) = some (.int n.value, rest) := by
  have plain : (n.first ++ n.more.flatten).head? = some '0' →
      ∀ c ∈ n.first ++ n.more.flatten, c = '0' := by
    intro zero
    cases cons : n.first with
    | nil => exact absurd cons n.given
    | cons c first =>
      have front : n.first.head? = some '0' := by simpa [cons] using zero
      exact cons ▸ n.plain front
  obtain ⟨c, more, cons, digit⟩ := n.exists_digit
  have unmarked : ∀ d, (more ++ rest).head? = some d → d ∉ ['x', 'X', 'o', 'O', 'b', 'B'] := by
    intro d head
    cases more with
    | nil => rcases ends d head with rfl | rfl | rfl <;> decide
    | cons e more =>
      cases head
      rcases n.digit_or_join d (by simp [cons]) with inside | rfl
      · have marks : ∀ m ∈ ['x', 'X', 'o', 'O', 'b', 'B'], Text.isDigit m = false := by decide
        intro mark
        rw [marks d mark] at inside
        cases inside
      · decide
  have read := numeral_of_isDigit digit unmarked
  rw [← List.cons_append, ← cons, digits_source n ends] at read
  exact read.trans (decimalNumber_ends n.short plain ends)

theorem inLine_number (n : Numeral) (ends : EndsValue rest) :
    inLine (n.source ++ rest) = some (.number (.int n.value), rest) := by
  have read := numeral_source n ends
  obtain ⟨c, more, cons, digit⟩ := n.exists_digit
  rw [cons, List.cons_append] at read ⊢
  simp [inLine, digit, read]

-- ---------------------------------------------------------------------------
-- Texts and symbols
-- ---------------------------------------------------------------------------

theorem inLine_empty {quote : Char} (quoted : IsQuote quote) (ends : EndsValue rest) :
    inLine (quote :: quote :: rest) = some (.text "", rest) := by
  have simple : quote ≠ '\\' := by rcases quoted with rfl | rfl <;> decide
  have noDigit : Text.isDigit quote = false := by rcases quoted with rfl | rfl <;> decide
  have empty : shortBody quote (quote :: rest) = some ([], rest) := by simp [shortBody, simple]
  have content : Token.body quote (quote :: rest) = some ([], rest) := by
    cases rest with
    | nil => exact empty
    | cons c rest =>
      have other : c ≠ quote := by
        rcases quoted with rfl | rfl <;> rcases ends c rfl with rfl | rfl | rfl <;> decide
      simp [Token.body, other, empty]
  have isQuote : quote = '\'' ∨ quote = '"' := quoted
  simp [inLine, noDigit, isQuote, literalWith, content, decodeText, unescape]

theorem inLine_opening (rest : List Char) : inLine ('(' :: rest) = some (.symbol "(", rest) := rfl

theorem inLine_comma (rest : List Char) : inLine (',' :: rest) = some (.symbol ",", rest) := rfl

theorem inLine_closing (rest : List Char) : inLine (')' :: rest) = some (.symbol ")", rest) := rfl

theorem inLine_leaf (l : Leaf) (ends : EndsValue rest) :
    inLine (l.spelled ++ rest) = some (l.token, rest) := by
  cases l with
  | number n => exact inLine_number n ends
  | truth b =>
    have stops : ∀ c, rest.head? = some c → isNameUnit c = false ∧ c ≠ '\'' ∧ c ≠ '"' := by
      intro c head
      rcases ends c head with rfl | rfl | rfl <;> decide
    have yes : Text.isAsciiName "True".toList = true := by decide
    have no : Text.isAsciiName "False".toList = true := by decide
    cases b with
    | true => exact inLine_name yes stops
    | false => exact inLine_name no stops
  | text q =>
    show inLine (q.quote :: (q.body ++ [q.quote]) ++ rest) =
      some (.text (String.ofList q.body), rest)
    by_cases given : q.body = []
    · simpa [given] using inLine_empty q.quoted ends
    · have plain : ∀ c ∈ q.body, c ≠ q.quote ∧ c ≠ '\\' ∧ c ≠ '\n' := by
        intro c listed
        obtain ⟨other, unescaped⟩ := q.plain c listed
        refine ⟨fun same => other (same ▸ q.quoted), unescaped, ?_⟩
        rintro rfl
        exact absurd (q.printable _ listed).1 (by decide)
      simpa using inLine_text q.quoted given plain rest

end Token

-- ---------------------------------------------------------------------------
-- Rows of pieces
-- ---------------------------------------------------------------------------

theorem Leaf.exists_opens (l : Leaf) : ∃ c rest, l.spelled = c :: rest ∧ Token.OpensToken c := by
  cases l with
  | number n =>
    obtain ⟨c, rest, cons, digit⟩ := n.exists_digit
    exact ⟨c, rest, cons, Token.opensToken_of_isAsciiWord (isAsciiWord_of_isDigit digit)⟩
  | truth b =>
    cases b with
    | true => exact ⟨'T', _, rfl, by simp [Token.OpensToken]⟩
    | false => exact ⟨'F', _, rfl, by simp [Token.OpensToken]⟩
  | text q =>
    refine ⟨q.quote, _, rfl, ?_⟩
    rcases q.quoted with quote | quote <;> simp [Token.OpensToken, quote]

namespace Piece

open Token

variable {last : Last} {ps : List Piece} {level : Nat}

theorem endsValue_row (follow : Follow .value ps) : EndsValue (ps.flatMap spelled) := by
  intro c head
  cases ps with
  | nil => cases head
  | cons p ps =>
    cases p with
    | opening => exact absurd follow.1 (by decide)
    | leaf l => exact absurd rfl follow.1
    | space =>
      cases head
      exact .inl rfl
    | comma =>
      cases head
      exact .inr (.inl rfl)
    | closing =>
      cases head
      exact .inr (.inr rfl)

theorem owe_closing (level : Nat) :
    owe (.replicate (level + 1) ")") (.symbol ")") = some (.replicate level ")") := rfl

theorem owe_opening (room : level < 200) :
    owe (.replicate level ")") (.symbol "(") = some (.replicate (level + 1) ")") := by
  simp [owe, closing?, Nat.not_le.mpr room, List.replicate_succ]

/-- A row is cut piece by piece. -/
theorem scan_row (follow : Follow last ps) (balanced : Balanced 200 level ps) (fuel : Nat)
    (enough : 2 * ps.length < fuel) :
    scan fuel false (.replicate level ")") [] (ps.flatMap spelled) =
      some (ps.flatMap tokens ++ [.newline]) := by
  induction ps generalizing last level fuel with
  | nil =>
    obtain rfl : level = 0 := balanced
    obtain ⟨fuel, rfl⟩ := Nat.exists_eq_succ_of_ne_zero (Nat.ne_of_gt enough)
    exact scan_end fuel
  | cons p ps ih =>
    obtain ⟨fuel, rfl⟩ : ∃ m, fuel = m + 2 := Nat.exists_eq_add_of_le' (by simp at enough; omega)
    have less : 2 * ps.length < fuel := by simp at enough; omega
    rw [List.flatMap_cons, List.flatMap_cons]
    cases p with
    | opening =>
      obtain ⟨room, balanced⟩ := balanced
      have ends : ∀ c, ('(' :: ps.flatMap spelled).head? = some c →
          isNameUnit c = false ∧ c ≠ '\'' ∧ c ≠ '"' := by
        rintro _ ⟨⟩
        decide
      have name : inLine ('i' :: 'i' :: 'f' :: '(' :: ps.flatMap spelled) =
          some (.name "iif", '(' :: ps.flatMap spelled) := by
        have isName : Text.isAsciiName ['i', 'i', 'f'] = true := by decide
        exact inLine_name isName ends
      show scan (fuel + 2) false _ [] ('i' :: 'i' :: 'f' :: '(' :: ps.flatMap spelled) = _
      rw [scan_token (by simp [OpensToken]) name rfl,
        scan_token (by simp [OpensToken]) (inLine_opening _) (owe_opening room),
        ih follow.2 balanced fuel less]
      rfl
    | leaf l =>
      obtain ⟨c, more, cons, opens⟩ := l.exists_opens
      have value := inLine_leaf l (endsValue_row follow.2)
      have free : owe (.replicate level ")") l.token = some (.replicate level ")") := by
        cases l <;> rfl
      show scan (fuel + 2) false _ [] (l.spelled ++ ps.flatMap spelled) = _
      rw [cons, List.cons_append] at value ⊢
      rw [scan_token opens value free, ih follow.2 balanced (fuel + 1) (Nat.lt_succ_of_lt less)]
      rfl
    | space =>
      show scan (fuel + 2) false _ [] (' ' :: ps.flatMap spelled) = _
      rw [scan_space, @ih .gap _ follow balanced (fuel + 1) (Nat.lt_succ_of_lt less)]
      rfl
    | comma =>
      show scan (fuel + 2) false _ [] (',' :: ps.flatMap spelled) = _
      rw [scan_token (by simp [OpensToken]) (inLine_comma _) rfl,
        @ih .gap _ follow balanced (fuel + 1) (Nat.lt_succ_of_lt less)]
      rfl
    | closing =>
      obtain ⟨given, balanced⟩ := balanced
      obtain ⟨level, rfl⟩ := Nat.exists_eq_succ_of_ne_zero (Nat.ne_of_gt given)
      show scan (fuel + 2) false _ [] (')' :: ps.flatMap spelled) = _
      rw [scan_token (by simp [OpensToken]) (inLine_closing _) (owe_closing level),
        @ih .value level follow balanced (fuel + 1) (Nat.lt_succ_of_lt less)]
      rfl

theorem printable_spelled (p : Piece) : ∀ c ∈ p.spelled, 32 ≤ c.toNat ∧ c.toNat ≤ 126 := by
  cases p with
  | leaf l =>
    intro c listed
    by_cases code : l.IsText
    · cases l with
      | text q =>
        rcases List.mem_cons.mp listed with rfl | inside
        · rcases q.quoted with quote | quote <;> simp [quote]
        rcases List.mem_append.mp inside with inBody | last
        · exact q.printable c inBody
        · obtain rfl := List.mem_singleton.mp last
          rcases q.quoted with quote | quote <;> simp [quote]
      | _ => exact code.elim
    · have range := Text.isAsciiWord_range (Leaf.isAsciiWord_spelled code c listed)
      omega
  | opening => decide
  | space | comma | closing => decide

theorem spelled_ne_nil (p : Piece) : p.spelled ≠ [] := by
  cases p with
  | leaf l =>
    obtain ⟨c, rest, cons, -⟩ := l.exists_opens
    simp [spelled, halfway, cons]
  | opening => decide
  | space | comma | closing => decide

end Piece

-- ---------------------------------------------------------------------------
-- Choices
-- ---------------------------------------------------------------------------

namespace Choice

theorem printable_spelled (t : Choice) : ∀ c ∈ t.spelled, 32 ≤ c.toNat ∧ c.toNat ≤ 126 := by
  intro c listed
  obtain ⟨p, -, here⟩ := List.mem_flatMap.mp listed
  exact p.printable_spelled c here

theorem notMem_spelled {c : Char} (control : c.toNat < 32) (t : Choice) : c ∉ t.spelled :=
  fun listed => absurd (t.printable_spelled c listed).1 (Nat.not_le.mpr control)

theorem exists_opens (t : Choice) : ∃ c rest, t.spelled = c :: rest ∧ Token.OpensToken c := by
  cases t with
  | leaf l => simpa [spelled, pieces, Piece.spelled, Piece.halfway] using l.exists_opens
  | call => exact ⟨'i', _, rfl, by simp [Token.OpensToken]⟩

theorem length_pieces_le (t : Choice) : (t.pieces []).length ≤ t.spelled.length :=
  length_le_length_flatMap fun p _ => p.spelled_ne_nil

theorem ofChars_spelled (t : Choice) (spaced : t.IsSpaced) (shallow : t.depth ≤ 200) :
    Token.ofChars t.spelled = some (t.tokens [.newline]) := by
  have follow : Piece.Follow .gap (t.pieces []) :=
    t.follow_pieces spaced (by decide) (fun _ => rfl) fun _ => trivial
  have balanced : Piece.Balanced 200 0 (t.pieces []) := t.balanced_pieces (by omega) rfl
  have enough : 2 * (t.pieces []).length < 2 * t.spelled.length + 1 := by
    have pieces := t.length_pieces_le
    omega
  have row := Piece.scan_row follow balanced _ enough
  rw [t.flatMap_tokens, List.flatMap_nil, t.tokens_append] at row
  have start : Token.scan (2 * t.spelled.length + 2) true [] [] t.spelled =
      Token.scan (2 * t.spelled.length + 1) false [] [] t.spelled := by
    obtain ⟨c, rest, cons, opens⟩ := t.exists_opens
    rw [cons]
    exact Token.scan_start opens _ _
  rw [Token.ofChars, Token.unifyLineEnds_of_notMem (t.notMem_spelled (by decide))]
  exact start.trans row

end Choice

end Flowline.Condition
