import Flowline.Condition.Evaluation

/-!
# Kinds of values in a condition

A condition is meant to have a truth value, a number or a text. Values of other kinds do not come
about by themselves: an operation or a function has a value of one of these ordinary kinds, or of a
kind that one of its operands has. Only a power can leave them, for it may be complex.

So the kinds that a term can have are read off its constants and its powers. `Term.Within` says of a
set of kinds that they suffice for that, and `Term.gives_evaluate` that evaluation stays in them.
-/

namespace Flowline

inductive Value.Kind where
  | null
  | bool
  | int
  | float
  | text
  | bytes
  | complex
  | ellipsis
  | list
  | record
  deriving DecidableEq, Repr

def Value.kind : Value → Value.Kind
  | .null => .null
  | .bool _ => .bool
  | .int _ => .int
  | .float _ => .float
  | .text _ => .text
  | .bytes _ => .bytes
  | .complex .. => .complex
  | .ellipsis => .ellipsis
  | .list _ => .list
  | .record _ => .record

/-- A set of kinds that evaluation can stay in: the ordinary ones, and no lists, whose elements
could be of any kind. -/
structure Value.Kind.IsScope (K : Value.Kind → Prop) : Prop where
  bool : K .bool
  int : K .int
  float : K .float
  text : K .text
  noList : ¬ K .list

namespace Condition

-- ---------------------------------------------------------------------------
-- Results of steps that may fail
-- ---------------------------------------------------------------------------

def Gives (P : α → Prop) (r : Except ε α) : Prop := ∀ a, r = .ok a → P a

namespace Gives

variable {P Q : α → Prop} {R : β → Prop} {r : Except ε α} {a : α}

theorem ok (holds : P a) : Gives P (.ok a : Except ε α) := by
  rintro _ ⟨⟩
  exact holds

theorem error (e : ε) : Gives P (.error e : Except ε α) := fun _ impossible => nomatch impossible

theorem bind {f : α → Except ε β} (first : Gives P r) (next : ∀ a, P a → Gives R (f a)) :
    Gives R (r >>= f) := by
  cases r with
  | error e => exact error e
  | ok a => exact next a (first a rfl)

theorem bind_any {f : α → Except ε β} (next : ∀ a, Gives R (f a)) : Gives R (r >>= f) :=
  bind (P := fun _ => True) (fun _ _ => trivial) fun a _ => next a

theorem map {f : α → β} (first : Gives P r) (next : ∀ a, P a → R (f a)) :
    Gives R (r.map f) := by
  cases r with
  | error e => exact error e
  | ok a => exact ok (next a (first a rfl))

theorem map_any {f : α → β} (next : ∀ a, R (f a)) : Gives R (r.map f) :=
  map (P := fun _ => True) (fun _ _ => trivial) fun a _ => next a

theorem mono (given : Gives P r) (weaker : ∀ a, P a → Q a) : Gives Q r :=
  fun a found => weaker a (given a found)

theorem guard {c : Prop} [Decidable c] {e : ε} {f : PUnit → Except ε α} (rest : Gives P r) :
    Gives P (if c then (throw e >>= f) else r) := by
  split
  · exact error e
  · exact rest

theorem error_or {c : Prop} [Decidable c] {e : ε} (holds : P a) :
    Gives P (if c then throw e else pure a : Except ε α) := by
  split
  · exact error e
  · exact ok holds

theorem check {test : Except ε Bool} {stop : Except ε PUnit} (rest : Gives P r) :
    Gives P (test >>= fun c => if c = true then stop >>= fun _ => r else r) := by
  refine bind_any fun c => ?_
  cases c with
  | true => exact bind_any fun _ => rest
  | false => exact rest

end Gives

-- ---------------------------------------------------------------------------
-- Numbers
-- ---------------------------------------------------------------------------

namespace Number

def IsComplex : Number → Prop
  | .complex .. => True
  | _ => False

def Pair.IsComplex : Pair → Prop
  | .complexes .. => True
  | _ => False

/-- An operation whose result is complex only if an operand is. -/
def StaysReal (op : Number → Number → Except Cause Number) : Prop :=
  ∀ a b, Gives (fun n => n.IsComplex → a.IsComplex ∨ b.IsComplex) (op a b)

theorem gives_pair (a b : Number) :
    Gives (fun p => p.IsComplex → a.IsComplex ∨ b.IsComplex) (pair a b) := by
  cases a with
  | complex => exact fun _ _ _ => .inl trivial
  | int m =>
    cases b with
    | complex => exact fun _ _ _ => .inr trivial
    | int n => exact .ok nofun
    | float y => exact .bind_any fun _ => .ok nofun
  | float x =>
    cases b with
    | complex => exact fun _ _ _ => .inr trivial
    | int n => exact .bind_any fun _ => .ok nofun
    | float y => exact .ok nofun

theorem staysReal_pair {f : Pair → Except Cause Number}
    (ints : ∀ m n, Gives (¬ ·.IsComplex) (f (.ints m n)))
    (floats : ∀ x y, Gives (¬ ·.IsComplex) (f (.floats x y))) :
    StaysReal fun a b => pair a b >>= f := fun a b => by
  refine (gives_pair a b).bind fun p given => ?_
  cases p with
  | ints m n => exact (ints m n).mono fun _ real complex => absurd complex real
  | floats x y => exact (floats x y).mono fun _ real complex => absurd complex real
  | complexes => exact fun _ _ _ => given trivial

theorem staysReal_add : StaysReal add :=
  staysReal_pair (fun _ _ => .ok nofun) fun _ _ => .ok nofun

theorem staysReal_sub : StaysReal sub :=
  staysReal_pair (fun _ _ => .ok nofun) fun _ _ => .ok nofun

theorem staysReal_mul : StaysReal mul :=
  staysReal_pair (fun _ _ => .ok nofun) fun _ _ => .ok nofun

theorem staysReal_div : StaysReal div := by
  refine staysReal_pair (fun m n => .guard ?_) fun x y => .error_or nofun
  cases Double.nearest (decide (m < 0) != decide (n < 0)) m.natAbs n.natAbs with
  | none => exact .error _
  | some x => exact .ok nofun

theorem staysReal_uncomplex {f : Pair → Except Cause Number}
    (real : ∀ p, Gives (¬ ·.IsComplex) (f p)) :
    StaysReal fun a b => match a, b with
      | .complex .., _ | _, .complex .. => throw .type
      | _, _ => pair a b >>= f := fun a b => by
  dsimp only
  split
  · exact .error _
  · exact .error _
  · exact .bind_any fun p => (real p).mono fun _ real complex => absurd complex real

theorem staysReal_floorDiv : StaysReal floorDiv := by
  refine staysReal_uncomplex fun p => ?_
  cases p with
  | ints m n => exact .error_or nofun
  | floats x y => exact .error_or nofun
  | complexes => exact .error _

theorem staysReal_mod : StaysReal mod := by
  refine staysReal_uncomplex fun p => ?_
  cases p with
  | ints m n => exact .error_or nofun
  | floats x y => exact .error_or nofun
  | complexes => exact .error _

theorem gives_floatPow {x y : Float}
    (real : (x < 0 && !isInfinite x && !isInfinite y && !isNaN y && !isWhole y) = false) :
    Gives (fun n => ¬ n.IsComplex) (floatPow x y) := by
  unfold floatPow
  dsimp only
  split
  · exact .ok nofun
  split
  · exact .ok nofun
  split
  · exact .ok nofun
  split
  · split
    · exact .ok nofun
    · exact .ok nofun
  split
  · split
    · exact .ok nofun
    · exact .ok nofun
  split
  · refine .guard ?_
    exact .ok nofun
  split
  · simp_all
  · refine .guard ?_
    exact .ok nofun

variable {K : Value.Kind → Prop} {v : Value} {x : Number}

theorem kind_toValue (scope : Value.Kind.IsScope K) (complex : x.IsComplex → K .complex) :
    K x.toValue.kind := by
  cases x with
  | int => exact scope.int
  | float => exact scope.float
  | complex => exact complex trivial

theorem kind_of_isComplex (number : ofValue? v = some x) (complex : x.IsComplex) :
    v.kind = .complex := by
  cases v <;> cases number <;> first | rfl | cases complex

end Number

-- ---------------------------------------------------------------------------
-- Operations
-- ---------------------------------------------------------------------------

section

variable {K : Value.Kind → Prop} {P : α → Prop} {a b v : Value} {args : List Value}

theorem gives_fail (cause : Cause) : Gives P (Operation.fail cause) := .error _

theorem gives_refusing {r : Except Refusal α} (given : Gives P r) : Gives P (refusing r) := by
  cases r with
  | error refusal => exact .error _
  | ok a => exact .ok (given a rfl)

theorem gives_lift {r : Except Cause α} (given : Gives P r) : Gives P (Operation.lift r) := by
  cases r with
  | error cause => exact gives_fail cause
  | ok a => exact .ok (given a rfl)

variable (scope : Value.Kind.IsScope K)

include scope

namespace Operation

theorem gives_numeric {op : Number → Number → Except Cause Number}
    (real : Number.StaysReal op ∨ K .complex) (left : K a.kind) (right : K b.kind) :
    Gives (K ·.kind) (numeric op a b) := by
  unfold numeric
  split
  · rename_i x y isX isY
    refine gives_lift ?_
    rcases real with real | complex
    · refine (real x y).map fun n back => Number.kind_toValue scope fun isComplex => ?_
      rcases back isComplex with isComplex | isComplex
      · exact Number.kind_of_isComplex isX isComplex ▸ left
      · exact Number.kind_of_isComplex isY isComplex ▸ right
    · exact .map_any fun n => Number.kind_toValue scope fun _ => complex
  · exact gives_fail _

theorem gives_sum : K a.kind → K b.kind → Gives (K ·.kind) (match a, b with
    | .text s, .text t => pure (.text (s ++ t))
    | .bytes s, .bytes t => pure (.bytes (s ++ t))
    | _, _ => numeric Number.add a b : Except Refusal Value) := by
  intro left right
  split
  · exact .ok scope.text
  · exact .ok left
  · exact gives_numeric scope (.inl Number.staysReal_add) left right

theorem gives_add (left : K a.kind) (right : K b.kind) : Gives (K ·.kind) (add a b) := by
  have sum := gives_sum scope left right
  unfold add
  dsimp only
  split
  · split
    · exact .guard sum
    · exact sum
  · exact sum

omit scope in
theorem gives_repeated {build : Nat → Value} (times : Value) (built : ∀ n, K (build n).kind) :
    Gives (K ·.kind) (repeated times build) := by
  unfold repeated
  split
  · split
    · exact gives_fail _
    · exact .ok (built _)
  · exact gives_fail _

theorem gives_product : K a.kind → K b.kind → Gives (K ·.kind) (match a, b with
    | .text s, times | times, .text s => repeated times (repeatText s)
    | .bytes octets, times | times, .bytes octets => repeated times (repeatBytes octets)
    | _, _ => numeric Number.mul a b : Except Refusal Value) := by
  intro left right
  split
  · exact gives_repeated _ fun _ => scope.text
  · exact gives_repeated _ fun _ => scope.text
  · exact gives_repeated _ fun _ => left
  · exact gives_repeated _ fun _ => right
  · exact gives_numeric scope (.inl Number.staysReal_mul) left right

theorem gives_mul (left : K a.kind) (right : K b.kind) : Gives (K ·.kind) (mul a b) := by
  have result := gives_product scope left right
  unfold mul
  dsimp only
  split
  · refine .bind_any fun _ => .guard ?_
    split
    · exact .bind_any fun _ => .guard result
    · exact result
  · split
    · exact .bind_any fun _ => .guard result
    · exact result

theorem gives_mod (left : K a.kind) (right : K b.kind) : Gives (K ·.kind) (mod a b) := by
  unfold mod
  split
  · exact gives_lift (.map_any fun _ => scope.text)
  · exact gives_lift (.map_any fun _ => left)
  · exact gives_numeric scope (.inl Number.staysReal_mod) left right

theorem gives_pow (complex : K .complex) (left : K a.kind) (right : K b.kind) :
    Gives (K ·.kind) (pow a b) :=
  .check (.check (gives_numeric scope (.inr complex) left right))

theorem gives_shift (symbol : String) (op : Int → Nat → Int) (a b : Value) :
    Gives (K ·.kind) (shift symbol op a b) := by
  refine .check (.check ?_)
  split
  · split
    · exact gives_fail _
    · exact .ok scope.int
  · exact gives_fail _

theorem gives_bitwise (onBools : Bool → Bool → Bool) (onInts : Int → Int → Int) (a b : Value) :
    Gives (K ·.kind) (bitwise onBools onInts a b) := by
  unfold bitwise
  split
  · exact .ok scope.bool
  · split
    · exact .ok scope.int
    · exact gives_fail _

/-- Only a power can have a kind that its operands do not have. -/
theorem gives_binary {op : BinaryOp} (power : op = .pow → K .complex) (left : K a.kind)
    (right : K b.kind) : Gives (K ·.kind) (binary op a b) := by
  cases op with
  | add => exact gives_add scope left right
  | sub => exact gives_numeric scope (.inl Number.staysReal_sub) left right
  | mul => exact gives_mul scope left right
  | div => exact gives_numeric scope (.inl Number.staysReal_div) left right
  | floorDiv => exact gives_numeric scope (.inl Number.staysReal_floorDiv) left right
  | mod => exact gives_mod scope left right
  | pow => exact gives_pow scope (power rfl) left right
  | shiftLeft => exact gives_shift scope "<<" (fun m n => m * Int.pow 2 n) a b
  | shiftRight => exact gives_shift scope ">>" (fun m n => Int.fdiv m (Int.pow 2 n)) a b
  | bitAnd => exact gives_bitwise scope _ _ a b
  | bitXor => exact gives_bitwise scope _ _ a b
  | bitOr => exact gives_bitwise scope _ _ a b
  | matMul => exact gives_fail _

theorem gives_unary (op : UnaryOp) (operand : K v.kind) : Gives (K ·.kind) (unary op v) := by
  cases op with
  | not => exact .ok scope.bool
  | invert =>
    unfold unary
    dsimp only
    split
    · exact .ok scope.int
    · exact gives_fail _
  | plus =>
    unfold unary
    dsimp only
    split
    · rename_i x number
      exact .ok (Number.kind_toValue scope fun complex =>
        Number.kind_of_isComplex number complex ▸ operand)
    · exact gives_fail _
  | minus =>
    unfold unary
    dsimp only
    split
    · rename_i x number
      refine .ok (Number.kind_toValue scope fun complex => ?_)
      have isComplex : x.IsComplex := by cases x <;> exact complex
      exact Number.kind_of_isComplex number isComplex ▸ operand
    · exact gives_fail _

end Operation

-- ---------------------------------------------------------------------------
-- Functions
-- ---------------------------------------------------------------------------

namespace Function

open Operation (fail lift)

omit scope in
theorem gives_extreme (before : Ordering → Bool) (best : K v.kind) (all : ∀ a ∈ args, K a.kind) :
    Gives (K ·.kind) (extreme before v args) := by
  induction args generalizing v with
  | nil => exact .ok best
  | cons a args ih =>
    obtain ⟨here, further⟩ := List.forall_mem_cons.mp all
    refine .bind_any fun first => ?_
    cases first with
    | true => exact ih here further
    | false => exact ih best further

theorem kind_of_elements? {items : List Value} (given : K v.kind)
    (elements : elements? v = some items) : ∀ a ∈ items, K a.kind := by
  cases v with
  | text s =>
    cases elements
    exact List.forall_mem_map.mpr fun _ _ => scope.text
  | bytes octets =>
    cases elements
    exact List.forall_mem_map.mpr fun _ _ => scope.int
  | list => exact absurd given scope.noList
  | record fields =>
    cases elements
    exact List.forall_mem_map.mpr fun _ _ => scope.text
  | _ => cases elements

theorem gives_extremeOf (before : Ordering → Bool) {default? : Option Value}
    (known : ∀ v ∈ default?, K v.kind) (all : ∀ a ∈ args, K a.kind) :
    Gives (K ·.kind) (extremeOf before default? args) := by
  unfold extremeOf
  split
  · exact gives_fail _
  · rename_i only
    have given : K only.kind := all only List.mem_cons_self
    split
    · rename_i v rest elements
      obtain ⟨here, further⟩ := List.forall_mem_cons.mp (kind_of_elements? scope given elements)
      exact gives_extreme before here further
    · split
      · exact .ok (known _ rfl)
      · exact gives_fail _
    · exact gives_fail _
  · obtain ⟨here, further⟩ := List.forall_mem_cons.mp all
    split
    · exact gives_fail _
    · exact gives_extreme before here further

theorem gives_toInt (direction : Double.Rounding) (x : Float) :
    Gives (K ·.kind) (toInt direction x) := by
  unfold toInt
  split
  · exact .ok scope.int
  · exact gives_fail _

theorem gives_rounded (v places : Value) : Gives (K ·.kind) (rounded v places) := by
  unfold rounded
  split
  · split
    · exact .ok scope.int
    · exact .ok scope.int
    · exact gives_fail _
  · split
    · exact gives_toInt scope _ _
    · split
      · exact .ok scope.float
      · exact gives_fail _
    · exact gives_fail _
  · exact gives_fail _

theorem gives_squareRoot (v : Value) : Gives (K ·.kind) (squareRoot v) := by
  refine .bind_any fun x => ?_
  split
  · exact gives_fail _
  · exact .ok scope.float

theorem gives_realPower (a b : Value) : Gives (K ·.kind) (realPower a b) := by
  refine .bind_any fun x => .bind_any fun y => ?_
  split
  · exact gives_fail _
  split
  · exact gives_fail _
  rename_i real
  split
  · exact .ok scope.float
  · exact gives_lift ((Number.gives_floatPow (Bool.eq_false_iff.mpr real)).map fun n isReal =>
      Number.kind_toValue scope fun complex => absurd complex isReal)

theorem gives_whole (direction : Double.Rounding) (v : Value) :
    Gives (K ·.kind) (whole direction v) := by
  unfold whole
  split
  · exact .ok scope.int
  · exact gives_toInt scope _ _
  · exact gives_fail _

theorem gives_letters (change : String → String) (v : Value) :
    Gives (K ·.kind) (letters change v) := by
  unfold letters
  split
  · exact .ok scope.text
  · exact gives_fail _

theorem gives_applyPositional (f : Function) (all : ∀ a ∈ args, K a.kind) :
    Gives (K ·.kind) (applyPositional f args) := by
  unfold applyPositional
  split
  · rename_i v
    split
    · rename_i x number
      exact .ok (Number.kind_toValue scope fun complex => by cases x <;> cases complex)
    · exact gives_fail _
  · exact gives_extremeOf scope _ nofun all
  · exact gives_extremeOf scope _ nofun all
  · exact gives_rounded scope _ _
  · exact gives_rounded scope _ _
  · exact gives_squareRoot scope _
  · exact gives_realPower scope _ _
  · exact gives_whole scope _ _
  · exact gives_whole scope _ _
  · split
    · exact .ok scope.int
    · exact gives_fail _
  · exact gives_letters scope _ _
  · exact gives_letters scope _ _
  · rename_i test yes no
    refine .ok ?_
    split
    · exact all yes (by simp)
    · exact all no (by simp)
  · exact gives_fail _

omit scope in
theorem kind_of_find? {named : Fields Value} (others : ∀ entry ∈ named, K entry.2.kind)
    {key : String} (found : Fields.find? named key = some v) : K v.kind := by
  induction named with
  | nil => cases found
  | cons entry named ih =>
    obtain ⟨here, further⟩ := List.forall_mem_cons.mp others
    simp only [Fields.find?] at found
    split at found
    · cases found
      exact here
    · exact ih further found

omit scope in
theorem kind_of_arrange {names : List String} {named : Fields Value} {arranged : List Value}
    (all : ∀ a ∈ args, K a.kind) (others : ∀ entry ∈ named, K entry.2.kind)
    (found : arrange names args named = some arranged) : ∀ a ∈ arranged, K a.kind := by
  unfold arrange at found
  dsimp only at found
  split at found
  · cases found
    refine List.forall_mem_append.mpr ⟨all, fun a listed => ?_⟩
    obtain ⟨key, -, given⟩ := List.mem_filterMap.mp listed
    exact kind_of_find? others given
  · cases found

theorem gives_apply (f : Function) {named : Fields Value} (all : ∀ a ∈ args, K a.kind)
    (others : ∀ entry ∈ named, K entry.2.kind) : Gives (K ·.kind) (f.apply args named) := by
  unfold apply
  split
  · exact gives_applyPositional scope f all
  · exact gives_extremeOf scope _ (by simpa using others) all
  · exact gives_extremeOf scope _ (by simpa using others) all
  · split
    · rename_i arranged found
      exact gives_applyPositional scope f (kind_of_arrange all others found)
    · exact gives_fail _

end Function

end

-- ---------------------------------------------------------------------------
-- Terms
-- ---------------------------------------------------------------------------

namespace Term

mutual
/-- The kinds of the constants that can become the value of a term are in a set, and so is that of
complex numbers if there is a power among its operations. -/
def Within (K : Value.Kind → Prop) : Term → Prop
  | .constant v => K v.kind
  | .unary _ x => x.Within K
  | .binary op x y => (op = .pow → K .complex) ∧ x.Within K ∧ y.Within K
  | .all terms | .any terms => terms ≠ [] ∧ AllWithin K terms
  | .choose _ yes no => yes.Within K ∧ no.Within K
  | .call _ args named => AllWithin K args ∧ NamedWithin K named
  -- a field stands in a joined text only, which is a text whatever it is joined from
  | .field .. => False
  | .name _ | .compare .. | .joined _ | .refused .. => True
def AllWithin (K : Value.Kind → Prop) : List Term → Prop
  | [] => True
  | t :: rest => t.Within K ∧ AllWithin K rest
def NamedWithin (K : Value.Kind → Prop) : List (Option String × Term) → Prop
  | [] => True
  | (_, t) :: rest => t.Within K ∧ NamedWithin K rest
end

section

variable {K : Value.Kind → Prop}

theorem gives_checkLength {v : Value} (given : K v.kind) : Gives (K ·.kind) (checkLength v) := by
  unfold checkLength
  split
  · split
    · exact .error _
    · exact .ok given
  · exact .ok given

theorem gives_evaluateChain (scope : Value.Kind.IsScope K) (source : String) (word : Bool)
    (left : Value) (rest : List (Comparison × Term)) :
    Gives (K ·.kind) (evaluateChain source word left rest) := by
  induction rest generalizing word left with
  | nil => exact .ok scope.bool
  | cons operand rest ih =>
    refine .bind_any fun right => .bind_any fun holds => ?_
    split
    · exact ih _ _
    · exact .ok scope.bool

mutual
theorem gives_evaluate (scope : Value.Kind.IsScope K) (source : String) :
    ∀ t : Term, t.Within K → Gives (K ·.kind) (t.evaluate source)
  | .constant v, within => gives_refusing (gives_checkLength within)
  | .name id, _ => .ok scope.text
  | .unary op x, within =>
    .bind (gives_evaluate scope source x within) fun _ operand =>
      gives_refusing (Operation.gives_unary scope op operand)
  | .binary op x y, within => by
    obtain ⟨power, left, right⟩ := within
    have result : Gives (K ·.kind)
        (evaluate source x >>= fun a => evaluate source y >>= fun b =>
          refusing (Operation.binary op a b)) :=
      .bind (gives_evaluate scope source x left) fun _ here =>
        .bind (gives_evaluate scope source y right) fun _ there =>
          gives_refusing (Operation.gives_binary scope power here there)
    cases op with
    | matMul => exact .error _
    | _ => exact result
  | .all terms, within => gives_evaluateAll scope source terms within.1 within.2
  | .any terms, within => gives_evaluateAny scope source terms within.1 within.2
  | .choose test yes no, within => by
    refine .bind_any fun decision => ?_
    split
    · exact gives_evaluate scope source yes within.1
    · exact gives_evaluate scope source no within.2
  | .call callee args named, within => by
    have positional := gives_evaluateArgs scope source args within.1
    have others := gives_evaluateNamed scope source named within.2
    cases callee with
    | name id =>
      unfold evaluate
      split
      · exact .error _
      · rename_i f known
        refine positional.bind fun args all => others.bind fun named each => ?_
        split
        · exact gives_refusing (gives_fail _)
        · exact gives_refusing (Function.gives_apply scope f all (List.forall_mem_map.mpr each))
    | refused construct parts =>
      by_cases access : construct = "Attribute"
      · subst access
        exact .error _
      · have refused : evaluate source (.call (.refused construct parts) args named) =
            .error (.refused .notCallable) := by simp [evaluate, access]
        exact refused ▸ .error _
    | _ => exact .error _
  | .compare first rest, _ => .bind_any fun v => gives_evaluateChain scope source _ v rest
  | .joined parts, _ => .bind_any fun texts => .ok scope.text
  | .refused construct _, _ => .error _
theorem gives_evaluateAll (scope : Value.Kind.IsScope K) (source : String) :
    ∀ terms : List Term, terms ≠ [] → AllWithin K terms →
      Gives (K ·.kind) (evaluateAll source terms)
  | [t], _, within => gives_evaluate scope source t within.1
  | t :: u :: rest, _, within => by
    refine .bind (gives_evaluate scope source t within.1) fun v given => ?_
    split
    · exact gives_evaluateAll scope source (u :: rest) (List.cons_ne_nil _ _) within.2
    · exact .ok given
theorem gives_evaluateAny (scope : Value.Kind.IsScope K) (source : String) :
    ∀ terms : List Term, terms ≠ [] → AllWithin K terms →
      Gives (K ·.kind) (evaluateAny source terms)
  | [t], _, within => gives_evaluate scope source t within.1
  | t :: u :: rest, _, within => by
    refine .bind (gives_evaluate scope source t within.1) fun v given => ?_
    split
    · exact .ok given
    · exact gives_evaluateAny scope source (u :: rest) (List.cons_ne_nil _ _) within.2
theorem gives_evaluateArgs (scope : Value.Kind.IsScope K) (source : String) :
    ∀ terms : List Term, AllWithin K terms →
      Gives (fun args => ∀ v ∈ args, K v.kind) (evaluateArgs source terms)
  | [], _ => .ok nofun
  | t :: rest, within =>
    .bind (gives_evaluate scope source t within.1) fun _ here =>
      .bind (gives_evaluateArgs scope source rest within.2) fun _ further =>
        .ok (List.forall_mem_cons.mpr ⟨here, further⟩)
theorem gives_evaluateNamed (scope : Value.Kind.IsScope K) (source : String) :
    ∀ terms : List (Option String × Term), NamedWithin K terms →
      Gives (fun named => ∀ entry ∈ named, K entry.2.kind) (evaluateNamed source terms)
  | [], _ => .ok nofun
  | (_, t) :: rest, within =>
    .bind (gives_evaluate scope source t within.1) fun _ here =>
      .bind (gives_evaluateNamed scope source rest within.2) fun _ further =>
        .ok (List.forall_mem_cons.mpr ⟨here, further⟩)
end

end

end Term

end Condition

end Flowline
