import Flowline.Proofs.Act.Done
import Flowline.Proofs.Text.Utf16
import Flowline.Sql.Credential
import Mathlib.Data.Nat.Digits.Defs

/-!
# Octets of access tokens

The octets that the driver takes say how many octets follow and then the text, so that both can be
read off them again: the first four are the count, and the others are the text in 16-bit units, two
octets for each. Different tokens therefore have different octets. A token has octets exactly if it
holds no half of a pair on its own and the count fits into its four octets.
-/

namespace Flowline.Sql

variable {text : List Char} {token : Token} {octets : List UInt8}

-- ---------------------------------------------------------------------------
-- Numbers in octets
-- ---------------------------------------------------------------------------

theorem length_littleEndian (count n : Nat) : (littleEndian count n).length = count := by
  induction count generalizing n with
  | zero => rfl
  | succ count ih => rw [littleEndian, List.length_cons, ih]

theorem ofDigits_littleEndian {count n : Nat} (fits : n < 256 ^ count) :
    Nat.ofDigits 256 ((littleEndian count n).map UInt8.toNat) = n := by
  induction count generalizing n with
  | zero =>
    obtain rfl : n = 0 := by simpa using fits
    rfl
  | succ count ih =>
    have further : n / 256 < 256 ^ count :=
      Nat.div_lt_of_lt_mul (by rwa [Nat.pow_succ, Nat.mul_comm] at fits)
    have low : (UInt8.ofNat (n % 256)).toNat = n % 256 :=
      UInt8.toNat_ofNat_of_lt (Nat.mod_lt n (by decide))
    rw [littleEndian, List.map_cons, Nat.ofDigits_cons, ih further, low]
    exact Nat.mod_add_div n 256

theorem units?_littleEndian {unit : Nat} (small : unit < 0x10000) (rest : List UInt8) :
    Text.Utf16.units? .little (littleEndian 2 unit ++ rest) =
      (Text.Utf16.units? .little rest).map (unit :: ·) := by
  have low : (UInt8.ofNat (unit % 256)).toNat = unit % 256 :=
    UInt8.toNat_ofNat_of_lt (Nat.mod_lt unit (by decide))
  have high : (UInt8.ofNat (unit / 256 % 256)).toNat = unit / 256 := by
    have single : unit / 256 < 256 := Nat.div_lt_of_lt_mul small
    rw [Nat.mod_eq_of_lt single]
    exact UInt8.toNat_ofNat_of_lt single
  have joined : Text.Utf16.unit .little (UInt8.ofNat (unit % 256))
      (UInt8.ofNat (unit / 256 % 256)) = unit := by
    rw [Text.Utf16.unit, low, high, Nat.mul_comm]
    exact Nat.div_add_mod unit 256
  rw [littleEndian, littleEndian, littleEndian, List.cons_append, List.cons_append, List.nil_append,
    Text.Utf16.units?, joined]

theorem units?_flatMap {units : List Nat} (small : ∀ unit ∈ units, unit < 0x10000) :
    Text.Utf16.units? .little (units.flatMap (littleEndian 2)) = some units := by
  induction units with
  | nil => rfl
  | cons unit units ih =>
    obtain ⟨bound, small⟩ := List.forall_mem_cons.mp small
    rw [List.flatMap_cons, units?_littleEndian bound, ih small, Option.map_some]

-- ---------------------------------------------------------------------------
-- Texts in octets
-- ---------------------------------------------------------------------------

def octets16 (text : List Char) : List UInt8 :=
  (text.flatMap Text.Utf16.units).flatMap (littleEndian 2)

theorem length_octets16 (text : List Char) :
    (octets16 text).length = 2 * (text.flatMap Text.Utf16.units).length := by
  simp only [octets16, List.length_flatMap, length_littleEndian, List.map_const',
    List.sum_replicate_nat, Nat.mul_comm]

theorem decode?_octets16 (text : List Char) :
    Text.Utf16.decode? .little (octets16 text) = some text := by
  have small : ∀ unit ∈ text.flatMap Text.Utf16.units, unit < 0x10000 := by
    intro unit mem
    obtain ⟨c, -, mem⟩ := List.mem_flatMap.mp mem
    exact Text.Utf16.units_lt mem
  rw [Text.Utf16.decode?, octets16, units?_flatMap small, Option.map_some,
    Text.Utf16.ofUnits_units]

theorem octets16_cons (c : Char) (text : List Char) :
    octets16 (c :: text) = (Text.Utf16.units c).flatMap (littleEndian 2) ++ octets16 text := by
  rw [octets16, List.flatMap_cons, List.flatMap_append, octets16]

theorem encode16_char (position : Nat) (text : List Char) :
    encode16 position (text.map .char) = .ok (octets16 text) := by
  induction text generalizing position with
  | nil => rfl
  | cons c text ih =>
    rw [List.map_cons, encode16, ih, octets16_cons]
    rfl

theorem exists_of_encode16 {position : Nat} (encoded : encode16 position token = .ok octets) :
    ∃ text : List Char, token = text.map .char := by
  induction token generalizing position octets with
  | nil => exact ⟨[], rfl⟩
  | cons point token ih =>
    cases point with
    | half unit => cases encoded
    | char c =>
      obtain ⟨behind, encoded, -⟩ := Except.map_eq_ok_iff.mp encoded
      obtain ⟨text, rfl⟩ := ih encoded
      exact ⟨c :: text, rfl⟩

/-- A token has octets exactly if it is a text of characters and its octets can be counted in four
octets. -/
theorem tokenOctets_eq_ok_iff :
    tokenOctets token = .ok octets ↔ ∃ text : List Char, token = text.map .char ∧
      (octets16 text).length < 2 ^ 32 ∧
      octets = littleEndian 4 (octets16 text).length ++ octets16 text := by
  constructor
  · intro made
    obtain ⟨encoded, isEncoded, made⟩ := Except.bind_eq_ok_iff.mp made
    obtain ⟨text, rfl⟩ := exists_of_encode16 isEncoded
    obtain rfl : octets16 text = encoded := Except.ok.inj ((encode16_char 0 text).symm.trans isEncoded)
    split at made
    · exact ⟨text, rfl, Nat.lt_succ_of_le ‹_›, (Except.ok.inj made).symm⟩
    · cases made
  · rintro ⟨text, rfl, short, rfl⟩
    refine Except.bind_eq_ok_iff.mpr ⟨_, encode16_char 0 text, ?_⟩
    rw [if_pos (Nat.le_of_lt_succ short)]
    rfl

-- ---------------------------------------------------------------------------
-- Tokens that are fetched
-- ---------------------------------------------------------------------------

/-- The octets of a token without halves on their own: the first four say how many follow, and those
are read as the token. No other token has the same octets. -/
theorem accessToken_decodes {identity : Identity σ} {client : Option String}
    {world between after : σ}
    (assumed : identity.assume (clientName? client) world = (.done (), between))
    (given : identity.token databaseScope between = (.done (text.map .char), after))
    (short : 2 * (text.flatMap Text.Utf16.units).length < 2 ^ 32) :
    ∃ count octets, accessToken identity client world = (.done (count ++ octets), after) ∧
      count.length = 4 ∧ Nat.ofDigits 256 (count.map UInt8.toNat) = octets.length ∧
      Text.Utf16.decode? .little octets = some text ∧
      ∀ other, tokenOctets other = .ok (count ++ octets) → other = text.map .char := by
  rw [← length_octets16] at short
  have made : tokenOctets (text.map .char) =
      .ok (littleEndian 4 (octets16 text).length ++ octets16 text) :=
    tokenOctets_eq_ok_iff.mpr ⟨text, rfl, short, rfl⟩
  refine ⟨littleEndian 4 (octets16 text).length, octets16 text, ?_, length_littleEndian _ _,
    ofDigits_littleEndian short, decode?_octets16 text, fun other same => ?_⟩
  · exact Act.bind_eq_done_iff.mpr ⟨_, _, assumed, Act.bind_eq_done_iff.mpr
      ⟨_, _, given, Act.ofExcept_eq_done_iff.mpr ⟨made, rfl⟩⟩⟩
  · obtain ⟨text', rfl, -, same⟩ := tokenOctets_eq_ok_iff.mp same
    have octets : octets16 text = octets16 text' := List.append_inj_right same <| by
      rw [length_littleEndian, length_littleEndian]
    have read := decode?_octets16 text'
    rw [← octets, decode?_octets16, Option.some_inj] at read
    rw [read]

/-- It gives a token with characters of one unit, at both ends of their range, and of two. -/
def issuing : Identity Unit where
  assume _ := pure ()
  token _ := pure (['e', 'é', '\uFFFF', '😀', Char.ofNat 0x10FFFF].map .char)

theorem accessToken_decodes_issued :
    let text := ['e', 'é', '\uFFFF', '😀', Char.ofNat 0x10FFFF]
    issuing.assume (clientName? (some "")) () = (.done (), ()) ∧
      issuing.token databaseScope () = (.done (text.map .char), ()) ∧
      2 * (text.flatMap Text.Utf16.units).length < 2 ^ 32 ∧
      ∃ count octets, accessToken issuing (some "") () = (.done (count ++ octets), ()) ∧
        count.length = 4 ∧ Nat.ofDigits 256 (count.map UInt8.toNat) = octets.length ∧
        Text.Utf16.decode? .little octets = some text ∧
        ∀ other, tokenOctets other = .ok (count ++ octets) → other = text.map .char :=
  have short : 2 * (['e', 'é', '\uFFFF', '😀', Char.ofNat 0x10FFFF].flatMap
      Text.Utf16.units).length < 2 ^ 32 := by decide
  ⟨rfl, rfl, short, accessToken_decodes rfl rfl short⟩

end Flowline.Sql
