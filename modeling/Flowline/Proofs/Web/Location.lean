import Flowline.Proofs.Text.Part
import Flowline.Proofs.Text.Word
import Flowline.Web.Location

/-!
# The parts of an address

An address that has a scheme and a network location spells them one behind the other, with `://`
between them, as far as its characters count; the rest is empty or begins with `/`, `?` or `#`. So
what is put behind a slash does not touch the location, and neither does it matter whether slashes
at the end of the address are dropped.
-/

namespace Flowline.Web

def visible (cs : List Char) : List Char := (cs.dropWhile (·.toNat ≤ 32)).filter (!isSkipped ·)

def isScheme (cs : List Char) : Bool :=
  (cs.head?.map Text.isAsciiLetter).getD false && cs.all isSchemeChar

def isGoodHost (host : List Char) : Bool :=
  hasGoodBrackets host && !host.any fun c => markLikeRanges.contains c.toNat

/-- An address spells a scheme and a location, and `behind` is what follows them. -/
structure Spells (cs : List Char) (location : Location) (scheme behind : List Char) : Prop where
  visible_eq : visible cs = scheme ++ ':' :: '/' :: '/' :: (location.host.toList ++ behind)
  isScheme : isScheme scheme = true
  lower : scheme.map Text.lowerAscii = location.scheme.toList
  host_ne_nil : location.host.toList ≠ []
  inside : ∀ c ∈ location.host.toList, endsHost c = false
  ends : ∀ c ∈ behind.head?, endsHost c = true
  good : isGoodHost location.host.toList = true

variable {cs more slashes scheme behind : List Char} {location : Location}

-- ---------------------------------------------------------------------------
-- Characters that count
-- ---------------------------------------------------------------------------

theorem visible_append (begins : ∀ c ∈ more.head?, 32 < c.toNat) :
    visible (cs ++ more) = visible cs ++ more.filter (!isSkipped ·) := by
  simp only [visible, List.dropWhile_append]
  split
  · rename_i none
    have kept : more.dropWhile (·.toNat ≤ 32) = more :=
      Text.dropWhile_eq_self fun c first => by simpa using begins c first
    rw [kept, List.isEmpty_iff.mp none]
    rfl
  · rw [List.filter_append]

theorem visible_append_slashes (slash : ∀ c ∈ slashes, c = '/') :
    visible (cs ++ slashes) = visible cs ++ slashes := by
  have counted : ∀ c ∈ slashes, (!isSkipped c) = true := fun c listed => by
    rw [slash c listed]
    rfl
  rw [visible_append, List.filter_eq_self.mpr counted]
  intro c first
  rw [slash c (List.mem_of_mem_head? first)]
  decide

-- ---------------------------------------------------------------------------
-- Schemes and locations
-- ---------------------------------------------------------------------------

theorem colon_notMem (scheme' : isScheme scheme = true) : ':' ∉ scheme := by
  intro listed
  simp only [isScheme, Bool.and_eq_true, List.all_eq_true] at scheme'
  exact absurd (scheme'.2 _ listed) (by decide)

theorem splitScheme_append (scheme' : isScheme scheme = true) :
    splitScheme (scheme ++ ':' :: more) = (scheme.map Text.lowerAscii, more) := by
  rw [splitScheme, Text.cut?_append (colon_notMem scheme')]
  exact if_pos scheme'

theorem exists_of_splitScheme (given : (splitScheme cs).1 ≠ []) :
    ∃ scheme, isScheme scheme = true ∧ cs = scheme ++ ':' :: (splitScheme cs).2 ∧
      scheme.map Text.lowerAscii = (splitScheme cs).1 := by
  unfold splitScheme at given ⊢
  split at given
  · rename_i scheme rest cut
    split at given
    · rename_i scheme'
      exact ⟨scheme, scheme', by simp [scheme', Text.append_of_cut? cut], by simp [scheme']⟩
    · exact absurd rfl given
  · exact absurd rfl given

theorem networkLocation_append {host : List Char} (inside : ∀ c ∈ host, endsHost c = false)
    (ends : ∀ c ∈ behind.head?, endsHost c = true) :
    networkLocation ('/' :: '/' :: (host ++ behind)) = host :=
  Text.takeWhile_run (fun c listed => by simp [inside c listed])
    fun c first => by simp [ends c first]

theorem exists_of_networkLocation (given : networkLocation cs ≠ []) :
    ∃ behind, cs = '/' :: '/' :: (networkLocation cs ++ behind) ∧
      (∀ c ∈ networkLocation cs, endsHost c = false) ∧
      ∀ c ∈ behind.head?, endsHost c = true := by
  unfold networkLocation at given ⊢
  split at given
  · rename_i rest
    refine ⟨rest.dropWhile (!endsHost ·), by simp, fun c listed => ?_, fun c first => ?_⟩
    · simpa using List.mem_takeWhile_imp listed
    · simpa using Text.eq_false_of_head?_dropWhile first
  · exact absurd rfl given

theorem ofChars?_eq (cs : List Char) : Location.ofChars? cs =
    if isGoodHost (networkLocation (splitScheme (visible cs)).2) then
      some ⟨String.ofList (splitScheme (visible cs)).1,
        String.ofList (networkLocation (splitScheme (visible cs)).2)⟩
    else none := rfl

/-- Exactly an address with a scheme and a location spells them. -/
theorem exists_spells_iff : (∃ scheme behind, Spells cs location scheme behind) ↔
    Location.ofChars? cs = some location ∧ location.scheme ≠ "" ∧ location.host ≠ "" := by
  rw [ofChars?_eq]
  constructor
  · rintro ⟨scheme, behind, spells⟩
    obtain ⟨schemed, host⟩ := location
    rw [spells.visible_eq, splitScheme_append spells.isScheme,
      networkLocation_append spells.inside spells.ends, if_pos spells.good, spells.lower]
    refine ⟨by simp, ?_, ?_⟩
    · rintro rfl
      have none := List.map_eq_nil_iff.mp spells.lower
      have scheme' := spells.isScheme
      rw [none] at scheme'
      cases scheme'
    · rintro rfl
      exact spells.host_ne_nil rfl
  · rintro ⟨found, schemed, hosted⟩
    split at found
    · rename_i good
      obtain rfl := Option.some.inj found
      have opened : (splitScheme (visible cs)).1 ≠ [] := fun none => schemed (by rw [none])
      have located : networkLocation (splitScheme (visible cs)).2 ≠ [] :=
        fun none => hosted (by rw [none])
      obtain ⟨scheme, scheme', cut, lower⟩ := exists_of_splitScheme opened
      obtain ⟨behind, spelled, inside, ends⟩ := exists_of_networkLocation located
      refine ⟨scheme, behind, ?_, scheme', ?_, ?_, ?_, ends, ?_⟩ <;>
        simp only [String.toList_ofList]
      · rw [← spelled, ← cut]
      · exact lower
      · exact fun none => hosted (by rw [none])
      · exact inside
      · exact good
    · cases found

namespace Spells

theorem append_slash (spells : Spells cs location scheme behind) (more : List Char) :
    Spells (cs ++ '/' :: more) location scheme (behind ++ '/' :: more.filter (!isSkipped ·)) where
  visible_eq := by
    have counted : visible (cs ++ '/' :: more) = _ := visible_append (by simp)
    rw [counted, spells.visible_eq]
    simp [isSkipped]
  isScheme := spells.isScheme
  lower := spells.lower
  host_ne_nil := spells.host_ne_nil
  inside := spells.inside
  ends := by
    cases behind with
    | nil => simp [endsHost]
    | cons c behind => exact spells.ends
  good := spells.good

theorem dropSlashes (spells : Spells (cs ++ slashes) location scheme behind)
    (slash : ∀ c ∈ slashes, c = '/') : ∃ behind, Spells cs location scheme behind := by
  have spelled : visible cs ++ slashes =
      (scheme ++ ':' :: '/' :: '/' :: location.host.toList) ++ behind := by
    rw [← visible_append_slashes slash, spells.visible_eq]
    simp
  rcases List.append_eq_append_iff.mp spelled with ⟨cut, within, rfl⟩ | ⟨rest, kept, rfl⟩
  · -- the location does not end with a slash, so none of it is cut off
    have none : cut = [] := by
      by_contra given
      have last : cut.getLast given = location.host.toList.getLast spells.host_ne_nil := by
        have front : cut <:+ scheme ++ ':' :: '/' :: '/' :: location.host.toList :=
          within ▸ List.suffix_append _ _
        have back : location.host.toList <:+ scheme ++ ':' :: '/' :: '/' :: location.host.toList :=
          ⟨scheme ++ [':', '/', '/'], by simp⟩
        exact (front.getLast given).trans (back.getLast _).symm
      have mark := slash _ (List.mem_append_left _ (List.getLast_mem given))
      have inside := spells.inside _ (List.getLast_mem spells.host_ne_nil)
      rw [← last, mark] at inside
      cases inside
    subst none
    exact ⟨[], { spells with visible_eq := by simpa using within.symm, ends := by simp }⟩
  · refine ⟨rest, { spells with visible_eq := by simpa using kept, ends := fun c first => ?_ }⟩
    exact spells.ends c (by simp [Option.mem_def.mp first])

end Spells

end Flowline.Web
