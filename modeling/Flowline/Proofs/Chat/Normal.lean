import Flowline.Proofs.Act.Done
import Flowline.Proofs.Chat.Endpoint
import Flowline.Proofs.Text.Case
import Flowline.Proofs.Web.Location

/-!
# Base addresses in normal form

A base address becomes one with a scheme of the web and a location, without a blank or a placeholder
where it begins and without a slash where it ends. To normalise it once more changes nothing, with
one exception: slashes at the end can hide a blank from being trimmed, and the address of a resource
of Azure then ends with that blank, for nothing is put behind it.
-/

namespace Flowline.Chat.Endpoint

/-- An address that needs no scheme, no trimming in front and no slash to be dropped. -/
structure IsTidy (address : String) : Prop where
  located : ∃ location, Web.Location.ofText? address = some location ∧ isComplete location = true
  front : ∀ c ∈ address.toList.head?, Text.isBlank c = false
  noPlaceholder : ¬ "$\x7b".toList <:+: address.toList
  back : ∀ c ∈ address.toList.getLast?, c ≠ '/'

variable {raw address completed base : String} {location : Web.Location} {endpoint : Endpoint}
  {cs : List Char}

-- ---------------------------------------------------------------------------
-- Steps
-- ---------------------------------------------------------------------------

theorem isComplete_iff : isComplete location = true ↔
    (location.scheme = "http" ∨ location.scheme = "https") ∧ location.host ≠ "" := by
  simp [isComplete]

theorem toList_withScheme (address : String) :
    (withScheme address).toList = "https://".toList ++ address.toList.dropWhile (· == '/') := by
  simp [withScheme]

theorem scheme_withScheme (found : Web.Location.ofText? (withScheme address) = some location) :
    location.scheme = "https" := by
  have counted : Web.visible (withScheme address).toList = "https".toList ++ ':' ::
      ('/' :: '/' :: (address.toList.dropWhile (· == '/')).filter (!Web.isSkipped ·)) := by
    rw [toList_withScheme]
    rfl
  rw [Web.Location.ofText?, Web.ofChars?_eq, counted, Web.splitScheme_append (by decide)] at found
  split at found
  · obtain rfl := Option.some.inj found
    rfl
  · cases found

theorem cases_of_complete (did : complete raw address = .ok completed) :
    (completed = address ∨ completed = withScheme address) ∧
      ∃ location, Web.Location.ofText? completed = some location ∧ isComplete location = true := by
  cases found : Web.Location.ofText? address with
  | none =>
    rw [complete, locate_of_none found] at did
    cases did
  | some location =>
    cases whole : isComplete location with
    | true =>
      rw [complete_of_isComplete found whole] at did
      obtain rfl := Except.ok.inj did
      exact ⟨.inl rfl, location, found, whole⟩
    | false =>
      rw [complete_of_incomplete found whole] at did
      cases host : Web.Location.ofText? (withScheme address) with
      | none =>
        rw [locate_of_none host] at did
        cases did
      | some location' =>
        rw [locate_of_some host] at did
        by_cases empty : location'.host.isEmpty = true
        · have fails := (if_pos empty).symm.trans did
          cases fails
        · have done := (if_neg empty).symm.trans did
          obtain rfl := Except.ok.inj done
          refine ⟨.inr rfl, location', host, isComplete_iff.mpr ⟨.inr (scheme_withScheme host), ?_⟩⟩
          simpa using empty

theorem guard_eq_ok_iff {c : Prop} [Decidable c] {fault : Fault} {f : PUnit → Except Fault α}
    {r : Except Fault α} {a : α} :
    (if c then (throw fault >>= f) else r) = .ok a ↔ ¬ c ∧ r = .ok a := by
  split
  · rename_i holds
    exact iff_of_false nofun fun fails => fails.1 holds
  · rename_i fails
    exact (and_iff_right fails).symm

theorem ofText_eq_ok_iff : ofText raw = .ok endpoint ↔
    Text.trim raw ≠ "" ∧ ¬ "$\x7b".toList <:+: (Text.trim raw).toList ∧
      ∃ completed, complete raw (Text.trim raw) = .ok completed ∧
        ofBase (dropSlashes completed) = endpoint := by
  rw [ofText, guard_eq_ok_iff, guard_eq_ok_iff, Except.bind_eq_ok_iff, String.isEmpty_iff,
    Text.hasPart_iff]
  simp only [pure, Except.pure, Except.ok.injEq, ne_eq]

-- ---------------------------------------------------------------------------
-- Tidy addresses
-- ---------------------------------------------------------------------------

theorem located_iff : (∃ location, Web.Location.ofText? address = some location ∧
    isComplete location = true) ↔ ∃ location scheme behind,
      Web.Spells address.toList location scheme behind ∧
        (location.scheme = "http" ∨ location.scheme = "https") := by
  constructor
  · rintro ⟨location, found, whole⟩
    obtain ⟨web, hosted⟩ := isComplete_iff.mp whole
    have schemed : location.scheme ≠ "" := by rcases web with web | web <;> simp [web]
    obtain ⟨scheme, behind, spells⟩ := Web.exists_spells_iff.mpr ⟨found, schemed, hosted⟩
    exact ⟨location, scheme, behind, spells, web⟩
  · rintro ⟨location, scheme, behind, spells, web⟩
    obtain ⟨found, -, hosted⟩ := Web.exists_spells_iff.mp ⟨scheme, behind, spells⟩
    exact ⟨location, found, isComplete_iff.mpr ⟨web, hosted⟩⟩

theorem noPlaceholder_withScheme (free : ¬ "$\x7b".toList <:+: address.toList) :
    ¬ "$\x7b".toList <:+: (withScheme address).toList := by
  intro held
  have part : "$\x7b".toList <:+: address.toList.dropWhile (· == '/') := by
    rw [toList_withScheme] at held
    simpa [List.infix_cons_iff, List.cons_prefix_cons] using held
  exact free (part.trans (List.dropWhile_suffix _).isInfix)

theorem isBlank_head?_trim (c : Char) (first : (Text.trim raw).toList.head? = some c) :
    Text.isBlank c = false := by
  rw [Text.trim, String.toList_ofList] at first
  exact Text.eq_false_of_head?_dropWhile (Text.head?_of_prefix (Text.dropEnd_prefix _ _) first)

theorem toList_dropSlashes (address : String) :
    (dropSlashes address).toList = Text.dropEnd (· == '/') address.toList :=
  String.toList_ofList

theorem isTidy_dropSlashes (free : ¬ "$\x7b".toList <:+: (Text.trim raw).toList)
    (did : complete raw (Text.trim raw) = .ok completed) : IsTidy (dropSlashes completed) := by
  obtain ⟨whence, located⟩ := cases_of_complete did
  obtain ⟨slashes, whole, slash⟩ := Text.exists_of_dropEnd (· == '/') completed.toList
  have begins := Text.dropEnd_prefix (· == '/') completed.toList
  rw [← toList_dropSlashes] at whole begins
  refine ⟨located_iff.mpr ?_, fun c first => ?_, fun held => ?_, fun c last => ?_⟩
  · obtain ⟨location, scheme, behind, spells, web⟩ := located_iff.mp located
    rw [whole] at spells
    obtain ⟨behind, spells⟩ := spells.dropSlashes fun c listed => by simpa using slash c listed
    exact ⟨location, scheme, behind, spells, web⟩
  · have first := Text.head?_of_prefix begins first
    rcases whence with rfl | rfl
    · exact isBlank_head?_trim c first
    · rw [toList_withScheme] at first
      obtain rfl := Option.some.inj first
      rfl
  · have held := held.trans begins.isInfix
    rcases whence with rfl | rfl
    · exact free held
    · exact noPlaceholder_withScheme free held
  · rw [toList_dropSlashes] at last
    simpa using Text.eq_false_of_getLast?_dropEnd last

-- ---------------------------------------------------------------------------
-- What stands at the end
-- ---------------------------------------------------------------------------

theorem endsWith_iff {s part : String} : s.endsWith part = true ↔ part.toList <:+ s.toList := by
  rw [← String.endsWith_toSlice, String.Slice.endsWith_string_iff, String.copy_toSlice]

theorem IsTidy.append (tidy : IsTidy base) : IsTidy (base ++ "/v1") := by
  have chars : (base ++ "/v1").toList = base.toList ++ '/' :: ['v', '1'] := String.toList_append
  refine ⟨located_iff.mpr ?_, fun c first => ?_, fun held => ?_, fun c last => ?_⟩
  · obtain ⟨location, scheme, behind, spells, web⟩ := located_iff.mp tidy.located
    exact ⟨location, scheme, _, chars ▸ spells.append_slash ['v', '1'], web⟩
  · rw [chars] at first
    cases empty : base.toList with
    | nil =>
      rw [empty] at first
      obtain rfl := Option.some.inj first
      rfl
    | cons d rest =>
      rw [empty] at first
      exact tidy.front c (empty ▸ first)
  · rw [chars, Text.infix_append_cons_iff (by decide)] at held
    rcases held with held | held
    · exact tidy.noPlaceholder held
    · exact absurd held (by decide)
  · rw [chars] at last
    obtain rfl : '1' = c := by simpa using last
    decide

theorem endsWith_append (base : String) : (Text.lower (base ++ "/v1")).endsWith "/v1" = true := by
  have behind := Text.lowerFrom_suffix [] base.toList "/v1".toList
  rw [Text.lowerFrom_ascii (by decide), ← String.toList_append] at behind
  exact endsWith_iff.mpr (by rwa [Text.toList_lower])

/-- A blank is its own lower case, so that no address with `/v1` at its end ends with one. -/
theorem isBlank_getLast?_of_endsWith (ends : (Text.lower base).endsWith "/v1" = true) (c : Char)
    (last : base.toList.getLast? = some c) : Text.isBlank c = false := by
  refine Bool.eq_false_iff.mpr fun blank => ?_
  obtain ⟨front, chars⟩ := List.getLast?_eq_some_iff.mp last
  have image : Text.lowerFrom (front.reverse ++ []) [c] = [c] := by
    have latin : c ≠ 'Σ' := by
      rintro rfl
      cases blank
    rw [Text.lowerFrom, if_neg latin, Text.lowerChar_of_isBlank blank]
    rfl
  have behind := Text.lowerFrom_suffix [] front [c]
  rw [image, ← chars, List.singleton_suffix_iff_getLast?_eq_some] at behind
  rw [endsWith_iff, Text.toList_lower] at ends
  obtain ⟨rest, same⟩ := ends
  rw [← same] at behind
  obtain rfl : '1' = c := by simpa using behind
  cases blank

-- ---------------------------------------------------------------------------
-- Normal forms
-- ---------------------------------------------------------------------------

def namesAzure (s : String) : Bool := Text.hasPart (Text.lower s) azureHost

theorem namesAzure_iff {s : String} :
    namesAzure s = true ↔ azureHost.toList <:+: s.toList.flatMap Text.lowerChar := by
  rw [namesAzure, Text.hasPart_iff, Text.toList_lower]
  exact Text.infix_lowerFrom_iff (by decide) []

theorem namesAzure_append (base : String) : namesAzure (base ++ "/v1") = namesAzure base := by
  have behind : "/v1".toList.flatMap Text.lowerChar = '/' :: ['v', '1'] := by decide
  rw [Bool.eq_iff_iff, namesAzure_iff, namesAzure_iff, String.toList_append, List.flatMap_append,
    behind, Text.infix_append_cons_iff (by decide), or_iff_left (by decide)]

theorem ofBase_eq (base : String) : ofBase base =
    if namesAzure base then ⟨base, true⟩
    else if (Text.lower base).endsWith "/v1" then ⟨base, false⟩
    else ⟨base ++ "/v1", false⟩ := rfl

/-- The endpoint of a tidy address has a tidy address, of which it is the endpoint as well. -/
theorem IsTidy.ofBase (tidy : IsTidy base) :
    IsTidy (ofBase base).url ∧
      Endpoint.ofBase (Endpoint.ofBase base).url = Endpoint.ofBase base := by
  rw [ofBase_eq base]
  split
  · rename_i azure
    exact ⟨tidy, by rw [ofBase_eq, if_pos azure]⟩
  rename_i other
  split
  · rename_i ends
    exact ⟨tidy, by rw [ofBase_eq, if_neg other, if_pos ends]⟩
  · refine ⟨tidy.append, ?_⟩
    rw [ofBase_eq, namesAzure_append, if_neg other, if_pos (endsWith_append base)]

theorem IsTidy.ofText (tidy : IsTidy address)
    (ends : ∀ c, address.toList.getLast? = some c → Text.isBlank c = false) :
    ofText address = .ok (Endpoint.ofBase address) := by
  obtain ⟨location, found, whole⟩ := tidy.located
  have trimmed : Text.trim address = address := by
    rw [Text.trim, Text.trimBoth_eq tidy.front ends, String.ofList_toList]
  have kept : dropSlashes address = address := by
    rw [dropSlashes, Text.dropEnd_eq_self fun c last => by simpa using tidy.back c last,
      String.ofList_toList]
  rw [ofText_eq_ok_iff, trimmed]
  refine ⟨?_, tidy.noPlaceholder, address, complete_of_isComplete found whole, by rw [kept]⟩
  rintro rfl
  obtain ⟨location, scheme, behind, spells, -⟩ := located_iff.mp tidy.located
  exact absurd spells.visible_eq (by simp [Web.visible])

theorem isTidy_url (did : ofText raw = .ok endpoint) :
    IsTidy endpoint.url ∧ ofBase endpoint.url = endpoint := by
  obtain ⟨-, free, completed, did, same⟩ := ofText_eq_ok_iff.mp did
  have tidy := isTidy_dropSlashes free did
  subst same
  exact tidy.ofBase

theorem url_ofBase (base : String) :
    (ofBase base).url = base ∨ (ofBase base).url = base ++ "/v1" := by
  unfold ofBase
  split
  · exact .inl rfl
  · split
    · exact .inl rfl
    · exact .inr rfl

theorem endsWith_of_ofBase (same : ofBase endpoint.url = endpoint)
    (other : endpoint.azure = false) :
    (Text.lower endpoint.url).endsWith "/v1" = true := by
  obtain ⟨url, azure⟩ := endpoint
  rw [ofBase_eq] at same
  split at same
  · obtain ⟨-, rfl⟩ := Endpoint.mk.inj same
    cases other
  · split at same
    · rename_i ends
      exact ends
    · have longer := congrArg (·.url.length) same
      simp at longer

/-- A blank at the end does not survive: without it the address is complete or, with a scheme put
in front, longer than before, and then it repeats the scheme up to the end. -/
theorem isBlank_of_fixed (front : ∀ c ∈ address.toList.head?, Text.isBlank c = false)
    (did : ofText address = .ok endpoint) (fixed : endpoint.url = address) (c : Char)
    (last : address.toList.getLast? = some c) : Text.isBlank c = false := by
  obtain ⟨-, -, completed, did, found⟩ := ofText_eq_ok_iff.mp did
  have trimmed : (Text.trim address).toList = Text.dropEnd Text.isBlank address.toList := by
    rw [Text.trim, String.toList_ofList, Text.trimBoth, Text.trimLeft,
      Text.dropWhile_eq_self front]
    rfl
  have begins : (Text.trim address).toList <+: address.toList := by
    rw [trimmed]
    exact Text.dropEnd_prefix _ _
  rw [← found] at fixed
  rcases url_ofBase (dropSlashes completed) with base | base
  · have within : address.toList <+: completed.toList := by
      rw [← fixed, base, toList_dropSlashes]
      exact Text.dropEnd_prefix _ _
    rcases (cases_of_complete did).1 with kept | hosted
    · rw [kept] at within
      have same := begins.eq_of_length_le within.length_le
      rw [← same, trimmed] at last
      exact Text.eq_false_of_getLast?_dropEnd last
    · rw [hosted, toList_withScheme] at within
      have opens (d : Char) (first : (Text.trim address).toList.head? = some d) : d = 'h' := by
        have first := Text.head?_of_prefix within (Text.head?_of_prefix begins first)
        exact (Option.some.inj first).symm
      rw [Text.dropWhile_eq_self fun d first => by rw [opens d first]; rfl] at within
      have repeats := within.trans ((List.prefix_append_right_inj _).mpr begins)
      have listed := Text.mem_of_prefix_append (List.cons_ne_nil _ _) repeats c
        (List.mem_of_getLast? last)
      exact (by decide : ∀ d ∈ "https://".toList, Text.isBlank d = false) c listed
  · rw [← fixed, base] at last
    obtain rfl : '1' = c := by simpa using last
    rfl

/-- What a base address is normalised to stays as it is, unless it is the address of a resource of
Azure and ends with a blank; then it does not. -/
theorem ofText_url_iff (did : ofText raw = .ok endpoint) :
    ofText endpoint.url = .ok endpoint ↔ (endpoint.azure = true →
      ∀ c, endpoint.url.toList.getLast? = some c → Text.isBlank c = false) := by
  obtain ⟨tidy, same⟩ := isTidy_url did
  constructor
  · intro again _
    exact isBlank_of_fixed tidy.front again rfl
  · intro ends
    rw [tidy.ofText, same]
    cases azure : endpoint.azure with
    | true => exact ends azure
    | false => exact isBlank_getLast?_of_endsWith (endsWith_of_ofBase same azure)

theorem ofText_url_iff_gateway :
    ofText "\u3000//Gateway.example/OpenAI //" =
        .ok ⟨"https://Gateway.example/OpenAI /v1", false⟩ ∧
      ofText "https://Gateway.example/OpenAI /v1" =
        .ok ⟨"https://Gateway.example/OpenAI /v1", false⟩ := by
  have did : ofText "\u3000//Gateway.example/OpenAI //" =
      .ok ⟨"https://Gateway.example/OpenAI /v1", false⟩ := by decide +kernel
  exact ⟨did, (ofText_url_iff did).mpr nofun⟩

/-- A blank in front of the slashes at the end is trimmed only the second time. -/
theorem ofText_blank : ¬ ∀ raw endpoint, ofText raw = .ok endpoint →
    ofText endpoint.url = .ok endpoint := by
  intro fixed
  have again := fixed "https://my-res.openai.azure.com /"
    ⟨"https://my-res.openai.azure.com ", true⟩ (by decide +kernel)
  have trimmed : ofText "https://my-res.openai.azure.com " =
      .ok ⟨"https://my-res.openai.azure.com", true⟩ := by decide +kernel
  rw [trimmed] at again
  exact absurd again (by simp)

end Flowline.Chat.Endpoint
