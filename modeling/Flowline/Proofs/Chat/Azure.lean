import Flowline.Proofs.Chat.Normal

/-!
# Which base addresses are taken for Azure's

A base address counts as that of a resource of Azure if the name of Azure's host stands in it. The
scheme and the marks between the parts cannot hold that name, so it stands in the location or behind
it, and it counts in the one place as in the other. The address is searched as it is written: a
character that does not count for the location can hide a name from the search, and not make one.
-/

namespace Flowline

open Text (lowerChar)

namespace Web

variable {cs part scheme behind : List Char} {location : Location} {c : Char}

def behindLocation (s : String) : String :=
  match (splitScheme (visible s.toList)).2 with
  | '/' :: '/' :: rest => String.ofList (rest.dropWhile (!endsHost ·))
  | rest => String.ofList rest

theorem Spells.behindLocation_eq {s : String} (spells : Spells s.toList location scheme behind) :
    behindLocation s = String.ofList behind := by
  rw [behindLocation, spells.visible_eq, splitScheme_append spells.isScheme]
  exact congrArg String.ofList <| Text.dropWhile_run
    (fun c listed => by simp [spells.inside c listed]) fun c first => by simp [spells.ends c first]

-- ---------------------------------------------------------------------------
-- Parts of what counts
-- ---------------------------------------------------------------------------

theorem isSkipped_cases (skipped : isSkipped c = true) : c = '\t' ∨ c = '\r' ∨ c = '\n' := by
  simpa [isSkipped, or_assoc] using skipped

theorem isSkipped_far : Text.IsFar fun d => isSkipped d = false := by
  refine ⟨by decide, fun d beyond => Bool.eq_false_iff.mpr fun skipped => ?_⟩
  rcases isSkipped_cases skipped with rfl | rfl | rfl <;> exact absurd beyond (by decide)

theorem filter_lowerChar (c : Char) : (lowerChar c).filter (!isSkipped ·) =
    if isSkipped c then [] else lowerChar c := by
  split
  · rename_i skipped
    have small : c.toNat < 65 := by
      rcases isSkipped_cases skipped with rfl | rfl | rfl <;> decide
    simp [Text.lowerChar_of_lt small, skipped]
  · rename_i counts
    refine List.filter_eq_self.mpr fun d image => ?_
    simp [Text.forall_lowerChar isSkipped_far (Bool.eq_false_iff.mpr counts) d image]

theorem filter_flatMap_lowerChar (cs : List Char) :
    (cs.flatMap lowerChar).filter (!isSkipped ·) =
      (cs.filter (!isSkipped ·)).flatMap lowerChar := by
  induction cs with
  | nil => rfl
  | cons c cs ih =>
    rw [List.flatMap_cons, List.filter_append, filter_lowerChar, ih, List.filter_cons]
    cases isSkipped c <;> simp

/-- A name of characters that count and are no marks. -/
structure IsPlainName (name : List Char) : Prop where
  given : name ≠ []
  beyond : ∀ c ∈ name, 32 < c.toNat
  noMark : ∀ c ∈ [':', '/', '?', '#'], c ∉ name

variable {name : List Char}

theorem IsPlainName.infix_dropWhile_iff (plain : IsPlainName name) :
    name <:+: (cs.dropWhile (·.toNat ≤ 32)).flatMap lowerChar ↔ name <:+: cs.flatMap lowerChar := by
  have apart : ∀ d ∈ (cs.takeWhile (·.toNat ≤ 32)).flatMap lowerChar, d ∉ name := by
    intro d image listed
    obtain ⟨c, front, image⟩ := List.mem_flatMap.mp image
    have small : c.toNat ≤ 32 := by simpa using List.mem_takeWhile_imp front
    rw [Text.lowerChar_of_lt (by omega), List.mem_singleton] at image
    subst image
    exact Nat.not_le.mpr (plain.beyond d listed) small
  have whole : cs.flatMap lowerChar = (cs.takeWhile (·.toNat ≤ 32)).flatMap lowerChar ++
      (cs.dropWhile (·.toNat ≤ 32)).flatMap lowerChar := by
    rw [← List.flatMap_append, List.takeWhile_append_dropWhile]
  rw [whole, Text.infix_append_iff_of_forall plain.given apart]

theorem IsPlainName.infix_visible (plain : IsPlainName name)
    (named : name <:+: cs.flatMap lowerChar) : name <:+: (visible cs).flatMap lowerChar := by
  have counts : name.filter (!isSkipped ·) = name := by
    refine List.filter_eq_self.mpr fun c listed => ?_
    refine Bool.not_eq_true' _ |>.mpr (Bool.eq_false_iff.mpr fun skipped => ?_)
    have beyond := plain.beyond c listed
    rcases isSkipped_cases skipped with rfl | rfl | rfl <;> exact absurd beyond (by decide)
  have named := (plain.infix_dropWhile_iff.mpr named).filter (!isSkipped ·)
  rwa [counts, filter_flatMap_lowerChar] at named

theorem IsPlainName.infix_visible_iff (plain : IsPlainName name)
    (counts : ∀ c ∈ cs, isSkipped c = false) :
    name <:+: (visible cs).flatMap lowerChar ↔ name <:+: cs.flatMap lowerChar := by
  have all : visible cs = cs.dropWhile (·.toNat ≤ 32) :=
    List.filter_eq_self.mpr fun c listed => by
      simp [counts c ((List.dropWhile_suffix _).subset listed)]
  rw [all, plain.infix_dropWhile_iff]

theorem toNat_lt_of_isSchemeChar (scheme' : isSchemeChar c = true) : c.toNat < 128 := by
  simp only [isSchemeChar, Bool.or_eq_true, beq_iff_eq, or_assoc] at scheme'
  rcases scheme' with letter | digit | rfl | rfl | rfl
  · exact Text.toNat_lt_of_isAsciiLetter letter
  · have range := Text.isAsciiWord_range (c := c) (by simp [Text.isAsciiWord, digit])
    omega
  · decide
  · decide
  · decide

theorem Spells.infix_iff (spells : Spells cs location scheme behind) (plain : IsPlainName name)
    (noScheme : ¬ name <:+: location.scheme.toList) :
    name <:+: (visible cs).flatMap lowerChar ↔
      name <:+: location.host.toList.flatMap lowerChar ∨ name <:+: behind.flatMap lowerChar := by
  have lower : scheme.flatMap lowerChar = location.scheme.toList := by
    rw [Text.flatMap_lowerChar_ascii, spells.lower]
    have scheme' := spells.isScheme
    simp only [Web.isScheme, Bool.and_eq_true, List.all_eq_true] at scheme'
    exact fun c listed => toNat_lt_of_isSchemeChar (scheme'.2 c listed)
  have marks : [':', '/', '/'].flatMap lowerChar = [':', '/', '/'] := by decide
  have apart : ∀ c ∈ [':', '/', '/'], c ∉ name := fun c listed =>
    plain.noMark c ((by decide : [':', '/', '/'] ⊆ [':', '/', '?', '#']) listed)
  have parts : visible cs = scheme ++ ([':', '/', '/'] ++ (location.host.toList ++ behind)) :=
    spells.visible_eq
  have opens : ∀ c ∈ (behind.flatMap lowerChar).head?, c ∉ name := by
    cases behind with
    | nil => simp
    | cons c rest =>
      have ends := spells.ends c rfl
      simp only [endsHost, Bool.or_eq_true, beq_iff_eq, or_assoc] at ends
      rcases ends with rfl | rfl | rfl <;> rintro _ ⟨⟩ <;> exact plain.noMark _ (by simp)
  rw [parts, List.flatMap_append, List.flatMap_append, List.flatMap_append, lower, marks,
    Text.infix_append_iff_of_head? (by rintro _ ⟨⟩; exact apart ':' List.mem_cons_self),
    or_iff_right noScheme, Text.infix_append_iff_of_forall plain.given apart,
    Text.infix_append_iff_of_head? opens]

end Web

namespace Chat.Endpoint

variable {raw base : String} {endpoint : Endpoint}

theorem isPlainName_azureHost : Web.IsPlainName azureHost.toList := by
  constructor <;> decide

theorem azure_ofBase (base : String) : (ofBase base).azure = namesAzure (ofBase base).url := by
  rw [ofBase_eq]
  split
  · rename_i azure
    exact azure.symm
  · rename_i other
    split
    · exact (Bool.eq_false_iff.mpr other).symm
    · rw [namesAzure_append]
      exact (Bool.eq_false_iff.mpr other).symm

/-- An endpoint is one of Azure if its address as written names the host of Azure. Then the location
or what follows it does so; and if all characters of the address count, either of them is enough. -/
theorem ofText_azure_iff (did : ofText raw = .ok endpoint) :
    ∃ location, Web.Location.ofText? endpoint.url = some location ∧
      endpoint.azure = namesAzure endpoint.url ∧
      (endpoint.azure = true → namesAzure location.host = true ∨
        namesAzure (Web.behindLocation endpoint.url) = true) ∧
      ((∀ c ∈ endpoint.url.toList, Web.isSkipped c = false) →
        (endpoint.azure = true ↔ namesAzure location.host = true ∨
          namesAzure (Web.behindLocation endpoint.url) = true)) := by
  obtain ⟨tidy, same⟩ := isTidy_url did
  have written : endpoint.azure = namesAzure endpoint.url := by rw [← same, azure_ofBase, same]
  obtain ⟨location, scheme, behind, spells, web⟩ := located_iff.mp tidy.located
  have found := (Web.exists_spells_iff.mp ⟨scheme, behind, spells⟩).1
  have parts := spells.infix_iff isPlainName_azureHost
    (by rcases web with web | web <;> rw [web] <;> decide)
  refine ⟨location, found, written, ?_, fun counts => ?_⟩ <;>
    rw [spells.behindLocation_eq, written, namesAzure_iff, namesAzure_iff, namesAzure_iff,
      String.toList_ofList, ← parts]
  · exact isPlainName_azureHost.infix_visible
  · exact (isPlainName_azureHost.infix_visible_iff counts).symm

/-- The name of the resource stands in the query only. -/
theorem ofText_azure_iff_gateway :
    let url := "HTTP://[::1]:80?to=my-res.OpenAI.Azure.com"
    ofText (url ++ "/\n") = .ok ⟨url, true⟩ ∧
      Web.Location.ofText? url = some ⟨"http", "[::1]:80"⟩ ∧
      Web.behindLocation url = "?to=my-res.OpenAI.Azure.com" ∧
      namesAzure (Web.behindLocation url) = true := by
  intro url
  have did : ofText (url ++ "/\n") = .ok ⟨url, true⟩ := by decide +kernel
  have there : Web.Location.ofText? url = some ⟨"http", "[::1]:80"⟩ := by decide +kernel
  obtain ⟨location, found, -, named, -⟩ := ofText_azure_iff did
  obtain rfl := Option.some.inj (there.symm.trans found)
  have absent : namesAzure "[::1]:80" = false := by decide +kernel
  refine ⟨did, there, by decide +kernel, (named rfl).resolve_left ?_⟩
  simp [absent]

/-- An address can name the host of Azure in its path. -/
theorem ofText_azure_path : ¬ ∀ raw endpoint location, ofText raw = .ok endpoint →
    Web.Location.ofText? endpoint.url = some location →
    (endpoint.azure = true ↔ namesAzure location.host = true) := by
  intro reads
  have other := (reads "https://api.example.com/openai.azure.com"
    ⟨"https://api.example.com/openai.azure.com", true⟩ ⟨"https", "api.example.com"⟩
    (by decide +kernel) (by decide +kernel)).mp rfl
  exact absurd other (by decide +kernel)

end Chat.Endpoint

end Flowline
