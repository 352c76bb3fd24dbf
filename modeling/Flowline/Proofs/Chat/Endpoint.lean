import Flowline.Run.Task
import Mathlib.Data.List.TakeWhile

/-!
# Base addresses that are no good

A base address that is missing, or that cannot be used, is trouble of the configuration. There is
one exception: an address whose network location is malformed, as it stands or with a scheme put in
front of it, has no parts that could be looked at, and fails for a reason of its own.

This holds of addresses, and so of chat nodes whose prompts can be filled: if an API key is given,
exactly a malformed base makes such a node fail for another reason than its configuration.
-/

namespace Flowline

-- ---------------------------------------------------------------------------
-- Steps that fail for the configuration only
-- ---------------------------------------------------------------------------

/-- A step that has a result, or fails for the configuration. -/
def Settles (r : Except Fault α) : Prop := ∀ fault, r = .error fault → fault.isConfiguration = true

section

variable {r : Except Fault α} {message : String}

theorem settles_ok (a : α) : Settles (.ok a) := nofun

theorem settles_configuration : Settles (.error (.configuration message) : Except Fault α) := by
  rintro _ ⟨⟩
  rfl

theorem not_settles_malformedAddress : ¬ Settles (.error .malformedAddress : Except Fault α) :=
  fun settles => nomatch settles _ rfl

theorem settles_map_iff {f : α → β} : Settles (r >>= fun a => pure (f a)) ↔ Settles r := by
  cases r with
  | ok a => exact iff_of_true (settles_ok _) (settles_ok a)
  | error fault =>
    constructor
    · rintro settles _ ⟨⟩
      exact settles _ rfl
    · rintro settles _ ⟨⟩
      exact settles _ rfl

theorem settles_guard_iff {c : Prop} [Decidable c] {f : PUnit → Except Fault α} :
    Settles (if c then (throw (.configuration message) >>= f) else r) ↔ (¬ c → Settles r) := by
  split
  · rename_i holds
    exact iff_of_true settles_configuration fun fails => absurd holds fails
  · rename_i fails
    exact ⟨fun settles _ => settles, fun settles => settles fails⟩

end

namespace Chat

namespace Endpoint

-- ---------------------------------------------------------------------------
-- Malformed addresses
-- ---------------------------------------------------------------------------

def withScheme (address : String) : String :=
  "https://" ++ String.ofList (address.toList.dropWhile (· == '/'))

/-- An address whose network location is malformed, as it stands or, if it is not complete, with a
scheme in front. -/
inductive IsMalformed (address : String) : Prop where
  | asGiven (malformed : Web.Location.ofText? address = none)
  | asHost {location : Web.Location} (found : Web.Location.ofText? address = some location)
      (incomplete : isComplete location = false)
      (malformed : Web.Location.ofText? (withScheme address) = none)

variable {raw address : String} {location : Web.Location}

theorem locate_of_some (found : Web.Location.ofText? address = some location) :
    locate address = .ok location := by
  simp [locate, found]

theorem locate_of_none (malformed : Web.Location.ofText? address = none) :
    locate address = .error .malformedAddress := by
  simp [locate, malformed]

theorem complete_of_isComplete (found : Web.Location.ofText? address = some location)
    (whole : isComplete location = true) : complete raw address = .ok address := by
  rw [complete, locate_of_some found]
  exact if_pos whole

theorem complete_of_incomplete (found : Web.Location.ofText? address = some location)
    (incomplete : isComplete location = false) : complete raw address = do
      if (← locate (withScheme address)).host.isEmpty then
        throw (.configuration ("Invalid AI base URL: " ++ raw))
      return withScheme address := by
  rw [complete, locate_of_some found]
  exact if_neg (by simp [incomplete])

theorem settles_complete_iff : Settles (complete raw address) ↔ ¬ IsMalformed address := by
  cases found : Web.Location.ofText? address with
  | none =>
    refine iff_of_false ?_ (not_not_intro (.asGiven found))
    rw [complete, locate_of_none found]
    exact not_settles_malformedAddress
  | some location =>
    cases whole : isComplete location with
    | true =>
      rw [complete_of_isComplete found whole]
      refine iff_of_true (settles_ok _) ?_
      rintro (malformed | ⟨found', incomplete, -⟩) <;> simp_all
    | false =>
      rw [complete_of_incomplete found whole]
      cases host : Web.Location.ofText? (withScheme address) with
      | none =>
        rw [locate_of_none host]
        exact iff_of_false not_settles_malformedAddress (not_not_intro (.asHost found whole host))
      | some host' =>
        rw [locate_of_some host]
        refine iff_of_true (settles_guard_iff.mpr fun _ => settles_ok _) ?_
        rintro (malformed | ⟨-, -, malformed⟩) <;> simp_all

/-- A base that is given and holds no placeholder, but whose location is malformed. -/
structure IsBroken (raw : String) : Prop where
  given : Text.trim raw ≠ ""
  noPlaceholder : Text.hasPart (Text.trim raw) "$\x7b" = false
  malformed : IsMalformed (Text.trim raw)

theorem settles_ofText_iff : Settles (ofText raw) ↔ ¬ IsBroken raw := by
  rw [ofText, settles_guard_iff, settles_guard_iff, settles_map_iff, settles_complete_iff]
  constructor
  · rintro settles ⟨given, noPlaceholder, malformed⟩
    exact settles (by simpa using given) (by simpa using noPlaceholder) malformed
  · intro whole given noPlaceholder malformed
    exact whole ⟨by simpa using given, by simpa using noPlaceholder, malformed⟩

theorem not_isBroken_of_isBlankText (blank : Text.isBlankText raw = true) : ¬ IsBroken raw := by
  rintro ⟨given, -, -⟩
  have nothing : Text.trimLeft raw.toList = [] :=
    List.dropWhile_eq_nil_iff.mpr (List.all_eq_true.mp blank)
  exact given (by simp [Text.trim, Text.trimBoth, nothing, Text.trimRight])

end Endpoint

theorem Model.settles_resolve_iff {defaults : Defaults} {overrides : Overrides} :
    Settles (resolve defaults overrides) ↔
      ¬ (Text.trim (orElseText overrides.apiKey defaults.apiKey) ≠ "" ∧
        Endpoint.IsBroken (orElseText overrides.baseUrl defaults.baseUrl)) := by
  rw [resolve, settles_guard_iff, settles_map_iff, Endpoint.settles_ofText_iff]
  constructor
  · rintro settles ⟨key, broken⟩
    refine settles ?_ broken
    have given := mt Endpoint.not_isBroken_of_isBlankText (not_not_intro broken)
    simp [given, key]
  · intro whole given broken
    refine whole ⟨?_, broken⟩
    simp_all

end Chat

namespace LlmConfig

open Chat

variable {config : LlmConfig} {defaults : Defaults} {context : Context} {system user : String}

theorem exchange_of_filled (systemFilled : context.fill config.systemPrompt = .ok system)
    (userFilled : context.fill config.userPrompt = .ok user) :
    config.exchange defaults context =
      Model.resolve defaults config.overrides >>= fun model => pure ⟨model, system, user⟩ := by
  rw [exchange, systemFilled, userFilled]
  rfl

/-- An address has an endpoint or a fault of the configuration unless its location is malformed, and
a chat exchange, once its prompts are filled, has no other trouble with a key either. -/
theorem exchange_settles_iff (systemFilled : context.fill config.systemPrompt = .ok system)
    (userFilled : context.fill config.userPrompt = .ok user) :
    (∀ raw, Settles (Endpoint.ofText raw) ↔ ¬ Endpoint.IsBroken raw) ∧
      (Settles (config.exchange defaults context) ↔
        ¬ (Text.trim (orElseText config.apiKey defaults.apiKey) ≠ "" ∧
          Endpoint.IsBroken (orElseText config.baseUrl defaults.baseUrl))) := by
  refine ⟨fun raw => Endpoint.settles_ofText_iff, ?_⟩
  rw [exchange_of_filled systemFilled userFilled, settles_map_iff]
  exact Model.settles_resolve_iff

/-- A chat node whose base is well formed until it is taken for a host. -/
def bracketed : LlmConfig where
  systemPrompt := "Answer in {{ language }}."
  userPrompt := "{{input}}"
  baseUrl := some " /models[1/v1"
  apiKey := some "key"

theorem exchange_settles_iff_bracketed :
    let context : Context := { input := .text "Hi", perNode := [("language", .text "Danish")] }
    context.fill bracketed.systemPrompt = .ok "Answer in Danish." ∧
      context.fill bracketed.userPrompt = .ok "Hi" ∧
      ¬ Settles (bracketed.exchange {} context) := by
  intro context
  have system : context.fill bracketed.systemPrompt = .ok "Answer in Danish." := by decide +kernel
  have user : context.fill bracketed.userPrompt = .ok "Hi" := by decide +kernel
  have broken : Endpoint.IsBroken " /models[1/v1" := by
    have found : Web.Location.ofText? "/models[1/v1" = some ⟨"", ""⟩ := by decide +kernel
    refine ⟨by decide +kernel, by decide +kernel, .asHost found ?_ ?_⟩ <;> decide +kernel
  have key : Text.trim "key" ≠ "" := by decide +kernel
  exact ⟨system, user, mt (exchange_settles_iff system user).2.mp (not_not_intro ⟨key, broken⟩)⟩

end LlmConfig

/-- An opening bracket without a closing one is no trouble of the configuration. -/
theorem Chat.Endpoint.settles_bracket : ¬ ∀ raw : String, Settles (ofText raw) := by
  intro settles
  have fails : ofText "http://[" = .error .malformedAddress := by decide +kernel
  exact nomatch settles _ _ fails

end Flowline
