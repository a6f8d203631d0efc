import AscensionWatchdog.Foundation.JsonSize
import AscensionWatchdog.Release.Selector

/-!
# The answer of an activation

A completed activation answers with a `ReleaseActivationView`, and the ledger keeps that view as
the JSON value `AdminResult::ReleaseActivation` serializes to. The value is read back without a
loss, fits the bounds of a recorded response, and is the one the store expects for the marker it
was made for.
-/

namespace AscensionWatchdog

open Foundation Foundation.Json

/-- Durable result of an activation or a rollback. -/
structure ReleaseActivationView where
  releaseId : String
  releaseDigest : String
  previousReleaseId : Option String
  previousReleaseDigest : Option String
  rollback : Bool
  deriving DecidableEq, Repr

/-- An optional text is `null` when it is absent. -/
def optionalText : Option String → Value
  | none => .null
  | some text => .string text

/-- The value that the view is serialized to, with its keys in order. -/
def ReleaseActivationView.toValue (view : ReleaseActivationView) : Value :=
  Value.ofFields
    [("kind", .string "ReleaseActivation"),
      ("value", Value.ofFields
        [("previous_release_digest", optionalText view.previousReleaseDigest),
          ("previous_release_id", optionalText view.previousReleaseId),
          ("release_digest", .string view.releaseDigest),
          ("release_id", .string view.releaseId),
          ("rollback", .bool view.rollback)])]

/-- An optional field of a structure: a missing field and `null` are both absent. -/
def readOptionalText : Option Value → Option (Option String)
  | none | some .null => some none
  | some (.string text) => some (some text)
  | some _ => none

/-- Deserialize the view. The other variants of `AdminResult` are not recorded for an
activation. -/
def ReleaseActivationView.fromValue (value : Value) : Option ReleaseActivationView := do
  let object ← value.asObject?
  let kind ← (object.get? "kind").bind Value.asStr?
  let fields ← (object.get? "value").bind Value.asObject?
  if kind = "ReleaseActivation" ∧ fields.keys.all (· ∈ ["release_id", "release_digest",
      "previous_release_id", "previous_release_digest", "rollback"]) then
    let releaseId ← (fields.get? "release_id").bind Value.asStr?
    let releaseDigest ← (fields.get? "release_digest").bind Value.asStr?
    let previousReleaseId ← readOptionalText (fields.get? "previous_release_id")
    let previousReleaseDigest ← readOptionalText (fields.get? "previous_release_digest")
    let rollback ← (fields.get? "rollback").bind Value.asBool?
    return { releaseId, releaseDigest, previousReleaseId, previousReleaseDigest, rollback }
  else none

theorem readOptionalText_optionalText (text : Option String) :
    readOptionalText (some (optionalText text)) = some text := by
  cases text <;> rfl

/-- The field under the `i`-th key. -/
private theorem Fields.get?_of_idxOf? {fields : List (String × Value)} {key : String} {i : Nat}
    {v : Value} (hkey : (fields.map Prod.fst).idxOf? key = some i)
    (hv : (fields.map Prod.snd)[i]? = some v) : (Fields.ofList fields).get? key = some v := by
  induction fields generalizing i with
  | nil => cases hkey
  | cons field fields ih =>
    obtain ⟨k, w⟩ := field
    rw [List.map_cons, List.idxOf?_cons] at hkey
    rw [Fields.ofList, Fields.get?]
    by_cases hk : k = key
    · rw [if_pos hk]
      rw [if_pos (by simpa using hk)] at hkey
      cases hkey
      exact hv
    · rw [if_neg hk]
      rw [if_neg (by simpa using hk)] at hkey
      obtain ⟨j, hj, rfl⟩ := Option.map_eq_some_iff.mp hkey
      exact ih hj hv

/-- The fields of the two objects of an answer. -/
private theorem ReleaseActivationView.toValue_fields (view : ReleaseActivationView) :
    ∃ object fields, view.toValue = .object object ∧
      hasExactKeys object ["kind", "value"] = true ∧
      object.get? "kind" = some (.string "ReleaseActivation") ∧
      object.get? "value" = some (.object fields) ∧
      hasExactKeys fields ["release_id", "release_digest", "previous_release_id",
        "previous_release_digest", "rollback"] = true ∧
      fields.get? "release_id" = some (.string view.releaseId) ∧
      fields.get? "release_digest" = some (.string view.releaseDigest) ∧
      fields.get? "previous_release_id" = some (optionalText view.previousReleaseId) ∧
      fields.get? "previous_release_digest" = some (optionalText view.previousReleaseDigest) ∧
      fields.get? "rollback" = some (.bool view.rollback) := by
  -- the positions of the keys, which do not depend on the view
  have hobject : ["kind", "value"].idxOf? "kind" = some 0 ∧
      ["kind", "value"].idxOf? "value" = some 1 := by decide +kernel
  have hfields : ["previous_release_digest", "previous_release_id", "release_digest",
        "release_id", "rollback"].map (fun key => ["previous_release_digest",
          "previous_release_id", "release_digest", "release_id", "rollback"].idxOf? key) =
      [some 0, some 1, some 2, some 3, some 4] := by decide +kernel
  simp only [List.map_cons, List.map_nil, List.cons.injEq, and_true] at hfields
  obtain ⟨hpreviousDigest, hpreviousId, hdigest, hid, hrollback⟩ := hfields
  refine ⟨_, _, rfl, ?_, Fields.get?_of_idxOf? hobject.1 rfl, Fields.get?_of_idxOf? hobject.2 rfl,
    ?_, Fields.get?_of_idxOf? hid rfl, Fields.get?_of_idxOf? hdigest rfl,
    Fields.get?_of_idxOf? hpreviousId rfl, Fields.get?_of_idxOf? hpreviousDigest rfl,
    Fields.get?_of_idxOf? hrollback rfl⟩
  · rw [hasExactKeys, Fields.ofList, Fields.ofList, Fields.ofList, Fields.keys, Fields.keys,
      Fields.keys]
    decide +kernel
  · simp only [hasExactKeys, Fields.ofList, Fields.keys]
    decide +kernel

theorem hasExactKeys_keys {fields : Fields} {keys : List String}
    (h : hasExactKeys fields keys = true) : fields.keys.all (· ∈ keys) = true :=
  (Bool.and_eq_true_iff.mp h).1

theorem ReleaseActivationView.fromValue_toValue (view : ReleaseActivationView) :
    fromValue view.toValue = some view := by
  obtain ⟨object, fields, hvalue, -, hkind, hfields, hkeys, hid, hdigest, hpreviousId,
    hpreviousDigest, hrollback⟩ := view.toValue_fields
  rw [fromValue, hvalue]
  simp only [Value.asObject?, hkind, hfields, hasExactKeys_keys hkeys, hid, hdigest, hpreviousId,
    hpreviousDigest, hrollback, Option.bind_eq_bind, Option.bind_some, Value.asStr?,
    Value.asBool?, readOptionalText_optionalText, true_and, if_true]
  rfl

/-! ### The answer for a marker -/

/-- The answer that belongs to a prepared marker. -/
def PendingReleaseActivation.view (pending : PendingReleaseActivation) : ReleaseActivationView where
  releaseId := pending.release.releaseId
  releaseDigest := pending.release.releaseDigest
  previousReleaseId := pending.previous.map ReleaseIdentity.releaseId
  previousReleaseDigest := pending.previous.map ReleaseIdentity.releaseDigest
  rollback := pending.rollback

theorem validateActivationResponse_view (pending : PendingReleaseActivation) :
    validateActivationResponse pending.view.toValue pending = .ok () := by
  have htext : ∀ text : Option String, (optionalText text).asStr? = text := by
    intro text
    cases text <;> rfl
  obtain ⟨object, fields, hvalue, hkeys, hkind, hfields, hfieldKeys, hid, hdigest, hpreviousId,
    hpreviousDigest, hrollback⟩ := pending.view.toValue_fields
  rw [validateActivationResponse, hvalue]
  simp only [bind_eq_ok, orError_eq_ok, ensure_eq_ok, exists_const]
  refine ⟨object, rfl, hkeys, fields, by rw [hfields]; rfl, hfieldKeys, ⟨?_, ?_, ?_, ?_⟩, ?_, ?_⟩
  · rw [hkind]
    rfl
  · rw [hid]
    rfl
  · rw [hdigest]
    rfl
  · rw [hrollback]
    rfl
  · rw [hpreviousId]
    exact htext _
  · rw [hpreviousDigest]
    exact htext _

private theorem maxBytes_optionalText {text : Option String} {bound : Nat}
    (h : ∀ t ∈ text, t.utf8ByteSize ≤ bound) : (optionalText text).maxBytes ≤ 6 * bound + 4 := by
  cases text with
  | none => simp [optionalText, Value.maxBytes]
  | some t =>
    have ht := h t rfl
    simp only [optionalText, Value.maxBytes]
    omega

/-- The answer for a marker of the selector can be recorded. -/
theorem validResponse_view {pending : PendingReleaseActivation} (hrelease : pending.release.Valid)
    (hprevious : ∀ release ∈ pending.previous, release.Valid) :
    ValidResponse pending.view.toValue := by
  have hid := isName_size hrelease.releaseId
  have hdigest := isDigest_size hrelease.releaseDigest
  have hpreviousId : ∀ t ∈ pending.previous.map ReleaseIdentity.releaseId,
      t.utf8ByteSize ≤ 128 := by
    intro t ht
    obtain ⟨release, hmem, rfl⟩ := Option.mem_map.mp ht
    exact isName_size (hprevious release hmem).releaseId
  have hpreviousDigest : ∀ t ∈ pending.previous.map ReleaseIdentity.releaseDigest,
      t.utf8ByteSize ≤ 64 := by
    intro t ht
    obtain ⟨release, hmem, rfl⟩ := Option.mem_map.mp ht
    exact (isDigest_size (hprevious release hmem).releaseDigest).le
  have hpid := maxBytes_optionalText hpreviousId
  have hpdigest := maxBytes_optionalText hpreviousDigest
  refine ⟨by simp [ReleaseActivationView.toValue, Value.ofFields],
    (Value.utf8ByteSize_render_le _).trans ?_,
    containsNul_of_pos fun c hc => Nat.lt_of_lt_of_le (by decide)
      (Value.visible_of_mem_render ?_ c hc)⟩
  · have hkeys : "kind".utf8ByteSize = 4 ∧ "ReleaseActivation".utf8ByteSize = 17 ∧
        "value".utf8ByteSize = 5 ∧ "previous_release_digest".utf8ByteSize = 23 ∧
        "previous_release_id".utf8ByteSize = 19 ∧ "release_digest".utf8ByteSize = 14 ∧
        "release_id".utf8ByteSize = 10 ∧ "rollback".utf8ByteSize = 8 := by
      decide +kernel
    simp only [ReleaseActivationView.toValue, PendingReleaseActivation.view, Value.ofFields,
      Fields.ofList, Value.maxBytes, Fields.maxBytes, hkeys, maxOperatorResponseBytes]
    omega
  · have hlexical : ∀ text, (optionalText text).lexical = true := by
      intro text
      cases text <;> rfl
    simp [ReleaseActivationView.toValue, Value.ofFields, Fields.ofList, Value.lexical,
      Fields.lexical, hlexical]

/-- Both releases of a marker in the selector are well formed. -/
theorem Selected.validResponse {s : Store} {selection : ReleaseSelection}
    {pending : PendingReleaseActivation} (h : Selected s selection)
    (hpending : selection.pending = some pending) : ValidResponse pending.view.toValue := by
  have hmarked := h.encodes.marked pending hpending
  exact validResponse_view hmarked.release_valid hmarked.previous.valid

end AscensionWatchdog
