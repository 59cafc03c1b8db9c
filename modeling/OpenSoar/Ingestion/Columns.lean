/-
# `OpenSoar.Ingestion.Columns` — which payloads fit the columns of an alert

`normalize_alert` turns the title into a string and passes over a `source` that is none;
every other field is stored as the payload holds it.  `FitsColumns` says that a normalised
alert fits its columns, `WellShaped` says of the payload itself which values may stand
where the normaliser looks, and the two hold together (`stored_iff_wellShaped`).
-/
import OpenSoar.Ingestion.Payload
import OpenSoar.Ingestion.Webhook

namespace OpenSoar

open Python

/-- `None` or a string of at most `n` characters. -/
def FitsVarchar (n : Nat) (value : Json) : Prop :=
  value = .null ∨ ∃ s, value = .str s ∧ s.length ≤ n

/-- `None` or a string. -/
def FitsText (value : Json) : Prop := value = .null ∨ ∃ s, value = .str s

/-- A list of strings. -/
def IsStrings (value : Json) : Prop := ∃ items : List String, value = .arr (items.map .str)

/-- The normalised alert fits the columns of `alerts`; the rule name is the title. -/
structure NormalizedAlert.FitsColumns (n : NormalizedAlert) : Prop where
  source : n.source.length ≤ 50
  sourceId : FitsVarchar 255 n.sourceId
  title : n.title.length ≤ 500
  description : FitsText n.description
  sourceIp : FitsVarchar 45 n.sourceIp
  destIp : FitsVarchar 45 n.destIp
  hostname : FitsVarchar 255 n.hostname
  tags : IsStrings n.tags
  partner : FitsVarchar 100 n.partner

/-- What a payload holds where the normaliser looks: the first value of each field has the
type and the length of its column, and no string of the payload makes the search for
indicators raise. -/
structure WellShaped (py : PyText) (payload : Dict) : Prop where
  source : ∀ s, First payload ["source"] (.str s) → s.length ≤ 50
  sourceId : ∀ v, First payload ["source_id", "id", "_id", "alert_id", "signal.id"] v →
    FitsVarchar 255 v
  title : ∀ v, First payload ["rule_name", "rule.name", "alert.rule.name", "title", "name",
    "signal.rule.name", "message"] v → (v.pyStr py).length ≤ 500
  description : ∀ v, First payload ["description", "message", "rule.description",
    "alert.description"] v → FitsText v
  sourceIp : ∀ v, First payload ["source_ip", "source.ip", "src_ip", "client.ip",
    "signal.source.ip"] v → FitsVarchar 45 v
  destIp : ∀ v, First payload ["dest_ip", "destination.ip", "dst_ip", "server.ip",
    "signal.destination.ip"] v → FitsVarchar 45 v
  hostname : ∀ v, First payload ["hostname", "host.name", "agent.name", "computer_name",
    "signal.host.name"] v → FitsVarchar 255 v
  tags : ∀ v, First payload ["tags", "rule.tags"] v → IsStrings v
  partner : ∀ v, First payload ["partner", "tenant", "customer", "organization"] v →
    FitsVarchar 100 v
  indicators : ¬ RaisesBelow py 0 (.obj payload)

/-! ## The columns -/

theorem FitsVarchar.stored {n : Nat} {value : Json} (h : FitsVarchar n value) :
    ∃ v, varcharColumn n value = .ok v := by
  rcases h with rfl | ⟨s, rfl, hs⟩
  · exact ⟨none, rfl⟩
  · exact ⟨some ⟨s, hs⟩, by simp only [varcharColumn, column_ok hs]; rfl⟩

theorem FitsText.stored {value : Json} (h : FitsText value) : ∃ v, textColumn value = .ok v := by
  rcases h with rfl | ⟨s, rfl⟩
  · exact ⟨none, rfl⟩
  · exact ⟨some s, rfl⟩

theorem mapM_arrayElement (items : List String) :
    (items.map Json.str).mapM arrayElement = .ok (items.map some) := by
  induction items with
  | nil => rfl
  | cons s items ih =>
      simp only [List.map_cons, List.mapM_cons, ih]
      rfl

theorem IsStrings.stored {value : Json} (h : IsStrings value) :
    ∃ v, arrayColumn value = .ok v := by
  obtain ⟨items, rfl⟩ := h
  exact ⟨some (items.map some), by simp only [arrayColumn, mapM_arrayElement]; rfl⟩

/-- A severity is one of four words. -/
theorem normalizeSeverity_fits (py : PyText) (value : Json) :
    (normalizeSeverity py value).length ≤ 20 := by
  have hmem := normalizeSeverity_mem py value
  simp only [List.mem_cons, List.not_mem_nil, or_false] at hmem
  rcases hmem with h | h | h | h <;> rw [h] <;> decide

/-- What fits its columns is a row. -/
theorem NormalizedAlert.FitsColumns.newAlert {n : NormalizedAlert} (h : n.FitsColumns)
    (hseverity : n.severity.length ≤ 20) (call : WebhookCall) :
    ∃ alert, newAlert call n = .ok alert := by
  obtain ⟨sourceId, hsourceId⟩ := h.sourceId.stored
  obtain ⟨description, hdescription⟩ := h.description.stored
  obtain ⟨sourceIp, hsourceIp⟩ := h.sourceIp.stored
  obtain ⟨destIp, hdestIp⟩ := h.destIp.stored
  obtain ⟨hostname, hhostname⟩ := h.hostname.stored
  obtain ⟨tags, htags⟩ := h.tags.stored
  obtain ⟨partner, hpartner⟩ := h.partner.stored
  unfold OpenSoar.newAlert
  simp only [column_ok h.source, hsourceId, column_ok h.title, hdescription,
    column_ok hseverity, hsourceIp, hdestIp, hhostname, htags, hpartner]
  exact ⟨_, rfl⟩

/-! ## The fields -/

/-- `raw_source if isinstance(raw_source, str) else source`. -/
theorem source_fits {payload : Dict} {source : String} (hsource : source.length ≤ 50) :
    (match extractField payload ["source"] (.str source) with
      | .str s => s
      | _ => source).length ≤ 50 ↔ ∀ s, First payload ["source"] (.str s) → s.length ≤ 50 := by
  have hfits := @extractField_holds payload ["source"] (.str source)
    (fun v => ∀ s, v = .str s → s.length ≤ 50) (fun s h => by cases h; exact hsource)
  constructor
  · intro h s hfirst
    rw [extractField_first hfirst] at h
    exact h
  · intro h
    have hall := hfits.mpr (fun v hfirst s hs => h s (hs ▸ hfirst))
    split
    · rename_i s hs
      exact hall s hs
    · exact hsource

theorem fitsVarchar_field {payload : Dict} {fieldPaths : List String} {n : Nat} :
    FitsVarchar n (extractField payload fieldPaths .null) ↔
      ∀ v, First payload fieldPaths v → FitsVarchar n v :=
  extractField_holds (Or.inl rfl)

/-- Normalising succeeds where no string makes the search for indicators raise. -/
theorem normalizeAlert_ok_iff {py : PyText} {payload : Dict} {source : String} :
    (∃ n, normalizeAlert py payload source = .ok n) ↔ ¬ RaisesBelow py 0 (.obj payload) := by
  rw [← extractIocs_ok_iff]
  unfold normalizeAlert
  constructor
  · rintro ⟨n, h⟩
    obtain ⟨iocs, hiocs, -⟩ := bind_ok h
    exact ⟨iocs, hiocs⟩
  · rintro ⟨iocs, hiocs⟩
    exact bind_returns hiocs ⟨_, rfl⟩

theorem normalizeAlert_severity {py : PyText} {payload : Dict} {source : String}
    {n : NormalizedAlert} (h : normalizeAlert py payload source = .ok n) :
    n.severity.length ≤ 20 := by
  unfold normalizeAlert at h
  obtain ⟨iocs, -, h⟩ := bind_ok h
  cases h
  exact normalizeSeverity_fits py _

/-- What is normalised fits its columns exactly when the payload is well shaped. -/
theorem fitsColumns_iff {py : PyText} {payload : Dict} {source : String}
    (hsource : source.length ≤ 50) {n : NormalizedAlert}
    (h : normalizeAlert py payload source = .ok n) : n.FitsColumns ↔ WellShaped py payload := by
  have hindicators := normalizeAlert_ok_iff.mp ⟨n, h⟩
  have htitle : ((Json.str "Untitled Alert").pyStr py).length ≤ 500 := by
    show "Untitled Alert".toList.length ≤ 500
    decide
  have htitles := @extractField_holds payload ["rule_name", "rule.name", "alert.rule.name",
    "title", "name", "signal.rule.name", "message"] _
    (fun v => (v.pyStr py).length ≤ 500) htitle
  unfold normalizeAlert at h
  obtain ⟨iocs, -, h⟩ := bind_ok h
  cases h
  constructor
  · intro hfits
    exact {
      source := (source_fits hsource).mp hfits.source
      sourceId := fitsVarchar_field.mp hfits.sourceId
      title := htitles.mp (String.length_ofList ▸ hfits.title)
      description := (extractField_holds (Or.inl rfl)).mp hfits.description
      sourceIp := fitsVarchar_field.mp hfits.sourceIp
      destIp := fitsVarchar_field.mp hfits.destIp
      hostname := fitsVarchar_field.mp hfits.hostname
      tags := (extractField_holds ⟨[], rfl⟩).mp hfits.tags
      partner := fitsVarchar_field.mp hfits.partner
      indicators := hindicators }
  · intro hshape
    exact {
      source := (source_fits hsource).mpr hshape.source
      sourceId := fitsVarchar_field.mpr hshape.sourceId
      title := String.length_ofList ▸ htitles.mpr hshape.title
      description := (extractField_holds (Or.inl rfl)).mpr hshape.description
      sourceIp := fitsVarchar_field.mpr hshape.sourceIp
      destIp := fitsVarchar_field.mpr hshape.destIp
      hostname := fitsVarchar_field.mpr hshape.hostname
      tags := (extractField_holds ⟨[], rfl⟩).mpr hshape.tags
      partner := fitsVarchar_field.mpr hshape.partner }

/-- **An object is stored exactly when it is well shaped.**  Every payload that a webhook
endpoint takes is normalised, fits the columns and makes a row if and only if the values
it holds where the normaliser looks have the types and the lengths of the columns. -/
theorem stored_iff_wellShaped {py : PyText} {call : WebhookCall}
    (hsource : call.source ∈ ["webhook", "elastic"]) :
    (∃ n alert, normalizeAlert py call.payload call.source = .ok n ∧ n.FitsColumns ∧
      newAlert call n = .ok alert) ↔ WellShaped py call.payload := by
  have hshort : call.source.length ≤ 50 := by
    simp only [List.mem_cons, List.not_mem_nil, or_false] at hsource
    rcases hsource with h | h <;> rw [h] <;> decide
  constructor
  · rintro ⟨n, alert, hn, hfits, -⟩
    exact (fitsColumns_iff hshort hn).mp hfits
  · intro hshape
    obtain ⟨n, hn⟩ := normalizeAlert_ok_iff.mpr hshape.indicators
    have hfits := (fitsColumns_iff hshort hn).mpr hshape
    obtain ⟨alert, halert⟩ := hfits.newAlert (normalizeAlert_severity hn) call
    exact ⟨n, alert, hn, hfits, halert⟩

/-- A payload with a numeric id, as a SIEM may send it. -/
def numericId : WebhookCall :=
  ⟨[("title", .str "Login failure"), ("id", .int 5)], "webhook", 1, 2⟩

/-- The id of a payload reaches its column as the number it is. -/
theorem numeric_id_is_not_stored :
    ¬ ∀ call : WebhookCall, call.source ∈ ["webhook", "elastic"] →
      ∃ n alert, normalizeAlert .ascii call.payload call.source = .ok n ∧ n.FitsColumns ∧
        newAlert call n = .ok alert := by
  intro hclaim
  obtain ⟨n, alert, hn, -, halert⟩ := hclaim numericId (by decide)
  have hrefused : (normalizeAlert .ascii numericId.payload numericId.source).bind
      (fun n => (newAlert numericId n).map (fun _ => ())) = .error wrongType := by
    decide +kernel
  rw [hn] at hrefused
  simp only [Except.bind, halert] at hrefused
  cases hrefused

/-- The same payload with the id as a string. -/
def textualId : WebhookCall :=
  ⟨[("title", .str "Login failure"), ("id", .str "5")], "webhook", 1, 2⟩

theorem textualId_wellShaped : WellShaped .ascii textualId.payload := by
  refine (@stored_iff_wellShaped .ascii textualId (by decide)).mp ?_
  refine ⟨_, _, rfl, ?_, rfl⟩
  exact ⟨by decide, Or.inr ⟨"5", rfl, by decide⟩, by decide, Or.inl rfl, Or.inl rfl, Or.inl rfl,
    Or.inl rfl, ⟨[], rfl⟩, Or.inl rfl⟩

end OpenSoar
