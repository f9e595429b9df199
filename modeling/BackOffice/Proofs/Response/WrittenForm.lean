import BackOffice.Proofs.Record.Written
import BackOffice.Proofs.Response.Classes
import Mathlib.Data.List.Basic

/-!
The written form of an envelope. Whatever a backend answers is taken as an envelope that reads back from its written
form as it was, however deep others are nested in it; and an answer that is no envelope is never a success.
-/

namespace BackOffice

/-! ### Entries -/

namespace ErrorEntry

/-- What is written for the fields of an entry. -/
def values (e : ErrorEntry) : List (Option Json) := [e.key.map .str, e.executeId.map .str, some (.str e.info)]

theorem toJson_eq (e : ErrorEntry) : e.toJson = .obj (Record.written ["key", "execute_id", "info"] e.values) := by
  obtain ⟨key, executeId, info⟩ := e
  cases key <;> cases executeId <;> rfl

theorem bind_lenientText? (text : Option String) : (text.map Json.str).bind lenientText? = text := by
  cases text <;> rfl

theorem ofJson?_toJson (e : ErrorEntry) : ofJson? e.toJson = some e := by
  have hslots : Record.slots fields e.toJson = some e.values :=
    e.toJson_eq ▸ Record.slots_written (by decide) rfl
  simp only [ofJson?, hslots, values, Option.bind_eq_bind, Option.bind_some, bind_lenientText?]
  rfl

end ErrorEntry

namespace Envelope

/-! ### Levels -/

/-- Whether a level can come from an answer: its status is a word of 16 bits, and data that is null counts as none. -/
def Receivable (d : Envelope) : Prop := d.status < Nat.pow 2 16 ∧ d.data ≠ some .null

/-- An envelope as one level of which the nested ones are only written. -/
def writtenLevel : Envelope → Level
  | mk status data errors fo bo =>
    { status, data, errors, fo := fo.map (·.map toJson), bo := bo.map (·.map toJson) }

theorem listToJson_eq (group : List Envelope) : listToJson group = group.map toJson := by
  induction group with
  | nil => rfl
  | cons e rest ih => rw [listToJson, ih, List.map_cons]

namespace Level

/-- What is written for the fields below the payload's only member. -/
def values (l : Level) : List (Option Json) :=
  [l.data, some (.arr (l.errors.map ErrorEntry.toJson)), l.fo.map .arr, l.bo.map .arr]

def dataResponseToJson (l : Level) : Json := .obj (Record.written ["data", "errors", "fo", "bo"] l.values)

def payloadToJson (l : Level) : Json := .obj (Record.written ["dataresponse"] [some l.dataResponseToJson])

/-- What is written for a level. -/
def toJson (l : Level) : Json :=
  .obj (Record.written ["status", "payload"] [some (.ofNat l.status), some l.payloadToJson])

variable {l : Level}

theorem status?_ofNat {status : Nat} (h : status < Nat.pow 2 16) : status? (.ofNat status) = some status := by
  have hnat : (Json.ofNat status).nat? = some status := by simp [Json.ofNat, Json.whole, Json.nat?]
  rw [status?, hnat, Option.filter_some, if_pos (decide_eq_true h)]

theorem filter_isNull {data : Option Json} (h : data ≠ some .null) : data.filter (!·.isNull) = data := by
  cases data with
  | none => rfl
  | some v =>
    cases v with
    | null => exact absurd rfl h
    | _ => rfl

theorem ofDataResponse?_written (hdata : l.data ≠ some .null) :
    ofDataResponse? l.status l.dataResponseToJson = some l := by
  have hslots : Record.slots dataFields l.dataResponseToJson = some l.values :=
    Record.slots_written (by decide) rfl
  have herrors : errors? (.arr (l.errors.map ErrorEntry.toJson)) = some l.errors :=
    Record.list?_map fun e _ => e.ofJson?_toJson
  have hfo := Record.optional_map Json.items? .arr (fun _ => rfl) nofun l.fo
  have hbo := Record.optional_map Json.items? .arr (fun _ => rfl) nofun l.bo
  simp only [ofDataResponse?, hslots, values, Option.bind_eq_bind, Option.bind_some, Record.defaulted, herrors, hfo,
    hbo, filter_isNull hdata]

theorem ofPayload?_written (hdata : l.data ≠ some .null) : ofPayload? l.status l.payloadToJson = some l := by
  have hslots : Record.slots payloadFields l.payloadToJson = some [some l.dataResponseToJson] :=
    Record.slots_written (by decide) rfl
  simp only [ofPayload?, hslots, Option.bind_eq_bind, Option.bind_some, ofDataResponse?_written hdata]

/-- A level with a status and data that can be received reads back as it was written. -/
theorem ofJson?_toJson (hstatus : l.status < Nat.pow 2 16) (hdata : l.data ≠ some .null) :
    ofJson? l.toJson = some l := by
  have hslots : Record.slots fields l.toJson = some [some (.ofNat l.status), some l.payloadToJson] :=
    Record.slots_written (by decide) rfl
  simp only [ofJson?, hslots, Option.bind_eq_bind, Option.bind_some, Record.defaulted, status?_ofNat hstatus,
    ofPayload?_written hdata]

/-! What is read as a level can be received. -/

theorem lt_of_status? {v : Json} {status : Nat} (h : status? v = some status) : status < Nat.pow 2 16 := by
  obtain ⟨-, hlt⟩ := Option.filter_eq_some_iff.1 h
  exact of_decide_eq_true hlt

theorem filter_isNull_ne (data : Option Json) : data.filter (!·.isNull) ≠ some .null := by
  intro h
  obtain ⟨-, hnull⟩ := Option.filter_eq_some_iff.1 h
  cases hnull

theorem of_ofDataResponse? {status : Nat} {v : Json} (h : ofDataResponse? status v = some l) :
    l.status = status ∧ l.data ≠ some .null := by
  simp only [ofDataResponse?, Option.bind_eq_bind, Option.bind_eq_some_iff] at h
  obtain ⟨out, -, h⟩ := h
  split at h
  next data _ _ _ =>
    simp only [Option.bind_eq_some_iff, Option.some.injEq] at h
    obtain ⟨_, -, _, -, _, -, rfl⟩ := h
    exact ⟨rfl, filter_isNull_ne data⟩
  · cases h

theorem of_ofPayload? {status : Nat} {v : Json} (h : ofPayload? status v = some l) :
    l.status = status ∧ l.data ≠ some .null := by
  simp only [ofPayload?, Option.bind_eq_bind, Option.bind_eq_some_iff] at h
  obtain ⟨out, -, h⟩ := h
  split at h
  · split at h
    · obtain rfl := Option.some.inj h
      exact ⟨rfl, (Option.some_ne_none _).symm⟩
    · exact of_ofDataResponse? h
  · cases h

theorem of_ofJson? {v : Json} (h : ofJson? v = some l) : l.status < Nat.pow 2 16 ∧ l.data ≠ some .null := by
  simp only [ofJson?, Option.bind_eq_bind, Option.bind_eq_some_iff] at h
  obtain ⟨out, -, h⟩ := h
  split at h
  next status payload =>
    obtain ⟨number, hnumber, h⟩ := Option.bind_eq_some_iff.1 h
    have hlt : number < Nat.pow 2 16 := by
      cases status with
      | none =>
        obtain rfl := Option.some.inj hnumber
        decide
      | some v => exact lt_of_status? hnumber
    split at h
    · obtain rfl := Option.some.inj h
      exact ⟨hlt, (Option.some_ne_none _).symm⟩
    · obtain ⟨rfl, hdata⟩ := of_ofPayload? h
      exact ⟨hlt, hdata⟩
  · cases h

end Level

/-! ### Envelopes -/

theorem toJson_eq (e : Envelope) : e.toJson = e.writtenLevel.toJson := by
  obtain ⟨status, data, errors, fo, bo⟩ := e
  cases data <;> cases fo <;> cases bo <;> simp only [toJson, groupMember, listToJson_eq] <;> rfl

theorem readGroup?_eq {α : Type} (group : Option (List Json)) (read? : Json → Option α) :
    readGroup? group (fun w _ => read? w) = group.mapM (List.mapM read?) := by
  cases group with
  | none => rfl
  | some items =>
    have hattach : (items.attach.mapM fun w => read? w.1) = items.mapM read? := by
      change items.attach.mapM (read? ∘ Subtype.val) = _
      rw [← List.mapM_map, List.attach_map_subtype_val]
    simp only [readGroup?, hattach]
    rfl

/-- An envelope is read level by level. -/
theorem ofJson?_eq (v : Json) : ofJson? v = (Level.ofJson? v).bind fun l =>
    (l.fo.mapM (List.mapM ofJson?)).bind fun fo => (l.bo.mapM (List.mapM ofJson?)).bind fun bo =>
      some (mk l.status l.data l.errors fo bo) := by
  rw [ofJson?]
  split
  next h => rw [h, Option.bind_none]
  next l h =>
    simp only [h, Option.bind_some, readGroup?_eq]
    rfl

theorem mapM_written {read? : Json → Option Envelope} {group : Option (List Envelope)}
    (h : ∀ d ∈ group.getD [], read? d.toJson = some d) :
    (group.map (·.map toJson)).mapM (List.mapM read?) = some group := by
  cases group with
  | none => rfl
  | some group =>
    have hlist : (group.map toJson).mapM read? = some group := Record.list?_map h
    simp only [Option.map_some, Option.mapM, hlist]
    rfl

theorem exists_of_mem_group {read? : Json → Option Envelope} {group : Option (List Json)}
    {out : Option (List Envelope)} (h : group.mapM (List.mapM read?) = some out) {d : Envelope} (hd : d ∈ out.getD []) :
    ∃ w ∈ group.getD [], read? w = some d := by
  cases group with
  | none =>
    obtain rfl := Option.some.inj h
    cases hd
  | some items =>
    obtain ⟨ds, hds, rfl⟩ := Option.map_eq_some_iff.1 h
    exact Record.exists_of_mem_mapM hds hd

/-- An envelope all of whose levels can be received reads back as it was written. -/
theorem ofJson?_toJson (e : Envelope) (h : ∀ d, Within d e → d.Receivable) : ofJson? e.toJson = some e := by
  induction e using nested_induction with
  | step e ih =>
    have hnested : ∀ d ∈ e.nested, ofJson? d.toJson = some d := fun d hd =>
      ih d hd fun inner hinner => h inner (.nested hd hinner)
    obtain ⟨status, data, errors, fo, bo⟩ := e
    obtain ⟨hstatus, hdata⟩ := h _ (.self _)
    have hlevel := Level.ofJson?_toJson (l := (mk status data errors fo bo).writtenLevel) hstatus hdata
    have hfo := mapM_written fun d hd => hnested d (List.mem_append_left _ hd)
    have hbo := mapM_written fun d hd => hnested d (List.mem_append_right _ hd)
    rw [toJson_eq, ofJson?_eq, hlevel]
    simp only [Option.bind_some, writtenLevel, hfo, hbo]

/-- Every level of an envelope that was read can be received. -/
theorem receivable_of_ofJson? {v : Json} {e d : Envelope} (h : ofJson? v = some e) (hd : Within d e) :
    d.Receivable := by
  have hparts := h
  simp only [ofJson?_eq, Option.bind_eq_some_iff, Option.some.injEq] at hparts
  obtain ⟨l, hlevel, fo, hfo, bo, hbo, rfl⟩ := hparts
  cases hd with
  | self => exact Level.of_ofJson? hlevel
  | @nested inner _ hinner hd =>
    -- The envelopes nested in it were read of smaller values.
    have hpart : ∃ w ∈ l.parts, ofJson? w = some inner := by
      obtain hinner | hinner := List.mem_append.1 hinner
      · obtain ⟨w, hw, hread⟩ := exists_of_mem_group hfo hinner
        exact ⟨w, List.mem_append_left _ hw, hread⟩
      · obtain ⟨w, hw, hread⟩ := exists_of_mem_group hbo hinner
        exact ⟨w, List.mem_append_right _ hw, hread⟩
    obtain ⟨w, hw, hread⟩ := hpart
    have : sizeOf w < sizeOf v := Level.sizeOf_lt_of_ofJson? hlevel hw
    exact receivable_of_ofJson? hread hd
termination_by sizeOf v

/-! ### Answers -/

/-- The envelope of an answer that is none. -/
theorem ofAnswer_of_none {v : Json} (h : ofJson? v = none) : ofAnswer v =
    failure 0 { key := some ErrorEntry.decodeKey, info := "malformed response envelope" } := by
  rw [ofAnswer, h, Option.getD_none]

theorem receivable_failure {status : Nat} (hstatus : status < Nat.pow 2 16) (entry : ErrorEntry) {d : Envelope}
    (hd : Within d (failure status entry)) : d.Receivable := by
  cases hd with
  | self => exact ⟨hstatus, (Option.some_ne_none _).symm⟩
  | nested hinner => cases hinner

theorem receivable_ofAnswer (v : Json) {d : Envelope} (hd : Within d (ofAnswer v)) : d.Receivable := by
  cases h : ofJson? v with
  | none =>
    rw [ofAnswer_of_none h] at hd
    exact receivable_failure (by decide) _ hd
  | some e =>
    rw [ofAnswer, h, Option.getD_some] at hd
    exact receivable_of_ofJson? h hd

theorem ofAnswer_toJson {e : Envelope} (h : ∀ d, Within d e → d.Receivable) : ofAnswer e.toJson = e := by
  rw [ofAnswer, e.ofJson?_toJson h, Option.getD_some]

/-- An envelope all of whose levels can be received reads back from its written form; every answer is taken as such an
envelope; and an answer that is no envelope has status zero and is never a success. -/
theorem written_envelope_reads_back :
    (∀ e : Envelope, (∀ d, Within d e → d.Receivable) → ofAnswer e.toJson = e) ∧
      (∀ v : Json, (∀ d, Within d (ofAnswer v) → d.Receivable) ∧ ofAnswer (ofAnswer v).toJson = ofAnswer v) ∧
      ∀ v : Json, ofJson? v = none →
        (ofAnswer v).status = 0 ∧ ∀ authKeys : List String, Verdict.of authKeys (ofAnswer v) ≠ .success := by
  refine ⟨fun e h => ofAnswer_toJson h, fun v => ?_, fun v h => ?_⟩
  · have hreceivable : ∀ d, Within d (ofAnswer v) → d.Receivable := fun d hd => receivable_ofAnswer v hd
    exact ⟨hreceivable, ofAnswer_toJson hreceivable⟩
  · rw [ofAnswer_of_none h]
    refine ⟨rfl, fun authKeys hsuccess => ?_⟩
    cases Verdict.of_eq_success_iff.1 hsuccess

theorem nested_failure_reads_back :
    let inner := mk 500 (some (.arr [])) [{ key := some "401", info := "expired" }] none (some [])
    let e := mk 200 none [] (some [inner]) none
    let v := Json.str "gateway timeout"
    (∀ d, Within d e → d.Receivable) ∧ ofAnswer e.toJson = e ∧
      ofJson? v = none ∧ (ofAnswer v).status = 0 ∧ Verdict.of [] (ofAnswer v) ≠ .success := by
  intro inner e v
  have hreceivable : ∀ d, Within d e → d.Receivable := by
    intro d hd
    have hlevel : d = e ∨ d = inner := by simpa [e, inner, levels, groupLevels, listLevels] using mem_levels.2 hd
    obtain rfl | rfl := hlevel
    · exact ⟨by decide, (Option.some_ne_none _).symm⟩
    · exact ⟨by decide, fun hdata => by cases hdata⟩
  have hnone : ofJson? v = none := by
    rw [ofJson?_eq]
    rfl
  obtain ⟨hreads, -, hfails⟩ := written_envelope_reads_back
  obtain ⟨hstatus, hverdict⟩ := hfails v hnone
  exact ⟨hreceivable, hreads e hreceivable, hnone, hstatus, hverdict []⟩

end Envelope

end BackOffice
