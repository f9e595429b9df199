import BackOffice.Record
import BackOffice.Json.Printer

/-!
The envelope in which a backend answers: a status, data, errors, and the envelopes of calls made on the
way, front-office ones before back-office ones.
-/

namespace BackOffice

/-- One error of an envelope. -/
structure ErrorEntry where
  key : Option String := none
  executeId : Option String := none
  info : String := ""
deriving DecidableEq, Repr

/-- An answer with the answers nested in it. -/
inductive Envelope where
  | mk (status : Nat) (data : Option Json) (errors : List ErrorEntry)
    (fo bo : Option (List Envelope))

namespace ErrorEntry

/-- The key of an entry that stands for a transport failure. -/
def transportKey : String := "TRANSPORT"

/-- The key of an entry that stands for an answer that is no envelope. -/
def decodeKey : String := "DECODE"

def fields : List Record.Names := [["key"], ["execute_id"], ["info"]]

/-- A text, or the text of a value; null is none. -/
def lenientText? : Json → Option String
  | .null => none
  | .str s => some s
  | v => some v.text

def ofJson? (v : Json) : Option ErrorEntry := do
  let [key, executeId, info] ← Record.slots fields v | none
  some {
    key := key.bind lenientText?
    executeId := executeId.bind lenientText?
    info := (info.bind lenientText?).getD "" }

/-- A text as a member, if there is one. -/
def textMember (name : String) : Option String → Keyed Json
  | some s => [(name, .str s)]
  | none => []

def toJson (e : ErrorEntry) : Json :=
  .obj (textMember "key" e.key ++ textMember "execute_id" e.executeId ++ [("info", .str e.info)])

end ErrorEntry

namespace Envelope

def status : Envelope → Nat
  | mk status .. => status

def data : Envelope → Option Json
  | mk _ data .. => data

def errors : Envelope → List ErrorEntry
  | mk _ _ errors .. => errors

/-- The envelopes nested in this one, in the order of the answer. -/
def nested : Envelope → List Envelope
  | mk _ _ _ fo bo => fo.getD [] ++ bo.getD []

/-- The envelope of a call that succeeded. -/
def success (data : Json) : Envelope := mk 200 (some data) [] none none

/-- The envelope of a call that failed. -/
def failure (status : Nat) (entry : ErrorEntry) : Envelope := mk status none [entry] none none

/-- One level of an envelope, the nested ones still unread. -/
structure Level where
  status : Nat := 0
  data : Option Json := none
  errors : List ErrorEntry := []
  fo : Option (List Json) := none
  bo : Option (List Json) := none

namespace Level

def fields : List Record.Names := [["status"], ["payload"]]

def payloadFields : List Record.Names := [["dataresponse"]]

def dataFields : List Record.Names := [["data"], ["errors"], ["fo"], ["bo"]]

/-- A number below 2^16. -/
def status? (v : Json) : Option Nat := v.nat?.filter (· < Nat.pow 2 16)

/-- The errors; null is none. -/
def errors? : Json → Option (List ErrorEntry)
  | .null => some []
  | v => Record.list? ErrorEntry.ofJson? v

/-- Reads what is below the payload's only member. -/
def ofDataResponse? (status : Nat) (v : Json) : Option Level := do
  let [data, errors, fo, bo] ← Record.slots dataFields v | none
  some {
    status
    data := data.filter (!·.isNull)
    errors := ← Record.defaulted errors? [] errors
    fo := ← Record.optional Json.items? fo
    bo := ← Record.optional Json.items? bo }

def ofPayload? (status : Nat) (v : Json) : Option Level := do
  let [dataresponse] ← Record.slots payloadFields v | none
  match dataresponse with
  | none => some { status }
  | some v => ofDataResponse? status v

def ofJson? (v : Json) : Option Level := do
  let [status, payload] ← Record.slots fields v | none
  let status ← Record.defaulted status? 0 status
  match payload with
  | none => some { status }
  | some v => ofPayload? status v

/-- The nested envelopes, unread. -/
def parts (l : Level) : List Json := l.fo.getD [] ++ l.bo.getD []

theorem sizeOf_lt_of_optional {slot : Option Json} {items : Option (List Json)} {w : Json}
    (h : Record.optional Json.items? slot = some items) (hw : w ∈ items.getD []) :
    ∃ v, slot = some v ∧ sizeOf w < sizeOf v := by
  cases slot with
  | none => simp only [Record.optional, Option.some.injEq] at h; subst h; simp at hw
  | some v =>
    cases v with
    | null => simp only [Record.optional, Option.some.injEq] at h; subst h; simp at hw
    | arr l =>
      simp only [Record.optional, Json.items?, Option.map_some, Option.some.injEq] at h
      subst h
      exact ⟨_, rfl, Record.sizeOf_lt_of_items? rfl (by simpa using hw)⟩
    | _ => simp [Record.optional, Json.items?] at h

theorem sizeOf_lt_of_ofDataResponse? {status : Nat} {v w : Json} {l : Level}
    (h : ofDataResponse? status v = some l) (hw : w ∈ l.parts) : sizeOf w < sizeOf v := by
  simp only [ofDataResponse?, Option.bind_eq_bind, Option.bind_eq_some_iff] at h
  obtain ⟨out, hs, h⟩ := h
  split at h
  · simp only [Option.bind_eq_some_iff, Option.some.injEq] at h
    obtain ⟨_, _, fo, hfo, bo, hbo, rfl⟩ := h
    rcases List.mem_append.1 hw with hm | hm
    · obtain ⟨u, hu, hlt⟩ := sizeOf_lt_of_optional hfo hm
      have := Record.sizeOf_lt_of_slots hs (w := u) (by simp [hu])
      omega
    · obtain ⟨u, hu, hlt⟩ := sizeOf_lt_of_optional hbo hm
      have := Record.sizeOf_lt_of_slots hs (w := u) (by simp [hu])
      omega
  · simp at h

theorem sizeOf_lt_of_ofPayload? {status : Nat} {v w : Json} {l : Level}
    (h : ofPayload? status v = some l) (hw : w ∈ l.parts) : sizeOf w < sizeOf v := by
  simp only [ofPayload?, Option.bind_eq_bind, Option.bind_eq_some_iff] at h
  obtain ⟨out, hs, h⟩ := h
  split at h
  · split at h
    · simp only [Option.some.injEq] at h; subst h; simp [parts] at hw
    · have := sizeOf_lt_of_ofDataResponse? h hw
      have := Record.sizeOf_lt_of_slots hs (List.mem_singleton.2 rfl)
      omega
  · simp at h

/-- Nested envelopes are parts of the value that the level is read from. -/
theorem sizeOf_lt_of_ofJson? {v w : Json} {l : Level} (h : ofJson? v = some l) (hw : w ∈ l.parts) :
    sizeOf w < sizeOf v := by
  simp only [ofJson?, Option.bind_eq_bind, Option.bind_eq_some_iff] at h
  obtain ⟨out, hs, h⟩ := h
  split at h
  · simp only [Option.bind_eq_some_iff] at h
    obtain ⟨status, _, h⟩ := h
    split at h
    · simp only [Option.some.injEq] at h; subst h; simp [parts] at hw
    · have := sizeOf_lt_of_ofPayload? h hw
      have := Record.sizeOf_lt_of_slots hs (w := ‹Json›) (by simp)
      omega
  · simp at h

end Level

/-- Reads the nested envelopes of one side; all have to be readable. -/
def readGroup? {α : Type} (group : Option (List Json)) (read? : (w : Json) → w ∈ group.getD [] → Option α) :
    Option (Option (List α)) :=
  match group, read? with
  | none, _ => some none
  | some items, read? => (items.attach.mapM fun w => read? w.1 w.2).map some

/-- Reads an envelope. Missing members take their defaults. -/
def ofJson? (v : Json) : Option Envelope :=
  match h : Level.ofJson? v with
  | none => none
  | some l => do
    let fo ← readGroup? l.fo fun w hw =>
      have : sizeOf w < sizeOf v := Level.sizeOf_lt_of_ofJson? h (List.mem_append_left _ hw)
      ofJson? w
    let bo ← readGroup? l.bo fun w hw =>
      have : sizeOf w < sizeOf v := Level.sizeOf_lt_of_ofJson? h (List.mem_append_right _ hw)
      ofJson? w
    some (mk l.status l.data l.errors fo bo)
termination_by sizeOf v

/-- The envelope of an answer. An answer that is none becomes a failure with status zero. -/
def ofAnswer (v : Json) : Envelope :=
  (ofJson? v).getD
    (failure 0 { key := some ErrorEntry.decodeKey, info := "malformed response envelope" })

mutual

def toJson : Envelope → Json
  | mk status data errors fo bo =>
    .obj [("status", .ofNat status), ("payload", .obj [("dataresponse", .obj (
      (match data with
        | some v => [("data", v)]
        | none => [])
      ++ ("errors", .arr (errors.map ErrorEntry.toJson)) :: groupMember "fo" fo ++ groupMember "bo" bo))])]

def groupMember (name : String) : Option (List Envelope) → List (String × Json)
  | some group => [(name, .arr (listToJson group))]
  | none => []

def listToJson : List Envelope → List Json
  | [] => []
  | e :: rest => toJson e :: listToJson rest

end

/-- Status 200 and no errors, at this level alone. -/
def isLocalSuccess (e : Envelope) : Bool := e.status == 200 && e.errors.isEmpty

mutual

/-- Status 200 and no errors, here and in all nested envelopes. -/
def isSuccess : Envelope → Bool
  | mk status _ errors fo bo =>
    status == 200 && errors.isEmpty && groupSuccess fo && groupSuccess bo

def groupSuccess : Option (List Envelope) → Bool
  | some group => listSuccess group
  | none => true

def listSuccess : List Envelope → Bool
  | [] => true
  | e :: rest => isSuccess e && listSuccess rest

end

mutual

/-- All errors, the envelope's own before those of the nested ones. -/
def allErrors : Envelope → List ErrorEntry
  | mk _ _ errors fo bo => errors ++ groupErrors fo ++ groupErrors bo

def groupErrors : Option (List Envelope) → List ErrorEntry
  | some group => listErrors group
  | none => []

def listErrors : List Envelope → List ErrorEntry
  | [] => []
  | e :: rest => allErrors e ++ listErrors rest

end

mutual

/-- The first error: the envelope's own, or else the first that a nested envelope has. -/
def firstError? : Envelope → Option ErrorEntry
  | mk _ _ errors fo bo => errors.head?.or ((groupFirst? fo).or (groupFirst? bo))

def groupFirst? : Option (List Envelope) → Option ErrorEntry
  | some group => listFirst? group
  | none => none

def listFirst? : List Envelope → Option ErrorEntry
  | [] => none
  | e :: rest => (firstError? e).or (listFirst? rest)

end

end Envelope

end BackOffice
