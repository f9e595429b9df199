import BackOffice.Proofs.Context.Reads
import BackOffice.Workflow.Request
import Mathlib.Data.List.Induction

/-!
What a backend of recorded responses answers. The responses of a workflow stand in a line, and a request takes the oldest
one that has not been served, or else the one served last. There is one exception: the one served last is kept at the
front while nothing waits behind it, and a response that comes then has to wait until it has been served once more.
-/

namespace BackOffice.Replay

/-- What is done with the backend. -/
inductive Use where
  | push (workflow : String) (response : Json)
  | invoke (request : Request)

namespace Use

/-- The workflow that it is about. -/
def workflow : Use → String
  | push workflow _ => workflow
  | invoke request => request.workflow

def request? : Use → Option Request
  | push _ _ => none
  | invoke request => some request

/-- The response that is added for a workflow. -/
def response? (workflow : String) : Use → Option Json
  | push w response => if w = workflow then some response else none
  | invoke _ => none

/-- What is done is about a workflow in one of two ways, or about another one. -/
theorem cases (u : Use) (w : String) :
    (∃ response, u = push w response) ∨ (∃ q : Request, u = invoke q ∧ q.workflow = w) ∨ u.workflow ≠ w := by
  by_cases h : u.workflow = w
  · cases u with
    | push v response => exact .inl ⟨response, congrArg (push · response) h⟩
    | invoke q => exact .inr (.inl ⟨q, rfl, h⟩)
  · exact .inr (.inr h)

theorem response?_of_ne {u : Use} {w : String} (h : u.workflow ≠ w) : u.response? w = none := by
  cases u with
  | push v response => exact if_neg h
  | invoke q => rfl

end Use

/-- The backend after it has been used once. -/
def use (r : Replay) : Use → Replay
  | .push workflow response => r.push workflow response
  | .invoke request => (r.invoke request).2

def after (r : Replay) (uses : List Use) : Replay := uses.foldl use r

/-- The pushes that make a backend of the responses in a value. -/
def opening (v : Json) : List Use :=
  (v.members?.getD []).flatMap fun m => match m.2 with
    | .arr responses => responses.map (.push m.1)
    | response => [.push m.1 response]

/-- How the responses of a workflow stand. -/
structure Line where
  /-- The responses that have been served, the first one first. -/
  served : List Json := []
  /-- The responses that have not been served, the oldest one first. -/
  waiting : List Json := []
  /-- Whether the response that was served last comes once more before those that wait. -/
  again : Bool := false

namespace Line

/-- The response whose turn it is: the oldest one that has not been served, or else the one served last. -/
def due? (l : Line) : Option Json := l.waiting.head?.or l.served.getLast?

/-- The response that is served next. -/
def next? (l : Line) : Option Json := if l.again then l.served.getLast? else l.due?

/-- Whether there have been responses, and all have been served. -/
def isServed (l : Line) : Bool := l.waiting.isEmpty && !l.served.isEmpty

/-- The line with one more response at its end. -/
def push (l : Line) (response : Json) : Line :=
  { l with waiting := l.waiting ++ [response], again := l.again || l.isServed }

/-- The line after its next response has been served. -/
def serve (l : Line) : Line :=
  if l.again then { l with again := false }
  else { served := l.served ++ l.waiting.take 1, waiting := l.waiting.tail }

/-- The line after the backend has been used once. Only what is done for its own workflow counts. -/
def use (workflow : String) (l : Line) (u : Use) : Line :=
  if u.workflow = workflow then
    match u with
    | .push _ response => l.push response
    | .invoke _ => l.serve
  else l

/-- The responses that are kept: the one served last stands in front if it comes again, or if nothing waits. -/
def queue (l : Line) : List Json :=
  (if l.again || l.waiting.isEmpty then l.served.getLast?.toList else []) ++ l.waiting

end Line

/-- How the responses of a workflow stand after a new backend has been used. -/
def line (workflow : String) (uses : List Use) : Line := uses.foldl (Line.use workflow) {}

/-- The answer to a request of a workflow. -/
def answerOf (workflow : String) : Option Json → Except TransportError Json
  | some response => .ok response
  | none => .error (.noResponse workflow)

/-- Whether a response was pushed when all before it had been served, and none has been asked for since. -/
def PushedWhenServed (workflow : String) (uses : List Use) : Prop :=
  ∃ before response behind, uses = before ++ .push workflow response :: behind ∧
    (line workflow before).isServed = true ∧ ∀ q, .invoke q ∈ behind → q.workflow ≠ workflow

variable {r : Replay} {w : String} {l : Line} {u : Use} {uses : List Use}

/-! ### What is kept for a workflow -/

/-- The responses that are kept for a workflow. -/
def queue (r : Replay) (w : String) : List Json := (r.queues.find? w).getD []

/-- What is left after the first response has been served: the only one stays. -/
def left : List Json → List Json
  | _ :: response :: rest => response :: rest
  | queue => queue

theorem queue_push (r : Replay) (v w : String) (response : Json) :
    (r.push v response).queue w = if v = w then r.queue w ++ [response] else r.queue w := by
  rw [queue, push, Keyed.find?_put]
  by_cases h : w = v
  · rw [if_pos h, if_pos h.symm, Option.getD_some, ← h, queue]
  · rw [if_neg h, if_neg (Ne.symm h), queue]

/-- A response is served while others wait behind it, and then leaves; the only one stays. -/
theorem invoke_eq (r : Replay) (q : Request) :
    r.invoke q = match r.queue q.workflow with
      | [] => (.error (.noResponse q.workflow), { r with calls := r.calls ++ [q] })
      | [response] => (.ok response, { r with calls := r.calls ++ [q] })
      | response :: rest =>
        (.ok response, { queues := r.queues.put q.workflow rest, calls := r.calls ++ [q] }) := by
  rw [invoke, queue]
  cases r.queues.find? q.workflow with
  | none => rfl
  | some queue =>
    match queue with
    | [] => rfl
    | [_] => rfl
    | _ :: _ :: _ => rfl

theorem calls_invoke (r : Replay) (q : Request) : (r.invoke q).2.calls = r.calls ++ [q] := by
  rw [invoke_eq]
  split <;> rfl

theorem answer_invoke (r : Replay) (q : Request) :
    (r.invoke q).1 = answerOf q.workflow (r.queue q.workflow).head? := by
  rw [invoke_eq]
  split
  next h => rw [h]; rfl
  next h => rw [h]; rfl
  next h => rw [h]; rfl

theorem queue_invoke (r : Replay) (q : Request) (w : String) :
    (r.invoke q).2.queue w = if q.workflow = w then left (r.queue w) else r.queue w := by
  by_cases hw : q.workflow = w
  · subst hw
    rw [if_pos rfl, invoke_eq]
    split
    next h => rw [h]; exact h
    next h => rw [h]; exact h
    next response rest hrest h =>
      have hput : queue ⟨r.queues.put q.workflow rest, r.calls ++ [q]⟩ q.workflow = rest := by
        rw [queue, Keyed.find?_put_self, Option.getD_some]
      cases rest with
      | nil => exact absurd rfl hrest
      | cons next rest => rw [h, hput, left]
  · rw [if_neg hw, invoke_eq]
    split
    next => rfl
    next => rfl
    next => rw [queue, Keyed.find?_put_of_ne _ _ (Ne.symm hw), queue]

theorem queue_use (r : Replay) (u : Use) (w : String) (h : u.workflow ≠ w) : (r.use u).queue w = r.queue w := by
  cases u with
  | push v response => exact (queue_push r v w response).trans (if_neg h)
  | invoke q => exact (queue_invoke r q w).trans (if_neg h)

/-! ### The line -/

namespace Line

theorem use_push (l : Line) (w : String) (response : Json) : l.use w (.push w response) = l.push response := if_pos rfl

theorem use_invoke {q : Request} (h : q.workflow = w) : l.use w (.invoke q) = l.serve := if_pos h

theorem use_of_ne (h : u.workflow ≠ w) : l.use w u = l := if_neg h

/-- Whether the response that comes once more has been served before. -/
def Sound (l : Line) : Prop := l.again = true → l.served ≠ []

theorem sound_push (h : l.Sound) (response : Json) : (l.push response).Sound := by
  simp only [Sound, push, isServed, Bool.or_eq_true, Bool.and_eq_true] at h ⊢
  rintro (hagain | ⟨-, hserved⟩)
  · exact h hagain
  · simpa using hserved

theorem again_serve (l : Line) : l.serve.again = false := by
  unfold serve
  split <;> rfl

theorem sound_serve (l : Line) : l.serve.Sound := fun h => absurd h (by simp [again_serve])

theorem sound_use (h : l.Sound) (w : String) (u : Use) : (l.use w u).Sound := by
  obtain ⟨response, rfl⟩ | ⟨q, rfl, hq⟩ | hother := u.cases w
  · exact use_push l w response ▸ sound_push h response
  · exact use_invoke (l := l) hq ▸ sound_serve l
  · rwa [use_of_ne hother]

theorem queue_push (l : Line) (response : Json) : (l.push response).queue = l.queue ++ [response] := by
  obtain ⟨served, waiting, again⟩ := l
  cases again with
  | true => simp [push, queue]
  | false =>
    cases waiting with
    | cons first rest => simp [push, queue, isServed]
    | nil =>
      -- the response that was served last begins to come again
      cases served <;> simp [push, queue, isServed]

theorem queue_serve (h : l.Sound) : l.serve.queue = left l.queue := by
  obtain ⟨served, waiting, again⟩ := l
  cases again with
  | true =>
    obtain ⟨last, hlast⟩ : ∃ last, served.getLast? = some last :=
      Option.isSome_iff_exists.1 (by simpa using h rfl)
    cases waiting <;> simp [serve, queue, hlast, left]
  | false =>
    match waiting with
    | [] => cases hlast : served.getLast? <;> simp [serve, queue, hlast, left]
    | [_] => simp [serve, queue, left]
    | _ :: _ :: _ => simp [serve, queue, left]

theorem head?_queue (h : l.Sound) : l.queue.head? = l.next? := by
  obtain ⟨served, waiting, again⟩ := l
  cases again with
  | true =>
    obtain ⟨last, hlast⟩ : ∃ last, served.getLast? = some last :=
      Option.isSome_iff_exists.1 (by simpa using h rfl)
    simp [queue, next?, hlast]
  | false => cases waiting <;> simp [queue, next?, due?]

theorem served_append_waiting_serve (l : Line) : l.serve.served ++ l.serve.waiting = l.served ++ l.waiting := by
  obtain ⟨served, waiting, again⟩ := l
  cases again with
  | true => rfl
  | false => cases waiting <;> simp [serve]

/-- A response that is served goes over from those that wait, and one that is pushed comes to wait. -/
theorem served_append_waiting_use (l : Line) (w : String) (u : Use) :
    (l.use w u).served ++ (l.use w u).waiting = l.served ++ l.waiting ++ (u.response? w).toList := by
  obtain ⟨response, rfl⟩ | ⟨q, rfl, hq⟩ | hother := u.cases w
  · simp [use_push, push, Use.response?]
  · simp [use_invoke hq, served_append_waiting_serve, Use.response?]
  · simp [use_of_ne hother, Use.response?_of_ne hother]

end Line

theorem line_concat (w : String) (uses : List Use) (u : Use) : line w (uses ++ [u]) = (line w uses).use w u := by
  rw [line, List.foldl_append, line]
  rfl

/-- Nothing but what is done for a workflow counts for its line. -/
theorem line_filter (w : String) (uses : List Use) : line w (uses.filter (·.workflow = w)) = line w uses := by
  have hskip : (fun l u => if decide (u.workflow = w) = true then Line.use w l u else l) = Line.use w := by
    funext l u
    by_cases h : u.workflow = w <;> simp [Line.use, h]
  rw [line, List.foldl_filter, hskip, line]

/-- No response is lost, and none is served before an older one. -/
theorem served_append_waiting (w : String) (uses : List Use) :
    (line w uses).served ++ (line w uses).waiting = uses.filterMap (Use.response? w) := by
  induction uses using List.reverseRecOn with
  | nil => rfl
  | append_singleton uses u ih =>
    rw [line_concat, Line.served_append_waiting_use, ih, List.filterMap_append]
    cases h : u.response? w <;> simp [h]

theorem pushedWhenServed_concat (w : String) (uses : List Use) (u : Use) :
    PushedWhenServed w (uses ++ [u]) ↔
      (∃ response, u = .push w response) ∧ (line w uses).isServed = true ∨
        (∀ q, u = .invoke q → q.workflow ≠ w) ∧ PushedWhenServed w uses := by
  constructor
  · rintro ⟨before, response, behind, heq, hserved, hquiet⟩
    rcases behind.eq_nil_or_concat with rfl | ⟨front, last, rfl⟩
    · obtain ⟨rfl, hu⟩ := List.append_inj' heq rfl
      exact .inl ⟨⟨response, List.singleton_inj.1 hu⟩, hserved⟩
    · rw [List.concat_eq_append, ← List.cons_append, ← List.append_assoc] at heq
      obtain ⟨rfl, hu⟩ := List.append_inj' heq rfl
      obtain rfl := List.singleton_inj.1 hu
      exact .inr ⟨fun q hq => hquiet q (by simp [hq]), before, response, front, rfl, hserved,
        fun q hq => hquiet q (by simp [hq])⟩
  · rintro (⟨⟨response, rfl⟩, hserved⟩ | ⟨hu, before, response, behind, rfl, hserved, hquiet⟩)
    · exact ⟨uses, response, [], rfl, hserved, nofun⟩
    · refine ⟨before, response, behind ++ [u], by simp, hserved, fun q hq => ?_⟩
      rcases List.mem_append.1 hq with hq | hq
      · exact hquiet q hq
      · exact hu q (List.mem_singleton.1 hq).symm

/-- When the response that was served last comes once more. -/
theorem again_iff (w : String) (uses : List Use) : (line w uses).again = true ↔ PushedWhenServed w uses := by
  induction uses using List.reverseRecOn with
  | nil => exact ⟨nofun, fun ⟨before, response, behind, h, _⟩ => absurd h (by simp)⟩
  | append_singleton uses u ih =>
    rw [line_concat, pushedWhenServed_concat, ← ih]
    obtain ⟨response, rfl⟩ | ⟨q, rfl, hq⟩ | hother := u.cases w
    · simp [Line.use_push, Line.push, or_comm]
    · simp [Line.use_invoke hq, Line.again_serve, hq]
    · have hpush : ¬∃ response, u = .push w response := fun ⟨_, h⟩ => hother (h ▸ rfl)
      have hinvoke : ∀ q, u = .invoke q → q.workflow ≠ w := fun q h hq => hother (h ▸ hq)
      rw [Line.use_of_ne hother, and_iff_right hinvoke, or_iff_right fun h => hpush h.1]

/-! ### The backend and the line -/

/-- Whether a backend keeps the responses of a workflow as they stand in a line. -/
structure Keeps (r : Replay) (w : String) (l : Line) : Prop where
  queue : r.queue w = l.queue
  sound : l.Sound

theorem Keeps.use (h : r.Keeps w l) (u : Use) : (r.use u).Keeps w (l.use w u) where
  sound := Line.sound_use h.sound w u
  queue := by
    obtain ⟨response, rfl⟩ | ⟨q, rfl, hq⟩ | hother := u.cases w
    · rw [Line.use_push, Line.queue_push, ← h.queue]
      exact (queue_push r w w response).trans (if_pos rfl)
    · rw [Line.use_invoke hq, Line.queue_serve h.sound, ← h.queue]
      exact (queue_invoke r q w).trans (if_pos hq)
    · rw [Line.use_of_ne hother, queue_use r u w hother, h.queue]

theorem keeps_after (w : String) (uses : List Use) : (after {} uses).Keeps w (line w uses) := by
  induction uses using List.reverseRecOn with
  | nil => exact ⟨rfl, nofun⟩
  | append_singleton uses u ih =>
    rw [line_concat, after, List.foldl_append]
    exact ih.use u

theorem calls_after (uses : List Use) : (after {} uses).calls = uses.filterMap Use.request? := by
  induction uses using List.reverseRecOn with
  | nil => rfl
  | append_singleton uses u ih =>
    rw [List.filterMap_append, ← ih, after, List.foldl_append]
    cases u with
    | push w response => simp [use, push, after, Use.request?]
    | invoke q => exact calls_invoke _ q

/-- A backend of the responses in a value is a new one with pushes. -/
theorem ofJson_eq_after (v : Json) : ofJson v = after {} (opening v) := by
  have hpushes (w : String) (responses : List Json) (r : Replay) :
      responses.foldl (fun r response => r.push w response) r = r.after (responses.map (.push w)) := by
    rw [after, List.foldl_map]
    rfl
  rw [ofJson, opening, after, List.foldl_flatMap]
  congr 1
  funext r m
  obtain ⟨w, v⟩ := m
  cases v with
  | arr responses => exact hpushes w responses r
  | _ => rfl

theorem answer_after (uses : List Use) (q : Request) :
    ((after {} uses).invoke q).1 = answerOf q.workflow (line q.workflow uses).next? := by
  have hkeeps := keeps_after q.workflow uses
  rw [answer_invoke, hkeeps.queue, Line.head?_queue hkeeps.sound]

theorem answerOf_inj {a b : Option Json} : answerOf w a = answerOf w b ↔ a = b := by
  cases a <;> cases b <;> simp [answerOf]

/-- Requests are kept in order, and only what was done for its own workflow counts for an answer. The responses of a
workflow that have been served and those that wait are all that were pushed, in their order. A request is answered with
the oldest one that waits, or else with the one served last, or else with none, unless a response was pushed when all
had been served and none has been asked for since: then the one served last comes once more. -/
theorem answers_in_turn_iff (uses : List Use) (q : Request) :
    (after {} uses).calls = uses.filterMap Use.request? ∧
      ((after {} uses).invoke q).1 =
        ((after {} (uses.filter (·.workflow = q.workflow))).invoke q).1 ∧
      (line q.workflow uses).served ++ (line q.workflow uses).waiting = uses.filterMap (Use.response? q.workflow) ∧
      (PushedWhenServed q.workflow uses → ((after {} uses).invoke q).1 =
        answerOf q.workflow (line q.workflow uses).served.getLast?) ∧
      (((after {} uses).invoke q).1 = answerOf q.workflow (line q.workflow uses).due? ↔
        (PushedWhenServed q.workflow uses →
          (line q.workflow uses).served.getLast? = (line q.workflow uses).due?)) ∧
      ∀ v, ofJson v = after {} (opening v) := by
  have hanswer := answer_after uses q
  refine ⟨calls_after uses, ?_, served_append_waiting q.workflow uses, fun h => ?_, ?_, ofJson_eq_after⟩
  · rw [hanswer, answer_after, line_filter]
  · rw [hanswer, Line.next?, if_pos ((again_iff _ _).2 h)]
  · rw [hanswer, answerOf_inj, Line.next?, ← again_iff]
    split
    next hagain => exact (imp_iff_right hagain).symm
    next hagain => exact iff_of_true rfl fun h => absurd h hagain

/-- A response that is pushed when the one before it has been served. -/
def lateResponse : List Use :=
  [.push "W" (.str "first"), .invoke { workflow := "W" }, .push "W" (.str "second")]

theorem first_response_comes_again :
    PushedWhenServed "W" lateResponse ∧
      ((after {} lateResponse).invoke { workflow := "W" }).1 = .ok (.str "first") := by
  have hlate : PushedWhenServed "W" lateResponse := ⟨lateResponse.take 2, .str "second", [], rfl, rfl, nofun⟩
  obtain ⟨-, -, -, hagain, -⟩ := answers_in_turn_iff lateResponse { workflow := "W" }
  exact ⟨hlate, hagain hlate⟩

/-- One response waits, and another one is served for the second time. -/
theorem waiting_response_is_passed_over :
    (line "W" lateResponse).due? = some (.str "second") ∧
      ((after {} lateResponse).invoke { workflow := "W" }).1 ≠
        answerOf "W" (line "W" lateResponse).due? := by
  refine ⟨rfl, fun h => ?_⟩
  have hsame : Json.str "first" = .str "second" := Except.ok.inj h
  simp at hsame

end BackOffice.Replay
