-- SUMMARY: Which answers are accepted in a row of exchanges, and that the log tells of the requests and the accepted answers alone.

import Appliance.Exchange
import Appliance.Proofs.Logging

namespace Appliance

namespace Delivery

/-! ## Verdicts -/

/-- The status tells of an error, of the client or of the server. -/
def ErrorStatus (status : Nat) : Prop := 400 ≤ status ∧ status < 600

theorem isErrorStatus_iff (status : Nat) : isErrorStatus status = true ↔ ErrorStatus status := by
  simp [isErrorStatus, ErrorStatus]

/-- The answer to a request about a namespace, by what came of posting it. -/
inductive Verdict (ns : Namespace) : Delivery → Except Error Message → Prop where
  | late : Verdict ns .timeout (.error .timeout)
  | failed : Verdict ns .failed (.error .http)
  | refused {status : Nat} (body : String) (hstatus : ErrorStatus status) :
      Verdict ns (.answered status body) (.error .http)
  | undecodable {status : Nat} {body : String} (hstatus : ¬ErrorStatus status)
      (hbody : ∀ m, Message.parse body ≠ .ok m) :
      Verdict ns (.answered status body) (.error (.protocol .undecodable))
  | stray {status : Nat} {body : String} {m : Message} (hstatus : ¬ErrorStatus status)
      (hbody : Message.parse body = .ok m) (hns : m.header.ns ≠ ns.name) :
      Verdict ns (.answered status body) (.error (.protocol (.namespaceMismatch m.header.ns ns)))
  | accepted {status : Nat} {body : String} {m : Message} (hstatus : ¬ErrorStatus status)
      (hbody : Message.parse body = .ok m) (hns : m.header.ns = ns.name) :
      Verdict ns (.answered status body) (.ok m)

section

variable {ns : Namespace} {d : Delivery} {answer answer' : Except Error Message}

/-- A text is read as a message, or it cannot be decoded. -/
theorem parse_cases (body : String) : (∃ m, Message.parse body = .ok m) ∨
    (∀ m, Message.parse body ≠ .ok m) ∧ Message.parse body = .error (.protocol .undecodable) := by
  unfold Message.parse
  split
  · exact .inl ⟨_, rfl⟩
  · exact .inr ⟨by simp, rfl⟩

theorem Verdict.message (ns : Namespace) (d : Delivery) : Verdict ns d (d.message ns) := by
  cases d with
  | timeout => exact .late
  | failed => exact .failed
  | answered status body =>
    by_cases hstatus : ErrorStatus status
    · have hbody : (answered status body).body = .error .http :=
        if_pos ((isErrorStatus_iff status).2 hstatus)
      rw [Delivery.message, hbody]
      exact .refused body hstatus
    · have hbody : (answered status body).body = .ok body :=
        if_neg fun h => hstatus ((isErrorStatus_iff status).1 h)
      rw [Delivery.message, hbody]
      rcases parse_cases body with ⟨m, hm⟩ | ⟨hnone, herror⟩
      · by_cases hns : m.header.ns = ns.name
        · simp only [hm, hns, bind, Except.bind, if_true]
          exact .accepted hstatus hm hns
        · simp only [hm, hns, bind, Except.bind, if_false]
          exact .stray hstatus hm hns
      · simp only [herror, bind, Except.bind]
        exact .undecodable hstatus hnone

/-- A delivery has one verdict. -/
theorem Verdict.unique (h : Verdict ns d answer) (h' : Verdict ns d answer') :
    answer = answer' := by
  cases h <;> cases h' <;> simp_all

theorem verdict_iff : Verdict ns d answer ↔ answer = d.message ns :=
  ⟨fun h => h.unique (.message ns d), fun h => h ▸ .message ns d⟩

end

end Delivery

namespace Exchange

open MessageLog (Call ofCalls)

/-! ## Rows of exchanges -/

/-- A request to post, what makes it one of its kind, and what comes of it. -/
structure Posting where
  request : Request
  stamp : Stamp
  delivery : Delivery

namespace Posting

/-- The message that is sent to an endpoint. -/
def message (e : Endpoint) (p : Posting) : Message :=
  Message.request p.request.ns p.request.method p.request.payload e.key e.sender p.stamp

/-- What is logged of a request that got an answer: the request, and the answer
    if it was accepted. -/
def calls (e : Endpoint) (p : Posting) (answer : Except Error Message) : List Call :=
  .request (p.message e) :: (answer.toOption.map .response).toList

/-- The posting with nothing heard in place of an answer that was not accepted. -/
def silenced (p : Posting) : Except Error Message → Posting
  | .ok _ => p
  | .error _ => { p with delivery := .timeout }

end Posting

/-- One exchange. -/
def carry (x : Exchange) (p : Posting) : Result := x.post p.request p.stamp p.delivery

/-- Posts one request after another and tells the answers. -/
def postAll (x : Exchange) : List Posting → Exchange × List (Except Error Message)
  | [] => (x, [])
  | p :: ps =>
    let rest := (x.carry p).exchange.postAll ps
    (rest.1, (x.carry p).answer :: rest.2)

/-- What is logged of a row of requests and their answers. -/
def history (e : Endpoint) (ps : List Posting) (answers : List (Except Error Message)) :
    List Call :=
  (ps.zipWith (Posting.calls e) answers).flatten

variable (x : Exchange) (p : Posting) (ps : List Posting)

/-! ### One exchange -/

theorem carry_exchange : (x.carry p).exchange =
    { x with log := x.log.map ((p.calls x.endpoint (x.carry p).answer).foldl Call.run) } := by
  simp only [carry, post, Posting.calls, Posting.message]
  cases p.delivery.message p.request.ns <;> cases x.log <;> rfl

/-- An answer that is not accepted leaves what silence leaves. -/
theorem carry_silenced :
    (x.carry (p.silenced (x.carry p).answer)).exchange = (x.carry p).exchange := by
  cases hanswer : (x.carry p).answer with
  | ok m => rfl
  | error e =>
    rw [carry_exchange, carry_exchange x p, hanswer]
    rfl

/-! ### All of them -/

theorem postAll_answers : (x.postAll ps).2 = ps.map fun p => p.delivery.message p.request.ns := by
  induction ps generalizing x with
  | nil => rfl
  | cons p ps ih => exact congrArg (_ :: ·) (ih _)

theorem postAll_exchange : (x.postAll ps).1 =
    { x with
      log := x.log.map ((history x.endpoint ps (x.postAll ps).2).foldl Call.run) } := by
  induction ps generalizing x with
  | nil => simp [postAll, history]
  | cons p ps ih =>
    rw [postAll, ih, carry_exchange]
    simp [history, Function.comp_def]

theorem postAll_silenced :
    (x.postAll (ps.zipWith Posting.silenced (x.postAll ps).2)).1 = (x.postAll ps).1 := by
  induction ps generalizing x with
  | nil => rfl
  | cons p ps ih =>
    simp only [postAll, List.zipWith_cons_cons]
    rw [carry_silenced, ih]

/-- Each request is answered by the verdict on its delivery. The log tells, line
    by line, of each request and, right after it, of its answer if that was
    accepted; with silence in place of the other answers it would be the same. -/
theorem postAll_logs (mode : MessageLog.Mode) :
    let run := (x.withLog mode).postAll ps
    let logged := history x.endpoint ps run.2
    List.Forall₂ (fun p answer => ∀ a, p.delivery.Verdict p.request.ns a ↔ a = answer) ps run.2 ∧
      (∃ log, run.1.log = some log ∧ ∀ i : Nat,
        log.lines[i]? = logged[i]?.map fun c => (c.line mode (logged.take i)).render) ∧
      ((x.withLog mode).postAll (ps.zipWith Posting.silenced run.2)).1 = run.1 := by
  refine ⟨?_, ⟨ofCalls mode _, ?_, MessageLog.getElem?_lines mode _⟩, postAll_silenced _ ps⟩
  · rw [postAll_answers, List.forall₂_map_right_iff, List.forall₂_same]
    exact fun p _ a => Delivery.verdict_iff
  · rw [postAll_exchange]
    rfl

end Exchange

end Appliance
