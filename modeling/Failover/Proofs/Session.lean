import Mathlib.Data.List.TakeWhile
import Failover.Proofs.Buildable
import Failover.Proofs.Iteration
import Failover.Proofs.Settling
import Failover.Text.Digit

/-!
# What the command `request` comes to

A command fails before it has sent anything, or it makes one request and its last reply
decides the rest. Each of the two is shown where it is decided. Arguments and configuration are
looked at in a row, and the first thing wrong stops the command (`request_cases`); behind them
there is a client, and no way left to fail without an attempt (`exists_ofAction`).

The request of a session has taken a course that it could have taken alone, so the law of
attempts says which reply was the last one, and what the loop makes of it is what is printed
(`exists_carried`). Output and exit code are read off that reply: JSON is printed whatever the
status says (`printed_lastOutcome`), and a body that is neither blank nor JSON is trouble although
it was delivered with a good status (`successful_lastOutcome`). For both it matters that a blank
text is never JSON (`Json.Value.parse_of_blank`), since a blank body is not even parsed.

The background changes where the attempts are sent, and nothing else. Where there is none, a
session does the same as the command line that is run (`run_unattended`).
-/

namespace Failover

/-! ## Bodies -/

namespace Text

/-- Nothing is left of a text by trimming exactly if all of it is blank. -/
theorem trim_eq_nil_iff {cs : List Char} : trim cs = [] ↔ ∀ ch ∈ cs, isBlank ch = true := by
  have hstart : ∀ cs : List Char, trimStart cs = [] ↔ ∀ ch ∈ cs, isBlank ch = true :=
    fun cs => List.dropWhile_eq_nil_iff
  rw [trim, trimEnd, List.reverse_eq_nil_iff, hstart]
  constructor
  · intro h ch hch
    rw [← List.takeWhile_append_dropWhile (p := isBlank) (l := cs), List.mem_append] at hch
    rcases hch with hch | hch
    · exact List.mem_takeWhile_imp hch
    · exact h ch (List.mem_reverse.2 hch)
  · intro h ch hch
    exact h ch (List.dropWhile_subset _ (List.mem_reverse.1 hch))

end Text

namespace Json

open Text

theorem ne_of_blank {ch : Char} (h : isBlank ch = true) {x : Char} (hx : isBlank x = false) :
    ch ≠ x := by
  rintro rfl
  rw [h] at hx
  cases hx

theorem readScalar_of_blank {c : Cursor} {ch : Char} {r : List Char} (hc : c.rest = ch :: r)
    (hblank : isBlank ch = true) : ∃ e, readScalar c ch r hc = .error e := by
  have hdigit : ¬ch.isDigit = true := by
    intro hd
    rw [not_blank_of_isDigit (isDigit_of_ascii hd)] at hblank
    cases hblank
  unfold readScalar
  rw [if_neg (ne_of_blank hblank (by decide)), if_neg (ne_of_blank hblank (by decide)),
    if_neg (ne_of_blank hblank (by decide)), if_neg (ne_of_blank hblank (by decide)),
    if_neg hdigit, if_neg (ne_of_blank hblank (by decide))]
  exact ⟨_, rfl⟩

/-- A blank text is not JSON. -/
theorem Value.parse_of_blank {text : String} (h : ∀ ch ∈ text.toList, isBlank ch = true)
    (v : Value) : parse text ≠ .ok v := by
  have hread : ∃ e, readValue maxDepth (.ofText text.toList) = .error e := by
    rw [maxDepth, readValue]
    dsimp only
    split
    · exact ⟨_, rfl⟩
    next ch r hc =>
      have hblank : isBlank ch = true := by
        have hrest : text.toList.dropWhile Cursor.isSpace = ch :: r := hc
        refine h ch (List.dropWhile_subset Cursor.isSpace ?_)
        rw [hrest]
        exact List.mem_cons_self
      obtain ⟨e, he⟩ := readScalar_of_blank hc hblank
      rw [if_neg (ne_of_blank hblank (by decide)), if_neg (ne_of_blank hblank (by decide)), he]
      exact ⟨e, rfl⟩
  obtain ⟨e, he⟩ := hread
  intro hparse
  simp only [parse, parseChars, he, bind, Except.bind, Except.mapError] at hparse
  cases hparse

end Json

/-- The body of the response is blank. -/
def Response.IsBlank (r : Response) : Prop :=
  ∀ ch ∈ (Answer.bodyText r).toList, Text.isBlank ch = true

/-- The body of the response is this JSON. -/
def Response.IsJson (r : Response) (v : Json.Value) : Prop :=
  Json.Value.parse (Answer.bodyText r) = .ok v

namespace Answer

variable {r : Response} {url : String} {answer : Answer}

theorem readBody_of_blank (h : r.IsBlank) : readBody (bodyText r) = .ok .null := by
  rw [readBody, Text.trim_eq_nil_iff.2 h]
  rfl

theorem readBody_of_not_blank (h : ¬r.IsBlank) :
    readBody (bodyText r) = Json.Value.parse (bodyText r) := by
  rw [readBody, if_neg]
  rw [List.isEmpty_iff, Text.trim_eq_nil_iff]
  exact h

/-- What an answer holds that was read from a response. -/
theorem ofResponse_json (h : ofResponse r url = .ok answer) :
    (r.IsBlank ∧ answer.json = .null) ∨ r.IsJson answer.json := by
  by_cases hblank : r.IsBlank
  · rw [ofResponse, readBody_of_blank hblank] at h
    cases h
    exact Or.inl ⟨hblank, rfl⟩
  · rw [ofResponse, readBody_of_not_blank hblank] at h
    right
    split at h
    · cases h
    next v hparse =>
      cases h
      exact hparse

/-- JSON is read as it is. -/
theorem json_of_isJson {v : Json.Value} (h : ofResponse r url = .ok answer) (hv : r.IsJson v) :
    answer.json = v := by
  rcases ofResponse_json h with ⟨hblank, -⟩ | hjson
  · exact absurd hv (Json.Value.parse_of_blank hblank v)
  · exact Except.ok.inj (hjson.symm.trans hv)

/-- A response whose body is neither blank nor JSON is no answer. -/
theorem exists_ofResponse_iff :
    (∃ answer, ofResponse r url = .ok answer) ↔ r.IsBlank ∨ ∃ v, r.IsJson v := by
  constructor
  · rintro ⟨answer, h⟩
    exact (ofResponse_json h).imp And.left fun hjson => ⟨_, hjson⟩
  · intro h
    have hread : ∃ v, readBody (bodyText r) = .ok v := by
      by_cases hblank : r.IsBlank
      · exact ⟨_, readBody_of_blank hblank⟩
      · rw [readBody_of_not_blank hblank]
        exact h.resolve_left hblank
    obtain ⟨v, hv⟩ := hread
    rw [ofResponse, hv]
    exact ⟨_, rfl⟩

end Answer

/-! ## Arguments -/

theorem Method.ofName?_eq_some_iff {name : String} {m : Method} :
    ofName? name = some m ↔ m.name = capitals name := by
  constructor
  · intro h
    have hname : (m.name == capitals name) = true :=
      List.find?_some (p := fun m : Method => m.name == capitals name) h
    exact eq_of_beq hname
  · intro h
    rw [ofName?, ← h]
    cases m <;> decide

namespace Command

/-- There is no such method, the body is not JSON, or the configuration does not pass the
check. -/
def Refused (c : Config) (method : String) (body : Option String) : Prop :=
  (∀ m : Method, m.name ≠ Method.capitals method) ∨
    (∃ text, body = some text ∧ ∀ v, Json.Value.parse text ≠ .ok v) ∨
    c.check ≠ .ok ()

variable {c : Config} {method path : String} {body : Option String}

theorem rawAction_cases (method path : String) (body : Option String) :
    (∃ t, rawAction method path body = .error t ∧
      ((∀ m : Method, m.name ≠ Method.capitals method) ∨
        ∃ text, body = some text ∧ ∀ v, Json.Value.parse text ≠ .ok v)) ∨
    ∃ m : Method, m.name = Method.capitals method ∧
      (∀ text, body = some text → ∃ v, Json.Value.parse text = .ok v) ∧
      rawAction method path body = .ok { method := m, path, body } := by
  unfold rawAction
  cases hmethod : Method.ofName? method with
  | none =>
    refine Or.inl ⟨_, rfl, Or.inl fun m hm => ?_⟩
    rw [Method.ofName?_eq_some_iff.2 hm] at hmethod
    cases hmethod
  | some m =>
    have hname := Method.ofName?_eq_some_iff.1 hmethod
    cases body with
    | none => exact Or.inr ⟨m, hname, nofun, rfl⟩
    | some text =>
      cases hparse : Json.Value.parse text with
      | error e =>
        refine Or.inl ⟨.body e, by simp only [hparse], Or.inr ⟨text, rfl, fun v hv => ?_⟩⟩
        rw [hparse] at hv
        cases hv
      | ok v =>
        refine Or.inr ⟨m, hname, ?_, by simp only [hparse]; rfl⟩
        rintro _ ⟨⟩
        exact ⟨v, hparse⟩

theorem built_cases (c : Config) :
    (∃ t, built c = .error t ∧ c.check ≠ .ok ()) ∨
      ∃ s₀, built c = .ok s₀ ∧ Client.build { config := c } = .ok s₀ ∧ c.check = .ok () := by
  unfold built
  cases hbuild : Client.build { config := c } with
  | ok s₀ => exact Or.inr ⟨s₀, rfl, rfl, Client.check_of_build hbuild⟩
  | error e =>
    refine Or.inl ⟨_, rfl, fun hcheck => ?_⟩
    obtain ⟨s₀, hs₀⟩ : ∃ s₀, Client.build { config := c } = .ok s₀ :=
      Client.build_of_check hcheck rfl
    rw [hbuild] at hs₀
    cases hs₀

namespace Session

theorem plan_request (c : Config) (method path : String) (body : Option String) :
    (Task.request method path body).plan c =
      (rawAction method path body).bind fun a =>
        (built c).bind fun s₀ => .ok (.ask s₀ a.action fun _ => presentRequest) :=
  rfl

/-- The arguments are refused before there is a client, or they make an action and there is
one. What the command plans to do is the same. -/
theorem request_cases (c : Config) (method path : String) (body : Option String)
    (w : Surroundings) :
    (Refused c method body ∧ ∃ t,
      request c method path body w = { output := some (.ofTrouble t) } ∧
      (Task.request method path body).plan c = .error t) ∨
    (¬Refused c method body ∧ ∃ (a : RawAction) (s₀ : System),
      a.method.name = Method.capitals method ∧ a = { method := a.method, path, body } ∧
      Client.build { config := c } = .ok s₀ ∧
      request c method path body w = ofAction w s₀ a.action ∧
      (Task.request method path body).plan c =
        .ok (.ask s₀ a.action fun _ => presentRequest)) := by
  rw [plan_request, request]
  rcases rawAction_cases method path body with ⟨t, haction, hwrong⟩ | ⟨m, hm, hbody, haction⟩
  · rw [haction]
    exact Or.inl ⟨hwrong.imp_right Or.inl, t, rfl, rfl⟩
  · rcases built_cases c with ⟨t, hbuilt, hcheck⟩ | ⟨s₀, hbuilt, hbuild, hcheck⟩
    · rw [haction, hbuilt]
      exact Or.inl ⟨Or.inr (Or.inr hcheck), t, rfl, rfl⟩
    · rw [haction, hbuilt]
      refine Or.inr ⟨?_, { method := m, path, body }, s₀, hm, rfl, hbuild, rfl, rfl⟩
      rintro (hno | ⟨text, htext, hno⟩ | hno)
      · exact hno m hm
      · obtain ⟨v, hv⟩ := hbody text htext
        exact hno v hv
      · exact hno hcheck

/-! ## Sessions -/

variable {s₀ : System} {a : RawAction} {w : Surroundings}

/-- What was not sent in the background was sent by the command. -/
theorem requests_eq {setup : Client.Setup} (h : Client.build setup = .ok s₀) {events : List Event}
    (hnear : ∀ e ∈ events, ∀ o, e.actor? = some o → IsNear o) (output : Option Output) :
    Session.requests ⟨(s₀.run events).dispatched.reverse, output⟩ =
      ((s₀.run events).history origin).sent := by
  have hsame : (s₀.run events).dispatched.filter (fun d => d.origin ≠ .background) =
      (s₀.run events).dispatched.filter (fun d => d.origin = origin) := by
    apply List.filter_congr
    intro d hd
    have hor := System.origin_of_dispatched h hnear d hd
    by_cases hown : d.origin = origin
    · simp [hown, origin]
    · simp [hor.resolve_left hown, origin]
  rw [requests, System.history, List.filter_reverse, List.map_reverse, hsame]

/-- The session of a request that was not refused: it ends, with the outcome of its course. -/
theorem exists_ofAction {setup : Client.Setup} (h : Client.build setup = .ok s₀)
    (w : Surroundings) (action : Action) :
    ∃ xs outcome, System.Asked w s₀ action (s₀.ask w action) xs outcome ∧
      (ofAction w s₀ action).output = some (presentRequest outcome) ∧
      (ofAction w s₀ action).requests = ((s₀.ask w action).history origin).sent := by
  obtain ⟨xs, outcome, hasked⟩ := System.exists_asked h w action
  obtain ⟨after, hrun, hawaited⟩ := System.exists_run_ask w action s₀
  have hasking : ∀ e ∈ System.handover w action ++ origin.start :: after, Asking e :=
    System.asking_request hawaited
  refine ⟨xs, outcome, hasked, ?_⟩
  cases outcome with
  | error e =>
    have hsession : ofAction w s₀ action =
        { dispatched := (s₀.ask w action).dispatched.reverse
          output := some (presentRequest (.error e)) } := by
      rw [ofAction, hasked.ended]
    rw [hsession, hrun]
    exact ⟨rfl, requests_eq h (fun e he => (hasking e he).near) _⟩
  | ok answer =>
    have hstocked := Client.build_stocked h
    have hreturns : ((s₀.ask w action).close w).shutdowns.head? = some true := by
      rw [hrun]
      exact System.close_shutdowns ((System.phase_of_build h).run _ hstocked)
        (System.run_stocked _ hstocked)
    have hsession : ofAction w s₀ action =
        { dispatched := ((s₀.ask w action).close w).dispatched.reverse
          output := some (presentRequest (.ok answer)) } := by
      simp only [ofAction, hasked.ended, if_pos hreturns]
    have hsent :
        ((s₀.ask w action).close w).history origin = (s₀.ask w action).history origin := by
      rw [System.close_eq_run]
      refine System.history_run_of_ne _ (fun e he ho => ?_) _
      cases System.closing_actor he ho
    rw [hsession]
    refine ⟨rfl, ?_⟩
    rw [← hsent, System.close_eq_run, hrun, ← System.run_append]
    refine requests_eq h (fun e he o ho => ?_) _
    rcases List.mem_append.1 he with he | he
    · exact (hasking e he).near o ho
    · exact Or.inr (System.closing_actor he ho)

/-! ## What is printed -/

theorem exitCode_presentRequest {outcome : Outcome} :
    (presentRequest outcome).exitCode = 0 ↔
      ∃ answer, outcome = .ok answer ∧ answer.succeeded = true := by
  cases outcome with
  | error e => simp [presentRequest, Output.ofTrouble, Output.exitCode]
  | ok answer =>
    cases hok : answer.succeeded <;> simp [presentRequest, refusal?, Output.exitCode, hok]

theorem lines_presentRequest_null {answer : Answer} (h : answer.json = .null) :
    (presentRequest (.ok answer)).lines = [] := by
  simp [presentRequest, h, Json.Value.isNull]

theorem lines_presentRequest_json {answer : Answer} (h : answer.json ≠ .null) :
    (presentRequest (.ok answer)).lines = [answer.json.pretty] := by
  have hnull : ¬answer.json.isNull = true := by
    intro hnull
    unfold Json.Value.isNull at hnull
    split at hnull
    next hv => exact h hv
    · cases hnull
  simp only [presentRequest, if_neg hnull]

/-- What `request` prints once the last reply has come. -/
def Printed (reply : Reply) (lines : List String) : Prop :=
  (∃ response v, reply = .ok response ∧ response.IsJson v ∧ v ≠ .null ∧ lines = [v.pretty]) ∨
    ((∀ response v, reply = .ok response → response.IsJson v → v = .null) ∧ lines = [])

/-- A response was delivered whose status says that all went well, and its body can be read. -/
def Successful (reply : Reply) : Prop :=
  ∃ response, reply = .ok response ∧ 200 ≤ response.status ∧ response.status < 300 ∧
    (response.IsBlank ∨ ∃ v, response.IsJson v)

/-- What the last reply makes of the request of a command. -/
def lastOutcome (url : String) (server : Server) : Reply → Outcome
  | .ok response => Answer.ofResponse response url
  | .error failure =>
    .error (if failure.kind = .connectRefused then .couldNotConnect server failure
      else .transport failure)

theorem printed_lastOutcome (url : String) (server : Server) (reply : Reply) :
    Printed reply (presentRequest (lastOutcome url server reply)).lines := by
  cases reply with
  | error failure => exact Or.inr ⟨nofun, rfl⟩
  | ok response =>
    rw [lastOutcome]
    cases hread : Answer.ofResponse response url with
    | error e =>
      refine Or.inr ⟨?_, rfl⟩
      rintro _ v ⟨⟩ hv
      obtain ⟨answer, hanswer⟩ : ∃ answer, Answer.ofResponse response url = .ok answer :=
        Answer.exists_ofResponse_iff.2 (Or.inr ⟨v, hv⟩)
      rw [hread] at hanswer
      cases hanswer
    | ok answer =>
      by_cases hnull : answer.json = .null
      · refine Or.inr ⟨?_, lines_presentRequest_null hnull⟩
        rintro _ v ⟨⟩ hv
        rw [← Answer.json_of_isJson hread hv, hnull]
      · refine Or.inl ⟨response, answer.json, rfl, ?_, hnull, lines_presentRequest_json hnull⟩
        exact (Answer.ofResponse_json hread).resolve_left fun h => hnull h.2

theorem successful_lastOutcome (url : String) (server : Server) (reply : Reply) :
    (presentRequest (lastOutcome url server reply)).exitCode = 0 ↔ Successful reply := by
  rw [exitCode_presentRequest]
  constructor
  · rintro ⟨answer, hread, hok⟩
    cases reply with
    | error failure => cases hread
    | ok response =>
      have hstatus : response.isSuccess = true := (Answer.ofResponse_eq_ok hread).2 ▸ hok
      rw [Response.isSuccess, Bool.and_eq_true, decide_eq_true_eq, decide_eq_true_eq] at hstatus
      exact ⟨response, rfl, hstatus.1, hstatus.2, Answer.exists_ofResponse_iff.1 ⟨answer, hread⟩⟩
  · rintro ⟨response, rfl, hlow, hhigh, hbody⟩
    obtain ⟨answer, hread⟩ : ∃ answer, Answer.ofResponse response url = .ok answer :=
      Answer.exists_ofResponse_iff.2 hbody
    refine ⟨answer, hread, ?_⟩
    rw [(Answer.ofResponse_eq_ok hread).2, Response.isSuccess, decide_eq_true hlow,
      decide_eq_true hhigh]
    rfl

/-! ## The whole command -/

theorem retry_of_build {retry : Retry} (h : Client.build { config := c } = .ok s₀)
    (hretry : c.retry.policy = .ok retry) : s₀.client.settings.retry = retry := by
  obtain ⟨_, _, policy, -, -, hpolicy, rfl⟩ := Client.build_eq_ok h
  simp only [Client.Setup.policy, hretry] at hpolicy
  cases hpolicy
  rfl

theorem unattended_of_build (h : Client.build { config := c } = .ok s₀)
    (hquiet : c.discovery.enabled = false ∨ ∀ n, w.asides n = []) : s₀.Unattended w := by
  refine hquiet.imp_left fun hdisabled => ?_
  obtain ⟨_, _, _, -, -, -, rfl⟩ := Client.build_eq_ok h
  exact if_neg (by simp [hdisabled])

/-- What a session has done that was not refused. Its client was built as `s₀`, it has asked for
`a` and made `k` attempts, and it has ended with this output. -/
structure Carried (c : Config) (w : Surroundings) (session : Session) (s₀ : System)
    (a : RawAction) (k : Nat) (output : Output) : Prop where
  ended : session.output = some output
  /-- The last attempt is the first one that is the last by the settings for retries. -/
  last : IsLeast {n | 1 ≤ n ∧ c.retry.IsLast n (w.replies n)} k
  attempts : session.requests.length = k
  /-- The requests are those of the loop run by itself under the configured policy, on the
  servers that they were sent to. -/
  sequential : ∃ retry outcome client, c.retry.policy = .ok retry ∧
    s₀.client.settings.retry = retry ∧
    (s₀.client.serving (session.requests.map Request.server)).execute (answering w.replies) []
      a.action {} = (outcome, client, session.requests)
  printed : Printed (w.replies k) output.lines
  successful : output.exitCode = 0 ↔ Successful (w.replies k)

theorem exists_carried (h : Client.build { config := c } = .ok s₀) (w : Surroundings)
    (a : RawAction) : ∃ k output, Carried c w (ofAction w s₀ a.action) s₀ a k output := by
  obtain ⟨xs, outcome, hasked, houtput, hrequests⟩ := exists_ofAction h w a.action
  rw [hasked.sent] at hrequests
  have hopen : s₀.client.closed = false := by
    obtain ⟨_, _, _, -, -, -, rfl⟩ := Client.build_eq_ok h
    rfl
  let servers := (ofAction w s₀ a.action).requests.map Request.server
  have hservers : servers = xs.map fun x => x.1.server := by
    show List.map Request.server _ = _
    rw [hrequests, List.map_map]
    rfl
  have hmembers : servers ≠ [] := by
    rw [hservers, Ne, List.map_eq_nil_iff]
    exact hasked.course.ne_nil hopen rfl
  -- By itself the request comes to the same, and the law of attempts says what that is.
  obtain ⟨c', hexec⟩ := hasked.course.execute hasked.replied
  rw [← hservers, ← hrequests] at hexec
  obtain ⟨retry, hpolicy, hlaw⟩ :=
    Client.execute_attempts c.retry (s₀.client.serving servers) a.action {} w.replies rfl hopen
      hmembers
  have hretry := retry_of_build h hpolicy
  obtain ⟨k, outcome', _, sent, request, hleast, -, hexec', hlength, -, houtcome, -⟩ := hlaw hretry
  have hsame := hexec.symm.trans hexec'
  simp only [Prod.mk.injEq] at hsame
  obtain ⟨rfl, -, rfl⟩ := hsame
  have hlast : outcome = lastOutcome request.url request.server (w.replies k) := by
    rw [houtcome]
    cases w.replies k <;> rfl
  refine ⟨k, presentRequest outcome, houtput, hleast, hlength,
    ⟨retry, outcome, c', hpolicy, hretry, hexec⟩, ?_, ?_⟩
  · rw [hlast]
    exact printed_lastOutcome ..
  · rw [hlast]
    exact successful_lastOutcome ..

/-- Without a background a session is what the command line comes to when it is carried out. -/
theorem run_unattended {i : Invocation} {files : Config.Files}
    (htask : i.task = .request method path body) (hconfiguration : i.configuration files = .ok c)
    (hquiet : c.discovery.enabled = false ∨ ∀ n, w.asides n = []) (world : Circumstances) :
    ∃ output, (request c method path body w).output = some output ∧
      i.run files world (answering w.replies) [] =
        (output, (request c method path body w).requests) := by
  have hplan : i.plan files = (Task.request method path body).plan c := by
    simp only [Invocation.plan, hconfiguration, htask]
    rfl
  rw [Invocation.run, hplan]
  rcases request_cases c method path body w with
    ⟨-, t, hsession, ht⟩ | ⟨-, a, s₀, -, -, hbuild, hsession, ha⟩
  · rw [hsession, ht]
    exact ⟨_, rfl, rfl⟩
  · obtain ⟨xs, outcome, hasked, houtput, hrequests⟩ := exists_ofAction hbuild w a.action
    obtain ⟨outcome', c', hexec, hended⟩ :=
      System.execute_ask hbuild w a.action (unattended_of_build hbuild hquiet)
    obtain rfl : outcome = outcome' := Option.some.inj (hasked.ended.symm.trans hended)
    rw [hsession, ha, hrequests]
    refine ⟨_, houtput, ?_⟩
    simp only [Plan.run, hexec]

/-- **What `request` does.** It is refused if and only if there is no such method, the body is not
JSON or the configuration does not pass the check, and then nothing at all is sent. Otherwise it
makes one request for its action, under the configured policy and whatever the background does,
and the last reply says what is printed and whether the command was successful. Without a
background all of it is what the command line comes to. -/
theorem request_carried (c : Config) (method path : String) (body : Option String)
    (w : Surroundings) :
    let session := request c method path body w
    ((Refused c method body ∧ session.dispatched = [] ∧
        ∃ output, session.output = some output ∧ output.lines = [] ∧ output.exitCode = 1) ∨
      (¬Refused c method body ∧ ∃ (a : RawAction) (s₀ : System) (k : Nat) (output : Output),
        a.method.name = Method.capitals method ∧ a = { method := a.method, path, body } ∧
        Client.build { config := c } = .ok s₀ ∧ Carried c w session s₀ a k output)) ∧
    ∀ (i : Invocation) (files : Config.Files) (world : Circumstances),
      i.task = .request method path body → i.configuration files = .ok c →
      (c.discovery.enabled = false ∨ ∀ n, w.asides n = []) →
      ∃ output, session.output = some output ∧
        i.run files world (answering w.replies) [] = (output, session.requests) := by
  intro session
  refine ⟨?_, fun i files world htask hconfiguration hquiet =>
    run_unattended htask hconfiguration hquiet world⟩
  rcases request_cases c method path body w with
    ⟨hrefused, t, hsession, -⟩ | ⟨hpassed, a, s₀, hmethod, ha, hbuild, hsession, -⟩
  · left
    have hnone : session = { output := some (.ofTrouble t) } := hsession
    rw [hnone]
    exact ⟨hrefused, rfl, _, rfl, rfl, rfl⟩
  · right
    obtain ⟨k, output, hcarried⟩ := exists_carried hbuild w a
    rw [← hsession] at hcarried
    exact ⟨hpassed, a, s₀, k, output, hmethod, ha, hbuild, hcarried⟩

/-- The first attempt is refused, and the background task runs before its reply comes. The second
is answered with a status that says no, and with a body that is printed all the same. -/
theorem request_carried_refused_once :
    let i : Invocation :=
      { config := none
        servers := ["[::1]:9200", "http://[::2]:9200"]
        maxAttempts := some 3
        task := .request "pOsT" "/x" (some "true") }
    let files : Config.Files := fun _ => .error .missing
    let c : Config :=
      { servers := ["[::1]:9200", "http://[::2]:9200"], retry := { maxAttempts := 3 } }
    let replies : Nat → Reply := fun n =>
      if n = 1 then .error ⟨.connectRefused, "http://[::1]:9200/x", "refused"⟩
      else .ok { status := 404, body := [116, 114, 117, 101] }
    let w : Surroundings :=
      { replies, asides := fun n => if n = 1 then [.wake, .reply (.ok {})] else [] }
    let busy := request (c.withDiscovery 5 10) "pOsT" "/x" (some "true") w
    let alone := request c "pOsT" "/x" (some "true") w
    (busy.requests.length = 2 ∧ ∃ output, busy.output = some output ∧
      output.lines = ["true"] ∧ output.exitCode ≠ 0) ∧
    i.configuration files = .ok c ∧ c.discovery.enabled = false ∧
      ∃ output, alone.output = some output ∧
        i.run files ⟨"1.0", 0⟩ (answering w.replies) [] = (output, alone.requests) := by
  intro i files c replies w busy alone
  have htrue : Response.IsJson { status := 404, body := [116, 114, 117, 101] } (.bool true) := by
    have htext : Answer.bodyText { status := 404, body := [116, 114, 117, 101] } = "true" := by
      decide +kernel
    rw [Response.IsJson, htext]
    rfl
  have hcheck :
      (Config.withDiscovery
        { servers := ["[::1]:9200", "http://[::2]:9200"], retry := { maxAttempts := 3 } }
        5 10).check = .ok () :=
    rfl
  constructor
  · rcases (request_carried (c.withDiscovery 5 10) "pOsT" "/x" (some "true") w).1 with
      ⟨hrefused, -⟩ | ⟨-, a, s₀, k, output, -, -, -, hcarried⟩
    · rcases hrefused with hmethod | ⟨text, htext, hbody⟩ | hwrong
      · exact absurd rfl (hmethod .post)
      · cases htext
        exact absurd rfl (hbody (.bool true))
      · exact absurd hcheck hwrong
    · have hk : k = 2 := by
        obtain ⟨⟨hpos, hlast⟩, hleast⟩ := hcarried.last
        have hle : k ≤ 2 := hleast ⟨by decide, trivial⟩
        have hone : k ≠ 1 := by
          rintro rfl
          exact absurd hlast (by simp [w, replies, RetrySettings.IsLast, RetrySettings.Recovers,
            RetrySettings.ceiling, c, Config.withDiscovery])
        omega
      subst hk
      refine ⟨hcarried.attempts, output, hcarried.ended, ?_, fun hzero => ?_⟩
      · rcases hcarried.printed with ⟨_, v, ⟨⟩, hv, -, hlines⟩ | ⟨hnone, -⟩
        · rw [hlines]
          obtain rfl : v = .bool true := Except.ok.inj (hv.symm.trans htrue)
          rfl
        · cases hnone _ _ rfl htrue
      · obtain ⟨_, ⟨⟩, -, hstatus, -⟩ := hcarried.successful.1 hzero
        exact absurd hstatus (by decide)
  · have hconfiguration : i.configuration files = .ok c := rfl
    exact ⟨hconfiguration, rfl, (request_carried c "pOsT" "/x" (some "true") w).2 i files _ rfl
      hconfiguration (Or.inl rfl)⟩

end Session

end Command

end Failover
