import Mathlib
import Failover.Proofs.Attempts
import Failover.Proofs.ByteOrder
import Failover.Proofs.Dict
import Failover.Proofs.Gzip

/-!
# What is sent with a request

The headers of a request come from three sides: from the client, from the action, and from the
body if one is sent. Names are compared without their capitals, so what one side says may be
what another one has said before, and it is the order of the sides that decides. `Meaning` is
all that a name can come to mean, one case for each side, and there is nothing else in what is
sent (`exists_meaning`). That the names stand in order, each once, is a matter of dictionaries.

A request is encoded once. Every attempt sends what was encoded (`Client.drive_sent`), and
there is no attempt if there is nothing to send (`Client.execute_encoded`).
-/

namespace Failover

namespace Encoded

variable {headers : Dict String} {name value : String}

/-- Some header goes by the name, once names are written in small letters. -/
def Sets (headers : Dict String) (name : String) : Prop :=
  ∃ h ∈ headers, headerName h.1 = name

/-- A header that goes by the name has this value. -/
def Gives (headers : Dict String) (name value : String) : Prop :=
  ∃ h ∈ headers, headerName h.1 = name ∧ h.2 = value

/-- The name is the one that tells of compression, and there is something to tell. -/
def TellsCompression (isSent compression : Bool) (name : String) : Prop :=
  isSent = true ∧ compression = true ∧ name = "content-encoding"

/-- The headers of a request for which the client and the action have these, `isSent` telling
whether a body is sent, and `compression` whether bodies are compressed. -/
structure Labelled (client action : Dict String) (isSent compression : Bool)
    (headers : Dict String) : Prop where
  small : ∀ h ∈ headers, ∀ c ∈ h.1.toList, c.isUpper = false
  ascending : headers.Pairwise fun g h =>
    Text.Utf8.encode g.1.toList < Text.Utf8.encode h.1.toList
  names : ∀ name, name ∈ headers.names ↔ Sets client name ∨ Sets action name ∨
    isSent = true ∧ name = "content-type" ∨ TellsCompression isSent compression name
  compressed : ∀ name, TellsCompression isSent compression name → (name, "gzip") ∈ headers
  ofAction : ∀ name, ¬TellsCompression isSent compression name → Sets action name →
    ∃ value, Gives action name value ∧ (name, value) ∈ headers
  ofClient : ∀ name, ¬TellsCompression isSent compression name → ¬Sets action name →
    Sets client name → ∃ value, Gives client name value ∧ (name, value) ∈ headers
  /-- The body is taken for JSON, with nobody giving it that type, exactly if there is a body
  and nobody gives it a type. -/
  json : ("content-type", jsonType) ∈ headers ∧ ¬Gives client "content-type" jsonType ∧
      ¬Gives action "content-type" jsonType ↔
    isSent = true ∧ ¬Sets client "content-type" ∧ ¬Sets action "content-type"

/-- These headers and bytes are sent for the action, which has this body. -/
structure Composed (s : Settings) (a : Action) (body : Option String) (headers : Dict String)
    (bytes : Option Bytes) : Prop where
  /-- A body is sent if the action has one, but never with `HEAD`. -/
  sent : bytes.isSome = true ↔ body.isSome = true ∧ a.method ≠ .head
  /-- The bytes are those of the text, or else they are a stream that holds those. -/
  text : ∀ text data, body = some text → bytes = some data →
    if s.compression then data = s.gzip (Text.Utf8.encode text.toList) ∧
      Gzip.decompress? data = some (Text.Utf8.encode text.toList)
    else data = Text.Utf8.encode text.toList
  labelled : Labelled s.defaultHeaders a.headers bytes.isSome s.compression headers

theorem Gives.sets (h : Gives headers name value) : Sets headers name := by
  obtain ⟨p, hp, hname, -⟩ := h
  exact ⟨p, hp, hname⟩

/-! ## Small letters -/

theorem headerName_small (name : String) : ∀ c ∈ (headerName name).toList, c.isUpper = false := by
  intro c hc
  rw [headerName, String.toList_ofList] at hc
  obtain ⟨d, -, rfl⟩ := List.mem_map.1 hc
  exact Char.isUpper_toLower_eq_false d

/-! ## What a name means -/

variable {client action : Dict String} {isSent compression : Bool} {meaning : Option String}

/-- All that a name can mean in a request. What is said of compression goes before the action,
and the action before the client. The body is taken for JSON where nobody says anything. -/
inductive Meaning (client action : Dict String) (isSent compression : Bool) (name : String) :
    Option String → Prop where
  | gzip (tells : TellsCompression isSent compression name) :
      Meaning client action isSent compression name (some "gzip")
  | action {value : String} (tellsNot : ¬TellsCompression isSent compression name)
      (given : Gives action name value) :
      Meaning client action isSent compression name (some value)
  | client {value : String} (tellsNot : ¬TellsCompression isSent compression name)
      (noAction : ¬Sets action name) (given : Gives client name value) :
      Meaning client action isSent compression name (some value)
  | json (sent : isSent = true) (noAction : ¬Sets action name) (noClient : ¬Sets client name)
      (is : name = "content-type") :
      Meaning client action isSent compression name (some jsonType)
  | absent (tellsNot : ¬TellsCompression isSent compression name)
      (noAction : ¬Sets action name) (noClient : ¬Sets client name)
      (noBody : isSent = true → name ≠ "content-type") :
      Meaning client action isSent compression name none

/-- The headers of a request, with a body or without. -/
def sentHeaders (client action : Dict String) (isSent compression : Bool) : Dict String :=
  if isSent then bodyHeaders compression (mergeHeaders client action)
  else mergeHeaders client action

theorem get?_insertAll_named (d headers : Dict String) (name : String) :
    (∃ value, Gives headers name value ∧ (d.insertAll (named headers)).get? name = some value) ∨
      ¬Sets headers name ∧ (d.insertAll (named headers)).get? name = d.get? name := by
  rcases d.get?_insertAll_cases (named headers) name with ⟨p, hp, hname, hvalue⟩ | ⟨hnone, hvalue⟩
  · obtain ⟨h, hmem, rfl⟩ := List.mem_map.1 hp
    exact .inl ⟨h.2, ⟨h, hmem, hname, rfl⟩, hvalue⟩
  · refine .inr ⟨?_, hvalue⟩
    rintro ⟨h, hmem, hname⟩
    exact hnone _ (List.mem_map_of_mem hmem) hname

/-- Without a body the headers are those of the client and the action. -/
theorem meaning_mergeHeaders (client action : Dict String) (compression : Bool) (name : String) :
    Meaning client action false compression name ((mergeHeaders client action).get? name) := by
  have hnot : ¬TellsCompression false compression name := fun h => Bool.false_ne_true h.1
  rw [mergeHeaders]
  rcases get?_insertAll_named (Dict.ofList (named client)) action name with
    ⟨value, hgiven, hvalue⟩ | ⟨haction, hvalue⟩
  · rw [hvalue]
    exact .action hnot hgiven
  · rw [hvalue, Dict.ofList]
    rcases get?_insertAll_named [] client name with ⟨value, hgiven, hvalue⟩ | ⟨hclient, hvalue⟩
    · rw [hvalue]
      exact .client hnot haction hgiven
    · rw [hvalue]
      exact .absent hnot haction hclient fun h => absurd h Bool.false_ne_true

theorem get?_bodyHeaders (compression : Bool) (headers : Dict String) (name : String) :
    (bodyHeaders compression headers).get? name =
      if compression = true ∧ name = "content-encoding" then some "gzip"
      else if name = "content-type" ∧ headers.get? "content-type" = none then some jsonType
      else headers.get? name := by
  unfold bodyHeaders
  cases compression <;> simp [Dict.get?_insert, Dict.get?_insertNew]

theorem meaning_sentHeaders (client action : Dict String) (isSent compression : Bool)
    (name : String) :
    Meaning client action isSent compression name
      ((sentHeaders client action isSent compression).get? name) := by
  have hmerged := meaning_mergeHeaders client action compression name
  cases isSent with
  | false => exact hmerged
  | true =>
    rw [sentHeaders, if_pos rfl, get?_bodyHeaders]
    split
    next h => exact .gzip ⟨rfl, h⟩
    next htellsNot =>
      have hnot : ¬TellsCompression true compression name := fun h => htellsNot h.2
      split
      next h =>
        obtain ⟨rfl, hnone⟩ := h
        rw [hnone] at hmerged
        cases hmerged with
        | absent _ haction hclient _ => exact .json rfl haction hclient rfl
      next hother =>
        -- Nothing was added under this name.
        generalize hvalue : (mergeHeaders client action).get? name = value at hmerged
        cases hmerged with
        | gzip tells => exact absurd tells.1 Bool.false_ne_true
        | action _ hgiven => exact .action hnot hgiven
        | client _ haction hgiven => exact .client hnot haction hgiven
        | json sent => exact absurd sent Bool.false_ne_true
        | absent _ haction hclient _ =>
          exact .absent hnot haction hclient fun _ hname => hother ⟨hname, hname ▸ hvalue⟩

theorem ascending_sentHeaders (client action : Dict String) (isSent compression : Bool) :
    (sentHeaders client action isSent compression).Ascending := by
  have hmerged : (mergeHeaders client action).Ascending :=
    (Dict.ascending_ofList _).insertAll (named action)
  unfold sentHeaders bodyHeaders
  cases isSent with
  | false => exact hmerged
  | true =>
    cases compression with
    | false => exact hmerged.insertNew _ _
    | true => exact (hmerged.insertNew _ _).insert _ _

/-- Each name has one meaning, and what is sent under it is just that. -/
theorem exists_meaning (client action : Dict String) (isSent compression : Bool) (name : String) :
    ∃ meaning, Meaning client action isSent compression name meaning ∧
      ∀ value, (name, value) ∈ sentHeaders client action isSent compression ↔
        meaning = some value :=
  ⟨_, meaning_sentHeaders client action isSent compression name,
    fun _ => (ascending_sentHeaders client action isSent compression).mem_iff⟩

/-! ## The law of headers -/

theorem Meaning.exists_iff (h : Meaning client action isSent compression name meaning) :
    (∃ value, meaning = some value) ↔ Sets client name ∨ Sets action name ∨
      isSent = true ∧ name = "content-type" ∨ TellsCompression isSent compression name := by
  cases h with
  | gzip tells => exact iff_of_true ⟨_, rfl⟩ (.inr (.inr (.inr tells)))
  | action _ given => exact iff_of_true ⟨_, rfl⟩ (.inr (.inl given.sets))
  | client _ _ given => exact iff_of_true ⟨_, rfl⟩ (.inl given.sets)
  | json sent _ _ is => exact iff_of_true ⟨_, rfl⟩ (.inr (.inr (.inl ⟨sent, is⟩)))
  | absent tellsNot noAction noClient noBody =>
    refine iff_of_false (by simp) ?_
    rintro (h | h | ⟨sent, is⟩ | h)
    · exact noClient h
    · exact noAction h
    · exact noBody sent is
    · exact tellsNot h

/-- The two names that a body brings are not the same. -/
theorem not_tellsCompression_type : ¬TellsCompression isSent compression "content-type" :=
  fun h => absurd h.2.2 (by decide)

theorem mem_names_sentHeaders (name : String) :
    name ∈ (sentHeaders client action isSent compression).names ↔
      Sets client name ∨ Sets action name ∨
        isSent = true ∧ name = "content-type" ∨ TellsCompression isSent compression name := by
  obtain ⟨meaning, hmeaning, hmem⟩ := exists_meaning client action isSent compression name
  rw [← hmeaning.exists_iff]
  simp only [← hmem, Dict.names, List.mem_map, Prod.exists, exists_and_right, exists_eq_right]

/-- Every name that is sent is in small letters. -/
theorem small_of_mem_names (h : name ∈ (sentHeaders client action isSent compression).names) :
    ∀ c ∈ name.toList, c.isUpper = false := by
  have htype : headerName "content-type" = "content-type" := by decide
  have hencoding : headerName "content-encoding" = "content-encoding" := by decide
  rcases (mem_names_sentHeaders name).1 h with
    ⟨p, -, rfl⟩ | ⟨p, -, rfl⟩ | ⟨-, rfl⟩ | ⟨-, -, rfl⟩
  · exact headerName_small p.1
  · exact headerName_small p.1
  · exact htype ▸ headerName_small "content-type"
  · exact hencoding ▸ headerName_small "content-encoding"

theorem labelled_sentHeaders (client action : Dict String) (isSent compression : Bool) :
    Labelled client action isSent compression
      (sentHeaders client action isSent compression) where
  small h hh := small_of_mem_names (List.mem_map_of_mem hh)
  ascending := (ascending_sentHeaders client action isSent compression).imp fun hlt =>
    Text.Utf8.encode_lt (String.lt_iff_toList_lt.1 hlt)
  names := mem_names_sentHeaders
  compressed name htells := by
    obtain ⟨meaning, hmeaning, hmem⟩ := exists_meaning client action isSent compression name
    rw [hmem]
    cases hmeaning with
    | gzip _ => rfl
    | action tellsNot _ => exact absurd htells tellsNot
    | client tellsNot _ _ => exact absurd htells tellsNot
    | json _ _ _ is => exact absurd (is ▸ htells) not_tellsCompression_type
    | absent tellsNot _ _ _ => exact absurd htells tellsNot
  ofAction name hnot hsets := by
    obtain ⟨meaning, hmeaning, hmem⟩ := exists_meaning client action isSent compression name
    cases hmeaning with
    | gzip tells => exact absurd tells hnot
    | action _ given => exact ⟨_, given, (hmem _).2 rfl⟩
    | client _ noAction _ => exact absurd hsets noAction
    | json _ noAction _ _ => exact absurd hsets noAction
    | absent _ noAction _ _ => exact absurd hsets noAction
  ofClient name hnot hnone hsets := by
    obtain ⟨meaning, hmeaning, hmem⟩ := exists_meaning client action isSent compression name
    cases hmeaning with
    | gzip tells => exact absurd tells hnot
    | action _ given => exact absurd given.sets hnone
    | client _ _ given => exact ⟨_, given, (hmem _).2 rfl⟩
    | json _ _ noClient _ => exact absurd hsets noClient
    | absent _ _ noClient _ => exact absurd hsets noClient
  json := by
    obtain ⟨meaning, hmeaning, hmem⟩ :=
      exists_meaning client action isSent compression "content-type"
    rw [hmem]
    cases hmeaning with
    | gzip tells => exact absurd tells not_tellsCompression_type
    | action _ given =>
      refine iff_of_false ?_ fun h => h.2.2 given.sets
      rintro ⟨hvalue, -, hnot⟩
      exact hnot (Option.some.inj hvalue ▸ given)
    | client _ _ given =>
      refine iff_of_false ?_ fun h => h.2.1 given.sets
      rintro ⟨hvalue, hnot, -⟩
      exact hnot (Option.some.inj hvalue ▸ given)
    | json sent noAction noClient _ =>
      exact iff_of_true ⟨rfl, fun h => noClient h.sets, fun h => noAction h.sets⟩
        ⟨sent, noClient, noAction⟩
    | absent _ _ _ noBody =>
      exact iff_of_false (fun h => absurd h.1 (by simp)) fun h => noBody h.1 rfl

/-! ## The law of bodies -/

/-- What is encoded, in terms of the text that is sent. -/
theorem ofAction_of_text {s : Settings} {a : Action} {body : Option String}
    (h : a.body = .ok body) (o : Options) :
    ∃ e, ofAction s a o = .ok e ∧
      e.headers = sentHeaders s.defaultHeaders a.headers
        (if a.method.allowsBody then body else none).isSome s.compression ∧
      e.body = (if a.method.allowsBody then body else none).map (bodyBytes s) := by
  generalize htext : (if a.method.allowsBody then body else none) = text
  simp only [ofAction, h, Except.map, htext]
  cases text with
  | none => exact ⟨_, rfl, rfl, rfl⟩
  | some text => exact ⟨_, rfl, rfl, rfl⟩

/-- The bytes of a text tell what the text is. -/
theorem bodyBytes_text {s : Settings} (hgzip : Gzip.IsCompressor s.gzip) (text : String) :
    if s.compression then bodyBytes s text = s.gzip (Text.Utf8.encode text.toList) ∧
      Gzip.decompress? (bodyBytes s text) = some (Text.Utf8.encode text.toList)
    else bodyBytes s text = Text.Utf8.encode text.toList := by
  unfold bodyBytes
  split
  · exact ⟨rfl, hgzip _⟩
  · rfl

/-- What is encoded keeps to both laws. -/
theorem composed_of_body {s : Settings} (hgzip : Gzip.IsCompressor s.gzip) {a : Action}
    {body : Option String} (h : a.body = .ok body) (o : Options) :
    ∃ e, ofAction s a o = .ok e ∧ Composed s a body e.headers e.body := by
  obtain ⟨e, he, hheaders, hbytes⟩ := ofAction_of_text (s := s) h o
  refine ⟨e, he, ?_, fun text data htext hdata => ?_, ?_⟩
  · rw [hbytes, Option.isSome_map, Method.allowsBody]
    by_cases hhead : a.method = .head
    · simp [hhead]
    · simp [hhead]
  · rw [hbytes, htext] at hdata
    split at hdata
    · rw [← Option.some.inj hdata]
      exact bodyBytes_text hgzip text
    · cases hdata
  · rw [hheaders, hbytes, Option.isSome_map]
    exact labelled_sentHeaders ..

end Encoded

namespace Client

open Encoded

variable {c : Client} {a : Action} {o : Options} {e : Encoded} {f : Flight}

/-! ## All attempts send the same -/

theorem encoded_of_dispatch {interpret : Response → String → Outcome} {attempts : UInt32}
    (h : (c.dispatch e interpret attempts).2 = .waiting f) : f.encoded = e := by
  unfold dispatch at h
  split at h
  · cases h
  · cases h
    rfl

theorem encoded_of_resume {f' : Flight} {reply : Reply}
    (h : (c.resume f reply).2 = .waiting f') : f'.encoded = f.encoded := by
  unfold resume at h
  cases reply with
  | ok response => cases h
  | error failure =>
    simp only at h
    split at h
    · exact encoded_of_dispatch h
    · cases h

/-- All that is sent from here on is what was encoded, to some server. -/
theorem drive_sent (replies : Nat → Reply) (sent : List Request) (c : Client) (p : Progress)
    (hp : ∀ f, p = .waiting f → f.encoded = e)
    (hsent : ∀ r ∈ sent, ∃ server, r = e.bind server) :
    ∀ r ∈ (drive (answering replies) sent c p).2.2, ∃ server, r = e.bind server := by
  -- Along the loop. What was encoded goes from each attempt to the next.
  fun_induction drive (answering replies) sent c p with
  | case1 sent c outcome => exact hsent
  | case2 sent c f reply next ih =>
    have hf := hp f rfl
    refine ih (fun f' hf' => (encoded_of_resume hf').trans hf) fun r hr => ?_
    rcases List.mem_append.1 hr with hr | hr
    · exact hsent r hr
    · rw [List.mem_singleton.1 hr, Flight.request, hf]
      exact ⟨_, rfl⟩

theorem drive_sent_ne_nil (replies : Nat → Reply) (sent : List Request) (c : Client)
    (p : Progress) (hsent : sent ≠ []) : (drive (answering replies) sent c p).2.2 ≠ [] := by
  fun_induction drive (answering replies) sent c p with
  | case1 sent c outcome => exact hsent
  | case2 sent c f reply next ih =>
    exact ih (List.append_ne_nil_of_right_ne_nil _ (List.cons_ne_nil _ _))

theorem execute_of_body_error {err : ClientError} (h : a.body = .error err) (c : Client)
    (o : Options) {σ : Type} (send : Transport σ) (state : σ) :
    ∃ c', c.execute send state a o =
        (.error (if c.closed then .shutdown else err), c', state) ∧
      c'.roster.pool = c.roster.pool := by
  have he : ofAction c.settings a o = .error err := by rw [ofAction, h]; rfl
  cases hclosed : c.closed with
  | true =>
    refine ⟨c, ?_, rfl⟩
    rw [execute, start_of_closed hclosed, drive_ended, if_pos rfl]
  | false =>
    obtain ⟨c', hstart, hstep⟩ := start_of_error hclosed he
    refine ⟨c', ?_, hstep.pool_eq⟩
    rw [execute, hstart, drive_ended, if_neg Bool.false_ne_true]

theorem execute_sent (he : ofAction c.settings a o = .ok e) (replies : Nat → Reply) :
    ∀ r ∈ (c.execute (answering replies) [] a o).2.2, ∃ server, r = e.bind server := by
  refine drive_sent replies [] _ _ (fun f hf => ?_) fun r hr => absurd hr List.not_mem_nil
  cases hclosed : c.closed with
  | true =>
    rw [start_of_closed hclosed] at hf
    cases hf
  | false =>
    rw [start_of_ok hclosed he] at hf
    exact encoded_of_dispatch hf

/-- Something is sent if there is a server to send it to. -/
theorem execute_sent_ne_nil (he : ofAction c.settings a o = .ok e) (replies : Nat → Reply)
    (hopen : c.closed = false) (hmembers : c.roster.pool.members ≠ []) :
    (c.execute (answering replies) [] a o).2.2 ≠ [] := by
  obtain ⟨server, hturn⟩ := Pool.exists_turn? hmembers 0
  obtain ⟨c', hdispatch, -⟩ := dispatch_of_turn? hturn e a.interpret 0
  rw [execute, start_of_ok hopen he, hdispatch, drive_waiting]
  exact drive_sent_ne_nil replies _ _ _ (List.cons_ne_nil _ _)

/-- **The law of encoding.** If an action has no body where it should, its request ends with
that error: the transport is asked for nothing, and no server loses its turn. Otherwise all
attempts send the same headers and the same bytes, and those are composed as they should be. All
that is relied on of what compresses bodies is that it makes streams that hold them. -/
theorem execute_encoded (c : Client) (hgzip : Gzip.IsCompressor c.settings.gzip) (a : Action)
    (o : Options) :
    match a.body with
    | .error err => ∀ (σ : Type) (send : Transport σ) (state : σ), ∃ c',
        c.execute send state a o =
          (.error (if c.closed then .shutdown else err), c', state) ∧
        c'.roster.pool = c.roster.pool
    | .ok body => ∃ e, ofAction c.settings a o = .ok e ∧
        Composed c.settings a body e.headers e.body ∧
        ∀ replies, ∃ outcome c' sent,
          c.execute (answering replies) [] a o = (outcome, c', sent) ∧
          (∀ r ∈ sent, r.headers = e.headers ∧ r.body = e.body) ∧
          (c.closed = false → c.roster.pool.members ≠ [] → sent ≠ []) := by
  cases hbody : a.body with
  | error err => exact fun σ send state => execute_of_body_error hbody c o send state
  | ok body =>
    obtain ⟨e, he, hcomposed⟩ := composed_of_body hgzip hbody o
    refine ⟨e, he, hcomposed, fun replies => ⟨_, _, _, rfl, fun r hr => ?_,
      execute_sent_ne_nil he replies⟩⟩
    obtain ⟨server, rfl⟩ := execute_sent he replies r hr
    exact ⟨rfl, rfl⟩

/-- Client and action tell the same things in other letters, the client tells of a compression
of its own, and there is a body. It is sent as a stream of symbols. Without the body there is
nothing. -/
theorem execute_encoded_spellings :
    let text : Bytes := [0x7B, 0xC3, 0xA9, 0x7D]
    let stream : Bytes :=
      [0x1F, 0x8B, 0x08, 0x00, 0x00, 0x00, 0x00, 0x00, 0x00, 0xFF, 0xAB, 0x3E, 0xBC, 0xB2, 0x16,
        0x00, 0xB9, 0xDA, 0xE2, 0x5F, 0x04, 0x00, 0x00, 0x00]
    let c : Client :=
      { settings :=
          { retry := Retry.never
            defaultHeaders := [("Content-Encoding", "br"), ("X-Tag", "1"), ("x-tag", "2")]
            compression := true
            gzip := fun data => if data = text then stream else Gzip.compress data }
        roster := ⟨⟨[⟨"http://a"⟩], [⟨"http://a"⟩], 0⟩, []⟩ }
    let a : Action :=
      { method := .post, path := "/", body := .ok (some "\x7bé\x7d")
        headers := [("CONTENT-TYPE", "text/plain"), ("X-TAG", "3")] }
    Gzip.IsCompressor c.settings.gzip ∧ c.closed = false ∧ c.roster.pool.members ≠ [] ∧
      (∃ outcome c' sent, c.execute (answering fun _ => .ok {}) [] a {} = (outcome, c', sent) ∧
        sent ≠ [] ∧ ∀ r ∈ sent,
          r.headers =
            [("content-encoding", "gzip"), ("content-type", "text/plain"), ("x-tag", "3")] ∧
          r.body = some stream ∧ Gzip.decompress? stream = some text) ∧
      ∃ c', c.execute (answering fun _ => .ok {}) [] { a with body := .error (.io "broken") } {} =
        (.error (.io "broken"), c', []) ∧ c'.roster.pool = c.roster.pool := by
  intro text stream c a
  have hgzip : Gzip.IsCompressor c.settings.gzip := by
    intro data
    show Gzip.decompress? (if data = text then stream else Gzip.compress data) = some data
    split
    next h =>
      rw [h]
      decide +kernel
    · exact Gzip.isCompressor_compress data
  have hmembers : c.roster.pool.members ≠ [] := List.cons_ne_nil _ _
  refine ⟨hgzip, rfl, hmembers, ?_,
    execute_encoded c hgzip { a with body := .error (.io "broken") } {} _ _ _⟩
  obtain ⟨e, he, hcomposed, hsent⟩ := execute_encoded c hgzip a {}
  obtain ⟨outcome, c', sent, hexecute, hall, hne⟩ := hsent fun _ => .ok {}
  refine ⟨outcome, c', sent, hexecute, hne rfl hmembers, fun r hr => ?_⟩
  rw [(hall r hr).1, (hall r hr).2]
  have hheaders : (ofAction c.settings a {}).map (·.headers) =
      .ok [("content-encoding", "gzip"), ("content-type", "text/plain"), ("x-tag", "3")] := rfl
  rw [he] at hheaders
  obtain ⟨data, hdata⟩ := Option.isSome_iff_exists.1 (hcomposed.sent.2 ⟨rfl, by decide⟩)
  obtain ⟨hstream, htext⟩ := hcomposed.text _ data rfl hdata
  obtain rfl : data = stream := hstream
  exact ⟨Except.ok.inj hheaders, hdata, htext⟩

end Client

end Failover
