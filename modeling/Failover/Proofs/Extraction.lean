import Failover.Command.Run
import Failover.Proofs.ByteOrder
import Failover.Proofs.Canonical
import Failover.Proofs.Iteration
import Failover.Proofs.JsonOrder
import Failover.Proofs.Pool
import Failover.Proofs.Spelling

/-!
# The servers of an answer

An answer describes nodes, and of a node two fields count, the second only where the first is
missing (`told?`). The servers of an answer are those of its nodes in the order of their ids,
each where it comes first, and nodes that are none are passed over; what else is in the answer
has no say in which servers there are (`servers_subset`).

The table of nodes is made by a loop of its own. Its rows end with an address or with a dash. As
an address has no blank in it, it can be taken off its row again (`lastWord_row`), and the
addresses that are read from the table are the servers of the answer. `servers_extracted` has
all of it.
-/

namespace Failover

/-! ## Lists without duplicates -/

/-- Duplicates can be left out before or after what tells items apart. -/
theorem eraseDups_map {α β : Type} [DecidableEq α] [DecidableEq β] {f : α → β}
    (hf : Function.Injective f) (xs : List α) :
    (xs.map f).eraseDups = xs.eraseDups.map f := by
  induction hn : xs.length using Nat.strongRecOn generalizing xs with
  | ind n ih =>
    cases xs with
    | nil => rfl
    | cons x r =>
      have hrest : (r.map f).filter (fun b => !b == f x) = (r.filter fun a => !a == x).map f := by
        rw [List.filter_map]
        refine congrArg (List.map f) (List.filter_congr fun a _ => ?_)
        simp [hf.eq_iff]
      have hshort : (r.filter fun a => !a == x).length < n :=
        hn ▸ Nat.lt_succ_of_le (List.length_filter_le _ _)
      rw [List.map_cons, List.eraseDups_cons, List.eraseDups_cons, List.map_cons, hrest,
        ih _ hshort _ rfl]

namespace Discovery

open Json

variable {answer other : Value} {scheme : String} {s : Server}

/-! ## Nodes -/

/-- The field of a node that tells its address: the address published for HTTP counts only where
there is no field `http_address` at all. -/
def told? (node : Value) : Option Value :=
  match node.field? "http_address" with
  | some address => some address
  | none => node.at? ["http", "publish_address"]

/-- No other field of a node counts. -/
theorem nodeServer?_eq (node : Value) (scheme : String) :
    nodeServer? node scheme =
      ((told? node).bind Value.string?).bind (parseAddress? · scheme) := by
  unfold nodeServer? reportedAddress? told?
  cases node.field? "http_address" <;> rfl

/-- What the nodes of an answer tell. -/
def reports (answer : Value) : List (Option Value) := (nodes answer).map fun p => told? p.2

theorem servers_eq (answer : Value) (scheme : String) :
    servers answer scheme =
      ((nodes answer).filterMap fun p => nodeServer? p.2 scheme).eraseDups :=
  Server.distinct_eq_eraseDups _

theorem mem_servers :
    s ∈ servers answer scheme ↔ ∃ p ∈ nodes answer, nodeServer? p.2 scheme = some s := by
  rw [servers_eq, List.mem_eraseDups, List.mem_filterMap]

/-- Which servers there are is decided by what the nodes tell. -/
theorem servers_subset (h : ∀ r ∈ reports answer, r ∈ reports other)
    (hs : s ∈ servers answer scheme) : s ∈ servers other scheme := by
  obtain ⟨p, hp, hserver⟩ := mem_servers.1 hs
  obtain ⟨q, hq, htold⟩ := List.mem_map.1 (h _ (List.mem_map_of_mem hp))
  refine mem_servers.2 ⟨q, hq, ?_⟩
  rw [nodeServer?_eq] at hserver ⊢
  rw [htold, hserver]

/-- A node that is no server could as well not be there. -/
theorem servers_skip {before after : List (String × Value)} {p : String × Value}
    (h : nodes answer = before ++ p :: after) (hother : nodes other = before ++ after)
    (hp : nodeServer? p.2 scheme = none) : servers answer scheme = servers other scheme := by
  rw [servers_eq, servers_eq, h, hother, List.filterMap_append, List.filterMap_append,
    List.filterMap_cons, hp]

theorem nodes_of_fields {fields : List (String × Value)}
    (h : answer.field? "nodes" = some (.object fields)) : nodes answer = fields := by
  rw [nodes, h]

theorem nodes_of_other (h : ∀ fields, answer.field? "nodes" ≠ some (.object fields)) :
    nodes answer = [] := by
  unfold nodes
  split
  next fields hfields => exact absurd hfields (h fields)
  · rfl

/-- The ids of nodes are in the order of their bytes. -/
theorem nodes_ascending (h : answer.Ordered) :
    (nodes answer).Pairwise fun p q =>
      Text.Utf8.encode p.1.toList < Text.Utf8.encode q.1.toList := by
  unfold nodes
  split
  next fields hfields =>
    exact (Value.ascending_of_ordered (h.field? hfields)).imp fun hlt =>
      Text.Utf8.encode_lt (String.lt_iff_toList_lt.1 hlt)
  · exact List.Pairwise.nil

end Discovery

/-! ## Answers that a client gives -/

/-- What ends with an answer has it from a response, as the action reads it. -/
def Progress.Reads (interpret : Response → String → Outcome) : Progress → Prop
  | .waiting f => f.interpret = interpret
  | .ended outcome => ∀ a, outcome = .ok a → ∃ r url, interpret r url = .ok a

namespace Client

variable {interpret : Response → String → Outcome} {c : Client}

theorem reads_error (e : ClientError) : (Progress.ended (.error e)).Reads interpret :=
  fun _ h => by cases h

theorem reads_dispatch (e : Encoded) (attempts : UInt32) :
    (c.dispatch e interpret attempts).2.Reads interpret := by
  unfold dispatch
  split
  · exact reads_error _
  · rfl

theorem reads_start (a : Action) (o : Options) : (c.start a o).2.Reads a.interpret := by
  unfold start
  split
  · exact reads_error _
  · split
    · exact reads_error _
    · exact reads_dispatch _ _

theorem reads_resume {f : Flight} (reply : Reply) (h : (Progress.waiting f).Reads interpret) :
    (c.resume f reply).2.Reads interpret := by
  obtain rfl : f.interpret = interpret := h
  unfold resume
  split
  · exact fun a ha => ⟨_, _, ha⟩
  · dsimp only
    split
    · exact reads_dispatch _ _
    · exact reads_error _

theorem reads_drive {σ : Type} (send : Transport σ) {s : σ} {p : Progress}
    (h : p.Reads interpret) :
    ∀ a, (drive send s c p).1 = .ok a → ∃ r url, interpret r url = .ok a := by
  fun_induction drive send s c p with
  | case1 => exact h
  | case2 s c f reply next ih => exact ih (reads_resume _ h)

/-- An answer is what the action makes of a response. -/
theorem execute_reads {σ : Type} {send : Transport σ} {s : σ} {a : Action} {o : Options}
    {answer : Answer} (h : (c.execute send s a o).1 = .ok answer) :
    ∃ r url, a.interpret r url = .ok answer :=
  reads_drive send (reads_start a o) answer h

end Client

/-- The JSON of an answer has its fields in order. -/
theorem Answer.ordered_of_ofResponse {r : Response} {url : String} {a : Answer}
    (h : Answer.ofResponse r url = .ok a) : a.json.Ordered := by
  unfold ofResponse at h
  split at h
  · cases h
  next json hbody =>
    cases h
    unfold readBody at hbody
    split at hbody
    · cases hbody
      exact .null
    · exact Json.Value.ordered_of_parse hbody

/-- An answer to an action that reads responses in the usual way succeeded if its status says so. -/
theorem Answer.succeeded_of_ofResponse {r : Response} {url : String} {a : Answer}
    (h : Answer.ofResponse r url = .ok a) (hstatus : Discovery.HasGoodStatus a) :
    a.succeeded = true := by
  obtain ⟨hsame, hok⟩ := Answer.ofResponse_eq_ok h
  obtain ⟨hlow, hhigh⟩ := hstatus
  rw [hsame] at hlow hhigh
  rw [hok, Response.isSuccess, decide_eq_true hlow, decide_eq_true hhigh]
  rfl

namespace Command

open Text Url

/-! ## The table of nodes -/

theorem toList_pushn (s : String) (c : Char) (n : Nat) :
    (s.pushn c n).toList = s.toList ++ List.replicate n c := by
  rw [String.pushn_eq_repeat_push]
  induction n with
  | zero => simp [Nat.repeat]
  | succ n ih =>
    rw [Nat.repeat, String.toList_push, ih, List.append_assoc, List.replicate_succ']

/-- What stands at the end of a line, up to a blank, when blanks behind it are left out. -/
def lastWord (line : String) : String :=
  String.ofList ((line.toList.reverse.dropWhile (· == ' ')).takeWhile (· != ' ')).reverse

/-- The address in a row, which has no blank in it. -/
theorem lastWord_nodeRow {address : String} (hne : address ≠ "") (h : ' ' ∉ address.toList)
    (id name : String) : lastWord (nodeRow id name address) = address := by
  let front := (padded 24 id).toList ++ ' ' :: (padded 24 name).toList
  have hparts : nodeRow id name address =
      padded 24 id ++ " " ++ padded 24 name ++ " " ++ padded 32 address := rfl
  have hrow : (nodeRow id name address).toList =
      front ++ ' ' :: (address.toList ++ List.replicate (32 - address.length) ' ') := by
    rw [hparts]
    simp [front, padded, toList_pushn]
  have hblanks : ∀ c ∈ List.replicate (32 - address.length) ' ', (c == ' ') = true := fun c hc =>
    beq_iff_eq.2 (List.eq_of_mem_replicate hc)
  have hword : ∀ c ∈ address.toList.reverse, (c != ' ') = true := fun c hc =>
    bne_iff_ne.2 fun heq => h (heq ▸ List.mem_reverse.1 hc)
  have hstop : (address.toList.reverse ++ ' ' :: front.reverse).dropWhile (· == ' ') =
      address.toList.reverse ++ ' ' :: front.reverse := by
    obtain ⟨c, r, hc⟩ := List.exists_cons_of_ne_nil
      (mt List.reverse_eq_nil_iff.1 (mt String.toList_eq_nil_iff.1 hne))
    have hfirst := bne_iff_ne.1 (hword c (hc ▸ List.mem_cons_self))
    rw [hc, List.cons_append, List.dropWhile_cons_of_neg (by simpa using hfirst)]
  have hreverse : (nodeRow id name address).toList.reverse =
      List.replicate (32 - address.length) ' ' ++
        (address.toList.reverse ++ ' ' :: front.reverse) := by
    rw [hrow]
    simp
  rw [lastWord, hreverse, List.dropWhile_append_of_pos hblanks, hstop,
    List.takeWhile_append_of_pos hword]
  simp

/-- An address has no blank in it, and is no dash. -/
theorem base_of_nodeServer? {node : Json.Value} {scheme : String} {s : Server}
    (h : Discovery.nodeServer? node scheme = some s) :
    s.base ≠ "" ∧ ' ' ∉ s.base.toList ∧ s.base ≠ "-" := by
  obtain ⟨raw, -, hraw⟩ := Option.bind_eq_some_iff.1 h
  obtain ⟨p, -, hparse⟩ := Discovery.parseAddress?_eq_some_iff.1 hraw
  obtain ⟨u, host, segments, -, hsite, rfl⟩ := Server.exists_site hparse
  have hlong : 1 < (Server.ofUrl u).base.toList.length := by
    rw [hsite.base_eq]
    simp
    omega
  refine ⟨?_, fun hblank => ?_, ?_⟩
  · intro heq
    rw [heq] at hlong
    exact absurd hlong (by decide)
  · exact absurd (hsite.isVisible_base ' ' hblank) (by decide)
  · intro heq
    rw [heq] at hlong
    exact absurd hlong (by decide)

theorem lastWord_row (scheme id name : String) (node : Json.Value) :
    lastWord (nodeRow id name (nodeAddress scheme node)) = nodeAddress scheme node := by
  unfold nodeAddress
  cases h : Discovery.nodeServer? node scheme with
  | none => exact lastWord_nodeRow (by decide) (by decide) id name
  | some s =>
    obtain ⟨hne, hblank, -⟩ := base_of_nodeServer? h
    exact lastWord_nodeRow hne hblank id name

/-- The addresses in a table of nodes, which has four lines above its rows. A dash is none. -/
def tableAddresses (lines : List String) : List String :=
  (((lines.drop 4).map lastWord).filter (· ≠ "-")).eraseDups

theorem tableAddresses_nodesLines (scheme : String) (a : Answer) :
    tableAddresses (nodesLines scheme a) =
      (Discovery.servers a.json scheme).map Server.base := by
  have hinjective : Function.Injective Server.base := fun s t h => by
    cases s
    cases t
    exact congrArg Server.mk h
  have hrows : ((nodesLines scheme a).drop 4).map lastWord =
      (Discovery.nodes a.json).map fun p => nodeAddress scheme p.2 := by
    show ((Discovery.nodes a.json).map fun p =>
      nodeRow p.1 (nodeName p.2) (nodeAddress scheme p.2)).map lastWord = _
    rw [List.map_map]
    exact List.map_congr_left fun p _ => lastWord_row scheme p.1 (nodeName p.2) p.2
  have haddresses : ((Discovery.nodes a.json).map fun p => nodeAddress scheme p.2).filter
        (· ≠ "-") =
      ((Discovery.nodes a.json).filterMap fun p =>
        Discovery.nodeServer? p.2 scheme).map Server.base := by
    induction Discovery.nodes a.json with
    | nil => rfl
    | cons p r ih =>
      rw [List.map_cons]
      cases h : Discovery.nodeServer? p.2 scheme with
      | none =>
        have hdash : nodeAddress scheme p.2 = "-" := by rw [nodeAddress, h]; rfl
        rw [hdash, List.filter_cons_of_neg (by decide), ih, List.filterMap_cons, h]
      | some s =>
        have hbase : nodeAddress scheme p.2 = s.base := by rw [nodeAddress, h]; rfl
        have hkept : decide (s.base ≠ "-") = true := decide_eq_true (base_of_nodeServer? h).2.2
        rw [hbase, List.filter_cons, hkept, if_pos rfl, ih, List.filterMap_cons, h, List.map_cons]
  rw [tableAddresses, hrows, haddresses, eraseDups_map hinjective, Discovery.servers_eq]

/-- What `nodes` asks for. -/
def nodesAction (filter : String) : Action :=
  (({} : NodesInfo).addNode filter).withHttp.action

/-- The table that `nodes` prints holds the servers of the answer. -/
theorem addresses_of_nodes {c : Config} {system : System} (h : built c = .ok system)
    (filter : String) :
    ∃ p, (Task.nodes filter).plan c = .ok p ∧
      ∀ (σ : Type) (w : Circumstances) (send : Transport σ) (s : σ) (a : Answer),
        (system.client.execute send s (nodesAction filter) {}).1 = .ok a →
        Discovery.HasGoodStatus a →
          (p.run w send s).1.trouble = none ∧ a.json.Ordered ∧
          tableAddresses (p.run w send s).1.lines =
            (Discovery.servers a.json c.discovery.defaultScheme).map Server.base := by
  let print := present (nodesLines c.discovery.defaultScheme)
  refine ⟨.ask system (nodesAction filter) fun _ => print, ?_,
    fun σ w send s a hanswer hstatus => ?_⟩
  · rw [Task.plan, h]
    rfl
  · obtain ⟨r, url, hread⟩ := Client.execute_reads hanswer
    have hok := Answer.succeeded_of_ofResponse hread hstatus
    have hrun : ((Plan.ask system (nodesAction filter) fun _ => print).run w send s).1 =
        { lines := nodesLines c.discovery.defaultScheme a } := by
      show print (system.client.execute send s (nodesAction filter) {}).1 = _
      rw [hanswer]
      simp only [print, present, refusal?, if_pos hok]
    rw [hrun]
    exact ⟨rfl, Answer.ordered_of_ofResponse hread, tableAddresses_nodesLines _ a⟩

end Command

namespace Discovery

open Json Command

/-- The servers of an answer, and what decides which they are: the order of the ids, not the ids
themselves (`ordered`, `told`), and of a node only the field that tells its address (`told`). -/
structure Extracted (answer : Value) (scheme : String) (found : List Server) : Prop where
  absent : (∀ fields, answer.field? "nodes" ≠ some (.object fields)) → found = []
  listed : ∀ fields, answer.field? "nodes" = some (.object fields) →
    found = (fields.filterMap fun p => nodeServer? p.2 scheme).eraseDups
  ordered : answer.Ordered → ∀ fields, answer.field? "nodes" = some (.object fields) →
    fields.Pairwise fun p q => Text.Utf8.encode p.1.toList < Text.Utf8.encode q.1.toList
  nodup : found.Nodup
  mem_iff : ∀ s, s ∈ found ↔ ∃ p ∈ nodes answer, nodeServer? p.2 scheme = some s
  skipped : ∀ before p after other, nodes answer = before ++ p :: after →
    nodeServer? p.2 scheme = none → nodes other = before ++ after → found = servers other scheme
  told : ∀ other, (∀ r, r ∈ reports answer ↔ r ∈ reports other) →
    ∀ s, s ∈ found ↔ s ∈ servers other scheme

theorem extracted_servers (answer : Value) (scheme : String) :
    Extracted answer scheme (servers answer scheme) where
  absent h := by
    rw [servers_eq, nodes_of_other h]
    rfl
  listed fields h := by rw [servers_eq, nodes_of_fields h]
  ordered hordered fields h := nodes_of_fields h ▸ nodes_ascending hordered
  nodup := Server.distinct_nodup _
  mem_iff _ := mem_servers
  skipped _ _ _ _ h hp hother := servers_skip h hother hp
  told _ h _ := ⟨servers_subset fun r => (h r).1, servers_subset fun r => (h r).2⟩

/-- **The servers of an answer.** They are those of its nodes, in the byte order of the ids and
each where it comes first; of a node only the field that tells its address counts. And the
addresses in the table that `nodes` prints of an answer are the servers of that answer. -/
theorem servers_extracted :
    (∀ answer scheme, Extracted answer scheme (servers answer scheme)) ∧
    (∀ text answer, Value.parse text = .ok answer → answer.Ordered) ∧
    (∀ node scheme, nodeServer? node scheme =
      ((told? node).bind Value.string?).bind (parseAddress? · scheme)) ∧
    ∀ (c : Config) (system : System), built c = .ok system → ∀ filter,
      ∃ p, (Task.nodes filter).plan c = .ok p ∧
        ∀ (σ : Type) (w : Circumstances) (send : Transport σ) (s : σ) (a : Answer),
          (system.client.execute send s (nodesAction filter) {}).1 = .ok a →
          HasGoodStatus a →
            (p.run w send s).1.trouble = none ∧ a.json.Ordered ∧
            tableAddresses (p.run w send s).1.lines =
              (servers a.json c.discovery.defaultScheme).map Server.base :=
  ⟨extracted_servers, fun _ _ => Value.ordered_of_parse, nodeServer?_eq,
    fun _ _ h filter => addresses_of_nodes h filter⟩

/-- The answer of two nodes, of which one has nothing in the field that counts. -/
def twoNodes : Response where
  body := Text.Utf8.encode
    ("\x7b\"nodes\":\x7b\"b\":\x7b\"http_address\":\"es1/10.0.0.1:92\"\x7d," ++
    "\"a\":\x7b\"http_address\":null," ++
    "\"http\":\x7b\"publish_address\":\"es2:92\"\x7d\x7d\x7d\x7d").toList

/-- What is printed of it. -/
theorem servers_extracted_null :
    ∃ system, built (.withServers ["[::1]"]) = .ok system ∧
      ∃ p, (Task.nodes "_all").plan (.withServers ["[::1]"]) = .ok p ∧
        ∀ w, tableAddresses (p.run w (fun () _ => (.ok twoNodes, ())) ()).1.lines =
          ["http://10.0.0.1:92"] := by
  let send : Transport Unit := fun () _ => (.ok twoNodes, ())
  obtain ⟨system, hsystem⟩ : ∃ system, built (.withServers ["[::1]"]) = .ok system := ⟨_, rfl⟩
  have hanswer : ((built (.withServers ["[::1]"])).toOption.bind fun system =>
      (system.client.execute send () (nodesAction "_all") {}).1.toOption).map
        (fun a => (a.status, (servers a.json "http://").map Server.base)) =
      some (200, ["http://10.0.0.1:92"]) := by
    decide +kernel
  obtain ⟨p, hplan, hrun⟩ := servers_extracted.2.2.2 _ system hsystem "_all"
  refine ⟨system, hsystem, p, hplan, fun w => ?_⟩
  rw [hsystem] at hanswer
  cases hend : (system.client.execute send () (nodesAction "_all") {}).1 with
  | error e =>
    simp only [Except.toOption, Option.bind_some, hend] at hanswer
    cases hanswer
  | ok a =>
    simp only [Except.toOption, Option.bind_some, hend, Option.map_some, Option.some.injEq,
      Prod.mk.injEq] at hanswer
    obtain ⟨-, -, htable⟩ := hrun Unit w send () a hend ⟨by omega, by omega⟩
    exact htable.trans hanswer.2

end Discovery

end Failover
