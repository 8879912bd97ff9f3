import Failover.Config.Json
import Failover.Proofs.JsonText
import Failover.Proofs.Replacement

/-!
# Configurations that are read with members missing

A configuration is written with all of its members. When some of them are deleted, from the whole
or from its two sections, and the rest is read, what is left is as it was written and what was
deleted is at its default (`Config.ofJson_restores`). It makes no difference whether a section is
missing or is there without a member.

That defaults are said twice is where this could fail: for a member that is missing (`unsaid`) and
for a section that is missing (the settings' own defaults). They agree (`unsaid_config` and the
two beside it), and everything else follows from how a record is read. Its fields are laid one
after the other over what members are when they are missing. If each brings its own member, then
after fields of some names the record has these members from the fields and the others from below
(`foldlM_pick`). So neither the order of the fields nor which of them are left matters, and one
lemma (`record_pick`) is enough for all three records.

What is left is in turn read from its text (`readable_apply`), in which the headers have to be in
the order of a dictionary for no name to come twice.
-/

namespace Failover

open Json

/-! ## Records in two parts -/

/-- The members that are named from the first settings, the others from the second. -/
def RetrySettings.pick (named : String → Bool) (s t : RetrySettings) : RetrySettings where
  maxAttempts := if named "max_attempts" then s.maxAttempts else t.maxAttempts
  recoverable := if named "recoverable" then s.recoverable else t.recoverable

/-- The members that are named from the first settings, the others from the second. -/
def DiscoverySettings.pick (named : String → Bool) (s t : DiscoverySettings) :
    DiscoverySettings where
  enabled := if named "enabled" then s.enabled else t.enabled
  filter := if named "filter" then s.filter else t.filter
  initialDelay := if named "initial_delay_ms" then s.initialDelay else t.initialDelay
  interval := if named "interval_ms" then s.interval else t.interval
  defaultScheme := if named "default_scheme" then s.defaultScheme else t.defaultScheme

namespace Config

/-- The members that are named from the first configuration, the others from the second. -/
def pick (named : String → Bool) (c d : Config) : Config where
  servers := if named "servers" then c.servers else d.servers
  connectTimeout := if named "connect_timeout_ms" then c.connectTimeout else d.connectTimeout
  readTimeout := if named "read_timeout_ms" then c.readTimeout else d.readTimeout
  requestCompression :=
    if named "request_compression" then c.requestCompression else d.requestCompression
  defaultHeaders := if named "default_headers" then c.defaultHeaders else d.defaultHeaders
  username := if named "username" then c.username else d.username
  password := if named "password" then c.password else d.password
  discovery := if named "discovery" then c.discovery else d.discovery
  retry := if named "retry" then c.retry else d.retry

/-! ## What is deleted -/

/-- The names of members that are deleted from a written configuration and from its sections. -/
structure Omission where
  config : String → Bool
  discovery : String → Bool
  retry : String → Bool

/-- An object without the fields of some names. -/
def without (deleted : String → Bool) : Value → Value
  | .object fields => .object (fields.filter fun p => !deleted p.1)
  | v => v

/-- An object with the field of a name changed. -/
def changed (name : String) (change : Value → Value) : Value → Value
  | .object fields => .object (fields.map fun p => if p.1 = name then (p.1, change p.2) else p)
  | v => v

/-- What is left of a written configuration. -/
def Omission.apply (o : Omission) (v : Value) : Value :=
  without o.config
    (changed "retry" (without o.retry) (changed "discovery" (without o.discovery) v))

/-- The configuration with each member of a section that was deleted at its default. -/
def Omission.within (o : Omission) (c : Config) : Config :=
  { c with
    discovery := c.discovery.pick (!o.discovery ·) {}
    retry := c.retry.pick (!o.retry ·) {} }

/-- The configuration with each member that was deleted at its default. -/
def Omission.restore (o : Omission) (c : Config) : Config :=
  pick (!o.config ·) (o.within c) {}

theorem apply_toJson (o : Omission) (c : Config) :
    o.apply c.toJson = without o.config
      (.object [("servers", .ofStrings c.servers),
        ("connect_timeout_ms", .ofNat c.connectTimeout.toNat),
        ("read_timeout_ms", .ofNat c.readTimeout.toNat),
        ("request_compression", .bool c.requestCompression),
        ("default_headers", .object (c.defaultHeaders.map fun (name, v) => (name, .string v))),
        ("username", optionalToJson c.username),
        ("password", optionalToJson c.password),
        ("discovery", without o.discovery (discoveryToJson c.discovery)),
        ("retry", without o.retry (retryToJson c.retry))]) :=
  rfl

/-! ## Reading what is left of a record -/

section

variable {α δ ε : Type}

/-- There is a field of this name. -/
def named (fields : List (String × δ)) (name : String) : Bool :=
  (fields.map Prod.fst).contains name

/-- Fields that each bring their own member bring all of theirs, in whatever order. -/
theorem foldlM_pick {set : α → String → δ → Except ε α} {pick : (String → Bool) → α}
    {fields : List (String × δ)}
    (hset : ∀ f ∈ fields, ∀ p, set (pick p) f.1 f.2 = .ok (pick fun m => m == f.1 || p m))
    (p : String → Bool) :
    fields.foldlM (fun value (name, d) => set value name d) (pick p) =
      .ok (pick fun m => named fields m || p m) := by
  induction fields generalizing p with
  | nil => rfl
  | cons f r ih =>
    obtain ⟨hfirst, hrest⟩ := List.forall_mem_cons.1 hset
    obtain ⟨name, d⟩ := f
    -- The induction is over all `p`: what has been laid already joins the names.
    have hnamed : (fun m => named ((name, d) :: r) m || p m) =
        fun m => named r m || (m == name || p m) := by
      funext m
      rw [named, List.map_cons, List.contains_cons, Bool.or_assoc, Bool.or_left_comm]
      rfl
    rw [List.foldlM_cons, hnamed, ← ih hrest]
    dsimp only
    rw [hfirst]
    rfl

/-- A record is read from what is left of it: its members are those that are left and, for the
others, what they are when they are missing. -/
theorem record_pick (pick : (String → Bool) → α) {title : String} {names : List String}
    {set : α → String → Value → Except Mismatch α} {fields : List (String × Value)}
    {deleted : String → Bool} {v : Value} (hnames : fields.map Prod.fst = names)
    (hset : ∀ f ∈ fields, ∀ w, f.2.Rearranged w → ∀ p,
      set (pick p) f.1 w = .ok (pick fun m => m == f.1 || p m))
    (hcongr : ∀ p q, (∀ n ∈ names, p n = q n) → pick p = pick q)
    (hv : Value.Rearranged (without deleted (.object fields)) v) :
    FromJson.reading.record title names (pick fun _ => false) set v = .ok (pick (!deleted ·)) := by
  obtain ⟨others, rfl⟩ := hv.exists_object
  -- Whatever order they stand in, the fields that are there are all those that were not deleted.
  have hread := foldlM_pick (fun f hf p => by
    obtain ⟨g, hg, hname, hvalue⟩ := hv.exists_field hf
    rw [← hname]
    exact hset g (List.mem_of_mem_filter hg) f.2 hvalue p) fun _ => false
  have hleft : pick (fun m => named others m || false) = pick (!deleted ·) := by
    refine hcongr _ _ fun n hn => ?_
    rw [Bool.or_false, Bool.eq_iff_iff, named, List.contains_iff_mem, hv.names.mem_iff]
    constructor
    · intro hmem
      obtain ⟨f, hf, rfl⟩ := List.mem_map.1 hmem
      exact (List.mem_filter.1 hf).2
    · intro hkept
      obtain ⟨f, hf, rfl⟩ := List.mem_map.1 (hnames ▸ hn)
      exact List.mem_map_of_mem (List.mem_filter.2 ⟨hf, hkept⟩)
  show (others.foldlM _ _ >>= fun value => Except.ok value) = _
  rw [hread, hleft]
  rfl

end

/-! ## Members -/

namespace FromJson

theorem natural_ofNat {bits n : Nat} (h : n < Nat.pow 2 bits) :
    natural bits (.ofNat n) = .ok n := by
  unfold natural Value.ofNat
  dsimp only
  rw [if_pos ⟨Int.natCast_nonneg n, by simpa using h⟩]
  rfl

theorem natural64_ofNat (n : UInt64) : reading.natural64 (.ofNat n.toNat) = .ok n := by
  show (natural 64 (.ofNat n.toNat)).map UInt64.ofNat = _
  rw [natural_ofNat n.toNat_lt]
  exact congrArg Except.ok (UInt64.ofNat_toNat)

theorem natural32_ofNat (n : UInt32) : reading.natural32 (.ofNat n.toNat) = .ok n := by
  show (natural 32 (.ofNat n.toNat)).map UInt32.ofNat = _
  rw [natural_ofNat n.toNat_lt]
  exact congrArg Except.ok (UInt32.ofNat_toNat)

theorem texts_ofStrings (ss : List String) : reading.texts (.ofStrings ss) = .ok ss := by
  show (ss.map Value.string).mapM text = .ok ss
  rw [mapM_eq_ok_iff, List.map_map]
  rfl

theorem kinds_ofStrings (kinds : List FailureKind) :
    ((kinds.map FailureKind.name).map Value.string).mapM kind = .ok kinds := by
  rw [mapM_eq_ok_iff, List.map_map, List.map_map]
  refine List.map_congr_left fun k _ => ?_
  show knownKind k.name = .ok k
  rw [knownKind, FailureKind.ofName?_name]

theorem optionalText_toJson (text : Option String) :
    reading.optionalText (optionalToJson text) = .ok text := by
  cases text <;> rfl

end FromJson

open FromJson

theorem eq_optionalToJson {text : Option String} {v : Value}
    (h : (optionalToJson text).Rearranged v) : v = optionalToJson text := by
  cases text with
  | none =>
    cases h
    rfl
  | some s => exact Value.Rearranged.eq_string h

/-- A dictionary of strings is read from its entries in whatever order. -/
theorem textDict_of_rearranged {d : Dict String} (h : d.Ascending) {v : Value}
    (hv : Value.Rearranged (.object (d.map fun (name, s) => (name, .string s))) v) :
    reading.textDict v = .ok d := by
  obtain ⟨others, rfl⟩ := hv.exists_object
  have hperm := hv.perm_strings
  let pairs := others.map fun p => (p.1, p.2.string?.getD "")
  have hpairs : pairs.Perm d := by
    have hmap := hperm.map fun p => (p.1, p.2.string?.getD "")
    rw [List.map_map] at hmap
    exact hmap.trans (.of_eq ((List.map_congr_left fun _ _ => rfl).trans (List.map_id d)))
  have hread : (others.mapM fun p => (text p.2).map (p.1, ·)) = .ok pairs := by
    rw [mapM_eq_ok_iff, List.map_map]
    refine List.map_congr_left fun p hp => ?_
    obtain ⟨q, -, rfl⟩ := List.mem_map.1 (hperm.subset hp)
    rfl
  show ((others.mapM fun p => (text p.2).map (p.1, ·)) >>= fun pairs =>
    Except.ok (Dict.ofList pairs)) = .ok d
  rw [hread]
  exact congrArg Except.ok (Dict.ofList_of_perm h hpairs)

/-! ## The two sets of defaults -/

/-- What members are when they are missing is what they are in a section that is missing. -/
theorem unsaid_retry : RetrySettings.unsaid = {} := rfl

theorem unsaid_discovery : DiscoverySettings.unsaid = {} := rfl

theorem unsaid_config : Config.unsaid = {} := rfl

/-! ## Records that are read with members missing -/

theorem retrySettings_of_rearranged (s : RetrySettings) (deleted : String → Bool) {v : Value}
    (hv : Value.Rearranged (without deleted (retryToJson s)) v) :
    reading.retrySettings v = .ok (s.pick (!deleted ·) {}) := by
  rw [← unsaid_retry]
  refine record_pick (fun p => s.pick p .unsaid) rfl (fun f hf w hw p => ?_)
    (fun p q h => ?_) hv
  · simp only [List.mem_cons, List.not_mem_nil, or_false] at hf
    rcases hf with rfl | rfl
    · rw [hw.eq_ofNat]
      show (reading.natural32 _).map _ = _
      rw [natural32_ofNat]
      simp [RetrySettings.pick, Except.map]
    · rw [hw.eq_ofStrings]
      show (((s.recoverable.map FailureKind.name).map Value.string).mapM kind >>= fun recoverable =>
        Except.ok { s.pick p .unsaid with recoverable }) = _
      rw [kinds_ofStrings]
      simp [RetrySettings.pick, bind, Except.bind]
  · simp only [List.forall_mem_cons] at h
    simp [RetrySettings.pick, h]

theorem discoverySettings_of_rearranged (s : DiscoverySettings) (deleted : String → Bool)
    {v : Value} (hv : Value.Rearranged (without deleted (discoveryToJson s)) v) :
    reading.discoverySettings v = .ok (s.pick (!deleted ·) {}) := by
  rw [← unsaid_discovery]
  refine record_pick (fun p => s.pick p .unsaid) rfl (fun f hf w hw p => ?_)
    (fun p q h => ?_) hv
  · simp only [List.mem_cons, List.not_mem_nil, or_false] at hf
    rcases hf with rfl | rfl | rfl | rfl | rfl
    · rw [hw.eq_bool]
      simp [Reading.setDiscovery, reading, boolean, DiscoverySettings.pick, Except.map]
    · rw [hw.eq_string]
      simp [Reading.setDiscovery, reading, text, DiscoverySettings.pick, Except.map]
    · rw [hw.eq_ofNat]
      simp [Reading.setDiscovery, natural64_ofNat, DiscoverySettings.pick, Except.map]
    · rw [hw.eq_ofNat]
      simp [Reading.setDiscovery, natural64_ofNat, DiscoverySettings.pick, Except.map]
    · rw [hw.eq_string]
      simp [Reading.setDiscovery, reading, text, DiscoverySettings.pick, Except.map]
  · simp only [List.forall_mem_cons] at h
    simp [DiscoverySettings.pick, h]

/-- A configuration is read from what is left of it. -/
theorem config_of_rearranged (o : Omission) {c : Config} (h : c.defaultHeaders.Ascending)
    {v : Value} (hv : (o.apply c.toJson).Rearranged v) :
    reading.config v = .ok (o.restore c) := by
  unfold Omission.restore
  rw [← unsaid_config]
  rw [apply_toJson] at hv
  -- Where a section is left, its own defaults have been laid under it; where it was deleted, the
  -- section's default is what `unsaid` says.
  refine record_pick (fun p => (o.within c).pick p .unsaid) rfl (fun f hf w hw p => ?_)
    (fun p q h => ?_) hv
  · simp only [List.mem_cons, List.not_mem_nil, or_false] at hf
    rcases hf with rfl | rfl | rfl | rfl | rfl | rfl | rfl | rfl | rfl
    · rw [hw.eq_ofStrings]
      simp [Reading.setConfig, texts_ofStrings, pick, Except.map, Omission.within]
    · rw [hw.eq_ofNat]
      simp [Reading.setConfig, natural64_ofNat, pick, Except.map, Omission.within]
    · rw [hw.eq_ofNat]
      simp [Reading.setConfig, natural64_ofNat, pick, Except.map, Omission.within]
    · rw [hw.eq_bool]
      simp [Reading.setConfig, reading, boolean, pick, Except.map, Omission.within]
    · simp [Reading.setConfig, textDict_of_rearranged h hw, pick, Except.map, Omission.within]
    · rw [eq_optionalToJson hw]
      simp [Reading.setConfig, optionalText_toJson, pick, Except.map, Omission.within]
    · rw [eq_optionalToJson hw]
      simp [Reading.setConfig, optionalText_toJson, pick, Except.map, Omission.within]
    · simp [Reading.setConfig, discoverySettings_of_rearranged _ _ hw, pick, Except.map,
        Omission.within]
    · simp [Reading.setConfig, retrySettings_of_rearranged _ _ hw, pick, Except.map,
        Omission.within]
  · simp only [Reading.configNames, List.forall_mem_cons] at h
    simp [pick, h]

/-! ## What is left is read from its text -/

section

variable {depth : Nat} {c : Config}

open Value

theorem readable_ofNat {n : Nat} (h : n ≤ maxInteger) : Readable depth (.ofNat n) :=
  .int (Int.le_trans (by decide) (Int.natCast_nonneg n)) h

theorem readable_ofNat64 (n : UInt64) : Readable depth (.ofNat n.toNat) :=
  readable_ofNat (Nat.le_pred_of_lt n.toNat_lt)

theorem readable_ofNat32 (n : UInt32) : Readable depth (.ofNat n.toNat) :=
  readable_ofNat (Nat.le_trans (Nat.le_of_lt n.toNat_lt) (by decide))

theorem readable_ofStrings (ss : List String) : Readable (depth + 1) (.ofStrings ss) :=
  .array (List.forall_mem_map.2 fun s _ => .string s)

theorem readable_optionalToJson (text : Option String) : Readable depth (optionalToJson text) := by
  cases text with
  | none => exact .null
  | some s => exact .string s

theorem readable_headers (h : c.defaultHeaders.Ascending) :
    Readable (depth + 1) (.object (c.defaultHeaders.map fun (name, v) => (name, .string v))) := by
  refine .object ?_ (List.forall_mem_map.2 fun p _ => .string p.2)
  rw [List.map_map]
  exact h.nodup

/-- What is left of an object that can be read can be read. -/
theorem readable_without {deleted : String → Bool} {v : Value} (h : Readable depth v) :
    Readable depth (without deleted v) := by
  cases h with
  | object hnames h =>
    exact .object (hnames.sublist (List.filter_sublist.map Prod.fst))
      fun p hp => h p (List.mem_of_mem_filter hp)
  | null => exact .null
  | bool b => exact .bool b
  | int hlo hhi => exact .int hlo hhi
  | string s => exact .string s
  | array h => exact .array h

theorem readable_discovery (s : DiscoverySettings) : Readable (depth + 1) (discoveryToJson s) := by
  refine .object (by simp only [List.map_cons, List.map_nil]; decide) ?_
  simp only [List.forall_mem_cons, List.not_mem_nil, false_imp_iff, implies_true, and_true]
  exact ⟨.bool _, .string _, readable_ofNat64 _, readable_ofNat64 _, .string _⟩

theorem readable_retry (s : RetrySettings) : Readable (depth + 2) (retryToJson s) := by
  refine .object (by simp only [List.map_cons, List.map_nil]; decide) ?_
  simp only [List.forall_mem_cons, List.not_mem_nil, false_imp_iff, implies_true, and_true]
  exact ⟨readable_ofNat32 _, readable_ofStrings _⟩

theorem readable_apply (o : Omission) (h : c.defaultHeaders.Ascending) :
    Readable (depth + 3) (o.apply c.toJson) := by
  rw [apply_toJson]
  refine readable_without (.object (by simp only [List.map_cons, List.map_nil]; decide) ?_)
  simp only [List.forall_mem_cons, List.not_mem_nil, false_imp_iff, implies_true, and_true]
  exact ⟨readable_ofStrings _, readable_ofNat64 _, readable_ofNat64 _, .bool _, readable_headers h,
    readable_optionalToJson _, readable_optionalToJson _, readable_without (readable_discovery _),
    readable_without (readable_retry _)⟩

end

/-! ## Reading back -/

/-- The value is read as the configuration, whatever order its fields stand in, and so is its
text. -/
structure ReadsAs (v : Value) (c : Config) : Prop where
  value : ofJson v = .ok c
  rearranged : ∀ w, v.Rearranged w → ofJson w = .ok c
  text : ∃ w, Value.parse v.compact = .ok w ∧ ofJson w = .ok c

section

variable {c : Config} {o : Omission}

/-- Nothing is deleted. -/
def Omission.nothing : Omission := ⟨fun _ => false, fun _ => false, fun _ => false⟩

theorem apply_nothing (c : Config) : Omission.nothing.apply c.toJson = c.toJson := rfl

theorem restore_nothing (c : Config) : Omission.nothing.restore c = c := rfl

theorem readsAs_restore (o : Omission) (h : c.defaultHeaders.Ascending) :
    ReadsAs (o.apply c.toJson) (o.restore c) := by
  have hread : ∀ w, (o.apply c.toJson).Rearranged w → ofJson w = .ok (o.restore c) :=
    fun w hw => by rw [ofJson, config_of_rearranged o h hw]; rfl
  obtain ⟨w, hparse, hw⟩ := Value.exists_parse (readable_apply o h)
  exact ⟨hread _ (Value.rearranged_self _), hread, w, hparse, hread w hw⟩

/-- A section without members is as good as none. -/
theorem restore_discovery (h : o.config "discovery" = true ∨
    without o.discovery (discoveryToJson c.discovery) = .object []) :
    (o.restore c).discovery = {} := by
  rcases h with hmissing | hempty
  · simp [Omission.restore, pick, hmissing]
  · have hdeleted := List.filter_eq_nil_iff.1 (Value.object.inj hempty)
    simp only [List.forall_mem_cons, Bool.not_eq_true, Bool.not_eq_false'] at hdeleted
    simp [Omission.restore, Omission.within, pick, DiscoverySettings.pick, hdeleted]

theorem restore_retry (h : o.config "retry" = true ∨
    without o.retry (retryToJson c.retry) = .object []) : (o.restore c).retry = {} := by
  rcases h with hmissing | hempty
  · simp [Omission.restore, pick, hmissing]
  · have hdeleted := List.filter_eq_nil_iff.1 (Value.object.inj hempty)
    simp only [List.forall_mem_cons, Bool.not_eq_true, Bool.not_eq_false'] at hdeleted
    simp [Omission.restore, Omission.within, pick, RetrySettings.pick, hdeleted]

/-- **Configurations are read back, and what is missing is at its default.** The headers are a
dictionary. -/
theorem ofJson_restores (h : c.defaultHeaders.Ascending) :
    ReadsAs c.toJson c ∧
      ∀ o : Omission,
        ReadsAs (o.apply c.toJson) (o.restore c) ∧
          ((o.config "discovery" = true ∨
            without o.discovery (discoveryToJson c.discovery) = .object []) →
            (o.restore c).discovery = {}) ∧
          ((o.config "retry" = true ∨ without o.retry (retryToJson c.retry) = .object []) →
            (o.restore c).retry = {}) := by
  refine ⟨?_, fun o => ⟨readsAs_restore o h, restore_discovery, restore_retry⟩⟩
  have hwhole := readsAs_restore .nothing h
  rwa [apply_nothing, restore_nothing] at hwhole

theorem ofJson_restores_mixed :
    let c : Config :=
      { servers := ["http://a:9200"], connectTimeout := 1, readTimeout := 2,
        defaultHeaders := .ofList [("x-b", "2"), ("x-a", "1")], username := some "u",
        discovery := { enabled := true, interval := 5 }, retry := { maxAttempts := 4 } }
    let o : Omission := ⟨(· == "read_timeout_ms"), (· == "interval_ms"), fun _ => true⟩
    ReadsAs (o.apply c.toJson)
      { c with
        readTimeout := 3000
        discovery := { enabled := true, interval := 10000 }
        retry := {} } := by
  exact ((ofJson_restores (Dict.ascending_ofList _)).2 _).1

end

end Config

end Failover
