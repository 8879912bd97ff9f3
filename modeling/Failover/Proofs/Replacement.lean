import Failover.Client.Build
import Failover.Proofs.Pool

/-!
# The members are replaced as a whole

A caller replaces the members by a list of addresses. The list is read to its end before the
pool is touched, so an address that is none has the same effect wherever it stands: the list is
refused with its error, and nothing has changed (`System.setServers_atomic`).

Reading stops at the first address that is none, and until then each address has given its
server (`mapM_eq_error_iff`); a list without one gives a server for each address
(`mapM_eq_ok_iff`). These two decide between them what a list comes to. The servers are then
brought to one copy of each, which the pool does in its turn; doing it twice is doing it once.
-/

namespace Failover

/-! ## Readings of every item -/

section

variable {α β ε : Type} {f : α → Except ε β} {xs : List α}

/-- The items are read one by one. -/
theorem mapM_eq_ok_iff {ys : List β} : xs.mapM f = .ok ys ↔ xs.map f = ys.map .ok := by
  induction xs generalizing ys with
  | nil => cases ys <;> simp [pure, Except.pure]
  | cons x r ih =>
    rw [List.mapM_cons, List.map_cons]
    cases ys with
    | nil => cases f x <;> cases r.mapM f <;> simp [bind, Except.bind, pure, Except.pure]
    | cons y ys =>
      rw [List.map_cons, List.cons.injEq, ← ih]
      cases f x <;> cases r.mapM f <;> simp [bind, Except.bind, pure, Except.pure]

/-- The first item that cannot be read is the fault of the whole. -/
theorem mapM_eq_error_iff {e : ε} :
    xs.mapM f = .error e ↔ ∃ before x after, xs = before ++ x :: after ∧
      (∀ b ∈ before, ∃ y, f b = .ok y) ∧ f x = .error e := by
  induction xs with
  | nil => simp [pure, Except.pure]
  | cons x r ih =>
    rw [List.mapM_cons]
    cases hx : f x with
    | error d =>
      constructor
      · intro h
        cases h
        exact ⟨[], x, r, rfl, fun b hb => absurd hb List.not_mem_nil, hx⟩
      · rintro ⟨before, a, after, hsplit, hbefore, ha⟩
        cases before with
        | nil =>
          obtain ⟨rfl, -⟩ := List.cons.inj hsplit
          exact congrArg Except.error (Except.error.inj (hx.symm.trans ha))
        | cons b before =>
          obtain ⟨rfl, -⟩ := List.cons.inj hsplit
          obtain ⟨y, hy⟩ := hbefore x List.mem_cons_self
          rw [hx] at hy
          cases hy
    | ok y =>
      have hrest : (Except.ok y >>= fun y => r.mapM f >>= fun ys => pure (y :: ys)) =
          (.error e : Except ε (List β)) ↔ r.mapM f = .error e := by
        cases r.mapM f <;> simp [bind, Except.bind, pure, Except.pure]
      rw [hrest, ih]
      constructor
      · rintro ⟨before, a, after, rfl, hbefore, ha⟩
        exact ⟨x :: before, a, after, rfl, List.forall_mem_cons.2 ⟨⟨y, hx⟩, hbefore⟩, ha⟩
      · rintro ⟨before, a, after, hsplit, hbefore, ha⟩
        cases before with
        | nil =>
          obtain ⟨rfl, -⟩ := List.cons.inj hsplit
          rw [hx] at ha
          cases ha
        | cons b before =>
          obtain ⟨rfl, rfl⟩ := List.cons.inj hsplit
          exact ⟨before, a, after, rfl, (List.forall_mem_cons.1 hbefore).2, ha⟩

end

/-! ## Lists of addresses -/

namespace Server

theorem parseAll_of_map {addresses : List String} {named : List Server}
    (h : addresses.map parse = named.map .ok) : parseAll addresses = .ok named.eraseDups := by
  rw [parseAll, mapM_eq_ok_iff.2 h, ← distinct_eq_eraseDups]
  rfl

theorem parseAll_of_error {addresses : List String} {e : ParseError}
    (h : addresses.mapM parse = .error e) : parseAll addresses = .error e := by
  rw [parseAll, h]
  rfl

end Server

namespace Pool

/-- What the pool does to servers of which each is there once. -/
theorem replace_eraseDups (p : Pool) (servers : List Server) :
    p.replace servers.eraseDups =
      { p with
        members := if servers = [] then p.bootstrap else servers.eraseDups
        cursor := 0 } := by
  split
  next h =>
    rw [h]
    rfl
  next h =>
    have hne : servers.eraseDups ≠ [] := by
      rw [← Server.distinct_eq_eraseDups]
      exact mt Server.distinct_eq_nil.1 h
    refine replace_of_nodup ?_ hne p
    rw [← Server.distinct_eq_eraseDups]
    exact Server.distinct_nodup servers

end Pool

/-! ## What a list comes to -/

/-- The members are these servers, each where it came first, or the bootstrap servers if there
are none; the turn begins with the first of them, and their number is written down. -/
structure Roster.Replaced (r r' : Roster) (servers : List Server) : Prop where
  bootstrap : r'.pool.bootstrap = r.pool.bootstrap
  members : r'.pool.members = if servers = [] then r.pool.bootstrap else servers.eraseDups
  cursor : r'.pool.cursor = 0
  ledger : r'.ledger = .poolSize r'.pool.members.length :: r.ledger

theorem Roster.replaced_replace (r : Roster) (servers : List Server) :
    r.Replaced (r.replace servers.eraseDups) servers := by
  have hpool : (r.replace servers.eraseDups).pool = r.pool.replace servers.eraseDups := rfl
  rw [Pool.replace_eraseDups] at hpool
  exact ⟨by rw [hpool], by rw [hpool], by rw [hpool], rfl⟩

namespace System

open Server (parse)

/-- **The members are replaced as a whole or not at all.** If every address of a list can be
read, the members are the servers of the list, each where it came first, or the bootstrap servers
if the list is empty, and the pool finds nothing left to leave out. If not, the caller is told
the error of the first address that cannot be read, wherever it stands, and the client is what
it was before. -/
theorem setServers_atomic (s : System) (addresses : List String) :
    (∀ named : List Server, addresses.map parse = named.map .ok →
      ∃ roster, s.client.roster.replaceAll addresses = .ok roster ∧
        s.step (.setServers addresses) = s.withRoster roster ∧
        s.client.roster.Replaced roster named ∧
        Server.parseAll addresses = .ok named.eraseDups ∧
        Server.distinct named.eraseDups = named.eraseDups) ∧
    (∀ before a after e, addresses = before ++ a :: after →
      (∀ b ∈ before, ∃ t, parse b = .ok t) → parse a = .error e →
        s.client.roster.replaceAll addresses = .error (.ofAddress e) ∧
        s.step (.setServers addresses) = s) ∧
    ((∃ named : List Server, addresses.map parse = named.map .ok) ∨
      ∃ before a after e, addresses = before ++ a :: after ∧
        (∀ b ∈ before, ∃ t, parse b = .ok t) ∧ parse a = .error e) := by
  refine ⟨fun named hnamed => ?_, fun before a after e haddresses hbefore ha => ?_, ?_⟩
  · have hparse := Server.parseAll_of_map hnamed
    have hroster : s.client.roster.replaceAll addresses =
        .ok (s.client.roster.replace named.eraseDups) := by
      rw [Roster.replaceAll, hparse]
    refine ⟨_, hroster, ?_, Roster.replaced_replace _ _, hparse, ?_⟩
    · simp only [step, hroster]
    · rw [← Server.distinct_eq_eraseDups, Server.distinct_distinct]
  · have hparse := Server.parseAll_of_error
      (mapM_eq_error_iff.2 ⟨before, a, after, haddresses, hbefore, ha⟩)
    have hroster : s.client.roster.replaceAll addresses = .error (.ofAddress e) := by
      rw [Roster.replaceAll, hparse]
    refine ⟨hroster, ?_⟩
    simp only [step, hroster]
  · cases h : addresses.mapM parse with
    | ok named => exact .inl ⟨named, mapM_eq_ok_iff.1 h⟩
    | error e =>
      obtain ⟨before, a, after, hsplit, hbefore, ha⟩ := mapM_eq_error_iff.1 h
      exact .inr ⟨before, a, after, e, hsplit, hbefore, ha⟩

/-- A list that names one server twice, and a list with an address in the middle that is none. -/
theorem setServers_atomic_middle :
    ∃ s, Client.build { config := .withServers ["[::1]", "[::2]"] } = .ok s ∧
      (∃ roster, s.step (.setServers ["HTTP://[::3]:80/", "[::4]", "http://[::3]"]) =
          s.withRoster roster ∧
        roster.pool.members = [⟨"http://[::3]"⟩, ⟨"http://[::4]"⟩]) ∧
      s.client.roster.replaceAll ["[::3]", "ftp://[::4]", "[::5]"] =
          .error (.ofAddress (.unsupported "ftp://[::4]" "ftp")) ∧
      s.step (.setServers ["[::3]", "ftp://[::4]", "[::5]"]) = s := by
  obtain ⟨s, hbuild⟩ :
      ∃ s, Client.build { config := .withServers ["[::1]", "[::2]"] } = .ok s := ⟨_, rfl⟩
  have hnamed : ["HTTP://[::3]:80/", "[::4]", "http://[::3]"].map parse =
      [⟨"http://[::3]"⟩, ⟨"http://[::4]"⟩, ⟨"http://[::3]"⟩].map .ok := rfl
  have hfirst : parse "[::3]" = .ok ⟨"http://[::3]"⟩ := rfl
  have hscheme : parse "ftp://[::4]" = .error (.unsupported "ftp://[::4]" "ftp") := rfl
  obtain ⟨roster, -, hstep, hreplaced, -⟩ := (setServers_atomic s _).1 _ hnamed
  obtain ⟨hrefused, hkept⟩ := (setServers_atomic s _).2.1 ["[::3]"] "ftp://[::4]" ["[::5]"] _ rfl
    (List.forall_mem_singleton.2 ⟨_, hfirst⟩) hscheme
  exact ⟨s, hbuild, ⟨roster, hstep, hreplaced.members⟩, hrefused, hkept⟩

end System

end Failover
