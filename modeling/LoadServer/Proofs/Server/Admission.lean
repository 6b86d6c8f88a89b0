import LoadServer.Proofs.Server.Steps

/-!
Permits of a server with a limit. Main statement: each of them is free, with the accept loop, or
with a live handler, whatever has been accepted, has failed or has ended before.
-/

namespace LoadServer

namespace Permits

/-- A permit is handed out as long as some are free and handing out goes on. -/
theorem acquire_eq_granted_iff {permits left : Permits} :
    permits.acquire = .granted left ↔
      permits.closed = false ∧ 0 < permits.free ∧
        { permits with free := permits.free - 1 } = left := by
  -- Handing out is checked before the number of free permits.
  unfold acquire
  cases permits.closed with
  | true => simp
  | false =>
    rcases Nat.eq_zero_or_pos permits.free with none | some
    · simp [none]
    · simp [some, Nat.ne_of_gt some]

/-- A permit is refused only once handing out has ended. -/
theorem acquire_eq_refused_iff {permits : Permits} :
    permits.acquire = .refused ↔ permits.closed = true := by
  -- Without free permits the answer is to wait, never a refusal.
  unfold acquire
  cases permits.closed with
  | true => simp
  | false => by_cases none : permits.free = 0 <;> simp [none]

end Permits

/-- Passing time leaves a handler as live as it was. -/
@[simp] theorem Phase.isLive_after (millis : Nat) (phase : Phase) :
    (phase.after millis).isLive = phase.isLive := by
  -- Time passes within a phase, and no phase begins or ends by it.
  cases phase <;> rfl

namespace State

variable {state next : State} {peer : Endpoint} {connection : Connection} {limit : Nat}

/-- Changing the connection of a client changes nothing where there is none. -/
theorem map_eq_of_fresh {connections : List Connection}
    (fresh : peer ∉ connections.map Connection.peer) (change : Connection → Connection) :
    (connections.map fun other => if other.peer == peer then change other else other) =
      connections := by
  -- No connection is the one that would be changed.
  refine (List.map_congr_left fun other within => if_neg ?_).trans (List.map_id connections)
  intro same
  exact fresh (List.mem_map.mpr ⟨other, within, by simpa using same⟩)

section Totals

variable {Share : Type*} [AddCommMonoid Share]

/-- Changing one of several connections changes a total over all of them by its own share alone. -/
theorem sum_map_of_mem {connections : List Connection}
    (distinct : (connections.map Connection.peer).Nodup) (member : connection ∈ connections)
    (share : Connection → Share) (change : Connection → Connection) :
    ((connections.map fun other =>
        if other.peer == connection.peer then change other else other).map share).sum +
      share connection =
    (connections.map share).sum + share (change connection) := by
  -- Its peer tells the connection apart from all others, whose shares are what they were.
  induction connections with
  | nil => simp at member
  | cons head rest ih =>
    obtain ⟨fresh, distinct⟩ := List.nodup_cons.mp distinct
    rcases List.mem_cons.mp member with rfl | inside
    · simp only [List.map_cons, beq_self_eq_true, if_true, map_eq_of_fresh fresh, List.sum_cons]
      abel
    · have differs : head.peer ≠ connection.peer := by
        intro same
        exact fresh (List.mem_map.mpr ⟨connection, inside, same.symm⟩)
      have tail := ih distinct inside
      simp only [List.map_cons, beq_iff_eq, differs, if_false, List.sum_cons] at tail ⊢
      rw [add_assoc, tail, add_assoc]

/-- A total over all connections changes by the share of the one connection that changes. -/
theorem sum_update (distinct : state.HasDistinctPeers)
    (found : state.connection? peer = some connection) (share : Connection → Share)
    (change : Connection → Connection) :
    ((state.update peer change).connections.map share).sum + share connection =
      (state.connections.map share).sum + share (change connection) := by
  -- The connection of a client occurs once among all of them.
  obtain rfl := peer_of_connection? found
  exact sum_map_of_mem distinct (List.mem_of_find?_eq_some found) share change

end Totals

/-- Every live handler counts for one. -/
theorem live_eq_sum (state : State) :
    state.live = (state.connections.map fun other => if other.phase.isLive then 1 else 0).sum := by
  -- Each connection counts for one or for nothing, which makes the count a sum.
  unfold live
  induction state.connections with
  | nil => rfl
  | cons head rest ih =>
    rw [List.countP_cons, List.map_cons, List.sum_cons, ih, Nat.add_comm]

/-- Changing one connection changes the number of live handlers by its own handler alone. -/
theorem live_update (distinct : state.HasDistinctPeers)
    (found : state.connection? peer = some connection) (change : Connection → Connection) :
    (state.update peer change).live + (if connection.phase.isLive then 1 else 0) =
      state.live + if (change connection).phase.isLive then 1 else 0 := by
  -- Only the connection found is changed, and the others keep their part of the sum.
  rw [live_eq_sum, live_eq_sum]
  exact sum_update distinct found (fun other => if other.phase.isLive then 1 else 0) change

/-- The permits that the accept loop holds. -/
def held (state : State) : Nat :=
  if state.admitting then 1 else 0

/-- Each permit is free, with the accept loop or with a live handler, and permits are handed out
for ever. -/
structure Conserves (limit : Nat) (state : State) : Prop where
  serving : state.stopped = false
  account : ∃ permits, state.permits = some permits ∧ permits.closed = false ∧
    permits.free + state.held + state.live = limit

namespace Conserves

/-- Where no permit changes hands, permits are conserved. -/
theorem of_live_eq (conserves : Conserves limit state) (stopped : next.stopped = state.stopped)
    (permits : next.permits = state.permits) (admitting : next.admitting = state.admitting)
    (live : next.live = state.live) : Conserves limit next where
  -- A step that moves no permit and no live handler keeps every part of the account.
  serving := stopped.trans conserves.serving
  account := by
    obtain ⟨before, some, isOpen, account⟩ := conserves.account
    exact ⟨before, permits.trans some, isOpen, by rw [held, admitting, live]; exact account⟩

/-- Changing a connection without touching its handler conserves permits. -/
theorem update (conserves : Conserves limit state) (distinct : state.HasDistinctPeers)
    (found : state.connection? peer = some connection) {change : Connection → Connection}
    (same : (change connection).phase.isLive = connection.phase.isLive) :
    Conserves limit (state.update peer change) := by
  -- As many handlers are live as before.
  have live := live_update distinct found change
  rw [same] at live
  exact conserves.of_live_eq rfl rfl rfl (Nat.add_right_cancel live)

/-- A handler that ends gives the one permit back that it had. -/
theorem conclude (conserves : Conserves limit state) (distinct : state.HasDistinctPeers)
    (found : state.connection? peer = some connection) (isLive : connection.phase.isLive = true)
    (handling : Handling) : Conserves limit (state.conclude peer handling) := by
  -- One handler less is live, and one permit more is free.
  obtain ⟨permits, some, isOpen, account⟩ := conserves.account
  have live := live_update distinct found fun found => { found with phase := .finished handling }
  rw [if_pos isLive, if_neg (by simp [Phase.isLive]), Nat.add_zero] at live
  have ended : (state.conclude peer handling).live =
      (state.update peer fun found => { found with phase := .finished handling }).live := by
    rw [State.live, connections_conclude, State.live]
  refine ⟨(stopped_conclude ..).trans conserves.serving, permits.release, ?_, isOpen, ?_⟩
  · rw [permits_conclude, some]
    rfl
  · rw [held, admitting_conclude, ended]
    simp only [held, Permits.release] at account ⊢
    omega

/-- No step loses a permit or makes one up. -/
theorem step? {event : Event} (conserves : Conserves limit state)
    (distinct : state.HasDistinctPeers) (stepped : state.step? event = some next) :
    Conserves limit next := by
  obtain ⟨permits, some, isOpen, account⟩ := conserves.account
  cases event with
  | acquire =>
    -- A free permit goes to the accept loop, which had none.
    obtain ⟨idle, -, ⟨none, -⟩ | ⟨asked, same, ⟨left, granted, rfl⟩ | ⟨refused, -⟩⟩⟩ :=
      acquire?_eq_some_iff.mp stepped
    · rw [some] at none
      cases none
    · obtain rfl : permits = asked := Option.some.inj (some.symm.trans same)
      obtain ⟨-, free, rfl⟩ := Permits.acquire_eq_granted_iff.mp granted
      refine ⟨conserves.serving, _, rfl, isOpen, ?_⟩
      simp only [held, idle, State.live] at account ⊢
      simp only [Bool.false_eq_true, if_false, if_true] at account ⊢
      omega
    · obtain rfl : permits = asked := Option.some.inj (some.symm.trans same)
      rw [Permits.acquire_eq_refused_iff, isOpen] at refused
      cases refused
  | acceptFailed fault =>
    -- The accept loop puts its permit back.
    obtain ⟨admitting, rfl⟩ := acceptFailed?_eq_some_iff.mp stepped
    refine ⟨conserves.serving, permits.release, by simp [note, release, some], isOpen, ?_⟩
    simp only [held, admitting, State.live, note, release, Permits.release] at account ⊢
    simp only [Bool.false_eq_true, if_false, if_true] at account ⊢
    omega
  | accept fault =>
    -- The permit of the accept loop goes to the new handler.
    obtain ⟨admitting, connection, first, rfl⟩ := accept?_eq_some_iff.mp stepped
    obtain ⟨member, waiting⟩ := firstWaiting?_eq_some first
    have live := live_update distinct (distinct.connection?_of_mem member)
      fun found => { found with phase := .reading, noDelay := .ask state.nodelay fault }
    simp only [waiting, Phase.isLive, Bool.false_eq_true, if_false, if_true] at live
    refine ⟨conserves.serving, permits, some, isOpen, ?_⟩
    simp only [held, admitting, State.live, launch] at account live ⊢
    simp only [Bool.false_eq_true, if_false, if_true] at account ⊢
    omega
  | read peer =>
    obtain ⟨connection, found, reading, -, rfl⟩ := read?_eq_some_iff.mp stepped
    have noted : Conserves limit
        { state with log := state.log ++ (connection.served state.factor {}).log } :=
      conserves.of_live_eq rfl rfl rfl rfl
    have isLive : connection.phase.isLive = true := by rw [reading]; rfl
    cases outcome : (connection.served state.factor {}).outcome with
    | error fault =>
      simpa [proceed, outcome] using noted.conclude distinct found isLive _
    | ok =>
      simpa [proceed, outcome] using noted.update distinct found (by rw [isLive]; rfl)
  | readFailed peer fault =>
    obtain ⟨connection, found, reading, -, rfl⟩ := readFailed?_eq_some_iff.mp stepped
    exact conserves.conclude distinct found (by rw [reading]; rfl) _
  | finish peer sequel =>
    obtain ⟨connection, found, spent, rfl⟩ := finish?_eq_some_iff.mp stepped
    exact conserves.conclude distinct found (by rw [spent]; rfl) _
  | elapse millis =>
    cases stepped
    refine conserves.of_live_eq rfl rfl rfl ?_
    simp [State.live, elapse, List.countP_map, Function.comp_def]
  | connect peer =>
    obtain ⟨-, rfl⟩ := connect?_eq_some_iff.mp stepped
    refine conserves.of_live_eq rfl rfl rfl ?_
    simp [State.live, Phase.isLive]
  | send peer bytes =>
    obtain ⟨connection, found, -, rfl⟩ := send?_eq_some_iff.mp stepped
    exact conserves.update distinct found rfl
  | shutdown peer =>
    obtain ⟨connection, found, -, rfl⟩ := shutdown?_eq_some_iff.mp stepped
    exact conserves.update distinct found rfl
  | close peer =>
    obtain ⟨connection, found, -, rfl⟩ := close?_eq_some_iff.mp stepped
    exact conserves.update distinct found rfl
  | receive peer =>
    obtain ⟨connection, bytes, found, -, -, rfl⟩ := receive?_eq_some_iff.mp stepped
    exact conserves.update distinct found rfl

/-- A server starts with all of its permits free. -/
theorem initial {settings : Settings} {factor : Factor} {server : Server} {most : UInt64}
    (limited : settings.maxConnections = some most)
    (created : Server.create settings factor = .ok server) :
    Conserves most.toNat (State.initial server) := by
  -- No handler is live yet, and the accept loop holds nothing.
  unfold Server.create Permits.ofLimit at created
  rw [limited] at created
  by_cases fits : most.toNat ≤ Permits.greatest
  · simp only [fits, if_true, Except.map] at created
    cases created
    exact ⟨rfl, _, rfl, rfl, rfl⟩
  · simp [fits, Except.map] at created

end Conserves

/-- Under a limit, permits are conserved in every state that the server can come to. -/
theorem Reachable.conserves {settings : Settings} {factor : Factor} {server : Server}
    {most : UInt64} (limited : settings.maxConnections = some most)
    (created : Server.create settings factor = .ok server) (reached : Reachable server state) :
    Conserves most.toNat state := by
  -- The account holds at the start and survives every step.
  induction reached with
  | initial => exact .initial limited created
  | step reached stepped ih => exact ih.step? reached.hasDistinctPeers stepped

/-- Without a limit there are no permits, and the accept loop never ends. -/
theorem Reachable.unlimited {settings : Settings} {factor : Factor} {server : Server}
    (unlimited : settings.maxConnections = none)
    (created : Server.create settings factor = .ok server) (reached : Reachable server state) :
    state.permits = none ∧ state.stopped = false := by
  -- Without permits the accept loop needs none, and none can come back.
  induction reached with
  | initial =>
    rw [Server.create, unlimited] at created
    cases created
    exact ⟨rfl, rfl⟩
  | @step state next event _ stepped ih =>
    obtain ⟨without, serving⟩ := ih
    by_cases asking : event = .acquire
    · subst asking
      obtain ⟨-, -, ⟨-, rfl⟩ | ⟨permits, some, -⟩⟩ := acquire?_eq_some_iff.mp stepped
      · exact ⟨without, serving⟩
      · rw [without] at some
        cases some
    · obtain ⟨stopped, same | back⟩ := permits_of_step? asking stepped
      · exact ⟨same.trans without, stopped.trans serving⟩
      · rw [without] at back
        exact ⟨back, stopped.trans serving⟩

/-- A connection waits in a settled state only behind as many live handlers as are allowed. -/
theorem Reachable.full_of_waiting {settings : Settings} {factor : Factor} {server : Server}
    (created : Server.create settings factor = .ok server) (reached : Reachable server state)
    (settled : state.IsSettled) (member : connection ∈ state.connections)
    (waiting : connection.phase = .waiting) :
    ∃ most, settings.maxConnections = some most ∧ state.live = most.toNat := by
  -- The accept loop cannot have a permit, which it would use for this connection.
  have idle : state.admitting = false := by
    cases admitting : state.admitting with
    | false => rfl
    | true =>
      have blocked : state.accept? none = none := settled (.accept none) rfl
      cases first : state.firstWaiting? with
      | none =>
        have missed := List.find?_eq_none.mp first connection member
        simp [waiting] at missed
      | some other => simp [accept?, admitting, first] at blocked
  have blocked : state.acquire? = none := settled .acquire rfl
  cases limit : settings.maxConnections with
  | none =>
    obtain ⟨without, serving⟩ := reached.unlimited limit created
    simp [acquire?, idle, serving, without] at blocked
  | some most =>
    -- Nor is there a permit for it to take.
    obtain ⟨serving, permits, some, isOpen, account⟩ := reached.conserves limit created
    refine ⟨most, rfl, ?_⟩
    rcases Nat.eq_zero_or_pos permits.free with none | free
    · simpa [held, idle, none] using account
    · have granted := Permits.acquire_eq_granted_iff.mpr ⟨isOpen, free, rfl⟩
      simp [acquire?, idle, serving, some, granted] at blocked

/-- Under a limit every permit is free, with the accept loop or with a live handler in every state
that the server can come to, so that no more connections are served at once and no permit is ever
refused. -/
theorem Reachable.permits_conserved {settings : Settings} {factor : Factor} {server : Server}
    {most : UInt64} (limited : settings.maxConnections = some most)
    (created : Server.create settings factor = .ok server) (reached : Reachable server state) :
    ∃ permits, state.permits = some permits ∧
      permits.free + (if state.admitting then 1 else 0) + state.live = most.toNat ∧
      state.live ≤ most.toNat ∧ permits.acquire ≠ .refused ∧ state.stopped = false := by
  -- The account bounds the live handlers, and handing out has not ended.
  have conserves := reached.conserves limited created
  obtain ⟨permits, some, isOpen, account⟩ := conserves.account
  refine ⟨permits, some, account, by omega, ?_, conserves.serving⟩
  rw [Ne, Permits.acquire_eq_refused_iff, isOpen]
  exact Bool.false_ne_true

/-- One permit comes back from a failed accept and from a handler that fails to read, and then
goes to the next connection, while another one waits. -/
theorem Reachable.permits_conserved_after_failures :
    let client (port : UInt16) : Endpoint := ⟨.loopback, port⟩
    let events : List Event := [.connect (client 1), .acquire, .acceptFailed (.ofKind .other),
      .acquire, .accept none, .readFailed (client 1) (.ofKind .connectionReset),
      .connect (client 2), .connect (client 3), .acquire, .accept none]
    ∃ server state, Server.create { maxConnections := some 1 } ⟨1⟩ = .ok server ∧
      (State.initial server).run? events = some state ∧
      state.live = 1 ∧ state.admitting = false ∧
      (∃ connection, state.connection? (client 3) = some connection ∧
        connection.phase = .waiting) ∧
      ∃ permits, state.permits = some permits ∧ permits.free = 0 ∧
        permits.acquire ≠ .refused ∧ state.stopped = false := by
  intro client events
  let server : Server := ⟨{ maxConnections := some 1 }, ⟨1⟩, some { free := 1 }⟩
  have created : Server.create { maxConnections := some 1 } ⟨1⟩ = .ok server := rfl
  have shown : ((State.initial server).run? events).map (fun state => (state.live,
      state.admitting, (state.connection? (client 3)).map Connection.isAccepted)) =
      some (1, false, some false) := by
    rfl
  obtain ⟨state, ran, same⟩ := Option.map_eq_some_iff.mp shown
  simp only [Prod.mk.injEq] at same
  obtain ⟨live, admitting, left⟩ := same
  obtain ⟨connection, found, unaccepted⟩ := Option.map_eq_some_iff.mp left
  -- The account leaves no permit beside the live handler.
  obtain ⟨permits, some, account, -, granting, serving⟩ :=
    Reachable.permits_conserved rfl created (reachable_of_run? ran)
  have free : permits.free = 0 := by
    simpa [admitting, live] using account
  exact ⟨server, state, created, ran, live, admitting,
    ⟨connection, found, Connection.isAccepted_eq_false_iff.mp unaccepted⟩, permits, some, free,
    granting, serving⟩

end State

end LoadServer
