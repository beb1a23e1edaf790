import Mathlib.Data.List.Dedup
import StunnelIos.Smoltcp.ReferenceLaws
import StunnelIos.Core.Sessions

/-! How many TCP sessions a connection attempt opens. The TCP path keeps no table of
live sessions, so each SYN opens one, a retransmitted SYN too. -/
namespace StunnelIos
variable {S : Smoltcp}

/-- The endpoints and the initial sequence number of a SYN. -/
structure ConnectionAttempt where
  src : SocketAddr
  dst : SocketAddr
  seqNumber : UInt32
deriving DecidableEq, Repr

/-- The checked parsers say that the packet has a TCP header with SYN and without ACK. -/
def synOf (S : Smoltcp) (bytes : Bytes) : Option ConnectionAttempt := do
  let ipPacket ← S.ipv4NewChecked bytes
  if ipPacket.nextHeader = .tcp then
    let tcpPacket ← S.tcpNewChecked ipPacket.payload
    if tcpPacket.syn && !tcpPacket.ack then
      some ⟨.v4 ipPacket.srcAddr tcpPacket.srcPort, .v4 ipPacket.dstAddr tcpPacket.dstPort,
        tcpPacket.seqNumber⟩
    else none
  else none

/-- The SYN, if any, that a started core is given in a transition. -/
def attemptOf (x : Runs.Transition (Handle S) Event (List Output)) : Option ConnectionAttempt :=
  match x.before, x.event with
  | some ctx, .processPacket (some bytes) _ => if ctx.started then synOf S bytes else none
  | _, _ => none

def attemptFor (src dst : SocketAddr) (x : Runs.Transition (Handle S) Event (List Output)) :
    Option ConnectionAttempt :=
  (attemptOf x).filter fun s => s.src == src && s.dst == dst

def spawnedIn (outputs : List Output) : List TaskId :=
  outputs.filterMap fun
    | .spawned id => some id
    | _ => none

def sessionsFor (src dst : SocketAddr) (history : Runs.History (Handle S) Event (List Output)) :
    List TaskId :=
  history.flatMap fun x => if (attemptFor src dst x).isSome then spawnedIn x.output else []

/-- The initial sequence numbers of the SYNs with these endpoints. A retransmission
repeats the number of its connection. -/
def numbersFor (src dst : SocketAddr) (history : Runs.History (Handle S) Event (List Output)) :
    List UInt32 :=
  history.filterMap fun x => (attemptFor src dst x).map ConnectionAttempt.seqNumber

/-- A session that an earlier SYN with these endpoints opened is alive. -/
def SessionAlive (earlier : Runs.History (Handle S) Event (List Output)) (ctx : CoreContext S)
    (src dst : SocketAddr) : Prop :=
  ∃ id ∈ sessionsFor src dst earlier, (ctx.runtime.tasks.lookup id).isSome = true

def AddsNothing (x : Runs.Transition (Handle S) Event (List Output))
    (earlier : Runs.History (Handle S) Event (List Output)) : Prop :=
  ∀ ctx ctx' s, x.before = some ctx → x.after = some ctx' → attemptOf x = some s →
    SessionAlive earlier ctx s.src s.dst → spawnedIn x.output = [] ∧
      ∀ h, ctx.engine.value.sockets.get h = none → ctx'.engine.value.sockets.get h = none

/-- No SYN for a live session comes again. -/
def NotAlive (x : Runs.Transition (Handle S) Event (List Output))
    (earlier : Runs.History (Handle S) Event (List Output)) : Prop :=
  ∀ ctx, x.before = some ctx → ∀ s, attemptOf x = some s → ¬ SessionAlive earlier ctx s.src s.dst

/-- No SYN repeats the endpoints and the number of an earlier one. -/
def NewNumber (x : Runs.Transition (Handle S) Event (List Output))
    (earlier : Runs.History (Handle S) Event (List Output)) : Prop :=
  ∀ s, attemptOf x = some s → s.seqNumber ∉ numbersFor s.src s.dst earlier

/-- A SYN for a live session opens nothing, and any two endpoints have at most as many
sessions as connections. -/
def OneSessionEach (history : Runs.History (Handle S) Event (List Output)) : Prop :=
  Runs.Throughout AddsNothing history ∧
    ∀ src dst, (sessionsFor src dst history).length ≤ (numbersFor src dst history).dedup.length

theorem spawnedIn_delivered (engine : StunnelEngine S) (now : Instant) (bytes : Bytes) :
    spawnedIn (engine.deliveredOutputs now bytes) = [] := by
  apply List.filterMap_eq_nil_iff.mpr
  intro output called
  obtain ⟨_, _, _, rfl⟩ | ⟨_, rfl⟩ := StunnelEngine.deliveredOutputs_cases called <;> rfl

theorem interception_of_synOf {bytes : Bytes} {s : ConnectionAttempt}
    (attempted : synOf S bytes = some s) :
    ∃ dst port, interception S bytes = .syn dst port := by
  obtain ⟨ipPacket, accepted, attempted⟩ := Option.bind_eq_some_iff.mp attempted
  obtain ⟨protocol, attempted⟩ := Option.ite_none_right_eq_some.mp attempted
  obtain ⟨tcpPacket, parsed, attempted⟩ := Option.bind_eq_some_iff.mp attempted
  obtain ⟨flags, _⟩ := Option.ite_none_right_eq_some.mp attempted
  refine ⟨ipPacket.dstAddr, tcpPacket.dstPort, ?_⟩
  simp only [Bool.and_eq_true, Bool.not_eq_eq_eq_not, Bool.not_true] at flags
  simp [interception, accepted, protocol, parsed, flags]

theorem attempt_spawns (api : S.ApiLaws) (poll : S.PollLaws)
    {x : Runs.Transition (Handle S) Event (List Output)} (sound : Handle.Sound (Serves S) x.before)
    (stepped : Handle.Steps x.before x.event x.output x.after) {s : ConnectionAttempt}
    (attempted : attemptOf x = some s) :
    ∃ ctx ctx' id, x.before = some ctx ∧ x.after = some ctx' ∧ spawnedIn x.output = [id] ∧
      ∃ h t, ctx.engine.value.sockets.get h = none ∧
        ctx'.engine.value.sockets.get h = some (.tcp t) := by
  obtain ⟨source, action, outputs, target⟩ := x
  unfold attemptOf at attempted
  split at attempted
  · rename_i ctx bytes now before event
    obtain rfl : source = some ctx := before
    obtain rfl : action = .processPacket (some bytes) now := event
    obtain ⟨started, attempted⟩ := Option.ite_none_right_eq_some.mp attempted
    obtain ⟨dst, port, seen⟩ := interception_of_synOf attempted
    obtain ⟨stopped, _⟩ | ⟨ctx', rfl, changed⟩ :=
      step_change api (serves_stable api) (sound ctx rfl) stepped
    · contradiction
    · cases changed with
      | control control => contradiction
      | ignored idle =>
          obtain absent | idle := idle
          · contradiction
          · exact absurd started (by simp [idle])
      | packet _ _ intercepted =>
          obtain ⟨_, t, _, rfl⟩ := intercepted.of_syn seen
          have free := api.freeSlot_free ctx.engine.value.sockets
          obtain ⟨t', _, held', _⟩ := poll.poll_tcp ctx.engine.value.interface now bytes
            _ _ t (SlotTable.get_put_self free.1)
          refine ⟨ctx, _, ctx.runtime.next, rfl, rfl, ?_, _, t', free.2, held'⟩
          simp only [spawnedIn, openTcp]
          exact congrArg _ (spawnedIn_delivered _ now bytes)
  · contradiction

theorem addsNothing_iff (api : S.ApiLaws) (poll : S.PollLaws)
    {x : Runs.Transition (Handle S) Event (List Output)}
    {earlier : Runs.History (Handle S) Event (List Output)}
    (sound : Handle.Sound (Serves S) x.before)
    (stepped : Handle.Steps x.before x.event x.output x.after) :
    AddsNothing x earlier ↔ NotAlive x earlier := by
  constructor
  · intro adds ctx before s attempted alive
    obtain ⟨_, ctx', id, _, after, spawned, _⟩ := attempt_spawns api poll sound stepped attempted
    have nothing := (adds ctx ctx' s before after attempted alive).1
    rw [spawned] at nothing
    contradiction
  · intro never ctx ctx' s before _ attempted alive
    exact absurd alive (never ctx before s attempted)

theorem length_sessionsFor {history : Runs.History (Handle S) Event (List Output)}
    (one : ∀ x ∈ history, ∀ s, attemptOf x = some s → (spawnedIn x.output).length = 1)
    (src dst : SocketAddr) :
    (sessionsFor src dst history).length = (numbersFor src dst history).length := by
  induction history with
  | nil => rfl
  | cons x earlier ih =>
      have rest := ih fun y member => one y (List.mem_cons_of_mem x member)
      simp only [sessionsFor, numbersFor, List.flatMap_cons, List.length_append] at rest ⊢
      cases attempted : attemptFor src dst x with
      | none => simpa [attempted] using rest
      | some s =>
          have spawned := one x List.mem_cons_self s (Option.filter_eq_some_iff.mp attempted).1
          simp [attempted, spawned, rest, Nat.add_comm]

theorem length_le_dedup_iff {numbers : List UInt32} :
    numbers.length ≤ numbers.dedup.length ↔ numbers.Nodup := by
  constructor
  · intro bounded
    rw [← (List.dedup_sublist numbers).eq_of_length_le bounded]
    exact List.nodup_dedup numbers
  · intro distinct
    rw [List.dedup_eq_self.mpr distinct]

/-- The numbers of all connections are distinct when each was new when it came. -/
theorem nodup_numbersFor_iff {history : Runs.History (Handle S) Event (List Output)} :
    (∀ src dst, (numbersFor src dst history).Nodup) ↔ Runs.Throughout NewNumber history := by
  induction history with
  | nil => simp [numbersFor, Runs.Throughout]
  | cons x earlier ih =>
      rw [Runs.Throughout, ← ih]
      constructor
      · intro distinct
        constructor
        · intro s attempted
          have own := distinct s.src s.dst
          simp only [numbersFor, List.filterMap_cons, attemptFor, attempted, Option.filter_some,
            beq_self_eq_true, Bool.and_self, if_true, Option.map_some, List.nodup_cons] at own
          exact own.1
        · intro src dst
          exact (distinct src dst).sublist
            ((List.sublist_cons_self x earlier).filterMap _)
      · rintro ⟨new, distinct⟩ src dst
        simp only [numbersFor, List.filterMap_cons]
        cases attempted : attemptFor src dst x with
        | none => exact distinct src dst
        | some s =>
            obtain ⟨seen, same⟩ := Option.filter_eq_some_iff.mp attempted
            simp only [Bool.and_eq_true, beq_iff_eq] at same
            obtain ⟨rfl, rfl⟩ := same
            exact List.nodup_cons.mpr ⟨new s seen, distinct s.src s.dst⟩

/-- A run opens one session for each connection exactly when no SYN comes for a live
session, or with the number of an earlier one. -/
theorem one_session_each_iff (api : S.ApiLaws) (poll : S.PollLaws) {config : AppConfig}
    {history : Runs.History (Handle S) Event (List Output)} {handle : Handle S}
    (run : CoreRun S config history handle) :
    OneSessionEach history ↔
      Runs.Throughout (fun x earlier => NotAlive x earlier ∧ NewNumber x earlier) history := by
  have one : ∀ x ∈ history, ∀ s, attemptOf x = some s → (spawnedIn x.output).length = 1 := by
    intro x taken s attempted
    obtain ⟨sound, stepped⟩ := run.sound_before api poll (serves_stable api) taken
    obtain ⟨_, _, _, _, _, spawned, _⟩ := attempt_spawns api poll sound stepped attempted
    rw [spawned, List.length_singleton]
  rw [Runs.throughout_and, ← nodup_numbersFor_iff]
  refine and_congr ?_ (forall₂_congr fun src dst => ?_)
  · exact run.throughout_iff api poll (serves_stable api) fun _ _ _ sound stepped =>
      addsNothing_iff api poll sound stepped
  · rw [length_sessionsFor one, length_le_dedup_iff]

def synTo (seqNumber : UInt32) (now : Instant) : Event :=
  .processPacket (some (Wire.tcpFrame hostAddr tunAddr 1000 80 seqNumber 0
    (Wire.flags true false false) [])) now

/-- A retransmission opens a second session for one connection. -/
theorem retransmission_opens_session : ¬ ∀ S : Smoltcp, S.ApiLaws → S.PollLaws →
    ∀ config history (handle : Handle S), CoreRun S config history handle →
      OneSessionEach history := by
  intro claimed
  obtain ⟨history, handle, run, checked⟩ := CoreContext.replay_run Reference.stack quicConfig
    (startUp ++ [synTo 100 0, synTo 100 1000])
    (fun history _ =>
      sessionsFor (.v4 hostAddr 1000) (.v4 tunAddr 80) history == [1, 0] &&
      numbersFor (.v4 hostAddr 1000) (.v4 tunAddr 80) history == [100, 100])
    (by decide +kernel)
  simp only [Bool.and_eq_true, beq_iff_eq] at checked
  have bounded := (claimed _ Reference.api Reference.poll_laws _ _ _ run).2
    (.v4 hostAddr 1000) (.v4 tunAddr 80)
  rw [checked.1, checked.2] at bounded
  revert bounded
  decide

instance (earlier : Runs.History (Handle S) Event (List Output)) (ctx : CoreContext S)
    (src dst : SocketAddr) : Decidable (SessionAlive earlier ctx src dst) :=
  inferInstanceAs (Decidable (∃ id ∈ sessionsFor src dst earlier, _))

instance (x : Runs.Transition (Handle S) Event (List Output))
    (earlier : Runs.History (Handle S) Event (List Output)) : Decidable (NotAlive x earlier) :=
  inferInstanceAs (Decidable (∀ ctx ∈ x.before, ∀ s ∈ attemptOf x, _))

instance (x : Runs.Transition (Handle S) Event (List Output))
    (earlier : Runs.History (Handle S) Event (List Output)) : Decidable (NewNumber x earlier) :=
  inferInstanceAs (Decidable (∀ s ∈ attemptOf x, _))

/-- The app connects again from the same port when the first session has failed. -/
theorem one_session_each_iff_reconnected : ∃ history handle,
    CoreRun Reference.stack quicConfig history handle ∧
      sessionsFor (.v4 hostAddr 1000) (.v4 tunAddr 80) history = [1, 0] ∧
      Runs.Throughout (fun x earlier => NotAlive x earlier ∧ NewNumber x earlier) history ∧
      OneSessionEach history := by
  obtain ⟨history, handle, run, opened, new⟩ := CoreContext.replay_holds Reference.stack quicConfig
    (startUp ++ [synTo 100 0, .task 0 (.inl (.opened (.error (.other (.outbound 0))))), .drop 0,
      synTo 200 1000])
    (fun history _ => sessionsFor (.v4 hostAddr 1000) (.v4 tunAddr 80) history = [1, 0] ∧
      Runs.Throughout (fun x earlier => NotAlive x earlier ∧ NewNumber x earlier) history)
    (by decide +kernel)
  exact ⟨history, handle, run, opened, new,
    (one_session_each_iff Reference.api Reference.poll_laws run).mpr new⟩

end StunnelIos
