import Mathlib.Data.Finset.Card
import StunnelIos.Core.ProxyRuns

/-! No set-up is ever stuck: a first turn and the answers that the sessions wait for bring every
one of them to its end, whoever holds the lock and however far the others are. -/
namespace StunnelIos
variable {S : Smoltcp} {id : TaskId}

/-- The await points that a call of the manager has before it at most. -/
def CallPhase.left : CallPhase → Nat
  | .locking => 3
  | .initializing => 2
  | .connecting _ => 1

def ConnectionManager.left (manager : ConnectionManager) : Nat :=
  manager.calls.weight fun call => call.2.phase.left

/-- The session waits for its tunnel, and has not run yet. -/
def ProxyCore.unbegun (proxy : ProxyCore S) (id : TaskId) : Bool :=
  proxy.awaitsTunnel id && (proxy.setUps.lookup id).isNone

def ProxyCore.unbegunTasks (proxy : ProxyCore S) : Finset TaskId :=
  proxy.core.runtime.tasks.keys.toFinset.filter fun id => proxy.unbegun id

/-- The await points of all set-ups together. One that has not begun has five at most: the three
of its call, the tunnel, and its first turn. -/
def ProxyCore.left (proxy : ProxyCore S) : Nat :=
  proxy.connManager.left + (proxy.setUps.count fun setUp => !setUp.2.isDone) +
    5 * proxy.unbegunTasks.card

/-- The answer that a call waits for at its await point, one that comes from the network being
an error. -/
def CallPhase.answer : CallPhase → SetUpEvent
  | .locking => .locked (.ok ())
  | .initializing => .clientCreated (.error (.other (.message "no client")))
  | .connecting _ => .connected (.error "no connection")

section
variable {parse : String → Except String SocketAddr} {manager : ConnectionManager}
  {call : CallId} {config : AppConfig} {phase : CallPhase}

theorem ConnectionManager.left_erase (found : manager.calls.lookup call = some ⟨config, phase⟩) :
    ((manager.calls.erase call).weight fun call => call.2.phase.left) < manager.left := by
  rw [left, AList.weight_of_lookup found]
  cases phase <;> simp [CallPhase.left]

theorem ConnectionManager.left_suspend (found : manager.calls.lookup call = some ⟨config, phase⟩)
    {phase' : CallPhase} (nearer : phase'.left < phase.left) :
    (manager.suspend call config phase').left < manager.left := by
  rw [left, left, AList.weight_of_lookup found]
  simp only [suspend, AList.weight_insert]
  omega

def CallPhase.resumption (phase : CallPhase) (call : CallId) : CallEvent :=
  match phase with
  | .locking => .locked call (.ok ())
  | .initializing => .clientCreated call (.error (.other (.message "no client")))
  | .connecting _ => .connected call (.error "no connection")

/-- A call that is answered is nearer to its end. -/
theorem ConnectionManager.answer_left (found : manager.calls.lookup call = some ⟨config, phase⟩)
    (free : phase = .locking → manager.lockedBy = none) :
    (manager.step parse (phase.resumption call)).1.left < manager.left := by
  have finished : ∀ {manager' : ConnectionManager}, manager'.calls = manager.calls.erase call →
      manager'.left < manager.left := by
    intro manager' ended
    rw [left, ended]
    exact left_erase found
  cases phase with
  | locking =>
      simp only [CallPhase.resumption, step, found, free rfl, withLock]
      split
      · exact finished rfl
      · exact left_suspend found (by decide)
  | initializing =>
      simp only [CallPhase.resumption, step, found, withClient]
      split
      · exact finished rfl
      · split
        · exact finished rfl
        · exact left_suspend found (by simp [CallPhase.left])
  | connecting connection =>
      simp only [CallPhase.resumption, step, found, withConnection]
      exact finished rfl

end

section
variable {parse : String → Except String SocketAddr} {config : AppConfig}
  {history : ProxyHistory S} {proxy : ProxyCore S} {call : CallId}

theorem SetUp.count_pending {setUps : AList fun _ : TaskId => SetUp} {setUp : SetUp}
    (found : setUps.lookup id = some setUp) (undone : setUp.isDone = false) :
    (setUps.count fun setUp => !setUp.2.isDone) =
      ((setUps.erase id).count fun setUp => !setUp.2.isDone) + 1 := by
  simp [AList.count_of_lookup found, undone]

theorem ProxyCore.setUp_answer (found : proxy.setUps.lookup id = some (.handle call)) (now : Instant)
    (phase : CallPhase) :
    proxy.setUp parse id now phase.answer = proxy.resume parse id now (phase.resumption call) := by
  cases phase <;> simp only [setUp, found, CallPhase.answer, CallPhase.resumption]

theorem ProxyCore.mem_unbegunTasks {proxy : ProxyCore S} :
    id ∈ proxy.unbegunTasks ↔ proxy.unbegun id = true := by
  simp only [unbegunTasks, Finset.mem_filter, List.mem_toFinset, and_iff_right_iff_imp]
  intro awaits
  obtain ⟨task, live, _⟩ := (Option.any_eq_true _ _).mp (Bool.and_eq_true_iff.mp awaits).1
  exact AList.mem_keys.mp (AList.lookup_isSome.mp (by simp [live]))

section
variable {proxy' : ProxyCore S}
  (others : ∀ other, proxy'.unbegun other = (decide (other ≠ id) && proxy.unbegun other))
include others

theorem ProxyCore.unbegunTasks_subset : proxy'.unbegunTasks ⊆ proxy.unbegunTasks := by
  intro other member
  have waits := others other ▸ mem_unbegunTasks.mp member
  exact mem_unbegunTasks.mpr (Bool.and_eq_true_iff.mp waits).2

theorem ProxyCore.card_unbegun_le : proxy'.unbegunTasks.card ≤ proxy.unbegunTasks.card :=
  Finset.card_le_card (unbegunTasks_subset others)

theorem ProxyCore.card_unbegun_lt (was : proxy.unbegun id = true) :
    proxy'.unbegunTasks.card < proxy.unbegunTasks.card := by
  refine Finset.card_lt_card ⟨unbegunTasks_subset others, fun back => ?_⟩
  have still := mem_unbegunTasks.mp (back (mem_unbegunTasks.mpr was))
  simp [others] at still

end

/-- A set-up that begins, or goes on, leaves the others as they were. -/
theorem ProxyCore.unbegun_insert (proxy : ProxyCore S) (id : TaskId) (manager : ConnectionManager)
    (setUp : SetUp) (other : TaskId) :
    ProxyCore.unbegun { proxy with
        connManager := manager, setUps := proxy.setUps.insert id setUp } other =
      (decide (other ≠ id) && proxy.unbegun other) := by
  by_cases same : other = id
  · subst same
    simp [unbegun]
  · simp [unbegun, awaitsTunnel, same]

/-- So does one that is over, and its session does not wait any more. -/
theorem ProxyCore.unbegun_settled (proxy : ProxyCore S) (id : TaskId) (manager : ConnectionManager)
    {task : Task} {setUps : AList fun _ : TaskId => SetUp} (opened : task.isOpening = false)
    (apart : ∀ other, other ≠ id → setUps.lookup other = proxy.setUps.lookup other)
    (other : TaskId) :
    ProxyCore.unbegun { proxy with
        connManager := manager, setUps := setUps,
        core := { proxy.core with runtime := proxy.core.runtime.set id task } } other =
      (decide (other ≠ id) && proxy.unbegun other) := by
  by_cases same : other = id
  · subst same
    simp [unbegun, awaitsTunnel, Runtime.set, opened]
  · simp [unbegun, awaitsTunnel, Runtime.set, same, apart other same]

theorem ProxyCore.begin_left (sound : Sound (Serves S) proxy.core)
    (locked : proxy.connManager.Locked) (fresh : proxy.setUps.lookup id = none)
    (awaits : proxy.awaitsTunnel id = true) :
    (proxy.setUp parse id 0 .begin).1.left < proxy.left := by
  have was : proxy.unbegun id = true := by simp [unbegun, awaits, fresh]
  have added : ∀ setUp : SetUp, ((proxy.setUps.insert id setUp).count fun setUp =>
      !setUp.2.isDone) ≤ (proxy.setUps.count fun setUp => !setUp.2.isDone) + 1 := by
    intro setUp
    rw [AList.count_insert, AList.erase_of_lookup_none fresh]
    split <;> omega
  simp only [setUp, fresh, awaits, if_true, begin]
  split
  · rename_i error _
    obtain ⟨task, live, waits⟩ := (Option.any_eq_true _ _).mp awaits
    obtain ⟨proxied, opening⟩ : task.isDirect = false ∧ task.isOpening = true := by
      simpa using waits
    obtain ⟨task', settled, same⟩ := settle_eq parse proxy sound live opening proxied 0
      (.error error)
    have begun := card_unbegun_lt
      (unbegun_settled proxy id proxy.connManager settled.opening fun _ _ => rfl) was
    simp only [same, left] at begun ⊢
    omega
  · have begun := card_unbegun_lt (unbegun_insert proxy id
      (proxy.connManager.step parse (.call proxy.core.config)).1
      (.handle proxy.connManager.nextCall)) was
    have called : (proxy.connManager.step parse (.call proxy.core.config)).1.left =
        3 + proxy.connManager.left := by
      rw [ConnectionManager.left, ConnectionManager.step_call, AList.weight_insert,
        AList.erase_of_lookup_none locked.next_absent]
      rfl
    have undone := added (.handle proxy.connManager.nextCall)
    simp only [left, called]
    omega
  · set asked := proxy.getTlstcpConnector.2.connectTunnel id (.tlsTcp proxy.getTlstcpConnector.1)
    have begun : asked.1.unbegunTasks.card < proxy.unbegunTasks.card :=
      card_unbegun_lt (unbegun_insert proxy.getTlstcpConnector.2 id proxy.connManager _) was
    have undone : (asked.1.setUps.count fun setUp => !setUp.2.isDone) ≤ _ := added _
    change proxy.connManager.left + _ + _ < _
    simp only [left]
    omega

theorem ProxyCore.resume_left (sound : Sound (Serves S) proxy.core) (matched : proxy.Matched)
    (found : proxy.setUps.lookup id = some (.handle call)) (now : Instant) {e : CallEvent}
    (nearer : (proxy.connManager.step parse e).1.left < proxy.connManager.left) :
    (proxy.resume parse id now e).1.left < proxy.left := by
  have pending := SetUp.count_pending found rfl
  unfold resume
  cases stepped : proxy.connManager.step parse e with
  | mk manager outputs =>
      rw [stepped] at nearer
      dsimp only at nearer ⊢
      split
      · exact Nat.add_lt_add_right (Nat.add_lt_add_right nearer _) _
      · rename_i handle _
        have still : ((proxy.setUps.insert id (.tunnel (.s2n handle))).count fun setUp =>
            !setUp.2.isDone) = ((proxy.setUps.erase id).count fun setUp => !setUp.2.isDone) + 1 :=
          AList.count_insert
        have begun := card_unbegun_le (unbegun_insert proxy id manager (.tunnel (.s2n handle)))
        simp only [left, connectTunnel]
        omega
      · obtain ⟨task, live, proxied, opening⟩ := matched.opens found rfl
        rename_i error _
        obtain ⟨task', settled, same⟩ := settle_eq parse
          { proxy with connManager := manager, setUps := proxy.setUps.erase id }
          sound live opening proxied now (.error error)
        have begun := card_unbegun_le (unbegun_settled proxy id manager settled.opening
          fun _ apart => AList.lookup_erase_ne apart)
        simp only [same, left] at begun ⊢
        omega

theorem ProxyCore.tunnel_left (sound : Sound (Serves S) proxy.core) (matched : proxy.Matched)
    {carrier : Carrier} (found : proxy.setUps.lookup id = some (.tunnel carrier)) (now : Instant)
    (error : IoError) :
    (proxy.setUp parse id now (.tunnelConnected (.error error))).1.left < proxy.left := by
  have pending := SetUp.count_pending found rfl
  obtain ⟨task, live, proxied, opening⟩ := matched.opens found rfl
  obtain ⟨task', settled, same⟩ := settle_eq parse
    { proxy with setUps := proxy.setUps.erase id }
    sound live opening proxied now (.error error)
  have begun := card_unbegun_le (unbegun_settled proxy id proxy.connManager settled.opening
    fun _ apart => AList.lookup_erase_ne apart)
  simp only [setUp, found, tunnelConnected, same, left] at begun ⊢
  omega

/-- A call of the manager that can go on, and is answered, brings its session nearer to its end. -/
theorem ProxyCore.call_left (sound : Sound (Serves S) proxy.core) (matched : proxy.Matched)
    {phase : CallPhase} (waits : proxy.setUps.lookup id = some (.handle call))
    (live : proxy.connManager.calls.lookup call = some ⟨config, phase⟩)
    (free : phase = .locking → proxy.connManager.lockedBy = none) :
    (proxy.setUp parse id 0 phase.answer).1.left < proxy.left := by
  rw [setUp_answer waits]
  exact resume_left sound matched waits 0 (ConnectionManager.answer_left live free)

theorem ProxyCore.Matched.awaited (matched : proxy.Matched) {c : S2nCall}
    (live : proxy.connManager.calls.lookup call = some c) :
    ∃ id, proxy.setUps.lookup id = some (.handle call) := by
  by_contra none_waits
  have gone := (matched.paired.awaited call).mpr (not_exists.mp none_waits)
  cases gone.symm.trans live

/-- Where a session waits for its tunnel, a first turn or an answer to some session brings all of
them nearer to their ends. -/
theorem ProxyCore.answer_exists (parse : String → Except String SocketAddr) {proxy : ProxyCore S}
    (sound : Sound (Serves S) proxy.core) (matched : proxy.Matched)
    (locked : proxy.connManager.Locked) (awaits : proxy.awaitsTunnel id = true) :
    ∃ other event, (proxy.setUp parse other 0 event).1.left < proxy.left := by
  cases found : proxy.setUps.lookup id with
  | none => exact ⟨id, .begin, begin_left sound locked found awaits⟩
  | some setUp =>
      cases setUp with
      | done carrier =>
          obtain ⟨task, live, waits⟩ := (Option.any_eq_true _ _).mp awaits
          obtain ⟨_, live', _, opening⟩ := matched.aligned.opening found
          cases live.symm.trans live'
          simp [opening, SetUp.isDone] at waits
      | tunnel carrier =>
          exact ⟨id, _, tunnel_left sound matched found 0 (.other (.message "no tunnel"))⟩
      | handle call =>
          cases held : proxy.connManager.lockedBy with
          | some holder =>
              -- the call with the lock goes on, whoever else waits
              obtain ⟨config, phase, live, past⟩ := (locked.lock holder).mp held
              obtain ⟨other, waits⟩ := matched.awaited live
              exact ⟨other, _, call_left sound matched waits live fun same => absurd same past⟩
          | none =>
              cases live : proxy.connManager.calls.lookup call with
              | none => exact absurd found ((matched.paired.awaited call).mp live id)
              | some c => exact ⟨id, _, call_left sound matched found live fun _ => held⟩

/-- A set-up is done once its session does not wait any more. -/
theorem ProxyCore.Matched.done (matched : proxy.Matched) (settled : proxy.awaitsTunnel id = false)
    {setUp : SetUp} (found : proxy.setUps.lookup id = some setUp) : setUp.isDone = true := by
  obtain ⟨task, live, proxied, opening⟩ := matched.aligned.opening found
  simpa [ProxyCore.awaitsTunnel, live, proxied, opening] using settled

/-- From every state that is reached first turns and the answers of the network alone lead to one
in which no live session waits for its tunnel: none waits for a lock or a connection that cannot
come. -/
theorem ProxyRun.set_ups_settle (api : S.ApiLaws) (poll : S.PollLaws)
    (run : ProxyRun S parse config history (some proxy)) :
    ∃ later proxy', ProxyRun S parse config (later ++ history) (some proxy') ∧
      (∀ x ∈ later, ∃ id now event, x.event = .setUp id now event) ∧
      (∀ id, proxy'.awaitsTunnel id = false) ∧
      ∀ id setUp, proxy'.setUps.lookup id = some setUp → setUp.isDone = true := by
  generalize bound : proxy.left = n
  induction n using Nat.strong_induction_on generalizing history proxy with
  | h n ih =>
      obtain ⟨refines, matched⟩ := run.refines_matched api poll
      have matched := matched proxy rfl
      by_cases settled : ∀ id, proxy.awaitsTunnel id = false
      · exact ⟨[], proxy, run, by simp, settled, fun id _ => matched.done (settled id)⟩
      · simp only [not_forall, Bool.not_eq_false] at settled
        obtain ⟨id, awaits⟩ := settled
        obtain ⟨cores, cored, _⟩ := refines.core
        obtain ⟨calls, manager, managed, same, _⟩ := refines.manager
        cases same proxy rfl
        obtain ⟨other, event, nearer⟩ := ProxyCore.answer_exists parse
          (cored.sound api poll (serves_stable api) _ rfl) matched managed.shared.locked awaits
        obtain ⟨first, created, path⟩ := run
        have next : ProxyRun S parse config (⟨some proxy, .setUp other 0 event,
            (proxy.setUp parse other 0 event).2, some (proxy.setUp parse other 0 event).1⟩ ::
            history) (some (proxy.setUp parse other 0 event).1) :=
          ⟨first, created, path.next rfl⟩
        obtain ⟨later, proxy', run', answers, done⟩ := ih _ (bound ▸ nearer) next rfl
        refine ⟨later ++ [_], proxy', by simpa using run', ?_, done⟩
        intro x member
        rcases List.mem_append.mp member with earlier | last
        · exact answers x earlier
        · rw [List.mem_singleton.mp last]
          exact ⟨other, 0, event, rfl⟩

/-- The second client waits for the lock while the first one connects, and the session of a third
one has not begun. -/
theorem set_ups_settle_three : ∃ history proxy later proxy',
    ProxyRun Reference.stack localServer quicConfig history (some proxy) ∧
      proxy.connManager.lockedBy = some 0 ∧ proxy.setUps.lookup 1 = some (.handle 1) ∧
      proxy.unbegun 2 = true ∧
      ProxyRun Reference.stack localServer quicConfig (later ++ history) (some proxy') ∧
      ∀ id, proxy'.awaitsTunnel id = false := by
  obtain ⟨history, proxy, run, checked⟩ := ProxyCore.replay_run Reference.stack localServer
    quicConfig (twoTunnels ++ [
      .core (.processPacket (some (Wire.udpFrame hostAddr ⟨9, 9, 9, 9⟩ 5002 139 [3])) 0)])
    (fun _ proxy => proxy.connManager.lockedBy == some 0 &&
      (proxy.setUps.lookup 1 == some (.handle 1) && proxy.unbegun 2)) (by decide +kernel)
  simp only [Bool.and_eq_true, beq_iff_eq] at checked
  obtain ⟨later, proxy', run', _, settled, _⟩ :=
    run.set_ups_settle Reference.api Reference.poll_laws
  exact ⟨history, proxy, later, proxy', run, checked.1, checked.2.1, checked.2.2, run', settled⟩

end

end StunnelIos
