import StunnelIos.Core.ProxySteps

/-! Runs of a core with its connection manager. -/
namespace StunnelIos
variable {S : Smoltcp} {id : TaskId}

theorem Task.opening_not_relays {task : Task} (opening : task.isOpening = true) :
    task.relays = false := by
  obtain ⟨_, _, _, _ | _ | _⟩ | ⟨_, _, _, _, _ | _ | _⟩ := task <;>
    first
    | rfl
    | contradiction

section
variable {tasks : AList fun _ : TaskId => Task} {setUps setUps' : AList fun _ : TaskId => SetUp}
  {calls calls' : AList fun _ : CallId => S2nCall} {call : CallId}

/-- A session that has settled has a tunnel if it goes on. -/
theorem Aligned.settle (aligned : Aligned tasks setUps) {task' : Task}
    (others : ∀ other, other ≠ id → setUps'.lookup other = setUps.lookup other)
    (proxied : task'.isDirect = false) (opening : task'.isOpening = false)
    (done : ∀ setUp, setUps'.lookup id = some setUp → setUp.isDone = true)
    (tunnel : task'.relays = true → ∃ carrier, setUps'.lookup id = some (.done carrier)) :
    Aligned (tasks.insert id task') setUps' := by
  constructor
  · intro other setUp found
    by_cases same : other = id
    · subst same
      exact ⟨task', AList.lookup_insert _, proxied, by rw [opening, done _ found]; rfl⟩
    · rw [others other same] at found
      obtain ⟨task, live, rest⟩ := aligned.opening found
      exact ⟨task, (AList.lookup_insert_ne same).trans live, rest⟩
  · intro other task live direct relays
    rcases AList.lookup_insert_eq_some.mp live with ⟨rfl, same⟩ | ⟨apart, live⟩
    · cases same
      exact tunnel relays
    · rw [others other apart]
      exact aligned.relaying live direct relays

/-- A session that opens may begin its set-up or go on with it. -/
theorem Aligned.insert (aligned : Aligned tasks setUps) {task : Task}
    (live : tasks.lookup id = some task) (proxied : task.isDirect = false)
    (opening : task.isOpening = true) {setUp : SetUp} (undone : setUp.isDone = false) :
    Aligned tasks (setUps.insert id setUp) := by
  constructor
  · intro other setUp' found
    rcases AList.lookup_insert_eq_some.mp found with ⟨rfl, same⟩ | ⟨_, found⟩
    · cases same
      exact ⟨task, live, proxied, by rw [opening, undone]; rfl⟩
    · exact aligned.opening found
  · intro other task' live' direct relays
    obtain ⟨carrier, found⟩ := aligned.relaying live' direct relays
    refine ⟨carrier, AList.lookup_insert_eq_some.mpr (.inr ⟨?_, found⟩)⟩
    rintro rfl
    cases live.symm.trans live'
    rw [Task.opening_not_relays opening] at relays
    contradiction

/-- What happens to the sessions that do not wait for a tunnel leaves the set-ups alone. -/
theorem Aligned.changed {ctx ctx' : CoreContext S} {event : Event} {outputs : List Output}
    (aligned : Aligned ctx.runtime.tasks setUps) (sound : Sound (Serves S) ctx)
    (changed : Change ctx event outputs ctx') (stays : ∀ id, event ≠ .drop id)
    (rests : ∀ id e task, event = .task id e → ctx.runtime.tasks.lookup id = some task →
      task.isDirect = false → task.isOpening = false) :
    Aligned ctx'.runtime.tasks setUps := by
  constructor
  · intro id setUp found
    obtain ⟨task, live, proxied, opening⟩ := aligned.opening found
    obtain ⟨task', live', continues, same⟩ := changed.task_continues sound live (stays id)
    refine ⟨task', live', continues.isDirect.trans proxied, ?_⟩
    obtain rfl | ⟨e, turn⟩ := same
    · exact opening
    · rw [← opening, rests id e task turn live proxied, Bool.eq_false_iff]
      intro opens
      have opened := continues.opening opens
      rw [rests id e task turn live proxied] at opened
      contradiction
  · intro id task' live' proxied relays
    obtain ⟨_, opening⟩ | live | ⟨task, e, turn, live, continues⟩ := changed.task_cases live'
    · rw [Task.opening_not_relays opening] at relays
      contradiction
    · exact aligned.relaying live proxied relays
    · have proxied := continues.isDirect.symm.trans proxied
      rcases continues.relays relays with before | opening
      · exact aligned.relaying live proxied before
      · rw [rests id e task turn live proxied] at opening
        contradiction

theorem Aligned.dropped {ctx ctx' : CoreContext S} (aligned : Aligned ctx.runtime.tasks setUps)
    (sound : Sound (Serves S) ctx) (changed : Change ctx (.drop id) [] ctx')
    (gone : ctx'.runtime.tasks.lookup id = none) :
    Aligned ctx'.runtime.tasks (setUps.erase id) := by
  constructor
  · intro other setUp found
    obtain ⟨apart, found⟩ := AList.lookup_erase_eq_some.mp found
    obtain ⟨task, live, rest⟩ := aligned.opening found
    obtain ⟨task', live', _, same⟩ := changed.task_continues sound live (by simpa using Ne.symm apart)
    obtain rfl | ⟨_, impossible⟩ := same
    · exact ⟨task', live', rest⟩
    · contradiction
  · intro other task' live' proxied relays
    obtain ⟨_, opening⟩ | live | ⟨_, _, impossible, _⟩ := changed.task_cases live'
    · rw [Task.opening_not_relays opening] at relays
      contradiction
    · obtain ⟨carrier, found⟩ := aligned.relaying live proxied relays
      refine ⟨carrier, AList.lookup_erase_eq_some.mpr ⟨?_, found⟩⟩
      rintro rfl
      cases gone.symm.trans live'
    · contradiction

theorem Paired.goes_on (paired : Paired calls setUps)
    (live : ∀ call, calls'.lookup call = none ↔ calls.lookup call = none) :
    Paired calls' setUps :=
  ⟨fun call => (live call).trans (paired.awaited call), paired.alone⟩

theorem SetUp.lookup_insert_tunnel {setUp : SetUp} (other : ∀ call, setUp ≠ .handle call)
    (call : CallId) : (setUps.insert id setUp).lookup id ≠ some (.handle call) := by
  rw [AList.lookup_insert]
  exact fun same => other call (Option.some.inj same)

theorem Paired.setUp (paired : Paired calls setUps)
    (others : ∀ other, other ≠ id → setUps'.lookup other = setUps.lookup other)
    (before : ∀ call, setUps.lookup id ≠ some (.handle call))
    (after : ∀ call, setUps'.lookup id ≠ some (.handle call)) : Paired calls setUps' := by
  have handles : ∀ other call, setUps'.lookup other = some (.handle call) ↔
      setUps.lookup other = some (.handle call) := by
    intro other call
    by_cases same : other = id
    · subst same
      exact iff_of_false (after call) (before call)
    · rw [others other same]
  constructor
  · intro call
    rw [paired.awaited]
    exact forall_congr' fun id => not_congr (handles id call).symm
  · intro id other call mine theirs
    exact paired.alone ((handles id call).mp mine) ((handles other call).mp theirs)

theorem Paired.begin (paired : Paired calls setUps) {c : S2nCall}
    (fresh : calls.lookup call = none) (absent : setUps.lookup id = none) :
    Paired (calls.insert call c) (setUps.insert id (.handle call)) := by
  have unheard : ∀ other, setUps.lookup other ≠ some (.handle call) := (paired.awaited call).mp fresh
  constructor
  · intro other
    by_cases same : other = call
    · subst same
      simp only [AList.lookup_insert, reduceCtorEq, false_iff, not_forall, not_not]
      exact ⟨id, AList.lookup_insert _⟩
    · rw [AList.lookup_insert_ne same, paired.awaited]
      refine forall_congr' fun task => not_congr ?_
      rw [AList.lookup_insert_eq_some]
      constructor
      · intro found
        refine .inr ⟨?_, found⟩
        rintro rfl
        cases absent.symm.trans found
      · rintro (⟨_, ⟨⟩⟩ | ⟨_, found⟩)
        · contradiction
        · exact found
  · intro task other c' mine theirs
    rcases AList.lookup_insert_eq_some.mp mine with ⟨rfl, same⟩ | ⟨_, older⟩ <;>
      rcases AList.lookup_insert_eq_some.mp theirs with ⟨rfl, same'⟩ | ⟨_, older'⟩
    · rfl
    · cases same
      exact absurd older' (unheard other)
    · cases same'
      exact absurd older (unheard task)
    · exact paired.alone older older'

theorem Paired.finish (paired : Paired calls setUps) (mine : setUps.lookup id = some (.handle call))
    (others : ∀ other, other ≠ id → setUps'.lookup other = setUps.lookup other)
    (gone : ∀ c, setUps'.lookup id ≠ some (.handle c)) : Paired (calls.erase call) setUps' := by
  have handles : ∀ other c, setUps'.lookup other = some (.handle c) ↔
      other ≠ id ∧ setUps.lookup other = some (.handle c) := by
    intro other c
    by_cases same : other = id
    · subst same
      simp [gone]
    · rw [others other same]
      simp [same]
  constructor
  · intro other
    by_cases same : other = call
    · subst same
      simp only [AList.lookup_erase, true_iff]
      intro task found
      obtain ⟨apart, found⟩ := (handles task other).mp found
      exact apart (paired.alone mine found)
    · rw [AList.lookup_erase_ne same, paired.awaited]
      refine forall_congr' fun task => not_congr ?_
      rw [handles]
      constructor
      · intro found
        refine ⟨?_, found⟩
        rintro rfl
        cases mine.symm.trans found
        contradiction
      · exact And.right
  · intro task other c first second
    exact paired.alone ((handles task c).mp first).2 ((handles other c).mp second).2

end

section
variable {parse : String → Except String SocketAddr} {proxy proxy' : ProxyCore S}
  {event : ProxyEvent} {outputs : List ProxyOutput} {handle : ProxyHandle S}

theorem ConnectionManager.step_call {manager : ConnectionManager} (config : AppConfig) :
    (manager.step parse (.call config)).1.calls =
      manager.calls.insert manager.nextCall ⟨config, .locking⟩ := rfl

theorem ConnectionManager.Locked.next_absent {manager : ConnectionManager}
    (locked : manager.Locked) : manager.calls.lookup manager.nextCall = none := by
  cases found : manager.calls.lookup manager.nextCall with
  | none => rfl
  | some call => exact absurd (locked.fresh _ _ found) (Nat.lt_irrefl _)

theorem ProxyCore.Moves.matched (moved : proxy.Moves parse event outputs (some proxy'))
    (sound : Sound (Serves S) proxy.core) (locked : proxy.connManager.Locked)
    (matched : proxy.Matched) : proxy'.Matched := by
  obtain ⟨aligned, paired⟩ := matched
  cases moved with
  | idle => exact ⟨aligned, paired⟩
  | core _ changed stays rests =>
      refine ⟨aligned.changed sound changed stays ?_, paired⟩
      intro id e task turn live proxied
      rw [Bool.eq_false_iff]
      intro opening
      have awaits := ProxyCore.awaitsTunnel_iff.mpr ⟨task, live, proxied, opening⟩
      rw [rests id e turn] at awaits
      contradiction
  | dropped _ changed gone =>
      exact ⟨aligned.dropped sound changed gone,
        paired.setUp (fun _ apart => AList.lookup_erase_ne apart)
          (ProxyCore.Matched.drops ⟨aligned, paired⟩ changed gone) (by simp)⟩
  | unsupported absent settled =>
      refine ⟨aligned.settle (fun _ _ => rfl) settled.isDirect settled.opening ?_ ?_, paired⟩
      · intro setUp found
        cases absent.symm.trans found
      · intro relays
        cases settled.relays relays
  | called absent awaits _ =>
      obtain ⟨task, live, proxied, opening⟩ := ProxyCore.awaitsTunnel_iff.mp awaits
      exact ⟨aligned.insert live proxied opening rfl, paired.begin locked.next_absent absent⟩
  | connector absent awaits _ =>
      obtain ⟨task, live, proxied, opening⟩ := ProxyCore.awaitsTunnel_iff.mp awaits
      exact ⟨aligned.insert live proxied opening rfl,
        paired.setUp (fun _ apart => AList.lookup_insert_ne apart) (by simp [absent])
          (SetUp.lookup_insert_tunnel (by simp))⟩
  | waits _ mine lives stepped pending =>
      refine ⟨aligned, paired.goes_on ?_⟩
      obtain ⟨_, same⟩ | ⟨_, returned, _⟩ :=
        (ConnectionManager.step_moves stepped).call_cases mine lives
      · exact same
      · cases pending.symm.trans returned
  | obtained found mine lives stepped returned =>
      obtain ⟨task, live, proxied, opening⟩ := ProxyCore.Matched.opens ⟨aligned, paired⟩ found rfl
      refine ⟨aligned.insert live proxied opening rfl, ?_⟩
      obtain ⟨pending, _⟩ | ⟨_, _, _, ended⟩ :=
        (ConnectionManager.step_moves stepped).call_cases mine lives
      · cases pending.symm.trans returned
      · simp only [ProxyCore.connectTunnel, ended]
        exact paired.finish found (fun _ apart => AList.lookup_insert_ne apart)
          (SetUp.lookup_insert_tunnel (by simp))
  | refused found mine lives stepped returned settled =>
      constructor
      · refine aligned.settle (fun _ apart => AList.lookup_erase_ne apart) settled.isDirect
          settled.opening (by simp) ?_
        intro relays
        cases settled.relays relays
      · obtain ⟨pending, _⟩ | ⟨_, _, _, ended⟩ :=
          (ConnectionManager.step_moves stepped).call_cases mine lives
        · cases pending.symm.trans returned
        · simp only [ended]
          exact paired.finish found (fun _ apart => AList.lookup_erase_ne apart) (by simp)
  | @opened id _ _ carrier _ _ found settled =>
      constructor
      · refine aligned.settle (fun _ apart => AList.lookup_insert_ne apart) settled.isDirect
          settled.opening ?_ fun _ => ⟨carrier, AList.lookup_insert _⟩
        intro setUp same
        cases (AList.lookup_insert _).symm.trans same
        rfl
      · exact paired.setUp (fun _ apart => AList.lookup_insert_ne apart) (by simp [found])
          (SetUp.lookup_insert_tunnel (by simp))
  | failed found settled =>
      constructor
      · refine aligned.settle (fun _ apart => AList.lookup_erase_ne apart) settled.isDirect
          settled.opening (by simp) ?_
        intro relays
        cases settled.relays relays
      · exact paired.setUp (fun _ apart => AList.lookup_erase_ne apart) (by simp [found]) (by simp)

end

abbrev ProxyHistory (S : Smoltcp) := Runs.History (ProxyHandle S) ProxyEvent (List ProxyOutput)

/-- A run of a core with its connection manager, from its creation. -/
def ProxyRun (S : Smoltcp) (parse : String → Except String SocketAddr) (config : AppConfig)
    (history : ProxyHistory S) (handle : ProxyHandle S) : Prop :=
  ∃ first, ProxyCore.new S config = .ok first ∧
    Runs.Run (fun before event outputs after => ProxyHandle.step parse before event = .ok (after, outputs))
      (some first) history handle

@[simp] def ProxyOutput.ofCore : ProxyOutput → Option Output
  | .core output => some output
  | _ => none

@[simp] def ProxyOutput.ofManager : ProxyOutput → Option CallOutput
  | .manager output => some output
  | _ => none

@[simp] theorem ProxyOutput.ofCore_comp_core : ofCore ∘ core = some := rfl

@[simp] theorem ProxyOutput.ofCore_comp_manager : ofCore ∘ manager = fun _ => none := rfl

@[simp] theorem ProxyOutput.ofManager_comp_core : ofManager ∘ core = fun _ => none := rfl

@[simp] theorem ProxyOutput.ofManager_comp_manager : ofManager ∘ manager = some := rfl

section
variable {parse : String → Except String SocketAddr} {proxy : ProxyCore S}
  {event : ProxyEvent} {outputs : List ProxyOutput} {handle : ProxyHandle S}

/-- What a step is for the core alone. -/
theorem ProxyCore.Moves.core_step (moved : proxy.Moves parse event outputs handle) :
    (event.call = none ∧ handle.map (·.core) = some proxy.core ∧
      outputs.filterMap ProxyOutput.ofCore = []) ∨
    ∃ e, Handle.Steps (some proxy.core) e (outputs.filterMap ProxyOutput.ofCore)
        (handle.map (·.core)) ∧ event.call = if e.session = none then some e else none := by
  have settled : ∀ {id task task' result}, Settled proxy.core id task result task' → ∃ e,
      Handle.Steps (some proxy.core) e []
        (some { proxy.core with runtime := proxy.core.runtime.set id task' }) ∧
      none = if e.session = none then some e else none := by
    rintro id task task' result settled
    obtain ⟨e, stepped⟩ := settled.step
    refine ⟨.task id e, ?_, rfl⟩
    simp only [Handle.Steps, Handle.step, stepped]
  cases moved with
  | idle quiet => exact .inl ⟨quiet, rfl, rfl⟩
  | stopped stepped => exact .inr ⟨_, stepped, rfl⟩
  | core stepped => exact .inr ⟨_, by simpa using stepped, rfl⟩
  | dropped stepped => exact .inr ⟨_, stepped, rfl⟩
  | called | connector => exact .inl ⟨rfl, rfl, rfl⟩
  | waits => exact .inl ⟨rfl, rfl, by simp⟩
  | obtained => exact .inl ⟨rfl, rfl, by simp [connectTunnel]⟩
  | unsupported _ done => exact .inr (settled done)
  | refused _ _ _ _ _ done =>
      simpa using .inr (settled done)
  | opened _ done | failed _ done => exact .inr (settled done)

/-- What a step is for the connection manager alone. -/
theorem ProxyCore.Moves.manager_step {proxy' : ProxyCore S}
    (moved : proxy.Moves parse event outputs (some proxy')) :
    (proxy'.connManager = proxy.connManager ∧ outputs.filterMap ProxyOutput.ofManager = []) ∨
    ∃ e, proxy.connManager.step parse e =
      (proxy'.connManager, outputs.filterMap ProxyOutput.ofManager) := by
  cases moved with
  | idle | dropped | unsupported | connector | opened | failed => exact .inl ⟨rfl, rfl⟩
  | core => exact .inl ⟨rfl, by simp⟩
  | called => exact .inr ⟨.call proxy.core.config, rfl⟩
  | waits _ _ _ stepped | refused _ _ _ stepped => exact .inr ⟨_, by simpa using stepped⟩
  | obtained _ _ _ stepped =>
      exact .inr ⟨_, by simpa [connectTunnel, List.filterMap_cons] using stepped⟩

end

open Reordering

/-- A run as the core alone and the connection manager alone take part in it. -/
structure Refines (parse : String → Except String SocketAddr) (config : AppConfig)
    (history : ProxyHistory S) (handle : ProxyHandle S) : Prop where
  core : ∃ cores, CoreRun S config cores (handle.map (·.core)) ∧
    outputsOf cores = (outputsOf history).filterMap ProxyOutput.ofCore ∧
    (eventsOf cores).filter (·.session = none) = (eventsOf history).filterMap ProxyEvent.call
  manager : ∃ calls manager, ManagerRun parse calls manager ∧
    (∀ proxy, handle = some proxy → proxy.connManager = manager) ∧
    outputsOf calls = (outputsOf history).filterMap ProxyOutput.ofManager

section
variable {parse : String → Except String SocketAddr} {config : AppConfig}
  {history : ProxyHistory S} {handle handle' : ProxyHandle S} {proxy : ProxyCore S}
  {event : ProxyEvent} {outputs : List ProxyOutput}

theorem Handle.steps_none (event : Event) : Handle.Steps (S := S) none event [] none := by
  cases event <;> rfl

theorem Refines.step (refines : Refines parse config history (some proxy))
    (moved : proxy.Moves parse event outputs handle') :
    Refines parse config (⟨some proxy, event, outputs, handle'⟩ :: history) handle' := by
  obtain ⟨⟨cores, ⟨first, created, path⟩, said, called⟩, calls, manager, managed, same, returned⟩ :=
    refines
  constructor
  · obtain ⟨silent, unmoved, quiet⟩ | ⟨e, stepped, mine⟩ := moved.core_step
    · refine ⟨cores, ⟨first, created, unmoved ▸ path⟩, ?_, ?_⟩
      · simp [said, quiet]
      · simp [called, silent]
    · refine ⟨_, ⟨first, created, path.next stepped⟩, by simp [said], ?_⟩
      simp only [eventsOf_cons, List.filter_append, List.filterMap_append, called,
        List.filterMap_cons, List.filterMap_nil, mine]
      by_cases control : e.session = none <;> simp [control]
  · cases handle' with
    | none =>
        cases moved with
        | stopped => exact ⟨calls, manager, managed, nofun, by simpa using returned⟩
    | some proxy' =>
        cases same proxy rfl
        obtain ⟨unmoved, quiet⟩ | ⟨e, stepped⟩ := moved.manager_step
        · refine ⟨calls, _, managed, ?_, by simp [returned, quiet]⟩
          rintro _ ⟨⟩
          exact unmoved
        · refine ⟨_, _, Runs.Run.next managed stepped, ?_, by simp [returned]⟩
          rintro _ ⟨⟩
          rfl

/-- A core that is gone makes no further steps. -/
theorem Refines.gone (refines : Refines parse config history (none : ProxyHandle S)) :
    Refines parse config (⟨none, event, [], none⟩ :: history) none := by
  obtain ⟨⟨cores, ⟨first, created, path⟩, said, called⟩, calls, manager, managed, _, returned⟩ :=
    refines
  refine ⟨?_, calls, manager, managed, nofun, by simp [returned]⟩
  cases mine : event.call with
  | none => exact ⟨cores, ⟨first, created, path⟩, by simp [said], by simp [called, mine]⟩
  | some e =>
      refine ⟨_, ⟨first, created, path.next (Handle.steps_none e)⟩, by simp [said], ?_⟩
      have control : e.session = none := by
        cases event with
        | setUp => contradiction
        | core e' =>
            simp only [ProxyEvent.call, Option.ite_none_right_eq_some] at mine
            obtain ⟨control, ⟨⟩⟩ := mine
            exact control
      simp [called, mine, control]

theorem ProxyCore.new_matched (created : ProxyCore.new S config = .ok proxy) : proxy.Matched := by
  unfold ProxyCore.new at created
  cases started : CoreContext.new S config with
  | error panic =>
      rw [started] at created
      contradiction
  | ok ctx =>
      rw [started] at created
      cases created
      have fresh := CoreContext.new_runtime started
      refine ⟨⟨by simp, ?_⟩, by simp [ConnectionManager.new], by simp⟩
      intro id task live
      simp [fresh, Runtime.new] at live

theorem Refines.new (created : ProxyCore.new S config = .ok proxy) :
    Refines parse config [] (some proxy) := by
  unfold ProxyCore.new at created
  cases started : CoreContext.new S config with
  | error panic =>
      rw [started] at created
      contradiction
  | ok ctx =>
      rw [started] at created
      cases created
      refine ⟨⟨[], ⟨ctx, started, .nil⟩, rfl, rfl⟩, [], .new, .nil, ?_, rfl⟩
      rintro _ ⟨⟩
      rfl

/-- In every run of a core with its connection manager the core makes a run of its own, with the
same calls of the C side, and the manager makes one, each with the outputs that are its own; and
the set-ups match the sessions and the calls. -/
theorem ProxyRun.refines_matched (api : S.ApiLaws) (poll : S.PollLaws)
    (run : ProxyRun S parse config history handle) :
    Refines parse config history handle ∧ ∀ proxy, handle = some proxy → proxy.Matched := by
  obtain ⟨first, created, path⟩ := run
  refine path.history_invariant (P := fun history handle =>
    Refines parse config history handle ∧ ∀ proxy, handle = some proxy → proxy.Matched) ?_ ?_
  · refine ⟨.new created, ?_⟩
    rintro _ ⟨⟩
    exact ProxyCore.new_matched created
  · rintro history before event outputs after _ ⟨refines, matched⟩ stepped
    cases before with
    | none =>
        cases stepped
        exact ⟨refines.gone, nofun⟩
    | some proxy =>
        have matched := matched proxy rfl
        obtain ⟨cores, run, _⟩ := refines.core
        have sound := run.sound api poll (serves_stable api) _ rfl
        have moved := ProxyCore.step_moves api sound matched stepped
        refine ⟨refines.step moved, ?_⟩
        rintro proxy' rfl
        obtain ⟨calls, manager, managed, same, _⟩ := refines.manager
        cases same proxy rfl
        exact moved.matched sound managed.shared.locked matched

end

def ProxyCore.replay (S : Smoltcp) (parse : String → Except String SocketAddr) (config : AppConfig)
    (events : List ProxyEvent) : Option (ProxyHistory S × ProxyHandle S) :=
  match ProxyCore.new S config with
  | .ok first => Runs.replay (ProxyHandle.step parse) [] (some first) events
  | .error _ => none

theorem ProxyCore.replay_run (S : Smoltcp) (parse : String → Except String SocketAddr)
    (config : AppConfig) (events : List ProxyEvent)
    (check : ProxyHistory S → ProxyCore S → Bool)
    (passed : ((ProxyCore.replay S parse config events).any fun r => r.2.any (check r.1)) = true) :
    ∃ history proxy, ProxyRun S parse config history (some proxy) ∧ check history proxy = true := by
  obtain ⟨⟨history, handle⟩, evaluated, checked⟩ := (Option.any_eq_true _ _).mp passed
  obtain ⟨proxy, rfl, checked⟩ := (Option.any_eq_true _ _).mp checked
  unfold ProxyCore.replay at evaluated
  split at evaluated
  · rename_i first created
    exact ⟨history, proxy, ⟨first, created, Runs.replay_run .nil evaluated⟩, checked⟩
  · contradiction

def localServer (_ : String) : Except String SocketAddr := .ok (.v4 ⟨127, 0, 0, 1⟩ 443)

/-- Two clients talk to public addresses. The second one waits for the connection that the first
one makes. -/
def twoTunnels : List ProxyEvent :=
  startUp.map ProxyEvent.core ++ [
    .core (.processPacket (some (Wire.udpFrame hostAddr ⟨8, 8, 8, 8⟩ 5000 137 [1])) 0),
    .core (.processPacket (some (Wire.udpFrame hostAddr ⟨8, 8, 4, 4⟩ 5001 138 [2])) 0),
    .setUp 0 0 .begin, .setUp 1 0 .begin, .setUp 0 0 (.locked (.ok ())),
    .setUp 1 0 (.locked (.ok ())), .setUp 0 0 (.clientCreated (.ok ()))]

/-- It is made, and both get their tunnels over it. -/
def overOneConnection : List ProxyEvent :=
  twoTunnels ++ [.setUp 0 1 (.connected (.ok (.ok ()))), .setUp 1 1 (.locked (.ok ())),
    .setUp 1 2 (.tunnelConnected (.ok ())), .setUp 0 2 (.tunnelConnected (.ok ()))]

section
variable {parse : String → Except String SocketAddr} {config : AppConfig}
  {history : ProxyHistory S} {handle : ProxyHandle S} {proxy : ProxyCore S}

/-- The core with its connection manager refines the two of them: each makes a run of its own
with the outputs that are its own, the core with the same calls of the C side. -/
theorem ProxyRun.core_and_manager (api : S.ApiLaws) (poll : S.PollLaws)
    (run : ProxyRun S parse config history handle) :
    (∃ cores, CoreRun S config cores (handle.map (·.core)) ∧
      outputsOf cores = (outputsOf history).filterMap ProxyOutput.ofCore ∧
      (eventsOf cores).filter (·.session = none) =
        (eventsOf history).filterMap ProxyEvent.call) ∧
    ∃ calls manager, ManagerRun parse calls manager ∧
      (∀ proxy, handle = some proxy → proxy.connManager = manager) ∧
      outputsOf calls = (outputsOf history).filterMap ProxyOutput.ofManager :=
  have refines := (run.refines_matched api poll).1
  ⟨refines.core, refines.manager⟩

/-- In every state that is reached the lock of the connection is held, if it is, by a call that
one live session awaits, a proxied one that opens; and a session has its tunnel exactly from the
time it goes on. -/
theorem ProxyRun.lock_held_by_live (api : S.ApiLaws) (poll : S.PollLaws)
    (run : ProxyRun S parse config history (some proxy)) :
    (∀ call, proxy.connManager.lockedBy = some call → ∃ id task,
      proxy.setUps.lookup id = some (.handle call) ∧
      proxy.core.runtime.tasks.lookup id = some task ∧ task.isDirect = false ∧
      task.isOpening = true ∧
      ∀ other, proxy.setUps.lookup other = some (.handle call) → other = id) ∧
    (∀ id setUp, proxy.setUps.lookup id = some setUp → ∃ task,
      proxy.core.runtime.tasks.lookup id = some task ∧ task.isDirect = false ∧
      task.isOpening = !setUp.isDone) ∧
    ∀ id task, proxy.core.runtime.tasks.lookup id = some task → task.isDirect = false →
      task.relays = true → ∃ carrier, proxy.setUps.lookup id = some (.done carrier) := by
  obtain ⟨refines, matched⟩ := run.refines_matched api poll
  have matched := matched proxy rfl
  obtain ⟨calls, manager, managed, same, _⟩ := refines.manager
  cases same proxy rfl
  refine ⟨?_, fun _ _ => matched.aligned.opening, fun _ _ => matched.aligned.relaying⟩
  intro call held
  obtain ⟨config, phase, found, _⟩ := (managed.shared.locked.lock call).mp held
  have awaited : ¬ ∀ id, proxy.setUps.lookup id ≠ some (.handle call) := by
    rw [← matched.paired.awaited, found]
    exact nofun
  obtain ⟨id, waits⟩ := not_forall_not.mp awaited
  obtain ⟨task, live, proxied, opening⟩ := matched.opens waits rfl
  exact ⟨id, task, waits, live, proxied, opening, fun _ => matched.paired.alone waits⟩

theorem core_and_manager_two : ∃ history proxy,
    ProxyRun Reference.stack localServer quicConfig history (some proxy) ∧ history.length = 13 ∧
      ∃ cores calls, CoreRun Reference.stack quicConfig cores (some proxy.core) ∧
        ManagerRun localServer calls proxy.connManager := by
  obtain ⟨history, proxy, run, checked⟩ := ProxyCore.replay_run Reference.stack localServer
    quicConfig overOneConnection (fun history _ => history.length == 13) (by decide +kernel)
  obtain ⟨⟨cores, core, _⟩, calls, manager, managed, same, _⟩ :=
    run.core_and_manager Reference.api Reference.poll_laws
  exact ⟨history, proxy, run, beq_iff_eq.mp checked, cores, calls, core, same proxy rfl ▸ managed⟩

theorem lock_held_by_live_first : ∃ history proxy,
    ProxyRun Reference.stack localServer quicConfig history (some proxy) ∧
      proxy.connManager.lockedBy = some 0 ∧ ∃ id, proxy.setUps.lookup id = some (.handle 0) := by
  obtain ⟨history, proxy, run, checked⟩ := ProxyCore.replay_run Reference.stack localServer
    quicConfig twoTunnels (fun _ proxy => proxy.connManager.lockedBy == some 0) (by decide +kernel)
  have held := beq_iff_eq.mp checked
  obtain ⟨id, _, waits, _⟩ := (run.lock_held_by_live Reference.api Reference.poll_laws).1 0 held
  exact ⟨history, proxy, run, held, id, waits⟩

end

end StunnelIos
