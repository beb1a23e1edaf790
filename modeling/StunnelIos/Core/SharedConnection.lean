import StunnelIos.Core.Connection
import StunnelIos.Core.Runs

/-! All proxied sessions share one connection. The lock is held from the look at the
cached handle to the store of a new one, so what the holder saw is still true when it
acts on it, whatever other calls do and whoever disappears. -/
namespace StunnelIos

abbrev CallHistory := Runs.History ConnectionManager CallEvent (List CallOutput)

/-- A run of a connection manager from its creation: any number of calls, in any
interleaving of their steps. -/
def ManagerRun (parse : String → Except String SocketAddr) (history : CallHistory)
    (manager : ConnectionManager) : Prop :=
  Runs.Run (fun m event outputs m' => m.step parse event = (m', outputs)) .new history manager

def CallEvent.caller : CallEvent → Option CallId
  | .call _ => none
  | .locked id _ | .clientCreated id _ | .connected id _ | .cancel id => some id

/-- Everything a step can do to a connection manager. -/
inductive ConnectionManager.Moves (manager : ConnectionManager) :
    CallEvent → List CallOutput → ConnectionManager → Prop where
  | called {config} : manager.Moves (.call config) []
      { manager with
        calls := manager.calls.insert manager.nextCall ⟨config, .locking⟩
        nextCall := manager.nextCall + 1 }
  | idle {event} : manager.Moves event [] manager
  | reused {id keepAlive config handle} :
      manager.calls.lookup id = some ⟨config, .locking⟩ → manager.lockedBy = none →
      manager.s2nHandle = some handle →
      manager.Moves (.locked id keepAlive) [.checked id handle (.ok ()), .returned id (.ok handle)]
        (manager.finish id)
  | broken {id keepAlive config handle error} :
      manager.calls.lookup id = some ⟨config, .locking⟩ → manager.lockedBy = none →
      manager.s2nHandle = some handle →
      manager.Moves (.locked id keepAlive) [.checked id handle (.error error)]
        (manager.suspend id config .initializing)
  | absent {id keepAlive config} :
      manager.calls.lookup id = some ⟨config, .locking⟩ → manager.lockedBy = none →
      manager.s2nHandle = none →
      manager.Moves (.locked id keepAlive) [] (manager.suspend id config .initializing)
  | failed {event id config phase error client} : event.caller = some id →
      manager.calls.lookup id = some ⟨config, phase⟩ → phase ≠ .locking →
      manager.Moves event [.returned id (.error error)]
        { manager.finish id with s2nClient := client }
  | connect {id result config client addr} :
      manager.calls.lookup id = some ⟨config, .initializing⟩ →
      manager.Moves (.clientCreated id result)
        [.connect id manager.nextConnection addr config.serverName]
        { manager.suspend id config (.connecting manager.nextConnection) with
          s2nClient := client, nextConnection := manager.nextConnection + 1 }
  | stored {id result config connection} :
      manager.calls.lookup id = some ⟨config, .connecting connection⟩ →
      manager.Moves (.connected id result) [.returned id (.ok ⟨connection⟩)]
        { manager.finish id with s2nHandle := some ⟨connection⟩ }
  | cancelled {id call} : manager.calls.lookup id = some call →
      manager.Moves (.cancel id) [.cancelled id] (manager.cancel id)

section
variable {parse : String → Except String SocketAddr} {manager manager' : ConnectionManager}
  {event : CallEvent} {outputs : List CallOutput} {history : CallHistory}

/-- The inversion of one step. -/
theorem ConnectionManager.step_moves (stepped : manager.step parse event = (manager', outputs)) :
    manager.Moves event outputs manager' := by
  cases event with
  | call config =>
      cases stepped
      exact .called
  | locked id keepAlive =>
      simp only [ConnectionManager.step] at stepped
      split at stepped
      · rename_i config waits free
        unfold ConnectionManager.withLock at stepped
        split at stepped
        · split at stepped
          · cases stepped
            exact .reused waits free ‹_›
          · cases stepped
            exact .broken waits free ‹_›
        · cases stepped
          exact .absent waits free ‹_›
      · cases stepped
        exact .idle
  | clientCreated id result =>
      simp only [ConnectionManager.step] at stepped
      split at stepped
      · rename_i config waits
        unfold ConnectionManager.withClient at stepped
        split at stepped
        · cases stepped
          exact .failed rfl waits (by simp)
        · dsimp only at stepped
          split at stepped
          · cases stepped
            exact .failed rfl waits (by simp)
          · cases stepped
            exact .connect waits
      · cases stepped
        exact .idle
  | connected id result =>
      simp only [ConnectionManager.step] at stepped
      split at stepped
      · rename_i config connection waits
        unfold ConnectionManager.withConnection at stepped
        split at stepped
        · cases stepped
          exact .failed rfl waits (by simp)
        · cases stepped
          exact .failed rfl waits (by simp)
        · cases stepped
          exact .stored waits
      · cases stepped
        exact .idle
  | cancel id =>
      simp only [ConnectionManager.step] at stepped
      split at stepped
      · cases stepped
        exact .cancelled ‹_›
      · cases stepped
        exact .idle

/-- The lock is with the one call that is past it, and calls have their own numbers. -/
structure ConnectionManager.Locked (manager : ConnectionManager) : Prop where
  lock : ∀ id, manager.lockedBy = some id ↔
    ∃ config phase, manager.calls.lookup id = some ⟨config, phase⟩ ∧ phase ≠ .locking
  fresh : ∀ id call, manager.calls.lookup id = some call → id < manager.nextCall

theorem ConnectionManager.Locked.holder (locked : manager.Locked) {id : CallId}
    {config : AppConfig} {phase : CallPhase}
    (found : manager.calls.lookup id = some ⟨config, phase⟩) (past : phase ≠ .locking) :
    manager.lockedBy = some id :=
  (locked.lock id).mpr ⟨config, phase, found, past⟩

theorem ConnectionManager.Locked.unique (locked : manager.Locked) {id other : CallId}
    {config config' : AppConfig} {phase phase' : CallPhase}
    (found : manager.calls.lookup id = some ⟨config, phase⟩) (past : phase ≠ .locking)
    (found' : manager.calls.lookup other = some ⟨config', phase'⟩) (past' : phase' ≠ .locking) :
    id = other :=
  Option.some.inj ((locked.holder found past).symm.trans (locked.holder found' past'))

theorem ConnectionManager.Locked.finish (locked : manager.Locked) {id : CallId}
    (only : ∀ other, manager.lockedBy = some other → other = id) : (manager.finish id).Locked := by
  constructor
  · intro other
    constructor
    · intro held
      contradiction
    · rintro ⟨config, phase, found, past⟩
      obtain ⟨apart, found⟩ := AList.lookup_erase_eq_some.mp found
      exact absurd (only other (locked.holder found past)) apart
  · intro other call found
    exact locked.fresh other call (AList.lookup_erase_eq_some.mp found).2

theorem ConnectionManager.Locked.suspend (locked : manager.Locked) {id : CallId}
    {config : AppConfig} {phase : CallPhase} (known : id < manager.nextCall)
    (past : phase ≠ .locking) (only : ∀ other, manager.lockedBy = some other → other = id) :
    (manager.suspend id config phase).Locked := by
  constructor
  · intro other
    constructor
    · intro held
      obtain rfl := Option.some.inj held
      exact ⟨config, phase, AList.lookup_insert _, past⟩
    · rintro ⟨config', phase', found, past'⟩
      obtain ⟨rfl, _⟩ | ⟨_, found⟩ := AList.lookup_insert_eq_some.mp found
      · rfl
      · obtain rfl := only other (locked.holder found past')
        rfl
  · intro other call found
    obtain ⟨rfl, _⟩ | ⟨_, found⟩ := AList.lookup_insert_eq_some.mp found
    · exact known
    · exact locked.fresh other call found

theorem ConnectionManager.Locked.called (locked : manager.Locked) (config : AppConfig) :
    { manager with
      calls := manager.calls.insert manager.nextCall ⟨config, .locking⟩
      nextCall := manager.nextCall + 1 }.Locked := by
  constructor
  · intro other
    rw [show (_ ↔ _) from locked.lock other]
    constructor
    · rintro ⟨config, phase, found, past⟩
      have apart := Nat.ne_of_lt (locked.fresh other _ found)
      exact ⟨config, phase, AList.lookup_insert_eq_some.mpr (.inr ⟨apart, found⟩), past⟩
    · rintro ⟨config, phase, found, past⟩
      obtain ⟨_, same⟩ | ⟨_, found⟩ := AList.lookup_insert_eq_some.mp found
      · cases same
        contradiction
      · exact ⟨config, phase, found, past⟩
  · intro other call found
    obtain ⟨rfl, _⟩ | ⟨_, found⟩ := AList.lookup_insert_eq_some.mp found
    · exact Nat.lt_succ_self _
    · exact Nat.lt_succ_of_lt (locked.fresh other call found)

theorem ConnectionManager.Locked.cancel (locked : manager.Locked) (id : CallId) :
    (manager.cancel id).Locked := by
  constructor
  · intro other
    simp only [ConnectionManager.cancel, AList.lookup_erase_eq_some]
    split
    · rename_i held
      constructor
      · intro impossible
        contradiction
      · rintro ⟨config, phase, ⟨apart, found⟩, past⟩
        exact absurd (Option.some.inj ((locked.holder found past).symm.trans held)) apart
    · rename_i other_holds
      rw [locked.lock other]
      constructor
      · rintro ⟨config, phase, found, past⟩
        refine ⟨config, phase, ⟨?_, found⟩, past⟩
        rintro rfl
        exact other_holds (locked.holder found past)
      · rintro ⟨config, phase, ⟨_, found⟩, past⟩
        exact ⟨config, phase, found, past⟩
  · intro other call found
    exact locked.fresh other call (AList.lookup_erase_eq_some.mp found).2

theorem ConnectionManager.Moves.locked (moved : manager.Moves event outputs manager')
    (locked : manager.Locked) : manager'.Locked := by
  have free : manager.lockedBy = none → ∀ id other, manager.lockedBy = some other → other = id := by
    intro free id other held
    rw [free] at held
    contradiction
  have mine : ∀ {id config phase}, manager.calls.lookup id = some ⟨config, phase⟩ →
      phase ≠ .locking → ∀ other, manager.lockedBy = some other → other = id := by
    intro id config phase found past other held
    exact Option.some.inj (held.symm.trans (locked.holder found past))
  cases moved with
  | called => exact locked.called _
  | idle => exact locked
  | reused _ unlocked _ => exact locked.finish (free unlocked _)
  | broken waits unlocked _ =>
      exact locked.suspend (locked.fresh _ _ waits) (by simp) (free unlocked _)
  | absent waits unlocked _ =>
      exact locked.suspend (locked.fresh _ _ waits) (by simp) (free unlocked _)
  | failed _ waits past =>
      have done := locked.finish (mine waits past)
      exact ⟨done.lock, done.fresh⟩
  | @connect id result config client addr waits =>
      have connecting : (manager.suspend id config (.connecting manager.nextConnection)).Locked :=
        locked.suspend (locked.fresh _ _ waits) (by simp) (mine waits (by simp))
      exact ⟨connecting.lock, connecting.fresh⟩
  | stored waits =>
      have done := locked.finish (mine waits (by simp))
      exact ⟨done.lock, done.fresh⟩
  | @cancelled id => exact locked.cancel id

end

/-! What a run has shown of the handles. -/

def Returned (handle : S2nHandle) (history : CallHistory) : Prop :=
  ∃ x ∈ history, ∃ id, CallOutput.returned id (.ok handle) ∈ x.output

def GaveUp (id : CallId) (history : CallHistory) : Prop :=
  ∃ x ∈ history, CallOutput.cancelled id ∈ x.output ∨
    ∃ error, CallOutput.returned id (.error error) ∈ x.output

/-- A handle has failed a check. -/
def CheckFailed (handle : S2nHandle) (history : CallHistory) : Prop :=
  ∃ x ∈ history, ∃ id error, CallOutput.checked id handle (.error error) ∈ x.output

/-- The last check of all was this call's, of this handle, which failed it. -/
def JustFailed (id : CallId) (handle : S2nHandle) : CallHistory → Prop
  | [] => False
  | x :: earlier => (∃ error, CallOutput.checked id handle (.error error) ∈ x.output) ∨
      ((∀ other handle' answer, CallOutput.checked other handle' answer ∉ x.output) ∧
        JustFailed id handle earlier)

/-- A handle had failed a check when a connect began. -/
def FailedBeforeConnect (handle : S2nHandle) (connection : Nat) : CallHistory → Prop
  | [] => False
  | x :: earlier =>
      ((∃ id addr serverName, CallOutput.connect id connection addr serverName ∈ x.output) ∧
          CheckFailed handle earlier) ∨
        FailedBeforeConnect handle connection earlier

section
variable {history : CallHistory} {x : Runs.Transition ConnectionManager CallEvent (List CallOutput)}
  {id : CallId} {handle : S2nHandle}

theorem Returned.cons_iff : Returned handle (x :: history) ↔
    (∃ id, CallOutput.returned id (.ok handle) ∈ x.output) ∨ Returned handle history := by
  simp only [Returned, List.mem_cons, exists_eq_or_imp]

theorem GaveUp.cons_iff : GaveUp id (x :: history) ↔
    (CallOutput.cancelled id ∈ x.output ∨
      ∃ error, CallOutput.returned id (.error error) ∈ x.output) ∨ GaveUp id history := by
  simp only [GaveUp, List.mem_cons, exists_eq_or_imp]

theorem CheckFailed.cons (failed : CheckFailed handle history) : CheckFailed handle (x :: history) := by
  obtain ⟨y, member, shown⟩ := failed
  exact ⟨y, List.mem_cons_of_mem _ member, shown⟩

theorem JustFailed.checkFailed (failed : JustFailed id handle history) :
    CheckFailed handle history := by
  induction history with
  | nil => exact failed.elim
  | cons x earlier ih =>
      obtain ⟨error, shown⟩ | ⟨_, before⟩ := failed
      · exact ⟨x, List.mem_cons_self, id, error, shown⟩
      · exact (ih before).cons

theorem FailedBeforeConnect.checkFailed {connection : Nat}
    (failed : FailedBeforeConnect handle connection history) : CheckFailed handle history := by
  induction history with
  | nil => exact failed.elim
  | cons x earlier ih =>
      obtain ⟨_, before⟩ | before := failed
      · exact before.cons
      · exact (ih before).cons

end

/-- What every run keeps: the lock discipline, the standing of each handle that was ever
returned, and that the steps of a call that has given up changed nothing. -/
structure Shared (history : CallHistory) (manager : ConnectionManager) : Prop where
  locked : manager.Locked
  none_returned : manager.s2nHandle = none → ∀ handle, ¬ Returned handle history
  superseded : ∀ cached, manager.s2nHandle = some cached → ∀ handle, Returned handle history →
    handle = cached ∨ FailedBeforeConnect handle cached.connection history
  broken : ∀ id config cached, manager.calls.lookup id = some ⟨config, .initializing⟩ →
    manager.s2nHandle = some cached → JustFailed id cached history
  replacing : ∀ id config connection,
    manager.calls.lookup id = some ⟨config, .connecting connection⟩ →
    ∀ handle, Returned handle history → FailedBeforeConnect handle connection history
  ended : ∀ id, GaveUp id history → id < manager.nextCall ∧ manager.calls.lookup id = none
  unchanged : ∀ x ∈ history, ∀ id, x.event.caller = some id →
    x.after.s2nHandle = x.before.s2nHandle ∨
      (id < manager.nextCall ∧ manager.calls.lookup id = none ∧ ¬ GaveUp id history)

section
variable {manager manager' : ConnectionManager} {event : CallEvent} {outputs : List CallOutput}
  {history : CallHistory} {id : CallId}

theorem ConnectionManager.Moves.gone (moved : manager.Moves event outputs manager')
    (known : id < manager.nextCall) (absent : manager.calls.lookup id = none) :
    id < manager'.nextCall ∧ manager'.calls.lookup id = none := by
  have others : ∀ {other call}, manager.calls.lookup other = some call → id ≠ other := by
    rintro other call found rfl
    rw [absent] at found
    contradiction
  have erased : ∀ other, (manager.calls.erase other).lookup id = none := by
    intro other
    by_cases same : id = other
    · rw [same, AList.lookup_erase]
    · rw [AList.lookup_erase_ne same, absent]
  cases moved with
  | called =>
      exact ⟨Nat.lt_succ_of_lt known,
        (AList.lookup_insert_ne (Nat.ne_of_lt known)).trans absent⟩
  | idle => exact ⟨known, absent⟩
  | reused | failed | stored | cancelled => exact ⟨known, erased _⟩
  | broken waits | absent waits | connect waits =>
      exact ⟨known, (AList.lookup_insert_ne (others waits)).trans absent⟩

theorem ConnectionManager.Moves.gaveUp (moved : manager.Moves event outputs manager')
    (locked : manager.Locked)
    (gave_up : CallOutput.cancelled id ∈ outputs ∨
      ∃ error, CallOutput.returned id (.error error) ∈ outputs) :
    manager.calls.lookup id ≠ none ∧ id < manager'.nextCall ∧ manager'.calls.lookup id = none := by
  cases moved with
  | called | idle | reused | broken | absent | connect | stored => simp at gave_up
  | failed _ waits =>
      obtain rfl : id = _ := by simpa using gave_up
      exact ⟨by simp [waits], locked.fresh _ _ waits, AList.lookup_erase _ _⟩
  | cancelled waits =>
      obtain rfl : id = _ := by simpa using gave_up
      exact ⟨by simp [waits], locked.fresh _ _ waits, AList.lookup_erase _ _⟩

/-- A call past the lock was there before and nothing was seen of the handle, or it has
got the lock in this step, or it has begun to connect. -/
theorem ConnectionManager.Moves.past_cases (moved : manager.Moves event outputs manager')
    (locked : manager.Locked) {config : AppConfig} {phase : CallPhase}
    (found : manager'.calls.lookup id = some ⟨config, phase⟩) (past : phase ≠ .locking) :
    (manager.calls.lookup id = some ⟨config, phase⟩ ∧ manager'.s2nHandle = manager.s2nHandle ∧
      (outputs = [] ∨ ∃ other, outputs = [.cancelled other])) ∨
    (phase = .initializing ∧ manager'.s2nHandle = manager.s2nHandle ∧
      ∀ cached, manager.s2nHandle = some cached →
        ∃ error, outputs = [.checked id cached (.error error)]) ∨
    ∃ addr, manager.calls.lookup id = some ⟨config, .initializing⟩ ∧
      phase = .connecting manager.nextConnection ∧
      outputs = [.connect id manager.nextConnection addr config.serverName] := by
  have alone : ∀ {other : CallId} {config' : AppConfig} {phase' : CallPhase},
      manager.calls.lookup other = some ⟨config', phase'⟩ → phase' ≠ .locking →
      manager.calls.lookup id = some ⟨config, phase⟩ → id = other :=
    fun waits past' mine => locked.unique mine past waits past'
  have locks : manager.lockedBy = none → manager.calls.lookup id ≠ some ⟨config, phase⟩ := by
    intro free mine
    have holds := locked.holder mine past
    rw [free] at holds
    contradiction
  cases moved with
  | called =>
      obtain ⟨_, same⟩ | ⟨_, found⟩ := AList.lookup_insert_eq_some.mp found
      · cases same
        contradiction
      · exact .inl ⟨found, rfl, .inl rfl⟩
  | idle => exact .inl ⟨found, rfl, .inl rfl⟩
  | reused _ free _ => exact absurd (AList.lookup_erase_eq_some.mp found).2 (locks free)
  | broken _ free held =>
      obtain ⟨rfl, same⟩ | ⟨_, found⟩ := AList.lookup_insert_eq_some.mp found
      · cases same
        refine .inr (.inl ⟨rfl, rfl, ?_⟩)
        intro cached held'
        cases held.symm.trans held'
        exact ⟨_, rfl⟩
      · exact absurd found (locks free)
  | absent _ free empty =>
      obtain ⟨_, same⟩ | ⟨_, found⟩ := AList.lookup_insert_eq_some.mp found
      · cases same
        refine .inr (.inl ⟨rfl, rfl, ?_⟩)
        intro cached held
        cases empty.symm.trans held
      · exact absurd found (locks free)
  | failed _ waits past' =>
      obtain ⟨apart, found⟩ := AList.lookup_erase_eq_some.mp found
      exact absurd (alone waits past' found) apart
  | connect waits =>
      obtain ⟨rfl, same⟩ | ⟨apart, found⟩ := AList.lookup_insert_eq_some.mp found
      · cases same
        exact .inr (.inr ⟨_, waits, rfl, rfl⟩)
      · exact absurd (alone waits (by simp) found) apart
  | stored waits =>
      obtain ⟨apart, found⟩ := AList.lookup_erase_eq_some.mp found
      exact absurd (alone waits (by simp) found) apart
  | cancelled _ =>
      exact .inl ⟨(AList.lookup_erase_eq_some.mp found).2, rfl, .inr ⟨_, rfl⟩⟩

/-- Only a call that returns the new handle changes the cached one. -/
theorem ConnectionManager.Moves.cached_cases (moved : manager.Moves event outputs manager') :
    (manager'.s2nHandle = manager.s2nHandle ∧
      ∀ id handle, CallOutput.returned id (.ok handle) ∈ outputs →
        manager.s2nHandle = some handle) ∨
    ∃ id config connection, event.caller = some id ∧
      manager.calls.lookup id = some ⟨config, .connecting connection⟩ ∧
      manager'.s2nHandle = some ⟨connection⟩ ∧ outputs = [.returned id (.ok ⟨connection⟩)] := by
  cases moved with
  | called | idle | broken | absent | failed | connect | cancelled => exact .inl ⟨rfl, by simp⟩
  | reused _ _ cached =>
      refine .inl ⟨rfl, ?_⟩
      intro id handle shown
      obtain ⟨_, rfl⟩ : id = _ ∧ handle = _ := by simpa using shown
      exact cached
  | stored waits => exact .inr ⟨_, _, _, rfl, waits, rfl, rfl⟩

namespace Shared

theorem none_returned_step (shared : Shared history manager)
    (moved : manager.Moves event outputs manager') (empty : manager'.s2nHandle = none)
    (handle : S2nHandle) : ¬ Returned handle (⟨manager, event, outputs, manager'⟩ :: history) := by
  obtain ⟨same, cached⟩ | ⟨_, _, _, _, _, stored, _⟩ := moved.cached_cases
  · rw [same] at empty
    rw [Returned.cons_iff]
    rintro (⟨id, shown⟩ | before)
    · rw [cached id handle shown] at empty
      contradiction
    · exact shared.none_returned empty handle before
  · rw [stored] at empty
    contradiction

theorem superseded_step (shared : Shared history manager)
    (moved : manager.Moves event outputs manager') {cached : S2nHandle}
    (held : manager'.s2nHandle = some cached) {handle : S2nHandle}
    (returned : Returned handle (⟨manager, event, outputs, manager'⟩ :: history)) :
    handle = cached ∨ FailedBeforeConnect handle cached.connection
      (⟨manager, event, outputs, manager'⟩ :: history) := by
  rw [Returned.cons_iff] at returned
  obtain ⟨same, shows⟩ | ⟨id, config, connection, _, waits, stored, rfl⟩ := moved.cached_cases
  · rw [same] at held
    obtain ⟨id, shown⟩ | before := returned
    · exact .inl (Option.some.inj ((shows id handle shown).symm.trans held))
    · exact (shared.superseded cached held handle before).imp_right .inr
  · obtain rfl := Option.some.inj (stored.symm.trans held)
    obtain ⟨other, shown⟩ | before := returned
    · obtain ⟨_, rfl⟩ : other = id ∧ handle = ⟨connection⟩ := by simpa using shown
      exact .inl rfl
    · exact .inr (.inr (shared.replacing id config connection waits handle before))

/-- When a connect begins, every handle that was ever returned has failed a check. -/
theorem all_failed (shared : Shared history manager) {config : AppConfig}
    (waits : manager.calls.lookup id = some ⟨config, .initializing⟩) {handle : S2nHandle}
    (returned : Returned handle history) : CheckFailed handle history := by
  cases held : manager.s2nHandle with
  | none => exact absurd returned (shared.none_returned held handle)
  | some cached =>
      obtain rfl | before := shared.superseded cached held handle returned
      · exact (shared.broken id config _ waits held).checkFailed
      · exact before.checkFailed

theorem broken_step (shared : Shared history manager)
    (moved : manager.Moves event outputs manager') {config : AppConfig} {cached : S2nHandle}
    (found : manager'.calls.lookup id = some ⟨config, .initializing⟩)
    (held : manager'.s2nHandle = some cached) :
    JustFailed id cached (⟨manager, event, outputs, manager'⟩ :: history) := by
  obtain ⟨before, same, silent⟩ | ⟨_, same, fails⟩ | ⟨_, _, other, _⟩ :=
    moved.past_cases shared.locked found (by simp)
  · refine .inr ⟨?_, shared.broken id config cached before (same ▸ held)⟩
    obtain rfl | ⟨_, rfl⟩ := silent <;> simp
  · obtain ⟨error, rfl⟩ := fails cached (same ▸ held)
    exact .inl ⟨error, List.mem_cons_self⟩
  · contradiction

theorem replacing_step (shared : Shared history manager)
    (moved : manager.Moves event outputs manager') {config : AppConfig} {connection : Nat}
    (found : manager'.calls.lookup id = some ⟨config, .connecting connection⟩) {handle : S2nHandle}
    (returned : Returned handle (⟨manager, event, outputs, manager'⟩ :: history)) :
    FailedBeforeConnect handle connection (⟨manager, event, outputs, manager'⟩ :: history) := by
  rw [Returned.cons_iff] at returned
  obtain ⟨before, _, silent⟩ | ⟨other, _, _⟩ | ⟨addr, waits, phase, rfl⟩ :=
    moved.past_cases shared.locked found (by simp)
  · refine .inr (shared.replacing id config connection before handle ?_)
    obtain rfl | ⟨_, rfl⟩ := silent <;> simpa using returned
  · contradiction
  · cases phase
    exact .inl ⟨⟨_, _, _, List.mem_cons_self⟩, shared.all_failed waits (by simpa using returned)⟩

theorem ended_step (shared : Shared history manager)
    (moved : manager.Moves event outputs manager')
    (gave_up : GaveUp id (⟨manager, event, outputs, manager'⟩ :: history)) :
    id < manager'.nextCall ∧ manager'.calls.lookup id = none := by
  obtain now | before := GaveUp.cons_iff.mp gave_up
  · exact (moved.gaveUp shared.locked now).2
  · obtain ⟨known, absent⟩ := shared.ended id before
    exact moved.gone known absent

theorem unchanged_step (shared : Shared history manager)
    (moved : manager.Moves event outputs manager')
    {x : Runs.Transition ConnectionManager CallEvent (List CallOutput)}
    (taken : x ∈ (⟨manager, event, outputs, manager'⟩ :: history : CallHistory))
    (caller : x.event.caller = some id) :
    x.after.s2nHandle = x.before.s2nHandle ∨
      (id < manager'.nextCall ∧ manager'.calls.lookup id = none ∧
        ¬ GaveUp id (⟨manager, event, outputs, manager'⟩ :: history)) := by
  rcases List.mem_cons.mp taken with rfl | before
  · obtain ⟨same, _⟩ | ⟨other, config, connection, called, waits, _, rfl⟩ := moved.cached_cases
    · exact .inl same
    · obtain rfl := Option.some.inj (caller.symm.trans called)
      cases moved with
      | stored _ =>
          refine .inr ⟨shared.locked.fresh _ _ waits, AList.lookup_erase _ _, ?_⟩
          rw [GaveUp.cons_iff]
          rintro (now | earlier)
          · simp at now
          · rw [(shared.ended _ earlier).2] at waits
            contradiction
  · obtain same | ⟨known, absent, kept⟩ := shared.unchanged x before id caller
    · exact .inl same
    · obtain ⟨known', absent'⟩ := moved.gone known absent
      refine .inr ⟨known', absent', ?_⟩
      rw [GaveUp.cons_iff]
      rintro (now | earlier)
      · exact (moved.gaveUp shared.locked now).1 absent
      · exact kept earlier

theorem step (shared : Shared history manager) (moved : manager.Moves event outputs manager') :
    Shared (⟨manager, event, outputs, manager'⟩ :: history) manager' :=
  ⟨moved.locked shared.locked, shared.none_returned_step moved,
    fun _ held _ => shared.superseded_step moved held,
    fun _ _ _ => shared.broken_step moved, fun _ _ _ found _ => shared.replacing_step moved found,
    fun _ => shared.ended_step moved, fun _ taken _ => shared.unchanged_step moved taken⟩

theorem new : Shared [] .new := by
  refine ⟨⟨?_, ?_⟩, ?_, ?_, ?_, ?_, ?_, ?_⟩ <;>
    simp [ConnectionManager.new, Returned, GaveUp]

end Shared

theorem ManagerRun.shared {parse : String → Except String SocketAddr}
    (run : ManagerRun parse history manager) : Shared history manager :=
  Runs.Run.history_invariant run Shared.new fun _ shared stepped =>
    shared.step (ConnectionManager.step_moves stepped)

end

section
variable (x : Runs.Transition ConnectionManager CallEvent (List CallOutput)) (earlier : CallHistory)

/-- A connect begins only without a cached handle, or when the call has just seen the
cached one fail. -/
def ReconnectsWhenBroken : Prop :=
  ∀ id connection addr serverName,
    CallOutput.connect id connection addr serverName ∈ x.output →
    x.before.s2nHandle = none ∨
      ∃ cached, x.before.s2nHandle = some cached ∧ JustFailed id cached earlier

def ReturnsCached : Prop :=
  ∀ id handle, CallOutput.returned id (.ok handle) ∈ x.output → x.after.s2nHandle = some handle

/-- A handle of another connection than one returned before has taken its place only
after a failed check. -/
def SupersedesFailed : Prop :=
  ∀ id handle, CallOutput.returned id (.ok handle) ∈ x.output →
    ∀ previous, Returned previous earlier → previous.connection ≠ handle.connection →
      FailedBeforeConnect previous handle.connection earlier

end

section
variable {parse : String → Except String SocketAddr} {history : CallHistory}
  {manager manager' : ConnectionManager} {event : CallEvent} {outputs : List CallOutput}

theorem Shared.reconnects (shared : Shared history manager)
    (moved : manager.Moves event outputs manager') :
    ReconnectsWhenBroken ⟨manager, event, outputs, manager'⟩ history := by
  intro id connection addr serverName shown
  cases moved with
  | called | idle | reused | broken | absent | failed | stored | cancelled => simp at shown
  | connect waits =>
      obtain ⟨rfl, _⟩ : id = _ ∧ _ := by simpa using shown
      cases held : manager.s2nHandle with
      | none => exact .inl rfl
      | some cached => exact .inr ⟨cached, rfl, shared.broken _ _ cached waits held⟩

theorem ConnectionManager.Moves.returns (moved : manager.Moves event outputs manager') :
    ReturnsCached ⟨manager, event, outputs, manager'⟩ := by
  intro id handle shown
  obtain ⟨same, shows⟩ | ⟨other, _, connection, _, _, stored, rfl⟩ := moved.cached_cases
  · exact same.trans (shows id handle shown)
  · obtain ⟨_, rfl⟩ : id = other ∧ handle = ⟨connection⟩ := by simpa using shown
    exact stored

theorem Shared.supersedes (shared : Shared history manager)
    (moved : manager.Moves event outputs manager') :
    SupersedesFailed ⟨manager, event, outputs, manager'⟩ history := by
  intro id handle shown previous returned other
  obtain ⟨_, shows⟩ | ⟨owner, config, connection, _, waits, _, rfl⟩ := moved.cached_cases
  · obtain rfl | before := shared.superseded handle (shows id handle shown) previous returned
    · contradiction
    · exact before
  · obtain ⟨_, rfl⟩ : id = owner ∧ handle = ⟨connection⟩ := by simpa using shown
    exact shared.replacing owner config connection waits previous returned

/-- In every run at most one call is connecting; a connect begins only for want of a
good handle; what is returned is cached; a later connection means that the earlier one
had failed before; and a call that fails or is dropped has changed nothing. -/
theorem one_shared_connection (run : ManagerRun parse history manager) :
    (∀ id id' config config' connection connection',
      manager.calls.lookup id = some ⟨config, .connecting connection⟩ →
      manager.calls.lookup id' = some ⟨config', .connecting connection'⟩ → id = id') ∧
    Runs.Throughout (fun x earlier => ReconnectsWhenBroken x earlier ∧ ReturnsCached x ∧
      SupersedesFailed x earlier) history ∧
    ∀ id, GaveUp id history → ∀ x ∈ history, x.event.caller = some id →
      x.after.s2nHandle = x.before.s2nHandle := by
  refine ⟨?_, ?_, ?_⟩
  · intro id id' config config' connection connection' found found'
    exact run.shared.locked.unique found (by simp) found' (by simp)
  · refine Runs.Run.throughout run ?_
    intro x earlier _ path stepped
    have shared : Shared earlier x.before := ManagerRun.shared path
    have moved := ConnectionManager.step_moves stepped
    exact ⟨shared.reconnects moved, moved.returns, shared.supersedes moved⟩
  · intro id gave_up x taken caller
    obtain same | ⟨_, _, kept⟩ := run.shared.unchanged x taken id caller
    · exact same
    · exact absurd gave_up kept

end

/-- A call connects; a second one finds the connection broken and fails; a third one
connects again. -/
def reconnects : List CallEvent :=
  [.call quicConfig, .call quicConfig, .locked 0 (.ok ()), .clientCreated 0 (.ok ()),
    .connected 0 (.ok (.ok ())), .locked 1 (.error "closed"), .clientCreated 1 (.ok ()),
    .call quicConfig, .connected 1 (.error "timeout"), .locked 2 (.error "closed"),
    .clientCreated 2 (.ok ()), .connected 2 (.ok (.ok ()))]

theorem one_shared_connection_reconnects : ∃ history manager,
    ManagerRun (fun _ => .ok (.v4 ⟨127, 0, 0, 1⟩ 443)) history manager ∧
      manager.s2nHandle = some ⟨2⟩ ∧
      Runs.Throughout (fun x earlier => ReconnectsWhenBroken x earlier ∧ ReturnsCached x ∧
        SupersedesFailed x earlier) history := by
  have run : ManagerRun (fun _ => .ok (.v4 ⟨127, 0, 0, 1⟩ 443)) _ _ :=
    Runs.trace_run reconnects .nil
  exact ⟨_, _, run, rfl, (one_shared_connection run).2.1⟩

end StunnelIos
