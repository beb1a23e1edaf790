import StunnelIos.Smoltcp.TcpView

/-! What the state of a passively opened socket says about its history. It starts to
listen, and goes on by happenings and by the calls of the application. -/
namespace StunnelIos

structure TcpView.Lifecycle (v : TcpView) : Prop where
  passive : v.state ≠ .synSent
  listening : v.state = .listen → v.connected = false ∧ v.reset = false
  handshaking : v.state = .listen ∨ v.state = .synReceived → v.sendQueue = []
  connecting : v.state ≠ .closed → v.state ≠ .listen → v.connected = true ∧ v.reset = false
  unacked : v.state ≠ .closed → v.state ≠ .finWait2 → v.state ≠ .timeWait → v.finAcked = false
  /-- Our FIN has been acknowledged, and with it all bytes before it. -/
  acked : v.state = .finWait2 ∨ v.state = .timeWait → v.finAcked = true ∧ v.sendQueue = []
  ended : v.state = .closed → v.reset = false →
    v.sendQueue = [] ∧ (v.connected = true → v.finAcked = true)

theorem TcpView.Lifecycle.listen (bound : IpListenEndpoint) :
    ({ TcpView.fresh with state := .listen, bound := bound } : TcpView).Lifecycle := by
  constructor <;> simp [TcpView.fresh]

theorem Happening.Edge.lifecycle {e : Happening} {v w : TcpView} (edge : Edge v e w)
    (life : v.Lifecycle) : w.Lifecycle := by
  obtain ⟨passive, listening, handshaking, connecting, unacked, acked, ended⟩ := life
  cases edge with
  | syn state | handshake state | finWhileClosing state | finLast state | finAcked state
  | finAckedClosing state | finAckedLast state | expired state | rstHandshake state =>
      constructor <;> simp_all
  | data => exact ⟨passive, listening, handshaking, connecting, unacked, acked, ended⟩
  | acked =>
      refine ⟨passive, listening, ?_, connecting, unacked, ?_, ?_⟩
      · intro state
        simp [handshaking state]
      · intro state
        simp [acked state]
      · intro state untouched
        simpa [ended state untouched] using (ended state untouched).2
  | fin state => obtain state | state := state <;> constructor <;> simp_all
  | rst => constructor <;> simp

namespace TcpView.Lifecycle
variable {v w : TcpView}

theorem follow (life : v.Lifecycle) {happenings : List Happening}
    (followed : v.follow happenings = some w) : w.Lifecycle :=
  TcpView.follow_induct followed life fun _ _ _ _ life applied =>
    (Happening.edge applied).lifecycle life

theorem close (life : v.Lifecycle) : v.close.Lifecycle := by
  obtain ⟨passive, listening, handshaking, connecting, unacked, acked, ended⟩ := life
  cases state : v.state <;> simp only [TcpView.close, state] <;> constructor <;> simp_all

theorem recv (life : v.Lifecycle) (bytes : Bytes) :
    ({ v with recvQueue := bytes } : TcpView).Lifecycle :=
  ⟨life.passive, life.listening, life.handshaking, life.connecting, life.unacked, life.acked,
    life.ended⟩

theorem send (life : v.Lifecycle) (may : v.maySend = true) (bytes : Bytes) :
    ({ v with sendQueue := v.sendQueue ++ bytes } : TcpView).Lifecycle := by
  have may : v.state = .established ∨ v.state = .closeWait := by simpa [maySend] using may
  refine ⟨life.passive, life.listening, ?_, life.connecting, life.unacked, ?_, ?_⟩ <;>
    intro state <;> rcases may with may | may <;> simp [may] at state

end TcpView.Lifecycle

/-- The states after a FIN of the peer, and the closed one. -/
def TcpState.peerClosed (state : TcpState) : Prop :=
  state = .closeWait ∨ state = .closing ∨ state = .lastAck ∨ state = .timeWait ∨ state = .closed

/-- The states after a close of our side. -/
def TcpState.selfClosed (state : TcpState) : Prop :=
  state = .finWait1 ∨ state = .finWait2 ∨ state = .closing ∨ state = .lastAck ∨
    state = .timeWait ∨ state = .closed

namespace TcpView
variable {v w : TcpView}

theorem follow_peerClosed {happenings : List Happening} (followed : v.follow happenings = some w)
    (closed : v.state.peerClosed) : w.state.peerClosed := by
  refine follow_induct (P := fun x => x.state.peerClosed) followed closed ?_
  intro e _ a b closed applied
  cases Happening.edge applied with
  | data | acked => exact closed
  | finAckedClosing | finAckedLast | expired | rst => simp [TcpState.peerClosed]
  | syn state | handshake state | finWhileClosing state | finLast state | finAcked state
  | rstHandshake state => simp [TcpState.peerClosed, state] at closed
  | fin state => obtain state | state := state <;> simp [TcpState.peerClosed, state] at closed

theorem follow_selfClosed {happenings : List Happening} (followed : v.follow happenings = some w)
    (closed : v.state.selfClosed) : w.state.selfClosed := by
  refine follow_induct (P := fun x => x.state.selfClosed) followed closed ?_
  intro e _ a b closed applied
  cases Happening.edge applied with
  | data | acked => exact closed
  | finWhileClosing | finLast | finAcked | finAckedClosing | finAckedLast | expired | rst =>
      simp [TcpState.selfClosed]
  | syn state | handshake state | rstHandshake state =>
      simp [TcpState.selfClosed, state] at closed
  | fin state => obtain state | state := state <;> simp [TcpState.selfClosed, state] at closed

/-- Only a close of our side queues a FIN. -/
theorem follow_awaitsFinAck {happenings : List Happening} (followed : v.follow happenings = some w)
    (open_side : v.state.awaitsFinAck = false) : w.state.awaitsFinAck = false := by
  refine follow_induct (P := fun x => x.state.awaitsFinAck = false) followed open_side ?_
  intro e _ a b open_side applied
  cases Happening.edge applied with
  | data | acked => exact open_side
  | syn | handshake | fin | finLast | finAcked | finAckedClosing | finAckedLast | expired
  | rstHandshake | rst => rfl
  | finWhileClosing state => simp [TcpState.awaitsFinAck, state] at open_side

theorem close_of_awaitsFinAck (closing : v.state.awaitsFinAck = true) : v.close = v := by
  unfold close
  split <;> simp_all [TcpState.awaitsFinAck]

theorem close_peerClosed (closed : v.state.peerClosed) : v.close.state.peerClosed := by
  unfold TcpState.peerClosed at closed ⊢
  cases state : v.state <;> simp_all [close]

theorem close_selfClosed (v : TcpView) : v.close.state.selfClosed := by
  unfold TcpState.selfClosed
  cases state : v.state <;> simp [close, state]

/-- When both sides have closed and there was no reset, everything is acknowledged but
in the two states that wait for the acknowledgement of our FIN. -/
theorem Lifecycle.all_acked_iff (life : v.Lifecycle) (peer : v.state.peerClosed)
    (self : v.state.selfClosed) :
    (v.reset = false → v.sendQueue = [] ∧ (v.connected = true → v.finAcked = true)) ↔
      v.state ≠ .closing ∧ v.state ≠ .lastAck := by
  cases state : v.state with
  | listen | synSent | synReceived | established | closeWait =>
      simp [TcpState.selfClosed, state] at self
  | finWait1 | finWait2 => simp [TcpState.peerClosed, state] at peer
  | closed => simpa using life.ended state
  | timeWait =>
      have acked := life.acked (.inr state)
      simp [acked]
  | closing | lastAck =>
      have connected := life.connecting (by simp [state]) (by simp [state])
      have unacked := life.unacked (by simp [state]) (by simp [state]) (by simp [state])
      simp [connected, unacked]

end TcpView

/-- A listening socket has no connection, and a connection is one the socket
listened for. -/
def TcpView.Coherent (v : TcpView) : Prop :=
  (v.state = .listen → v.tuple = none) ∧
    ∀ localEnd remote, v.tuple = some (localEnd, remote) → v.bound.covers localEnd = true

theorem TcpView.Coherent.listen (bound : IpListenEndpoint) :
    ({ TcpView.fresh with state := .listen, bound := bound } : TcpView).Coherent :=
  ⟨fun _ => rfl, by simp [TcpView.fresh]⟩

/-- The connection a SYN asks for is one the socket listens for. -/
def Happening.Fits (v : TcpView) : Happening → Prop
  | .syn localEnd _ => v.bound.covers localEnd = true
  | _ => True

instance (v : TcpView) : (e : Happening) → Decidable (e.Fits v)
  | .syn localEnd _ => inferInstanceAs (Decidable (v.bound.covers localEnd = true))
  | .handshake | .data _ | .acked _ | .fin | .finAcked | .expired _ | .rst => .isTrue trivial

theorem Happening.Edge.coherent {e : Happening} {v w : TcpView} (edge : Edge v e w)
    (coherent : v.Coherent) (fits : e.Fits v) : w.Coherent := by
  obtain ⟨listening, covered⟩ := coherent
  cases edge with
  | syn => exact ⟨by simp, by rintro _ _ ⟨⟩; exact fits⟩
  | handshake | fin | finWhileClosing | finLast | finAcked | finAckedClosing =>
      exact ⟨by simp, covered⟩
  | data | acked => exact ⟨listening, covered⟩
  | finAckedLast | expired | rstHandshake | rst => exact ⟨by simp, by simp⟩

theorem TcpView.Coherent.follow {v w : TcpView} (coherent : v.Coherent)
    {happenings : List Happening} (followed : v.follow happenings = some w)
    (fit : ∀ e ∈ happenings, e.Fits v) : w.Coherent := by
  refine (TcpView.follow_induct (P := fun x => x.Coherent ∧ x.bound = v.bound) followed
    ⟨coherent, rfl⟩ ?_).1
  rintro e member a b ⟨coherent, same⟩ applied
  have edge := Happening.edge applied
  refine ⟨edge.coherent coherent ?_, edge.bound.trans same⟩
  cases e with
  | syn =>
      rw [Happening.Fits, same]
      exact fit _ member
  | handshake | data | acked | fin | finAcked | expired | rst => trivial

theorem TcpView.Coherent.close {v : TcpView} (coherent : v.Coherent) : v.close.Coherent := by
  obtain ⟨listening, covered⟩ := coherent
  unfold TcpView.close
  split
  all_goals first
    | exact ⟨by simp, covered⟩
    | exact ⟨listening, covered⟩

/-- A socket with a connection has its endpoints, and they are related by `C`. -/
def TcpView.Linked (C : IpEndpoint → IpEndpoint → Prop) (v : TcpView) : Prop :=
  v.state.isConnected = true → ∃ localEnd remote, v.tuple = some (localEnd, remote) ∧ C localEnd remote

theorem Happening.Edge.linked {C : IpEndpoint → IpEndpoint → Prop} {e : Happening} {v w : TcpView}
    (edge : Edge v e w) (linked : v.Linked C)
    (opened : ∀ localEnd remote, e = .syn localEnd remote → C localEnd remote) : w.Linked C := by
  have same : v.state.isConnected = true →
      ∃ localEnd remote, v.tuple = some (localEnd, remote) ∧ C localEnd remote := linked
  cases edge with
  | syn => exact fun _ => ⟨_, _, rfl, opened _ _ rfl⟩
  | handshake state | finWhileClosing state | finLast state | finAcked state
  | finAckedClosing state => exact fun _ => same (by simp [TcpState.isConnected, state])
  | fin state => exact fun _ => same (by obtain state | state := state <;> simp [TcpState.isConnected, state])
  | data | acked => exact linked
  | finAckedLast | expired | rstHandshake | rst => exact fun connected => by contradiction

theorem TcpView.Linked.follow {C : IpEndpoint → IpEndpoint → Prop} {v w : TcpView}
    (linked : v.Linked C) {happenings : List Happening} (followed : v.follow happenings = some w)
    (opened : ∀ localEnd remote, .syn localEnd remote ∈ happenings → C localEnd remote) :
    w.Linked C := by
  refine TcpView.follow_induct (P := TcpView.Linked C) followed linked ?_
  rintro e member a b linked applied
  refine (Happening.edge applied).linked linked ?_
  rintro localEnd remote rfl
  exact opened localEnd remote member

theorem TcpView.Linked.close {C : IpEndpoint → IpEndpoint → Prop} {v : TcpView}
    (linked : v.Linked C) : v.close.Linked C := by
  have same : v.state.isConnected = true →
      ∃ localEnd remote, v.tuple = some (localEnd, remote) ∧ C localEnd remote := linked
  cases state : v.state <;> simp only [TcpView.close, TcpView.Linked, state] <;> intro connected <;>
    first
      | contradiction
      | exact same (by simp [TcpState.isConnected, state])

theorem TcpView.Coherent.covers {v : TcpView} (coherent : v.Coherent) {s : Segment}
    (taken : v.takes s = true) : v.bound.covers s.dst = true := by
  unfold TcpView.takes at taken
  split at taken
  · contradiction
  · split at taken
    · contradiction
    · split at taken
      · rename_i localEnd remote connected
        simp only [Bool.and_eq_true, beq_iff_eq] at taken
        exact taken.1 ▸ coherent.2 localEnd remote connected
      · simp only [Bool.and_eq_true] at taken
        exact taken.2

end StunnelIos
