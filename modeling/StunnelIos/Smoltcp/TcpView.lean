import StunnelIos.Net.Address

/-! What can be observed of a passively opened TCP socket of the user-mode
stack, and how its documentation (the TCP state diagram) lets that change. -/
namespace StunnelIos

inductive TcpState where
  | closed | listen | synSent | synReceived | established | finWait1 | finWait2
  | closeWait | closing | lastAck | timeWait
deriving DecidableEq, Repr

/-- The states of a connection with the peer: SYN-RECEIVED and the synchronized ones. -/
def TcpState.isConnected (state : TcpState) : Bool :=
  match state with
  | .closed | .listen | .synSent => false
  | _ => true

/-- The states in which a FIN of our side is queued and not acknowledged. -/
def TcpState.awaitsFinAck (state : TcpState) : Bool :=
  state == .finWait1 || state == .closing || state == .lastAck

/-- A TCP segment with the endpoints of the IP packet that carries it. -/
structure Segment where
  src : IpEndpoint
  dst : IpEndpoint
  syn : Bool
  ack : Bool
  fin : Bool
  rst : Bool
  seqNumber : UInt32
  ackNumber : UInt32
  payload : Bytes
deriving DecidableEq, Repr

/-- The segment has this byte at this sequence number. -/
def Segment.Carries (s : Segment) (seqNumber : UInt32) (b : UInt8) : Prop :=
  ∃ k, s.payload[k]? = some b ∧ seqNumber = s.seqNumber + .ofNat (s.syn.toNat + k)

/-- A UDP datagram with the endpoints of the IP packet that carries it. -/
structure Datagram where
  src : IpEndpoint
  dst : IpEndpoint
  payload : Bytes
deriving DecidableEq, Repr

def IpListenEndpoint.covers (endpoint : IpListenEndpoint) (dst : IpEndpoint) : Bool :=
  endpoint.port == dst.port && (endpoint.addr == none || endpoint.addr == some dst.addr)

/-- `tuple` is the connection (local, remote) once a SYN was accepted. `bound` and the last
three fields are history: what the socket was set to listen on, whether a SYN was accepted,
whether the peer has acknowledged our FIN, whether the connection was reset. -/
structure TcpView where
  state : TcpState
  bound : IpListenEndpoint
  tuple : Option (IpEndpoint × IpEndpoint)
  recvQueue : Bytes
  /-- Bytes accepted from the application and not yet acknowledged by the peer. -/
  sendQueue : Bytes
  connected : Bool
  finAcked : Bool
  reset : Bool
deriving DecidableEq, Repr

namespace TcpView

def fresh : TcpView := ⟨.closed, ⟨none, 0⟩, none, [], [], false, false, false⟩

/-- The socket takes this segment: its connection matches, or it listens on the
segment's destination. -/
def takes (v : TcpView) (segment : Segment) : Bool :=
  if v.state == .closed then false
  else if v.state == .listen && segment.ack then false
  else match v.tuple with
    | some (localEnd, remote) => segment.dst == localEnd && segment.src == remote
    | none => segment.dst.port != 0 && v.bound.covers segment.dst

def maySend (v : TcpView) : Bool := v.state == .established || v.state == .closeWait

def close (v : TcpView) : TcpView :=
  match v.state with
  | .listen | .synSent => { v with state := .closed }
  | .synReceived | .established => { v with state := .finWait1 }
  | .closeWait => { v with state := .lastAck }
  | .finWait1 | .finWait2 | .closing | .timeWait | .lastAck | .closed => v

end TcpView

inductive Happening where
  | syn (localEnd remote : IpEndpoint)
  | handshake
  | data (bytes : Bytes)
  | acked (count : Nat)
  | fin
  | finAcked
  /-- The end of the TIME-WAIT period; the receive buffer may be cleared. -/
  | expired (cleared : Bool)
  | rst
deriving DecidableEq, Repr

namespace Happening

/-- The edges of the state diagram; `none` where the event has no effect. -/
def apply : Happening → TcpView → Option TcpView
  | .syn localEnd remote, v =>
      match v.state with
      | .listen => some { v with
          state := .synReceived, tuple := some (localEnd, remote), connected := true }
      | _ => none
  | .handshake, v =>
      match v.state with
      | .synReceived => some { v with state := .established }
      | _ => none
  | .data bytes, v =>
      match v.state with
      | .established | .finWait1 | .finWait2 => some { v with recvQueue := v.recvQueue ++ bytes }
      | _ => none
  | .acked count, v =>
      match v.state with
      | .established | .finWait1 | .closeWait | .closing | .lastAck =>
          if count ≤ v.sendQueue.length then some { v with sendQueue := v.sendQueue.drop count }
          else none
      | _ => none
  | .fin, v =>
      match v.state with
      | .synReceived | .established => some { v with state := .closeWait }
      | .finWait1 => some { v with state := .closing }
      | .finWait2 => some { v with state := .timeWait }
      | _ => none
  | .finAcked, v =>
      if v.sendQueue = [] then
        match v.state with
        | .finWait1 => some { v with state := .finWait2, finAcked := true }
        | .closing => some { v with state := .timeWait, finAcked := true }
        | .lastAck => some { v with state := .closed, tuple := none, finAcked := true }
        | _ => none
      else none
  | .expired cleared, v =>
      match v.state with
      | .timeWait => some { v with
          state := .closed, tuple := none, recvQueue := if cleared then [] else v.recvQueue }
      | _ => none
  | .rst, v =>
      match v.state with
      | .closed | .listen | .synSent => none
      | .synReceived => some { v with state := .listen, tuple := none, connected := false }
      | _ => some { v with state := .closed, tuple := none, reset := true }

/-- The same edges as a relation, for case analysis. -/
inductive Edge (v : TcpView) : Happening → TcpView → Prop where
  | syn {localEnd remote} : v.state = .listen → Edge v (.syn localEnd remote)
      { v with state := .synReceived, tuple := some (localEnd, remote), connected := true }
  | handshake : v.state = .synReceived → Edge v .handshake { v with state := .established }
  | data {bytes} : v.state = .established ∨ v.state = .finWait1 ∨ v.state = .finWait2 →
      Edge v (.data bytes) { v with recvQueue := v.recvQueue ++ bytes }
  | acked {count} : count ≤ v.sendQueue.length →
      Edge v (.acked count) { v with sendQueue := v.sendQueue.drop count }
  | fin : v.state = .synReceived ∨ v.state = .established → Edge v .fin { v with state := .closeWait }
  | finWhileClosing : v.state = .finWait1 → Edge v .fin { v with state := .closing }
  | finLast : v.state = .finWait2 → Edge v .fin { v with state := .timeWait }
  | finAcked : v.state = .finWait1 → v.sendQueue = [] →
      Edge v .finAcked { v with state := .finWait2, finAcked := true }
  | finAckedClosing : v.state = .closing → v.sendQueue = [] →
      Edge v .finAcked { v with state := .timeWait, finAcked := true }
  | finAckedLast : v.state = .lastAck → v.sendQueue = [] →
      Edge v .finAcked { v with state := .closed, tuple := none, finAcked := true }
  | expired {cleared} : v.state = .timeWait → Edge v (.expired cleared) { v with
      state := .closed, tuple := none, recvQueue := if cleared then [] else v.recvQueue }
  | rstHandshake : v.state = .synReceived →
      Edge v .rst { v with state := .listen, tuple := none, connected := false }
  | rst : v.state ≠ .listen →
      Edge v .rst { v with state := .closed, tuple := none, reset := true }

theorem edge {e : Happening} {v w : TcpView} (applied : e.apply v = some w) : Edge v e w := by
  cases e with
  | syn localEnd remote =>
      cases state : v.state <;> simp only [apply, state] at applied <;> cases applied
      exact .syn state
  | handshake =>
      cases state : v.state <;> simp only [apply, state] at applied <;> cases applied
      exact .handshake state
  | data bytes =>
      cases state : v.state <;> simp only [apply, state] at applied <;> cases applied
      all_goals
        simp only [← state]
        exact .data (by simp [state])
  | acked count =>
      cases state : v.state <;> simp only [apply, state] at applied <;> try contradiction
      all_goals
        obtain ⟨within, same⟩ := Option.ite_none_right_eq_some.mp applied
        cases same
        simp only [← state]
        exact .acked within
  | fin =>
      cases state : v.state <;> simp only [apply, state] at applied <;> cases applied
      · exact .fin (.inl state)
      · exact .fin (.inr state)
      · exact .finWhileClosing state
      · exact .finLast state
  | finAcked =>
      obtain ⟨empty, applied⟩ := Option.ite_none_right_eq_some.mp applied
      cases state : v.state <;> simp only [state] at applied <;> cases applied
      · exact .finAcked state empty
      · exact .finAckedClosing state empty
      · exact .finAckedLast state empty
  | expired cleared =>
      cases state : v.state <;> simp only [apply, state] at applied <;> cases applied
      exact .expired state
  | rst =>
      cases state : v.state <;> simp only [apply, state] at applied <;> cases applied
      · exact .rstHandshake state
      all_goals exact .rst (by simp [state])

theorem Edge.bound {e : Happening} {v w : TcpView} (edge : Edge v e w) : w.bound = v.bound := by
  cases edge <;> rfl

end Happening

namespace TcpView

/-- The view after a sequence of happenings, if each of them is possible. -/
def follow (v : TcpView) : List Happening → Option TcpView
  | [] => some v
  | e :: rest => (e.apply v).bind (·.follow rest)

/-- What is preserved by every single happening is preserved by all of them. -/
theorem follow_induct {P : TcpView → Prop} {v w : TcpView} {es : List Happening}
    (followed : v.follow es = some w) (initial : P v)
    (preserved : ∀ e ∈ es, ∀ a b, P a → e.apply a = some b → P b) : P w := by
  induction es generalizing v with
  | nil =>
      cases followed
      exact initial
  | cons e rest ih =>
      obtain ⟨next, applied, followed⟩ := Option.bind_eq_some_iff.mp followed
      exact ih followed (preserved e (by simp) v next initial applied)
        (fun e member => preserved e (by simp [member]))

theorem follow_bound {v w : TcpView} {happenings : List Happening}
    (followed : v.follow happenings = some w) : w.bound = v.bound :=
  follow_induct (P := fun x => x.bound = v.bound) followed rfl
    fun _ _ _ _ same applied => (Happening.edge applied).bound.trans same

theorem close_bound (v : TcpView) : v.close.bound = v.bound := by
  unfold close
  split <;> rfl

end TcpView

end StunnelIos
