import StunnelIos.Smoltcp.Wire

/-! IPv4 packets as RFC 791 has them, beside what the checked parsers of the stack
accept. -/
namespace StunnelIos
open Wire

structure IsIpv4 (bytes : Bytes) : Prop where
  version : (bytes.getD 0 0).toNat / 16 = 4
  header : 20 ≤ ipHeaderLen bytes
  payload : ipHeaderLen bytes ≤ (field16 bytes 2).toNat
  total : (field16 bytes 2).toNat ≤ bytes.length

/-- In units of eight bytes. -/
def fragmentOffset (bytes : Bytes) : Nat := (field16 bytes 6).toNat % 8192

structure TransportHeader where
  protocol : IpProtocol
  src : Ipv4Address
  srcPort : UInt16
  dst : Ipv4Address
  dstPort : UInt16
deriving DecidableEq, Repr

/-- The addresses of an IPv4 packet, and the ports behind its header. -/
def transportHeader (bytes : Bytes) : TransportHeader where
  protocol := protocol (bytes.getD 9 0)
  src := fieldAddress bytes 12
  srcPort := field16 bytes (ipHeaderLen bytes)
  dst := fieldAddress bytes 16
  dstPort := field16 bytes (ipHeaderLen bytes + 2)

/-- What the checked parsers do not look at: version 4, no short header, and no offset. -/
def HasRealHeader (bytes : Bytes) : Prop :=
  (bytes.getD 0 0).toNat / 16 = 4 ∧ 5 ≤ (bytes.getD 0 0).toNat % 16 ∧ fragmentOffset bytes = 0

/-- Documented behaviour of the checked parsers, which look at lengths only, and of the
interface, to which a packet without an offset is the head of what it carries or completes. -/
structure Smoltcp.ParserLaws (S : Smoltcp) : Prop where
  ipv4 : ∀ bytes, S.ipv4NewChecked bytes = Wire.ipv4NewChecked bytes
  tcp : ∀ payload, S.tcpNewChecked payload = Wire.tcpNewChecked payload
  udp : ∀ payload, S.udpNewChecked payload = Wire.udpNewChecked payload
  segment_head : ∀ interface now packet s dst, S.readSegment interface now packet = some s →
    s.dst.addr = .v4 dst → fragmentOffset packet = 0 →
    ∃ ip, S.ipv4NewChecked packet = some ip ∧ s.src.addr = .v4 ip.srcAddr ∧
      (4 ≤ ip.payload.length → s.src.port = Wire.field16 ip.payload 0)

namespace Wire
variable {bytes payload : Bytes} {ip : Ipv4Packet} {tcp : TcpPacket} {udp : UdpPacket}

theorem ipv4NewChecked_eq_some (accepted : ipv4NewChecked bytes = some ip) :
    ipHeaderLen bytes ≤ (field16 bytes 2).toNat ∧ (field16 bytes 2).toNat ≤ bytes.length ∧
      ip = ⟨fieldAddress bytes 12, fieldAddress bytes 16, protocol (bytes.getD 9 0),
        (bytes.take (field16 bytes 2).toNat).drop (ipHeaderLen bytes)⟩ := by
  simp only [ipv4NewChecked] at accepted
  split at accepted
  · contradiction
  · rename_i lengths
    simp only [not_or, Nat.not_lt] at lengths
    exact ⟨lengths.2.2.1, lengths.2.2.2, (Option.some.inj accepted).symm⟩

theorem tcpNewChecked_eq_some (parsed : tcpNewChecked payload = some tcp) :
    20 ≤ payload.length ∧ tcp.srcPort = field16 payload 0 ∧ tcp.dstPort = field16 payload 2 := by
  simp only [tcpNewChecked] at parsed
  split at parsed
  · contradiction
  · rename_i lengths
    simp only [not_or, Nat.not_lt] at lengths
    cases parsed
    exact ⟨lengths.1, rfl, rfl⟩

theorem udpNewChecked_eq_some (parsed : udpNewChecked payload = some udp) :
    8 ≤ payload.length ∧ udp.srcPort = field16 payload 0 ∧ udp.dstPort = field16 payload 2 := by
  simp only [udpNewChecked] at parsed
  split at parsed
  · contradiction
  · rename_i lengths
    simp only [not_or, Nat.not_lt] at lengths
    cases parsed
    exact ⟨lengths.1, rfl, rfl⟩

/-- A field of the payload is a field of the packet. -/
theorem field16_payload {total header offset : Nat}
    (inside : offset + 1 < ((bytes.take total).drop header).length) :
    field16 ((bytes.take total).drop header) offset = field16 bytes (header + offset) := by
  have octet : ∀ i, i < ((bytes.take total).drop header).length →
      ((bytes.take total).drop header).getD i 0 = bytes.getD (header + i) 0 := by
    intro i small
    simp only [List.length_drop, List.length_take] at small
    simp only [List.getD_eq_getElem?_getD, List.getElem?_drop]
    rw [List.getElem?_take_of_lt (by omega)]
  simp only [field16, octet offset (by omega), octet (offset + 1) inside, Nat.add_assoc]

/-- The ports a checked parser reads are those of the transport header. -/
theorem ports_of_payload (accepted : ipv4NewChecked bytes = some ip)
    (long : 4 ≤ ip.payload.length) :
    field16 ip.payload 0 = (transportHeader bytes).srcPort ∧
      field16 ip.payload 2 = (transportHeader bytes).dstPort := by
  obtain ⟨_, _, rfl⟩ := ipv4NewChecked_eq_some accepted
  exact ⟨field16_payload (Nat.lt_of_lt_of_le (by decide) long),
    field16_payload (Nat.lt_of_lt_of_le (by decide) long)⟩

/-- What the parser has not looked at is all that an IPv4 packet needs besides. -/
theorem isIpv4_iff (accepted : ipv4NewChecked bytes = some ip) :
    IsIpv4 bytes ∧ fragmentOffset bytes = 0 ↔ HasRealHeader bytes := by
  obtain ⟨payload, total, _⟩ := ipv4NewChecked_eq_some accepted
  constructor
  · rintro ⟨packet, first⟩
    have header := packet.header
    unfold ipHeaderLen at header
    exact ⟨packet.version, by omega, first⟩
  · rintro ⟨version, header, first⟩
    refine ⟨⟨version, ?_, payload, total⟩, first⟩
    unfold ipHeaderLen
    omega

end Wire

end StunnelIos
