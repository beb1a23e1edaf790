import StunnelIos.Smoltcp.Stack

/-! Bytes of IPv4 packets with a TCP segment or a UDP datagram, read as the stack
reads them. Its checked parsers look at lengths only; the interface also wants
version 4 and the ports that must be present. Checksums are neither written nor read,
as the device asks for. -/
namespace StunnelIos.Wire

def field16 (bytes : Bytes) (offset : Nat) : UInt16 :=
  .ofNat ((bytes.getD offset 0).toNat * 256 + (bytes.getD (offset + 1) 0).toNat)

def field32 (bytes : Bytes) (offset : Nat) : UInt32 :=
  .ofNat ((field16 bytes offset).toNat * 65536 + (field16 bytes (offset + 2)).toNat)

def fieldAddress (bytes : Bytes) (offset : Nat) : Ipv4Address :=
  ⟨bytes.getD offset 0, bytes.getD (offset + 1) 0, bytes.getD (offset + 2) 0,
    bytes.getD (offset + 3) 0⟩

/-- Bit `i` of a byte. -/
def bit (bytes : Bytes) (offset i : Nat) : Bool := (bytes.getD offset 0).toNat.testBit i

/-- The length of the IPv4 header. -/
def ipHeaderLen (bytes : Bytes) : Nat := (bytes.getD 0 0).toNat % 16 * 4

/-- The length of the TCP header. -/
def tcpHeaderLen (payload : Bytes) : Nat := (payload.getD 12 0).toNat / 16 * 4

def protocol (value : UInt8) : IpProtocol :=
  if value = 6 then .tcp else if value = 17 then .udp else .other value

def ipv4NewChecked (bytes : Bytes) : Option Ipv4Packet :=
  let totalLen := (field16 bytes 2).toNat
  if bytes.length < 20 ∨ bytes.length < ipHeaderLen bytes ∨ totalLen < ipHeaderLen bytes ∨
      bytes.length < totalLen then none
  else some ⟨fieldAddress bytes 12, fieldAddress bytes 16, protocol (bytes.getD 9 0),
    (bytes.take totalLen).drop (ipHeaderLen bytes)⟩

def tcpNewChecked (payload : Bytes) : Option TcpPacket :=
  if payload.length < 20 ∨ payload.length < tcpHeaderLen payload ∨ tcpHeaderLen payload < 20 then
    none
  else some ⟨field16 payload 0, field16 payload 2, field32 payload 4, bit payload 13 1,
    bit payload 13 4⟩

def udpNewChecked (payload : Bytes) : Option UdpPacket :=
  let len := (field16 payload 4).toNat
  if payload.length < 8 ∨ payload.length < len ∨ len < 8 then none
  else some ⟨field16 payload 0, field16 payload 2⟩

def isVersion4 (bytes : Bytes) : Bool := (bytes.getD 0 0).toNat / 16 == 4

/-- Neither more fragments to come nor an offset. -/
def isWhole (bytes : Bytes) : Bool := (field16 bytes 6).toNat % 16384 == 0

/-- The segment that an IP packet carries. -/
def segmentOf (ip : Ipv4Packet) : Option Segment :=
  if ip.nextHeader = .tcp then do
    let tcp ← tcpNewChecked ip.payload
    let fin := bit ip.payload 13 0
    let rst := bit ip.payload 13 2
    -- At most one of the three control bits.
    if tcp.srcPort = 0 ∨ tcp.dstPort = 0 ∨ (tcp.syn && fin || tcp.syn && rst || fin && rst) then
      none
    else some {
      src := ⟨.v4 ip.srcAddr, tcp.srcPort⟩
      dst := ⟨.v4 ip.dstAddr, tcp.dstPort⟩
      syn := tcp.syn
      ack := tcp.ack
      fin := fin
      rst := rst
      seqNumber := tcp.seqNumber
      ackNumber := field32 ip.payload 8
      payload := ip.payload.drop (tcpHeaderLen ip.payload) }
  else none

def datagramOf (ip : Ipv4Packet) : Option Datagram :=
  if ip.nextHeader = .udp then do
    let udp ← udpNewChecked ip.payload
    if udp.dstPort = 0 then none
    else some {
      src := ⟨.v4 ip.srcAddr, udp.srcPort⟩
      dst := ⟨.v4 ip.dstAddr, udp.dstPort⟩
      payload := (ip.payload.take (field16 ip.payload 4).toNat).drop 8 }
  else none

/-- An IPv4 packet that is no fragment. -/
def wholePacket (bytes : Bytes) : Option Ipv4Packet :=
  if isVersion4 bytes && isWhole bytes then ipv4NewChecked bytes else none

def segment (bytes : Bytes) : Option Segment := (wholePacket bytes).bind segmentOf

def datagram (bytes : Bytes) : Option Datagram := (wholePacket bytes).bind datagramOf

def bytes16 (value : Nat) : Bytes := [.ofNat (value / 256), .ofNat value]

def bytes32 (value : Nat) : Bytes := bytes16 (value / 65536) ++ bytes16 value

def bytesAddress (addr : Ipv4Address) : Bytes := [addr.a, addr.b, addr.c, addr.d]

def ipFrame (protocol : UInt8) (src dst : Ipv4Address) (payload : Bytes) : Bytes :=
  [69, 0] ++ bytes16 (20 + payload.length) ++ [0, 0, 64, 0, 64, protocol, 0, 0] ++
    bytesAddress src ++ bytesAddress dst ++ payload

/-- The control byte of a TCP header: SYN, ACK and FIN. -/
def flags (syn ack fin : Bool) : UInt8 := .ofNat (fin.toNat + syn.toNat * 2 + ack.toNat * 16)

def tcpFrame (src dst : Ipv4Address) (srcPort dstPort : UInt16) (seqNumber ackNumber : UInt32)
    (flags : UInt8) (payload : Bytes) : Bytes :=
  ipFrame 6 src dst (bytes16 srcPort.toNat ++ bytes16 dstPort.toNat ++
    bytes32 seqNumber.toNat ++ bytes32 ackNumber.toNat ++ [80, flags] ++ bytes16 65535 ++
    [0, 0, 0, 0] ++ payload)

def udpFrame (src dst : Ipv4Address) (srcPort dstPort : UInt16) (payload : Bytes) : Bytes :=
  ipFrame 17 src dst (bytes16 srcPort.toNat ++ bytes16 dstPort.toNat ++
    bytes16 (8 + payload.length) ++ [0, 0] ++ payload)

/-- Two octets, most significant first, give back the value they were cut from. -/
theorem octets16 {value : Nat} (small : value < 65536) :
    (UInt8.ofNat (value / 256)).toNat * 256 + (UInt8.ofNat value).toNat = value := by
  simp only [UInt8.toNat_ofNat']
  omega

/-- What the interface reads of a frame is what was written. -/
theorem wholePacket_ipFrame (code : UInt8) (src dst : Ipv4Address) (payload : Bytes)
    (fits : payload.length < 65516) :
    wholePacket (ipFrame code src dst payload) = some ⟨src, dst, protocol code, payload⟩ := by
  have total : (field16 (ipFrame code src dst payload) 2).toNat = 20 + payload.length := by
    simp only [ipFrame, bytes16, field16, List.cons_append, List.nil_append, List.getD_cons_succ,
      List.getD_cons_zero, octets16 (show 20 + payload.length < 65536 by omega), UInt16.toNat_ofNat']
    omega
  have length : (ipFrame code src dst payload).length = 20 + payload.length := by
    simp only [ipFrame, bytes16, bytesAddress, List.cons_append, List.nil_append, List.length_cons]
    omega
  have header : ipHeaderLen (ipFrame code src dst payload) = 20 := by
    simp [ipHeaderLen, ipFrame]
  have whole : isVersion4 (ipFrame code src dst payload) = true ∧
      isWhole (ipFrame code src dst payload) = true := by
    simp [isVersion4, isWhole, ipFrame, bytes16, field16]
  simp only [wholePacket, whole, Bool.and_self, if_true, ipv4NewChecked, total, length, header]
  rw [if_neg (by omega), List.take_of_length_le (by omega)]
  rfl

theorem segment_tcpFrame (src dst : Ipv4Address) {srcPort dstPort : UInt16}
    (seqNumber ackNumber : UInt32) (syn ack fin : Bool) (payload : Bytes)
    (fits : payload.length < 65496) (from_port : srcPort ≠ 0) (to_port : dstPort ≠ 0)
    (single : syn = true → fin = false) :
    ∃ read, segment (tcpFrame src dst srcPort dstPort seqNumber ackNumber (flags syn ack fin)
        payload) = some read ∧ read.src = ⟨.v4 src, srcPort⟩ ∧ read.dst = ⟨.v4 dst, dstPort⟩ ∧
      read.syn = syn ∧ read.ack = ack ∧ read.fin = fin ∧ read.payload = payload := by
  set body := bytes16 srcPort.toNat ++ bytes16 dstPort.toNat ++ bytes32 seqNumber.toNat ++
    bytes32 ackNumber.toNat ++ [80, flags syn ack fin] ++ bytes16 65535 ++ [0, 0, 0, 0] ++
    payload with written
  have length : body.length = 20 + payload.length := by
    simp only [written, bytes16, bytes32, List.cons_append, List.nil_append, List.length_cons]
    omega
  have header : tcpHeaderLen body = 20 := by
    simp [tcpHeaderLen, written, bytes16, bytes32]
  have ports : field16 body 0 = srcPort ∧ field16 body 2 = dstPort := by
    simp only [written, bytes16, bytes32, field16, List.cons_append, List.nil_append,
      List.getD_cons_succ, List.getD_cons_zero, octets16 srcPort.toNat_lt,
      octets16 dstPort.toNat_lt, UInt16.ofNat_toNat, and_self]
  have whole := wholePacket_ipFrame 6 src dst body (by omega)
  have control : ∀ i, bit body 13 i = (flags syn ack fin).toNat.testBit i := by
    intro i
    simp [bit, written, bytes16, bytes32]
  have bits : bit body 13 0 = fin ∧ bit body 13 1 = syn ∧ bit body 13 2 = false ∧
      bit body 13 4 = ack := by
    simp only [control]
    cases syn <;> cases ack <;> cases fin <;> decide
  have parsed : tcpNewChecked body = some ⟨srcPort, dstPort, field32 body 4, syn, ack⟩ := by
    simp only [tcpNewChecked, header, length, ports, bits]
    rw [if_neg (by omega)]
  have tail : body.drop 20 = payload := by
    simp [written, bytes16, bytes32]
  have read : segment (tcpFrame src dst srcPort dstPort seqNumber ackNumber
      (flags syn ack fin) payload) =
      some ⟨⟨.v4 src, srcPort⟩, ⟨.v4 dst, dstPort⟩, syn, ack, fin, false, field32 body 4,
        field32 body 8, payload⟩ := by
    change segment (ipFrame 6 src dst body) = _
    simp [segment, segmentOf, whole, protocol, parsed, from_port, to_port, header, tail, bits]
    exact single
  exact ⟨_, read, rfl, rfl, rfl, rfl, rfl, rfl⟩

theorem datagram_udpFrame (src dst : Ipv4Address) {srcPort dstPort : UInt16} (payload : Bytes)
    (fits : payload.length < 65508) (to_port : dstPort ≠ 0) :
    datagram (udpFrame src dst srcPort dstPort payload) =
      some ⟨⟨.v4 src, srcPort⟩, ⟨.v4 dst, dstPort⟩, payload⟩ := by
  set body := bytes16 srcPort.toNat ++ bytes16 dstPort.toNat ++ bytes16 (8 + payload.length) ++
    [0, 0] ++ payload with written
  have length : body.length = 8 + payload.length := by
    simp only [written, bytes16, List.cons_append, List.nil_append, List.length_cons]
    omega
  have fields : field16 body 0 = srcPort ∧ field16 body 2 = dstPort ∧
      (field16 body 4).toNat = 8 + payload.length := by
    simp only [written, bytes16, field16, List.cons_append, List.nil_append, List.getD_cons_succ,
      List.getD_cons_zero, octets16 srcPort.toNat_lt, octets16 dstPort.toNat_lt,
      octets16 (show 8 + payload.length < 65536 by omega), UInt16.ofNat_toNat, UInt16.toNat_ofNat',
      true_and]
    omega
  have whole := wholePacket_ipFrame 17 src dst body (by omega)
  have parsed : udpNewChecked body = some ⟨srcPort, dstPort⟩ := by
    simp only [udpNewChecked, fields, length]
    rw [if_neg (by omega)]
  have tail : (body.take (8 + payload.length)).drop 8 = payload := by
    rw [List.take_of_length_le (Nat.le_of_eq length)]
    simp [written, bytes16]
  change datagram (ipFrame 17 src dst body) = _
  simp [datagram, datagramOf, whole, protocol, parsed, to_port, fields, tail]

end StunnelIos.Wire
