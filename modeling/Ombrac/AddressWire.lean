import Ombrac.AddressText
import Ombrac.ProtocolCodec

set_option autoImplicit false

/-!
# Addresses on the wire

An address is given as a socket address, by a user's text or by a socket call, and goes to the
peer alone, in a `Connect` or in a datagram. The wire form has the IP and the port only.
-/
namespace Ombrac.AddressWire
open ProtocolPacket ProtocolMessage BinaryFormat ProtocolCodec AddressText

instance : Serde Address := ⟨address⟩

def Arrives {α : Type} [Serde α] (display : Fault → String) (message : α) : Prop :=
  ∃ bytes, encode display message = .ok bytes ∧ decode display bytes = .ok message

inductive Given : Address → Prop where
  | socketAddr (addr : SocketAddr) : Given (.ofSocketAddr addr)
  | str (value : String) {addr : Address} (parsed : tryFromStr value = .ok addr) : Given addr

/-- An IPv6 address without flow information and scope, or another address. -/
def Unscoped : Address → Prop
  | .socketV6 addr => addr.flowinfo = 0 ∧ addr.scopeId = 0
  | _ => True

section Wire
variable {display : Fault → String} {α : Type} [Serde α] {addr : Address}

/-- A message that is written as a message that fits is read back as that one. -/
theorem arrives_iff {message written : α} (fits : Serde.format.Fits written)
    (same : encode display message = encode display written) :
    Arrives display message ↔ written = message := by
  obtain ⟨bytes, encoded, reads⟩ := Serde.format.round_trip written fits
  have back : decode display bytes = .ok written := by
    have whole : decode display (bytes ++ []) = .ok written := decode_of_reads reads []
    rwa [List.append_nil] at whole
  have encoded' : encode display message = .ok bytes := same.trans (encode_ok.2 encoded)
  constructor
  · rintro ⟨sent, sent_ok, received⟩
    obtain rfl := Except.ok.inj (encoded'.symm.trans sent_ok)
    exact Except.ok.inj (back.symm.trans received)
  · rintro rfl
    exact ⟨bytes, encoded', back⟩

theorem carried_eq_iff : Address.carried addr = addr ↔ Unscoped addr := by
  cases addr with
  | socketV4 addr => exact iff_of_true rfl trivial
  | domain name port => exact iff_of_true rfl trivial
  | socketV6 addr =>
    obtain ⟨ip, port, flowinfo, scopeId⟩ := addr
    simp only [Address.carried, Unscoped, Address.socketV6.injEq, SocketAddrV6.mk.injEq, true_and,
      eq_comm]

theorem Given.carried_plain (given : Given addr) : Address.Plain (Address.carried addr) := by
  cases given with
  | socketAddr a =>
    cases a with
    | v4 a => exact trivial
    | v6 a => exact ⟨rfl, rfl⟩
  | str value parsed =>
    cases addr with
    | socketV4 a => exact trivial
    | socketV6 a => exact ⟨rfl, rfl⟩
    | domain name port =>
      have short := (tryFromStr_domain parsed).2
      change name.length < 2 ^ 63
      unfold maxDomainLength at short
      omega

/-- Of the given addresses exactly those without flow information and scope reach the peer as they
are, alone, as the destination of a `Connect` and as the address of a datagram. -/
theorem address_survives_iff (display : Fault → String) (given : Given addr) :
    (Arrives display addr ↔ Unscoped addr) ∧
      (Arrives display (ClientMessage.connect ⟨addr⟩) ↔ Unscoped addr) ∧
      ∀ sessionId data, InMemory data →
        (Arrives display (UdpPacket.unfragmented sessionId addr data) ↔ Unscoped addr) := by
  have plain := given.carried_plain
  refine ⟨?_, ?_, fun sessionId data small => ?_⟩
  · refine (arrives_iff (address_fits plain) ?_).trans carried_eq_iff
    cases addr <;> rfl
  · have fits : clientMessage.Fits (.connect ⟨Address.carried addr⟩) := clientMessage_fits plain
    refine (arrives_iff fits ?_).trans ?_
    · cases addr <;> rfl
    · rw [← carried_eq_iff, ClientMessage.connect.injEq, ClientConnect.mk.injEq]
  · have fits : udpPacket.Fits (.unfragmented sessionId (Address.carried addr) data) :=
      udpPacket_fits ⟨plain, small⟩
    refine (arrives_iff fits ?_).trans ?_
    · cases addr <;> rfl
    · rw [← carried_eq_iff, UdpPacket.unfragmented.injEq]
      simp only [true_and, and_true]

end Wire

/-- `[fe80::1%3]:80`. -/
theorem address_survives_iff_linkLocal :
    Arrives (fun _ => "") (Address.socketV6 ⟨⟨0xfe800000000000000000000000000001⟩, 80, 0, 3⟩) ↔
      Unscoped (.socketV6 ⟨⟨0xfe800000000000000000000000000001⟩, 80, 0, 3⟩) :=
  (address_survives_iff (fun _ => "") (.str "[fe80::1%3]:80" rfl)).1

theorem scope_lost :
    ¬ ∀ display addr, Given addr → Arrives display addr := by
  intro survives
  obtain ⟨bytes, sent, received⟩ := survives (fun _ => "") _ (.str "[fe80::1%3]:80" rfl)
  cases sent
  cases received

end Ombrac.AddressWire
