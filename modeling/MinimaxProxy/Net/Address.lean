import Mathlib.Data.BitVec

/-!
# Internet addresses

Addresses and prefixes as Go's `net/netip` has them, and `net.IP`, which package `net` still
answers with. An IPv6 address may carry a zone, and a prefix contains no address that does.
-/

namespace Net

/-- `netip.Addr`. The zero value is no address. -/
inductive Addr
  | zero
  | v4 (bits : BitVec 32)
  | v6 (bits : BitVec 128) (zone : String)
  deriving DecidableEq

namespace Addr

/-- An IPv4 address from its bytes. -/
def bytes (a b c d : BitVec 8) : Addr := .v4 (a ++ b ++ c ++ d)

/-- An IPv6 address from its groups. -/
def groups (a b c d e f g h : BitVec 16) : Addr := .v6 (a ++ b ++ c ++ d ++ e ++ f ++ g ++ h) ""

def zone : Addr → String
  | .v6 _ zone => zone
  | _ => ""

/-- `WithZone("")`. -/
def withoutZone : Addr → Addr
  | .v6 bits _ => .v6 bits ""
  | a => a

/-- An IPv4 address in the form of IPv6 is that IPv4 address, without its zone. -/
def unmap : Addr → Addr
  | .v6 bits zone => if bits >>> 32 == 0xffff#128 then .v4 (bits.setWidth 32) else .v6 bits zone
  | a => a

def isValid (a : Addr) : Bool := a != .zero

def isUnspecified (a : Addr) : Bool := a == .v4 0 || a == .v6 0 ""

def isLoopback (a : Addr) : Bool :=
  match a.unmap with
  | .zero => false
  | .v4 bits => bits >>> 24 == 127#32
  | .v6 bits _ => bits == 1#128

def isPrivate (a : Addr) : Bool :=
  match a.unmap with
  | .zero => false
  | .v4 bits => bits >>> 24 == 10#32 || bits >>> 20 == 0xac1#32 || bits >>> 16 == 0xc0a8#32
  | .v6 bits _ => bits >>> 121 == 0x7e#128

def isLinkLocalUnicast (a : Addr) : Bool :=
  match a.unmap with
  | .zero => false
  | .v4 bits => bits >>> 16 == 0xa9fe#32
  | .v6 bits _ => bits >>> 118 == 0x3fa#128

def isMulticast (a : Addr) : Bool :=
  match a.unmap with
  | .zero => false
  | .v4 bits => bits >>> 28 == 0xe#32
  | .v6 bits _ => bits >>> 120 == 0xff#128

def isLinkLocalMulticast (a : Addr) : Bool :=
  match a.unmap with
  | .zero => false
  | .v4 bits => bits >>> 8 == 0xe00000#32
  | .v6 bits _ => bits >>> 120 == 0xff#128 && (bits >>> 112) &&& 0xf#128 == 2#128

def isInterfaceLocalMulticast (a : Addr) : Bool :=
  match a.unmap with
  | .v6 bits _ => bits >>> 120 == 0xff#128 && (bits >>> 112) &&& 0xf#128 == 1#128
  | _ => false

/-- The unspecified address with a zone is not the unspecified address. -/
def isGlobalUnicast (a : Addr) : Bool :=
  a.isValid && a.unmap != .v4 0 && a.unmap != .v4 0xffffffff && a.unmap != .v6 0 "" && !a.isLoopback && !a.isMulticast
    && !a.isLinkLocalUnicast

theorem withoutZone_of_zone {a : Addr} (noZone : a.zone = "") : a.withoutZone = a := by
  cases a with
  | v6 bits zone => rw [withoutZone, show zone = "" from noZone]
  | _ => rfl

theorem zone_unmap {a : Addr} (noZone : a.zone = "") : a.unmap.zone = "" := by
  cases a with
  | v6 bits zone =>
    rw [unmap]
    split
    · rfl
    · exact noZone
  | _ => rfl

theorem isMulticast_of_interfaceLocal {a : Addr} (h : a.isInterfaceLocalMulticast = true) : a.isMulticast = true := by
  rw [isInterfaceLocalMulticast] at h
  rw [isMulticast]
  cases form : a.unmap with
  | v6 bits zone =>
    rw [form] at h
    exact (Bool.and_eq_true_iff.mp h).1
  | _ =>
    rw [form] at h
    cases h

end Addr

/-- `netip.Prefix`. -/
structure Prefix where
  addr : Addr
  bits : Nat

/-- `Prefix.Contains`. -/
def Prefix.contains (p : Prefix) (a : Addr) : Bool :=
  match p.addr, a with
  | .v4 base, .v4 bits => (bits ^^^ base) >>> (32 - p.bits) == 0#32
  | .v6 base _, .v6 bits zone => zone == "" && (bits ^^^ base) >>> (128 - p.bits) == 0#128
  | _, _ => false

/-! ## `net.IP` -/

/-- No address, or one of four or of sixteen bytes. -/
inductive IP
  | nil
  | four (bits : BitVec 32)
  | sixteen (bits : BitVec 128)
  deriving DecidableEq

/-- The address that is meant, which is also the one that is dialed when it is written out. The
classes of package `net` are those of this address. -/
def IP.addr : IP → Addr
  | .nil => .zero
  | .four bits => .v4 bits
  | .sixteen bits => (Addr.v6 bits "").unmap

/-- `net.IPAddr`. -/
structure IPAddr where
  ip : IP
  zone : String := ""

theorem IP.unmap_addr (ip : IP) : ip.addr.unmap = ip.addr := by
  cases ip with
  | nil => rfl
  | four bits => rfl
  | sixteen bits =>
    rw [IP.addr, Addr.unmap]
    split
    · rfl
    · rename_i other
      rw [Addr.unmap, if_neg other]

theorem IP.addr_isValid {ip : IP} (isSome : ip ≠ .nil) : ip.addr.isValid = true := by
  cases ip with
  | nil => exact absurd rfl isSome
  | four bits => rfl
  | sixteen bits =>
    rw [IP.addr, Addr.unmap]
    split <;> rfl

end Net
