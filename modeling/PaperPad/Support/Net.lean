import Mathlib.Data.List.Lex

/-!
# Support — Net

Socket addresses as the standard library has them, and their order: the variant first, then the
fields in turn.  A source has one endpoint for each port (`SocketAddr.new`), which tells the
address and the port (`new_inj`).
-/

namespace Net

/-- An address of a host. -/
inductive IpAddr where
  | v4 (ip : UInt32)
  | v6 (ip : BitVec 128)
  deriving DecidableEq

/-- An address and a port. -/
inductive SocketAddr where
  | v4 (ip : UInt32) (port : UInt16)
  | v6 (ip : BitVec 128) (port : UInt16) (flowinfo scopeId : UInt32)
  deriving DecidableEq

namespace SocketAddr

/-- The address of the host. -/
def ip : SocketAddr → IpAddr
  | v4 ip _ => .v4 ip
  | v6 ip _ _ _ => .v6 ip

/-- The port of a host. -/
def new : IpAddr → UInt16 → SocketAddr
  | .v4 ip, port => v4 ip port
  | .v6 ip, port => v6 ip port 0 0

theorem new_inj {a b : IpAddr} {p q : UInt16} (h : new a p = new b q) : a = b ∧ p = q := by
  cases a with
  | v4 a =>
      cases b with
      | v4 b =>
          cases h
          exact ⟨rfl, rfl⟩
      | v6 b => cases h
  | v6 a =>
      cases b with
      | v4 b => cases h
      | v6 b =>
          cases h
          exact ⟨rfl, rfl⟩

/-- What addresses are compared by. -/
def key : SocketAddr → List Nat
  | v4 ip port => [0, ip.toNat, port.toNat]
  | v6 ip port flowinfo scopeId => [1, ip.toNat, port.toNat, flowinfo.toNat, scopeId.toNat]

theorem key_injective : Function.Injective key := by
  intro a b h
  cases a with
  | v4 ip port =>
      cases b with
      | v4 ip' port' =>
          simp only [key, List.cons.injEq, UInt32.toNat_inj, UInt16.toNat_inj] at h
          obtain ⟨-, rfl, rfl, -⟩ := h
          rfl
      | v6 => cases h
  | v6 ip port flowinfo scopeId =>
      cases b with
      | v4 => cases h
      | v6 ip' port' flowinfo' scopeId' =>
          simp only [key, List.cons.injEq, BitVec.toNat_inj, UInt32.toNat_inj,
            UInt16.toNat_inj] at h
          obtain ⟨-, rfl, rfl, rfl, rfl, -⟩ := h
          rfl

instance : LinearOrder SocketAddr := LinearOrder.lift' key key_injective

end SocketAddr

end Net
