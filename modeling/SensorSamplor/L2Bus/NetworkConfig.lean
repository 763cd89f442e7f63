import Mathlib.Data.List.Basic

/-!
# The network configuration of the bus

`HazelcastSensorBus` gets a list of network interfaces and a list of remote
members. With no remote members it finds the cluster by multicast, else by
TCP/IP through those members; it listens on the interfaces if there are any,
else on all.

The objects of Hazelcast are modelled by what the bus sets in them: a text
that was added is in the list, whatever Hazelcast makes of it.
-/
namespace SensorSamplor

/-- What can be switched on with a list of addresses. -/
structure AddressConfig where
  enabled : Bool
  addresses : List String
  deriving DecidableEq

/-- `com.hazelcast.config.InterfacesConfig` -/
abbrev InterfacesConfig := AddressConfig

/-- `com.hazelcast.config.TcpIpConfig` -/
abbrev TcpIpConfig := AddressConfig

/-- `com.hazelcast.config.MulticastConfig` -/
structure MulticastConfig where
  enabled : Bool
  deriving DecidableEq

/-- `com.hazelcast.config.JoinConfig` -/
structure JoinConfig where
  multicastConfig : MulticastConfig
  tcpIpConfig : TcpIpConfig
  deriving DecidableEq

/-- `com.hazelcast.config.NetworkConfig` -/
structure NetworkConfig where
  interfaces : InterfacesConfig
  join : JoinConfig
  deriving DecidableEq

namespace AddressConfig

/-- `addInterface`, `addMember` -/
def add (c : AddressConfig) (address : String) : AddressConfig :=
  { c with addresses := c.addresses ++ [address] }

/-- Switched on with the addresses if there are any, else left alone. -/
def enableWith (c : AddressConfig) (addresses : List String) : AddressConfig :=
  if addresses = [] then c else addresses.foldl add { c with enabled := true }

theorem foldl_add (c : AddressConfig) (addresses : List String) :
    addresses.foldl add c = { c with addresses := c.addresses ++ addresses } := by
  induction addresses generalizing c with
  | nil => simp
  | cons a as ih => rw [List.foldl_cons, ih]; simp [add]

theorem enableWith_eq (c : AddressConfig) (addresses : List String) :
    c.enableWith addresses =
      ⟨c.enabled || decide (addresses ≠ []), c.addresses ++ addresses⟩ := by
  unfold enableWith
  by_cases h : addresses = []
  · simp [h]
  · rw [if_neg h, foldl_add]
    simp [h]

end AddressConfig

namespace HazelcastSensorBus

/-- mirrors base/bus/HazelcastSensorBus.java:68-76 -/
def setNetworkInterfacesConfigWith (interfacesConfig : InterfacesConfig) (networkInterfaces : List String) :
    InterfacesConfig :=
  interfacesConfig.enableWith networkInterfaces

/-- mirrors base/bus/HazelcastSensorBus.java:78-86 -/
def setTcpIpConfigWith (tcpIpConfig : TcpIpConfig) (remoteMembers : List String) : TcpIpConfig :=
  tcpIpConfig.enableWith remoteMembers

/-- mirrors base/bus/HazelcastSensorBus.java:55-66 -/
def setNetworkConfigWith (networkConfig : NetworkConfig) (networkInterfaces remoteMembers : List String) :
    NetworkConfig where
  interfaces := setNetworkInterfacesConfigWith networkConfig.interfaces networkInterfaces
  join :=
    if remoteMembers = [] then { networkConfig.join with multicastConfig := ⟨true⟩ }
    else ⟨⟨false⟩, setTcpIpConfigWith networkConfig.join.tcpIpConfig remoteMembers⟩

/-- **What the bus configures.** Both lists are added as they are, and the
members alone decide how the bus joins. -/
theorem setNetworkConfigWith_eq (c : NetworkConfig) (is ms : List String) :
    setNetworkConfigWith c is ms =
      { interfaces := ⟨c.interfaces.enabled || decide (is ≠ []), c.interfaces.addresses ++ is⟩
        join := ⟨⟨decide (ms = [])⟩, c.join.tcpIpConfig.enabled || decide (ms ≠ []),
          c.join.tcpIpConfig.addresses ++ ms⟩ } := by
  unfold setNetworkConfigWith setNetworkInterfacesConfigWith setTcpIpConfigWith
  rw [AddressConfig.enableWith_eq, AddressConfig.enableWith_eq]
  by_cases h : ms = [] <;> simp [h]

end HazelcastSensorBus
end SensorSamplor
