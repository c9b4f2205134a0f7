import Mathlib.Data.String.Basic
import ClearwaterFv.Reasoning.Decimal
import ClearwaterFv.Reasoning.OrderedMap

/-!
# Topology — what a deployment is made of

The immutable part of the harness's objects: the topology of a site, the arguments of a `Site`,
and for each `ProcessInstance` the members that its constructor sets and nothing changes.
-/

open Reasoning

namespace ClearwaterFv

/-- `Site::Topology`: what services a site has and at what domain names. -/
structure Topology where
  ipAddrPrefix : String
  chronosDomain : String := ""
  rogersDomain : String := ""
  dnsIp : String := "127.0.0.1"
  dnsPort : Int := 5353
deriving DecidableEq, Inhabited

def Topology.withChronos (t : Topology) (domain : String) : Topology :=
  { t with chronosDomain := domain }

def Topology.withRogers (t : Topology) (domain : String) : Topology :=
  { t with rogersDomain := domain }

def memcachedPort : Int := 33333
def rogersPort : Int := 11311
def chronosPort : Int := 7253

/-- `Site::site_ip`. -/
def siteIp (ipAddrPrefix : String) (index : Nat) : String := ipAddrPrefix ++ index.repr

/-- The derived class of a `ProcessInstance`, with the members that class adds. -/
inductive Kind where
  | memcached
  | rogers (clusterSettingsFile : String)
  | dnsmasq (cfgfile : String)
  | chronos (instanceDir logDir confDir localConfFile clusterConfFile sharedConfFile : String)
deriving DecidableEq, Inhabited

/-- The configuration files whose paths `execute_process` passes to the process. -/
def Kind.configFiles : Kind → List String
  | .memcached => []
  | .rogers clusterSettingsFile => [clusterSettingsFile]
  | .dnsmasq cfgfile => [cfgfile]
  | .chronos _ _ _ localConfFile clusterConfFile sharedConfFile =>
    [localConfFile, clusterConfFile, sharedConfFile]

/-- The members of a `ProcessInstance` that are set once, by its constructor. -/
structure InstanceArgs where
  ip : String
  port : Int
  kind : Kind
deriving DecidableEq, Inhabited

/-- The arguments of a `Site` whose name is in the deployment topology.  For any other name the
constructor throws (`std::map::at`), and there is no site. -/
structure SiteArgs where
  index : Int
  name : String
  dir : String
  deploymentTopology : OrderedMap String Topology
  numMemcached : Int := 0
  numRogers : Int := 0
  numChronos : Int := 0
  thisSite : Topology
  at_name : deploymentTopology.at? name = some thisSite

def SiteArgs.ipAddrPrefix (a : SiteArgs) : String := a.thisSite.ipAddrPrefix

end ClearwaterFv
