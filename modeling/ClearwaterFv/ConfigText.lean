import ClearwaterFv.Topology

/-!
# ConfigText — the configuration files and the instances they describe

The constructors write the text of a configuration file piecemeal, in the loops that create the
instances.  Each loop is here the fold the source writes, over the text written so far and the
instances created so far.
-/

open Reasoning Reasoning.Decimal

namespace ClearwaterFv

/-- `get_log_level`, from the value of the environment variable `NOISY`.  `strchr` finds the
terminator of an empty value, so that it passes the first test as well. -/
def getLogLevel (noisy : Option String) : String :=
  let logLevel : Int :=
    match noisy with
    | none => 0
    | some val =>
      if val.toList.head?.all fun c => c ∈ ['T', 't', 'Y', 'y'] then
        match val.toList.dropWhile (· ≠ ':') with
        | [] => 0
        | _ :: rest => toInt32 (strtol (String.ofList rest))
      else 0
  logLevel.repr

/-! ## dnsmasq -/

/-- The path of a dnsmasq configuration file. -/
def dnsmasqCfgfile (ip : String) (port : Int) : String :=
  ip ++ "_" ++ port.repr ++ "_" ++ "_dnsmasq.cfg"

/-- The text that `DnsmasqInstance::write_config` writes. -/
def dnsmasqConfig (ip : String) (port : Int) (aRecords : OrderedMap String (List String)) :
    String :=
  aRecords.entries.foldl
    (fun ofs i => i.2.foldl
      (fun ofs ip => ofs ++ "host-record=" ++ i.1 ++ "," ++ ip ++ "\n") ofs)
    ("listen-address=" ++ ip ++ "\n" ++ "port=" ++ port.repr ++ "\n")

/-! ## Memcached and Rogers -/

/-- The loop of `Site::create_memcached_instances`: the text of `cluster_settings` and the
instances. -/
def memcachedLoop (ipAddrPrefix : String) (count : Int) : String × List InstanceArgs :=
  (List.range count.toNat).foldl
    (fun (clusterSettings, instances) ii =>
      let clusterSettings :=
        if ii = 0 then clusterSettings ++ "servers=" else clusterSettings ++ ","
      let ip := siteIp ipAddrPrefix (ii + 1)
      (clusterSettings ++ ip ++ ":" ++ memcachedPort.repr,
        instances ++ [{ ip := ip, port := memcachedPort, kind := .memcached }]))
    ("", [])

/-- The loop of `Site::create_rogers_instances`. -/
def rogersLoop (ipAddrPrefix siteDir : String) (count : Int) : List InstanceArgs :=
  (List.range count.toNat).foldl
    (fun instances ii => instances ++
      [{ ip := siteIp ipAddrPrefix (ii + 1), port := rogersPort,
         kind := .rogers (siteDir ++ "/cluster_settings") }])
    []

/-! ## Chronos -/

/-- The text of `chronos_shared.conf`. -/
def sharedConf (siteName : String) (deploymentTopology : OrderedMap String Topology) : String :=
  if deploymentTopology.isEmpty then ""
  else
    deploymentTopology.entries.foldl
      (fun sharedConf item =>
        if item.1 = siteName then sharedConf ++ "local_site = " ++ item.1 ++ "\n"
        else sharedConf ++ "remote_site = " ++ item.1 ++ "=" ++ item.2.chronosDomain ++ "\n")
      "[sites]\n"

/-- The text of an instance's own `chronos.conf`. -/
def chronosConf (logLevel logDir ip : String) (port : Int) (dnsIp : String) (dnsPort : Int) :
    String :=
  "[logging]\n"
    ++ "level = " ++ logLevel ++ "\n"
    ++ "folder = " ++ logDir ++ "\n"
    ++ "\n"
    ++ "[dns]\n"
    ++ "servers = " ++ dnsIp ++ "\n"
    ++ "port = " ++ dnsPort.repr ++ "\n"
    ++ "\n"
    ++ "[http]\n"
    ++ "bind-address = " ++ ip ++ "\n"
    ++ "bind-port = " ++ port.repr ++ "\n"
    ++ "\n"
    ++ "[throttling]\n"
    ++ "max_tokens = 1000\n"
    ++ "\n"
    ++ "[cluster]\n"
    ++ "localhost = " ++ ip ++ ":" ++ port.repr ++ "\n"

def chronosDir (siteDir : String) : String := siteDir ++ "/chronos"

/-- The directory of one Chronos instance. -/
def chronosInstanceDir (siteDir : String) (index : Nat) : String :=
  chronosDir siteDir ++ "/instance" ++ index.repr

/-- The members that the constructor `ChronosInstance::ChronosInstance` derives. -/
def chronosArgs (ip : String) (port : Int)
    (instanceDir clusterConfFile sharedConfFile : String) : InstanceArgs :=
  let logDir := instanceDir ++ "/log"
  let confDir := instanceDir ++ "/conf"
  { ip := ip, port := port,
    kind := .chronos instanceDir logDir confDir (confDir ++ "/chronos.conf")
      clusterConfFile sharedConfFile }

/-- The loop of `Site::create_chronos_instances`: the text of `chronos_cluster.conf` and the
instances. -/
def chronosLoop (ipAddrPrefix siteDir : String) (count : Int) : String × List InstanceArgs :=
  (List.range count.toNat).foldl
    (fun (clusterConf, instances) ii =>
      let ip := siteIp ipAddrPrefix (ii + 1)
      (clusterConf ++ "node = " ++ ip ++ ":" ++ chronosPort.repr ++ "\n",
        instances ++
          [chronosArgs ip chronosPort (chronosInstanceDir siteDir (ii + 1))
            (chronosDir siteDir ++ "/chronos_cluster.conf")
            (chronosDir siteDir ++ "/chronos_shared.conf")]))
    ("[cluster]\n", [])

/-! ## The instances the loops create -/

theorem memcachedLoop_instances (ipAddrPrefix : String) (count : Int) :
    (memcachedLoop ipAddrPrefix count).2 = (List.range count.toNat).map fun ii =>
      { ip := siteIp ipAddrPrefix (ii + 1), port := memcachedPort, kind := .memcached } := by
  unfold memcachedLoop
  induction count.toNat with
  | zero => rfl
  | succ n ih =>
    rw [List.range_succ, List.foldl_append, List.map_append, ← ih]
    rfl

theorem rogersLoop_eq (ipAddrPrefix siteDir : String) (count : Int) :
    rogersLoop ipAddrPrefix siteDir count = (List.range count.toNat).map fun ii =>
      { ip := siteIp ipAddrPrefix (ii + 1), port := rogersPort,
        kind := .rogers (siteDir ++ "/cluster_settings") } := by
  unfold rogersLoop
  induction count.toNat with
  | zero => rfl
  | succ n ih =>
    rw [List.range_succ, List.foldl_append, List.map_append, ← ih]
    rfl

theorem chronosLoop_instances (ipAddrPrefix siteDir : String) (count : Int) :
    (chronosLoop ipAddrPrefix siteDir count).2 = (List.range count.toNat).map fun ii =>
      chronosArgs (siteIp ipAddrPrefix (ii + 1)) chronosPort
        (chronosInstanceDir siteDir (ii + 1))
        (chronosDir siteDir ++ "/chronos_cluster.conf")
        (chronosDir siteDir ++ "/chronos_shared.conf") := by
  unfold chronosLoop
  induction count.toNat with
  | zero => rfl
  | succ n ih =>
    rw [List.range_succ, List.foldl_append, List.map_append, ← ih]
    rfl

end ClearwaterFv
