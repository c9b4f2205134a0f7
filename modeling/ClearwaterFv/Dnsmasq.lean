import ClearwaterFv.Fixtures
import ClearwaterFv.Layout
import ClearwaterFv.Reasoning.Lines

/-!
# Dnsmasq — the DNS records that dnsmasq serves, and the file they are kept in

`DnsmasqInstance::write_config` flattens a map of vectors into lines, one for each name and
address.  Read back, the lines give the address to listen at and the vector of every name.  The
file is named after the address, so instances with different addresses have different files.
-/

open Reasoning Reasoning.Decimal Reasoning.Lines Reasoning.Paths Reasoning.Prog

namespace ClearwaterFv

/-! ## Reading the file back -/

/-- A line of the dnsmasq configuration. -/
inductive DnsmasqEntry where
  | listenAddress (ip : String)
  | port (port : Int)
  | hostRecord (name ip : String)
deriving DecidableEq

def readDnsmasqLine (line : String) : Option DnsmasqEntry :=
  match after? "listen-address=" line with
  | some ip => some (.listenAddress ip)
  | none =>
    match after? "port=" line with
    | some port => (decimal? port).map .port
    | none => ((after? "host-record=" line).bind (pair? ',')).map fun r => .hostRecord r.1 r.2

/-- The entries of a file, of which every line must be one, but for empty lines. -/
def readDnsmasq (text : String) : List DnsmasqEntry :=
  (((lines text).filter (· ≠ "")).mapM readDnsmasqLine).getD []

def DnsmasqEntry.listenAddress? : DnsmasqEntry → Option String
  | listenAddress ip => some ip
  | _ => none

def DnsmasqEntry.port? : DnsmasqEntry → Option Int
  | port p => some p
  | _ => none

def DnsmasqEntry.addressOf? (name : String) : DnsmasqEntry → Option String
  | hostRecord name' ip => if name' = name then some ip else none
  | _ => none

/-- The addresses and ports to listen at, and the addresses of a name, that a file lists. -/
def listenAddresses (text : String) : List String :=
  (readDnsmasq text).filterMap DnsmasqEntry.listenAddress?

def listenPorts (text : String) : List Int := (readDnsmasq text).filterMap DnsmasqEntry.port?

def addressesOf (name text : String) : List String :=
  (readDnsmasq text).filterMap (DnsmasqEntry.addressOf? name)

/-- The vector that a map holds for a name, with the empty one for a name it does not have. -/
def recordsAt (aRecords : OrderedMap String (List String)) (name : String) : List String :=
  (aRecords.at? name).getD []

section

variable {ip ip' : String} {port port' : Int} {aRecords aRecords' : OrderedMap String (List String)}

-- neither a comma nor a line break
def FieldSafe (s : String) : Prop := ',' ∉ s.toList ∧ '\n' ∉ s.toList

/-- The names and the addresses hold no comma and no line break. -/
def RecordsSafe (aRecords : OrderedMap String (List String)) : Prop :=
  ∀ e ∈ aRecords.entries, FieldSafe e.1 ∧ ∀ a ∈ e.2, FieldSafe a

/-- The line that is written for an entry. -/
def DnsmasqEntry.line : DnsmasqEntry → String
  | .listenAddress ip => "listen-address=" ++ ip
  | .port port => "port=" ++ port.repr
  | .hostRecord name ip => "host-record=" ++ (name ++ "," ++ ip)

def DnsmasqEntry.Safe : DnsmasqEntry → Prop
  | .listenAddress ip => '\n' ∉ ip.toList
  | .port _ => True
  | .hostRecord name ip => FieldSafe name ∧ FieldSafe ip

/-- The records of one entry of the map. -/
def hostRecords (e : String × List String) : List DnsmasqEntry := e.2.map (.hostRecord e.1)

def dnsmasqEntries (ip : String) (port : Int) (aRecords : OrderedMap String (List String)) :
    List DnsmasqEntry :=
  .listenAddress ip :: .port port :: aRecords.entries.flatMap hostRecords

theorem dnsmasqConfig_eq_unlines :
    dnsmasqConfig ip port aRecords =
      unlines ((dnsmasqEntries ip port aRecords).map DnsmasqEntry.line) := by
  have hbody : (fun (ofs : String) (i : String × List String) =>
      i.2.foldl (fun ofs ip => ofs ++ "host-record=" ++ i.1 ++ "," ++ ip ++ "\n") ofs) =
      fun ofs i => ofs ++ unlines ((hostRecords i).map DnsmasqEntry.line) := by
    funext ofs i
    rw [hostRecords, List.map_map, ← foldl_append_line]
    simp only [Function.comp, DnsmasqEntry.line, String.append_assoc]
  unfold dnsmasqConfig
  rw [hbody, foldl_append_unlines, dnsmasqEntries, List.map_cons, List.map_cons, List.map_flatMap]
  simp only [unlines, DnsmasqEntry.line, String.append_assoc]

section

variable {e : DnsmasqEntry}

theorem line_ne_empty (e : DnsmasqEntry) : e.line ≠ "" := by
  intro h
  have hlist := congrArg String.toList h
  cases e with
  | _ =>
    rw [DnsmasqEntry.line, String.toList_append] at hlist
    cases hlist

theorem line_no_break (he : e.Safe) : '\n' ∉ e.line.toList := by
  cases e with
  | listenAddress ip =>
    rw [DnsmasqEntry.line, String.toList_append, List.mem_append, not_or]
    exact ⟨by decide, he⟩
  | port p =>
    rw [DnsmasqEntry.line, String.toList_append, List.mem_append, not_or]
    exact ⟨by decide, not_mem_int_repr (by decide) (by decide)⟩
  | hostRecord name ip =>
    simp only [DnsmasqEntry.line, String.toList_append, List.mem_append, not_or]
    exact ⟨by decide, ⟨he.1.2, by decide⟩, he.2.2⟩

-- The lines of different kinds are told apart by their first characters.
theorem readDnsmasqLine_line (he : e.Safe) : readDnsmasqLine e.line = some e := by
  cases e with
  | listenAddress ip =>
    unfold readDnsmasqLine DnsmasqEntry.line
    rw [after?_append]
  | port p =>
    have hlisten : after? "listen-address=" ("port=" ++ p.repr) = none :=
      after?_head_ne _ (c := 'l') (d := 'p') (by decide) (by decide) (by decide)
    unfold readDnsmasqLine DnsmasqEntry.line
    rw [hlisten, after?_append]
    simp only [decimal?_repr, Option.map_some]
  | hostRecord name ip =>
    have hlisten : after? "listen-address=" ("host-record=" ++ (name ++ "," ++ ip)) = none :=
      after?_head_ne _ (c := 'l') (d := 'h') (by decide) (by decide) (by decide)
    have hport : after? "port=" ("host-record=" ++ (name ++ "," ++ ip)) = none :=
      after?_head_ne _ (c := 'p') (d := 'h') (by decide) (by decide) (by decide)
    have hcomma : ("," : String).toList = [','] := by decide
    unfold readDnsmasqLine DnsmasqEntry.line
    rw [hlisten, hport, after?_append]
    simp only [Option.bind_some, pair?_append hcomma he.1.1 he.2.1, Option.map_some]

-- Entries are read back from their lines.
theorem readDnsmasq_unlines {es : List DnsmasqEntry} (hes : ∀ e ∈ es, e.Safe) :
    readDnsmasq (unlines (es.map DnsmasqEntry.line)) = es := by
  have hbreak : ∀ l ∈ es.map DnsmasqEntry.line, '\n' ∉ l.toList := by
    intro l hl
    obtain ⟨e, he, rfl⟩ := List.mem_map.mp hl
    exact line_no_break (hes e he)
  have hne : ∀ l ∈ es.map DnsmasqEntry.line, l ≠ "" := by
    intro l hl
    obtain ⟨e, -, rfl⟩ := List.mem_map.mp hl
    exact line_ne_empty e
  have hread : (es.map DnsmasqEntry.line).mapM readDnsmasqLine = some (es.map id) :=
    mapM_map_of_read fun e he => readDnsmasqLine_line (hes e he)
  unfold readDnsmasq
  rw [filter_lines_unlines hbreak hne, hread, List.map_id, Option.getD_some]

end

theorem dnsmasqEntries_safe (hip : '\n' ∉ ip.toList) (hsafe : RecordsSafe aRecords) :
    ∀ e ∈ dnsmasqEntries ip port aRecords, e.Safe := by
  intro e he
  rcases List.mem_cons.mp he with rfl | he
  · exact hip
  rcases List.mem_cons.mp he with rfl | he
  · exact trivial
  obtain ⟨r, hr, he⟩ := List.mem_flatMap.mp he
  obtain ⟨a, ha, rfl⟩ := List.mem_map.mp he
  exact ⟨(hsafe r hr).1, (hsafe r hr).2 a ha⟩

-- The file is read back as the address to listen at and the records of the map.
theorem readDnsmasq_dnsmasqConfig (hip : '\n' ∉ ip.toList) (hsafe : RecordsSafe aRecords) :
    readDnsmasq (dnsmasqConfig ip port aRecords) =
      .listenAddress ip :: .port port :: aRecords.entries.flatMap hostRecords := by
  rw [dnsmasqConfig_eq_unlines, readDnsmasq_unlines (dnsmasqEntries_safe hip hsafe), dnsmasqEntries]

theorem filterMap_hostRecords_eq_nil {β : Type} (f : DnsmasqEntry → Option β)
    (hf : ∀ name ip, f (.hostRecord name ip) = none) (es : List (String × List String)) :
    (es.flatMap hostRecords).filterMap f = [] := by
  rw [List.filterMap_eq_nil_iff]
  intro entry hentry
  obtain ⟨e, -, hentry⟩ := List.mem_flatMap.mp hentry
  obtain ⟨a, -, rfl⟩ := List.mem_map.mp hentry
  exact hf e.1 a

theorem listenAddresses_dnsmasqConfig (hip : '\n' ∉ ip.toList) (hsafe : RecordsSafe aRecords) :
    listenAddresses (dnsmasqConfig ip port aRecords) = [ip] := by
  unfold listenAddresses
  rw [readDnsmasq_dnsmasqConfig hip hsafe]
  change ip :: (aRecords.entries.flatMap hostRecords).filterMap _ = [ip]
  rw [filterMap_hostRecords_eq_nil _ fun _ _ => rfl]

theorem listenPorts_dnsmasqConfig (hip : '\n' ∉ ip.toList) (hsafe : RecordsSafe aRecords) :
    listenPorts (dnsmasqConfig ip port aRecords) = [port] := by
  unfold listenPorts
  rw [readDnsmasq_dnsmasqConfig hip hsafe]
  change port :: (aRecords.entries.flatMap hostRecords).filterMap _ = [port]
  rw [filterMap_hostRecords_eq_nil _ fun _ _ => rfl]

-- The records of one entry that are of the given name.
theorem filterMap_addressOf (name : String) (e : String × List String) :
    (hostRecords e).filterMap (DnsmasqEntry.addressOf? name) = if e.1 = name then e.2 else [] := by
  unfold hostRecords
  rw [List.filterMap_map]
  by_cases hname : e.1 = name
  · have hall : DnsmasqEntry.addressOf? name ∘ DnsmasqEntry.hostRecord e.1 = some := by
      funext a
      exact if_pos hname
    rw [if_pos hname, hall, List.filterMap_some]
  · have hnone : DnsmasqEntry.addressOf? name ∘ DnsmasqEntry.hostRecord e.1 = fun _ => none := by
      funext a
      exact if_neg hname
    rw [if_neg hname, hnone, List.filterMap_eq_nil_iff]
    exact fun _ _ => rfl

-- Every name gets its own vector back, and a name that the map does not have gets none.
theorem addressesOf_dnsmasqConfig (hip : '\n' ∉ ip.toList) (hsafe : RecordsSafe aRecords)
    (name : String) :
    addressesOf name (dnsmasqConfig ip port aRecords) = recordsAt aRecords name := by
  unfold addressesOf recordsAt
  rw [readDnsmasq_dnsmasqConfig hip hsafe, ← OrderedMap.flatMap_at_key]
  change (aRecords.entries.flatMap hostRecords).filterMap _ = _
  rw [List.filterMap_flatMap]
  exact congrArg (aRecords.entries.flatMap ·) (funext (filterMap_addressOf name))

-- Two maps with the same text hold the same vector for every name.
theorem recordsAt_of_dnsmasqConfig_eq (hip : '\n' ∉ ip.toList) (hip' : '\n' ∉ ip'.toList)
    (hsafe : RecordsSafe aRecords) (hsafe' : RecordsSafe aRecords')
    (h : dnsmasqConfig ip port aRecords = dnsmasqConfig ip' port' aRecords') (name : String) :
    recordsAt aRecords name = recordsAt aRecords' name := by
  rw [← addressesOf_dnsmasqConfig hip hsafe, h, addressesOf_dnsmasqConfig hip' hsafe']

/-! ## The name of the file -/

theorem dnsmasqCfgfile_eq (ip : String) (port : Int) :
    dnsmasqCfgfile ip port = ip ++ "_" ++ (port.repr ++ ("_" ++ "_dnsmasq.cfg")) := by
  unfold dnsmasqCfgfile
  simp only [String.append_assoc]

-- The first underscore of the name ends the IP.
theorem dnsmasqCfgfile_ne (hip : '_' ∉ ip.toList) (hip' : '_' ∉ ip'.toList)
    (hne : (ip, port) ≠ (ip', port')) : dnsmasqCfgfile ip port ≠ dnsmasqCfgfile ip' port' := by
  intro h
  have hunderscore : ("_" : String).toList = ['_'] := by decide
  rw [dnsmasqCfgfile_eq, dnsmasqCfgfile_eq] at h
  obtain ⟨hips, hports⟩ := append_sep_inj hunderscore hip hip' h
  have hport := int_repr_injective ((String.append_left_inj _).mp hports)
  exact hne (by rw [hips, hport])

-- Without a slash in the IP the name stands for an entry of the working directory.
theorem dnsmasqCfgfile_plain (hip : '/' ∉ ip.toList) (port : Int) :
    Plain (dnsmasqCfgfile ip port) where
  ne_empty := append_ne_of_length (by decide)
  ne_dot := append_ne_of_length (by decide)
  ne_dotdot := append_ne_of_length (by decide)
  no_slash := by
    unfold dnsmasqCfgfile
    simp only [String.toList_append, List.mem_append, not_or]
    exact ⟨⟨⟨⟨hip, by decide⟩, not_mem_int_repr (by decide) (by decide)⟩, by decide⟩, by decide⟩

theorem resolve_dnsmasqCfgfile_ne (cwd : Path) (hip : '/' ∉ ip.toList) (hip' : '/' ∉ ip'.toList)
    (hne : dnsmasqCfgfile ip port ≠ dnsmasqCfgfile ip' port') :
    resolve cwd (dnsmasqCfgfile ip' port') ≠ resolve cwd (dnsmasqCfgfile ip port) := by
  rw [resolve_plain cwd (dnsmasqCfgfile_plain hip port),
    resolve_plain cwd (dnsmasqCfgfile_plain hip' port')]
  intro h
  exact hne (List.singleton_inj.mp (List.append_cancel_left h)).symm

/-- The members that the constructor `DnsmasqInstance::DnsmasqInstance` sets. -/
def dnsmasqArgs (ip : String) (port : Int) : InstanceArgs where
  ip := ip
  port := port
  kind := .dnsmasq (dnsmasqCfgfile ip port)

/-- Creating or destroying one instance leaves what is in the file of another. -/
def SparesFile (ip : String) (port : Int) (ip' : String) (port' : Int) : Prop :=
  ∀ (K : Kernel) (m : Machine),
    (∀ aRecords, (K.run (newDnsmasqInstance ip port aRecords) m).2.world.files
      (resolve m.world.cwd (dnsmasqCfgfile ip' port')) =
        m.world.files (resolve m.world.cwd (dnsmasqCfgfile ip' port'))) ∧
    ∀ self, m.world.objects self = some (dnsmasqArgs ip port) →
      (K.run (destroyInstance self) m).2.world.files
        (resolve m.world.cwd (dnsmasqCfgfile ip' port')) =
          m.world.files (resolve m.world.cwd (dnsmasqCfgfile ip' port'))

variable (K : Kernel) (m : Machine)

theorem files_newDnsmasqInstance :
    (K.run (newDnsmasqInstance ip port aRecords) m).2.world.files =
      m.world.files.writeFile (resolve m.world.cwd (dnsmasqCfgfile ip port))
        (dnsmasqConfig ip port aRecords) := rfl

theorem files_destroyInstance_dnsmasq {self : Inst}
    (hobject : m.world.objects self = some (dnsmasqArgs ip port)) :
    (K.run (destroyInstance self) m).2.world.files =
      m.world.files.remove (resolve m.world.cwd (dnsmasqCfgfile ip port)) := by
  rw [files_destroyInstance K m self hobject]
  rfl

theorem sparesFile (hip : '/' ∉ ip.toList) (hip' : '/' ∉ ip'.toList)
    (hne : dnsmasqCfgfile ip port ≠ dnsmasqCfgfile ip' port') : SparesFile ip port ip' port' := by
  intro K m
  have hpath := resolve_dnsmasqCfgfile_ne m.world.cwd hip hip' hne
  constructor
  · intro aRecords
    rw [files_newDnsmasqInstance]
    exact FileTree.writeFile_other hpath
  · intro self hobject
    rw [files_destroyInstance_dnsmasq K m hobject]
    exact FileTree.remove_other hpath

end

/-- The configuration of dnsmasq is read back from the file that the constructor writes, the text
determines the records, and instances with different addresses keep their files apart. -/
theorem dnsmasqConfig_roundTrip :
    (∀ (K : Kernel) (m : Machine) (ip : String) (port : Int)
        (aRecords : OrderedMap String (List String)),
      '\n' ∉ ip.toList → RecordsSafe aRecords →
      ∃ text, (K.run (newDnsmasqInstance ip port aRecords) m).2.world.files
          (resolve m.world.cwd (dnsmasqCfgfile ip port)) = some (.file text) ∧
        listenAddresses text = [ip] ∧ listenPorts text = [port] ∧
        ∀ name, addressesOf name text = recordsAt aRecords name) ∧
    (∀ (ip ip' : String) (port port' : Int) (aRecords aRecords' : OrderedMap String (List String)),
      '\n' ∉ ip.toList → '\n' ∉ ip'.toList → RecordsSafe aRecords → RecordsSafe aRecords' →
      dnsmasqConfig ip port aRecords = dnsmasqConfig ip' port' aRecords' →
      ∀ name, recordsAt aRecords name = recordsAt aRecords' name) ∧
    ∀ (ip ip' : String) (port port' : Int), '_' ∉ ip.toList → '_' ∉ ip'.toList →
      (ip, port) ≠ (ip', port') →
      dnsmasqCfgfile ip port ≠ dnsmasqCfgfile ip' port' ∧
      ('/' ∉ ip.toList → '/' ∉ ip'.toList →
        SparesFile ip port ip' port' ∧ SparesFile ip' port' ip port) := by
  refine ⟨?_, ?_, ?_⟩
  · intro K m ip port aRecords hip hsafe
    refine ⟨dnsmasqConfig ip port aRecords, FileTree.writeFile_self, ?_, ?_, ?_⟩
    · exact listenAddresses_dnsmasqConfig hip hsafe
    · exact listenPorts_dnsmasqConfig hip hsafe
    · exact addressesOf_dnsmasqConfig hip hsafe
  · intro ip ip' port port' aRecords aRecords' hip hip' hsafe hsafe' h
    exact recordsAt_of_dnsmasqConfig_eq hip hip' hsafe hsafe' h
  · intro ip ip' port port' hip hip' hne
    have hname := dnsmasqCfgfile_ne hip hip' hne
    exact ⟨hname, fun hslash hslash' =>
      ⟨sparesFile hslash hslash' hname, sparesFile hslash' hslash hname.symm⟩⟩

/-- Records of three names, one of which begins another; one address is there twice. -/
def siteRecords : OrderedMap String (List String) :=
  ((OrderedMap.empty.insert "rogers.site1" ["127.0.1.2", "127.0.1.1", "127.0.1.2"]).insert
    "chronos.site1" ["127.0.1.1", "127.0.1.2"]).insert "rogers.site" ["127.0.2.1"]

/-- An instance with these records, one whose map has a name with no address as well, and one at the
next port. -/
theorem dnsmasqConfig_roundTrip_threeNames :
    (∃ text, (Kernel.obliging.run (newDnsmasqInstance "127.0.0.1" 5353 siteRecords)
        (Machine.initial (fun _ => 0) (fun _ => none) [] none)).2.world.files
          (resolve [] (dnsmasqCfgfile "127.0.0.1" 5353)) = some (.file text) ∧
      listenAddresses text = ["127.0.0.1"] ∧ listenPorts text = [5353] ∧
      addressesOf "rogers.site1" text = ["127.0.1.2", "127.0.1.1", "127.0.1.2"] ∧
      addressesOf "chronos.site1" text = ["127.0.1.1", "127.0.1.2"] ∧
      addressesOf "rogers.site" text = ["127.0.2.1"] ∧ addressesOf "rogers" text = []) ∧
    (∀ name, recordsAt siteRecords name =
      recordsAt (siteRecords.insert "chronos.site2" []) name) ∧
    dnsmasqCfgfile "127.0.0.1" 5353 ≠ dnsmasqCfgfile "127.0.0.1" 5354 ∧
    SparesFile "127.0.0.1" 5353 "127.0.0.1" 5354 ∧
    SparesFile "127.0.0.1" 5354 "127.0.0.1" 5353 := by
  have hsafe : RecordsSafe siteRecords := by
    unfold RecordsSafe FieldSafe
    decide
  have hsafe' : RecordsSafe (siteRecords.insert "chronos.site2" []) := by
    unfold RecordsSafe FieldSafe
    decide
  refine ⟨?_, ?_, ?_⟩
  · obtain ⟨text, hfile, haddresses, hports, hrecords⟩ :=
      dnsmasqConfig_roundTrip.1 Kernel.obliging
        (Machine.initial (fun _ => 0) (fun _ => none) [] none) "127.0.0.1" 5353 siteRecords
        (by decide) hsafe
    exact ⟨text, hfile, haddresses, hports, (hrecords _).trans (by decide),
      (hrecords _).trans (by decide), (hrecords _).trans (by decide),
      (hrecords _).trans (by decide)⟩
  · exact dnsmasqConfig_roundTrip.2.1 "127.0.0.1" "127.0.0.1" 5353 5353 _ _ (by decide) (by decide)
      hsafe hsafe' (by decide +kernel)
  · have h := dnsmasqConfig_roundTrip.2.2 "127.0.0.1" "127.0.0.1" 5353 5354 (by decide)
      (by decide) (by decide)
    exact ⟨h.1, h.2 (by decide) (by decide)⟩

/-- With a slash in the IP two different names may stand for one file. -/
theorem dnsmasqConfig_roundTrip_slash :
    '_' ∉ "127.0.0.1".toList ∧ '_' ∉ "./127.0.0.1".toList ∧
    ("./127.0.0.1", (5353 : Int)) ≠ ("127.0.0.1", 5353) ∧
    ¬ SparesFile "./127.0.0.1" 5353 "127.0.0.1" 5353 := by
  refine ⟨by decide, by decide, by decide, ?_⟩
  intro h
  have hpath : resolve [] (dnsmasqCfgfile "127.0.0.1" 5353) =
      resolve [] (dnsmasqCfgfile "./127.0.0.1" 5353) := by decide
  have hspared := (h Kernel.obliging
    (Machine.initial (fun _ => 0) (fun _ => none) [] none)).1 OrderedMap.empty
  rw [files_newDnsmasqInstance] at hspared
  change FileTree.writeFile _ (resolve [] (dnsmasqCfgfile "./127.0.0.1" 5353)) _
    (resolve [] (dnsmasqCfgfile "127.0.0.1" 5353)) = none at hspared
  rw [hpath, FileTree.writeFile_self] at hspared
  cases hspared

end ClearwaterFv
