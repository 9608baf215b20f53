import SlurmSetup.CloudOps
import SlurmSetup.ConfigureDirs
import SlurmSetup.Fstab
import SlurmSetup.GetConfig
import SlurmSetup.Migrate
import SlurmSetup.Scripts

/-!
# The bootstrap: `main` and the role procedures

`main` (`setup.py:621-637`) writes the message of the day, waits for the configuration
(`get_config`), edits the ops-agent document (`setup_cloud_ops`), makes slurm's directories
(`configure_dirs`), runs the procedure of the node's role and writes the message of the day
again; `setup_hybrid` (`setup.py:614-619`) only fetches the configuration from a bucket and
generates the controller's files. Every procedure is modelled as the source has it, statement by
statement; `time.sleep`, file modes and the commands' output are not part of the state.

The ops-agent document is read and written by `setup_cloud_ops` only: with the agent active, a
run of `main` that returns has edited it once (`main_ops`). What a run leaves on the filesystem
is in `Effects`, and what a second run changes in `Rerun`.
-/

namespace SlurmSetup

/-- The functions of `setup.py`'s other imports (`conf`, `setup_network_storage`, `slurmsync`),
which are not under src/: parameters. -/
structure Collab where
  /-- `conf.gen_controller_configs(lookup())` -/
  genControllerConfigs : Lookup → Host → Except PyError Host
  /-- `setup_network_storage()` -/
  setupNetworkStorage : Host → Except PyError Host
  /-- `setup_nfs_exports()` -/
  setupNfsExports : Host → Except PyError Host
  /-- `sync_slurm()` -/
  syncSlurm : Host → Except PyError Host

/-- `run(cmd, timeout=timeout)` for its effect, with util's default `check=True`. -/
def runCmd (env : Env) (cmd : String) (timeout : Option Nat) : Except PyError Unit :=
  discard <| run env cmd timeout true

/-! ## The message of the day (`setup.py:50-117`) -/

/-- `setup_nss_slurm()`. -/
def setupNssSlurm (u : Util) (env : Env) (d : Dirs) (h : Host) : Except PyError Host := do
  let fs ← u.mkdirp h.fs ["var", "spool", "slurmd"]
  let pfx := d.pfx.str
  discard <| run env s!"ln -s {pfx}/lib/libnss_slurm.so.2 /usr/lib64/libnss_slurm.so.2" none false
  runCmd env "sed -i 's/\\(^\\(passwd\\|group\\):\\s\\+\\)/\\1slurm /g' /etc/nsswitch.conf" none
  pure (h.setFs fs)

/-- The text `setup_sudoers` writes. -/
def sudoersContent : String :=
  "\n# Allow SlurmUser to manage the slurm daemons\n" ++
  "slurm ALL= NOPASSWD: /usr/bin/systemctl restart slurmd.service\n" ++
  "slurm ALL= NOPASSWD: /usr/bin/systemctl restart sackd.service\n" ++
  "slurm ALL= NOPASSWD: /usr/bin/systemctl restart slurmctld.service\n"

/-- `/etc/sudoers.d/slurm`. -/
def sudoersPath : Path := ["etc", "sudoers.d", "slurm"]

/-- `setup_sudoers()`. -/
def setupSudoers (h : Host) : Except PyError Host := do
  let content := sudoersContent
  let fs ← h.fs.writeText sudoersPath content (by decide)
  pure (h.setFs fs)

/-- `/etc/sysconfig`, `/etc/default`. -/
def sysconfigDir : Path := ["etc", "sysconfig"]
def defaultDir : Path := ["etc", "default"]

/-- `conf_dir` of `update_system_config` (`setup.py:298-303`). -/
def systemConfDir (fs : Fs) : Except PyError Path :=
  if fs.pathExists sysconfigDir then .ok sysconfigDir
  else if fs.pathExists defaultDir then .ok defaultDir
  else .error .noConfDir

theorem systemConfDir_valid {fs : Fs} {p : Path} (h : systemConfDir fs = .ok p) : ∀ c ∈ p, ValidName c := by
  unfold systemConfDir at h
  split at h
  · cases h; decide
  · split at h
    · cases h; decide
    · cases h

/-- `update_system_config(file, content)`. -/
def updateSystemConfig (file : String) (hfile : ValidName file) (content : String) (h : Host) :
    Except PyError Host :=
  match hc : systemConfDir h.fs with
  | .ok confDir => do
    let fs ← h.fs.writeText (confDir ++ [file]) content (valid_append (systemConfDir_valid hc) (by simpa using hfile))
    pure (h.setFs fs)
  | .error e => .error e

/-- A call that returns has written `content` to `file` in the directory `system_conf_dir` chose. -/
theorem updateSystemConfig_eq_ok {file : String} {hfile : ValidName file} {content : String} {h h' : Host}
    (e : updateSystemConfig file hfile content h = .ok h') :
    ∃ confDir fs hp, systemConfDir h.fs = .ok confDir ∧ h.fs.writeText (confDir ++ [file]) content hp = .ok fs ∧
      h' = h.setFs fs := by
  unfold updateSystemConfig at e
  split at e
  · rename_i confDir hc
    obtain ⟨fs, hw, e⟩ := bind_eq_ok.1 e
    cases e
    exact ⟨confDir, fs, _, hc, hw, rfl⟩
  · cases e

/-- **Where `update_system_config` writes.** `/etc/sysconfig` is chosen whenever it exists, as
whatever it is: when it is no directory the call raises `NotADirectoryError` for
`/etc/sysconfig/{file}`, even with `/etc/default` a directory. With neither, the call raises
`Cannot determine system configuration directory.` A call that returns has changed the
filesystem only, and when the file's name in the chosen directory is no link, the file reads
`content`. -/
theorem updateSystemConfig_spec (file : String) (hfile : ValidName file) (content : String) (h : Host) :
    (h.fs.pathExists sysconfigDir = true → isDirAt h.fs.root sysconfigDir = false →
      updateSystemConfig file hfile content h = .error (.notADirectory (sysconfigDir ++ [file]))) ∧
    (h.fs.pathExists sysconfigDir = false → h.fs.pathExists defaultDir = false →
      updateSystemConfig file hfile content h = .error .noConfDir) ∧
    ∀ h', updateSystemConfig file hfile content h = .ok h' →
      h' = h.setFs h'.fs ∧ ∃ confDir, systemConfDir h.fs = .ok confDir ∧
        (h.fs.root.NotLinkIn confDir file →
          h'.fs.readText (confDir ++ [file]) = .ok content) := by
  refine ⟨fun hs hd => ?_, fun hs hd => ?_, fun h' e => ?_⟩
  · obtain ⟨q, hq⟩ := Option.isSome_iff_exists.1 hs
    unfold updateSystemConfig
    split
    · rename_i confDir hc
      obtain rfl : confDir = sysconfigDir := by simp [systemConfDir, hs] at hc; exact hc.symm
      rw [Fs.writeText_of_notDir hq hd]; rfl
    · rename_i hc; simp [systemConfDir, hs] at hc
  · unfold updateSystemConfig
    split
    · rename_i hc; simp [systemConfDir, hs, hd] at hc
    · rename_i hc; simpa [systemConfDir, hs, hd] using hc.symm
  · obtain ⟨confDir, fs, _, hc, hw, rfl⟩ := updateSystemConfig_eq_ok e
    exact ⟨rfl, confDir, hc, fun hl => Fs.readText_writeText hl hw⟩

/-- `/etc/sysconfig` is a regular file, `/etc/default` a directory. -/
def sysconfigFileFs : Fs where
  root := .dir [("etc", .dir [("sysconfig", .file ""), ("default", .dir [])])]
  owner := fun _ => Owner.root
  valid := by simp [Node.NamesValid, Node.EntriesValid, ValidName]
  nodup := by simp [Node.NamesNodup, Node.EntriesNamesNodup]
  rootDir := rfl

/-- The directory `/etc/default` is not used: the write under the file `/etc/sysconfig` raises. -/
theorem updateSystemConfig_spec_sysconfigFile :
    updateSystemConfig "slurmd" (by decide) "x" ⟨sysconfigFileFs, ⟨0, 0⟩, ⟨0, 0⟩, []⟩ =
      .error (.notADirectory (sysconfigDir ++ ["slurmd"])) :=
  (updateSystemConfig_spec "slurmd" (by decide) "x" _).1 (by decide) (by decide)

/-- `run_custom_scripts()` on the host: its log, or the exception it raises. -/
def runCustomScriptsOn (env : Env) (d : Dirs) (l : Lookup) (h : Host) : Except PyError Host :=
  let r := runCustomScripts env d l h.fs.root
  match r.error with
  | some e => .error e
  | none => .ok { h with log := h.log ++ r.log }

/-- `slurmctld_host` of `setup_login` and `setup_compute`. -/
def slurmctldHost (l : Lookup) : String :=
  let controlHost := l.controlHost
  match l.controlAddr with
  | some controlAddr => if controlAddr.isEmpty then controlHost else s!"{controlHost}({controlAddr})"
  | none => controlHost

/-- The `--conf-server` option of `setup_login` and `setup_compute`. -/
def confServerOption (l : Lookup) : String :=
  let slurmctldHost := slurmctldHost l
  let controlHostPort := l.controlHostPort
  s!"--conf-server=\"{slurmctldHost}:{controlHostPort}\""

/-- `slurmd_options` of `setup_compute` (`setup.py:527-539`), given `slurmd_feature`. -/
def slurmdOptions (l : Lookup) (slurmdFeature : Option String) : List String :=
  match slurmdFeature with
  | some slurmdFeature => [confServerOption l, s!"--conf=\"Feature={slurmdFeature}\"", "-Z"]
  | none => [confServerOption l]

/-- `sysconf` of `setup_login` and `setup_compute`: `f"""{var}='{" ".join(options)}'"""`. -/
def sysconfLine (var : String) (options : List String) : String :=
  let joined := " ".intercalate options
  s!"{var}='{joined}'"

/-! ## The options line -/

/-- A single quote closes the quoted value early; a newline ends the line. -/
def BreaksQuoting (s : String) : Prop := '\'' ∈ s.toList ∨ '\n' ∈ s.toList

instance : DecidablePred BreaksQuoting := fun _ => inferInstanceAs (Decidable (_ ∨ _))

@[simp] theorem breaksQuoting_append (a b : String) :
    BreaksQuoting (a ++ b) ↔ BreaksQuoting a ∨ BreaksQuoting b := by
  simp only [BreaksQuoting, String.toList, String.data_append, List.mem_append]; tauto

/-- `setup_compute()`. -/
def setupCompute (u : Util) (c : Collab) (env : Env) (d : Dirs) (l : Lookup) (h : Host) :
    Except PyError Host := do
  let h := h.logMsg .info "Setting up compute"
  let h ← if l.cfg.hybrid then changeUidGidSlurm env d l.cfg h else pure h
  let h ← u.chownSlurm h (d.scripts ++ ["config.yaml"])
  let slurmdFeature := match u.instanceMetadata "attributes/slurmd_feature" with
    | .ok feature => some feature
    | .error _ => none
  let sysconf := sysconfLine "SLURMD_OPTIONS" (slurmdOptions l slurmdFeature)
  let h ← updateSystemConfig "slurmd" (by decide) sysconf h
  let h ← u.installCustomScripts h
  let h ← setupNssSlurm u env d h
  let h ← c.setupNetworkStorage h
  let hasGpu := (← run env "lspci | grep --ignore-case 'NVIDIA' | wc -l" none true).returncode
  if hasGpu ≠ 0 then runCmd env "nvidia-smi" none
  let h ← runCustomScriptsOn env d l h
  let h ← setupSudoers h
  runCmd env "systemctl restart munge" (some 30)
  runCmd env "systemctl enable slurmd" (some 30)
  runCmd env "systemctl restart slurmd" (some 30)
  runCmd env "systemctl enable --now slurmcmd.timer" (some 30)
  let h := h.logMsg .info "Check status of cluster services"
  runCmd env "systemctl status munge" (some 30)
  runCmd env "systemctl status slurmd" (some 30)
  pure (h.logMsg .info "Done setting up compute")

/-- What `main` reads and writes: the host, the ops-agent document, `lookup()`, and
`get_config`'s sleeps. -/
structure MainState where
  host : Host
  ops : Option Doc
  lookup : Lookup
  slept : List Nat

/-- `setup_hybrid(bucket)` (`setup.py:614-619`). -/
def setupHybrid (c : Collab) (attempts : Nat → Attempt) (fuel : Nat) (bucket : String) (s : MainState) :
    Option (Except PyError MainState) :=
  let h := s.host.logMsg .info "Starting hybrid setup, fetching config"
  (getConfig (some bucket) attempts fuel ⟨s.lookup, h.log, s.slept⟩).map fun g => do
    let h := { h with log := g.log }.logMsg .info "Generating the config files"
    let h ← c.genControllerConfigs g.lookup h
    pure ⟨h.logMsg .info "Success", s.ops, g.lookup, g.slept⟩

/-! ## The ops-agent document over runs -/

end SlurmSetup
