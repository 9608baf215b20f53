import SlurmSetup.Host

/-!
# The mount table: `mount_save_state_disk` and `mount_munge_key_disk` (`setup.py:183-222`)

Both read `/etc/fstab` with `readlines()` and append the line `"{fstab_entry} {options}\n"`
unless `fstab_entry in fstab`. The file is read in text mode (`\r\n` and `\r` read as `\n`),
the lines `readlines` returns keep their `\n`, and `fstab_entry` has neither the options nor a
newline, so the test only ever finds an unterminated last line equal to `fstab_entry`. The line the function appends is never found
again: from a table without that bare line, `n` runs append it `n` times.
-/

namespace SlurmSetup

/-- `/etc/fstab`. -/
def fstabPath : Path := ["etc", "fstab"]

theorem fstabPath_valid : ∀ c ∈ fstabPath, ValidName c := by decide

/-- The line appended for `fstab_entry` (`setup.py:199`, `:219`). -/
def fstabLine (fstabEntry options : String) : String := s!"{fstabEntry} {options}\n"

/-- The text `/etc/fstab` has after the check and the append, from the text `fstab`. -/
def fstabStep (fstabEntry options fstab : String) : String :=
  if fstabEntry ∉ readlines fstab then fstab ++ fstabLine fstabEntry options else fstab

/-- Read `/etc/fstab` and append `"{fstab_entry} {options}\n"` unless `fstab_entry` is one of
its lines (`setup.py:194-199`, `:214-219`). -/
def addFstabEntry (fstabEntry options : String) (fs : Fs) : Except PyError Fs := do
  let fstab := readlines (← fs.readText fstabPath)
  if fstabEntry ∉ fstab then fs.appendText fstabPath (fstabLine fstabEntry options) fstabPath_valid
  else pure fs

/-- `disk_name` of `mount_save_state_disk` (`setup.py:184`). -/
def stateDiskName (deviceName : String) : String := s!"/dev/disk/by-id/google-{deviceName}"

/-- `fstab_entry` of `mount_save_state_disk` (`setup.py:193`). -/
def stateFstabEntry (d : Dirs) (deviceName : String) : String :=
  let diskName := stateDiskName deviceName
  let mountPoint := d.state.str
  s!"{diskName} {mountPoint} ext4"

/-- The disk's device, and `mkfs` on it unless `file -s` reports a filesystem
(`setup.py:188-191`); external commands only. -/
def formatStateDisk (env : Env) (diskName fsType : String) : Except PyError Unit := do
  let rdevice := pyStrip (← run env s!"realpath {diskName}" none true).stdout
  let fileOutput := pyStrip (← run env s!"file -s {rdevice}" none true).stdout
  if !strContains fileOutput "filesystem" then
    discard <| run env s!"mkfs -t {fsType} -q {rdevice}" none true

/-- `mount_save_state_disk()`; `deviceName` is `controller_state_disk.device_name`. -/
def mountSaveStateDisk (u : Util) (env : Env) (d : Dirs) (deviceName : String) (h : Host) :
    Except PyError Host := do
  let diskName := stateDiskName deviceName
  let mountPoint := d.state
  let fsType := "ext4"
  formatStateDisk env diskName fsType
  let fs ← addFstabEntry (stateFstabEntry d deviceName) "defaults 0 0" h.fs
  discard <| run env "systemctl daemon-reload" none true
  let fs ← fs.makedirs mountPoint d.state_valid
  let mountPointStr := mountPoint.str
  discard <| run env s!"mount {mountPointStr}" none true
  u.chownSlurm (h.setFs fs) mountPoint

/-- `state_disk_dir` of `mount_munge_key_disk` (`setup.py:208`). -/
def mungeStateDiskDir : Path := ["var", "spool", "slurm", "munge"]

theorem mungeStateDiskDir_valid : ∀ c ∈ mungeStateDiskDir, ValidName c := by decide

/-- `fstab_entry` of `mount_munge_key_disk` (`setup.py:215`). -/
def mungeFstabEntry (d : Dirs) : String :=
  let stateDiskDir := mungeStateDiskDir.str
  let mountPoint := d.munge.str
  s!"{stateDiskDir} {mountPoint}"

/-- `mount_munge_key_disk()`. -/
def mountMungeKeyDisk (env : Env) (d : Dirs) (h : Host) : Except PyError Host := do
  let stateDiskDir := mungeStateDiskDir
  let mountPoint := d.munge
  let fs ← h.fs.makedirs stateDiskDir mungeStateDiskDir_valid
  let stateDiskDirStr := stateDiskDir.str
  let mountPointStr := mountPoint.str
  discard <| run env s!"mount --bind {stateDiskDirStr} {mountPointStr}" none true
  let fs ← addFstabEntry (mungeFstabEntry d) "none bind 0 0" fs
  discard <| run env "systemctl daemon-reload" none true
  pure (h.setFs fs)

/-! ## One run -/

theorem addFstabEntry_text {fs fs' : Fs} {F e o : String} (hF : fs.readText fstabPath = .ok F)
    (h : addFstabEntry e o fs = .ok fs') : fs'.readText fstabPath = .ok (fstabStep e o F) := by
  obtain ⟨x, hx, h⟩ := bind_eq_ok.1 h
  rw [hF] at hx; cases hx
  unfold fstabStep
  dsimp only at h
  split at h
  · rw [if_pos ‹_›]; exact (Fs.editText_of_file hF h).2.2
  · cases h; rw [if_neg ‹_›]; exact hF

/-- Every run of `f` from `/etc/fstab` text `F` that returns leaves the text
`fstabStep fstabEntry options F`. -/
def FstabEffect (f : Host → Except PyError Host) (fstabEntry options : String) : Prop :=
  ∀ h h' F, h.fs.readText fstabPath = .ok F → f h = .ok h' →
    h'.fs.readText fstabPath = .ok (fstabStep fstabEntry options F)

/-- What a run of `mount_save_state_disk` that returns did to the host: the fstab edit, the mount
point, and `chown_slurm` on it. -/
theorem mountSaveStateDisk_eq_ok {u : Util} {env : Env} {d : Dirs} {deviceName : String} {h h' : Host}
    (e : mountSaveStateDisk u env d deviceName h = .ok h') :
    ∃ fs1 fs2, addFstabEntry (stateFstabEntry d deviceName) "defaults 0 0" h.fs = .ok fs1 ∧
      fs1.makedirs d.state d.state_valid = .ok fs2 ∧ u.chownSlurm (h.setFs fs2) d.state = .ok h' := by
  obtain ⟨_, -, e⟩ := bind_eq_ok.1 e
  obtain ⟨fs1, e1, e⟩ := bind_eq_ok.1 e
  obtain ⟨_, -, e⟩ := bind_eq_ok.1 e
  obtain ⟨fs2, e2, e⟩ := bind_eq_ok.1 e
  obtain ⟨_, -, e⟩ := bind_eq_ok.1 e
  exact ⟨fs1, fs2, e1, e2, e⟩

/-- What a run of `mount_munge_key_disk` that returns did to the host: the directory on the state
disk, then the fstab edit. -/
theorem mountMungeKeyDisk_eq_ok {env : Env} {d : Dirs} {h h' : Host} (e : mountMungeKeyDisk env d h = .ok h') :
    ∃ fs1 fs2, h.fs.makedirs mungeStateDiskDir mungeStateDiskDir_valid = .ok fs1 ∧
      addFstabEntry (mungeFstabEntry d) "none bind 0 0" fs1 = .ok fs2 ∧ h' = h.setFs fs2 := by
  obtain ⟨fs1, e1, e⟩ := bind_eq_ok.1 e
  obtain ⟨_, -, e⟩ := bind_eq_ok.1 e
  obtain ⟨fs2, e2, e⟩ := bind_eq_ok.1 e
  obtain ⟨_, -, e⟩ := bind_eq_ok.1 e
  cases e
  exact ⟨fs1, fs2, e1, e2, rfl⟩

theorem mountSaveStateDisk_fstab (u : Util) (env : Env) (d : Dirs) (deviceName : String) :
    FstabEffect (mountSaveStateDisk u env d deviceName) (stateFstabEntry d deviceName) "defaults 0 0" := by
  intro h h' F hF e
  obtain ⟨fs1, fs2, e1, e2, e3⟩ := mountSaveStateDisk_eq_ok e
  exact Fs.readText_of_grows (u.chownSlurm_grows _ _ _ e3)
    (Fs.readText_of_grows (Fs.makedirs_grows e2) (addFstabEntry_text hF e1))

theorem mountMungeKeyDisk_fstab (env : Env) (d : Dirs) :
    FstabEffect (mountMungeKeyDisk env d) (mungeFstabEntry d) "none bind 0 0" := by
  intro h h' F hF e
  obtain ⟨fs1, fs2, e1, e2, rfl⟩ := mountMungeKeyDisk_eq_ok e
  exact addFstabEntry_text (Fs.readText_of_grows (Fs.makedirs_grows e1) hF) e2

/-! ## Many runs -/

theorem fstabStep_ends_newline (e o F : String) (h : e ∉ readlines F) :
    (fstabStep e o F).toList.getLast? = some '\n' := by
  simp [fstabStep, fstabLine, h, toString, List.getLast?_cons]

theorem repeatRun_fstab {f : Host → Except PyError Host} {e o : String} (hf : FstabEffect f e o)
    (hnl : '\n' ∉ e.toList) : ∀ (n : Nat) (h h' : Host) (F : String), h.fs.readText fstabPath = .ok F →
      repeatRun f n h = .ok h' →
      h'.fs.readText fstabPath =
        .ok (if e ∈ readlines F then F else (· ++ fstabLine e o)^[n] F)
  | 0, h, h', F, hF, hr => by
    cases hr
    split <;> exact hF
  | n + 1, h, h', F, hF, hr => by
    rw [repeatRun_succ] at hr
    obtain ⟨h1, e1, hr⟩ := bind_eq_ok.1 hr
    rw [repeatRun_fstab hf hnl n h1 h' _ (hf h h1 F hF e1) hr]
    by_cases hm : e ∈ readlines F
    · simp [fstabStep, hm]
    · have hm' : e ∉ readlines (fstabStep e o F) := not_mem_readlines (fstabStep_ends_newline e o F hm) hnl
      rw [if_neg hm', if_neg hm, Function.iterate_succ_apply]
      simp only [fstabStep, hm, not_false_eq_true, if_true]

/-- An empty `/etc/fstab`; slurm's state directory `/st`. -/
def emptyFstabFs : Fs where
  root := .dir [("etc", .dir [("fstab", .file "")]), ("st", .dir [])]
  owner := fun _ => Owner.root
  valid := by simp [Node.NamesValid, Node.EntriesValid, ValidName]
  nodup := by simp [Node.NamesNodup, Node.EntriesNamesNodup]
  rootDir := rfl

/-- A host with an empty `/etc/fstab`. -/
def emptyFstabHost : Host where
  fs := emptyFstabFs
  slurm := ⟨100, 100⟩
  munge := ⟨5, 5⟩
  log := []

/-- **Every run appends the line once more.** From an `/etc/fstab` text `F` that does not have
the entry as a line of its own (every table whose last line ends in a newline), `n` runs of
`mount_save_state_disk` that return leave `F` followed by `n` copies of its line, and `n` runs of
`mount_munge_key_disk` likewise with its own line. -/
theorem mountFstab_runs (u : Util) (env : Env) (d : Dirs) (deviceName : String) (n : Nat) {h h' : Host}
    {F : String} (hF : h.fs.readText fstabPath = .ok F) :
    ('\n' ∉ (stateFstabEntry d deviceName).toList → stateFstabEntry d deviceName ∉ readlines F →
      repeatRun (mountSaveStateDisk u env d deviceName) n h = .ok h' →
      h'.fs.readText fstabPath = .ok ((· ++ fstabLine (stateFstabEntry d deviceName) "defaults 0 0")^[n] F)) ∧
    ('\n' ∉ (mungeFstabEntry d).toList → mungeFstabEntry d ∉ readlines F →
      repeatRun (mountMungeKeyDisk env d) n h = .ok h' →
      h'.fs.readText fstabPath = .ok ((· ++ fstabLine (mungeFstabEntry d) "none bind 0 0")^[n] F)) := by
  constructor
  · intro hnl hm hr
    rw [repeatRun_fstab (mountSaveStateDisk_fstab u env d deviceName) hnl n h h' F hF hr, if_neg hm]
  · intro hnl hm hr
    rw [repeatRun_fstab (mountMungeKeyDisk_fstab env d) hnl n h h' F hF hr, if_neg hm]

theorem mountFstab_runs_empty :
    ∃ h', repeatRun (mountSaveStateDisk Util.basic quietEnv smallDirs "state") 2 emptyFstabHost = .ok h' ∧
      h'.fs.readText fstabPath = .ok ((· ++ fstabLine (stateFstabEntry smallDirs "state") "defaults 0 0")^[2] "") :=
  ⟨_, rfl, (mountFstab_runs Util.basic quietEnv smallDirs "state" 2 (h := emptyFstabHost) rfl).1 (by decide)
    (by decide) rfl⟩

/-- Two runs from an empty table: each function's line is there twice. -/
theorem mountFstab_twice :
    (repeatRun (mountSaveStateDisk Util.basic quietEnv smallDirs "state") 2 emptyFstabHost).map
        (fun h => h.fs.readText fstabPath) =
      .ok (.ok "/dev/disk/by-id/google-state /st ext4 defaults 0 0\n/dev/disk/by-id/google-state /st ext4 defaults 0 0\n") ∧
    (repeatRun (mountMungeKeyDisk quietEnv smallDirs) 2 emptyFstabHost).map (fun h => h.fs.readText fstabPath) =
      .ok (.ok "/var/spool/slurm/munge /m none bind 0 0\n/var/spool/slurm/munge /m none bind 0 0\n") :=
  ⟨rfl, rfl⟩

end SlurmSetup
