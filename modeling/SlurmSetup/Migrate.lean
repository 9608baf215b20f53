import SlurmSetup.Host

/-!
# Hybrid identity migration: `change_uid_gid_slurm` (`setup.py:492-515`)

If slurm's gid (then uid) in the identity tables differs from `hybrid_conf`'s, it is changed
with `groupmod` (then `usermod`); a failing command is logged and ends the function. If an id
was to change, four trees are remapped: `slurmdirs.home` without a guard, then
`slurmdirs.etc`, `cfg.slurm_log_dir` and `dirs.slurm` guarded by slurm's previous ids.

`remapSlurm_spec` gives the whole effect of the four walks: the home tree's entries all end
`uid:gid`, whoever owned them; in the three other trees only slurm's entries move. `migPlan` lists the steps of one run (the two table changes and every single
`_my_chown`), and `changeUidGidSlurm_eq_plan` shows the function is that list run in order, so a
run stopped early (killed, or a `stat` raising) has done a prefix of it, which changed the owners
of the entries its steps reached and no other (`foldlM_run_frame`). `need_chown` is read off the
tables: once a stopped run has changed them, a later run no longer remaps.
-/

namespace SlurmSetup

/-- The `groupmod` command line (`setup.py:498`). -/
def groupmodCmd (gid : Int) : String := s!"groupmod -g {gid} slurm"

/-- The `usermod` command line (`setup.py:507`). -/
def usermodCmd (uid : Int) : String := s!"usermod -u {uid} slurm"

/-- `groupmod -g {v} slurm` / `usermod -u {v} slurm`: both tools refuse an id outside
`[0, uidMax)` with exit code 3; otherwise the environment answers. -/
def idModAnswer (env : Env) (cmd : String) (v : Int) : Answer :=
  if 0 ≤ v ∧ v < uidMax then env cmd else { env cmd with returncode := 3 }

/-- The four `recursive_chown` calls (`setup.py:512-515`). -/
def remapSlurm (d : Dirs) (logDir : Path) (uid gid curUid curGid : Int) (fs : Fs) :
    Except PyError Fs := do
  let fs ← recursiveChown d.home uid gid (-1) (-1) fs
  let fs ← recursiveChown d.etc uid gid curUid curGid fs
  let fs ← recursiveChown logDir uid gid curUid curGid fs
  recursiveChown d.slurm uid gid curUid curGid fs

/-- `if need_chown:` with the four calls (`setup.py:511-515`). -/
def remapIfNeeded (d : Dirs) (cfg : Config) (curUid curGid : Nat) (need : Bool) (h : Host) :
    Except PyError Host :=
  if need then
    (remapSlurm d cfg.slurmLogDir cfg.hybridConf.slurmUid cfg.hybridConf.slurmGid curUid curGid h.fs).map
      h.setFs
  else .ok h

/-- The uid block of `change_uid_gid_slurm` and what follows it (`setup.py:503-515`); `need` is
`need_chown` after the gid block. -/
def changeUidSlurm (env : Env) (d : Dirs) (cfg : Config) (curGid : Nat) (need : Bool) (h : Host) :
    Except PyError Host := do
  let uid := cfg.hybridConf.slurmUid
  let curUid := h.slurm.uid
  if (curUid : Int) ≠ uid then
    let cmd := usermodCmd uid
    let urc ← runAnswer cmd (idModAnswer env cmd uid) none true
    let rc := urc.returncode
    let out := urc.stdout
    let err := urc.stderr
    if rc ≠ 0 then
      return h.logMsg .error s!"Cannot change the uid of slurm rc={rc} stdout={out} stderr={err}"
    remapIfNeeded d cfg curUid curGid true (h.setSlurmUid uid.toNat)
  else remapIfNeeded d cfg curUid curGid need h

/-- `change_uid_gid_slurm()`. -/
def changeUidGidSlurm (env : Env) (d : Dirs) (cfg : Config) (h : Host) : Except PyError Host := do
  let gid := cfg.hybridConf.slurmGid
  let curGid := h.slurm.gid
  if (curGid : Int) ≠ gid then
    let cmd := groupmodCmd gid
    let grc ← runAnswer cmd (idModAnswer env cmd gid) none true
    let rc := grc.returncode
    let out := grc.stdout
    let err := grc.stderr
    if rc ≠ 0 then
      return h.logMsg .error s!"Cannot change the gid of slurm rc={rc} stdout={out} stderr={err}"
    changeUidSlurm env d cfg curGid true (h.setSlurmGid gid.toNat)
  else changeUidSlurm env d cfg curGid false h

/-! ## The four walks -/

section
variable {d : Dirs} {logDir : Path} {uid gid cu cg : Int}

theorem recursiveChown_root {path : Path} {pu pg : Int} {s s' : Fs}
    (h : recursiveChown path uid gid pu pg s = .ok s') : s'.root = s.root := by
  rw [recursiveChown_ok_eq h]
  rfl

theorem recursiveChown_withOwner {fs : Fs} {path : Path} {pu pg : Int} (o : Path → Owner)
    (hu : ChownArgOk uid) (hg : ChownArgOk gid)
    (hres : ∀ q ∈ chownTargets fs.root path, (resolve fs.root q).isSome) :
    recursiveChown path uid gid pu pg (fs.withOwner o) =
      .ok (fs.withOwner (guardedOn uid gid pu pg (chownReach fs.root path) o)) :=
  foldlM_myChown hu hg _ (fs.withOwner o) hres

/-- Every path one of the four walks visits resolves. -/
def RemapResolves (d : Dirs) (logDir : Path) (t : Node) : Prop :=
  ∀ path ∈ [d.home, d.etc, logDir, d.slurm], ∀ q ∈ chownTargets t path, (resolve t q).isSome

/-- The owners the four walks leave. -/
def remapOwners (d : Dirs) (logDir : Path) (t : Node) (uid gid cu cg : Int) (o : Path → Owner) :
    Path → Owner :=
  guardedOn uid gid cu cg (chownReach t d.slurm) <| guardedOn uid gid cu cg (chownReach t logDir) <|
    guardedOn uid gid cu cg (chownReach t d.etc) <| guardedOn uid gid (-1) (-1) (chownReach t d.home) o

theorem remapSlurm_spec {fs : Fs} (hu : ChownArgOk uid) (hg : ChownArgOk gid)
    (hres : RemapResolves d logDir fs.root) :
    remapSlurm d logDir uid gid cu cg fs = .ok (fs.withOwner (remapOwners d logDir fs.root uid gid cu cg fs.owner)) := by
  simp only [RemapResolves, List.mem_cons, List.mem_singleton, List.not_mem_nil, or_false,
    forall_eq_or_imp, forall_eq] at hres
  obtain ⟨h1, h2, h3, h4⟩ := hres
  rw [remapSlurm, ← Fs.withOwner_self fs, recursiveChown_withOwner _ hu hg h1]
  simp only [bind, Except.bind, recursiveChown_withOwner _ hu hg h2, recursiveChown_withOwner _ hu hg h3,
    recursiveChown_withOwner _ hu hg h4, Fs.withOwner_withOwner]
  rfl

/-- An id the identity tables can hold. -/
def RealId (v : Int) : Prop := 0 ≤ v ∧ v < uidMax

instance (v : Int) : Decidable (RealId v) := inferInstanceAs (Decidable (_ ∧ _))

theorem chownArg_realId {v : Int} (hv : RealId v) : chownArg v = .ok (some v.toNat) := by
  unfold RealId uidMax at hv
  unfold chownArg uidMax
  rw [if_neg (by omega), if_pos hv]

theorem setId_realId {v : Int} (hv : RealId v) (cur : Nat) : setId v cur = v.toNat := by
  simp [setId, chownArg_realId hv]

theorem guarded_unguarded (hu : RealId uid) (hg : RealId gid) (o : Owner) :
    guarded uid gid (-1) (-1) o = ⟨uid.toNat, gid.toNat⟩ := by
  simp [guarded, pickId, setId_realId hu, setId_realId hg]

theorem guarded_target (hu : RealId uid) (hg : RealId gid) (pu pg : Int) :
    guarded uid gid pu pg ⟨uid.toNat, gid.toNat⟩ = ⟨uid.toNat, gid.toNat⟩ := by
  simp only [guarded, pickId]
  congr 1 <;> split <;> simp [setId_realId hu, setId_realId hg]

/-- **What the four walks do** with real ids: every entry the home walk reaches ends `uid:gid`;
every other entry one of the three guarded walks reaches gets the guarded update; every other
entry keeps its ids. -/
theorem remapOwners_apply {t : Node} (o : Path → Owner) (hu : RealId uid) (hg : RealId gid) (r : Path) :
    remapOwners d logDir t uid gid cu cg o r =
      if r ∈ chownReach t d.home then ⟨uid.toNat, gid.toNat⟩
      else if r ∈ chownReach t d.etc ∨ r ∈ chownReach t logDir ∨ r ∈ chownReach t d.slurm then
        guarded uid gid cu cg (o r)
      else o r := by
  simp only [remapOwners, guardedOn]
  by_cases hh : r ∈ chownReach t d.home
  · simp [hh, guarded_unguarded hu hg, guarded_target hu hg]
  · simp only [hh, if_false]
    by_cases he : r ∈ chownReach t d.etc <;> by_cases hl : r ∈ chownReach t logDir <;>
      by_cases hs : r ∈ chownReach t d.slurm <;> simp [he, hl, hs, guarded_idem]

end

/-! ## One run as a list of steps -/

/-- One step of a run of `change_uid_gid_slurm` whose commands succeed. -/
inductive MigStep where
  | groupmod (gid : Nat)
  | usermod (uid : Nat)
  | chown (p : Path) (uid gid previousUid previousGid : Int)

/-- Doing one step. -/
def MigStep.run (h : Host) : MigStep → Except PyError Host
  | .groupmod g => .ok (h.setSlurmGid g)
  | .usermod u => .ok (h.setSlurmUid u)
  | .chown p uid gid pu pg => (myChown uid gid pu pg h.fs p).map h.setFs

/-- The `_my_chown` steps of one walk. -/
def chownSteps (t : Node) (path : Path) (uid gid pu pg : Int) : List MigStep :=
  (chownTargets t path).map fun p => .chown p uid gid pu pg

/-- The `_my_chown` steps of the four walks, in order. -/
def remapSteps (d : Dirs) (logDir : Path) (t : Node) (uid gid cu cg : Int) : List MigStep :=
  chownSteps t d.home uid gid (-1) (-1) ++ chownSteps t d.etc uid gid cu cg ++
    chownSteps t logDir uid gid cu cg ++ chownSteps t d.slurm uid gid cu cg

/-- The table changes of one run from `h`. -/
def idSteps (cfg : Config) (h : Host) : List MigStep :=
  (if (h.slurm.gid : Int) ≠ cfg.hybridConf.slurmGid then [.groupmod cfg.hybridConf.slurmGid.toNat] else []) ++
  (if (h.slurm.uid : Int) ≠ cfg.hybridConf.slurmUid then [.usermod cfg.hybridConf.slurmUid.toNat] else [])

/-- The steps of one run from `h`, its commands succeeding. -/
def migPlan (d : Dirs) (cfg : Config) (h : Host) : List MigStep :=
  idSteps cfg h ++
  (if (h.slurm.gid : Int) ≠ cfg.hybridConf.slurmGid ∨ (h.slurm.uid : Int) ≠ cfg.hybridConf.slurmUid then
    remapSteps d cfg.slurmLogDir h.fs.root cfg.hybridConf.slurmUid cfg.hybridConf.slurmGid h.slurm.uid
      h.slurm.gid else [])

theorem foldlM_chownSteps {uid gid pu pg : Int} :
    ∀ (L : List Path) (h : Host),
      (L.map fun p => MigStep.chown p uid gid pu pg).foldlM MigStep.run h =
        (L.foldlM (myChown uid gid pu pg) h.fs).map h.setFs
  | [], h => by simp [Host.setFs, pure, Except.pure, Except.map]
  | p :: L, h => by
    simp only [List.map_cons, List.foldlM_cons, MigStep.run]
    cases hp : myChown uid gid pu pg h.fs p with
    | error e => rfl
    | ok s => simpa [Except.map, bind, Except.bind] using foldlM_chownSteps L (h.setFs s)

/-- The four walks as data: path and guard. -/
def remapWalks (d : Dirs) (logDir : Path) (cu cg : Int) : List (Path × Int × Int) :=
  [(d.home, -1, -1), (d.etc, cu, cg), (logDir, cu, cg), (d.slurm, cu, cg)]

/-- The walks of `W` one after the other, in the list's order, stopping at the first that raises. -/
def runWalks (uid gid : Int) (W : List (Path × Int × Int)) (fs : Fs) : Except PyError Fs :=
  W.foldlM (fun fs w => recursiveChown w.1 uid gid w.2.1 w.2.2 fs) fs

theorem remapSlurm_eq_foldlM (d : Dirs) (logDir : Path) (uid gid cu cg : Int) (fs : Fs) :
    remapSlurm d logDir uid gid cu cg fs =
      (remapWalks d logDir cu cg).foldlM (fun fs w => recursiveChown w.1 uid gid w.2.1 w.2.2 fs) fs := by
  simp only [remapSlurm, remapWalks, List.foldlM_cons, List.foldlM_nil, bind_pure]

theorem remapSteps_eq_flatMap (d : Dirs) (logDir : Path) (t : Node) (uid gid cu cg : Int) :
    remapSteps d logDir t uid gid cu cg =
      (remapWalks d logDir cu cg).flatMap fun w => chownSteps t w.1 uid gid w.2.1 w.2.2 := by
  simp [remapSteps, remapWalks, List.flatMap]

theorem foldlM_walks {t : Node} {uid gid : Int} :
    ∀ (W : List (Path × Int × Int)) (h : Host), h.fs.root = t →
      (W.flatMap fun w => chownSteps t w.1 uid gid w.2.1 w.2.2).foldlM MigStep.run h =
        (W.foldlM (fun fs w => recursiveChown w.1 uid gid w.2.1 w.2.2 fs) h.fs).map h.setFs
  | [], h, _ => by simp [Host.setFs, pure, Except.pure, Except.map]
  | w :: W, h, ht => by
    rw [List.flatMap_cons, List.foldlM_append, List.foldlM_cons, chownSteps, foldlM_chownSteps]
    unfold recursiveChown
    rw [ht]
    cases e : (chownTargets t w.1).foldlM (myChown uid gid w.2.1 w.2.2) h.fs with
    | error err => rfl
    | ok fs1 =>
      have hr : fs1.root = t := by
        rw [← ht]; exact @recursiveChown_root uid gid w.1 w.2.1 w.2.2 h.fs fs1 (by unfold recursiveChown; rw [ht]; exact e)
      simpa [Except.map, bind, Except.bind, Host.setFs] using foldlM_walks W (h.setFs fs1) hr

/-- The remap of a run is its `_my_chown` steps done in order. -/
theorem remapIfNeeded_true_eq (d : Dirs) (cfg : Config) (cu cg : Nat) (h : Host) :
    remapIfNeeded d cfg cu cg true h =
      (remapSteps d cfg.slurmLogDir h.fs.root cfg.hybridConf.slurmUid cfg.hybridConf.slurmGid cu cg).foldlM
        MigStep.run h := by
  rw [remapSteps_eq_flatMap, foldlM_walks _ h rfl, remapIfNeeded, if_pos rfl, remapSlurm_eq_foldlM]

/-! ## A small host -/

/-- Home `/h` holds root's file `f`, the configuration `/e` slurm's file `g`. -/
def smallFs : Fs where
  root := .dir [("h", .dir [("f", .file "")]), ("e", .dir [("g", .file "")]), ("l", .dir []), ("s", .dir [])]
  owner := fun p => if p = ["h", "f"] then Owner.root else ⟨100, 100⟩
  valid := by simp [Node.NamesValid, Node.EntriesValid, ValidName]
  nodup := by simp [Node.NamesNodup, Node.EntriesNamesNodup]
  rootDir := rfl

/-- Slurm is to move to `200:200`, logging to `/l`. -/
def smallCfg : Config where
  stateDiskDevice := none
  cloudsqlSecret := none
  slurmClusterName := "c"
  hybrid := true
  hybridConf := ⟨200, 200⟩
  slurmLogDir := ["l"]
  controllerTimeout := none
  computeTimeout := none
  loginTimeout := none

/-- Slurm is `100:100`. -/
def smallHost : Host where
  fs := smallFs
  slurm := ⟨100, 100⟩
  munge := ⟨5, 5⟩
  log := []

/-! ## A run -/

/-- The command starts and exits 0. -/
def Answer.Succeeds (a : Answer) : Prop := a.startFails = false ∧ a.returncode = 0

instance (a : Answer) : Decidable a.Succeeds := inferInstanceAs (Decidable (_ ∧ _))

/-- `groupmod` and `usermod` would both succeed: real ids, and the system says 0. -/
def IdCmdsSucceed (env : Env) (cfg : Config) : Prop :=
  (idModAnswer env (groupmodCmd cfg.hybridConf.slurmGid) cfg.hybridConf.slurmGid).Succeeds ∧
  (idModAnswer env (usermodCmd cfg.hybridConf.slurmUid) cfg.hybridConf.slurmUid).Succeeds

theorem realId_of_idModAnswer {env : Env} {cmd : String} {v : Int}
    (h : (idModAnswer env cmd v).Succeeds) : RealId v := by
  replace h := h.2
  unfold idModAnswer at h
  split at h
  · assumption
  · simp at h

instance (env : Env) (cfg : Config) : Decidable (IdCmdsSucceed env cfg) :=
  inferInstanceAs (Decidable (_ ∧ _))

instance (d : Dirs) (logDir : Path) (t : Node) : Decidable (RemapResolves d logDir t) :=
  inferInstanceAs (Decidable (∀ _ ∈ _, _))

theorem chownArgOk_of_realId {v : Int} (h : RealId v) : ChownArgOk v := by
  unfold RealId at h; unfold ChownArgOk; omega

section
variable {env : Env} {d : Dirs} {cfg : Config} {h : Host}

/-- A run whose commands succeed is its plan done in order. -/
theorem changeUidGidSlurm_eq_plan (hc : IdCmdsSucceed env cfg) :
    changeUidGidSlurm env d cfg h = (migPlan d cfg h).foldlM MigStep.run h := by
  obtain ⟨hg, hu⟩ := hc
  by_cases hgd : (h.slurm.gid : Int) = cfg.hybridConf.slurmGid <;>
    by_cases hud : (h.slurm.uid : Int) = cfg.hybridConf.slurmUid
  · simp [changeUidGidSlurm, changeUidSlurm, remapIfNeeded, migPlan, idSteps, hgd, hud, pure, Except.pure]
  · simp only [changeUidGidSlurm, changeUidSlurm, hgd, hud, ne_eq, not_true_eq_false, if_false,
      not_false_eq_true, if_true, runAnswer_ok hu.1 hu.2, bind, Except.bind, migPlan, idSteps, List.nil_append,
      false_or, List.singleton_append, List.foldlM_cons, MigStep.run]
    rw [if_neg (by simpa using hu.2), remapIfNeeded_true_eq, hgd]
    rfl
  · simp only [changeUidGidSlurm, changeUidSlurm, hgd, hud, ne_eq, not_true_eq_false, if_false,
      not_false_eq_true, if_true, runAnswer_ok hg.1 hg.2, bind, Except.bind, migPlan, idSteps, List.append_nil,
      or_false, List.singleton_append, List.foldlM_cons, MigStep.run, Host.setSlurmGid_slurm]
    rw [if_neg (by simpa using hg.2), remapIfNeeded_true_eq, hud]
    rfl
  · simp only [changeUidGidSlurm, changeUidSlurm, hgd, hud, ne_eq, not_false_eq_true, if_true,
      runAnswer_ok hg.1 hg.2, runAnswer_ok hu.1 hu.2, bind, Except.bind, migPlan, idSteps, or_self,
      List.singleton_append, List.cons_append, List.foldlM_cons, MigStep.run, Host.setSlurmGid_slurm]
    rw [if_neg (by simpa using hg.2), if_neg (by simpa using hu.2), remapIfNeeded_true_eq]
    rfl

theorem guarded_realId {uid gid : Int} (hu : RealId uid) (hg : RealId gid) (cu cg : Nat) (o : Owner) :
    guarded uid gid cu cg o =
      ⟨if o.uid = cu then uid.toNat else o.uid, if o.gid = cg then gid.toNat else o.gid⟩ := by
  simp only [guarded, pickId]
  congr 1
  · by_cases hx : o.uid = cu
    · simp [hx, setId_realId hu]
    · have : ¬ ((o.uid : Int) = cu) := by omega
      simp [this, hx]
  · by_cases hx : o.gid = cg
    · simp [hx, setId_realId hg]
    · have : ¬ ((o.gid : Int) = cg) := by omega
      simp [this, hx]

/-- The host after a run that changes the ids and completes its walks. -/
def migrated (d : Dirs) (cfg : Config) (h : Host) : Host :=
  { h with
    slurm := ⟨cfg.hybridConf.slurmUid.toNat, cfg.hybridConf.slurmGid.toNat⟩
    fs := h.fs.withOwner (remapOwners d cfg.slurmLogDir h.fs.root cfg.hybridConf.slurmUid
      cfg.hybridConf.slurmGid h.slurm.uid h.slurm.gid h.fs.owner) }

theorem remapIfNeeded_true_ok {cu cg : Nat} {h1 : Host} (hu : RealId cfg.hybridConf.slurmUid)
    (hg : RealId cfg.hybridConf.slurmGid) (hres : RemapResolves d cfg.slurmLogDir h1.fs.root) :
    remapIfNeeded d cfg cu cg true h1 = .ok (h1.setFs (h1.fs.withOwner (remapOwners d cfg.slurmLogDir
      h1.fs.root cfg.hybridConf.slurmUid cfg.hybridConf.slurmGid cu cg h1.fs.owner))) := by
  rw [remapIfNeeded, if_pos rfl, remapSlurm_spec (chownArgOk_of_realId hu) (chownArgOk_of_realId hg) hres]
  rfl

/-- The table changes of a run set slurm's ids to the configured ones. -/
theorem foldlM_idSteps (hu : RealId cfg.hybridConf.slurmUid) (hg : RealId cfg.hybridConf.slurmGid) :
    (idSteps cfg h).foldlM MigStep.run h =
      .ok { h with slurm := ⟨cfg.hybridConf.slurmUid.toNat, cfg.hybridConf.slurmGid.toNat⟩ } := by
  unfold RealId at hu hg
  obtain ⟨fs, ⟨u, g⟩, munge, log⟩ := h
  by_cases hgd : (g : Int) = cfg.hybridConf.slurmGid <;> by_cases hud : (u : Int) = cfg.hybridConf.slurmUid <;>
    simp [idSteps, hgd, hud, MigStep.run, Host.setSlurmGid, Host.setSlurmUid, pure, Except.pure, bind,
      Except.bind] <;> omega

/-- From a host whose ids are the configured ones the plan is empty. -/
theorem migPlan_configured (hg : (h.slurm.gid : Int) = cfg.hybridConf.slurmGid)
    (hu : (h.slurm.uid : Int) = cfg.hybridConf.slurmUid) : migPlan d cfg h = [] := by
  simp [migPlan, idSteps, hg, hu]

theorem changeUidGidSlurm_ok (hc : IdCmdsSucceed env cfg)
    (hne : (h.slurm.uid : Int) ≠ cfg.hybridConf.slurmUid ∨ (h.slurm.gid : Int) ≠ cfg.hybridConf.slurmGid)
    (hres : RemapResolves d cfg.slurmLogDir h.fs.root) :
    changeUidGidSlurm env d cfg h = .ok (migrated d cfg h) := by
  have ru := realId_of_idModAnswer hc.2
  have rg := realId_of_idModAnswer hc.1
  rw [changeUidGidSlurm_eq_plan hc, migPlan, if_pos hne.symm, List.foldlM_append, foldlM_idSteps ru rg]
  exact (remapIfNeeded_true_eq d cfg _ _ _).symm.trans (remapIfNeeded_true_ok ru rg hres)

/-- **`change_uid_gid_slurm` when `groupmod` and `usermod` succeed and an id changes**: the
tables then hold the configured ids, the tree is unchanged, every entry the
`slurmdirs.home` walk reaches is owned by the configured ids whoever owned it, every other entry
the `slurmdirs.etc`, `slurm_log_dir` or `dirs.slurm` walk reaches has its uid (gid) set to the
configured one exactly when it was slurm's previous uid (gid), and every other entry keeps its
ids. -/
theorem changeUidGidSlurm_spec (hc : IdCmdsSucceed env cfg)
    (hne : (h.slurm.uid : Int) ≠ cfg.hybridConf.slurmUid ∨ (h.slurm.gid : Int) ≠ cfg.hybridConf.slurmGid)
    (hres : RemapResolves d cfg.slurmLogDir h.fs.root) :
    ∃ h', changeUidGidSlurm env d cfg h = .ok h' ∧
      h'.slurm = ⟨cfg.hybridConf.slurmUid.toNat, cfg.hybridConf.slurmGid.toNat⟩ ∧
      h'.fs.root = h.fs.root ∧
      ∀ r, h'.fs.owner r =
        if r ∈ chownReach h.fs.root d.home then
          ⟨cfg.hybridConf.slurmUid.toNat, cfg.hybridConf.slurmGid.toNat⟩
        else if r ∈ chownReach h.fs.root d.etc ∨ r ∈ chownReach h.fs.root cfg.slurmLogDir ∨
            r ∈ chownReach h.fs.root d.slurm then
          ⟨if (h.fs.owner r).uid = h.slurm.uid then cfg.hybridConf.slurmUid.toNat else (h.fs.owner r).uid,
           if (h.fs.owner r).gid = h.slurm.gid then cfg.hybridConf.slurmGid.toNat else (h.fs.owner r).gid⟩
        else h.fs.owner r := by
  refine ⟨_, changeUidGidSlurm_ok hc hne hres, rfl, rfl, fun r => ?_⟩
  rw [migrated, Fs.withOwner_owner, remapOwners_apply _ (realId_of_idModAnswer hc.2)
    (realId_of_idModAnswer hc.1), guarded_realId (realId_of_idModAnswer hc.2) (realId_of_idModAnswer hc.1)]

theorem changeUidGidSlurm_spec_small :
    ∃ h', changeUidGidSlurm quietEnv smallDirs smallCfg smallHost = .ok h' ∧
      h'.slurm = ⟨200, 200⟩ ∧ h'.fs.root = smallFs.root ∧
      ∀ r, h'.fs.owner r =
        if r ∈ chownReach smallFs.root ["h"] then ⟨200, 200⟩
        else if r ∈ chownReach smallFs.root ["e"] ∨ r ∈ chownReach smallFs.root ["l"] ∨
            r ∈ chownReach smallFs.root ["s"] then
          ⟨if (smallFs.owner r).uid = 100 then 200 else (smallFs.owner r).uid,
           if (smallFs.owner r).gid = 100 then 200 else (smallFs.owner r).gid⟩
        else smallFs.owner r :=
  changeUidGidSlurm_spec (by decide) (by decide) (by decide)

/-- The unguarded home walk hands root's file `/h/f` to slurm's new ids. -/
theorem changeUidGidSlurm_home_foreign :
    ∃ h', changeUidGidSlurm quietEnv smallDirs smallCfg smallHost = .ok h' ∧
      smallHost.fs.owner ["h", "f"] = Owner.root ∧ h'.fs.owner ["h", "f"] = ⟨200, 200⟩ :=
  ⟨_, rfl, rfl, rfl⟩

end

/-! ## The error branches

`change_uid_gid_slurm` logs `Cannot change the gid (uid) of slurm ...` and returns when
`groupmod` (`usermod`) exits non-zero (`setup.py:499-501`, `:508-510`). It calls util's `run` with
its default `check=True`, which raises `CalledProcessError` first: those lines never run. -/

section
variable {env : Env} {d : Dirs} {cfg : Config}

theorem remapIfNeeded_frame {cu cg : Nat} {need : Bool} {h h' : Host}
    (e : remapIfNeeded d cfg cu cg need h = .ok h') : h'.log = h.log ∧ h'.fs.root = h.fs.root := by
  unfold remapIfNeeded at e
  split at e
  · cases hr : remapSlurm d cfg.slurmLogDir cfg.hybridConf.slurmUid cfg.hybridConf.slurmGid cu cg h.fs with
    | error _ => simp [hr, Except.map] at e
    | ok fs =>
      simp only [hr, Except.map, Except.ok.injEq] at e
      subst e
      rw [remapSlurm_eq_foldlM] at hr
      exact ⟨rfl, foldlM_rel (R := fun s s' : Fs => s'.root = s.root) (fun _ => rfl)
        (fun _ _ _ h1 h2 => h2.trans h1) (fun _ _ _ => recursiveChown_root) _ _ _ hr⟩
  · cases e; exact ⟨rfl, rfl⟩

/-- What a uid block that returns did: no log record, the tree unchanged, and a `usermod` it ran
succeeded. -/
theorem changeUidSlurm_ok_inv {curGid : Nat} {need : Bool} {h h' : Host}
    (e : changeUidSlurm env d cfg curGid need h = .ok h') :
    h'.log = h.log ∧ h'.fs.root = h.fs.root ∧ ((h.slurm.uid : Int) ≠ cfg.hybridConf.slurmUid →
      (idModAnswer env (usermodCmd cfg.hybridConf.slurmUid) cfg.hybridConf.slurmUid).Succeeds) := by
  unfold changeUidSlurm at e
  dsimp only at e
  split at e
  · obtain ⟨a, ha, e⟩ := bind_eq_ok.1 e
    obtain ⟨rfl, hs, h0⟩ := runAnswer_check ha
    simp only [h0, ne_eq, not_true_eq_false, if_false, pure_bind] at e
    obtain ⟨hl, hr⟩ := remapIfNeeded_frame e
    exact ⟨hl, hr, fun _ => ⟨hs, h0⟩⟩
  · rename_i hud
    exact ⟨(remapIfNeeded_frame e).1, (remapIfNeeded_frame e).2, (absurd · hud)⟩

/-- What a run of `change_uid_gid_slurm` that returns did: no log record, the tree unchanged, and
every id command it ran succeeded. -/
theorem changeUidGidSlurm_ok_inv {h h' : Host} (e : changeUidGidSlurm env d cfg h = .ok h') :
    h'.log = h.log ∧ h'.fs.root = h.fs.root ∧
      ((h.slurm.gid : Int) ≠ cfg.hybridConf.slurmGid →
        (idModAnswer env (groupmodCmd cfg.hybridConf.slurmGid) cfg.hybridConf.slurmGid).Succeeds) ∧
      ((h.slurm.uid : Int) ≠ cfg.hybridConf.slurmUid →
        (idModAnswer env (usermodCmd cfg.hybridConf.slurmUid) cfg.hybridConf.slurmUid).Succeeds) := by
  unfold changeUidGidSlurm at e
  dsimp only at e
  split at e
  · obtain ⟨a, ha, e⟩ := bind_eq_ok.1 e
    obtain ⟨rfl, hs, h0⟩ := runAnswer_check ha
    simp only [h0, ne_eq, not_true_eq_false, if_false, pure_bind] at e
    obtain ⟨hl, hr, hu⟩ := changeUidSlurm_ok_inv e
    exact ⟨hl, hr, fun _ => ⟨hs, h0⟩, hu⟩
  · rename_i hgd
    obtain ⟨hl, hr, hu⟩ := changeUidSlurm_ok_inv e
    exact ⟨hl, hr, fun hne => absurd hne hgd, hu⟩

/-- **The error branches of `change_uid_gid_slurm` never run.** A run that returns normally has
added no record to the log, and every id command it ran (`groupmod` when the gid differs,
`usermod` when the uid differs) started and exited 0: a failing `groupmod` or `usermod` ends the
run with `CalledProcessError`, never with the logged message. -/
theorem changeUidGidSlurm_ok_log {h h' : Host} (e : changeUidGidSlurm env d cfg h = .ok h') :
    h'.log = h.log ∧
      ((h.slurm.gid : Int) ≠ cfg.hybridConf.slurmGid →
        (idModAnswer env (groupmodCmd cfg.hybridConf.slurmGid) cfg.hybridConf.slurmGid).Succeeds) ∧
      ((h.slurm.uid : Int) ≠ cfg.hybridConf.slurmUid →
        (idModAnswer env (usermodCmd cfg.hybridConf.slurmUid) cfg.hybridConf.slurmUid).Succeeds) :=
  let ⟨hl, _, hg, hu⟩ := changeUidGidSlurm_ok_inv e
  ⟨hl, hg, hu⟩

theorem changeUidGidSlurm_ok_log_small :
    ∃ h', changeUidGidSlurm quietEnv smallDirs smallCfg smallHost = .ok h' ∧
      (h'.log = smallHost.log ∧
        ((smallHost.slurm.gid : Int) ≠ smallCfg.hybridConf.slurmGid →
          (idModAnswer quietEnv (groupmodCmd smallCfg.hybridConf.slurmGid) smallCfg.hybridConf.slurmGid).Succeeds) ∧
        ((smallHost.slurm.uid : Int) ≠ smallCfg.hybridConf.slurmUid →
          (idModAnswer quietEnv (usermodCmd smallCfg.hybridConf.slurmUid) smallCfg.hybridConf.slurmUid).Succeeds)) :=
  ⟨_, rfl, changeUidGidSlurm_ok_log (d := smallDirs) rfl⟩

end

/-! ## A later run -/

/-- The steps that leave the identity tables alone. -/
def MigStep.isChown : MigStep → Bool
  | .chown .. => true
  | _ => false

theorem foldlM_chown_slurm : ∀ (L : List MigStep) (h h' : Host), (∀ s ∈ L, s.isChown) →
    L.foldlM MigStep.run h = .ok h' → h'.slurm = h.slurm
  | [], h, h', _, e => by
    simp only [List.foldlM_nil, pure, Except.pure, Except.ok.injEq] at e; rw [e]
  | .chown p uid gid pu pg :: L, h, h', hc, e => by
    rw [List.foldlM_cons] at e
    cases hp : myChown uid gid pu pg h.fs p with
    | error _ => simp [MigStep.run, hp, Except.map, bind, Except.bind] at e
    | ok s =>
      simp only [MigStep.run, hp, Except.map, bind, Except.bind] at e
      exact foldlM_chown_slurm L (h.setFs s) _ (fun s hs => hc s (List.mem_cons_of_mem _ hs)) e
  | .groupmod _ :: _, _, _, hc, _ => absurd (hc _ (List.mem_cons_self _ _)) (by simp [MigStep.isChown])
  | .usermod _ :: _, _, _, hc, _ => absurd (hc _ (List.mem_cons_self _ _)) (by simp [MigStep.isChown])

theorem remapSteps_isChown {d : Dirs} {logDir : Path} {t : Node} {uid gid cu cg : Int} :
    ∀ s ∈ remapSteps d logDir t uid gid cu cg, s.isChown := by
  simp only [remapSteps, chownSteps, List.mem_append, List.mem_map]
  rintro s (((⟨_, _, rfl⟩ | ⟨_, _, rfl⟩) | ⟨_, _, rfl⟩) | ⟨_, _, rfl⟩) <;> rfl

/-- The entry a step's `_my_chown` changes, in the tree `t`. -/
def MigStep.reach (t : Node) : MigStep → List Path
  | .chown p .. => (resolve t p).toList
  | _ => []

/-- One step keeps the tree and every owner but that of the entry it reaches. -/
theorem MigStep.run_frame {h h' : Host} : ∀ {s : MigStep}, s.run h = .ok h' →
    h'.fs.root = h.fs.root ∧ ∀ r ∉ s.reach h.fs.root, h'.fs.owner r = h.fs.owner r
  | .groupmod _, e => by cases e; exact ⟨rfl, fun _ _ => rfl⟩
  | .usermod _, e => by cases e; exact ⟨rfl, fun _ _ => rfl⟩
  | .chown p uid gid pu pg, e => by
    cases hp : myChown uid gid pu pg h.fs p with
    | error _ => simp [MigStep.run, hp, Except.map] at e
    | ok s =>
      simp only [MigStep.run, hp, Except.map, Except.ok.injEq] at e
      subst e
      obtain ⟨q, hq, -, rfl⟩ := myChown_ok_inv hp
      refine ⟨rfl, fun r hr => Function.update_noteq (fun h => hr ?_) _ _⟩
      simp [MigStep.reach, hq, h]

/-- Steps done in order keep the tree and every owner but those of the entries they reach. -/
theorem foldlM_run_frame : ∀ (L : List MigStep) (h h' : Host), L.foldlM MigStep.run h = .ok h' →
    h'.fs.root = h.fs.root ∧ ∀ r ∉ L.flatMap (MigStep.reach h.fs.root), h'.fs.owner r = h.fs.owner r
  | [], h, h', e => by cases e; exact ⟨rfl, fun _ _ => rfl⟩
  | s :: L, h, h', e => by
    rw [List.foldlM_cons] at e
    obtain ⟨h1, e1, e⟩ := bind_eq_ok.1 e
    obtain ⟨hr1, ho1⟩ := MigStep.run_frame e1
    obtain ⟨hr, ho⟩ := foldlM_run_frame L h1 h' e
    refine ⟨hr.trans hr1, fun r hr' => ?_⟩
    simp only [List.flatMap_cons, List.mem_append, not_or] at hr'
    rw [ho r (by rw [hr1]; exact hr'.2), ho1 r hr'.1]

/-- Each walk of a run that returns normally returned normally, from a state with the same tree. -/
theorem runWalks_calls {uid gid : Int} : ∀ {W : List (Path × Int × Int)} {fs fs' : Fs}, runWalks uid gid W fs = .ok fs' →
    ∀ w ∈ W, ∃ s s', s.root = fs.root ∧ recursiveChown w.1 uid gid w.2.1 w.2.2 s = .ok s'
  | [], _, _, _ => by simp
  | w :: W, fs, fs', h => by
    unfold runWalks at h
    rw [List.foldlM_cons] at h
    cases h1 : recursiveChown w.1 uid gid w.2.1 w.2.2 fs with
    | error e => simp [h1, bind, Except.bind] at h
    | ok f1 =>
      simp only [h1, bind, Except.bind] at h
      intro w' hw'
      rcases List.mem_cons.1 hw' with rfl | hw'
      · exact ⟨fs, f1, rfl, h1⟩
      · obtain ⟨s, s', hs, e⟩ := runWalks_calls h w' hw'
        exact ⟨s, s', hs.trans (recursiveChown_root h1), e⟩

theorem foldlM_walks_resolves {uid gid : Int} (W : List (Path × Int × Int)) (fs fs' : Fs)
    (h : W.foldlM (fun fs w => recursiveChown w.1 uid gid w.2.1 w.2.2 fs) fs = .ok fs') :
    ∀ w ∈ W, ∀ q ∈ chownTargets fs.root w.1, (resolve fs.root q).isSome := by
  intro w hw
  obtain ⟨s, s', hs, e⟩ := runWalks_calls h w hw
  exact hs ▸ recursiveChown_resolves e

/-- Four walks that return normally visited only paths that resolve. -/
theorem remapSlurm_resolves {d : Dirs} {logDir : Path} {uid gid cu cg : Int} {fs fs' : Fs}
    (h : remapSlurm d logDir uid gid cu cg fs = .ok fs') : RemapResolves d logDir fs.root := by
  rw [remapSlurm_eq_foldlM] at h
  have := foldlM_walks_resolves _ _ _ h
  simpa [remapWalks, RemapResolves] using this

/-! ## The four walks in any order -/

section
variable {uid gid : Int}

/-- An unguarded walk that returns normally handed `os.chown` the ids on its first entry, so
`os.chown` accepts both. -/
theorem recursiveChown_unguarded_ok {s s' : Fs} {path : Path}
    (h : recursiveChown path uid gid (-1) (-1) s = .ok s') : ChownArgOk uid ∧ ChownArgOk gid := by
  obtain ⟨q, -, hok⟩ := foldlM_myChown_stepOk _ s s' h path (mem_chownTargets.2 (.inl rfl))
  simpa [StepOk, pickId] using hok

/-- Walks whose paths all resolve, with ids `os.chown` accepts, compose their guarded updates. -/
theorem runWalks_eq (hu : ChownArgOk uid) (hg : ChownArgOk gid) :
    ∀ (W : List (Path × Int × Int)) (fs : Fs), (∀ w ∈ W, ∀ q ∈ chownTargets fs.root w.1, (resolve fs.root q).isSome) →
      runWalks uid gid W fs =
        .ok (fs.withOwner (W.foldl (fun o w => guardedOn uid gid w.2.1 w.2.2 (chownReach fs.root w.1) o) fs.owner))
  | [], fs, _ => by simp [runWalks, pure, Except.pure]
  | w :: W, fs, h => by
    have h1 : recursiveChown w.1 uid gid w.2.1 w.2.2 fs = _ := foldlM_myChown hu hg _ fs (h w (List.mem_cons_self _ _))
    have ih := runWalks_eq hu hg W (fs.withOwner (guardedOn uid gid w.2.1 w.2.2 (chownReach fs.root w.1) fs.owner))
      fun w' hw' => h w' (List.mem_cons_of_mem _ hw')
    simp only [Fs.withOwner_root, Fs.withOwner_owner, Fs.withOwner_withOwner] at ih
    unfold runWalks at ih ⊢
    rw [List.foldlM_cons, h1]
    exact ih

/-- **The four walks of `change_uid_gid_slurm` in any order.** For every tree, whatever the ids
and however the four trees overlap, when the walks made in one order all return normally, they
return normally in every other order too and leave the same state, so every entry the same
ids: the unguarded home walk shows that `os.chown` accepts both ids, and two guarded updates
towards the same ids commute. -/
theorem runWalks_perm {d : Dirs} {logDir : Path} {cu cg : Int} {W W' : List (Path × Int × Int)}
    (hW : W.Perm (remapWalks d logDir cu cg)) (hW' : W'.Perm (remapWalks d logDir cu cg)) {fs fs' : Fs}
    (h : runWalks uid gid W fs = .ok fs') : runWalks uid gid W' fs = .ok fs' := by
  have hres := foldlM_walks_resolves W fs fs' h
  obtain ⟨_, _, -, hhome⟩ := runWalks_calls h (d.home, -1, -1) (hW.symm.subset (by simp [remapWalks]))
  obtain ⟨hu, hg⟩ := recursiveChown_unguarded_ok hhome
  rw [runWalks_eq hu hg W fs hres] at h
  rw [runWalks_eq hu hg W' fs fun w hw => hres w ((hW.trans hW'.symm).symm.subset hw), ← h,
    (hW'.trans hW.symm).foldl_eq' fun _ _ _ _ _ => guardedOn_comm _ _ _ _ _]

theorem runWalks_perm_small :
    ∃ fs', runWalks 200 200 (remapWalks smallDirs ["l"] 100 100) smallFs = .ok fs' ∧
      runWalks 200 200 (remapWalks smallDirs ["l"] 100 100).reverse smallFs = .ok fs' :=
  ⟨_, rfl, runWalks_perm (List.Perm.refl _) (List.reverse_perm _) rfl⟩

end

section
variable {env : Env} {d : Dirs} {cfg : Config} {h : Host}

theorem remapIfNeeded_true_of_ok {cu cg : Nat} {h1 h2 : Host} (hu : RealId cfg.hybridConf.slurmUid)
    (hg : RealId cfg.hybridConf.slurmGid) (e : remapIfNeeded d cfg cu cg true h1 = .ok h2) :
    h2 = h1.setFs (h1.fs.withOwner (remapOwners d cfg.slurmLogDir h1.fs.root cfg.hybridConf.slurmUid
      cfg.hybridConf.slurmGid cu cg h1.fs.owner)) := by
  have hres : RemapResolves d cfg.slurmLogDir h1.fs.root := by
    rw [remapIfNeeded, if_pos rfl] at e
    cases hr : remapSlurm d cfg.slurmLogDir cfg.hybridConf.slurmUid cfg.hybridConf.slurmGid cu cg h1.fs with
    | error _ => simp [hr, Except.map] at e
    | ok _ => exact remapSlurm_resolves hr
  rw [remapIfNeeded_true_ok hu hg hres] at e
  exact (Except.ok.inj e).symm

/-- A run that returns, its commands succeeding and an id changing, leaves `migrated`. -/
theorem changeUidGidSlurm_eq_migrated (hc : IdCmdsSucceed env cfg)
    (hne : (h.slurm.uid : Int) ≠ cfg.hybridConf.slurmUid ∨ (h.slurm.gid : Int) ≠ cfg.hybridConf.slurmGid)
    {h'' : Host} (e : changeUidGidSlurm env d cfg h = .ok h'') : h'' = migrated d cfg h := by
  have ru := realId_of_idModAnswer hc.2
  have rg := realId_of_idModAnswer hc.1
  rw [changeUidGidSlurm_eq_plan hc, migPlan, if_pos hne.symm, List.foldlM_append, foldlM_idSteps ru rg] at e
  exact remapIfNeeded_true_of_ok ru rg ((remapIfNeeded_true_eq d cfg _ _ _).trans e)

/-- A run from a host whose gid is already the configured one remaps guarded by that gid, so
outside the home walk no entry's gid changes. -/
theorem changeUidGidSlurm_gid_kept (hc : IdCmdsSucceed env cfg) (hgd : (h.slurm.gid : Int) = cfg.hybridConf.slurmGid)
    {h'' : Host} (e : changeUidGidSlurm env d cfg h = .ok h'') :
    ∀ r ∉ chownReach h.fs.root d.home, (h''.fs.owner r).gid = (h.fs.owner r).gid := by
  have ru := realId_of_idModAnswer hc.2
  have rg := realId_of_idModAnswer hc.1
  intro r hr
  by_cases hud : (h.slurm.uid : Int) = cfg.hybridConf.slurmUid
  · rw [changeUidGidSlurm_eq_plan hc, migPlan_configured hgd hud] at e
    cases e; rfl
  obtain rfl := changeUidGidSlurm_eq_migrated hc (.inl hud) e
  simp only [migrated, Fs.withOwner_owner, remapOwners_apply _ ru rg, if_neg hr, guarded_realId ru rg]
  split <;> simp
  omega

/-- **A later run after a stopped one.** A run whose commands succeed is stopped after its
first `k` steps (killed, `usermod` failing after `groupmod`, or a walk raising). It has changed
the owner of no entry but those its `_my_chown` steps reached. If it had changed every id that
differed, a later run finds slurm's ids configured and its plan empty: it changes nothing, so
whatever the stopped walks had not reached keeps its old ids. If it had changed the gid only, the
later run remaps guarded by slurm's new gid: outside the home walk no entry's gid changes. -/
theorem changeUidGidSlurm_retry (hc : IdCmdsSucceed env cfg) {k : Nat} {h' : Host}
    (hk : ((migPlan d cfg h).take k).foldlM MigStep.run h = .ok h') :
    (∀ r ∉ ((migPlan d cfg h).take k).flatMap (MigStep.reach h.fs.root), h'.fs.owner r = h.fs.owner r) ∧
    ((idSteps cfg h).length ≤ k → changeUidGidSlurm env d cfg h' = .ok h') ∧
    (0 < k → k < (idSteps cfg h).length → ∀ h'', changeUidGidSlurm env d cfg h' = .ok h'' →
      ∀ r ∉ chownReach h.fs.root d.home, (h''.fs.owner r).gid = (h.fs.owner r).gid) := by
  have ru := realId_of_idModAnswer hc.2
  have rg := realId_of_idModAnswer hc.1
  refine ⟨(foldlM_run_frame _ h h' hk).2, fun hle => ?_, fun hk0 hklt h'' e r hr => ?_⟩
  · rw [migPlan, List.take_append_eq_append_take, List.take_of_length_le hle, List.foldlM_append,
      foldlM_idSteps ru rg] at hk
    have hs := foldlM_chown_slurm _ _ h' (fun s hs => ?_) hk
    · rw [changeUidGidSlurm_eq_plan hc, migPlan_configured (by rw [hs]; exact Int.toNat_of_nonneg rg.1)
        (by rw [hs]; exact Int.toNat_of_nonneg ru.1)]
      rfl
    · have hs := List.mem_of_mem_take hs
      split at hs
      · exact remapSteps_isChown s hs
      · simp at hs
  · by_cases hgd : (h.slurm.gid : Int) = cfg.hybridConf.slurmGid
    · simp [idSteps, hgd] at hklt; split at hklt <;> simp at hklt; omega
    by_cases hud : (h.slurm.uid : Int) = cfg.hybridConf.slurmUid
    · simp [idSteps, hud] at hklt; split at hklt <;> simp at hklt; omega
    obtain rfl : k = 1 := by simp [idSteps, hgd, hud] at hklt; omega
    simp [migPlan, idSteps, hgd, hud, MigStep.run, pure, Except.pure, bind, Except.bind] at hk
    subst hk
    exact changeUidGidSlurm_gid_kept hc (by simpa using Int.toNat_of_nonneg rg.1) e r hr

theorem changeUidGidSlurm_retry_small :
    (∀ r ∉ ((migPlan smallDirs smallCfg smallHost).take 1).flatMap (MigStep.reach smallFs.root),
      (smallHost.setSlurmGid 200).fs.owner r = smallFs.owner r) ∧
    ((idSteps smallCfg smallHost).length ≤ 1 →
      changeUidGidSlurm quietEnv smallDirs smallCfg (smallHost.setSlurmGid 200) = .ok (smallHost.setSlurmGid 200)) ∧
    (0 < 1 → 1 < (idSteps smallCfg smallHost).length → ∀ h'',
      changeUidGidSlurm quietEnv smallDirs smallCfg (smallHost.setSlurmGid 200) = .ok h'' →
      ∀ r ∉ chownReach smallFs.root ["h"], (h''.fs.owner r).gid = (smallFs.owner r).gid) :=
  changeUidGidSlurm_retry (by decide) rfl

/-- Stopped after `groupmod` and `usermod`, before any walk: a later run changes nothing, so
slurm's file `/e/g` keeps `100:100` where one uninterrupted run gives it `200:200`. -/
theorem changeUidGidSlurm_stopped_small :
    ∃ h2 h3 h4, ((migPlan smallDirs smallCfg smallHost).take 2).foldlM MigStep.run smallHost = .ok h2 ∧
      changeUidGidSlurm quietEnv smallDirs smallCfg h2 = .ok h3 ∧
      changeUidGidSlurm quietEnv smallDirs smallCfg smallHost = .ok h4 ∧
      h3.fs.owner ["e", "g"] = ⟨100, 100⟩ ∧ h4.fs.owner ["e", "g"] = ⟨200, 200⟩ :=
  ⟨_, _, _, rfl, rfl, rfl, rfl, rfl⟩

end

end SlurmSetup